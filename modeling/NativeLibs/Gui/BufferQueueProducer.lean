import NativeLibs.Ui.RegionOperator
import NativeLibs.Gui.BufferQueueCore

/-! # The producer's end

`BufferQueueProducer.cpp`. A call that may block on `mDequeueCondition` is split
where it waits: the call reports `waiting`, and the part behind the wait is an entry
point of its own, to be run when the condition is signalled. What the environment
decides (whether a timed wait expires, what an allocation returns, who is calling)
is an argument. -/

namespace NativeLibs.Gui

open NativeLibs.Ui BufferState

def bqLayerCount : UInt32 := 1

def transformRot90 : UInt32 := 4

def transformInverseDisplay : UInt32 := 8

def isKnownApi (api : Int) : Bool := api == 1 || api == 2 || api == 3 || api == 4

def isKnownScalingMode (scalingMode : Int) : Bool :=
  scalingMode == 0 || scalingMode == 1 || scalingMode == 2 || scalingMode == 3

structure BufferRequest where
  width : UInt32
  height : UInt32
  format : Int
  usage : UInt64
  deriving DecidableEq, Repr

abbrev Allocation := Except Int Nat

variable (request : BufferRequest)

def BufferRequest.misses (buffer : GraphicBuffer) : Bool :=
  buffer.needsReallocation request.width request.height request.format bqLayerCount request.usage

def BufferRequest.create (id : Nat) (generation : UInt32) : GraphicBuffer :=
  ⟨id, request.width, request.height, request.format, bqLayerCount, request.usage, generation⟩

structure DequeueOutput where
  outSlot : Slot
  outFence : Fence
  outBufferAge : Nat
  /-- `BUFFER_NEEDS_REALLOCATION` in the returned flags. -/
  needsReallocation : Bool
  deriving DecidableEq, Repr

structure QueueBufferInput where
  timestamp : Int
  isAutoTimestamp : Bool
  dataSpace : Int
  crop : Rect
  scalingMode : Int
  transform : UInt32
  stickyTransform : UInt32
  fence : Option Fence
  surfaceDamage : Region
  deriving DecidableEq, Repr

structure QueueBufferOutput where
  width : UInt32
  height : UInt32
  transformHint : UInt32
  numPendingBuffers : Nat
  nextFrameNumber : Nat
  bufferReplaced : Bool
  maxBufferCount : Int
  deriving DecidableEq, Repr

inductive FreeSlotCaller where
  | dequeue
  | attach
  deriving DecidableEq, Repr

inductive DisconnectMode where
  | api
  | allLocal
  deriving DecidableEq, Repr

namespace SlotPool

variable (pool : SlotPool)

def getFreeBufferLocked : Option (Slot × SlotPool) :=
  match pool.mFreeBuffers with
  | [] => none
  | slot :: rest => some (slot, { pool with mFreeBuffers := rest })

def getFreeSlotLocked : Option (Slot × SlotPool) :=
  match pool.mFreeSlots.min with
  | none => none
  | some slot => some (slot, { pool with mFreeSlots := pool.mFreeSlots.erase slot })

variable (caller : FreeSlotCaller) (allowAllocation : Bool)

/-- The choice among free slots inside `waitForFreeSlotThenRelock`: dequeueing
prefers free buffers, attaching prefers free slots. -/
def takeFreeSlot : Option (Slot × SlotPool) :=
  match caller with
  | .dequeue =>
    match pool.getFreeBufferLocked with
    | some found => some found
    | none => if allowAllocation then pool.getFreeSlotLocked else none
  | .attach =>
    match pool.getFreeSlotLocked with
    | some found => some found
    | none => pool.getFreeBufferLocked

/-- In shared buffer mode a shared buffer is returned again and again. -/
def findFreeSlot : Option (Slot × SlotPool) :=
  match pool.mSharedBufferMode, pool.mSharedBufferSlot with
  | true, some shared => some (shared, pool)
  | _, _ => pool.takeFreeSlot caller allowAllocation

def freeSlot (slot : Slot) : SlotPool :=
  { pool with mFreeSlots := insert slot pool.mFreeSlots }.clearBufferSlotLocked slot

/-- The first item to be queued or slot to be dequeued in shared buffer mode makes
its slot the shared one. -/
def adoptShared (slot : Slot) : SlotPool :=
  if pool.mSharedBufferMode ∧ pool.mSharedBufferSlot = none then
    { pool.updateState slot fun state => { state with mShared := true } with
      mSharedBufferSlot := some slot }
  else pool

end SlotPool

namespace BufferQueue

variable (pool : SlotPool) (queue : BufferQueue)

def requestBuffer (slot : Int) : Status × Option GraphicBuffer × BufferQueue :=
  if queue.mIsAbandoned then (.noInit, none, queue)
  else if queue.mConnectedApi = noConnectedApi then (.noInit, none, queue)
  else match Slot.ofInt slot with
  | none => (.badValue, none, queue)
  | some slot =>
    if !(queue.pool.state slot).isDequeued then (.badValue, none, queue)
    else (.noError, (queue.pool.mSlots slot).mGraphicBuffer, { queue with
        pool := queue.pool.updateSlot slot fun s => { s with mRequestBufferCalled := true } })

def setMaxDequeuedBufferCount (maxDequeuedBuffers : Int) : Status × BufferQueue :=
  let bufferCount := queue.getMinUndequeuedBufferCountLocked + maxDequeuedBuffers
  if queue.mIsAbandoned then (.noInit, queue)
  else if maxDequeuedBuffers = queue.mMaxDequeuedBufferCount then (.noError, queue)
  else if queue.pool.dequeuedCount > maxDequeuedBuffers then (.badValue, queue)
  else if bufferCount > numBufferSlots then (.badValue, queue)
  else if bufferCount < queue.getMinMaxBufferCountLocked then (.badValue, queue)
  else if bufferCount > queue.mMaxBufferCount then (.badValue, queue)
  else queue.adjustThen (maxDequeuedBuffers - queue.mMaxDequeuedBufferCount) fun queue =>
    { queue with mMaxDequeuedBufferCount := maxDequeuedBuffers }

def setAsyncMode (async : Bool) : Status × BufferQueue :=
  if queue.mIsAbandoned then (.noInit, queue)
  else if async = queue.mAsyncMode then (.noError, queue)
  else if queue.bufferDemand async queue.mDequeueBufferCannotBlock > queue.mMaxBufferCount then
    (.badValue, queue)
  else queue.adjustThen
    (queue.getMaxBufferCountFor async queue.mDequeueBufferCannotBlock queue.mMaxBufferCount -
      queue.getMaxBufferCountLocked) fun queue => { queue with mAsyncMode := async }

/-- The slot one pass of `waitForFreeSlotThenRelock` finds. With too many items in
the queue it does not look for one. -/
def chooseSlot (pool : SlotPool) (caller : FreeSlotCaller) : Option (Slot × SlotPool) :=
  if pool.mQueue.length > queue.getMaxBufferCountLocked.toNat then none
  else pool.findFreeSlot caller queue.mAllowAllocation

/-- What happens when no slot was found: an error where blocking is not allowed, else
a wait, which `timesOut` says whether it expires. -/
def waitStatus (pool : SlotPool) (timesOut : Bool) : Status :=
  if (queue.mDequeueBufferCannotBlock || queue.mAsyncMode) ∧
      (pool.acquiredCount : Int) ≤ queue.mMaxAcquiredBufferCount then
    .wouldBlock
  else if 0 ≤ queue.mDequeueTimeout ∧ timesOut then .timedOut
  else .waiting

/-- One pass of `waitForFreeSlotThenRelock`, up to the wait. Nothing has changed when
it fails or waits. -/
def waitForFreeSlotThenRelock (pool : SlotPool) (caller : FreeSlotCaller) (timesOut : Bool) :
    Except Status (Slot × SlotPool) :=
  if queue.mIsAbandoned then .error .noInit
  else if queue.mBufferHasBeenQueued ∧ queue.mMaxDequeuedBufferCount ≤ pool.dequeuedCount then
    .error .invalidOperation
  else
    match queue.chooseSlot pool caller with
    | some found => .ok found
    | none => .error (queue.waitStatus pool timesOut)

/-! ## Dequeueing -/

/-- The loop of `dequeueBuffer` that looks for a slot. Where allocation is not
allowed, a buffer that does not serve the request is freed and the next one is
tried, so that the length of `mFreeBuffers` bounds the number of rounds. -/
def findBuffer (queue : BufferQueue) (request : BufferRequest) (timesOut : Bool) :
    Nat → SlotPool → Except Status Slot × SlotPool
  | 0, pool => (.error .outOfBudget, pool)
  | budget + 1, pool =>
    match queue.waitForFreeSlotThenRelock pool .dequeue timesOut with
    | .error status => (.error status, pool)
    | .ok (found, pool) =>
      if queue.mAllowAllocation then (.ok found, pool)
      else match (pool.mSlots found).mGraphicBuffer with
      | none => (.error .nullDereference, pool)
      | some buffer =>
        if request.misses buffer then
          if pool.mSharedBufferSlot = some found then (.error .badValue, pool)
          else findBuffer queue request timesOut budget (pool.freeSlot found)
        else (.ok found, pool)

variable (slot : BufferSlot)

def mustAllocate (request : BufferRequest) : Bool :=
  match slot.mGraphicBuffer with
  | none => true
  | some buffer => request.misses buffer

def dequeuedSlot (request : BufferRequest) : BufferSlot :=
  let dequeued :=
    { slot with mNeedsReallocation := false, mBufferState := slot.mBufferState.dequeue }
  if mustAllocate slot request then
    { dequeued with
      mAcquireCalled := false
      mGraphicBuffer := none
      mRequestBufferCalled := false
      mFence := Fence.noFence }
  else { dequeued with mFence := Fence.noFence }

def dequeuedPool (found : Slot) (request : BufferRequest) : SlotPool :=
  let dequeued := pool.updateSlot found fun slot => dequeuedSlot slot request
  let active :=
    if pool.mSharedBufferSlot ≠ some found then
      { dequeued with mActiveBuffers := insert found pool.mActiveBuffers }
    else dequeued
  active.adoptShared found

variable (queue : BufferQueue)

def dequeueOutput (pool : SlotPool) (found : Slot) (request : BufferRequest) : DequeueOutput :=
  let slot := pool.mSlots found
  let allocates := mustAllocate slot request
  { outSlot := found
    outFence :=
      if allocates ∨ pool.mSharedBufferMode ∧ pool.mSharedBufferSlot = some found then Fence.noFence
      else slot.mFence
    outBufferAge := if allocates then 0 else queue.mFrameCounter + 1 - slot.mFrameNumber
    needsReallocation := allocates || slot.mNeedsReallocation }

/-- The new buffer goes into the slot that was dequeued. When there is none, or the
queue has been abandoned, the slot is put into `mFreeSlots` and cleared. -/
def allocateDequeued (pool : SlotPool) (found : Slot) (request : BufferRequest) :
    Allocation → Status × SlotPool
  | .error error => (.allocationFailed error, pool.freeSlot found)
  | .ok id =>
    if queue.mIsAbandoned then (.noInit, pool.freeSlot found)
    else (.noError, pool.updateSlot found fun slot =>
      { slot with mGraphicBuffer := some (request.create id queue.mGenerationNumber) })

/-- The rest of `dequeueBuffer`, once a slot has been found and accepted. -/
def dequeueFound (pool : SlotPool) (found : Slot) (request : BufferRequest)
    (allocation : Allocation) : Status × Option DequeueOutput × BufferQueue :=
  let output := queue.dequeueOutput pool found request
  let taken := dequeuedPool pool found request
  let settled :=
    if mustAllocate (pool.mSlots found) request then
      queue.allocateDequeued taken found request allocation
    else (.noError, taken)
  (settled.1, if settled.1 = .noError then some output else none,
    { queue with pool := settled.2, mBufferAge := output.outBufferAge })

variable (request : BufferRequest) (allocation : Allocation) (timesOut : Bool)

/-- `dequeueBuffer` from the point where it looks for a slot, with the request it
has completed from the defaults; also where a call that waited goes on. -/
def dequeueResume : Status × Option DequeueOutput × BufferQueue :=
  match queue.findBuffer request timesOut (queue.pool.mFreeBuffers.length + 1) queue.pool with
  | (.error status, pool) => (status, none, { queue with pool := pool })
  | (.ok found, pool) =>
    if pool.mSharedBufferSlot = some found then
      match (pool.mSlots found).mGraphicBuffer with
      | none => (.nullDereference, none, { queue with pool := pool })
      | some buffer =>
        if request.misses buffer then (.badValue, none, { queue with pool := pool })
        else queue.dequeueFound pool found request allocation
    else queue.dequeueFound pool found request allocation

def completeRequest : BufferRequest :=
  let swapped := queue.mAutoPrerotation ∧ queue.mTransformHintInUse &&& transformRot90 ≠ 0
  let useDefaultSize := request.width = 0 ∧ request.height = 0
  let size :=
    if useDefaultSize then
      if swapped then (queue.mDefaultHeight, queue.mDefaultWidth)
      else (queue.mDefaultWidth, queue.mDefaultHeight)
    else (request.width, request.height)
  { width := size.1
    height := size.2
    format := if request.format = 0 then queue.mDefaultBufferFormat else request.format
    usage := request.usage ||| queue.mConsumerUsageBits }

def dequeueBuffer : Status × Option DequeueOutput × BufferQueue :=
  if queue.mIsAbandoned then (.noInit, none, queue)
  else if queue.mConnectedApi = noConnectedApi then (.noInit, none, queue)
  else if (request.width ≠ 0 ∧ request.height = 0) ∨ (request.width = 0 ∧ request.height ≠ 0) then
    (.badValue, none, queue)
  else queue.dequeueResume (queue.completeRequest request) allocation timesOut

/-! ## Detaching and attaching -/

def detachBuffer (slot : Int) : Status × BufferQueue :=
  if queue.mIsAbandoned then (.noInit, queue)
  else if queue.mConnectedApi = noConnectedApi then (.noInit, queue)
  else if queue.pool.mSharedBufferMode then (.badValue, queue)
  else match Slot.ofInt slot with
  | none => (.badValue, queue)
  | some slot =>
    if queue.pool.mSharedBufferSlot = some slot then (.badValue, queue)
    else if !(queue.pool.state slot).isDequeued then (.badValue, queue)
    else if !(queue.pool.mSlots slot).mRequestBufferCalled then (.badValue, queue)
    else
      let detached := queue.pool.updateState slot detachProducer
      (.noError, { queue with
        pool := { detached with mActiveBuffers := detached.mActiveBuffers.erase slot }.freeSlot
          slot })

def detachNextBuffer : Status × Option (Option GraphicBuffer × Fence) × BufferQueue :=
  if queue.mIsAbandoned then (.noInit, none, queue)
  else if queue.mConnectedApi = noConnectedApi then (.noInit, none, queue)
  else if queue.pool.mSharedBufferMode then (.badValue, none, queue)
  else match queue.pool.mFreeBuffers with
  | [] => (.noMemory, none, queue)
  | found :: _ =>
    let slot := queue.pool.mSlots found
    (.noError, some (slot.mGraphicBuffer, slot.mFence), { queue with
      pool := { queue.pool with
        mFreeBuffers := queue.pool.mFreeBuffers.filter (· ≠ found) }.freeSlot found })

def attachedSlot (buffer : GraphicBuffer) (slot : BufferSlot) : BufferSlot :=
  { slot with
    mGraphicBuffer := some buffer
    mBufferState := slot.mBufferState.attachProducer
    mFence := Fence.noFence
    mRequestBufferCalled := true
    mAcquireCalled := false
    mNeedsReallocation := false }

def attachedPool (found : Slot) (buffer : GraphicBuffer) : SlotPool :=
  { pool.updateSlot found (attachedSlot buffer) with
    mActiveBuffers := insert found pool.mActiveBuffers }

def attachResume (buffer : GraphicBuffer) (timesOut : Bool) : Status × Option Slot × BufferQueue :=
  match queue.waitForFreeSlotThenRelock queue.pool .attach timesOut with
  | .error status => (status, none, queue)
  | .ok (found, pool) => (.noError, some found, { queue with pool := attachedPool pool found buffer })

def attachBuffer (buffer : Option GraphicBuffer) (timesOut : Bool) :
    Status × Option Slot × BufferQueue :=
  match buffer with
  | none => (.badValue, none, queue)
  | some buffer =>
    if queue.mIsAbandoned then (.noInit, none, queue)
    else if queue.mConnectedApi = noConnectedApi then (.noInit, none, queue)
    else if queue.pool.mSharedBufferMode then (.badValue, none, queue)
    else if buffer.mGenerationNumber ≠ queue.mGenerationNumber then (.badValue, none, queue)
    else queue.attachResume buffer timesOut

/-! ## Queueing and cancelling -/

def queuedItem (slot : Slot) (input : QueueBufferInput) (fence : Fence) : BufferItem where
  mGraphicBuffer := (queue.pool.mSlots slot).mGraphicBuffer
  mFence := fence
  mCrop := input.crop
  mTransform := input.transform &&& ~~~transformInverseDisplay
  mScalingMode := input.scalingMode.toNat.toUInt32
  mTimestamp := input.timestamp
  mIsAutoTimestamp := input.isAutoTimestamp
  mDataSpace := if input.dataSpace = 0 then queue.mDefaultBufferDataSpace else input.dataSpace
  mFrameNumber := queue.mFrameCounter + 1
  mSlot := slot
  mIsDroppable := queue.mAsyncMode ||
    (queue.mConsumerIsSurfaceFlinger && queue.mQueueBufferCanDrop) ||
    (queue.mLegacyBufferDrop && queue.mQueueBufferCanDrop) ||
    (queue.pool.mSharedBufferMode && queue.pool.mSharedBufferSlot == some slot)
  mAcquireCalled := (queue.pool.mSlots slot).mAcquireCalled
  mTransformToDisplayInverse := decide (input.transform &&& transformInverseDisplay ≠ 0)
  mSurfaceDamage := input.surfaceDamage
  mAutoRefresh := queue.pool.mSharedBufferMode && queue.mAutoRefresh
  mQueuedBuffer := true
  mIsStale := false
  mApi := queue.mConnectedApi

def mergedDamage (item last : Region) : Region :=
  if last.getBounds = Rect.invalidRect ∨ item.getBounds = Rect.invalidRect then
    Region.ofRect Rect.invalidRect
  else (item.orSelf last).getD item

variable (item : BufferItem)

/-- Let go of the slot of a waiting item that is dropped. The slot of a stale item
is no longer this item's. -/
def dropItem : SlotPool :=
  if item.mIsStale then pool
  else (pool.updateState item.mSlot freeQueued).recycle item.mSlot

/-- Append the item to the queue, or let it replace a droppable last item. -/
def enqueue : SlotPool :=
  match pool.mQueue.getLast? with
  | none => { pool with mQueue := [item] }
  | some last =>
    if last.mIsDroppable then
      { dropItem pool last with
        mQueue := pool.mQueue.dropLast ++
          [{ item with mSurfaceDamage := mergedDamage item.mSurfaceDamage last.mSurfaceDamage }] }
    else { pool with mQueue := pool.mQueue ++ [item] }

def replacedItem : Option BufferItem :=
  pool.mQueue.getLast?.filter fun last => last.mIsDroppable

def bufferReplaced : Bool :=
  match replacedItem pool with
  | none => false
  | some last => !last.mIsStale && !((dropItem pool last).state last.mSlot).isShared

def queuedSlot : SlotPool :=
  pool.updateSlot item.mSlot fun slot =>
    { slot with
      mFence := item.mFence
      mBufferState := slot.mBufferState.queue
      mFrameNumber := item.mFrameNumber }

def queuedPool : SlotPool :=
  { enqueue (queuedSlot pool item) item with mLastQueuedSlot := some item.mSlot }

def queueAccepted (slot : Slot) (input : QueueBufferInput) (fence : Fence)
    (output : QueueBufferOutput) : Status × QueueBufferOutput × BufferQueue :=
  let item := queue.queuedItem slot input fence
  let pool := queuedPool queue.pool item
  (.noError, { output with
      width := queue.mDefaultWidth
      height := queue.mDefaultHeight
      transformHint := queue.mTransformHint
      numPendingBuffers := pool.mQueue.length
      nextFrameNumber := queue.mFrameCounter + 1 + 1
      bufferReplaced := bufferReplaced (queuedSlot queue.pool item) },
    { queue with
      pool := pool
      mFrameCounter := queue.mFrameCounter + 1
      mStickyTransform := input.stickyTransform
      mSharedBufferCache :=
        if queue.pool.mSharedBufferMode then
          ⟨item.mCrop, input.transform, item.mScalingMode, item.mDataSpace⟩
        else queue.mSharedBufferCache
      mBufferHasBeenQueued := true
      mTransformHintInUse := queue.mTransformHint })

def queueBuffer (slot : Int) (input : QueueBufferInput) (output : QueueBufferOutput) :
    Status × QueueBufferOutput × BufferQueue :=
  match input.fence with
  | none => (.badValue, output, queue)
  | some fence =>
    if !isKnownScalingMode input.scalingMode then (.badValue, output, queue)
    else if queue.mIsAbandoned then (.noInit, output, queue)
    else if queue.mConnectedApi = noConnectedApi then (.noInit, output, queue)
    else match Slot.ofInt slot with
    | none => (.badValue, output, queue)
    | some slot =>
      if !(queue.pool.state slot).isDequeued then (.badValue, output, queue)
      else if !(queue.pool.mSlots slot).mRequestBufferCalled then (.badValue, output, queue)
      else
        -- The slot becomes the shared one before the crop is checked.
        let queue := { queue with pool := queue.pool.adoptShared slot }
        match (queue.pool.mSlots slot).mGraphicBuffer with
        | none => (.nullDereference, output, queue)
        | some buffer =>
          let bufferRect := Rect.ofSize buffer.width.toNat buffer.height.toNat
          if (input.crop.intersect bufferRect).2 ≠ input.crop then (.badValue, output, queue)
          else queue.queueAccepted slot input fence output

def cancelBuffer (slot : Int) (fence : Option Fence) : Status × BufferQueue :=
  if queue.mIsAbandoned then (.noInit, queue)
  else if queue.mConnectedApi = noConnectedApi then (.noInit, queue)
  else if queue.pool.mSharedBufferMode then (.badValue, queue)
  else match Slot.ofInt slot with
  | none => (.badValue, queue)
  | some slot =>
    if !(queue.pool.state slot).isDequeued then (.badValue, queue)
    else match fence with
    | none => (.badValue, queue)
    | some fence =>
      let recycled := (queue.pool.updateState slot cancel).recycle slot
      (.noError, { queue with
        pool := recycled.updateSlot slot fun s => { s with mFence := fence } })

/-! ## Connecting and disconnecting -/

def connectedSettings (api : Int) (bothByApp : Bool) (callingPid : Int) (queue : BufferQueue) :
    BufferQueue :=
  { queue with
    mConnectedApi := if isKnownApi api then api else queue.mConnectedApi
    mTransformHintInUse :=
      if isKnownApi api then queue.mTransformHint else queue.mTransformHintInUse
    mConnectedPid := callingPid
    mBufferHasBeenQueued := false
    mDequeueBufferCannotBlock := bothByApp && decide (queue.mDequeueTimeout < 0)
    mQueueBufferCanDrop := bothByApp && decide (queue.mDequeueTimeout ≤ 0)
    mLegacyBufferDrop := true
    mAllowAllocation := true }

variable (queue : BufferQueue) (api : Int) (producerControlledByApp : Bool) (callingPid : Int)

/-- The adjustment of the slots inside `connect`. -/
def connectAdjusted : Status × BufferQueue :=
  let bothByApp := queue.mConsumerControlledByApp && producerControlledByApp
  let cannotBlock := if queue.mDequeueTimeout < 0 then bothByApp else false
  queue.adjustThen (queue.getMaxBufferCountFor queue.mAsyncMode cannotBlock queue.mMaxBufferCount -
      queue.getMaxBufferCountLocked) (connectedSettings api bothByApp callingPid)

/-- `connect(listener, api, producerControlledByApp, output)`. `linkStatus` is what
`linkToDeath` on the listener returned. -/
def connect (linkStatus : Status) (output : QueueBufferOutput) :
    Status × QueueBufferOutput × BufferQueue :=
  if queue.mIsAbandoned then (.noInit, output, queue)
  else if !queue.mConsumerListener then (.noInit, output, queue)
  else if queue.mConnectedApi ≠ noConnectedApi then (.badValue, output, queue)
  else
    let adjusted := queue.connectAdjusted api producerControlledByApp callingPid
    if adjusted.1 ≠ .noError then (adjusted.1, output, adjusted.2)
    else if !isKnownApi api then (.badValue, output, adjusted.2)
    else
      (linkStatus,
        { width := queue.mDefaultWidth
          height := queue.mDefaultHeight
          transformHint := queue.mTransformHint
          numPendingBuffers := queue.pool.mQueue.length
          nextFrameNumber := queue.mFrameCounter + 1
          bufferReplaced := false
          maxBufferCount := queue.mMaxBufferCount },
        adjusted.2)

def disconnected : BufferQueue :=
  { queue with
    pool := { queue.pool.freeAllBuffersLocked with mSharedBufferSlot := none }
    mConnectedApi := noConnectedApi
    mConnectedPid := -1
    mAutoPrerotation := false }

def disconnect (mode : DisconnectMode) (callingPid : Int) : Status × BufferQueue :=
  if mode = .allLocal ∧ callingPid ≠ queue.mConnectedPid then (.noError, queue)
  else if queue.mIsAbandoned then (.noError, queue)
  else
    let current := mode = .allLocal ∨ api = currentlyConnectedApi
    if current ∧ queue.mConnectedApi = noConnectedApi then (.noError, queue)
    else
      let api := if current then queue.mConnectedApi else api
      if !isKnownApi api then (.badValue, queue)
      else if queue.mConnectedApi = api then (.noError, queue.disconnected)
      else if queue.mConnectedApi = noConnectedApi then (.noInit, queue)
      else (.badValue, queue)

/-! ## Allocating ahead -/

def completeAllocation (request : BufferRequest) : BufferRequest :=
  let width := if 0 < request.width then request.width else queue.mDefaultWidth
  let height := if 0 < request.height then request.height else queue.mDefaultHeight
  let swapped := (request.width = 0 ∧ request.height = 0) ∧ queue.mAutoPrerotation ∧
    queue.mTransformHintInUse &&& transformRot90 ≠ 0
  { width := if swapped then height else width
    height := if swapped then width else height
    format := if request.format ≠ 0 then request.format else queue.mDefaultBufferFormat
    usage := request.usage ||| queue.mConsumerUsageBits }

def allocateInto (slot : Slot) (buffer : GraphicBuffer) : SlotPool :=
  { (pool.clearBufferSlotLocked slot).updateSlot slot fun s =>
      { s with mGraphicBuffer := some buffer, mFence := Fence.noFence } with
    mFreeBuffers := slot :: pool.mFreeBuffers }

/-- The loop of `allocateBuffers`: one buffer a round until no free slot is left or
an allocation fails. `allocations` gives the result of each round. -/
def allocateLoop (request : BufferRequest) : List Allocation → SlotPool → SlotPool
  | [], pool => pool
  | allocation :: allocations, pool =>
    match pool.mFreeSlots.min, allocation with
    | some slot, .ok id =>
      allocateLoop request allocations
        (allocateInto { pool with mFreeSlots := pool.mFreeSlots.erase slot } slot
          (request.create id 0))
    | _, _ => pool

def allocateBuffers (request : BufferRequest) (allocations : Nat → Allocation) : BufferQueue :=
  if !queue.mAllowAllocation then queue
  else
    { queue with
      pool := allocateLoop (queue.completeAllocation request)
        ((List.range queue.pool.mFreeSlots.card).map allocations) queue.pool }

/-! ## Settings -/

def setSharedBufferMode (sharedBufferMode : Bool) : Status × BufferQueue :=
  (.noError, { queue with
    pool := { queue.pool with
      mSharedBufferSlot := if !sharedBufferMode then none else queue.pool.mSharedBufferSlot
      mSharedBufferMode := sharedBufferMode } })

def setDequeueTimeout (timeout : Int) : Status × BufferQueue :=
  let cannotBlock := if 0 ≤ timeout then false else queue.mDequeueBufferCannotBlock
  queue.adjustThen (queue.getMaxBufferCountFor queue.mAsyncMode cannotBlock queue.mMaxBufferCount -
      queue.getMaxBufferCountLocked) fun queue =>
    { queue with
      mDequeueTimeout := timeout
      mDequeueBufferCannotBlock := cannotBlock
      mQueueBufferCanDrop := if 0 < timeout then false else queue.mQueueBufferCanDrop }

def allowAllocation (allow : Bool) : Status × BufferQueue :=
  (.noError, { queue with mAllowAllocation := allow })

def setGenerationNumber (generationNumber : UInt32) : Status × BufferQueue :=
  (.noError, { queue with mGenerationNumber := generationNumber })

def setAutoRefresh (autoRefresh : Bool) : Status × BufferQueue :=
  (.noError, { queue with mAutoRefresh := autoRefresh })

def setLegacyBufferDrop (drop : Bool) : Status × BufferQueue :=
  (.noError, { queue with mLegacyBufferDrop := drop })

def setAutoPrerotation (autoPrerotation : Bool) : Status × BufferQueue :=
  (.noError, { queue with mAutoPrerotation := autoPrerotation })

end BufferQueue

end NativeLibs.Gui
