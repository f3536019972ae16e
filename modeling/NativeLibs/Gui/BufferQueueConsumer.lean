import NativeLibs.Gui.BufferQueueProducer
import NativeLibs.Foundation.Machine

/-! # The consumer's end

`BufferQueueConsumer.cpp`. Where both ends have an entry point of one name, the
consumer's carries `consumer` in front. -/

namespace NativeLibs.Gui

open NativeLibs.Ui BufferState

def maxReasonableNsec : Int := 1000000000

namespace BufferQueue

variable (queue : BufferQueue) (pool : SlotPool)

/-! ## Acquiring -/

/-- Whether the drop loop of `acquireBuffer` stops at `next`, the item behind the
front. -/
def keepsFront (expectedPresent : Int) (maxFrameNumber : Nat) (next : BufferItem) : Bool :=
  (maxFrameNumber ≠ 0 && maxFrameNumber < next.mFrameNumber) ||
    next.mTimestamp < expectedPresent - maxReasonableNsec || expectedPresent < next.mTimestamp

/-- The drop loop of `acquireBuffer` on the queue: the items it drops, and those it
leaves. The front goes as long as the item behind it is timely. -/
def dropLoop (expectedPresent : Int) (maxFrameNumber : Nat) :
    List BufferItem → List BufferItem × List BufferItem
  | front :: next :: rest =>
    if front.mIsAutoTimestamp || keepsFront expectedPresent maxFrameNumber next then
      ([], front :: next :: rest)
    else
      let later := dropLoop expectedPresent maxFrameNumber (next :: rest)
      (front :: later.1, later.2)
  | queue => ([], queue)

variable (expectedPresent : Int) (maxFrameNumber : Nat)

def dropped : List BufferItem × List BufferItem :=
  if expectedPresent = 0 then ([], queue.pool.mQueue)
  else dropLoop expectedPresent maxFrameNumber queue.pool.mQueue

def droppedPool (items rest : List BufferItem) : SlotPool :=
  { items.foldl dropItem pool with mQueue := rest }

def isDeferred (front : BufferItem) : Bool :=
  let bufferIsDue := decide (front.mTimestamp ≤ expectedPresent) ||
    decide (expectedPresent + maxReasonableNsec < front.mTimestamp)
  let consumerIsReady :=
    if 0 < maxFrameNumber then decide (front.mFrameNumber ≤ maxFrameNumber) else true
  expectedPresent ≠ 0 && (!bufferIsDue || !consumerIsReady)

/-- The item of the shared buffer, made up from what was cached when it was last
queued. The other fields stay as the caller passed them. -/
def sharedItem (slot : Slot) (outBuffer : BufferItem) : BufferItem :=
  { outBuffer with
    mGraphicBuffer := (queue.pool.mSlots slot).mGraphicBuffer
    mFence := Fence.noFence
    mCrop := queue.mSharedBufferCache.crop
    mTransform := queue.mSharedBufferCache.transform &&& ~~~transformInverseDisplay
    mScalingMode := queue.mSharedBufferCache.scalingMode
    mDataSpace := queue.mSharedBufferCache.dataspace
    mFrameNumber := queue.mFrameCounter
    mSlot := slot
    mAcquireCalled := (queue.pool.mSlots slot).mAcquireCalled
    mTransformToDisplayInverse :=
      decide (queue.mSharedBufferCache.transform &&& transformInverseDisplay ≠ 0)
    mSurfaceDamage := Region.ofRect Rect.invalidRect
    mQueuedBuffer := false
    mIsStale := false
    mAutoRefresh := queue.pool.mSharedBufferMode && queue.mAutoRefresh }

def acquiredSlot (slot : Slot) (acquire : BufferState → BufferState) : SlotPool :=
  pool.updateSlot slot fun s =>
    { s with
      mAcquireCalled := true
      mBufferState := acquire s.mBufferState
      mFence := Fence.noFence }

def sentItem (item : BufferItem) : BufferItem :=
  { item with mGraphicBuffer := if item.mAcquireCalled then none else item.mGraphicBuffer }

/-- The shared slot, when the consumer may take it without a queued item. -/
def sharedBufferAvailable : Option Slot :=
  if queue.pool.mSharedBufferMode && queue.mAutoRefresh then queue.pool.mSharedBufferSlot else none

def acquireBuffer (outBuffer : BufferItem) (expectedPresent : Int) (maxFrameNumber : Nat) :
    Status × BufferItem × BufferQueue :=
  if queue.pool.acquiredCount ≥ queue.mMaxAcquiredBufferCount + 1 then
    (.invalidOperation, outBuffer, queue)
  else
    let kept := queue.dropped expectedPresent maxFrameNumber
    let pool := droppedPool queue.pool kept.1 kept.2
    match kept.2 with
    | [] =>
      match queue.sharedBufferAvailable with
      | none => (.noBufferAvailable, outBuffer, queue)
      | some slot =>
        (.noError, sentItem (queue.sharedItem slot outBuffer), { queue with
          pool := acquiredSlot queue.pool slot acquireNotInQueue })
    | front :: rest =>
      if isDeferred expectedPresent maxFrameNumber front then
        (.presentLater, outBuffer, { queue with pool := pool })
      else
        let acquired :=
          if front.mIsStale then pool
          else acquiredSlot pool front.mSlot acquire
        (.noError, sentItem front, { queue with pool := { acquired with mQueue := rest } })

/-! ## Detaching, attaching and releasing -/

def consumerDetachBuffer (slot : Int) : Status × BufferQueue :=
  if queue.mIsAbandoned then (.noInit, queue)
  else if queue.pool.mSharedBufferMode then (.badValue, queue)
  else match Slot.ofInt slot with
  | none => (.badValue, queue)
  | some slot =>
    if queue.pool.mSharedBufferSlot = some slot then (.badValue, queue)
    else if !(queue.pool.state slot).isAcquired then (.badValue, queue)
    else
      let detached := queue.pool.updateState slot detachConsumer
      (.noError, { queue with
        pool := { detached with mActiveBuffers := detached.mActiveBuffers.erase slot }.freeSlot
          slot })

/-- The slot `attachBuffer` of the consumer takes: a free one, else the front of
`mFreeBuffers`, which `remove` takes out wherever it occurs. -/
def consumerFreeSlot : Option (Slot × SlotPool) :=
  match pool.getFreeSlotLocked with
  | some found => some found
  | none =>
    match pool.mFreeBuffers with
    | [] => none
    | slot :: _ => some (slot, { pool with mFreeBuffers := pool.mFreeBuffers.filter (· ≠ slot) })

def consumerAttachedSlot (buffer : GraphicBuffer) (slot : BufferSlot) : BufferSlot :=
  { slot with
    mGraphicBuffer := some buffer
    mBufferState := slot.mBufferState.attachConsumer
    mNeedsReallocation := true
    mFence := Fence.noFence
    mFrameNumber := 0
    mAcquireCalled := false }

def consumerAttachedPool (found : Slot) (buffer : GraphicBuffer) : SlotPool :=
  { pool.updateSlot found (consumerAttachedSlot buffer) with
    mActiveBuffers := insert found pool.mActiveBuffers }

def consumerAttachBuffer (buffer : Option GraphicBuffer) : Status × Option Slot × BufferQueue :=
  match buffer with
  | none => (.badValue, none, queue)
  | some buffer =>
    if queue.pool.mSharedBufferMode then (.badValue, none, queue)
    else if queue.pool.acquiredCount ≥ queue.mMaxAcquiredBufferCount + 1 then
      (.invalidOperation, none, queue)
    else if buffer.mGenerationNumber ≠ queue.mGenerationNumber then (.badValue, none, queue)
    else match consumerFreeSlot queue.pool with
    | none => (.noMemory, none, queue)
    | some (found, pool) =>
      (.noError, some found, { queue with pool := consumerAttachedPool pool found buffer })

def releaseBuffer (slot : Int) (frameNumber : Nat) (releaseFence : Option Fence) :
    Status × BufferQueue :=
  match Slot.ofInt slot, releaseFence with
  | some slot, some fence =>
    if frameNumber ≠ (queue.pool.mSlots slot).mFrameNumber ∧
        !(queue.pool.state slot).isShared then
      (.staleBufferSlot, queue)
    else if !(queue.pool.state slot).isAcquired then (.badValue, queue)
    else
      let released := queue.pool.updateSlot slot fun s =>
        { s with mFence := fence, mBufferState := s.mBufferState.release }
      (.noError, { queue with pool := released.recycle slot })
  | _, _ => (.badValue, queue)

/-! ## Connecting, disconnecting and settings -/

def consumerConnect (hasListener controlledByApp : Bool) : Status × BufferQueue :=
  if !hasListener then (.badValue, queue)
  else if queue.mIsAbandoned then (.noInit, queue)
  else
    (.noError, { queue with
      mConsumerListener := true
      mConsumerControlledByApp := controlledByApp })

def consumerDisconnect : Status × BufferQueue :=
  if !queue.mConsumerListener then (.badValue, queue)
  else
    let freed := { queue.pool with mQueue := [] }.freeAllBuffersLocked
    (.noError, { queue with
      mIsAbandoned := true
      mConsumerListener := false
      pool := { freed with mSharedBufferSlot := none } })

def setMaxBufferCount (bufferCount : Int) : Status × BufferQueue :=
  if bufferCount < 1 ∨ bufferCount > numBufferSlots then (.badValue, queue)
  else if queue.mConnectedApi ≠ noConnectedApi then (.invalidOperation, queue)
  else if bufferCount < queue.mMaxAcquiredBufferCount then (.badValue, queue)
  else queue.adjustThen
    (queue.getMaxBufferCountFor queue.mAsyncMode queue.mDequeueBufferCannotBlock bufferCount -
      queue.getMaxBufferCountLocked) fun queue => { queue with mMaxBufferCount := bufferCount }

def setMaxAcquiredBufferCount (maxAcquiredBuffers : Int) : Status × BufferQueue :=
  if maxAcquiredBuffers < 1 ∨ maxAcquiredBuffers > maxMaxAcquiredBuffers then (.badValue, queue)
  else if queue.mIsAbandoned then (.noInit, queue)
  else if maxAcquiredBuffers = queue.mMaxAcquiredBufferCount then (.noError, queue)
  else if queue.pool.acquiredCount > maxAcquiredBuffers then (.badValue, queue)
  else if { queue with mMaxAcquiredBufferCount := maxAcquiredBuffers }.bufferDemand
      queue.mAsyncMode queue.mDequeueBufferCannotBlock > queue.mMaxBufferCount then
    (.badValue, queue)
  else queue.adjustThen (maxAcquiredBuffers - queue.mMaxAcquiredBufferCount) fun queue =>
    { queue with mMaxAcquiredBufferCount := maxAcquiredBuffers }

def discardFreeBuffers : Status × BufferQueue :=
  (.noError, { queue with pool := queue.pool.discardFreeBuffersLocked })

def setDefaultBufferSize (width height : UInt32) : Status × BufferQueue :=
  if width = 0 ∨ height = 0 then (.badValue, queue)
  else (.noError, { queue with mDefaultWidth := width, mDefaultHeight := height })

def setDefaultBufferFormat (defaultFormat : Int) : Status × BufferQueue :=
  (.noError, { queue with mDefaultBufferFormat := defaultFormat })

def setDefaultBufferDataSpace (defaultDataSpace : Int) : Status × BufferQueue :=
  (.noError, { queue with mDefaultBufferDataSpace := defaultDataSpace })

def setConsumerUsageBits (usage : UInt64) : Status × BufferQueue :=
  (.noError, { queue with mConsumerUsageBits := usage })

def setTransformHint (hint : UInt32) : Status × BufferQueue :=
  (.noError, { queue with mTransformHint := hint })

end BufferQueue

/-! ## Runs of a buffer queue

The calls of the producer and of the consumer as the labels of one machine. A call
is one step; a call that waits is a step that reports `waiting`, and a later
`dequeueResume` or `attachResume` step is the waiting thread looking again. -/

inductive Call where
  | requestBuffer (slot : Int)
  | setMaxDequeuedBufferCount (maxDequeuedBuffers : Int)
  | setAsyncMode (async : Bool)
  | dequeueBuffer (request : BufferRequest) (allocation : Allocation) (timesOut : Bool)
  | dequeueResume (request : BufferRequest) (allocation : Allocation) (timesOut : Bool)
  | detachBuffer (slot : Int)
  | detachNextBuffer
  | attachBuffer (buffer : Option GraphicBuffer) (timesOut : Bool)
  | attachResume (buffer : GraphicBuffer) (timesOut : Bool)
  | queueBuffer (slot : Int) (input : QueueBufferInput) (output : QueueBufferOutput)
  | cancelBuffer (slot : Int) (fence : Option Fence)
  | connect (api : Int) (producerControlledByApp : Bool) (callingPid : Int)
      (linkStatus : Status) (output : QueueBufferOutput)
  | disconnect (api : Int) (mode : DisconnectMode) (callingPid : Int)
  | allocateBuffers (request : BufferRequest) (allocations : Nat → Allocation)
  | setSharedBufferMode (sharedBufferMode : Bool)
  | setDequeueTimeout (timeout : Int)
  | allowAllocation (allow : Bool)
  | setGenerationNumber (generationNumber : UInt32)
  | setAutoRefresh (autoRefresh : Bool)
  | setLegacyBufferDrop (drop : Bool)
  | setAutoPrerotation (autoPrerotation : Bool)
  | acquireBuffer (outBuffer : BufferItem) (expectedPresent : Int) (maxFrameNumber : Nat)
  | consumerDetachBuffer (slot : Int)
  | consumerAttachBuffer (buffer : Option GraphicBuffer)
  | releaseBuffer (slot : Int) (frameNumber : Nat) (releaseFence : Option Fence)
  | consumerConnect (hasListener controlledByApp : Bool)
  | consumerDisconnect
  | setMaxBufferCount (bufferCount : Int)
  | setMaxAcquiredBufferCount (maxAcquiredBuffers : Int)
  | discardFreeBuffers
  | setDefaultBufferSize (width height : UInt32)
  | setDefaultBufferFormat (defaultFormat : Int)
  | setDefaultBufferDataSpace (defaultDataSpace : Int)
  | setConsumerUsageBits (usage : UInt64)
  | setTransformHint (hint : UInt32)

namespace BufferQueue

def step (queue : BufferQueue) : Call → BufferQueue
  | .requestBuffer slot => (queue.requestBuffer slot).2.2
  | .setMaxDequeuedBufferCount count => (queue.setMaxDequeuedBufferCount count).2
  | .setAsyncMode async => (queue.setAsyncMode async).2
  | .dequeueBuffer request allocation timesOut =>
    (queue.dequeueBuffer request allocation timesOut).2.2
  | .dequeueResume request allocation timesOut =>
    (queue.dequeueResume request allocation timesOut).2.2
  | .detachBuffer slot => (queue.detachBuffer slot).2
  | .detachNextBuffer => queue.detachNextBuffer.2.2
  | .attachBuffer buffer timesOut => (queue.attachBuffer buffer timesOut).2.2
  | .attachResume buffer timesOut => (queue.attachResume buffer timesOut).2.2
  | .queueBuffer slot input output => (queue.queueBuffer slot input output).2.2
  | .cancelBuffer slot fence => (queue.cancelBuffer slot fence).2
  | .connect api byApp pid linkStatus output => (queue.connect api byApp pid linkStatus output).2.2
  | .disconnect api mode pid => (queue.disconnect api mode pid).2
  | .allocateBuffers request allocations => queue.allocateBuffers request allocations
  | .setSharedBufferMode mode => (queue.setSharedBufferMode mode).2
  | .setDequeueTimeout timeout => (queue.setDequeueTimeout timeout).2
  | .allowAllocation allow => (queue.allowAllocation allow).2
  | .setGenerationNumber number => (queue.setGenerationNumber number).2
  | .setAutoRefresh autoRefresh => (queue.setAutoRefresh autoRefresh).2
  | .setLegacyBufferDrop drop => (queue.setLegacyBufferDrop drop).2
  | .setAutoPrerotation autoPrerotation => (queue.setAutoPrerotation autoPrerotation).2
  | .acquireBuffer outBuffer expectedPresent maxFrameNumber =>
    (queue.acquireBuffer outBuffer expectedPresent maxFrameNumber).2.2
  | .consumerDetachBuffer slot => (queue.consumerDetachBuffer slot).2
  | .consumerAttachBuffer buffer => (queue.consumerAttachBuffer buffer).2.2
  | .releaseBuffer slot frameNumber fence => (queue.releaseBuffer slot frameNumber fence).2
  | .consumerConnect hasListener byApp => (queue.consumerConnect hasListener byApp).2
  | .consumerDisconnect => queue.consumerDisconnect.2
  | .setMaxBufferCount count => (queue.setMaxBufferCount count).2
  | .setMaxAcquiredBufferCount count => (queue.setMaxAcquiredBufferCount count).2
  | .discardFreeBuffers => queue.discardFreeBuffers.2
  | .setDefaultBufferSize width height => (queue.setDefaultBufferSize width height).2
  | .setDefaultBufferFormat format => (queue.setDefaultBufferFormat format).2
  | .setDefaultBufferDataSpace dataSpace => (queue.setDefaultBufferDataSpace dataSpace).2
  | .setConsumerUsageBits usage => (queue.setConsumerUsageBits usage).2
  | .setTransformHint hint => (queue.setTransformHint hint).2

def runFromInitial (consumerIsSurfaceFlinger : Bool) (calls : List Call) : BufferQueue :=
  Machine.run step (initial consumerIsSurfaceFlinger) calls

end BufferQueue

/-! ## Conditions on calls -/

namespace Call

def AllocationsSucceed : Call → Prop
  | .dequeueBuffer _ allocation _ => ∃ id, allocation = .ok id
  | .dequeueResume _ allocation _ => ∃ id, allocation = .ok id
  | .allocateBuffers _ allocations => ∀ round, ∃ id, allocations round = .ok id
  | _ => True

def EnablesSharing : Call → Prop
  | .setSharedBufferMode mode => mode = true
  | _ => False

end Call

/-! ## A frame from end to end

The calls of an application and a consumer that meet for the first time, and those
that carry one frame in slot 0 from one to the other and back. -/

def blankOutput : QueueBufferOutput := ⟨0, 0, 0, 0, 0, false, 0⟩

def pixelInput : QueueBufferInput where
  timestamp := 0
  isAutoTimestamp := false
  dataSpace := 0
  crop := ⟨0, 0, 1, 1⟩
  scalingMode := 0
  transform := 0
  stickyTransform := 0
  fence := some Fence.noFence
  surfaceDamage := Region.empty

def blankItem : BufferItem where
  mGraphicBuffer := none
  mFence := Fence.noFence
  mCrop := Rect.invalidRect
  mTransform := 0
  mScalingMode := 0
  mTimestamp := 0
  mIsAutoTimestamp := false
  mDataSpace := 0
  mFrameNumber := 0
  mSlot := 0
  mIsDroppable := false
  mAcquireCalled := false
  mTransformToDisplayInverse := false
  mSurfaceDamage := Region.empty
  mAutoRefresh := false
  mQueuedBuffer := true
  mIsStale := false
  mApi := 0

def openingCalls : List Call :=
  [.consumerConnect true false, .connect 1 false 7 .noError blankOutput]

def produceCalls : List Call :=
  [.dequeueBuffer ⟨0, 0, 0, 0⟩ (.ok 5) false, .requestBuffer 0,
    .queueBuffer 0 pixelInput blankOutput]

def consumeCalls : List Call :=
  [.acquireBuffer blankItem 0 0, .releaseBuffer 0 1 (some Fence.noFence)]

end NativeLibs.Gui
