import NativeLibs.Ui.Region
import Mathlib.Data.Finset.Max
import Mathlib.Data.Fintype.Basic

/-! # Buffer slots and queue items

`gui/BufferSlot.h`, `gui/BufferItem.h` and the part of `ui/GraphicBuffer.h` that
the buffer queue reads. -/

namespace NativeLibs.Gui

open NativeLibs.Ui

abbrev numBufferSlots : Nat := 64

/-- The index of a slot. `INVALID_BUFFER_SLOT` is `none : Option Slot`. -/
abbrev Slot := Fin numBufferSlots

def Slot.ofInt (slot : Int) : Option Slot :=
  if inRange : 0 ≤ slot ∧ slot < numBufferSlots then some ⟨slot.toNat, by omega⟩
  else none

inductive Fence where
  | noFence
  | fence (id : Nat)
  deriving DecidableEq, Repr

/-! ## Graphic buffers -/

def usageProtected : UInt64 := 0x4000

structure GraphicBuffer where
  id : Nat
  width : UInt32
  height : UInt32
  format : Int
  layerCount : UInt32
  usage : UInt64
  mGenerationNumber : UInt32
  deriving DecidableEq, Repr

def GraphicBuffer.needsReallocation (buffer : GraphicBuffer) (inWidth inHeight : UInt32)
    (inFormat : Int) (inLayerCount : UInt32) (inUsage : UInt64) : Bool :=
  if inWidth ≠ buffer.width then true
  else if inHeight ≠ buffer.height then true
  else if inFormat ≠ buffer.format then true
  else if inLayerCount ≠ buffer.layerCount then true
  else if buffer.usage &&& inUsage ≠ inUsage then true
  else decide (buffer.usage &&& usageProtected ≠ inUsage &&& usageProtected)

/-! ## Buffer states -/

/-- How often a slot is held by the producer, by the queue and by the consumer.
Outside of shared buffer mode at most one count is one and the others are
zero. -/
structure BufferState where
  mDequeueCount : Nat
  mQueueCount : Nat
  mAcquireCount : Nat
  mShared : Bool
  deriving DecidableEq, Repr

namespace BufferState

variable (state : BufferState)

def initial : BufferState := ⟨0, 0, 0, false⟩

def isDequeued : Bool := 0 < state.mDequeueCount

def isQueued : Bool := 0 < state.mQueueCount

def isAcquired : Bool := 0 < state.mAcquireCount

def isFree : Bool :=
  !state.isAcquired && !state.isDequeued && !state.isQueued

def isShared : Bool := state.mShared

def dequeue : BufferState :=
  { state with mDequeueCount := state.mDequeueCount + 1 }

-- A decrement of the source is guarded by `count > 0`, which is subtraction on `Nat`.
def detachProducer : BufferState :=
  { state with mDequeueCount := state.mDequeueCount - 1 }

def attachProducer : BufferState :=
  { state with mDequeueCount := state.mDequeueCount + 1 }

def queue : BufferState :=
  { state with mDequeueCount := state.mDequeueCount - 1, mQueueCount := state.mQueueCount + 1 }

def cancel : BufferState :=
  { state with mDequeueCount := state.mDequeueCount - 1 }

def freeQueued : BufferState :=
  { state with mQueueCount := state.mQueueCount - 1 }

def acquire : BufferState :=
  { state with mQueueCount := state.mQueueCount - 1, mAcquireCount := state.mAcquireCount + 1 }

def acquireNotInQueue : BufferState :=
  { state with mAcquireCount := state.mAcquireCount + 1 }

def release : BufferState :=
  { state with mAcquireCount := state.mAcquireCount - 1 }

def detachConsumer : BufferState :=
  { state with mAcquireCount := state.mAcquireCount - 1 }

def attachConsumer : BufferState :=
  { state with mAcquireCount := state.mAcquireCount + 1 }

end BufferState

/-! ## Slots and items -/

structure BufferSlot where
  mGraphicBuffer : Option GraphicBuffer
  mBufferState : BufferState
  mRequestBufferCalled : Bool
  mFrameNumber : Nat
  mFence : Fence
  mAcquireCalled : Bool
  mNeedsReallocation : Bool
  deriving DecidableEq, Repr

def BufferSlot.initial : BufferSlot where
  mGraphicBuffer := none
  mBufferState := BufferState.initial
  mRequestBufferCalled := false
  mFrameNumber := 0
  mFence := Fence.noFence
  mAcquireCalled := false
  mNeedsReallocation := false

def BufferSlot.cleared : BufferSlot :=
  { BufferSlot.initial with mNeedsReallocation := true }

structure BufferItem where
  mGraphicBuffer : Option GraphicBuffer
  mFence : Fence
  mCrop : Rect
  mTransform : UInt32
  mScalingMode : UInt32
  mTimestamp : Int
  mIsAutoTimestamp : Bool
  mDataSpace : Int
  mFrameNumber : Nat
  mSlot : Slot
  mIsDroppable : Bool
  mAcquireCalled : Bool
  mTransformToDisplayInverse : Bool
  mSurfaceDamage : Region
  mAutoRefresh : Bool
  mQueuedBuffer : Bool
  /-- The slot was freed while the item was still waiting. -/
  mIsStale : Bool
  mApi : Int
  deriving DecidableEq, Repr

/-! ## The core of a buffer queue

`BufferQueueCore.h` and `BufferQueueCore.cpp`: the slots, the four lists that
hold them, the queue of waiting items, and the bookkeeping both ends share. Every
entry point runs under the core's lock, so a call is a function from the state
before it to its status and the state after it. -/

/-- `status_t` as far as these entry points use it. The last three values are not
returned by the source: a call that goes on waiting on `mDequeueCondition`, a call
that follows a null pointer, and a loop of the model that ran out of its
budget. -/
inductive Status where
  | noError
  | noInit
  | badValue
  | invalidOperation
  | wouldBlock
  | timedOut
  | noMemory
  | staleBufferSlot
  | noBufferAvailable
  | presentLater
  /-- The error `GraphicBuffer::initCheck` reported. -/
  | allocationFailed (error : Int)
  | waiting
  | nullDereference
  | outOfBudget
  deriving DecidableEq, Repr

/-- The slots, the lists that hold them, and the part of the core that decides
which list a slot belongs to. A `std::set` is a `Finset`; a `std::list` and the
`Fifo` are lists with the front first. -/
structure SlotPool where
  mSlots : Slot → BufferSlot
  mQueue : List BufferItem
  mFreeSlots : Finset Slot
  mFreeBuffers : List Slot
  mUnusedSlots : List Slot
  mActiveBuffers : Finset Slot
  mSharedBufferMode : Bool
  mSharedBufferSlot : Option Slot
  mLastQueuedSlot : Option Slot

namespace SlotPool

variable (pool : SlotPool)

/-- The pool the constructor of the core builds: the first slots are free, the
others are pushed to the front of `mUnusedSlots` one by one. -/
def initial (numStartingBuffers : Nat) : SlotPool where
  mSlots := fun _ => BufferSlot.initial
  mQueue := []
  mFreeSlots := Finset.univ.filter fun slot => slot.val < numStartingBuffers
  mFreeBuffers := []
  mUnusedSlots := ((List.finRange numBufferSlots).filter
    fun slot => numStartingBuffers ≤ slot.val).reverse
  mActiveBuffers := ∅
  mSharedBufferMode := false
  mSharedBufferSlot := none
  mLastQueuedSlot := none

variable (slot : Slot)

def updateSlot (change : BufferSlot → BufferSlot) : SlotPool :=
  { pool with mSlots := Function.update pool.mSlots slot (change (pool.mSlots slot)) }

def updateState (change : BufferState → BufferState) : SlotPool :=
  pool.updateSlot slot fun s => { s with mBufferState := change s.mBufferState }

def state : BufferState := (pool.mSlots slot).mBufferState

def clearBufferSlotLocked : SlotPool :=
  { pool.updateSlot slot fun _ => BufferSlot.cleared with
    mLastQueuedSlot := if pool.mLastQueuedSlot = some slot then none else pool.mLastQueuedSlot }

def clearBufferSlots (slots : Finset Slot) : SlotPool :=
  { pool with
    mSlots := fun slot => if slot ∈ slots then BufferSlot.cleared else pool.mSlots slot
    mLastQueuedSlot := pool.mLastQueuedSlot.filter fun slot => slot ∉ slots }

def freeAllBuffersLocked : SlotPool :=
  let freed := pool.mFreeSlots ∪ pool.mFreeBuffers.toFinset ∪ pool.mActiveBuffers
  { pool.clearBufferSlots freed with
    mFreeSlots := freed
    mFreeBuffers := []
    mActiveBuffers := ∅
    mQueue := pool.mQueue.map fun item => { item with mIsStale := true, mAcquireCalled := false } }

def discardFreeBuffersLocked : SlotPool :=
  { pool.clearBufferSlots pool.mFreeBuffers.toFinset with
    mFreeSlots := pool.mFreeSlots ∪ pool.mFreeBuffers.toFinset
    mFreeBuffers := [] }

def takeUnused : SlotPool :=
  { pool with
    mUnusedSlots := pool.mUnusedSlots.dropLast
    mFreeSlots := insert slot pool.mFreeSlots }

def takeUnusedSlots : Nat → SlotPool → Bool × SlotPool
  | 0, pool => (true, pool)
  | delta + 1, pool =>
    match pool.mUnusedSlots.getLast? with
    | none => (false, pool)
    | some slot => takeUnusedSlots delta (pool.takeUnused slot)

def retire : SlotPool :=
  { pool.clearBufferSlotLocked slot with mUnusedSlots := pool.mUnusedSlots ++ [slot] }

/-- The loop of `adjustAvailableSlotsLocked` that takes slots out of use: the first
free slot, and the last free buffer once there are no more free slots. -/
def retireSlots : Nat → SlotPool → Bool × SlotPool
  | 0, pool => (true, pool)
  | delta + 1, pool =>
    match pool.mFreeSlots.min with
    | some slot =>
      retireSlots delta ({ pool with mFreeSlots := pool.mFreeSlots.erase slot }.retire slot)
    | none =>
      match pool.mFreeBuffers.getLast? with
      | some slot =>
        retireSlots delta ({ pool with mFreeBuffers := pool.mFreeBuffers.dropLast }.retire slot)
      | none => (false, pool)

/-- Grow or shrink the number of slots in use by `delta`. The sizes are compared
before anything changes, so that a failure leaves the lists alone. -/
def adjustAvailableSlotsLocked (delta : Int) : Bool × SlotPool :=
  if 0 ≤ delta then
    if delta > pool.mUnusedSlots.length then (false, pool)
    else pool.takeUnusedSlots delta.toNat
  else
    if -delta > pool.mFreeSlots.card + pool.mFreeBuffers.length then (false, pool)
    else pool.retireSlots (-delta).toNat

/-- What `cancelBuffer`, `releaseBuffer`, and the two places that drop a waiting
item do with the slot they have just let go of: a slot that is free outside of
shared buffer mode stops being shared, and one that is not shared goes to the back
of `mFreeBuffers`. -/
def recycle : SlotPool :=
  let unshared :=
    if !pool.mSharedBufferMode && (pool.state slot).isFree then
      pool.updateState slot fun state => { state with mShared := false }
    else pool
  if !(unshared.state slot).isShared then
    { unshared with
      mActiveBuffers := unshared.mActiveBuffers.erase slot
      mFreeBuffers := unshared.mFreeBuffers ++ [slot] }
  else unshared

def dequeuedCount : Nat :=
  (pool.mActiveBuffers.filter fun slot => (pool.state slot).isDequeued).card

def acquiredCount : Nat :=
  (pool.mActiveBuffers.filter fun slot => (pool.state slot).isAcquired).card

end SlotPool

structure SharedBufferCache where
  crop : Rect
  transform : UInt32
  scalingMode : UInt32
  dataspace : Int
  deriving DecidableEq, Repr

def noConnectedApi : Int := 0

def currentlyConnectedApi : Int := -1

def maxMaxAcquiredBuffers : Int := 62

def pixelFormatRgba8888 : Int := 1

/-- The core together with the fields of its one `BufferQueueProducer`. -/
structure BufferQueue where
  pool : SlotPool
  mIsAbandoned : Bool
  mConsumerControlledByApp : Bool
  /-- Whether `mConsumerListener` is set. -/
  mConsumerListener : Bool
  mConsumerUsageBits : UInt64
  mConnectedApi : Int
  mConnectedPid : Int
  mDequeueBufferCannotBlock : Bool
  mQueueBufferCanDrop : Bool
  mLegacyBufferDrop : Bool
  mDefaultBufferFormat : Int
  mDefaultWidth : UInt32
  mDefaultHeight : UInt32
  mDefaultBufferDataSpace : Int
  mMaxBufferCount : Int
  mMaxAcquiredBufferCount : Int
  mMaxDequeuedBufferCount : Int
  mBufferHasBeenQueued : Bool
  mFrameCounter : Nat
  mTransformHint : UInt32
  mAllowAllocation : Bool
  mBufferAge : Nat
  mGenerationNumber : UInt32
  mAsyncMode : Bool
  mAutoRefresh : Bool
  mSharedBufferCache : SharedBufferCache
  mAutoPrerotation : Bool
  mTransformHintInUse : UInt32
  -- The producer's own fields.
  mStickyTransform : UInt32
  mConsumerIsSurfaceFlinger : Bool
  mDequeueTimeout : Int

namespace BufferQueue

variable (queue : BufferQueue)

/-- `BufferQueueCore()` with `BufferQueueProducer(core, consumerIsSurfaceFlinger)`.
The two starting buffers are `getMaxBufferCountLocked()` of these settings. -/
def initial (consumerIsSurfaceFlinger : Bool) : BufferQueue where
  pool := SlotPool.initial 2
  mIsAbandoned := false
  mConsumerControlledByApp := false
  mConsumerListener := false
  mConsumerUsageBits := 0
  mConnectedApi := noConnectedApi
  mConnectedPid := 0
  mDequeueBufferCannotBlock := false
  mQueueBufferCanDrop := false
  mLegacyBufferDrop := true
  mDefaultBufferFormat := pixelFormatRgba8888
  mDefaultWidth := 1
  mDefaultHeight := 1
  mDefaultBufferDataSpace := 0
  mMaxBufferCount := numBufferSlots
  mMaxAcquiredBufferCount := 1
  mMaxDequeuedBufferCount := 1
  mBufferHasBeenQueued := false
  mFrameCounter := 0
  mTransformHint := 0
  mAllowAllocation := true
  mBufferAge := 0
  mGenerationNumber := 0
  mAsyncMode := false
  mAutoRefresh := false
  mSharedBufferCache := ⟨Rect.invalidRect, 0, 0, 0⟩
  mAutoPrerotation := false
  mTransformHintInUse := 0
  mStickyTransform := 0
  mConsumerIsSurfaceFlinger := consumerIsSurfaceFlinger
  mDequeueTimeout := -1

variable (asyncMode dequeueBufferCannotBlock : Bool)

def bufferDemand : Int :=
  queue.mMaxAcquiredBufferCount + queue.mMaxDequeuedBufferCount +
    if asyncMode || dequeueBufferCannotBlock then 1 else 0

def getMinUndequeuedBufferCountLocked : Int :=
  if queue.mAsyncMode || queue.mDequeueBufferCannotBlock then queue.mMaxAcquiredBufferCount + 1
  else queue.mMaxAcquiredBufferCount

def getMinMaxBufferCountLocked : Int :=
  queue.getMinUndequeuedBufferCountLocked + 1

def getMaxBufferCountFor (maxBufferCount : Int) : Int :=
  min maxBufferCount (queue.bufferDemand asyncMode dequeueBufferCannotBlock)

def getMaxBufferCountLocked : Int :=
  min queue.mMaxBufferCount (queue.bufferDemand queue.mAsyncMode queue.mDequeueBufferCannotBlock)

/-- The tail every setter of a count shares: adjust the slots by `delta`, and set
the new values only when that worked. -/
def adjustThen (delta : Int) (set : BufferQueue → BufferQueue) : Status × BufferQueue :=
  match queue.pool.adjustAvailableSlotsLocked delta with
  | (false, pool) => (.badValue, { queue with pool := pool })
  | (true, pool) => (.noError, set { queue with pool := pool })

end BufferQueue

end NativeLibs.Gui
