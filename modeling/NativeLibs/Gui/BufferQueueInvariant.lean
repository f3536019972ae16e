import NativeLibs.Gui.DequeueSound

/-! # The other calls of the producer keep the slots in order

One lemma for each entry point that leaves the queue alone, and one for the order of the slots
for each of the others. -/

namespace NativeLibs.Gui

open SlotPool BufferState BufferQueue Slot Machine Tidy

namespace BufferQueue

variable {queue : BufferQueue}

lemma isFree_eq_false_of_isDequeued {st : BufferState} (deq : st.isDequeued = true) :
    st.isFree = false := by
  simp [isFree, deq]

lemma isFree_eq_false_of_isAcquired {st : BufferState} (acq : st.isAcquired = true) :
    st.isFree = false := by
  simp [isFree, acq]

section

variable (queue)

lemma tidy_requestBuffer (slot : Int) : Tidy condition queue (queue.requestBuffer slot).2.2 := by
  rw [requestBuffer]
  split_ifs
  any_goals exact .refl queue
  · cases ofInt slot with
    | none => exact .refl queue
    | some i =>
      simp only
      split_ifs
      · exact .refl queue
      · refine ⟨⟨?_, rfl, rfl⟩, fun _ sound => ?_⟩
        · dsimp only
          apply still_updateSlot
          exact fun _ solo => solo
        · exact .updateSlot sound i
            (fun s => { s with mRequestBufferCalled := true }) rfl rfl

lemma still_detach (pool : SlotPool) (slot : Slot)
    (keeps : ∀ st : BufferState, (change st).mShared = st.mShared) :
    SlotPool.Still pool ({ pool.updateState slot change with
        mActiveBuffers := (pool.updateState slot change).mActiveBuffers.erase slot }.freeSlot
          slot) := by
  have new : SlotPool.Still pool (pool.updateState slot change) := by
    apply still_updateSlot
    intro s solo
    exact (keeps _).trans solo
  have erased : SlotPool.Still pool { pool.updateState slot change with
      mActiveBuffers := (pool.updateState slot change).mActiveBuffers.erase slot } :=
    new.trans (.of_slots rfl rfl rfl rfl)
  exact erased.trans (still_freeSlot _ slot)

lemma tidy_detachBuffer (slot : Int) (unqueued : condition → ∀ i, ofInt slot = some i →
      (queue.pool.state i).isDequeued = true → (queue.pool.state i).mQueueCount = 0) :
    Tidy condition queue (queue.detachBuffer slot).2 := by
  rw [detachBuffer]
  split_ifs
  any_goals exact .refl queue
  · cases inRange : ofInt slot with
    | none => exact .refl queue
    | some i =>
      simp only
      split_ifs with shared miss
      any_goals exact .refl queue
      · refine ⟨⟨still_detach queue.pool i fun _ => rfl, rfl, rfl⟩, fun given sound => ?_⟩
        have deq : (queue.pool.state i).isDequeued = true := by simpa using miss
        exact .detach sound (isFree_eq_false_of_isDequeued deq)
          (unqueued given i inRange deq) shared

lemma tidy_detachNextBuffer : Tidy condition queue queue.detachNextBuffer.2.2 := by
  rw [detachNextBuffer]
  split_ifs
  any_goals exact .refl queue
  · cases free : queue.pool.mFreeBuffers with
    | nil => exact .refl queue
    | cons hit rest =>
      refine ⟨⟨.trans ?_ (still_freeSlot _ hit), rfl, rfl⟩, fun _ sound => ?_⟩
      · exact .of_slots rfl rfl rfl rfl
      · have mem : hit ∈ queue.pool.mFreeBuffers := by simp [free]
        have loose := SlotPool.Sound.removeFreeBuffer sound mem
        rw [free] at loose
        exact loose.freeSlot

lemma tidy_cancelBuffer (slot : Int) (fence : Option Fence) :
    Tidy condition queue (queue.cancelBuffer slot fence).2 := by
  rw [cancelBuffer]
  split_ifs
  any_goals exact refl queue
  · cases ofInt slot with
    | none => exact refl queue
    | some i =>
      simp only
      split_ifs with miss
      · exact refl queue
      · cases fence with
        | none => exact refl queue
        | some fence =>
          have cancelled : SlotPool.Still queue.pool
              (queue.pool.updateState i cancel) :=
            still_updateSlot queue.pool i fun _ solo => solo
          refine ⟨⟨cancelled.trans ((still_recycle _ i).trans ?_), rfl, rfl⟩, fun _ sound => ?_⟩
          · dsimp only
            apply still_updateSlot
            exact fun _ solo => solo
          · have deq : (queue.pool.state i).isDequeued = true := by simpa using miss
            have busy := isFree_eq_false_of_isDequeued deq
            have pos : 0 < (queue.pool.state i).mDequeueCount := of_decide_eq_true deq
            have freed : (queue.pool.updateState i cancel).Released
                queue.pool.mQueue i := by
              apply SlotPool.Sound.release sound busy
              · rfl
              · rfl
              · exact ((sound.placed i).active_of_busy busy).2.1.queued
              · simp only [SlotPool.state] at pos ⊢
                simp only [cancel, holders]
                omega
              · exact fun _ _ => rfl
            exact freed.recycle.updateSlot i (fun s => { s with mFence := fence }) rfl rfl

lemma tidy_allocateBuffers (req : BufferRequest) (allocs : Nat → Allocation) :
    Tidy condition queue (queue.allocateBuffers req allocs) := by
  rw [allocateBuffers]
  split_ifs
  · exact .refl queue
  · exact ⟨⟨still_allocateLoop _ _ queue.pool, rfl, rfl⟩, fun _ sound => .allocateLoop _ _ sound⟩

end

/-! ## Queueing -/

lemma queueAccepted_sound (sound : queue.Sound) (input : QueueBufferInput) (fence : Fence)
    (out : QueueBufferOutput) (deq : (queue.pool.state slot).isDequeued = true) :
    (queue.queueAccepted slot input fence out).2.2.Sound := by
  have queued : (queuedSlot queue.pool (queue.queuedItem slot input fence)).Sound
      (queue.queuedItem slot input fence :: queue.pool.mQueue) :=
    SlotPool.Sound.queuedSlot sound rfl deq
  have enqueued := SlotPool.Sound.enqueue queued
  exact enqueued.setQueue _ (some slot)

lemma isDequeued_adoptShared (pool : SlotPool) (slot : Slot) :
    ((pool.adoptShared slot).state slot).isDequeued = (pool.state slot).isDequeued := by
  rw [adoptShared]
  split_ifs
  · simp only [SlotPool.state, updateState, updateSlot_mSlots_self]
    rfl
  · rfl

section

variable (sound : queue.Sound)
include sound

lemma queueBuffer_sound (slot : Int) (input : QueueBufferInput) (out : QueueBufferOutput) :
    (queue.queueBuffer slot input out).2.2.Sound := by
  rcases queueBuffer_cases queue slot input out with ⟨_, same⟩ | ⟨i, deq, oc⟩
  · rw [same]
    exact sound
  · have act := (sound.placed i).active_of_busy (isFree_eq_false_of_isDequeued deq)
    have adopted : ({ queue with pool := queue.pool.adoptShared i } : BufferQueue).Sound := by
      simpa only [Sound, adoptShared_mQueue] using .adoptShared sound act.1
    rcases oc with ⟨_, adopts⟩ | ⟨fence, accepts⟩
    · rw [adopts]
      exact adopted
    · rw [accepts]
      apply queueAccepted_sound adopted
      rw [isDequeued_adoptShared]
      exact deq

lemma adjustThen_sound (delta : Int) {set : BufferQueue → BufferQueue}
    (keeps : ∀ queue, (set queue).pool = queue.pool) : (queue.adjustThen delta set).2.Sound := by
  have adj := SlotPool.Sound.adjustAvailableSlotsLocked delta sound
  rw [← (quiet_adjustAvailableSlotsLocked queue.pool delta).queue] at adj
  rw [adjustThen]
  cases res : queue.pool.adjustAvailableSlotsLocked delta with
  | mk success after =>
    rw [res] at adj
    cases success with
    | false => exact adj
    | true =>
      simp only [Sound, keeps]
      exact adj

end

lemma freeAllBuffersLocked_stale (pool : SlotPool) :
    ∀ item ∈ pool.freeAllBuffersLocked.mQueue, item.mIsStale = true := by
  intro item mem
  simp only [freeAllBuffersLocked, List.mem_map] at mem
  rcases mem with ⟨old, _, rfl⟩
  rfl

lemma disconnect_sound (sound : queue.Sound) (api : Int) (mode : DisconnectMode) (pid : Int) :
    (queue.disconnect api mode pid).2.Sound := by
  rcases disconnect_state queue api mode pid with same | ⟨_, freed⟩
  · rw [same]
    exact sound
  · rw [freed]
    exact .freeAllBuffersLocked sound (freeAllBuffersLocked_stale queue.pool)

end BufferQueue

/-! ## The calls of the consumer keep the slots in order -/

namespace BufferQueue

variable {queue : BufferQueue} {pool : SlotPool}

/-! ## Acquiring -/

lemma acquireBuffer_sound (sound : queue.Sound) (item : BufferItem)
    (pres : Int) (maxF : Nat) :
    (queue.acquireBuffer item pres maxF).2.2.Sound := by
  have left : (droppedPool queue.pool (queue.dropped pres maxF).1
      (queue.dropped pres maxF).2).Sound
        (queue.dropped pres maxF).2 := by
    have whole : queue.pool.Sound ((queue.dropped pres maxF).1 ++
        (queue.dropped pres maxF).2) := by
      rw [dropped_append]
      exact sound
    exact (whole.dropItems _).setQueue _ _
  rcases acquireBuffer_cases queue item pres maxF with
    ⟨_, same⟩ | ⟨slot, available, _, _, shared⟩ | ⟨front, rest, kept, _, _, taken⟩
  · rw [same]
    exact sound
  · have eq : queue.pool.mSharedBufferSlot = some slot := by
      rw [sharedBufferAvailable] at available
      split_ifs at available
      exact available
    rw [shared]
    exact .acquiredShared sound eq
  · rw [kept] at left taken
    rw [taken]
    split_ifs with stale
    · have passed : (droppedPool queue.pool
          (queue.dropped pres maxF).1 (front :: rest)).Sound rest := by
        apply left.waiting_congr
        intro slot
        simp [waitingIn_cons, stale]
      exact passed.setQueue _ _
    · exact (left.acquiredSlot (by simpa using stale)).setQueue _ _

/-! ## Detaching, attaching and releasing -/

lemma tidy_consumerDetachBuffer (queue : BufferQueue) (slot : Int)
    (unqueued : condition → ∀ i, ofInt slot = some i →
      (queue.pool.state i).isAcquired = true → (queue.pool.state i).mQueueCount = 0) :
    Tidy condition queue (queue.consumerDetachBuffer slot).2 := by
  rw [consumerDetachBuffer]
  split_ifs
  any_goals exact .refl queue
  · cases inRange : ofInt slot with
    | none => exact .refl queue
    | some i =>
      simp only
      split_ifs with shared miss
      any_goals exact .refl queue
      · refine ⟨⟨still_detach queue.pool i fun _ => rfl, rfl, rfl⟩, fun given sound => ?_⟩
        have acq : (queue.pool.state i).isAcquired = true := by simpa using miss
        exact .detach sound (isFree_eq_false_of_isAcquired acq)
          (unqueued given i inRange acq) shared

lemma gains_consumerAttachedSlot (buf : GraphicBuffer) (slot : BufferSlot) :
    Gains slot (consumerAttachedSlot buf slot) := by
  refine ⟨by simp [consumerAttachedSlot], rfl, rfl, ?_⟩
  simp only [consumerAttachedSlot, attachConsumer, holders]
  omega

lemma consumerFreeSlot_loose (taken : consumerFreeSlot pool = some (hit, after)) :
    SlotPool.Still pool after ∧ ∀ {items}, pool.Sound items → after.Loose items hit := by
  rw [consumerFreeSlot] at taken
  cases free : pool.getFreeSlotLocked with
  | some first =>
    simp only [free] at taken
    cases taken
    refine ⟨?_, fun sound => (sound.getFreeSlotLocked free).1⟩
    cases least : pool.mFreeSlots.min with
    | top => simp [getFreeSlotLocked, least] at free
    | coe i =>
      simp only [getFreeSlotLocked, least] at free
      cases free
      exact .of_slots rfl rfl rfl rfl
  | none =>
    cases bufs : pool.mFreeBuffers with
    | nil => simp [free, bufs] at taken
    | cons front rest =>
      simp only [free, bufs] at taken
      cases taken
      refine ⟨.of_slots rfl rfl rfl rfl, fun sound => ?_⟩
      have mem : hit ∈ pool.mFreeBuffers := by simp [bufs]
      have loose := sound.removeFreeBuffer mem
      rw [bufs] at loose
      exact loose

lemma tidy_consumerAttachBuffer (queue : BufferQueue) (buf : Option GraphicBuffer) :
    Tidy condition queue (queue.consumerAttachBuffer buf).2.2 := by
  cases buf with
  | none => exact .refl queue
  | some buf =>
    simp only [consumerAttachBuffer]
    split_ifs
    any_goals exact .refl queue
    · cases taken : consumerFreeSlot queue.pool with
      | none => exact .refl queue
      | some pair =>
        rcases pair with ⟨hit, left⟩
        rcases consumerFreeSlot_loose taken with ⟨free, loose⟩
        have attached : SlotPool.Still left (left.updateSlot hit (consumerAttachedSlot buf)) :=
          still_updateSlot left hit fun _ solo => solo
        refine ⟨⟨free.trans (attached.trans (.of_slots rfl rfl rfl rfl)), rfl, rfl⟩,
          fun _ sound => ?_⟩
        exact ((loose sound).hold (consumerAttachedSlot buf)
          (gains_consumerAttachedSlot buf _)).1

lemma tidy_releaseBuffer (queue : BufferQueue) (slot : Int) (frameNumber : Nat)
    (releaseFence : Option Fence) :
    Tidy condition queue (queue.releaseBuffer slot frameNumber releaseFence).2 := by
  unfold releaseBuffer
  cases ofInt slot with
  | none => exact refl queue
  | some i =>
    cases releaseFence with
    | none => exact refl queue
    | some fence =>
      simp only
      split_ifs with outdated miss
      any_goals exact refl queue
      · have new : SlotPool.Still queue.pool (queue.pool.updateSlot i fun s =>
            { s with mFence := fence, mBufferState := s.mBufferState.release }) :=
          still_updateSlot queue.pool i fun _ solo => solo
        refine ⟨⟨new.trans (still_recycle _ i), rfl, rfl⟩, fun _ sound => ?_⟩
        have acq : (queue.pool.state i).isAcquired = true := by simpa using miss
        have busy := isFree_eq_false_of_isAcquired acq
        have pos : 0 < (queue.pool.state i).mAcquireCount := of_decide_eq_true acq
        have freed : (queue.pool.updateSlot i fun s =>
            { s with mFence := fence, mBufferState := s.mBufferState.release }).Released
              queue.pool.mQueue i := by
          apply SlotPool.Sound.release sound busy
          · rfl
          · rfl
          · exact ((sound.placed i).active_of_busy busy).2.1.queued
          · simp only [SlotPool.state] at pos ⊢
            simp only [release, holders]
            omega
          · exact fun _ _ => rfl
        exact freed.recycle

lemma consumerDisconnect_sound (sound : queue.Sound) : queue.consumerDisconnect.2.Sound := by
  rw [consumerDisconnect]
  split_ifs
  · exact sound
  · have emptied := SlotPool.Sound.setQueue sound [] queue.pool.mLastQueuedSlot
    exact emptied.freeAllBuffersLocked (by simp [freeAllBuffersLocked])

end BufferQueue

/-! ## Runs keep the slots in order -/

open List

/-- The conditions under which a call keeps the slots in order: shared buffer mode is
left only when every active slot is in somebody's hands, and no slot is detached that
an item still waits with. -/
def Call.KeepsSlots (queue : BufferQueue) : Call → Prop
  | .setSharedBufferMode mode =>
    mode = false → ∀ slot ∈ queue.pool.mActiveBuffers, (queue.pool.state slot).isFree = false
  | .detachBuffer slot =>
    ∀ index, ofInt slot = some index → (queue.pool.state index).isDequeued = true →
      (queue.pool.state index).mQueueCount = 0
  | .consumerDetachBuffer slot =>
    ∀ index, ofInt slot = some index → (queue.pool.state index).isAcquired = true →
      (queue.pool.state index).mQueueCount = 0
  | _ => True

namespace BufferQueue

variable {queue : BufferQueue}

lemma step_tidy (queue : BufferQueue) (leaves : call.LeavesQueue) (fixed : ¬call.AdjustsSlots) :
    Tidy (call.KeepsSlots queue ∧ call.AllocationsSucceed) queue (queue.step call) := by
  have set : ∀ {after : BufferQueue}, after.pool = queue.pool →
      after.mFrameCounter = queue.mFrameCounter →
      after.getMaxBufferCountLocked = queue.getMaxBufferCountLocked →
      Tidy (call.KeepsSlots queue ∧ call.AllocationsSucceed) queue after := by
    intro after pool frames total
    refine ⟨⟨?_, frames, total⟩, fun _ sound => ?_⟩
    · rw [pool]
      exact .refl _
    · rw [pool]
      exact sound
  cases call with
  | requestBuffer slot => exact tidy_requestBuffer queue slot
  | dequeueBuffer req alloc late =>
    exact tidy_dequeueBuffer queue req alloc late And.right
  | dequeueResume req alloc late =>
    exact tidy_dequeueResume queue req alloc late And.right
  | detachBuffer slot => exact tidy_detachBuffer queue slot And.left
  | detachNextBuffer => exact tidy_detachNextBuffer queue
  | attachBuffer buf late => exact tidy_attachBuffer queue buf late
  | attachResume buf late => exact tidy_attachResume queue buf late
  | cancelBuffer slot fence => exact tidy_cancelBuffer queue slot fence
  | allocateBuffers req allocs => exact tidy_allocateBuffers queue req allocs
  | setSharedBufferMode mode =>
    exact ⟨⟨⟨⟨rfl, fun solo => ⟨leaves, solo.slots⟩⟩, rfl⟩, rfl, rfl⟩,
      fun given sound => .setSharedBufferMode sound mode given.1⟩
  | consumerDetachBuffer slot => exact tidy_consumerDetachBuffer queue slot And.left
  | consumerAttachBuffer buf => exact tidy_consumerAttachBuffer queue buf
  | releaseBuffer slot frameNumber fence => exact tidy_releaseBuffer queue slot frameNumber fence
  | consumerConnect hasListener byApp =>
    simp only [step, consumerConnect]
    split_ifs <;> exact set rfl rfl rfl
  | discardFreeBuffers =>
    exact ⟨⟨still_discardFreeBuffersLocked queue.pool, rfl, rfl⟩,
      fun _ sound => .discardFreeBuffersLocked sound⟩
  | setDefaultBufferSize width height =>
    simp only [step, setDefaultBufferSize]
    split_ifs <;> exact set rfl rfl rfl
  | setMaxDequeuedBufferCount | setAsyncMode | connect | setDequeueTimeout | setMaxBufferCount
  | setMaxAcquiredBufferCount => exact absurd trivial fixed
  | queueBuffer | acquireBuffer | disconnect | consumerDisconnect => exact leaves.elim
  | _ => exact set rfl rfl rfl

lemma step_quiet (queue : BufferQueue) (leaves : call.LeavesQueue) :
    Quiet queue (queue.step call) := by
  by_cases adjusts : call.AdjustsSlots
  · rcases step_adjusts queue adjusts with same | ⟨delta, set, adj, pools, frames⟩
    · rw [same]
      exact .refl queue
    · rw [adj]
      exact quiet_adjustThen queue delta pools frames
  · exact (step_tidy queue leaves adjusts).quiet

lemma step_unshared (solo : queue.pool.Unshared) (lone : ¬call.EnablesSharing) :
    (queue.step call).pool.Unshared := by
  by_cases leaves : call.LeavesQueue
  · exact (step_quiet queue leaves).pool.unshared solo
  · cases call with
    | queueBuffer slot input out => exact queueBuffer_unshared solo slot input out
    | acquireBuffer item pres maxF =>
      exact acquireBuffer_unshared solo item pres maxF
    | disconnect api mode pid =>
      rcases disconnect_state queue api mode pid with same | ⟨_, freed⟩
      · rw [step, same]
        exact solo
      · rw [step, freed]
        exact solo.freeAllBuffersLocked.congr rfl rfl
    | consumerDisconnect =>
      simp only [step, consumerDisconnect]
      split_ifs
      · exact solo
      · have emptied : ({ queue.pool with mQueue := [] } : SlotPool).Unshared :=
          solo.congr rfl rfl
        exact emptied.freeAllBuffersLocked.congr rfl rfl
    | setSharedBufferMode mode => exact absurd (Bool.eq_false_of_not_eq_true lone) leaves
    | _ => exact absurd trivial leaves

lemma step_sound (sound : queue.Sound) (keeps : call.KeepsSlots queue)
    (given : call.AllocationsSucceed) : (queue.step call).Sound := by
  by_cases adjusts : call.AdjustsSlots
  · rcases step_adjusts queue adjusts with same | ⟨delta, set, adj, pools, _⟩
    · rw [same]
      exact sound
    · rw [adj]
      exact adjustThen_sound sound delta pools
  by_cases leaves : call.LeavesQueue
  · exact (step_tidy queue leaves adjusts).sound ⟨keeps, given⟩ sound
  · cases call with
    | queueBuffer slot input out => exact queueBuffer_sound sound slot input out
    | acquireBuffer item pres maxF =>
      exact acquireBuffer_sound sound item pres maxF
    | disconnect api mode pid => exact disconnect_sound sound api mode pid
    | consumerDisconnect => exact consumerDisconnect_sound sound
    | setSharedBufferMode mode => exact .setSharedBufferMode sound mode keeps
    | _ => exact absurd trivial leaves

end BufferQueue

lemma SlotPool.initial_liesAt (count : Nat) (slot : Slot) :
    (SlotPool.initial count).LiesAt slot (if slot.val < count then .freeSlot else .unused) := by
  have once : (finRange numBufferSlots).count slot = 1 :=
    count_eq_one_of_mem (nodup_finRange _) (mem_finRange _)
  intro place
  by_cases free : slot.val < count
  · have miss : ((finRange numBufferSlots).filter
        fun other => count ≤ other.val).count slot = 0 := by
      apply count_eq_zero.2
      simp [free]
    cases place <;> simp [SlotPool.initial, occurrences, free, miss, count_reverse]
  · have pres : ((finRange numBufferSlots).filter
        fun other => count ≤ other.val).count slot = 1 := by
      rw [count_filter (by simpa using free), once]
    cases place <;> simp [SlotPool.initial, occurrences, free, pres, count_reverse]

variable (consumerIsSurfaceFlinger : Bool)

lemma BufferQueue.initial_sound : (initial consumerIsSurfaceFlinger).Sound where
  placed := by
    intro slot
    refine ⟨_, SlotPool.initial_liesAt 2 slot, ?_⟩
    split_ifs
    · exact ⟨⟨rfl, rfl⟩, rfl⟩
    · exact ⟨⟨rfl, rfl⟩, rfl⟩
  shared := by
    intro slot eq
    simp [initial, SlotPool.initial] at eq

lemma BufferQueue.initial_unshared :
    (initial consumerIsSurfaceFlinger).pool.Unshared :=
  ⟨rfl, fun _ => rfl⟩

/-! ## Runs that never share a buffer -/

def BufferState.HasOneOwner (state : BufferState) : Prop :=
  (state.isDequeued = true ∧ state.isQueued = false ∧ state.isAcquired = false) ∨
    (state.isDequeued = false ∧ state.isQueued = true ∧ state.isAcquired = false) ∨
    (state.isDequeued = false ∧ state.isQueued = false ∧ state.isAcquired = true)

lemma BufferState.hasOneOwner_of_holders {state : BufferState} (one : state.holders = 1) :
    state.HasOneOwner := by
  simp only [holders] at one
  simp only [HasOneOwner, isDequeued, isQueued, isAcquired, decide_eq_true_eq,
    decide_eq_false_iff_not]
  omega

namespace SlotPool

variable {pool : SlotPool}

/-- What `validateConsistencyLocked` checks of the slots outside of shared buffer
mode: each is in one of the four lists, once, and in a state that fits the list. -/
structure Partitioned (pool : SlotPool) : Prop where
  once : ∀ slot, pool.mUnusedSlots.count slot + (if slot ∈ pool.mFreeSlots then 1 else 0) +
    pool.mFreeBuffers.count slot + (if slot ∈ pool.mActiveBuffers then 1 else 0) = 1
  unused : ∀ slot ∈ pool.mUnusedSlots,
    (pool.state slot).isFree = true ∧ (pool.mSlots slot).mGraphicBuffer = none
  freeSlots : ∀ slot ∈ pool.mFreeSlots,
    (pool.state slot).isFree = true ∧ (pool.mSlots slot).mGraphicBuffer = none
  freeBuffers : ∀ slot ∈ pool.mFreeBuffers,
    (pool.state slot).isFree = true ∧ (pool.mSlots slot).mGraphicBuffer ≠ none
  active : ∀ slot ∈ pool.mActiveBuffers,
    (pool.state slot).HasOneOwner ∧ (pool.mSlots slot).mGraphicBuffer ≠ none

lemma LiesAt.once (lies : pool.LiesAt slot place) :
    pool.occurrences slot .unused + pool.occurrences slot .freeSlot +
      pool.occurrences slot .freeBuffer + pool.occurrences slot .active = 1 := by
  rw [lies .unused, lies .freeSlot, lies .freeBuffer, lies .active]
  cases place <;> rfl

lemma Sound.allows (sound : pool.Sound items) (place : Place) (holds : pool.Holds place slot) :
    place.Allows pool.mSharedBufferMode (pool.mSlots slot) (waitingIn items slot) :=
  ((sound.placed slot).of_holds holds).2

lemma isFree_of_idle (idle : IdleSlot (pool.mSlots slot) wait) :
    (pool.state slot).isFree = true := by
  rw [state, idle.state]
  rfl

lemma Sound.partitioned (sound : pool.Sound items) (solo : pool.Unshared) :
    pool.Partitioned where
  once := by
    intro slot
    rcases sound.placed slot with ⟨place, lies, _⟩
    exact lies.once
  unused := by
    intro slot mem
    have alw := sound.allows .unused mem
    exact ⟨isFree_of_idle alw.1, alw.2⟩
  freeSlots := by
    intro slot mem
    have alw := sound.allows .freeSlot mem
    exact ⟨isFree_of_idle alw.1, alw.2⟩
  freeBuffers := by
    intro slot mem
    have alw := sound.allows .freeBuffer mem
    exact ⟨isFree_of_idle alw.1, alw.2⟩
  active := by
    intro slot mem
    have alw := sound.allows .active mem
    exact ⟨hasOneOwner_of_holders (alw.1.single (solo.slots slot)), alw.2⟩

lemma Sound.unqueued_of_owned (sound : pool.Sound items) (solo : pool.Unshared)
    (owned : (pool.state slot).isDequeued = true ∨ (pool.state slot).isAcquired = true) :
    (pool.state slot).mQueueCount = 0 := by
  have busy : (pool.state slot).isFree = false := by
    rcases owned with deq | acq
    · exact isFree_eq_false_of_isDequeued deq
    · exact isFree_eq_false_of_isAcquired acq
  have one := ((sound.placed slot).active_of_busy busy).2.1.single (solo.slots slot)
  have held : 0 < (pool.state slot).mDequeueCount ∨ 0 < (pool.state slot).mAcquireCount :=
    owned.imp of_decide_eq_true of_decide_eq_true
  simp only [holders] at one
  simp only [state] at held ⊢
  omega

end SlotPool

namespace BufferQueue

variable {queue : BufferQueue}

lemma keepsSlots_of_unshared (sound : queue.Sound) (solo : queue.pool.Unshared)
    {call : Call} : call.KeepsSlots queue := by
  cases call with
  | setSharedBufferMode mode =>
    intro _ slot mem
    have alw := SlotPool.Sound.allows sound .active mem
    exact alw.1.busy solo.mode
  | detachBuffer slot =>
    intro i _ deq
    exact SlotPool.Sound.unqueued_of_owned sound solo (.inl deq)
  | consumerDetachBuffer slot =>
    intro i _ acq
    exact SlotPool.Sound.unqueued_of_owned sound solo (.inr acq)
  | _ => trivial

structure Plain (queue : BufferQueue) : Prop where
  sound : queue.Sound
  unshared : queue.pool.Unshared

lemma step_plain (plain : queue.Plain) (lone : ¬call.EnablesSharing)
    (given : call.AllocationsSucceed) : (queue.step call).Plain where
  sound := step_sound plain.sound (keepsSlots_of_unshared plain.sound plain.unshared) given
  unshared := step_unshared plain.unshared lone

lemma runFromInitial_plain (lone : ∀ call ∈ calls, ¬call.EnablesSharing)
    (given : ∀ call ∈ calls, call.AllocationsSucceed) :
    (runFromInitial consumerIsSurfaceFlinger calls).Plain := by
  have kept : ∀ (queue : BufferQueue) (call : Call), queue.Plain →
      (¬call.EnablesSharing ∧ call.AllocationsSucceed) → (queue.step call).Plain :=
    fun _ _ plain cond => step_plain plain cond.1 cond.2
  apply run_invariant kept ⟨initial_sound _, initial_unshared _⟩
  exact along_of_forall (fun _ _ cond => cond) _
    fun call mem => ⟨lone call mem, given call mem⟩

/-- However the producer and the consumer call, the four lists share out the slots,
as long as no call shares a buffer and no allocation fails. -/
theorem runFromInitial_partitioned (consumerIsSurfaceFlinger : Bool) (calls : List Call)
    (unsharing : ∀ call ∈ calls, ¬call.EnablesSharing)
    (allocated : ∀ call ∈ calls, call.AllocationsSucceed) :
    (runFromInitial consumerIsSurfaceFlinger calls).pool.Partitioned := by
  have plain := runFromInitial_plain consumerIsSurfaceFlinger unsharing allocated
  exact SlotPool.Sound.partitioned plain.sound plain.unshared

theorem runFromInitial_partitioned_oneFrame :
    (runFromInitial false (openingCalls ++ produceCalls ++ consumeCalls)).pool.mFreeBuffers = [0] ∧
      (runFromInitial false (openingCalls ++ produceCalls ++ consumeCalls)).pool.Partitioned := by
  refine ⟨by decide, runFromInitial_partitioned false _ ?_ ?_⟩
  · simp [openingCalls, produceCalls, consumeCalls, Call.EnablesSharing]
  · simp [openingCalls, produceCalls, consumeCalls, Call.AllocationsSucceed]

/-! ## Runs that share buffers for a while -/

/-- Every slot can still be had: by whoever holds it, or from one of the lists. -/
structure Available (queue : BufferQueue) : Prop where
  busy : ∀ slot ∈ queue.pool.mActiveBuffers, (queue.pool.state slot).isFree = false
  listed : ∀ slot, slot ∉ queue.pool.mActiveBuffers →
    slot ∈ queue.pool.mUnusedSlots ∨ slot ∈ queue.pool.mFreeSlots ∨ slot ∈ queue.pool.mFreeBuffers

lemma Sound.available (sound : queue.Sound) (off : queue.pool.mSharedBufferMode = false) :
    queue.Available where
  busy := by
    intro slot mem
    exact (SlotPool.Sound.allows sound .active mem).1.busy off
  listed := by
    intro slot inactive
    rcases sound.placed slot with ⟨place, lies, _⟩
    have holds := (lies.holds_iff place).2 rfl
    cases place with
    | unused => exact .inl holds
    | freeSlot => exact .inr (.inl holds)
    | freeBuffer => exact .inr (.inr holds)
    | active => exact absurd holds inactive

/-- A run that leaves shared buffer mode only while every active slot is held, and
detaches no slot that an item waits with, strands no slot. -/
theorem available_of_keepsSlots (consumerIsSurfaceFlinger : Bool) (calls : List Call)
    (allocated : ∀ call ∈ calls, call.AllocationsSucceed)
    (keeps : Machine.Along step (fun queue call => call.KeepsSlots queue)
      (initial consumerIsSurfaceFlinger) calls) :
    (runFromInitial consumerIsSurfaceFlinger calls).pool.mSharedBufferMode = false →
      (runFromInitial consumerIsSurfaceFlinger calls).Available := by
  intro off
  have kept : ∀ (queue : BufferQueue) (call : Call), queue.Sound →
      (call.KeepsSlots queue ∧ call.AllocationsSucceed) → (queue.step call).Sound :=
    fun _ _ sound cond => step_sound sound cond.1 cond.2
  have sound : (runFromInitial consumerIsSurfaceFlinger calls).Sound := by
    apply run_invariant kept (initial_sound _)
    exact keeps.and_forall allocated
  exact sound.available off

/-- Leaving shared buffer mode while the frame waits gives its slot back. -/
theorem available_of_keepsSlots_waiting :
    (runFromInitial false (openingCalls ++ [.setSharedBufferMode true] ++ produceCalls ++
      [.setSharedBufferMode false] ++ consumeCalls)).pool.mFreeBuffers = [0] ∧
    (runFromInitial false (openingCalls ++ [.setSharedBufferMode true] ++ produceCalls ++
      [.setSharedBufferMode false] ++ consumeCalls)).Available := by
  refine ⟨by decide, available_of_keepsSlots false _ ?_ ?_ (by decide)⟩
  · simp [openingCalls, produceCalls, consumeCalls, Call.AllocationsSucceed]
  · refine ⟨trivial, trivial, ?_, trivial, trivial, trivial, ?_, trivial, trivial, trivial⟩
    · exact fun on => absurd on (by decide)
    · exact fun _ => by decide +kernel

/-- In such a run, also while buffers are shared, each slot is in one list that allows its state,
as many items wait with it as are queued, and the shared slot is active. -/
theorem sound_of_keepsSlots (consumerIsSurfaceFlinger : Bool) (calls : List Call)
    (allocated : ∀ call ∈ calls, call.AllocationsSucceed)
    (keeps : Machine.Along step (fun queue call => call.KeepsSlots queue)
      (initial consumerIsSurfaceFlinger) calls) (slot : Slot) :
    let pool := (runFromInitial consumerIsSurfaceFlinger calls).pool
    pool.Placed pool.mQueue slot ∧ (pool.state slot).mQueueCount = waitingIn pool.mQueue slot ∧
      pool.SharedAs slot := by
  have sound : (runFromInitial consumerIsSurfaceFlinger calls).Sound :=
    run_invariant (fun _ _ sound cond => step_sound sound cond.1 cond.2) (initial_sound _)
      (keeps.and_forall allocated)
  refine ⟨sound.placed slot, ?_, sound.shared slot⟩
  rcases sound.placed slot with ⟨place, lies, allows⟩
  by_cases active : place = .active
  · subst active
    exact allows.1.queued
  · have idle := allows.idle active
    rw [idle.waiting, state, idle.state]
    rfl

theorem sound_of_keepsSlots_shared :
    let pool := (runFromInitial false (openingCalls ++ [.setSharedBufferMode true] ++
      produceCalls)).pool
    pool.mSharedBufferSlot = some 0 ∧ pool.Placed pool.mQueue 0 := by
  refine ⟨by decide, (sound_of_keepsSlots false _ ?_ ?_ 0).1⟩
  · simp [openingCalls, produceCalls, Call.AllocationsSucceed]
  · exact ⟨trivial, trivial, fun on => absurd on (by decide), trivial, trivial, trivial, trivial⟩

/-- Leaving it once the consumer has let go of the frame strands the slot: it stays
in `mActiveBuffers` with nobody to release it. -/
theorem unsharing_strands_released_slot :
    let calls := openingCalls ++ [.setSharedBufferMode true] ++ produceCalls ++ consumeCalls ++
      [.setSharedBufferMode false]
    let queue := runFromInitial false calls
    (∀ call ∈ calls, call.AllocationsSucceed) ∧ queue.pool.mSharedBufferMode = false ∧
      0 ∈ queue.pool.mActiveBuffers ∧ (queue.pool.state 0).isFree = true ∧
      0 ∉ queue.pool.mFreeSlots ∧ 0 ∉ queue.pool.mFreeBuffers := by
  refine ⟨?_, by decide, by decide, by decide, by decide, by decide⟩
  simp [openingCalls, produceCalls, consumeCalls, Call.AllocationsSucceed]

end BufferQueue

end NativeLibs.Gui
