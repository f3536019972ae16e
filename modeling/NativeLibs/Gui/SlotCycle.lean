import NativeLibs.Gui.SlotPlacement

/-! # The cycle of an active slot

Dequeueing, queueing, acquiring and releasing keep the invariant of the pool. The
list of waiting items is an argument of the invariant, so that a slot and the item
it is queued with can change one after the other. -/

namespace NativeLibs.Gui

open BufferState
open SlotPool (state)

namespace SlotPool

variable {pool : SlotPool}

section

variable (sound : pool.Sound items)
include sound

lemma Sound.waiting_congr (same : ∀ slot, waitingIn later slot = waitingIn items slot) :
    pool.Sound later where
  placed := by
    intro slot
    simpa only [Placed, same slot] using sound.placed slot
  shared := sound.shared

lemma Sound.setQueue (queue : List BufferItem) (last : Option Slot) :
    { pool with mQueue := queue, mLastQueuedSlot := last }.Sound items :=
  ⟨sound.placed, sound.shared⟩

lemma Sound.updateSlot (slot : Slot) (change : BufferSlot → BufferSlot)
    (state : (change (pool.mSlots slot)).mBufferState = (pool.mSlots slot).mBufferState)
    (buf : (change (pool.mSlots slot)).mGraphicBuffer = (pool.mSlots slot).mGraphicBuffer) :
    (pool.updateSlot slot change).Sound items := by
  have rest : (pool.updateSlot slot change).SoundBut items slot :=
    (sound.but slot).changes (changesOnly_updateSlot pool slot change) fun _ _ => rfl
  apply rest.complete
  · rcases sound.placed slot with ⟨place, lies, alw⟩
    refine ⟨place, fun other => (updateSlot_occurrences ..).trans (lies other), ?_⟩
    rw [updateSlot_mSlots_self]
    exact alw.congr state.symm buf.symm
  · intro eq
    have old := sound.shared slot eq
    refine ⟨old.1, old.2.1, ?_⟩
    simpa [SlotPool.state, state] using old.2.2

lemma Sound.updateActive (lies : pool.LiesAt slot .active)
    (counts : Counted pool.mSharedBufferMode (change (pool.mSlots slot)).mBufferState
      (waitingIn later slot)) (buf : (change (pool.mSlots slot)).mGraphicBuffer ≠ none)
    (shared : (pool.state slot).mShared = true →
      (change (pool.mSlots slot)).mBufferState.mShared = true)
    (wait : ∀ other, other ≠ slot → waitingIn later other = waitingIn items other) :
    (pool.updateSlot slot change).Sound later := by
  have rest := (sound.but slot).changes (changesOnly_updateSlot pool slot change) wait
  apply rest.complete
  · refine ⟨.active, fun other => (updateSlot_occurrences ..).trans (lies other), ?_⟩
    rw [updateSlot_mSlots_self]
    exact ⟨counts, buf⟩
  · intro eq
    have old := sound.shared slot eq
    refine ⟨old.1, old.2.1, ?_⟩
    simpa [state] using shared old.2.2

end

/-! ## Letting go of a slot -/

lemma recycle_of_freed (freed : (pool.state slot).mShared = false ∨
      pool.mSharedBufferMode = false ∧ (pool.state slot).isFree = true) :
    pool.recycle slot = { pool.updateState slot fun state => { state with mShared := false } with
        mActiveBuffers := pool.mActiveBuffers.erase slot
        mFreeBuffers := pool.mFreeBuffers ++ [slot] } := by
  by_cases unshares : pool.mSharedBufferMode = false ∧ (pool.state slot).isFree = true
  · have cond : (!pool.mSharedBufferMode && (pool.state slot).isFree) = true := by
      simp [unshares.1, unshares.2]
    simp only [recycle, cond, if_true, updateState_state_self, isShared, Bool.not_false]
    rfl
  · have solo : (pool.state slot).mShared = false := by tauto
    have cond : ¬(!pool.mSharedBufferMode && (pool.state slot).isFree) = true := by
      simpa using unshares
    have same : pool.updateState slot (fun state => { state with mShared := false }) = pool := by
      have identity : ({ pool.mSlots slot with
          mBufferState := { (pool.mSlots slot).mBufferState with mShared := false } } :
            BufferSlot) = pool.mSlots slot := by
        have eq : (pool.mSlots slot).mBufferState.mShared = false := solo
        rw [← eq]
      simp [updateState, SlotPool.updateSlot, identity]
    have shared : (!(pool.state slot).isShared) = true := by simp [isShared, solo]
    simp only [recycle, if_neg cond, if_pos shared, same]

/-- A shared slot stays as it is in shared buffer mode, or while somebody holds it. -/
lemma recycle_of_kept (shared : (pool.state slot).mShared = true)
    (kept : pool.mSharedBufferMode = true ∨ (pool.state slot).isFree = false) :
    pool.recycle slot = pool := by
  have cond : (!pool.mSharedBufferMode && (pool.state slot).isFree) = false := by
    rcases kept with mode | busy
    · simp [mode]
    · simp [busy]
  simp [recycle, cond, isShared, shared]

/-- Whoever held the slot has let go of it: unless it is shared, nobody else
does. -/
structure Released (pool : SlotPool) (items : List BufferItem) (slot : Slot) : Prop where
  others : pool.SoundBut items slot
  lies : pool.LiesAt slot .active
  buffer : (pool.mSlots slot).mGraphicBuffer ≠ none
  queued : (pool.state slot).mQueueCount = waitingIn items slot
  spent : (pool.state slot).mShared = false → (pool.state slot).isFree = true
  shared : pool.SharedAs slot

lemma Released.isFree_of_freed (rel : pool.Released items slot)
    (freed : (pool.state slot).mShared = false ∨
      pool.mSharedBufferMode = false ∧ (pool.state slot).isFree = true) :
    (pool.state slot).isFree = true := by
  rcases freed with solo | ⟨_, free⟩
  · exact rel.spent solo
  · exact free

lemma Released.recycle (rel : pool.Released items slot) : (pool.recycle slot).Sound items := by
  by_cases freed : (pool.state slot).mShared = false ∨
      pool.mSharedBufferMode = false ∧ (pool.state slot).isFree = true
  · have free := (BufferState.isFree_iff _).1 (rel.isFree_of_freed freed)
    simp only [BufferState.holders, Nat.add_eq_zero_iff] at free
    rw [recycle_of_freed freed]
    have changes : ChangesOnly pool
        { pool.updateState slot fun state => { state with mShared := false } with
          mActiveBuffers := pool.mActiveBuffers.erase slot
          mFreeBuffers := pool.mFreeBuffers ++ [slot] } slot := by
      apply (changesOnly_updateState pool slot fun state => { state with mShared := false }).trans
      refine ⟨?_, fun _ _ => rfl, rfl, fun _ _ eq => eq⟩
      intro other ne place
      cases place with
      | unused => rfl
      | freeSlot => rfl
      | freeBuffer => simp [occurrences, updateState, List.count_cons_of_ne ne.symm]
      | active =>
        by_cases mem : other ∈ pool.mActiveBuffers <;>
          simp [occurrences, updateState, ne, mem]
    apply (rel.others.changes changes fun _ _ => rfl).complete
    · refine ⟨.freeBuffer, ?_, ⟨?_, rel.queued.symm.trans free.1.2⟩, ?_⟩
      · intro place
        have count := rel.lies place
        cases place <;>
          simp_all [occurrences, updateState]
      · simp only [updateState, updateSlot_mSlots_self, BufferState.initial]
        rw [BufferState.mk.injEq]
        exact ⟨free.1.1, free.1.2, free.2, rfl⟩
      · simpa [updateState] using rel.buffer
    · intro eq
      have shared := rel.shared eq
      rcases freed with solo | ⟨mode, _⟩
      · simp [solo] at shared
      · simp [mode] at shared
  · have shared : (pool.state slot).mShared = true := by
      by_contra solo
      exact freed (.inl (by simpa using solo))
    have kept : pool.mSharedBufferMode = true ∨ (pool.state slot).isFree = false := by
      by_contra neither
      simp only [not_or, Bool.not_eq_true, Bool.not_eq_false] at neither
      exact freed (.inr neither)
    rw [recycle_of_kept shared kept]
    refine rel.others.complete ⟨.active, rel.lies, ?_, rel.buffer⟩ rel.shared
    refine ⟨rel.queued, fun solo => ?_, fun mode => ?_⟩
    · exact absurd (.inl solo) freed
    · rcases kept with on | busy
      · simp [mode] at on
      · exact busy

lemma Sound.release (sound : pool.Sound items) (busy : (pool.state slot).isFree = false)
    (buf : (change (pool.mSlots slot)).mGraphicBuffer = (pool.mSlots slot).mGraphicBuffer)
    (shared : (change (pool.mSlots slot)).mBufferState.mShared = (pool.state slot).mShared)
    (queued : (change (pool.mSlots slot)).mBufferState.mQueueCount = waitingIn later slot)
    (less : (change (pool.mSlots slot)).mBufferState.holders + 1 = (pool.state slot).holders)
    (wait : ∀ other, other ≠ slot → waitingIn later other = waitingIn items other) :
    (pool.updateSlot slot change).Released later slot := by
  have active := (sound.placed slot).active_of_busy busy
  refine ⟨(sound.but slot).changes (changesOnly_updateSlot pool slot change) wait,
    fun other => (updateSlot_occurrences ..).trans (active.1 other), ?_, ?_, ?_, ?_⟩
  · rw [updateSlot_mSlots_self, buf]
    exact active.2.2
  · simpa [state] using queued
  · intro solo
    have one := active.2.1.single (by simpa [state, shared] using solo)
    rw [isFree_iff]
    simp only [state, updateSlot_mSlots_self] at less ⊢
    omega
  · intro eq
    have old := sound.shared slot eq
    refine ⟨old.1, old.2.1, ?_⟩
    simpa [state, shared] using old.2.2

/-! ## Dropping, acquiring and queueing items -/

lemma waitingIn_cons_other (ne : other ≠ item.mSlot) (items : List BufferItem) :
    waitingIn (item :: items) other = waitingIn items other := by
  simp [waitingIn_cons, ne.symm]

lemma waitingIn_cons_self (fresh : item.mIsStale = false) (items : List BufferItem) :
    waitingIn (item :: items) item.mSlot = waitingIn items item.mSlot + 1 := by
  simp [waitingIn_cons, fresh]

lemma Sound.active_of_waiting (sound : pool.Sound (item :: items))
    (fresh : item.mIsStale = false) : pool.LiesAt item.mSlot .active ∧
      Counted pool.mSharedBufferMode (pool.state item.mSlot) (waitingIn items item.mSlot + 1) ∧
      (pool.mSlots item.mSlot).mGraphicBuffer ≠ none := by
  have waits : 0 < waitingIn (item :: items) item.mSlot := by
    rw [waitingIn_cons_self fresh]
    omega
  have active := (sound.placed item.mSlot).active_of_waiting waits
  rw [waitingIn_cons_self fresh] at active
  exact active

lemma Sound.dropItem (sound : pool.Sound (item :: items)) :
    (BufferQueue.dropItem pool item).Sound items := by
  cases stale : item.mIsStale with
  | true =>
    have same : ∀ slot, waitingIn items slot = waitingIn (item :: items) slot := by
      intro slot
      simp [waitingIn_cons, stale]
    simpa [BufferQueue.dropItem, stale] using sound.waiting_congr same
  | false =>
    have active := sound.active_of_waiting stale
    have queued := active.2.1.queued
    have freed : (pool.updateState item.mSlot freeQueued).Released items
        item.mSlot := by
      apply sound.release active.2.1.isFree_eq_false_of_waiting
      · rfl
      · rfl
      · simp only [state] at queued
        simp [freeQueued, queued]
      · simp only [state] at queued
        simp only [holders, freeQueued, state]
        omega
      · intro other ne
        exact (waitingIn_cons_other ne items).symm
    simpa [BufferQueue.dropItem, stale] using freed.recycle

lemma Sound.dropItems (drops : List BufferItem) (sound : pool.Sound (drops ++ items)) :
    (drops.foldl BufferQueue.dropItem pool).Sound items := by
  induction drops generalizing pool with
  | nil => exact sound
  | cons item rest ih => exact ih sound.dropItem

lemma Sound.acquiredSlot (sound : pool.Sound (item :: items)) (fresh : item.mIsStale = false) :
    (BufferQueue.acquiredSlot pool item.mSlot acquire).Sound items := by
  have active := sound.active_of_waiting fresh
  have queued := active.2.1.queued
  apply sound.updateActive active.1
  · refine ⟨?_, fun solo => ?_, fun _ => ?_⟩
    · simp only [state] at queued
      simp [acquire, queued]
    · have one := active.2.1.single solo
      simp only [state, holders] at queued one
      simp only [acquire, holders]
      omega
    · simp only [isFree_eq_false_iff, acquire, holders]
      omega
  · exact active.2.2
  · exact fun shared => shared
  · intro other ne
    exact (waitingIn_cons_other ne items).symm

lemma Sound.acquiredShared (sound : pool.Sound items) (shared : pool.mSharedBufferSlot = some slot) :
    (BufferQueue.acquiredSlot pool slot acquireNotInQueue).Sound items := by
  have old := sound.shared slot shared
  have active := (sound.placed slot).of_holds (show pool.Holds .active slot from old.2.1)
  have marked : (pool.mSlots slot).mBufferState.mShared = true := old.2.2
  apply sound.updateActive active.1
  · refine ⟨active.2.1.queued, fun solo => ?_, fun mode => ?_⟩
    · simp [acquireNotInQueue, marked] at solo
    · simp [mode] at old
  · exact active.2.2
  · exact fun shared => shared
  · exact fun _ _ => rfl

lemma Sound.queuedSlot (sound : pool.Sound items) (fresh : item.mIsStale = false)
    (deq : (pool.state item.mSlot).isDequeued = true) :
    (BufferQueue.queuedSlot pool item).Sound (item :: items) := by
  have pos : 0 < (pool.mSlots item.mSlot).mBufferState.mDequeueCount :=
    of_decide_eq_true deq
  have busy : (pool.state item.mSlot).isFree = false := by
    rw [isFree_eq_false_iff, holders, state]
    omega
  have active := (sound.placed item.mSlot).active_of_busy busy
  have queued := active.2.1.queued
  apply sound.updateActive active.1
  · rw [waitingIn_cons_self fresh]
    refine ⟨?_, fun solo => ?_, fun _ => ?_⟩
    · simp [queue, queued]
    · have one := active.2.1.single solo
      simp only [holders] at one
      simp only [queue, holders]
      omega
    · simp only [isFree_eq_false_iff, queue, holders]
      omega
  · exact active.2.2
  · exact fun shared => shared
  · intro other ne
    exact waitingIn_cons_other ne items

lemma Sound.enqueue (sound : pool.Sound (item :: pool.mQueue)) :
    (BufferQueue.enqueue pool item).Sound (BufferQueue.enqueue pool item).mQueue := by
  rcases List.eq_nil_or_concat' pool.mQueue with empty | ⟨front, last, split⟩
  · rw [empty] at sound
    simpa [BufferQueue.enqueue, empty] using sound.setQueue [item] pool.mLastQueuedSlot
  · have reordered : pool.Sound (last :: (front ++ [item])) := by
      apply sound.waiting_congr
      intro slot
      simp only [split, waitingIn_cons, waitingIn_append, waitingIn_nil]
      omega
    by_cases droppable : last.mIsDroppable = true
    · simp only [BufferQueue.enqueue, split, List.getLast?_concat, droppable, if_true,
        List.dropLast_concat]
      have drops := reordered.dropItem
      refine (drops.waiting_congr ?_).setQueue _ _
      intro slot
      simp only [waitingIn_append, waitingIn_cons]
    · simp only [BufferQueue.enqueue, split, List.getLast?_concat, droppable, Bool.false_eq_true, if_false]
      refine (reordered.waiting_congr ?_).setQueue _ _
      intro slot
      simp only [waitingIn_append, waitingIn_cons, waitingIn_nil]
      omega

lemma Sound.adoptShared (sound : pool.Sound items) (lies : pool.LiesAt slot .active) :
    (pool.adoptShared slot).Sound items := by
  by_cases adopts : pool.mSharedBufferMode = true ∧ pool.mSharedBufferSlot = none
  · have active := (sound.placed slot).of_holds ((lies.holds_iff .active).2 rfl)
    rw [SlotPool.adoptShared, if_pos adopts]
    have changes : ChangesOnly pool
        { pool.updateState slot fun state => { state with mShared := true } with
          mSharedBufferSlot := some slot } slot := by
      apply (changesOnly_updateState pool slot fun state => { state with mShared := true }).trans
      refine ⟨fun _ _ place => by cases place <;> rfl, fun _ _ => rfl, rfl, ?_⟩
      intro other ne eq
      exact absurd (Option.some.inj eq).symm ne
    apply ((sound.but slot).changes changes fun _ _ => rfl).complete
    · refine ⟨.active, fun place => ?_, ⟨?_, fun solo => ?_, fun mode => ?_⟩, ?_⟩
      · have count := lies place
        cases place <;> exact count
      · simpa [updateState] using active.2.1.queued
      · simp [updateState] at solo
      · exact absurd (adopts.1.symm.trans mode) (by decide)
      · simpa [updateState] using active.2.2
    · intro _
      exact ⟨adopts.1, (lies.holds_iff .active).2 rfl, by simp [state, updateState]⟩
  · rw [SlotPool.adoptShared, if_neg adopts]
    exact sound

end SlotPool

/-! ## Claiming a slot

A slot that `dequeueBuffer` or `attachBuffer` finds is either loose or the shared
slot. In both cases giving it one more holder and a buffer keeps the invariant. -/

namespace SlotPool

variable {pool : SlotPool}

def Claimable (pool : SlotPool) (items : List BufferItem) (slot : Slot) : Prop :=
  pool.Sound items ∧ pool.mSharedBufferSlot = some slot ∨
    pool.Loose items slot ∧ pool.mSharedBufferSlot = none

lemma Sound.shared_eq_none (sound : pool.Sound items)
    (solo : pool.mSharedBufferMode = false ∨ pool.mSharedBufferSlot = none) :
    pool.mSharedBufferSlot = none := by
  rcases solo with mode | none
  · cases shared : pool.mSharedBufferSlot with
    | none => rfl
    | some slot =>
      have on := (sound.shared slot shared).1
      simp [mode] at on
  · exact none

lemma takeFreeSlot_cases (hit : pool.takeFreeSlot caller allowAllocation = some (slot, after)) :
    pool.getFreeBufferLocked = some (slot, after) ∨ pool.getFreeSlotLocked = some (slot, after) ∧
        (caller = .dequeue → allowAllocation = true) := by
  cases caller with
  | dequeue =>
    cases buf : pool.getFreeBufferLocked with
    | some first => exact .inl (by simpa [takeFreeSlot, buf] using hit)
    | none =>
      by_cases ok : allowAllocation = true
      · exact .inr ⟨by simpa [takeFreeSlot, buf, ok] using hit, fun _ => ok⟩
      · simp [takeFreeSlot, buf, ok] at hit
  | attach =>
    cases free : pool.getFreeSlotLocked with
    | some first => exact .inr ⟨by simpa [takeFreeSlot, free] using hit, by simp⟩
    | none => exact .inl (by simpa [takeFreeSlot, free] using hit)

lemma findFreeSlot_cases (hit : pool.findFreeSlot caller allowAllocation = some (slot, after)) :
    (after = pool ∧ pool.mSharedBufferMode = true ∧ pool.mSharedBufferSlot = some slot) ∨
      (pool.takeFreeSlot caller allowAllocation = some (slot, after) ∧
        (pool.mSharedBufferMode = false ∨ pool.mSharedBufferSlot = none)) := by
  cases mode : pool.mSharedBufferMode with
  | false => exact .inr ⟨by simpa [findFreeSlot, mode] using hit, .inl rfl⟩
  | true =>
    cases shared : pool.mSharedBufferSlot with
    | none => exact .inr ⟨by simpa [findFreeSlot, mode, shared] using hit, .inr rfl⟩
    | some first =>
      simp only [findFreeSlot, mode, shared, Option.some.injEq, Prod.mk.injEq] at hit
      exact .inl ⟨hit.2.symm, rfl, congrArg some hit.1⟩

lemma Sound.findFreeSlot (sound : pool.Sound items)
    (hit : pool.findFreeSlot caller allowAllocation = some (slot, after)) :
    after.Claimable items slot := by
  rcases findFreeSlot_cases hit with ⟨rfl, _, shared⟩ | ⟨taken, solo⟩
  · exact .inl ⟨sound, shared⟩
  · have none := sound.shared_eq_none solo
    rcases takeFreeSlot_cases taken with buf | ⟨free, _⟩
    · have res := sound.getFreeBufferLocked buf
      exact .inr ⟨res.1, res.2.2.2.1.trans none⟩
    · have res := sound.getFreeSlotLocked free
      exact .inr ⟨res.1, res.2.2.2.trans none⟩

lemma Sound.findFreeSlot_buffer (sound : pool.Sound items)
    (hit : pool.findFreeSlot .dequeue false = some (slot, after)) :
    (after.mSlots slot).mGraphicBuffer ≠ none := by
  rcases findFreeSlot_cases hit with ⟨rfl, _, shared⟩ | ⟨taken, _⟩
  · have active : after.Holds .active slot := (sound.shared slot shared).2.1
    exact ((sound.placed slot).of_holds active).2.2
  · rcases takeFreeSlot_cases taken with buf | ⟨_, ok⟩
    · exact (sound.getFreeBufferLocked buf).2.1
    · simp at ok

lemma Claimable.sound (claimable : pool.Claimable items slot)
    (shared : pool.mSharedBufferSlot = some slot) : pool.Sound items := by
  rcases claimable with ⟨sound, _⟩ | ⟨_, none⟩
  · exact sound
  · simp [shared] at none

lemma Claimable.loose (claimable : pool.Claimable items slot)
    (solo : pool.mSharedBufferSlot ≠ some slot) : pool.Loose items slot := by
  rcases claimable with ⟨_, shared⟩ | ⟨loose, _⟩
  · exact absurd shared solo
  · exact loose

/-! ## One more holder -/

/-- The change gives a slot a buffer and one more holder outside of the queue. -/
structure Gains (slot changed : BufferSlot) : Prop where
  buffer : changed.mGraphicBuffer ≠ none
  queued : changed.mBufferState.mQueueCount = slot.mBufferState.mQueueCount
  shared : changed.mBufferState.mShared = slot.mBufferState.mShared
  holders : changed.mBufferState.holders = slot.mBufferState.holders + 1

def hold (pool : SlotPool) (slot : Slot) (change : BufferSlot → BufferSlot) : SlotPool :=
  { pool.updateSlot slot change with mActiveBuffers := insert slot pool.mActiveBuffers }

lemma changesOnly_hold (pool : SlotPool) (slot : Slot) (change : BufferSlot → BufferSlot) :
    ChangesOnly pool (pool.hold slot change) slot := by
  apply (changesOnly_updateSlot pool slot change).trans
  refine ⟨?_, fun _ _ => rfl, rfl, fun _ _ eq => eq⟩
  intro other ne place
  cases place with
  | unused => rfl
  | freeSlot => rfl
  | freeBuffer => rfl
  | active =>
    by_cases mem : other ∈ pool.mActiveBuffers <;>
      simp [hold, occurrences, ne, mem]

lemma Loose.hold (loose : pool.Loose items slot) (change : BufferSlot → BufferSlot)
    (gains : Gains (pool.mSlots slot) (change (pool.mSlots slot))) :
    (pool.hold slot change).Sound items ∧ (pool.hold slot change).LiesAt slot .active := by
  have lies : (pool.hold slot change).LiesAt slot .active := by
    intro place
    have none := loose.nowhere place
    cases place <;> simp_all [SlotPool.hold, occurrences]
  have idle := loose.idle.state
  have counts : Counted pool.mSharedBufferMode (change (pool.mSlots slot)).mBufferState
      (waitingIn items slot) := by
    apply Counted.of_single
    · rw [gains.queued, idle, loose.idle.waiting]
      rfl
    · rw [gains.holders, idle]
      rfl
  refine ⟨loose.settle .active (changesOnly_hold pool slot change) lies ?_
    (SharedAs.of_ne loose.unshared), lies⟩
  simp only [SlotPool.hold, updateSlot_mSlots_self]
  exact ⟨counts, gains.buffer⟩

lemma Claimable.hold (claimable : pool.Claimable items slot) (change : BufferSlot → BufferSlot)
    (gains : Gains (pool.mSlots slot) (change (pool.mSlots slot))) :
    (pool.hold slot change).Sound items ∧ (pool.hold slot change).LiesAt slot .active := by
  rcases claimable with ⟨sound, shared⟩ | ⟨loose, _⟩
  · have old := sound.shared slot shared
    have active := (sound.placed slot).of_holds (show pool.Holds .active slot from old.2.1)
    have marked : (pool.mSlots slot).mBufferState.mShared = true := old.2.2
    have same : pool.hold slot change = pool.updateSlot slot change := by
      simp only [SlotPool.hold, Finset.insert_eq_of_mem old.2.1]
      rfl
    rw [same]
    refine ⟨?_, fun place => (updateSlot_occurrences ..).trans (active.1 place)⟩
    apply sound.updateActive active.1
    · refine ⟨gains.queued.trans active.2.1.queued, fun solo => ?_, fun mode => ?_⟩
      · rw [gains.shared, marked] at solo
        simp at solo
      · simp [mode] at old
    · exact gains.buffer
    · intro _
      rw [gains.shared, marked]
    · exact fun _ _ => rfl
  · exact loose.hold change gains

end SlotPool

end NativeLibs.Gui
