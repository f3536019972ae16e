import NativeLibs.Gui.SlotCycle

/-! # The supply of slots

Growing and shrinking the number of slots in use, allocating ahead, and freeing many
slots at once keep the invariant of the pool. -/

namespace NativeLibs.Gui

open BufferQueue (allocateInto allocateLoop)
open List

namespace SlotPool

variable {pool : SlotPool}

lemma count_dropLast {slots : List Slot} (last : slots.getLast? = some slot) (other : Slot) :
    slots.dropLast.count other + (if slot = other then 1 else 0) = slots.count other := by
  rcases eq_nil_or_concat' slots with empty | ⟨front, final, split⟩
  · simp [empty] at last
  · subst split
    have same : final = slot := by simpa using last
    simp [same, count_singleton]

/-! ## Loose slots at the ends of the lists -/

lemma Sound.popUnused (sound : pool.Sound items) (last : pool.mUnusedSlots.getLast? = some slot) :
    { pool with mUnusedSlots := pool.mUnusedSlots.dropLast }.Loose items slot ∧
      (pool.mSlots slot).mGraphicBuffer = none := by
  have holds : pool.Holds .unused slot := mem_of_getLast? last
  refine ⟨sound.takeOut holds (by decide) ?_ rfl rfl rfl, ((sound.placed slot).of_holds holds).2.2⟩
  intro other place
  have popped := count_dropLast last other
  cases place <;> simp [occurrences, popped]

lemma Sound.popFreeBuffer (sound : pool.Sound items)
    (last : pool.mFreeBuffers.getLast? = some slot) :
    { pool with mFreeBuffers := pool.mFreeBuffers.dropLast }.Loose items slot := by
  have holds : pool.Holds .freeBuffer slot := mem_of_getLast? last
  refine sound.takeOut holds (by decide) ?_ rfl rfl rfl
  intro other place
  have popped := count_dropLast last other
  cases place <;> simp [occurrences, popped]

lemma Sound.removeFreeBuffer (sound : pool.Sound items) (mem : slot ∈ pool.mFreeBuffers) :
    { pool with mFreeBuffers := pool.mFreeBuffers.filter (· ≠ slot) }.Loose items slot := by
  have holds : pool.Holds .freeBuffer slot := mem
  have once : pool.mFreeBuffers.count slot = 1 := ((sound.placed slot).of_holds holds).1 .freeBuffer
  refine sound.takeOut holds (by decide) ?_ rfl rfl rfl
  intro other place
  by_cases same : slot = other
  · subst same
    cases place <;> simp [occurrences, once, count_eq_zero]
  · cases place <;> simp [occurrences, same, Ne.symm same, count_filter]

/-! ## Into use and out of use -/

lemma Loose.insertFree (loose : pool.Loose items slot)
    (empty : (pool.mSlots slot).mGraphicBuffer = none) :
    { pool with mFreeSlots := insert slot pool.mFreeSlots }.Sound items := by
  refine loose.settle .freeSlot ?_ ?_ ⟨loose.idle, empty⟩ (.of_ne loose.unshared)
  · refine ⟨?_, fun _ _ => rfl, rfl, fun _ _ eq => eq⟩
    intro other ne place
    cases place <;> simp [occurrences, ne]
  · intro place
    have none := loose.nowhere place
    cases place <;> simp_all [occurrences]

lemma Loose.retire (loose : pool.Loose items slot) : (pool.retire slot).Sound items := by
  refine loose.settle .unused ?_ ?_ ⟨?_, ?_⟩ (.of_ne loose.unshared)
  · apply (changesOnly_clear pool slot).trans
    refine ⟨?_, fun _ _ => rfl, rfl, fun _ _ eq => eq⟩
    intro other ne place
    cases place with
    | unused =>
      simp [occurrences, SlotPool.retire, clearBufferSlotLocked, count_cons_of_ne ne.symm]
    | freeSlot => rfl
    | freeBuffer => rfl
    | active => rfl
  · intro place
    have none := loose.nowhere place
    cases place <;> simp_all [occurrences, SlotPool.retire, clearBufferSlotLocked]
  · simpa [SlotPool.retire] using cleared_idle loose.idle.waiting
  · simp [SlotPool.retire, BufferSlot.cleared, BufferSlot.initial]

section Adjusting

variable (holds : SlotPool → Prop)

lemma retireSlots_induction (retireSlot : ∀ pool slot, holds pool → slot ∈ pool.mFreeSlots →
      holds ({ pool with mFreeSlots := pool.mFreeSlots.erase slot }.retire slot))
    (retireBuffer : ∀ pool slot, holds pool → pool.mFreeBuffers.getLast? = some slot →
      holds ({ pool with mFreeBuffers := pool.mFreeBuffers.dropLast }.retire slot))
    (delta : Nat) (init : holds pool) : holds (pool.retireSlots delta).2 := by
  induction delta generalizing pool with
  | zero => exact init
  | succ delta ih =>
    cases first : pool.mFreeSlots.min with
    | coe slot =>
      have next := retireSlot pool slot init (Finset.mem_of_min first)
      simpa [retireSlots, first] using ih next
    | top =>
      cases last : pool.mFreeBuffers.getLast? with
      | none => simpa [retireSlots, first, last] using init
      | some slot =>
        simpa [retireSlots, first, last] using ih (retireBuffer pool slot init last)

variable (take : ∀ pool slot, holds pool → pool.mUnusedSlots.getLast? = some slot → holds (pool.takeUnused slot))
include take

lemma takeUnusedSlots_induction (delta : Nat) (init : holds pool) :
    holds (pool.takeUnusedSlots delta).2 := by
  induction delta generalizing pool with
  | zero => exact init
  | succ delta ih =>
    cases last : pool.mUnusedSlots.getLast? with
    | none => simpa [takeUnusedSlots, last] using init
    | some slot => simpa [takeUnusedSlots, last] using ih (take pool slot init last)

lemma adjustAvailableSlotsLocked_induction
    (retireSlot : ∀ pool slot, holds pool → slot ∈ pool.mFreeSlots →
      holds ({ pool with mFreeSlots := pool.mFreeSlots.erase slot }.retire slot))
    (retireBuffer : ∀ pool slot, holds pool → pool.mFreeBuffers.getLast? = some slot →
      holds ({ pool with mFreeBuffers := pool.mFreeBuffers.dropLast }.retire slot))
    (delta : Int) (init : holds pool) :
    holds (pool.adjustAvailableSlotsLocked delta).2 := by
  rw [adjustAvailableSlotsLocked]
  split_ifs
  · exact init
  · exact takeUnusedSlots_induction holds take _ init
  · exact init
  · exact retireSlots_induction holds retireSlot retireBuffer _ init

end Adjusting

lemma Sound.adjustAvailableSlotsLocked (delta : Int) (sound : pool.Sound items) :
    (pool.adjustAvailableSlotsLocked delta).2.Sound items := by
  refine adjustAvailableSlotsLocked_induction (fun pool => pool.Sound items) ?_ ?_ ?_ delta sound
  · intro pool slot sound last
    have popped := sound.popUnused last
    exact popped.1.insertFree popped.2
  · intro pool slot sound mem
    exact (sound.popFreeSlot mem).retire
  · intro pool slot sound last
    exact (sound.popFreeBuffer last).retire

/-! ## Allocating ahead -/

lemma Loose.allocateInto (loose : pool.Loose items slot) (buf : GraphicBuffer) :
    (BufferQueue.allocateInto pool slot buf).Sound items := by
  refine loose.settle .freeBuffer ?_ ?_ ⟨?_, ?_⟩ (.of_ne loose.unshared)
  · apply (changesOnly_clear pool slot).trans
    apply (changesOnly_updateSlot _ slot fun s =>
      { s with mGraphicBuffer := some buf, mFence := .noFence }).trans
    refine ⟨?_, fun _ _ => rfl, rfl, fun _ _ eq => eq⟩
    intro other ne place
    cases place with
    | unused => rfl
    | freeSlot => rfl
    | freeBuffer => exact count_cons_of_ne ne.symm
    | active => rfl
  · intro place
    have none := loose.nowhere place
    cases place <;> simp_all [occurrences, BufferQueue.allocateInto, clearBufferSlotLocked]
  · exact ⟨by simp [BufferQueue.allocateInto, BufferSlot.cleared, BufferSlot.initial],
      loose.idle.waiting⟩
  · simp [BufferQueue.allocateInto]

lemma allocateLoop_induction (holds : SlotPool → Prop)
    (fill : ∀ pool slot buf, holds pool → slot ∈ pool.mFreeSlots →
      holds (allocateInto { pool with mFreeSlots := pool.mFreeSlots.erase slot } slot buf))
    (req : BufferRequest) (allocs : List Allocation) (init : holds pool) :
    holds (allocateLoop req allocs pool) := by
  induction allocs generalizing pool with
  | nil => exact init
  | cons alloc rest ih =>
    cases first : pool.mFreeSlots.min with
    | top => simpa [allocateLoop, first] using init
    | coe slot =>
      cases alloc with
      | error error => simpa [allocateLoop, first] using init
      | ok id =>
        have next := fill pool slot (req.create id 0) init (Finset.mem_of_min first)
        simpa [allocateLoop, first] using ih next

lemma Sound.allocateLoop (req : BufferRequest) (allocs : List Allocation)
    (sound : pool.Sound items) : (allocateLoop req allocs pool).Sound items := by
  refine allocateLoop_induction (fun pool => pool.Sound items) ?_ req allocs sound
  intro pool slot buf sound mem
  exact (sound.popFreeSlot mem).allocateInto buf

/-! ## Freeing many slots -/

lemma Placed.of_cleared (lies : pool.LiesAt slot .freeSlot)
    (cleared : pool.mSlots slot = BufferSlot.cleared) (wait : waitingIn items slot = 0) :
    pool.Placed items slot := by
  refine ⟨.freeSlot, lies, ?_⟩
  rw [cleared]
  exact ⟨cleared_idle wait, rfl⟩

variable (sound : pool.Sound items)
include sound

lemma Sound.discardFreeBuffersLocked : pool.discardFreeBuffersLocked.Sound items where
  placed := by
    intro slot
    rcases sound.placed slot with ⟨place, lies, alw⟩
    have buffered : slot ∈ pool.mFreeBuffers ↔ Place.freeBuffer = place := lies.holds_iff .freeBuffer
    by_cases discarded : Place.freeBuffer = place
    · subst discarded
      have mem : slot ∈ pool.mFreeBuffers := buffered.2 rfl
      apply Placed.of_cleared
      · intro other
        have count := lies other
        cases other <;>
          simp_all [occurrences, SlotPool.discardFreeBuffersLocked, clearBufferSlots]
      · simp [SlotPool.discardFreeBuffersLocked, clearBufferSlots, mem]
      · exact (alw.idle (by decide)).waiting
    · have miss : slot ∉ pool.mFreeBuffers := fun mem => discarded (buffered.1 mem)
      refine ⟨place, fun other => ?_, ?_⟩
      · rw [← lies other]
        cases other <;>
          simp [occurrences, SlotPool.discardFreeBuffersLocked, clearBufferSlots, miss,
            count_eq_zero_of_not_mem miss]
      · simpa [SlotPool.discardFreeBuffersLocked, clearBufferSlots, miss] using alw
  shared := by
    intro slot eq
    have old := sound.shared slot eq
    have lies := ((sound.placed slot).of_holds (show pool.Holds .active slot from old.2.1)).1
    have miss : slot ∉ pool.mFreeBuffers := by
      intro mem
      have same := (lies.holds_iff .freeBuffer).1 mem
      simp at same
    refine ⟨old.1, old.2.1, ?_⟩
    simpa [SlotPool.discardFreeBuffersLocked, clearBufferSlots, state, miss] using old.2.2

/-- Freeing all buffers leaves every slot in use in `mFreeSlots`; what still waits is
stale. -/
lemma Sound.freeAllBuffersLocked (stale : ∀ item ∈ later, item.mIsStale = true) :
    { pool.freeAllBuffersLocked with mSharedBufferSlot := none }.Sound later where
  placed := by
    intro slot
    have wait := waitingIn_eq_zero stale slot
    rcases sound.placed slot with ⟨place, lies, alw⟩
    have free : slot ∈ pool.mFreeSlots ↔ Place.freeSlot = place := lies.holds_iff .freeSlot
    have buffered : slot ∈ pool.mFreeBuffers ↔ Place.freeBuffer = place := lies.holds_iff .freeBuffer
    have active : slot ∈ pool.mActiveBuffers ↔ Place.active = place := lies.holds_iff .active
    by_cases retired : Place.unused = place
    · subst retired
      refine ⟨.unused, fun other => ?_, ?_⟩
      · have count := lies other
        cases other <;>
          simp_all [occurrences, SlotPool.freeAllBuffersLocked, clearBufferSlots]
      · have slots : ({ pool.freeAllBuffersLocked with mSharedBufferSlot := none } :
            SlotPool).mSlots slot = pool.mSlots slot := by
          simp_all [SlotPool.freeAllBuffersLocked, clearBufferSlots]
        rw [slots]
        exact ⟨⟨alw.1.state, wait⟩, alw.2⟩
    · have freed : slot ∈ pool.mFreeSlots ∨ slot ∈ pool.mFreeBuffers ∨
          slot ∈ pool.mActiveBuffers := by
        rw [free, buffered, active]
        cases place <;> simp_all
      apply Placed.of_cleared _ _ wait
      · intro other
        have count := lies other
        cases other <;>
          simp_all [occurrences, SlotPool.freeAllBuffersLocked, clearBufferSlots]
      · simp [SlotPool.freeAllBuffersLocked, clearBufferSlots, freed]
  shared := by
    intro slot eq
    simp at eq

/-! ## Detaching and switching modes -/

lemma Sound.detach (busy : (pool.state slot).isFree = false)
    (unqueued : (pool.state slot).mQueueCount = 0) (solo : pool.mSharedBufferSlot ≠ some slot) :
    ({ pool.updateState slot change with
      mActiveBuffers := (pool.updateState slot change).mActiveBuffers.erase slot }.freeSlot
        slot).Sound items := by
  have active := (sound.placed slot).active_of_busy busy
  have wait : waitingIn items slot = 0 := by
    rw [← active.2.1.queued]
    exact unqueued
  have changes : ChangesOnly pool
      { pool.updateState slot change with
        mActiveBuffers := (pool.updateState slot change).mActiveBuffers.erase slot } slot := by
    apply (changesOnly_updateState pool slot change).trans
    refine ⟨?_, fun _ _ => rfl, rfl, fun _ _ eq => eq⟩
    intro other ne place
    cases place with
    | unused | freeSlot | freeBuffer => rfl
    | active =>
      by_cases mem : other ∈ pool.mActiveBuffers <;>
        simp [occurrences, updateState, ne, mem]
  refine ((sound.but slot).changes changes fun _ _ => rfl).freeSlot ?_ wait solo
  intro place
  have count := active.1 place
  cases place with
  | unused | freeSlot | freeBuffer => exact count
  | active => simp [occurrences]

/-- Shared buffer mode may be switched on at any time, and off when every active
slot is in somebody's hands. -/
lemma Sound.setSharedBufferMode (mode : Bool)
    (busy : mode = false → ∀ slot ∈ pool.mActiveBuffers, (pool.state slot).isFree = false) :
    { pool with
      mSharedBufferSlot := if !mode then none else pool.mSharedBufferSlot
      mSharedBufferMode := mode }.Sound items where
  placed := by
    intro slot
    rcases sound.placed slot with ⟨place, lies, alw⟩
    refine ⟨place, fun other => ?_, ?_⟩
    · have count := lies other
      cases other <;> exact count
    · cases place with
      | unused | freeSlot | freeBuffer => exact alw
      | active =>
        refine ⟨⟨alw.1.queued, alw.1.single, fun off => ?_⟩, alw.2⟩
        exact busy off slot ((lies.holds_iff .active).2 rfl)
  shared := by
    intro slot eq
    cases mode with
    | false => simp at eq
    | true =>
      have old := sound.shared slot (by simpa using eq)
      exact ⟨rfl, old.2⟩

end SlotPool

/-! ## Calls that leave the queue alone

Most calls move slots between the lists without touching the waiting items, and none
marks a slot as shared while shared buffer mode is off. Neither depends on the slots
being in order, or on allocations succeeding. -/

namespace SlotPool

@[simp] lemma adoptShared_mQueue (pool : SlotPool) (slot : Slot) :
    (pool.adoptShared slot).mQueue = pool.mQueue := by
  unfold adoptShared
  split_ifs <;> rfl

variable {pool after : SlotPool}

structure Unshared (pool : SlotPool) : Prop where
  mode : pool.mSharedBufferMode = false
  slots : ∀ slot, (pool.state slot).mShared = false

structure Quiet (pool after : SlotPool) : Prop where
  queue : after.mQueue = pool.mQueue
  unshared : pool.Unshared → after.Unshared

lemma Unshared.congr (solo : pool.Unshared) (slots : after.mSlots = pool.mSlots)
    (mode : after.mSharedBufferMode = pool.mSharedBufferMode) : after.Unshared where
  mode := mode.trans solo.mode
  slots := by
    intro slot
    rw [state, slots]
    exact solo.slots slot

lemma Quiet.refl (pool : SlotPool) : Quiet pool pool := ⟨rfl, fun solo => solo⟩

lemma Quiet.trans (first : Quiet pool after) (second : Quiet after last) : Quiet pool last :=
  ⟨second.queue.trans first.queue, fun solo => second.unshared (first.unshared solo)⟩

lemma Quiet.of_slots (slots : after.mSlots = pool.mSlots) (queue : after.mQueue = pool.mQueue)
    (mode : after.mSharedBufferMode = pool.mSharedBufferMode) : Quiet pool after where
  queue := queue
  unshared := fun solo => solo.congr slots mode

structure Still (pool after : SlotPool) : Prop extends Quiet pool after where
  unused : after.mUnusedSlots = pool.mUnusedSlots

lemma Still.refl (pool : SlotPool) : Still pool pool := ⟨.refl pool, rfl⟩

lemma Still.trans (first : Still pool after) (second : Still after last) : Still pool last :=
  ⟨first.toQuiet.trans second.toQuiet, second.unused.trans first.unused⟩

lemma Still.of_slots (slots : after.mSlots = pool.mSlots) (queue : after.mQueue = pool.mQueue)
    (mode : after.mSharedBufferMode = pool.mSharedBufferMode)
    (unused : after.mUnusedSlots = pool.mUnusedSlots) : Still pool after :=
  ⟨.of_slots slots queue mode, unused⟩

lemma Unshared.updateSlot (solo : pool.Unshared) (slot : Slot)
    (keeps : (change (pool.mSlots slot)).mBufferState.mShared = false) :
    (pool.updateSlot slot change).Unshared where
  mode := solo.mode
  slots := by
    intro other
    by_cases same : other = slot
    · subst same
      simpa [state] using keeps
    · rw [state, (changesOnly_updateSlot pool slot change).slots other same]
      exact solo.slots other

section

variable (pool) (slot : Slot)

lemma still_updateSlot (keeps : ∀ s : BufferSlot, s.mBufferState.mShared = false →
      (change s).mBufferState.mShared = false) : Still pool (pool.updateSlot slot change) where
  queue := rfl
  unused := rfl
  unshared := fun solo => solo.updateSlot slot (keeps _ (solo.slots slot))

lemma still_clear : Still pool (pool.clearBufferSlotLocked slot) := by
  have cleared : Still pool (pool.updateSlot slot fun _ => .cleared) :=
    still_updateSlot pool slot fun _ _ => rfl
  exact cleared.trans (.of_slots rfl rfl rfl rfl)

lemma still_freeSlot : Still pool (pool.freeSlot slot) := by
  have inserted : Still pool { pool with mFreeSlots := insert slot pool.mFreeSlots } :=
    .of_slots rfl rfl rfl rfl
  exact inserted.trans (still_clear _ slot)

lemma still_recycle : Still pool (pool.recycle slot) := by
  by_cases freed : (pool.state slot).mShared = false ∨
      pool.mSharedBufferMode = false ∧ (pool.state slot).isFree = true
  · rw [recycle_of_freed freed]
    have marked : Still pool (pool.updateState slot fun state => { state with mShared := false }) :=
      still_updateSlot pool slot fun _ _ => rfl
    exact marked.trans (.of_slots rfl rfl rfl rfl)
  · have shared : (pool.state slot).mShared = true := by simpa using mt .inl freed
    have kept : pool.mSharedBufferMode = true ∨ (pool.state slot).isFree = false := by
      by_contra neither
      simp only [not_or, Bool.not_eq_true, Bool.not_eq_false] at neither
      exact freed (.inr neither)
    rw [recycle_of_kept shared kept]
    exact .refl pool

lemma still_adoptShared : Still pool (pool.adoptShared slot) where
  queue := by simp
  unused := by
    unfold adoptShared
    split_ifs <;> rfl
  unshared := by
    intro solo
    have off : ¬(pool.mSharedBufferMode = true ∧ pool.mSharedBufferSlot = none) := by
      simp [solo.mode]
    rw [adoptShared, if_neg off]
    exact solo

lemma still_dropItem (item : BufferItem) : Still pool (BufferQueue.dropItem pool item) := by
  rw [BufferQueue.dropItem]
  split_ifs
  · exact .refl pool
  · have freed : Still pool (pool.updateState item.mSlot .freeQueued) :=
      still_updateSlot pool item.mSlot fun _ solo => solo
    exact freed.trans (still_recycle _ item.mSlot)

end

lemma still_dropItems (items : List BufferItem) (pool : SlotPool) :
    Still pool (items.foldl BufferQueue.dropItem pool) := by
  induction items generalizing pool with
  | nil => exact .refl pool
  | cons item rest ih => exact (still_dropItem pool item).trans (ih _)

/-! ## Loops -/

lemma quiet_retire (pool : SlotPool) (slot : Slot) : Quiet pool (pool.retire slot) :=
  (still_clear pool slot).toQuiet.trans (.of_slots rfl rfl rfl)

lemma quiet_adjustAvailableSlotsLocked (pool : SlotPool) (delta : Int) :
    Quiet pool (pool.adjustAvailableSlotsLocked delta).2 := by
  refine adjustAvailableSlotsLocked_induction (Quiet pool) ?_ ?_ ?_ delta (.refl pool)
  · intro old slot quiet _
    exact quiet.trans (.of_slots rfl rfl rfl)
  · intro old slot quiet _
    have popped : Quiet old { old with mFreeSlots := old.mFreeSlots.erase slot } :=
      .of_slots rfl rfl rfl
    exact quiet.trans (popped.trans (quiet_retire _ slot))
  · intro old slot quiet _
    have popped : Quiet old { old with mFreeBuffers := old.mFreeBuffers.dropLast } :=
      .of_slots rfl rfl rfl
    exact quiet.trans (popped.trans (quiet_retire _ slot))

lemma still_allocateInto (pool : SlotPool) (slot : Slot) (buf : GraphicBuffer) :
    Still pool (BufferQueue.allocateInto pool slot buf) := by
  have filled : Still (pool.clearBufferSlotLocked slot)
      ((pool.clearBufferSlotLocked slot).updateSlot slot fun s =>
        { s with mGraphicBuffer := some buf, mFence := .noFence }) :=
    still_updateSlot _ slot fun _ solo => solo
  exact (still_clear pool slot).trans (filled.trans (.of_slots rfl rfl rfl rfl))

lemma still_allocateLoop (req : BufferRequest) (allocs : List Allocation)
    (pool : SlotPool) : Still pool (BufferQueue.allocateLoop req allocs pool) := by
  refine allocateLoop_induction (Still pool) ?_ req allocs (.refl pool)
  intro old slot buf still _
  have popped : Still old { old with mFreeSlots := old.mFreeSlots.erase slot } :=
    .of_slots rfl rfl rfl rfl
  exact still.trans (popped.trans (still_allocateInto _ slot buf))

lemma Unshared.clearBufferSlots (solo : pool.Unshared) (slots : Finset Slot) :
    (pool.clearBufferSlots slots).Unshared where
  mode := solo.mode
  slots := by
    intro slot
    by_cases mem : slot ∈ slots
    · simp [SlotPool.clearBufferSlots, state, mem, BufferSlot.cleared, BufferSlot.initial,
        BufferState.initial]
    · simpa [SlotPool.clearBufferSlots, state, mem] using solo.slots slot

lemma still_discardFreeBuffersLocked (pool : SlotPool) :
    Still pool pool.discardFreeBuffersLocked where
  queue := rfl
  unused := rfl
  unshared := fun solo => (solo.clearBufferSlots _).congr rfl rfl

/-! ## Calls that change the queue -/

variable (solo : pool.Unshared)
include solo

lemma Unshared.freeAllBuffersLocked : pool.freeAllBuffersLocked.Unshared :=
  (solo.clearBufferSlots _).congr rfl rfl

lemma Unshared.queuedPool (item : BufferItem) : (BufferQueue.queuedPool pool item).Unshared := by
  have queued : (BufferQueue.queuedSlot pool item).Unshared :=
    solo.updateSlot item.mSlot (solo.slots item.mSlot)
  rw [BufferQueue.queuedPool, BufferQueue.enqueue]
  cases (BufferQueue.queuedSlot pool item).mQueue.getLast? with
  | none => exact queued.congr rfl rfl
  | some last =>
    simp only
    split_ifs
    · exact ((still_dropItem _ last).unshared queued).congr rfl rfl
    · exact queued.congr rfl rfl

lemma Unshared.acquiredSlot (slot : Slot) (acquire : BufferState → BufferState)
    (keeps : ∀ state : BufferState, (acquire state).mShared = state.mShared) :
    (BufferQueue.acquiredSlot pool slot acquire).Unshared := by
  apply solo.updateSlot
  exact (keeps _).trans (solo.slots slot)

lemma Unshared.droppedPool (items rest : List BufferItem) :
    (BufferQueue.droppedPool pool items rest).Unshared :=
  ((still_dropItems items pool).unshared solo).congr rfl rfl

end SlotPool

end NativeLibs.Gui
