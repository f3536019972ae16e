import NativeLibs.Gui.BufferQueueConsumer

/-! # Where a slot lies

The invariant of the slot pool, slot by slot: each slot occurs once in one of the
four lists, and its state is one the list allows. A call changes one slot at a time,
so the frame of a change, what becomes of the slot itself, and how the two give the
invariant back are separate facts. -/

namespace NativeLibs.Gui

inductive Place where
  | unused
  | freeSlot
  | freeBuffer
  | active
  deriving DecidableEq

/-! ## Waiting items -/

/-- How many items wait for the consumer with this slot. The slot of a stale item
was freed already. -/
def waitingIn (items : List BufferItem) (slot : Slot) : Nat :=
  items.countP fun item => !item.mIsStale && item.mSlot == slot

@[simp] lemma waitingIn_nil (slot : Slot) : waitingIn [] slot = 0 := rfl

lemma waitingIn_cons (item : BufferItem) (items : List BufferItem) (slot : Slot) :
    waitingIn (item :: items) slot =
      waitingIn items slot + if item.mIsStale = false ∧ item.mSlot = slot then 1 else 0 := by
  simp [waitingIn, List.countP_cons]

lemma waitingIn_append (items more : List BufferItem) (slot : Slot) :
    waitingIn (items ++ more) slot = waitingIn items slot + waitingIn more slot :=
  List.countP_append ..

lemma waitingIn_eq_zero (stale : ∀ item ∈ items, item.mIsStale = true) (slot : Slot) :
    waitingIn items slot = 0 := by
  apply List.countP_eq_zero.2
  intro item mem
  simp [stale item mem]

/-! ## States -/

/-- The slot is in nobody's hands, and nothing waits with it. -/
structure IdleSlot (slot : BufferSlot) (waiting : Nat) : Prop where
  state : slot.mBufferState = BufferState.initial
  waiting : waiting = 0

def BufferState.holders (state : BufferState) : Nat :=
  state.mDequeueCount + state.mQueueCount + state.mAcquireCount

/-- The counts of an active slot: the queue count is the number of waiting items, a
slot that is not shared is in one pair of hands, and outside of shared buffer mode
some hands hold it. -/
structure Counted (mode : Bool) (state : BufferState) (waiting : Nat) : Prop where
  queued : state.mQueueCount = waiting
  single : state.mShared = false → state.holders = 1
  busy : mode = false → state.isFree = false

variable (state : BufferState)

lemma BufferState.isFree_iff : state.isFree = true ↔ state.holders = 0 := by
  simp only [BufferState.isFree, BufferState.isAcquired, BufferState.isDequeued,
    BufferState.isQueued, BufferState.holders, Bool.and_eq_true, Bool.not_eq_true',
    decide_eq_false_iff_not]
  omega

lemma BufferState.isFree_eq_false_iff : state.isFree = false ↔ 0 < state.holders := by
  rw [← Bool.not_eq_true, BufferState.isFree_iff]
  omega

lemma Counted.of_single (queued : state.mQueueCount = wait) (one : state.holders = 1) :
    Counted mode state wait where
  queued := queued
  single := fun _ => one
  busy := by
    intro _
    rw [BufferState.isFree_eq_false_iff]
    omega

lemma Counted.isFree_eq_false_of_waiting (counts : Counted mode state (wait + 1)) :
    state.isFree = false := by
  have queued := counts.queued
  rw [BufferState.isFree_eq_false_iff, BufferState.holders]
  omega

def Place.Allows (place : Place) (mode : Bool) (slot : BufferSlot) (waiting : Nat) : Prop :=
  match place with
  | .unused => IdleSlot slot waiting ∧ slot.mGraphicBuffer = none
  | .freeSlot => IdleSlot slot waiting ∧ slot.mGraphicBuffer = none
  | .freeBuffer => IdleSlot slot waiting ∧ slot.mGraphicBuffer ≠ none
  | .active => Counted mode slot.mBufferState waiting ∧ slot.mGraphicBuffer ≠ none

lemma Place.Allows.idle {place : Place} (alw : place.Allows mode slot wait)
    (inactive : place ≠ .active) : IdleSlot slot wait := by
  cases place with
  | unused | freeSlot | freeBuffer => exact alw.1
  | active => exact absurd rfl inactive

lemma Place.Allows.congr {place : Place} (alw : place.Allows mode slot wait)
    (state : slot.mBufferState = new.mBufferState)
    (buf : slot.mGraphicBuffer = new.mGraphicBuffer) : place.Allows mode new wait := by
  cases place with
  | unused | freeSlot | freeBuffer =>
    exact ⟨⟨state ▸ alw.1.state, alw.1.waiting⟩, buf ▸ alw.2⟩
  | active => exact ⟨state ▸ alw.1, buf ▸ alw.2⟩

namespace SlotPool

variable {pool : SlotPool}

/-! ## Places -/

section

variable (pool)

def occurrences (slot : Slot) : Place → Nat
  | .unused => pool.mUnusedSlots.count slot
  | .freeSlot => if slot ∈ pool.mFreeSlots then 1 else 0
  | .freeBuffer => pool.mFreeBuffers.count slot
  | .active => if slot ∈ pool.mActiveBuffers then 1 else 0

/-- The slot occurs once in this list and in no other. -/
def LiesAt (slot : Slot) (place : Place) : Prop :=
  ∀ other, pool.occurrences slot other = if other = place then 1 else 0

/-- The slot lies in a list that allows its state. `items` are the waiting items,
which are those of `mQueue` between calls. -/
def Placed (items : List BufferItem) (slot : Slot) : Prop :=
  ∃ place, pool.LiesAt slot place ∧
    place.Allows pool.mSharedBufferMode (pool.mSlots slot) (waitingIn items slot)

/-- If this is the shared slot, it is active and marked as shared, and the mode is
on. -/
def SharedAs (slot : Slot) : Prop :=
  pool.mSharedBufferSlot = some slot →
    pool.mSharedBufferMode = true ∧ slot ∈ pool.mActiveBuffers ∧ (pool.state slot).mShared = true

end

structure Sound (pool : SlotPool) (items : List BufferItem) : Prop where
  placed : ∀ slot, pool.Placed items slot
  shared : ∀ slot, pool.SharedAs slot

def Holds (pool : SlotPool) (place : Place) (slot : Slot) : Prop :=
  match place with
  | .unused => slot ∈ pool.mUnusedSlots
  | .freeSlot => slot ∈ pool.mFreeSlots
  | .freeBuffer => slot ∈ pool.mFreeBuffers
  | .active => slot ∈ pool.mActiveBuffers

lemma holds_iff_occurs : pool.Holds place slot ↔ 0 < pool.occurrences slot place := by
  cases place with
  | unused => exact List.count_pos_iff.symm
  | freeSlot => by_cases mem : slot ∈ pool.mFreeSlots <;> simp [Holds, occurrences, mem]
  | freeBuffer => exact List.count_pos_iff.symm
  | active => by_cases mem : slot ∈ pool.mActiveBuffers <;> simp [Holds, occurrences, mem]

lemma LiesAt.holds_iff (lies : pool.LiesAt slot place) (other : Place) :
    pool.Holds other slot ↔ other = place := by
  rw [holds_iff_occurs, lies other]
  by_cases same : other = place <;> simp [same]

lemma Placed.of_holds (placed : pool.Placed items slot) (holds : pool.Holds place slot) :
    pool.LiesAt slot place ∧
      place.Allows pool.mSharedBufferMode (pool.mSlots slot) (waitingIn items slot) := by
  rcases placed with ⟨hit, lies, alw⟩
  have same := (lies.holds_iff place).1 holds
  subst same
  exact ⟨lies, alw⟩

lemma Placed.active_of_busy (placed : pool.Placed items slot)
    (busy : (pool.state slot).isFree = false) : pool.LiesAt slot .active ∧
      Place.active.Allows pool.mSharedBufferMode (pool.mSlots slot) (waitingIn items slot) := by
  rcases placed with ⟨hit, lies, alw⟩
  by_cases active : hit = .active
  · subst active
    exact ⟨lies, alw⟩
  · have idle := (alw.idle active).state
    have free : (pool.state slot).isFree = true := by
      simp only [state, idle]
      rfl
    simp [free] at busy

lemma Placed.active_of_waiting (placed : pool.Placed items slot)
    (waits : 0 < waitingIn items slot) : pool.LiesAt slot .active ∧
      Place.active.Allows pool.mSharedBufferMode (pool.mSlots slot) (waitingIn items slot) := by
  rcases placed with ⟨hit, lies, alw⟩
  by_cases active : hit = .active
  · subst active
    exact ⟨lies, alw⟩
  · have idle := (alw.idle active).waiting
    omega

/-! ## Changes of one slot -/

structure ChangesOnly (pool after : SlotPool) (slot : Slot) : Prop where
  occurrences : ∀ other, other ≠ slot → ∀ place,
    after.occurrences other place = pool.occurrences other place
  slots : ∀ other, other ≠ slot → after.mSlots other = pool.mSlots other
  mode : after.mSharedBufferMode = pool.mSharedBufferMode
  shared : ∀ other, other ≠ slot → after.mSharedBufferSlot = some other →
    pool.mSharedBufferSlot = some other

lemma ChangesOnly.trans (first : ChangesOnly pool after slot)
    (second : ChangesOnly after last slot) : ChangesOnly pool last slot where
  occurrences := by
    intro other ne place
    rw [second.occurrences other ne, first.occurrences other ne]
  slots := by
    intro other ne
    rw [second.slots other ne, first.slots other ne]
  mode := second.mode.trans first.mode
  shared := by
    intro other ne eq
    exact first.shared other ne (second.shared other ne eq)

structure SoundBut (pool : SlotPool) (items : List BufferItem) (slot : Slot) : Prop where
  placed : ∀ other, other ≠ slot → pool.Placed items other
  shared : ∀ other, other ≠ slot → pool.SharedAs other

lemma Sound.but (sound : pool.Sound items) (slot : Slot) : pool.SoundBut items slot where
  placed := fun other _ => sound.placed other
  shared := fun other _ => sound.shared other

variable (sound : pool.SoundBut items slot)
include sound

lemma SoundBut.changes (changes : ChangesOnly pool after slot)
    (wait : ∀ other, other ≠ slot → waitingIn later other = waitingIn items other) :
    after.SoundBut later slot where
  placed := by
    intro other ne
    rcases sound.placed other ne with ⟨place, lies, alw⟩
    have liesAfter : after.LiesAt other place := by
      intro candidate
      rw [changes.occurrences other ne]
      exact lies candidate
    rw [← changes.mode, ← changes.slots other ne, ← wait other ne] at alw
    exact ⟨place, liesAfter, alw⟩
  shared := by
    intro other ne eq
    have old := sound.shared other ne (changes.shared other ne eq)
    have active : after.Holds .active other := by
      rw [holds_iff_occurs, changes.occurrences other ne, ← holds_iff_occurs]
      exact old.2.1
    refine ⟨changes.mode.trans old.1, active, ?_⟩
    simpa only [state, changes.slots other ne] using old.2.2

lemma SoundBut.complete (placed : pool.Placed items slot) (joint : pool.SharedAs slot) :
    pool.Sound items where
  placed := by
    intro other
    by_cases same : other = slot
    · rw [same]
      exact placed
    · exact sound.placed other same
  shared := by
    intro other
    by_cases same : other = slot
    · rw [same]
      exact joint
    · exact sound.shared other same

/-- The invariant but for one slot, which is in no list and idle. -/
structure Loose (pool : SlotPool) (items : List BufferItem) (slot : Slot) : Prop where
  others : pool.SoundBut items slot
  nowhere : ∀ place, pool.occurrences slot place = 0
  idle : IdleSlot (pool.mSlots slot) (waitingIn items slot)
  unshared : pool.mSharedBufferSlot ≠ some slot

end SlotPool

end NativeLibs.Gui

/-! ## Moving slots between the lists

Taking a slot out of a list leaves it loose; putting a loose slot into a list, with a
state the list allows, gives the invariant back. -/

namespace NativeLibs.Gui

namespace SlotPool

variable {pool after : SlotPool}

/-! ## Frames -/

lemma changesOnly_updateSlot (pool : SlotPool) (slot : Slot)
    (change : BufferSlot → BufferSlot) : ChangesOnly pool (pool.updateSlot slot change) slot where
  occurrences := fun _ _ place => by cases place <;> rfl
  slots := fun _ ne => Function.update_of_ne ne ..
  mode := rfl
  shared := fun _ _ eq => eq

lemma changesOnly_updateState (pool : SlotPool) (slot : Slot)
    (change : BufferState → BufferState) : ChangesOnly pool (pool.updateState slot change) slot :=
  changesOnly_updateSlot pool slot _

section Fields

variable (pool : SlotPool) (slot : Slot) (change : BufferSlot → BufferSlot)

@[simp] lemma updateSlot_mQueue : (pool.updateSlot slot change).mQueue = pool.mQueue := rfl

@[simp] lemma updateSlot_mFreeSlots :
    (pool.updateSlot slot change).mFreeSlots = pool.mFreeSlots := rfl

@[simp] lemma updateSlot_mFreeBuffers :
    (pool.updateSlot slot change).mFreeBuffers = pool.mFreeBuffers := rfl

@[simp] lemma updateSlot_mUnusedSlots :
    (pool.updateSlot slot change).mUnusedSlots = pool.mUnusedSlots := rfl

@[simp] lemma updateSlot_mActiveBuffers :
    (pool.updateSlot slot change).mActiveBuffers = pool.mActiveBuffers := rfl

@[simp] lemma updateSlot_mSharedBufferMode :
    (pool.updateSlot slot change).mSharedBufferMode = pool.mSharedBufferMode := rfl

@[simp] lemma updateSlot_mSharedBufferSlot :
    (pool.updateSlot slot change).mSharedBufferSlot = pool.mSharedBufferSlot := rfl

end Fields

section

variable (pool) (slot) (change : BufferSlot → BufferSlot)

lemma updateSlot_occurrences (other : Slot) (place : Place) :
    (pool.updateSlot slot change).occurrences other place = pool.occurrences other place := by
  cases place <;> rfl

@[simp] lemma updateSlot_mSlots_self :
    (pool.updateSlot slot change).mSlots slot = change (pool.mSlots slot) :=
  Function.update_self ..

@[simp] lemma updateState_state_self (change : BufferState → BufferState) :
    (pool.updateState slot change).state slot = change (pool.state slot) := by
  simp [updateState, state]

lemma changesOnly_clear : ChangesOnly pool (pool.clearBufferSlotLocked slot) slot where
  occurrences := fun _ _ place => by cases place <;> rfl
  slots := fun _ ne => Function.update_of_ne ne ..
  mode := rfl
  shared := fun _ _ eq => eq

@[simp] lemma clear_mSlots_self :
    (pool.clearBufferSlotLocked slot).mSlots slot = BufferSlot.cleared :=
  Function.update_self ..

end

/-! ## Out of a list, and into one -/

lemma Sound.takeOut (sound : pool.Sound items) (holds : pool.Holds place slot)
    (inactive : place ≠ .active)
    (taken : ∀ other p, after.occurrences other p + (if slot = other ∧ p = place then 1 else 0) =
      pool.occurrences other p)
    (slots : after.mSlots = pool.mSlots) (mode : after.mSharedBufferMode = pool.mSharedBufferMode)
    (shared : after.mSharedBufferSlot = pool.mSharedBufferSlot) : after.Loose items slot where
  others := by
    refine (sound.but slot).changes ⟨?_, fun _ _ => by rw [slots], mode, fun _ _ => ?_⟩ fun _ _ => rfl
    · intro other ne p
      rw [← taken, if_neg fun same => ne same.1.symm]
      rfl
    · rw [shared]
      exact id
  nowhere := by
    intro p
    have count := ((sound.placed slot).of_holds holds).1 p
    have less := taken slot p
    rw [count] at less
    simp only [true_and] at less
    omega
  idle := by
    rw [slots]
    exact ((sound.placed slot).of_holds holds).2.idle inactive
  unshared := by
    intro eq
    rw [shared] at eq
    have act : pool.Holds .active slot := (sound.shared slot eq).2.1
    have lies := ((sound.placed slot).of_holds holds).1
    exact inactive ((lies.holds_iff .active).1 act).symm

lemma Loose.settle (loose : pool.Loose items slot) (place : Place)
    (changes : ChangesOnly pool after slot) (lies : after.LiesAt slot place)
    (alw : place.Allows after.mSharedBufferMode (after.mSlots slot) (waitingIn items slot))
    (shared : after.SharedAs slot) : after.Sound items :=
  (loose.others.changes changes fun _ _ => rfl).complete ⟨place, lies, alw⟩ shared

lemma SharedAs.of_ne (ne : pool.mSharedBufferSlot ≠ some slot) : pool.SharedAs slot :=
  fun eq => absurd eq ne

lemma cleared_idle (none : wait = 0) : IdleSlot BufferSlot.cleared wait :=
  ⟨rfl, none⟩

lemma SoundBut.freeSlot (rest : pool.SoundBut items slot)
    (nowhere : ∀ place, pool.occurrences slot place = 0) (wait : waitingIn items slot = 0)
    (solo : pool.mSharedBufferSlot ≠ some slot) : (pool.freeSlot slot).Sound items := by
  have changes : ChangesOnly pool (pool.freeSlot slot) slot := by
    apply ChangesOnly.trans _ (changesOnly_clear _ slot)
    refine ⟨?_, fun _ _ => rfl, rfl, fun _ _ eq => eq⟩
    intro other ne place
    cases place <;> simp [occurrences, ne]
  have lies : (pool.freeSlot slot).LiesAt slot .freeSlot := by
    intro place
    have none := nowhere place
    cases place <;>
      simp_all [SlotPool.freeSlot, clearBufferSlotLocked, updateSlot, occurrences]
  apply (rest.changes changes fun _ _ => rfl).complete
  · refine ⟨.freeSlot, lies, ?_, ?_⟩
    · simpa [SlotPool.freeSlot] using cleared_idle wait
    · simp [SlotPool.freeSlot, BufferSlot.cleared, BufferSlot.initial]
  · exact SharedAs.of_ne solo

lemma Loose.freeSlot (loose : pool.Loose items slot) : (pool.freeSlot slot).Sound items :=
  loose.others.freeSlot loose.nowhere loose.idle.waiting loose.unshared

variable (sound : pool.Sound items)
include sound

lemma Sound.getFreeBufferLocked (found : pool.getFreeBufferLocked = some (slot, after)) :
    after.Loose items slot ∧ (after.mSlots slot).mGraphicBuffer ≠ none ∧
      after.mSharedBufferMode = pool.mSharedBufferMode ∧
      after.mSharedBufferSlot = pool.mSharedBufferSlot ∧
      after.mFreeBuffers.length + 1 = pool.mFreeBuffers.length := by
  cases free : pool.mFreeBuffers with
  | nil => simp [SlotPool.getFreeBufferLocked, free] at found
  | cons front rest =>
    simp only [SlotPool.getFreeBufferLocked, free, Option.some.injEq, Prod.mk.injEq] at found
    rcases found with ⟨rfl, rfl⟩
    have holds : pool.Holds .freeBuffer front := by simp [Holds, free]
    have placed := (sound.placed front).of_holds holds
    refine ⟨sound.takeOut holds (by decide) ?_ rfl rfl rfl, placed.2.2, rfl, rfl, by simp⟩
    intro other place
    cases place <;> simp [occurrences, free, List.count_cons]

lemma Sound.popFreeSlot (mem : slot ∈ pool.mFreeSlots) :
    { pool with mFreeSlots := pool.mFreeSlots.erase slot }.Loose items slot := by
  have holds : pool.Holds .freeSlot slot := mem
  refine sound.takeOut holds (by decide) ?_ rfl rfl rfl
  intro other place
  by_cases same : slot = other
  · subst same
    cases place <;> simp [occurrences, mem]
  · cases place <;> simp [occurrences, same, Ne.symm same]

lemma Sound.getFreeSlotLocked (found : pool.getFreeSlotLocked = some (slot, after)) :
    after.Loose items slot ∧ (after.mSlots slot).mGraphicBuffer = none ∧
      after.mSharedBufferMode = pool.mSharedBufferMode ∧
      after.mSharedBufferSlot = pool.mSharedBufferSlot := by
  cases free : pool.mFreeSlots.min with
  | top => simp [SlotPool.getFreeSlotLocked, free] at found
  | coe first =>
    simp only [SlotPool.getFreeSlotLocked, free, Option.some.injEq, Prod.mk.injEq] at found
    rcases found with ⟨rfl, rfl⟩
    have holds : pool.Holds .freeSlot first := Finset.mem_of_min free
    have placed := (sound.placed first).of_holds holds
    exact ⟨sound.popFreeSlot holds, placed.2.2, rfl, rfl⟩

end SlotPool

end NativeLibs.Gui
