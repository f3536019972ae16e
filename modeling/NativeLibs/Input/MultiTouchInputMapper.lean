import NativeLibs.Foundation.Machine
import Mathlib.Data.Fintype.Card

/-! # Pointer ids of a multi-touch device

`syncTouch` gives each tracking id a pointer id. Those of the last sync stay marked until it ends. -/

namespace NativeLibs.Input.MultiTouch

open List Function Machine

structure Slot where
  mInUse : Bool
  isPalm : Bool
  trackingId : Int

def MAX_POINTERS : Nat := 16

structure MultiTouchInputMapper where
  mPointerIdBits : Finset (Fin 32) := ∅
  mPointerTrackingIdMap : Fin 32 → Int := fun _ => 0

abbrev Marked (mapper : MultiTouchInputMapper) (n : Fin 32) (trackingId : Int) : Prop :=
  n ∈ mapper.mPointerIdBits ∧ mapper.mPointerTrackingIdMap n = trackingId

/-- The last id that is marked for the tracking id, or else the first unmarked one. -/
def assign (mapper : MultiTouchInputMapper) (trackingId : Int) :
    Option (Fin 32 × MultiTouchInputMapper) :=
  if trackingId < 0 then none
  else match (finRange 32).reverse.find? (Marked mapper · trackingId) with
    | some id => some (id, mapper)
    | none => ((finRange 32).find? (· ∉ mapper.mPointerIdBits)).map fun id =>
      (id, ⟨insert id mapper.mPointerIdBits,
        update mapper.mPointerTrackingIdMap id trackingId⟩)

abbrev Pointers := List (Int × Option (Fin 32))

/-- A sync, with the tracking id and the pointer id of each pointer that is reported. -/
structure Sync where
  mapper : MultiTouchInputMapper := {}
  mHavePointerIds : Bool := true
  pointers : Pointers := []
  idToIndex : Fin 32 → Nat := fun _ => 0
  newPointerIdBits : Finset (Fin 32) := ∅

def report (sync : Sync) (trackingId : Int) : Sync :=
  match if sync.mHavePointerIds = true then assign sync.mapper trackingId else none with
  | none => { sync with
      mHavePointerIds := false
      pointers := sync.pointers ++ [(trackingId, none)]
      newPointerIdBits := ∅ }
  | some (id, mapper) => { sync with
      mapper := mapper
      pointers := sync.pointers ++ [(trackingId, some id)]
      idToIndex := update sync.idToIndex id sync.pointers.length
      newPointerIdBits := insert id sync.newPointerIdBits }

def reported (slots : List Slot) : List Int :=
  ((slots.filter fun slot => slot.mInUse && !slot.isPalm).take MAX_POINTERS).map (·.trackingId)

def Sync.over (sync : Sync) : MultiTouchInputMapper :=
  ⟨sync.newPointerIdBits, sync.mapper.mPointerTrackingIdMap⟩

def syncTouch (last : Sync) (slots : List Slot) : Sync :=
  (reported slots).foldl report { mapper := last.over }

def Tracked (slots : List Slot) : Prop :=
  (∀ slot ∈ slots, slot.mInUse = true → 0 ≤ slot.trackingId) ∧
    ((slots.filter (·.mInUse)).map (·.trackingId)).Nodup

def Knows (mapper : MultiTouchInputMapper) (pointers : Pointers) : Prop :=
  ∀ tid id, (tid, some id) ∈ pointers → Marked mapper id tid

structure Extends (mapper next : MultiTouchInputMapper) : Prop where
  kept : ∀ n tid, Marked mapper n tid → Marked next n tid
  single : ∀ n m tid, Marked next n tid → Marked next m tid → n = m

lemma marked_insert {id : Fin 32} (free : id ∉ mapper.mPointerIdBits) :
    Marked ⟨insert id mapper.mPointerIdBits, update mapper.mPointerTrackingIdMap id tid⟩
      n other ↔ (n = id ∧ tid = other) ∨ Marked mapper n other := by
  by_cases same : n = id
  · simp [same, Marked, free]
  · simp [same, Marked]

lemma assign_spec (old : Extends pre mapper) (tracked : 0 ≤ tid)
    (room : mapper.mPointerIdBits.card < 32) : ∃ id next, assign mapper tid = some (id, next) ∧
      Extends mapper next ∧ Marked next id tid ∧
      next.mPointerIdBits.card ≤ mapper.mPointerIdBits.card + 1 := by
  rw [assign, if_neg (Int.not_lt.2 tracked)]
  split
  next id hit =>
    have marked : Marked mapper id tid := by simpa using find?_some hit
    exact ⟨id, mapper, rfl, ⟨fun _ _ marked => marked, old.single⟩, marked, Nat.le_succ _⟩
  next unk =>
    have unk : ∀ n, ¬ Marked mapper n tid := by simpa using unk
    rcases Finset.exists_mem_notMem_of_card_lt_card (t := Finset.univ) room with ⟨some, _, free⟩
    cases first : (finRange 32).find? (· ∉ mapper.mPointerIdBits) with
    | none => simpa [free] using find?_eq_none.1 first some (mem_finRange some)
    | some id =>
      have free : id ∉ mapper.mPointerIdBits := by simpa using find?_some first
      refine ⟨id, _, rfl, ⟨fun n other marked => (marked_insert free).2 (.inr marked), ?_⟩,
        (marked_insert free).2 (.inl ⟨rfl, rfl⟩), Finset.card_insert_le _ _⟩
      intro n m other isFirst isSecond
      rcases (marked_insert free).1 isFirst with ⟨rfl, rfl⟩ | isFirst
      · rcases (marked_insert free).1 isSecond with ⟨rfl, _⟩ | isSecond
        · rfl
        · exact absurd isSecond (unk m)
      · rcases (marked_insert free).1 isSecond with ⟨_, rfl⟩ | isSecond
        · exact absurd isFirst (unk n)
        · exact old.single n m other isFirst isSecond

structure Going (last : Pointers) (sync : Sync) : Prop where
  mHavePointerIds : sync.mHavePointerIds = true
  idToIndex : ∀ i pointer, sync.pointers[i]? = some pointer →
    ∃ id, pointer.2 = some id ∧ sync.idToIndex id = i
  more : Extends sync.over sync.mapper
  knows_last : Knows sync.mapper last
  knows : Knows sync.over sync.pointers
  length : sync.pointers.length ≤ MAX_POINTERS
  card_new : sync.newPointerIdBits.card ≤ sync.pointers.length
  card : sync.mapper.mPointerIdBits.card ≤ MAX_POINTERS + sync.pointers.length

lemma Going.report (going : Going last sync) (tracked : 0 ≤ tid)
    (unseen : tid ∉ sync.pointers.map Prod.fst) (room : sync.pointers.length < MAX_POINTERS) :
    Going last (report sync tid) := by
  have small : sync.mapper.mPointerIdBits.card < 32 :=
    Nat.lt_of_le_of_lt going.card (Nat.add_lt_add_left room 16)
  rcases assign_spec going.more tracked small with ⟨id, next, assigns, more, marked, card⟩
  have knows : Knows next sync.pointers := fun tid id mem =>
    more.kept _ _ (going.more.kept _ _ (going.knows tid id mem))
  simp only [MultiTouch.report, going.mHavePointerIds, if_true, assigns]
  refine ⟨rfl, ?_, ⟨?_, more.single⟩, fun tid id mem => more.kept _ _ (going.knows_last tid id mem),
    ?_, ?_, ?_, ?_⟩
  · intro i ptr atIndex
    rw [getElem?_append] at atIndex
    split_ifs at atIndex with pre
    · rcases going.idToIndex i ptr atIndex with ⟨old, isOld, isIndex⟩
      have mem : (ptr.1, some old) ∈ sync.pointers := isOld ▸ mem_of_getElem? atIndex
      have ne : old ≠ id := by
        rintro rfl
        exact unseen (mem_map.2 ⟨_, mem, (knows _ _ mem).2.symm.trans marked.2⟩)
      exact ⟨old, isOld, (update_of_ne ne _ _).trans isIndex⟩
    · rw [getElem?_singleton] at atIndex
      split_ifs at atIndex with isLast
      cases atIndex
      exact ⟨id, rfl, (update_self _ _ _).trans (by omega)⟩
  · rintro n tid ⟨isNew, isMap⟩
    rcases Finset.mem_insert.1 isNew with rfl | isNew
    · exact ⟨marked.1, isMap⟩
    · exact ⟨(more.kept n _ (going.more.kept n _ ⟨isNew, rfl⟩)).1, isMap⟩
  · intro tid id mem
    rcases mem_append.1 mem with mem | mem
    · exact ⟨Finset.mem_insert_of_mem (going.knows _ _ mem).1, (knows _ _ mem).2⟩
    · cases mem_singleton.1 mem
      exact ⟨Finset.mem_insert_self _ _, marked.2⟩
  all_goals simp only [length_append, length_singleton]
  · omega
  · exact (Finset.card_insert_le _ _).trans (Nat.succ_le_succ going.card_new)
  · exact card.trans (Nat.succ_le_succ going.card)

lemma report_fst (sync : Sync) (tid : Int) :
    (report sync tid).pointers.map Prod.fst = sync.pointers.map Prod.fst ++ [tid] := by
  unfold report
  split <;> simp

lemma Going.reportAll (going : Going last sync) (tracked : ∀ tid ∈ tids, 0 ≤ tid)
    (nodup : (sync.pointers.map Prod.fst ++ tids).Nodup)
    (room : (sync.pointers.map Prod.fst ++ tids).length ≤ MAX_POINTERS) :
    Going last (tids.foldl MultiTouch.report sync) := by
  induction tids generalizing sync with
  | nil => exact going
  | cons first rest ih =>
    rcases forall_mem_cons.1 tracked with ⟨trackedFirst, trackedRest⟩
    have unseen : first ∉ sync.pointers.map Prod.fst := fun mem =>
      (nodup_append.1 nodup).2.2 first mem first mem_cons_self rfl
    have fits : sync.pointers.length < MAX_POINTERS := by grind
    apply ih (going.report trackedFirst unseen fits) trackedRest
    · simpa [report_fst] using nodup
    · rw [report_fst]
      simpa using room

lemma Going.syncTouch (going : Going pre last) (tracked : Tracked slots) :
    Going last.pointers (syncTouch last slots) := by
  have sub : (reported slots).Sublist ((slots.filter (·.mInUse)).map (·.trackingId)) :=
    ((take_sublist _ _).trans (monotone_filter_right _ (by simp +contextual))).map _
  have low : Going last.pointers { mapper := last.over } :=
    ⟨rfl, by simp, ⟨by simp [Marked, Sync.over], fun n m tid isFirst isSecond =>
      going.more.single n m tid (going.more.kept _ _ isFirst) (going.more.kept _ _ isSecond)⟩,
      going.knows, by simp [Knows], Nat.zero_le _, Nat.le_refl _, going.card_new.trans going.length⟩
  apply low.reportAll
  · intro tid mem
    rcases mem_map.1 (sub.subset mem) with ⟨slot, inUse, rfl⟩
    rcases mem_filter.1 inUse with ⟨isSlot, used⟩
    exact tracked.1 slot isSlot used
  · exact tracked.2.sublist sub
  · simp [reported]

/-- In every run of syncs with distinct tracking ids, the reported pointers have ids of their own,
with their index. A tracking id of the last sync keeps its pointer id, and a new one takes none
that was in use. -/
theorem pointerId_of_trackingId (syncs : List (List Slot)) (slots : List Slot)
    (tracked : ∀ slots ∈ syncs, Tracked slots) (trackedNow : Tracked slots) :
    let last := run syncTouch {} syncs
    let sync := syncTouch last slots
    (∀ i pointer, sync.pointers[i]? = some pointer →
      ∃ id, pointer.2 = some id ∧ sync.idToIndex id = i) ∧
    ∀ tid id, (tid, some id) ∈ sync.pointers →
      (∀ lastId, (tid, some lastId) ∈ last.pointers → id = lastId) ∧
      ((∀ lastId, (tid, some lastId) ∉ last.pointers) →
        ∀ other, (other, some id) ∉ last.pointers) := by
  intro last sync
  have initial : ∃ before, Going before {} :=
    ⟨[], rfl, by simp, ⟨by simp [Marked, Sync.over], by simp [Marked]⟩, by simp [Knows],
      by simp [Knows], Nat.zero_le _, Nat.le_refl _, Nat.zero_le _⟩
  have kept (state label) : (∃ before, Going before state) → Tracked label →
      ∃ before, Going before (syncTouch state label) := fun ⟨_, going⟩ tracked =>
    ⟨_, going.syncTouch tracked⟩
  rcases run_invariant kept initial
    (along_of_forall (fun _ _ tracked => tracked) _ tracked) with ⟨before, was⟩
  have going : Going last.pointers sync := was.syncTouch trackedNow
  refine ⟨going.idToIndex, fun tid id mem => ?_⟩
  have marked := going.more.kept _ _ (going.knows tid id mem)
  refine ⟨fun lastId wasId => ?_, fun new other wasId => ?_⟩
  · exact going.more.single _ _ tid marked (going.knows_last tid lastId wasId)
  · have same := (going.knows_last other id wasId).2.symm.trans marked.2
    exact new id (same ▸ wasId)

def oneTouch : Sync := run syncTouch {} [[⟨true, false, 7⟩]]

theorem pointerId_of_trackingId_second :
    ∃ id, (9, some id) ∈ (syncTouch oneTouch [⟨true, false, 9⟩, ⟨true, false, 7⟩]).pointers ∧
      ∀ other, (other, some id) ∉ oneTouch.pointers :=
  ⟨1, by decide, ((pointerId_of_trackingId [[⟨true, false, 7⟩]] [⟨true, false, 9⟩, ⟨true, false, 7⟩]
    (by simp [Tracked]) (by simp [Tracked])).2 9 1 (by decide)).2 (by decide)⟩

end NativeLibs.Input.MultiTouch
