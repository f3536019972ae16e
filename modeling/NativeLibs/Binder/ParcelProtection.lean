import NativeLibs.Binder.ParcelCalls

/-! # The protection of received objects

The bytes of the objects of a received parcel are read by `readObject` only. The check of a
read begins at a hint, and no object before the hint is behind the position. -/

namespace NativeLibs.Binder

open Bytes (Memory store load)
open List Machine

namespace Parcel

variable {p : Parcel}

/-! ## Accepted tables -/

abbrev Apart (objects : List Nat) : Prop :=
  objects.Pairwise fun first second => first + flatSize ≤ second

lemma acceptsObjects_apart (taken : acceptsObjects data minOffset objs = true) :
    (∀ obj ∈ objs, minOffset ≤ obj) ∧ Apart objs := by
  induction objs generalizing minOffset with
  | nil => exact ⟨nofun, .nil⟩
  | cons off rest ih =>
    rw [acceptsObjects] at taken
    simp only [Bool.and_eq_true, Bool.not_eq_true', decide_eq_false_iff_not, Nat.not_lt]
      at taken
    rcases taken with ⟨⟨begins, _⟩, later⟩
    rcases ih later with ⟨behind, apart⟩
    refine ⟨fun obj mem => ?_, .cons behind apart⟩
    rcases mem_cons.1 mem with rfl | inRest
    · exact begins
    · have after := behind obj inRest
      omega

lemma Apart.isSorted (apart : Apart objs) : isSorted objs = true := by
  induction objs with
  | nil => rfl
  | cons first rest ih =>
    rcases pairwise_cons.1 apart with ⟨old, restApart⟩
    cases rest with
    | nil => rfl
    | cons second later =>
      have ord := old second (by simp)
      rw [Parcel.isSorted, ih restApart]
      simp only [Bool.and_true, Bool.not_eq_true', decide_eq_false_iff_not]
      omega

/-! ## The check of a read -/

lemma passObjects_some {count : Nat}
    (passed : passObjects pos upper objs = some count) :
    (∀ obj ∈ objs.take count, obj + flatSize ≤ pos) ∧
      ∀ obj ∈ (objs.drop count).head?, upper ≤ obj := by
  induction objs generalizing count with
  | nil => simp
  | cons first rest ih =>
    rw [passObjects] at passed
    split_ifs at passed with begins overlaps
    · rcases Option.map_eq_some_iff.1 passed with ⟨later, hit, rfl⟩
      rcases ih hit with ⟨old, behind⟩
      refine ⟨fun obj mem => ?_, behind⟩
      rcases mem_cons.1 mem with rfl | inRest
      · exact Nat.not_lt.1 overlaps
      · exact old obj inRest
    · cases passed
      refine ⟨by simp, fun obj mem => ?_⟩
      cases mem
      exact Nat.not_lt.1 begins

lemma Apart.behind_head (apart : Apart objs)
    (behind : ∀ obj ∈ objs.head?, upper ≤ obj) :
    ∀ obj ∈ objs, upper ≤ obj := by
  cases objs with
  | nil => exact nofun
  | cons first rest =>
    have begins := behind first rfl
    intro obj mem
    rcases mem_cons.1 mem with rfl | inRest
    · exact begins
    · have after := (pairwise_cons.1 apart).1 obj inRest
      omega

/-- The table is the one received, and no object before the hint is behind the position. -/
structure Guarded (objects : List Nat) (parcel : Parcel) : Prop where
  table : parcel.mObjects = objects
  passed : ∀ object ∈ objects.take parcel.mNextObjectHint, object + flatSize ≤ parcel.mDataPos

lemma Guarded.validateReadData (guarded : Guarded objs p) (apart : Apart objs)
    (upper : Nat) :
    Guarded objs (p.validateReadData upper).2 ∧
      (p.validateReadData upper).2.mDataPos = p.mDataPos ∧
      ((p.validateReadData upper).1 = .noError → ∀ obj ∈ objs,
        obj + flatSize ≤ p.mDataPos ∨ upper ≤ obj) := by
  have check : ∀ low : Parcel, Guarded objs low →
      Guarded objs (low.checkObjects upper).2 ∧
        (low.checkObjects upper).2.mDataPos = low.mDataPos ∧
        ((low.checkObjects upper).1 = .noError → ∀ obj ∈ objs,
          obj + flatSize ≤ low.mDataPos ∨ upper ≤ obj) := by
    intro low startGuarded
    unfold checkObjects
    rw [startGuarded.table]
    cases res : passObjects low.mDataPos upper (objs.drop low.mNextObjectHint) with
    | none => exact ⟨startGuarded, rfl, nofun⟩
    | some count =>
      rcases passObjects_some res with ⟨old, behind⟩
      rw [drop_drop] at behind
      have ended : ∀ obj ∈ objs.take (low.mNextObjectHint + count),
          obj + flatSize ≤ low.mDataPos := by
        intro obj mem
        rw [take_add] at mem
        rcases mem_append.1 mem with prior | later
        · exact startGuarded.passed obj prior
        · exact old obj later
      refine ⟨⟨rfl, ended⟩, rfl, fun _ obj mem => ?_⟩
      rw [← take_append_drop (low.mNextObjectHint + count) objs] at mem
      rcases mem_append.1 mem with prior | later
      · exact .inl (ended obj prior)
      · exact .inr (Apart.behind_head (apart.sublist (drop_sublist _ _)) behind obj later)
  have sorted : isSorted p.mObjects = true := by
    rw [guarded.table]
    exact apart.isSorted
  unfold Parcel.validateReadData
  split_ifs
  · exact check p guarded
  · exact check _ ⟨guarded.table, guarded.passed⟩

lemma Guarded.readRange (guarded : Guarded objs p) (apart : Apart objs)
    (padded : Nat) :
    Guarded objs (p.readRange padded).2 ∧
      ∀ off, (p.readRange padded).1 = .ok off → off = p.mDataPos ∧
        ∀ obj ∈ objs, obj + flatSize ≤ p.mDataPos ∨
          p.mDataPos + padded ≤ obj := by
  rcases guarded.validateReadData apart (p.mDataPos + padded) with ⟨check, same, clear⟩
  have moved : ∀ low : Parcel, Guarded objs low →
      Guarded objs { low with mDataPos := low.mDataPos + padded } := by
    intro low startGuarded
    refine ⟨startGuarded.table, fun obj mem => ?_⟩
    exact Nat.le_trans (startGuarded.passed obj mem) (Nat.le_add_right _ _)
  unfold Parcel.readRange
  by_cases some : p.mObjects.length > 0
  · simp only [if_pos some]
    split_ifs with done
    · refine ⟨moved _ check, fun off res => ?_⟩
      cases res
      exact ⟨rfl, clear done⟩
    · exact ⟨moved _ check, nofun⟩
  · simp only [if_neg some]
    refine ⟨moved _ guarded, fun off res => ?_⟩
    cases res
    have none : objs = [] := by
      rw [← guarded.table]
      exact eq_nil_of_length_eq_zero (Nat.eq_zero_of_not_pos some)
    exact ⟨rfl, by simp [none]⟩

/-! ## Runs -/

lemma Guarded.step {next : Parcel} (guarded : Guarded objs p) (apart : Apart objs)
    (step : p.ReadStep next) : Guarded objs next := by
  cases step with
  | refused => exact guarded
  | ranged padded => exact (guarded.readRange apart padded).1
  | unlisted =>
    refine ⟨guarded.table, fun obj mem => ?_⟩
    exact Nat.le_trans (guarded.passed obj mem) (Nat.le_add_right _ _)
  | listed i bound off =>
    -- The objects before the one at the position end before it begins.
    refine ⟨guarded.table, fun obj mem => ?_⟩
    rw [guarded.table] at bound off
    rw [getD_eq_getElem _ _ bound] at off
    rcases getElem_of_mem mem with ⟨prior, ins, rfl⟩
    have met : prior < i + 1 := by
      rw [length_take] at ins
      exact Nat.lt_of_lt_of_le ins (Nat.min_le_left _ _)
    rw [getElem_take]
    dsimp only
    rcases Nat.lt_or_ge prior i with old | late
    · have ended := pairwise_iff_getElem.1 apart prior i (by omega) bound old
      omega
    · have same : prior = i := by omega
      subst same
      omega
  | positioned pos => exact ⟨guarded.table, by simp [setDataPosition]⟩

def returnedRange (parcel : Parcel) : ReadCall → Option (Nat × Nat)
  | .read len => if (parcel.read len).1.isOk then some (parcel.mDataPos, len) else none
  | .readInplace len => (parcel.readInplace len).1.map fun offset => (offset, len)
  | .readAligned size =>
    if (parcel.readAligned size).1.isOk then some (parcel.mDataPos, size) else none
  | .readObject _ => none
  | .setDataPosition _ => none

lemma le_padSize (len : Nat) : len ≤ padSize len := by
  unfold padSize
  omega

lemma readRange_ok {padded : Nat} (res : (p.readRange padded).1 = .ok off) :
    off = p.mDataPos := by
  unfold Parcel.readRange at res
  dsimp only at res
  split_ifs at res <;> cases res <;> rfl

lemma read_ok (succeeds : (p.read len).1.isOk = true) :
    (p.readRange (padSize len)).1 = .ok p.mDataPos := by
  unfold Parcel.read at succeeds
  split_ifs at succeeds
  · cases succeeds
  · cases res : p.readRange (padSize len) with
    | mk bytes next =>
      rw [res] at succeeds
      cases bytes with
      | ok off =>
        have located : off = p.mDataPos := readRange_ok (congrArg Prod.fst res)
        rw [located]
      | error stat => cases succeeds
  · cases succeeds

lemma readInplace_some (succeeds : (p.readInplace len).1 = some off) :
    (p.readRange (padSize len)).1 = .ok off := by
  unfold Parcel.readInplace at succeeds
  by_cases long : len > int32Max
  · rw [if_pos long] at succeeds
    cases succeeds
  rw [if_neg long] at succeeds
  split at succeeds
  · cases res : p.readRange (padSize len) with
    | mk bytes next =>
      rw [res] at succeeds
      cases bytes with
      | ok low =>
        dsimp only at succeeds
        split_ifs at succeeds
        cases succeeds
        rfl
      | error stat => cases succeeds
  · cases succeeds

lemma readAligned_ok (succeeds : (p.readAligned size).1.isOk = true) :
    (p.readRange size).1 = .ok p.mDataPos := by
  unfold Parcel.readAligned at succeeds
  split_ifs at succeeds
  · cases res : p.readRange size with
    | mk bytes next =>
      rw [res] at succeeds
      cases bytes with
      | ok off =>
        have located : off = p.mDataPos := readRange_ok (congrArg Prod.fst res)
        rw [located]
      | error stat => cases succeeds
  · cases succeeds

lemma returnedRange_some (got : p.returnedRange call = some (off, len)) :
    ∃ padded, len ≤ padded ∧ (p.readRange padded).1 = .ok off := by
  cases call with
  | read count =>
    rw [returnedRange] at got
    split_ifs at got with ok
    cases got
    exact ⟨padSize len, le_padSize len, read_ok ok⟩
  | readInplace count =>
    rcases Option.map_eq_some_iff.1 got with ⟨low, ok, same⟩
    cases same
    exact ⟨padSize len, le_padSize len, readInplace_some ok⟩
  | readAligned size =>
    rw [returnedRange] at got
    split_ifs at got with ok
    cases got
    exact ⟨len, Nat.le_refl len, readAligned_ok ok⟩
  | readObject nullMetaData => cases got
  | setDataPosition pos => cases got

def Disjoint (offset len start count : Nat) : Prop :=
  ∀ index, offset ≤ index → index < offset + len → ¬ (start ≤ index ∧ index < start + count)

def stepRead (parcel : Parcel) (call : ReadCall) : Parcel := (parcel.performRead call).2

/-- After any reads of a received parcel whose table is accepted, a read that is not one of an
object returns no byte of an object. -/
theorem read_avoids_objects (data : Memory) (dataSize : Nat) (objects : List Nat)
    (accepted : acceptsObjects data 0 objects = true) (calls : List ReadCall) (call : ReadCall)
    (offset len : Nat)
    (returned : (run stepRead
      (ipcSetDataReference data dataSize objects) calls).returnedRange call = some (offset, len)) :
    ∀ object ∈ objects, Disjoint offset len object flatSize := by
  have apart := (acceptsObjects_apart accepted).2
  have got : Guarded objects (ipcSetDataReference data dataSize objects) :=
    ⟨by simp only [ipcSetDataReference, if_pos accepted], by simp [ipcSetDataReference, initState]⟩
  have always : Machine.Along stepRead (fun _ _ => True)
      (ipcSetDataReference data dataSize objects) calls :=
    along_of_forall (fun _ _ (_ : True) => trivial) _ fun _ _ => trivial
  have guarded := run_invariant
    (fun parcel call guarded _ => Guarded.step guarded apart (parcel.performRead_next call))
    got always
  rcases returnedRange_some returned with ⟨padded, covers, checked⟩
  rcases (guarded.readRange apart padded).2 offset checked with ⟨rfl, clear⟩
  intro object mem i after old inside
  rcases clear object mem with ended | begins <;> omega

def handleBetweenWords : Memory :=
  store (fun _ => 0) 4 (FlatBinderObject.bytes ⟨binderTypeHandle, 0, 1, 0⟩)

/-- The value behind the object is read after the object itself. -/
theorem read_avoids_objects_behind : acceptsObjects handleBetweenWords 0 [4] = true ∧
      (run stepRead (ipcSetDataReference handleBetweenWords 32 [4])
        [.readAligned 4, .readObject false]).returnedRange (.readAligned 4) = some (28, 4) ∧
      Disjoint 28 4 4 flatSize :=
  ⟨by decide, by decide,
    read_avoids_objects handleBetweenWords 32 [4] (by decide) [.readAligned 4, .readObject false]
      (.readAligned 4) 28 4 (by decide) 4 (by decide)⟩

/-! ## Strings with a terminator -/

lemma readCString_some (got : p.readCString.1 = some (off, len)) :
    off = p.mDataPos ∧ p.readCString.2.mDataPos = off + padSize (len + 1) ∧
      off + len < p.mDataSize ∧ p.mData (off + len) = 0 ∧
      ∀ i < len, p.mData (off + i) ≠ 0 := by
  unfold readCString at got ⊢
  split_ifs at got ⊢ with mem
  cases hit : (load p.mData p.mDataPos
      (p.mDataSize - p.mDataPos)).findIdx? (· == 0) with
  | none => simp [hit] at got
  | some count =>
    simp only [hit, Option.some.injEq, Prod.mk.injEq] at got
    rcases got with ⟨rfl, rfl⟩
    rcases findIdx?_eq_some_iff_getElem.1 hit with ⟨bound, isNul, prior⟩
    rw [Bytes.length_load] at bound
    refine ⟨rfl, by simp [hit], by omega, by simpa [load] using isNul, ?_⟩
    intro i old
    simpa [load] using prior i old

/-- A string that `readCString` returns is read by the rules of the other reads exactly if
there is a terminator in the whole words that are left, and no byte of an object up to it. -/
theorem readCString_protected_iff (parcel : Parcel) (offset len : Nat)
    (returned : parcel.readCString.1 = some (offset, len)) :
    (offset + (len + 1) ≤ parcel.mDataSize ∧
        (∀ object ∈ parcel.mObjects, Disjoint offset (len + 1) object flatSize) ∧
        parcel.readCString.2.mDataPos ≤ parcel.mDataSize) ↔
      ∃ index < (parcel.mDataSize - parcel.mDataPos) / 4 * 4,
        parcel.mData (parcel.mDataPos + index) = 0 ∧
        ∀ object ∈ parcel.mObjects, Disjoint parcel.mDataPos (index + 1) object flatSize := by
  rcases readCString_some returned with ⟨rfl, moved, bound, isNul, prior⟩
  rw [moved, padSize]
  constructor
  · rintro ⟨_, apart, whole⟩
    exact ⟨len, by omega, isNul, apart⟩
  · rintro ⟨index, whole, zero, apart⟩
    have reached : len ≤ index := Nat.le_of_not_lt fun old => prior index old zero
    refine ⟨bound, ?_, by omega⟩
    intro object mem place after old
    exact apart object mem place after (by omega)

/-- A string of one character in front of an object. -/
theorem readCString_protected_iff_before :
    let parcel := ipcSetDataReference (store handleBetweenWords 0 [65]) 32 [4]
    0 + (1 + 1) ≤ parcel.mDataSize ∧
      (∀ obj ∈ parcel.mObjects, Disjoint 0 (1 + 1) obj flatSize) ∧
      parcel.readCString.2.mDataPos ≤ parcel.mDataSize := by
  refine (readCString_protected_iff _ 0 1 (by decide)).2 ⟨1, by decide, by decide, ?_⟩
  rintro object (_ | ⟨_, ⟨⟩⟩) place _ before ⟨inside, _⟩
  exact absurd (Nat.lt_of_lt_of_le before (by decide)) (Nat.not_lt.2 inside)

/-- The type of an object is returned as a string. -/
theorem readCString_returns_object :
    let parcel := (ipcSetDataReference handleBetweenWords 32 [4]).setDataPosition 4
    parcel.readCString.1 = some (4, 4) ∧ ¬ Disjoint 4 (4 + 1) 4 flatSize := by
  refine ⟨by decide, ?_⟩
  intro apart
  exact apart 4 (by decide) (by decide) (by decide)

end Parcel

end NativeLibs.Binder
