import Mathlib.Data.List.Induction
import NativeLibs.Binder.ParcelCapacity

/-! # The objects of a parcel

The table of objects of a parcel lists objects in its data. `continueWrite` drops only the
objects at the end of the table that begin behind the new size, and `appendFrom` takes over
every object between the first and the last one of a range. -/

namespace NativeLibs.Binder

open Bytes (Memory store load)
open Machine (run)
open List

namespace Parcel

variable {parcel next : Parcel}

/-- The objects are in the data, and the hint is not behind the table. -/
structure Tabled (parcel : Parcel) : Prop where
  entries : ∀ object ∈ parcel.mObjects, object + flatSize ≤ parcel.mDataSize
  hint : parcel.mNextObjectHint ≤ parcel.mObjects.length
  empty : parcel.allocated = false → parcel.mDataCapacity = 0 ∧ parcel.mDataSize = 0
  received : parcel.hasOwner = true → parcel.mDataSize ≤ parcel.mDataCapacity
  bounded : parcel.mDataCapacity < 2 ^ 64

lemma tabled_initState : Tabled initState :=
  ⟨nofun, Nat.le_refl 0, fun _ => ⟨rfl, rfl⟩, nofun, by decide⟩

/-! ## Reading -/

lemma Tabled.read (tab : parcel.Tabled) (step : parcel.ReadStep next) : next.Tabled := by
  have same := step.sameBuffer
  suffices (∀ obj ∈ next.mObjects, obj ∈ parcel.mObjects) ∧
      next.mNextObjectHint ≤ next.mObjects.length by
    refine ⟨fun obj mem => ?_, this.2, ?_, ?_, same.capacity ▸ tab.bounded⟩
    · rw [same.size]
      exact tab.entries obj (this.1 obj mem)
    · rw [same.allocated, same.capacity, same.size]
      exact tab.empty
    · rw [same.owner, same.capacity, same.size]
      exact tab.received
  cases step with
  | refused => exact ⟨fun _ mem => mem, tab.hint⟩
  | ranged padded =>
    rcases parcel.readRange_next padded with ⟨objs, hint, sorted, permuted, bound, moved⟩
    rw [moved]
    refine ⟨fun obj mem => permuted.subset mem, ?_⟩
    rw [permuted.length_eq]
    exact bound tab.hint
  | unlisted => exact ⟨fun _ mem => mem, tab.hint⟩
  | listed i bound _ => exact ⟨fun _ mem => mem, bound⟩
  | positioned => exact ⟨fun _ mem => mem, Nat.zero_le _⟩

/-! ## Writing -/

lemma Grown.unowned (grown : parcel.Grown want next) : next.hasOwner = false := by
  cases grown with
  | takenOver => rfl
  | reallocated owned => exact owned
  | kept owned => exact owned
  | first owned => exact owned

lemma Grown.objects (grown : parcel.Grown want next) : next.mObjects = parcel.mObjects := by
  cases grown <;> rfl

section

variable (tab : parcel.Tabled)
include tab

lemma Tabled.grown_size (grown : parcel.Grown want next) : next.mDataSize = parcel.mDataSize := by
  cases grown with
  | first _ free => exact (tab.empty free).2.symm
  | _ => rfl

lemma Tabled.grown (fits : want ≤ int32Max) (grown : parcel.Grown want next) : next.Tabled := by
  have maximum : int32Max < 2 ^ 64 := by decide
  refine ⟨?_, ?_, ?_, ?_, ?_⟩
  · rw [grown.objects, tab.grown_size grown]
    exact tab.entries
  · rw [grown.objects]
    cases grown with
    | takenOver => exact Nat.zero_le _
    | _ => exact tab.hint
  · intro free
    exact Bool.noConfusion (grown.allocated.symm.trans free)
  · intro owned
    exact Bool.noConfusion (grown.unowned.symm.trans owned)
  · have bound := tab.bounded
    cases grown with
    | kept => exact bound
    | _ => exact Nat.lt_of_le_of_lt fits maximum

lemma Tabled.roomy (roomy : parcel.Roomy len ready) : ready.Tabled := by
  cases roomy with
  | before => exact tab
  | grown _ can grown => exact tab.grown can.2 grown

lemma Tabled.write (step : parcel.WriteStep next) : next.Tabled := by
  cases step with
  | refused => exact tab
  | roomless roomless =>
    cases roomless with
    | refused => exact tab
    | outOfMemory => exact { tab with }
  | stopped roomy data cap => exact { tab.roomy roomy with }
  | @finished len ready roomy data cap objs listed =>
    have readyTabled := tab.roomy roomy
    refine ⟨?_, ?_, ?_, ?_, readyTabled.bounded⟩
    · have prior : ∀ obj ∈ ready.mObjects, obj + flatSize ≤
          max ready.mDataSize (ready.mDataPos + len) := fun obj mem =>
        Nat.le_trans (readyTabled.entries obj mem) (Nat.le_max_left _ _)
      rcases listed with rfl | ⟨rfl, rfl⟩
      · exact prior
      · exact forall_mem_append.2 ⟨prior, forall_mem_singleton.2 (Nat.le_max_right _ _)⟩
    · have bound := readyTabled.hint
      rcases listed with rfl | ⟨rfl, _⟩
      · exact bound
      · exact Nat.le_trans bound (by simp)
    · intro free
      have empty := readyTabled.empty free
      cases roomy with
      | before fits =>
        dsimp only
        omega
      | grown _ _ grown => exact Bool.noConfusion (grown.allocated.symm.trans free)
    · intro owned
      cases roomy with
      | before fits => exact Nat.max_le.2 ⟨tab.received owned, fits⟩
      | grown _ _ grown => exact Bool.noConfusion (grown.unowned.symm.trans owned)

end

/-! ## Cutting -/

/-- No object that stays in the table is cut: an object stays if it, or a later one, begins
before the new size. -/
def CutsNone (parcel : Parcel) (size : Nat) : Prop :=
  ∀ later < parcel.mObjects.length, parcel.mObjects.getD later 0 < size →
    ∀ index ≤ later, parcel.mObjects.getD index 0 + flatSize ≤ size

instance (size : Nat) : Decidable (parcel.CutsNone size) :=
  inferInstanceAs (Decidable (∀ later < parcel.mObjects.length, _ → ∀ index ≤ later, _ ≤ _))

lemma keptObjects_spec (objs : List Nat) (want count : Nat) :
    keptObjects objs want count ≤ count ∧
      ∀ i < keptObjects objs want count, ∃ later, i ≤ later ∧ later < count ∧
        objs.getD later 0 < want := by
  induction count with
  | zero => exact ⟨Nat.le_refl 0, nofun⟩
  | succ count ih =>
    rw [keptObjects]
    split_ifs with begins
    · exact ⟨Nat.le_refl _, fun i bound => ⟨count, by omega, by omega, begins⟩⟩
    · refine ⟨Nat.le_succ_of_le ih.1, fun i bound => ?_⟩
      rcases ih.2 i bound with ⟨later, after, mem, before⟩
      exact ⟨later, after, by omega, before⟩

lemma Tabled.kept (tab : parcel.Tabled) (cutsNone : parcel.CutsNone want) :
    ∀ obj ∈ parcel.mObjects.take (parcel.objectsSize want), obj + flatSize ≤ want := by
  intro obj mem
  unfold objectsSize at mem
  split_ifs at mem with smaller zero
  · simp at mem
  · rcases getElem_of_mem mem with ⟨i, bound, rfl⟩
    rw [length_take] at bound
    rcases (keptObjects_spec parcel.mObjects want parcel.mObjects.length).2 i (by omega) with
      ⟨later, after, ins, before⟩
    have ends := cutsNone later ins before i after
    rw [getElem_take]
    rwa [getD_eq_getElem _ _ (by omega)] at ends
  · rw [take_length] at mem
    exact Nat.le_trans (tab.entries obj mem) (Nat.not_lt.1 smaller)

lemma dropObjects_objects (parcel : Parcel) (count : Nat) (heap : Heap) :
    (parcel.dropObjects count heap).mObjects = parcel.mObjects.take count := by
  unfold dropObjects
  by_cases fewer : count < parcel.mObjects.length
  · rw [if_pos fewer]
  · rw [if_neg fewer, take_of_length_le (Nat.not_lt.1 fewer)]

section

variable (tab : parcel.Tabled)
include tab

lemma Tabled.dropObjects_hint (count : Nat) (heap : Heap) :
    (parcel.dropObjects count heap).mNextObjectHint ≤
      (parcel.dropObjects count heap).mObjects.length := by
  unfold dropObjects
  by_cases fewer : count < parcel.mObjects.length
  · rw [if_pos fewer]
    exact Nat.zero_le _
  · rw [if_neg fewer]
    exact tab.hint

/-- What `continueWrite` leaves of a parcel when it succeeds. -/
structure Continued (parcel : Parcel) (desired : Nat) (next : Parcel) : Prop where
  objects : next.mObjects.Sublist (parcel.mObjects.take (parcel.objectsSize desired))
  hint : next.mNextObjectHint ≤ next.mObjects.length
  unowned : next.hasOwner = false
  bounded : next.mDataCapacity < 2 ^ 64
  empty : next.allocated = false → next.mDataCapacity = 0 ∧ desired = 0
  size : parcel.mDataCapacity < desired → next.mDataSize = parcel.mDataSize

lemma Tabled.continueWrite (done : (parcel.continueWrite want heap).1 = .noError) :
    parcel.Continued want (parcel.continueWrite want heap).2 := by
  have maximum : int32Max < 2 ^ 64 := by decide
  unfold Parcel.continueWrite at done ⊢
  by_cases big : want > int32Max
  · rw [if_pos big] at done
    cases done
  have small : want < 2 ^ 64 := Nat.lt_of_le_of_lt (Nat.not_lt.1 big) maximum
  rw [if_neg big] at done ⊢
  dsimp only at done ⊢
  split_ifs at done ⊢ with owned given
  · unfold takeOver at done ⊢
    split_ifs at done ⊢ with zero memory tables
    · exact ⟨nil_sublist _, Nat.le_refl 0, rfl, by decide, fun _ => ⟨rfl, zero⟩,
        fun larger => by omega⟩
    · cases done
    · cases done
    · refine ⟨List.Sublist.refl _, Nat.zero_le _, rfl, small, Bool.noConfusion, fun larger => ?_⟩
      exact Nat.min_eq_left (Nat.le_trans (tab.received owned) (Nat.le_of_lt larger))
  · have same := parcel.dropObjects_sameBuffer (parcel.objectsSize want) heap
    have objs := parcel.dropObjects_objects (parcel.objectsSize want) heap
    have hint := tab.dropObjects_hint (parcel.objectsSize want) heap
    generalize parcel.dropObjects (parcel.objectsSize want) heap = low at done same objs hint ⊢
    have subl : low.mObjects.Sublist (parcel.mObjects.take (parcel.objectsSize want)) :=
      objs ▸ .refl _
    have unowned : low.hasOwner = false := same.owner.trans (by simpa using owned)
    have never : ∀ {P : Prop}, low.allocated = false → P := fun free =>
      Bool.noConfusion ((same.allocated.trans given).symm.trans free)
    unfold resize at done ⊢
    split_ifs at done ⊢ with more memory
    · exact ⟨subl, hint, unowned, small, never, fun _ => same.size⟩
    · cases done
    · refine ⟨subl, hint, unowned, same.capacity ▸ tab.bounded, never, fun larger => ?_⟩
      rw [same.capacity] at more
      exact absurd larger more
  · have free : parcel.allocated = false := by simpa using given
    have all : parcel.objectsSize want = parcel.mObjects.length := by
      rw [objectsSize, (tab.empty free).2, if_neg (Nat.not_lt_zero _)]
    unfold firstData at done ⊢
    split_ifs at done ⊢
    · refine ⟨?_, tab.hint, by simpa using owned, small, Bool.noConfusion, fun _ => ?_⟩
      · rw [all, take_length]
      · exact (tab.empty free).2.symm
    · cases done

lemma Tabled.setDataSize (done : (parcel.setDataSize size heap).1 = .noError)
    (cutsNone : parcel.CutsNone size) : (parcel.setDataSize size heap).2.Tabled := by
  have continued : (parcel.continueWrite size heap).1 = .noError →
      parcel.Continued size (parcel.continueWrite size heap).2 := tab.continueWrite
  unfold Parcel.setDataSize at done ⊢
  by_cases big : size > int32Max
  · rw [if_pos big] at done
    cases done
  · rw [if_neg big] at done ⊢
    generalize parcel.continueWrite size heap = res at done continued ⊢
    rcases res with ⟨stat, next⟩
    cases stat with
    | noError =>
      rcases continued rfl with ⟨objs, hint, unowned, bound, empty, _⟩
      refine ⟨fun obj mem => ?_, hint, empty, fun owned => ?_, bound⟩
      · exact tab.kept cutsNone obj (objs.subset mem)
      · exact Bool.noConfusion (unowned.symm.trans owned)
    | _ => cases done

lemma Tabled.setDataCapacity (done : (parcel.setDataCapacity size heap).1 = .noError) :
    (parcel.setDataCapacity size heap).2.Tabled := by
  unfold Parcel.setDataCapacity at done ⊢
  split_ifs at done ⊢ with big larger
  · rcases tab.continueWrite done with ⟨objs, hint, unowned, bound, empty, same⟩
    refine ⟨fun obj mem => ?_, hint, fun free => ?_, fun owned => ?_, bound⟩
    · rw [same larger]
      exact tab.entries obj (mem_of_mem_take (objs.subset mem))
    · have zero := (empty free).2
      omega
    · exact Bool.noConfusion (unowned.symm.trans owned)
  · exact tab

end

/-! ## Appending -/

def TakesWhole (source : Parcel) (offset len : Nat) : Prop :=
  ∀ last < source.mObjects.length, inRange offset len (source.mObjects.getD last 0) = true →
    ∀ index ≤ last, ∀ first ≤ index, inRange offset len (source.mObjects.getD first 0) = true →
      inRange offset len (source.mObjects.getD index 0) = true

instance (offset len : Nat) : Decidable (parcel.TakesWhole offset len) :=
  inferInstanceAs (Decidable (∀ last < parcel.mObjects.length, _ → ∀ index ≤ last,
    ∀ first ≤ index, _ → _ = true))

lemma objectRange_append (objs : List Nat) (obj off len : Nat) :
    objectRange (objs ++ [obj]) off len = if inRange off len obj then
        some (((objectRange objs off len).map Prod.fst).getD objs.length, objs.length)
      else objectRange objs off len := by
  unfold objectRange
  rw [zipIdx_append, foldl_append]
  generalize foldl _ none objs.zipIdx = range
  cases range <;> simp

lemma filter_taken (src : Parcel) (off len : Nat) : (src.taken off len).filter (inRange off len) =
      src.mObjects.filter (inRange off len) := by
  unfold taken
  generalize src.mObjects = objs
  induction objs using reverseRecOn with
  | nil => rfl
  | append_singleton objs obj ih =>
    rw [objectRange_append, filter_append]
    have all : (objs ++ [obj]).take (objs.length + 1) = objs ++ [obj] :=
      take_of_length_le (by simp)
    cases hit : objectRange objs off len with
    | none =>
      simp only [hit, Option.elim_none, filter_nil] at ih
      by_cases mem : inRange off len obj = true <;> simp [mem, all, ← ih]
    | some range =>
      rcases objectRange_some hit with ⟨⟨first, _⟩, last, _⟩
      simp only [hit, Option.elim_some] at ih
      by_cases mem : inRange off len obj = true
      · have kept : (objs.drop range.1).filter (inRange off len) =
            objs.filter (inRange off len) := by
          apply ((drop_sublist _ _).filter _).antisymm
          rw [← ih]
          exact ((take_sublist _ _).drop _).filter _
        simp [mem, all, drop_append_of_le_length (Nat.le_of_lt first), kept]
      · simp [mem, take_append_of_le_length (Nat.succ_le_of_lt last), ih]

lemma TakesWhole.taken {src : Parcel} (takesWhole : src.TakesWhole off len) :
    src.taken off len = src.mObjects.filter (inRange off len) := by
  rw [← filter_taken, eq_comm, filter_eq_self]
  intro obj mem
  unfold Parcel.taken at mem
  cases hit : objectRange src.mObjects off len with
  | none => simp [hit] at mem
  | some range =>
    rcases objectRange_some hit with ⟨first, last⟩
    simp only [hit, Option.elim_some] at mem
    rcases getElem_of_mem mem with ⟨i, bound, rfl⟩
    simp only [length_drop, length_take] at bound
    have whole := takesWhole range.2 last.1 last.2 (range.1 + i) (by omega) range.1 (by omega)
      first.2
    rw [getElem_drop, getElem_take]
    rwa [getD_eq_getElem _ _ (by omega)] at whole

lemma bounds_of_mem_filter {objs : List Nat} (mem : obj ∈ objs.filter (inRange off len)) :
    off ≤ obj ∧ obj + flatSize ≤ off + len := by
  simpa [inRange] using (mem_filter.1 mem).2

lemma appendedOffset_of_mem {objs : List Nat} (small : startPos + len < 2 ^ 64)
    (mem : obj ∈ objs.filter (inRange off len)) :
    appendedOffset off startPos obj = obj - off + startPos := by
  have box := bounds_of_mem_filter mem
  unfold appendedOffset
  omega

section

variable (tab : parcel.Tabled)
include tab

lemma Tabled.appendFrom (win : parcel.mDataPos ≤ parcel.mDataSize)
    (takesWhole : src.TakesWhole off len) (dup : Nat → BitVec 32) (heap : Heap) :
    (parcel.appendFrom src off len dup heap).2.Tabled := by
  rcases parcel.appendFrom_next src off len dup heap with
    ⟨_, same⟩ | bad | ⟨ready, pos, room, res⟩
  · rw [same]
    exact tab
  · rw [bad]
    exact { tab with }
  have readyTabled : ready.Tabled ∧ ready.mDataSize = parcel.mDataSize ∧
      parcel.mDataSize + len ≤ ready.mDataCapacity := by
    rcases room with ⟨fits, rfl⟩ | ⟨past, can, grown⟩
    · exact ⟨tab, rfl, fits⟩
    · refine ⟨tab.grown can.2 grown, tab.grown_size grown, ?_⟩
      have wanted := parcel.size_add_le_wantedSize len
      cases grown with
      | kept _ _ suff => exact Nat.le_trans wanted suff
      | _ => exact wanted
  rcases readyTabled with ⟨readyTabled, readySize, fits⟩
  have bound := readyTabled.bounded
  rcases appendObjects_next (ready.copyFrom src off len) src off len
    parcel.mDataPos dup heap with ⟨data, appended, cap, same, added⟩
  rw [res, same]
  refine ⟨fun obj mem => ?_, ?_, fun free => ?_, fun _ => ?_, bound⟩
  · rcases mem_append.1 mem with prior | later
    · have ins := readyTabled.entries obj prior
      exact Nat.le_trans ins (Nat.le_add_right _ _)
    · rcases added with ⟨_, rfl⟩ | ⟨rfl, _⟩
      · cases later
      rw [takesWhole.taken] at later
      rcases mem_map.1 later with ⟨obj, taken, rfl⟩
      have small : parcel.mDataPos + len < 2 ^ 64 := by omega
      have noWrap := appendedOffset_of_mem small taken
      have box := bounds_of_mem_filter taken
      simp only [copyFrom]
      omega
  · exact Nat.le_trans readyTabled.hint (by simp [copyFrom])
  · have empty := readyTabled.empty free
    omega
  · simp only [copyFrom]
    omega

/-! ## Runs -/

def KeepsObjects (parcel : Parcel) : Call → Prop
  | .setDataSize size _ => parcel.CutsNone size
  | .appendFrom source offset len _ _ =>
    parcel.mDataPos ≤ parcel.mDataSize ∧ source.TakesWhole offset len
  | _ => True

instance (parcel : Parcel) : (call : Call) → Decidable (parcel.KeepsObjects call)
  | .setDataSize size _ => inferInstanceAs (Decidable (parcel.CutsNone size))
  | .appendFrom _ _ _ _ _ => inferInstanceAs (Decidable (_ ∧ _))
  | .reading _ => .isTrue trivial
  | .write _ _ => .isTrue trivial
  | .writeInplace _ _ => .isTrue trivial
  | .writeAligned _ _ => .isTrue trivial
  | .writeUnpadded _ _ => .isTrue trivial
  | .writeObject _ _ _ => .isTrue trivial
  | .setDataCapacity _ _ => .isTrue trivial

lemma Tabled.step (ok : (parcel.perform call).1 = true) (keeps : parcel.KeepsObjects call) :
    (parcel.step call).Tabled := by
  cases call with
  | reading call => exact tab.read (parcel.performRead_next call)
  | write bytes heap => exact tab.write (parcel.write_writeStep bytes heap)
  | writeInplace len heap => exact tab.write (parcel.writeInplace_writeStep len heap)
  | writeAligned v heap => exact tab.write (parcel.writeAligned_writeStep v heap)
  | writeUnpadded bytes heap => exact tab.write (parcel.writeUnpadded_writeStep bytes heap)
  | writeObject obj nullMetaData heap =>
    exact tab.write (parcel.writeObject_writeStep obj nullMetaData heap)
  | appendFrom src off len dup heap => exact tab.appendFrom keeps.1 keeps.2 dup heap
  | setDataSize size heap => exact tab.setDataSize (of_decide_eq_true ok) keeps
  | setDataCapacity size heap => exact tab.setDataCapacity (of_decide_eq_true ok)

end

def Delivered (parcel : Parcel) : Prop :=
  parcel = initState ∨ ∃ data dataSize objects, dataSize < 2 ^ 64 ∧
    (∀ object ∈ objects, object + flatSize ≤ dataSize) ∧
      parcel = ipcSetDataReference data dataSize objects

lemma Delivered.tabled (given : parcel.Delivered) : parcel.Tabled := by
  rcases given with rfl | ⟨data, dataSize, objs, small, ins, rfl⟩
  · exact tabled_initState
  · refine ⟨fun obj mem => ?_, Nat.zero_le _, nofun, fun _ => Nat.le_refl _, small⟩
    simp only [ipcSetDataReference] at mem
    split_ifs at mem
    · exact ins obj mem
    · exact absurd mem (by simp)

/-- Over any calls that succeed and leave the objects in the data, the table lists objects in
the data and the hint is not behind it. -/
theorem objects_in_data (start : Parcel) (delivered : start.Delivered) (calls : List Call)
    (along : Machine.Along step (fun parcel call =>
      (parcel.perform call).1 = true ∧ parcel.KeepsObjects call) start calls) :
    (∀ object ∈ (run step start calls).mObjects,
        object + flatSize ≤ (run step start calls).dataSize) ∧
      (run step start calls).mNextObjectHint ≤ (run step start calls).mObjects.length := by
  have tabled : (run step start calls).Tabled :=
    Machine.run_invariant (fun parcel call tabled ok => tabled.step ok.1 ok.2)
      delivered.tabled along
  refine ⟨fun object mem => Nat.le_trans (tabled.entries object mem) ?_, tabled.hint⟩
  unfold dataSize
  split_ifs with less
  · exact Nat.le_refl _
  · exact Nat.not_lt.1 less

def someHandle : FlatBinderObject := ⟨binderTypeHandle, 0, 1, 0⟩

def objectThenSize (size : Nat) : List Call :=
  [.writeObject someHandle false plentiful, .writeAligned (.word 1) plentiful,
    .setDataSize size plentiful]

/-- The data is cut behind the object. -/
theorem objects_in_data_behind : (∀ object ∈ (run step initState (objectThenSize 25)).mObjects,
        object + flatSize ≤ (run step initState (objectThenSize 25)).dataSize) ∧
      (run step initState (objectThenSize 25)).mNextObjectHint ≤
        (run step initState (objectThenSize 25)).mObjects.length :=
  objects_in_data initState (.inl rfl) (objectThenSize 25) (by decide)

/-- The data is cut in the object, which stays in the table. -/
theorem object_cut_stays :
    Machine.Along step (fun parcel call => (parcel.perform call).1 = true) initState
        (objectThenSize 10) ∧ (run step initState (objectThenSize 10)).mObjects = [0] ∧
      (run step initState (objectThenSize 10)).dataSize = 10 := by
  decide

/-! ## What is appended -/

/-- The table begins at the position or before it, ends at it or behind it, and no two
neighbours step over it. A sorted table is so for each of its entries. -/
def Reaches (objects : List Nat) (position : Nat) : Prop :=
  objects.getD 0 0 ≤ position ∧ position ≤ objects.getD (objects.length - 1) 0 ∧
    ∀ index, index + 1 < objects.length →
      ¬ (objects.getD index 0 < position ∧ position < objects.getD (index + 1) 0)

section

variable {objs : List Nat}

lemma searchForward_stops (suff : objs.length ≤ i + fuel)
    (bound : i < objs.length) (last : pos ≤ objs.getD (objs.length - 1) 0) :
    pos ≤ objs.getD (searchForward objs pos fuel i) 0 := by
  induction fuel generalizing i with
  | zero => omega
  | succ fuel ih =>
    rw [searchForward]
    split_ifs with more
    · exact ih (by omega) (by omega)
    · rcases Nat.lt_or_ge i (objs.length - 1) with inner | outer
      · omega
      · rwa [show i = objs.length - 1 by omega]

lemma searchBackward_stops (first : objs.getD 0 0 ≤ pos) (i : Nat) :
    objs.getD (searchBackward objs pos i) 0 ≤ pos ∧ (searchBackward objs pos i < i →
        pos < objs.getD (searchBackward objs pos i + 1) 0) := by
  induction i with
  | zero => exact ⟨first, by simp⟩
  | succ i ih =>
    rw [searchBackward]
    split_ifs with behind
    · refine ⟨ih.1, fun _ => ?_⟩
      rcases Nat.lt_or_eq_of_le (searchBackward_le objs pos i) with less | same
      · exact ih.2 less
      · rwa [same]
    · exact ⟨Nat.not_lt.1 behind, fun less => absurd less (Nat.lt_irrefl _)⟩

lemma searchBackward_of_le (before : objs.getD i 0 ≤ pos) : searchBackward objs pos i = i := by
  cases i with
  | zero => rfl
  | succ i => rw [searchBackward, if_neg (Nat.not_lt.2 before)]

lemma Reaches.findObject (reaches : Reaches objs pos) (any : 0 < objs.length)
    (hint : Nat) : findObject objs pos hint ≠ none := by
  rcases reaches with ⟨first, last, steps⟩
  unfold Parcel.findObject
  rw [if_neg (Nat.ne_of_gt any)]
  generalize met : (if hint < objs.length then
    searchForward objs pos objs.length hint else objs.length - 1) = forward
  have stops : forward < objs.length ∧ pos ≤ objs.getD forward 0 := by
    rw [← met]
    split_ifs with mem
    · exact ⟨searchForward_lt _ mem, searchForward_stops (by omega) mem last⟩
    · exact ⟨by omega, last⟩
  rcases searchBackward_stops first forward with ⟨before, behind⟩
  have backward := searchBackward_le objs pos forward
  dsimp only
  split_ifs with atForward atBackward
  · simp
  · simp
  · generalize searchBackward objs pos forward = i at *
    have less : i < forward := by
      apply Nat.lt_of_le_of_ne backward
      rintro rfl
      omega
    exact absurd ⟨by omega, behind less⟩ (steps i (by omega))

lemma findObject_at (mem : i < objs.length) (stops : pos ≤ objs.getD i 0 ∨ i = objs.length - 1)
    (hit : findObject objs pos i ≠ none) : objs.getD i 0 = pos ∨
      objs.getD (searchBackward objs pos i) 0 = pos := by
  have stays : searchForward objs pos objs.length i = i := by
    cases objs.length with
    | zero => rfl
    | succ fuel => rw [searchForward, if_neg (by omega)]
  unfold findObject at hit
  rw [if_neg (by omega), if_pos mem, stays] at hit
  dsimp only at hit
  split_ifs at hit with atIndex atBackward
  · exact .inl atIndex
  · exact .inr atBackward
  · exact absurd rfl hit

end

/-- At an entry of the table `readObject` succeeds whatever the hint is exactly if the table
reaches the entry. -/
theorem readObject_listed_iff (parcel : Parcel) (listed : parcel.mDataPos ∈ parcel.mObjects)
    (inData : parcel.mDataPos + flatSize ≤ parcel.mDataSize) :
    (∀ hint, ({ parcel with mNextObjectHint := hint }.readObject true).1 =
        some parcel.mDataPos) ↔ Reaches parcel.mObjects parcel.mDataPos := by
  have any := length_pos_of_mem listed
  have ok : ∀ hint, ({ parcel with mNextObjectHint := hint }.readObject true).1 =
      some parcel.mDataPos ↔ findObject parcel.mObjects parcel.mDataPos hint ≠ none := by
    intro hint
    simp only [readObject, if_pos inData, Bool.not_true, Bool.false_and, Bool.false_eq_true,
      if_false]
    cases findObject parcel.mObjects parcel.mDataPos hint <;> simp
  simp only [ok]
  constructor
  · intro found
    refine ⟨?_, ?_, ?_⟩
    · by_contra behind
      have looked := findObject_at any (.inl (by omega)) (found 0)
      rw [searchBackward] at looked
      omega
    · by_contra before
      have looked := findObject_at (by omega) (.inr rfl) (found (parcel.mObjects.length - 1))
      rw [searchBackward_of_le (by omega)] at looked
      omega
    · rintro i mem ⟨less, greater⟩
      have looked := findObject_at mem (.inl (by omega)) (found (i + 1))
      rw [searchBackward, if_pos greater, searchBackward_of_le (by omega)] at looked
      omega
  · exact fun reaches => reaches.findObject any

def writtenBackwards : List Call :=
  [.setDataCapacity 48 plentiful, .reading (.setDataPosition 24),
    .writeObject someHandle false plentiful, .reading (.setDataPosition 0),
    .writeObject someHandle false plentiful, .reading (.setDataPosition 0)]

def amongThree : Parcel :=
  run step initState (replicate 3 (.writeObject someHandle false plentiful) ++
    [.reading (.setDataPosition 24)])

/-- The object is found from the one behind it. -/
theorem readObject_listed_iff_amongThree :
    ({ amongThree with mNextObjectHint := 2 }.readObject true).1 = some 24 := by
  refine (readObject_listed_iff amongThree (by decide) (by decide)).2
    ⟨by decide, by decide, fun index mem => ?_⟩ 2
  have few : index < 2 := Nat.lt_of_succ_lt_succ mem
  rcases (by omega : index = 0 ∨ index = 1) with rfl | rfl <;> decide

/-- The object that was written last is not found. -/
theorem written_object_not_found :
    Machine.Along step (fun parcel call => (parcel.perform call).1 = true) initState
        writtenBackwards ∧ (run step initState writtenBackwards).mObjects = [24, 0] ∧
      (run step initState writtenBackwards).mDataPos = 0 ∧
      (run step initState writtenBackwards).mDataSize = 48 ∧
      ((run step initState writtenBackwards).readObject true).1 = none := by
  decide

end Parcel

end NativeLibs.Binder
