import NativeLibs.Foundation.Machine
import Mathlib

/-! # Axis values of a pointer

`PointerCoords` stores the values of the axes in use densely, in the order of the axes. -/

namespace NativeLibs.Input.Axes

/-- A `Value` is a `float`. Those that compare equal are one. -/
structure PointerCoords (Value : Type) where
  bits : Nat → Bool
  values : Nat → Value

inductive AxisStatus
  | ok
  | nameNotFound
  | noMemory
  deriving DecidableEq

namespace PointerCoords

def MAX_AXES : Nat := 30

/-- `BitSet64::getIndexOfBit`. For 64 it is the number of all bits. -/
def getIndexOfBit (bits : Nat → Bool) (bit : Nat) : Nat := Nat.count (bits · = true) bit

variable {Value : Type} [Zero Value] (coords : PointerCoords Value)

def clear : PointerCoords Value := ⟨fun _ => false, fun _ => 0⟩

def stored (axis : Nat) : Value :=
  if coords.bits axis = true then coords.values (getIndexOfBit coords.bits axis) else 0

def getAxisValue (axis : Int) : Value :=
  if axis < 0 ∨ 63 < axis then 0 else coords.stored axis.toNat

def insert (axis : Nat) : PointerCoords Value where
  bits := Function.update coords.bits axis true
  values := fun index =>
    if getIndexOfBit coords.bits axis < index ∧ index ≤ getIndexOfBit coords.bits 64 then
      coords.values (index - 1)
    else coords.values index

def store (axis : Nat) (value : Value) : PointerCoords Value :=
  { coords with
    values := Function.update coords.values (getIndexOfBit coords.bits axis) value }

variable {coords} {axis other : Nat}

lemma stored_store (marked : coords.bits axis = true) (v : Value) (other : Nat) :
    (coords.store axis v).stored other = if other = axis then v else coords.stored other := by
  unfold stored store
  by_cases same : other = axis
  · simp [same, marked]
  · by_cases used : coords.bits other = true
    · have ne : getIndexOfBit coords.bits other ≠ getIndexOfBit coords.bits axis := by
        rcases Nat.lt_or_gt_of_ne same with old | after
        · exact (Nat.count_strict_mono used old).ne
        · exact (Nat.count_strict_mono marked after).ne'
      simp [same, used, ne]
    · simp [same, used]

lemma stored_insert (unmarked : coords.bits axis = false) (ne : other ≠ axis)
    (mem : other < 64) : (coords.insert axis).stored other = coords.stored other := by
  simp only [stored, insert, Function.update_of_ne ne]
  by_cases used : coords.bits other = true
  · have i : ∀ bit, getIndexOfBit (Function.update coords.bits axis true) bit =
        getIndexOfBit coords.bits bit + if axis < bit then 1 else 0 := by
      intro bit
      induction bit with
      | zero => rfl
      | succ bit ih =>
        simp only [getIndexOfBit, Nat.count_succ, Function.update_apply] at ih ⊢
        rw [ih]
        by_cases same : bit = axis
        · simp [same, unmarked]
        · simp only [same, if_false]
          split_ifs <;> omega
    have lower : ∀ bit, other < bit → getIndexOfBit coords.bits other < getIndexOfBit coords.bits bit :=
      fun bit later => Nat.count_strict_mono used later
    simp only [if_pos used, i]
    by_cases old : axis < other
    · have behind := Nat.count_monotone (coords.bits · = true) old.le
      rw [if_pos old, if_pos ⟨Nat.lt_succ_of_le behind, lower 64 mem⟩, Nat.add_sub_cancel]
    · have ahead := lower axis (by omega)
      rw [if_neg old, if_neg fun behind => Nat.lt_asymm ahead behind.1, Nat.add_zero]
  · simp [used]

variable (coords) [DecidableEq Value]

def setAxisValue (axis : Int) (value : Value) : AxisStatus × PointerCoords Value :=
  if axis < 0 ∨ 63 < axis then (.nameNotFound, coords)
  else if coords.bits axis.toNat = true then (.ok, coords.store axis.toNat value)
  else if value = 0 then (.ok, coords)
  else if MAX_AXES ≤ getIndexOfBit coords.bits 64 then (.noMemory, coords)
  else (.ok, (coords.insert axis.toNat).store axis.toNat value)

variable {coords}

lemma getAxisValue_set (axis : Int) (v : Value) (other : Int) :
    (coords.setAxisValue axis v).2.getAxisValue other =
      if (coords.setAxisValue axis v).1 = .ok ∧ other = axis then v
      else coords.getAxisValue other := by
  by_cases range : axis < 0 ∨ 63 < axis
  · simp [setAxisValue, range]
  by_cases out : other < 0 ∨ 63 < other
  · have ne : other ≠ axis := by omega
    simp [getAxisValue, out, ne]
  have same : other.toNat = axis.toNat ↔ other = axis := by omega
  simp only [setAxisValue, getAxisValue, if_neg range, if_neg out]
  by_cases marked : coords.bits axis.toNat = true
  · simp [marked, stored_store marked, same]
  by_cases zero : v = 0
  · by_cases eq : other = axis
    · simp [zero, eq, stored, marked]
    · simp [marked, zero, eq]
  by_cases full : MAX_AXES ≤ getIndexOfBit coords.bits 64
  · simp [marked, zero, full]
  have inserted : (coords.insert axis.toNat).bits axis.toNat = true := by simp [insert]
  simp only [marked, Bool.false_eq_true, zero, full, if_false, stored_store inserted, same, true_and]
  by_cases eq : other = axis
  · simp [eq]
  · rw [if_neg eq, if_neg eq]
    exact stored_insert (by simpa using marked) (eq ∘ same.1) (by omega)

lemma setAxisValue_ok_iff (axis : Int) (value : Value) :
    (coords.setAxisValue axis value).1 = .ok ↔ (0 ≤ axis ∧ axis ≤ 63) ∧
      (value = 0 ∨ coords.bits axis.toNat = true ∨ getIndexOfBit coords.bits 64 < MAX_AXES) := by
  unfold setAxisValue
  split_ifs <;> simp_all
  omega

lemma bits_set (axis : Int) (value : Value) (other : Nat) :
    (coords.setAxisValue axis value).2.bits other = true ↔ coords.bits other = true ∨
      ((coords.setAxisValue axis value).1 = .ok ∧ value ≠ 0) ∧ other = axis.toNat := by
  unfold setAxisValue
  split_ifs with range marked zero full
  · simp
  · simp only [store, true_and]
    exact ⟨.inl, fun either => either.elim id fun new => new.2 ▸ marked⟩
  · simp [zero]
  · simp
  · by_cases same : other = axis.toNat
    · simp [store, PointerCoords.insert, same, zero]
    · simp [store, PointerCoords.insert, same]

/-- What the calls did that succeeded: the value last set for each axis, and the axes that were
set to a value other than zero. -/
structure History (Value : Type) where
  last : Int → Option Value := fun _ => none
  marked : Finset Nat := ∅

def step (state : PointerCoords Value × History Value) (call : Int × Value) :
    PointerCoords Value × History Value :=
  let next := state.1.setAxisValue call.1 call.2
  (next.2, if next.1 = .ok then
    { last := Function.update state.2.last call.1 (some call.2)
      marked := state.2.marked ∪ if call.2 = 0 then ∅ else {call.1.toNat} }
  else state.2)

structure Refines (state : PointerCoords Value × History Value) : Prop where
  values : ∀ axis, state.1.getAxisValue axis = (state.2.last axis).getD 0
  marked : (Finset.range 64).filter (state.1.bits · = true) = state.2.marked

lemma refines_step (state : PointerCoords Value × History Value) (call : Int × Value)
    (refines : Refines state) : Refines (step state call) := by
  rcases refines with ⟨values, marked⟩
  by_cases set : (state.1.setAxisValue call.1 call.2).1 = .ok
  · constructor
    · intro axis
      simp only [step, getAxisValue_set, values axis]
      by_cases same : axis = call.1
      · simp [set, same]
      · simp [set, same]
    · have range := (setAxisValue_ok_iff call.1 call.2).1 set
      have inside : call.1.toNat < 64 := by omega
      ext axis
      simp only [step, set, if_true, Finset.mem_filter, bits_set, ← marked, Finset.mem_union]
      by_cases zero : call.2 = 0
      · simp [zero]
      · by_cases same : axis = call.1.toNat
        · simp [zero, same, inside]
        · simp [zero, same]
  · constructor
    · intro axis
      simp [step, getAxisValue_set, values axis, set]
    · simp [step, bits_set, set, marked]

/-- After any calls on cleared coordinates, each axis has the value that was last set for it, or
zero. A call succeeds for an axis in range, unless it would mark one more than all that there is
room for. One that fails leaves every axis as it was. -/
theorem getAxisValue_run (calls : List (Int × Value)) :
    let state := Machine.run step (clear, {}) calls
    (∀ axis, state.1.getAxisValue axis = (state.2.last axis).getD 0) ∧
      ∀ axis value,
        ((state.1.setAxisValue axis value).1 = .ok ↔ (0 ≤ axis ∧ axis ≤ 63) ∧
          (value = 0 ∨ axis.toNat ∈ state.2.marked ∨ state.2.marked.card < MAX_AXES)) ∧
        ((state.1.setAxisValue axis value).1 ≠ .ok → ∀ other,
          (state.1.setAxisValue axis value).2.getAxisValue other = state.1.getAxisValue other) := by
  intro state
  have refines : Refines state :=
    Machine.run_always refines_step ⟨by simp [getAxisValue, clear, stored], by simp [clear]⟩ calls
  refine ⟨refines.values, fun axis value => ⟨?_, fun fails other => ?_⟩⟩
  · rw [setAxisValue_ok_iff, ← refines.marked, getIndexOfBit, Nat.count_eq_card_filter_range]
    refine and_congr_right fun range => ?_
    rw [Finset.mem_filter, Finset.mem_range, and_iff_right (by omega : axis.toNat < 64)]
  · rw [getAxisValue_set, if_neg fun both => fails both.1]

/-- Thirty axes are set to one, and then one of them to zero. -/
def thirtyAxes : List (Int × Int) := (List.range 30).map (fun axis => ((axis : Int), 1)) ++ [(0, 0)]

theorem zero_axis_counts :
    let coords := (Machine.run step (clear, {}) thirtyAxes).1
    ((List.range 64).filter fun axis => coords.getAxisValue axis ≠ 0).length = 29 ∧
      (coords.setAxisValue 30 1).1 = .noMemory := by
  decide +kernel

end PointerCoords

end NativeLibs.Input.Axes
