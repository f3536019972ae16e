import NativeLibs.Ui.RegionTidy
import Mathlib.Data.List.Chain
import NativeLibs.Foundation.Bytes

/-! # What a validated region is

`validate` looks at neighbouring rectangles only, and at wrapped widths and heights. Its checks
still keep every two rectangles apart, because the order of the rectangles is transitive. -/

namespace NativeLibs.Ui

namespace Rect

def Disjoint (rect other : Rect) : Prop := ∀ x y, rect.Covers x y → ¬ other.Covers x y

/-- Later in the same band, or in a band further down. -/
inductive Before (rect other : Rect) : Prop
  | beside (top : other.top = rect.top) (bottom : other.bottom = rect.bottom)
      (left : rect.left ≤ other.left) (apart : rect.right ≤ other.left)
  | above (top : rect.top < other.top) (apart : rect.bottom ≤ other.top)

lemma Before.trans {first : Rect} (prior : first.Before second) (later : second.Before third) :
    first.Before third := by
  rcases prior with ⟨top, bot, left, apart⟩ | ⟨top, apart⟩ <;>
    rcases later with ⟨laterTop, laterBottom, laterLeft, laterApart⟩ | ⟨laterTop, laterApart⟩
  · exact .beside (by omega) (by omega) (by omega) (by omega)
  · exact .above (by omega) (by omega)
  · exact .above (by omega) (by omega)
  · exact .above (by omega) (by omega)

instance : IsTrans Rect Before := ⟨fun _ _ _ => Before.trans⟩

lemma Before.disjoint {rect : Rect} (old : rect.Before other) : rect.Disjoint other := by
  intro x y ⟨_, _, _, _⟩ ⟨_, _, _, _⟩
  cases old <;> omega

lemma lessThan_le {rect : Rect} (sorted : rect.lessThan other = true) :
    rect.top ≤ other.top ∧ (rect.top = other.top → rect.left ≤ other.left) := by
  unfold lessThan at sorted
  split_ifs at sorted <;> omega

end Rect

namespace Region

open Rect

lemma pairIsValid_before (valid : pairIsValid prev cur = true) : prev.Before cur := by
  simp only [pairIsValid, Bool.and_eq_true] at valid
  obtain ⟨sorted, spans⟩ := valid
  obtain ⟨top, left⟩ := lessThan_le sorted
  by_cases same : cur.top = prev.top
  · simp only [same, if_true, Bool.if_false_left, Bool.and_eq_true, Bool.not_eq_true',
      decide_eq_false_iff_not, ne_eq, not_not, Int.not_lt] at spans
    exact .beside same spans.1 (left same.symm) spans.2
  · simp only [same, if_false, Bool.not_eq_true', decide_eq_false_iff_not, Int.not_lt] at spans
    exact .above (by omega) spans

lemma SequenceValid.isChain : ∀ {rects : List Rect}, SequenceValid rects → rects.IsChain Before
  | [], _ => .nil
  | [_], _ => .singleton _
  | prev :: cur :: rest, valid => by
      have later : (cur :: rest).IsChain Before := SequenceValid.isChain valid.2.2
      exact .cons_cons (pairIsValid_before valid.2.1) later

lemma SequenceValid.pairwise_disjoint (valid : SequenceValid rects) :
    rects.Pairwise Rect.Disjoint :=
  valid.isChain.pairwise.imp Before.disjoint

lemma validate_disjoint_hull {reg : Region} (valid : reg.validate = true) :
    reg.getArray.Pairwise Rect.Disjoint ∧ IsHull reg.getArray reg.getBounds := by
  obtain ⟨first, rest, array, seq, box, -⟩ := (validate_iff reg).mp valid
  rw [array, ← box]
  exact ⟨seq.pairwise_disjoint, isHull_foldl first rest⟩

end Region

/-! ## Regions as bytes

`Region::flatten` and `Region::unflatten`: a count and the rectangles of the storage. A rectangle
is a plain copy of its four coordinates, the lowest byte first. -/

open Bytes List

inductive FlattenStatus where
  | noError
  | noMemory
  | badValue
  deriving DecidableEq, Repr

/-! ## The model -/

def flattenInt32 (value : Int) : List UInt8 := encode 4 (value % 2 ^ 32).toNat

def unflattenInt32 (bytes : List UInt8) : Int := wrapInt32 (decode bytes)

namespace Rect

def sizeOf : Nat := 16

def flatten (rect : Rect) : List UInt8 :=
  flattenInt32 rect.left ++ flattenInt32 rect.top ++ flattenInt32 rect.right ++
    flattenInt32 rect.bottom

def unflatten (buffer : List UInt8) : Except FlattenStatus Rect :=
  if buffer.length < sizeOf then .error .noMemory
  else .ok ⟨unflattenInt32 (buffer.take 4), unflattenInt32 ((buffer.drop 4).take 4),
      unflattenInt32 ((buffer.drop 8).take 4), unflattenInt32 ((buffer.drop 12).take 4)⟩

end Rect

namespace Region

variable (region : Region)

def getFlattenedSize : Nat := 4 + region.mStorage.length * Rect.sizeOf

/-- The bytes written into a buffer of the given size. The count is cast to `uint32_t`. -/
def flatten (size : Nat) : Except FlattenStatus (List UInt8) :=
  if size < region.getFlattenedSize then .error .noMemory
  else .ok (encode 4 region.mStorage.length ++ region.mStorage.flatMap Rect.flatten)

def unflattenRects : Nat → List UInt8 → Except FlattenStatus (List Rect)
  | 0, _ => .ok []
  | numRects + 1, buffer => do
      let rect ← Rect.unflatten buffer
      let rects ← unflattenRects numRects (buffer.drop Rect.sizeOf)
      return rect :: rects

def maxRects : Nat := 4294967295 / Rect.sizeOf

def unflatten (buffer : List UInt8) : FlattenStatus × Region :=
  if buffer.length < 4 then (.noMemory, region)
  else
    let numRects := decode (buffer.take 4)
    let buffer := buffer.drop 4
    if buffer.length < numRects * Rect.sizeOf then (.noMemory, region)
    else if numRects > maxRects then (.noMemory, region)
    else
      match unflattenRects numRects buffer with
      | .error status => (status, region)
      | .ok rects => if validate ⟨rects⟩ then (.noError, ⟨rects⟩) else (.badValue, region)

end Region

/-! ## Reading what was written -/

@[simp] lemma length_flattenInt32 (v : Int) : (flattenInt32 v).length = 4 :=
  length_encode 4 _

lemma unflattenInt32_flattenInt32 (fits : FitsInt32 v) :
    unflattenInt32 (flattenInt32 v) = v := by
  have modulus : (256 : Nat) ^ 4 = 4294967296 := by decide
  rw [unflattenInt32, flattenInt32, decode_encode, modulus]
  simp only [FitsInt32, int32Min, int32Max] at fits
  simp only [wrapInt32, Int.bmod]
  omega

@[simp] lemma Rect.length_flatten (rect : Rect) : rect.flatten.length = sizeOf := by
  simp [flatten, sizeOf]

lemma Rect.unflatten_flatten (fits : rect.Fits) (rest : List UInt8) :
    unflatten (rect.flatten ++ rest) = .ok rect := by
  obtain ⟨left, top, right, bot⟩ := fits
  have long : ¬ (rect.flatten ++ rest).length < sizeOf := by simp
  rw [unflatten, if_neg long]
  have spent : ∀ v : Int, (flattenInt32 v).drop 8 = [] ∧
      (flattenInt32 v).drop 12 = [] := by
    intro v
    exact ⟨drop_eq_nil_of_le (by simp), drop_eq_nil_of_le (by simp)⟩
  simp [flatten, drop_append, unflattenInt32_flattenInt32, left, top, right, bot, spent]

namespace Region

variable {count : Nat}

lemma unflattenRects_flatMap (fits : ∀ rect ∈ rects, rect.Fits) :
    unflattenRects rects.length (rects.flatMap Rect.flatten) = .ok rects := by
  induction rects with
  | nil => rfl
  | cons rect rest ih =>
    have first : rect.Fits := fits rect mem_cons_self
    have later := ih fun rect mem => fits rect (mem_cons_of_mem _ mem)
    have left : (rect.flatten ++ rest.flatMap Rect.flatten).drop Rect.sizeOf =
        rest.flatMap Rect.flatten := by
      rw [← Rect.length_flatten rect, drop_left]
    rw [flatMap_cons, length_cons, unflattenRects, Rect.unflatten_flatten first, left, later]
    rfl

lemma length_flatMap_flatten (rects : List Rect) :
    (rects.flatMap Rect.flatten).length = rects.length * Rect.sizeOf := by
  induction rects with
  | nil => simp
  | cons rect rest ih =>
    rw [flatMap_cons, length_append, ih, Rect.length_flatten, length_cons,
      Nat.add_mul, Nat.one_mul, Nat.add_comm]

lemma unflatten_flatten_eq (fits : ∀ rect ∈ region.mStorage, rect.Fits)
    (counts : region.mStorage.length < 2 ^ 32) (goal : Region) :
    ∃ bytes, region.flatten region.getFlattenedSize = .ok bytes ∧ goal.unflatten bytes =
        if region.mStorage.length > maxRects then (.noMemory, goal)
        else if region.validate then (.noError, region) else (.badValue, goal) := by
  refine ⟨_, if_neg (Nat.lt_irrefl _), ?_⟩
  have count : decode (encode 4 region.mStorage.length) = region.mStorage.length := by
    rw [decode_encode]
    exact Nat.mod_eq_of_lt counts
  have long : ¬ (encode 4 region.mStorage.length ++
      region.mStorage.flatMap Rect.flatten).length < 4 := by simp
  have header : (encode 4 region.mStorage.length ++
      region.mStorage.flatMap Rect.flatten).take 4 = encode 4 region.mStorage.length :=
    take_left' (length_encode 4 _)
  have body : (encode 4 region.mStorage.length ++
      region.mStorage.flatMap Rect.flatten).drop 4 = region.mStorage.flatMap Rect.flatten :=
    drop_left' (length_encode 4 _)
  rw [unflatten, if_neg long]
  dsimp only
  rw [header, body, count, length_flatMap_flatten, if_neg (Nat.lt_irrefl _),
    unflattenRects_flatMap fits]

/-! ## Arbitrary bytes -/

lemma unflattenRects_error (bad : unflattenRects numRects buf = .error stat) :
    stat = .noMemory := by
  induction numRects generalizing buf with
  | zero => cases bad
  | succ numRects ih =>
    rw [unflattenRects, Rect.unflatten] at bad
    split at bad
    · cases bad
      rfl
    · cases later : unflattenRects numRects (buf.drop Rect.sizeOf) with
      | error stat =>
        rw [later] at bad
        cases bad
        exact ih later
      | ok rects =>
        rw [later] at bad
        cases bad

lemma unflatten_cases (goal : Region) (buf : List UInt8) :
    ((goal.unflatten buf).1 ≠ .noError ∧ (goal.unflatten buf).2 = goal) ∨
      ((goal.unflatten buf).1 = .noError ∧ (goal.unflatten buf).2.validate = true) := by
  unfold unflatten
  dsimp only
  split
  · exact .inl ⟨nofun, rfl⟩
  split
  · exact .inl ⟨nofun, rfl⟩
  split
  · exact .inl ⟨nofun, rfl⟩
  split
  · rename_i stat bad
    rw [unflattenRects_error bad]
    exact .inl ⟨nofun, rfl⟩
  split
  · rename_i valid
    exact .inr ⟨rfl, valid⟩
  · exact .inl ⟨nofun, rfl⟩

/-- A valid region of at most `UINT32_MAX / sizeof(Rect)` storage entries is read back from its
bytes. Whatever the bytes are, `unflatten` fails and leaves its region, or yields a valid one,
whose rectangles are disjoint and whose bounds are their hull. -/
theorem unflatten_round_trip_or_valid : (∀ region target : Region, region.validate = true →
      (∀ rect ∈ region.mStorage, rect.Fits) → region.mStorage.length ≤ maxRects →
      ∃ bytes, region.flatten region.getFlattenedSize = .ok bytes ∧
        target.unflatten bytes = (.noError, region)) ∧
    ∀ (target : Region) (buffer : List UInt8),
      ((target.unflatten buffer).1 ≠ .noError ∧ (target.unflatten buffer).2 = target) ∨
      ((target.unflatten buffer).1 = .noError ∧ (target.unflatten buffer).2.validate = true ∧
        (target.unflatten buffer).2.getArray.Pairwise Rect.Disjoint ∧
        IsHull (target.unflatten buffer).2.getArray (target.unflatten buffer).2.getBounds) := by
  constructor
  · intro region target valid fits counted
    have small : region.mStorage.length < 2 ^ 32 := Nat.lt_of_le_of_lt counted (by decide)
    obtain ⟨bytes, written, read⟩ := unflatten_flatten_eq fits small target
    refine ⟨bytes, written, ?_⟩
    rw [read, if_neg (Nat.not_lt.mpr counted), if_pos valid]
  · intro target buffer
    rcases unflatten_cases target buffer with failed | ⟨succeeded, valid⟩
    · exact .inl failed
    · obtain ⟨disjoint, isHull⟩ := validate_disjoint_hull valid
      exact .inr ⟨succeeded, valid, disjoint, isHull⟩

/-- Three rectangles in two bands. -/
theorem unflatten_round_trip_bands :
    ∃ bytes, (Region.mk [⟨0, 0, 5, 5⟩, ⟨7, 0, 9, 5⟩, ⟨-3, 5, 2, 8⟩, ⟨-3, 0, 9, 8⟩]).flatten 68 =
        .ok bytes ∧
      Region.empty.unflatten bytes =
        (.noError, ⟨[⟨0, 0, 5, 5⟩, ⟨7, 0, 9, 5⟩, ⟨-3, 5, 2, 8⟩, ⟨-3, 0, 9, 8⟩]⟩) :=
  unflatten_round_trip_or_valid.1 _ _ (by decide) (by decide) (by decide)

/-! ## Too many rectangles -/

def row : Int → Nat → List Rect
  | _, 0 => []
  | left, count + 1 => ⟨left, 0, left + 1, 1⟩ :: row (left + 2) count

lemma length_row (left : Int) (count : Nat) : (row left count).length = count := by
  induction count generalizing left with
  | zero => rfl
  | succ count ih => rw [row, length_cons, ih]

lemma foldl_hull_row (after : low < left) (count : Nat) :
    (row left count).foldl hull ⟨low, 0, left - 1, 1⟩ = ⟨low, 0, left + 2 * count - 1, 1⟩ := by
  induction count generalizing left with
  | zero => simp [row]
  | succ count ih =>
    have widened : hull ⟨low, 0, left - 1, 1⟩ ⟨left, 0, left + 1, 1⟩ =
        ⟨low, 0, (left + 2) - 1, 1⟩ := by
      have right : ¬ left - 1 > left + 1 := by omega
      simp only [hull, after, right, if_true, if_false, gt_iff_lt, Int.lt_irrefl,
        Rect.mk.injEq, true_and, and_true]
      omega
    rw [row, foldl_cons, widened, ih (by omega)]
    simp only [Rect.mk.injEq, true_and, and_true]
    omega

lemma sequenceValid_row (low : 0 ≤ left) (high : left + 2 * count ≤ maxValue) :
    SequenceValid (row left count) := by
  induction count generalizing left with
  | zero => trivial
  | succ count ih =>
    have valid : rectIsValid ⟨left, 0, left + 1, 1⟩ = true := by
      have width : (⟨left, 0, left + 1, 1⟩ : Rect).isValid = true := by
        have one : left + 1 - left = 1 := by omega
        simp only [Rect.isValid, Rect.getWidth, Rect.getHeight, one]
        rfl
      have right : ¬ left + 1 > maxValue := by omega
      simp only [rectIsValid, width, right, Bool.true_or, Bool.true_and, decide_false,
        Bool.not_false]
      rfl
    have later : SequenceValid (row (left + 2) count) :=
      ih (by omega) (by push_cast at high; omega)
    cases count with
    | zero => exact valid
    | succ count =>
      refine ⟨valid, ?_, later⟩
      simp [pairIsValid, Rect.lessThan]

lemma fits_row (low : 0 ≤ left) (high : left + 2 * count ≤ int32Max) :
    ∀ rect ∈ row left count, rect.Fits := by
  induction count generalizing left with
  | zero => simp [row]
  | succ count ih =>
    have later : ∀ rect ∈ row (left + 2) count, rect.Fits :=
      ih (by omega) (by push_cast at high; omega)
    have first : (⟨left, 0, left + 1, 1⟩ : Rect).Fits := by
      simp only [Rect.Fits, FitsInt32, int32Min]
      simp only [int32Max] at high ⊢
      omega
    simpa [row, first] using later

def ofRow (count : Nat) : Region := ⟨row 0 count ++ [⟨0, 0, 2 * count - 1, 1⟩]⟩

lemma length_ofRow (count : Nat) : (ofRow count).mStorage.length = count + 1 := by
  simp [ofRow, length_row]

lemma validate_ofRow (several : 2 ≤ count) (high : 2 * count ≤ maxValue) :
    (ofRow count).validate = true := by
  obtain ⟨count, rfl⟩ : ∃ more, count = more + 1 := ⟨count - 1, by omega⟩
  rw [validate_iff]
  refine ⟨⟨0, 0, 1, 1⟩, row 2 count, ?_, ?_, ?_, ?_⟩
  · exact getArray_append_bounds _ (by simp [row])
  · exact sequenceValid_row (Int.le_refl 0) (show 0 + 2 * ((count + 1 : Nat) : Int) ≤ _ by omega)
  · have hullEq := foldl_hull_row (show (0 : Int) < 2 by omega) count
    have low : (⟨0, 0, 1, 1⟩ : Rect) = ⟨0, 0, 2 - 1, 1⟩ := rfl
    rw [low, hullEq]
    simp only [ofRow, getBounds, getLast?_concat, Option.getD_some, Rect.mk.injEq, true_and,
      and_true]
    omega
  · rw [length_ofRow]
    omega

lemma fits_ofRow (several : 1 ≤ count) (high : 2 * count ≤ int32Max) :
    ∀ rect ∈ (ofRow count).mStorage, rect.Fits := by
  have box : (⟨0, 0, 2 * count - 1, 1⟩ : Rect).Fits := by
    simp only [Rect.Fits, FitsInt32, int32Min]
    simp only [int32Max] at high ⊢
    omega
  have rects : ∀ rect ∈ row 0 count, rect.Fits := fits_row (Int.le_refl 0) (by omega)
  exact forall_mem_append.2 ⟨rects, forall_mem_singleton.2 box⟩

/-- A valid region of more rectangles is written, and refused when it is read. -/
theorem unflatten_refuses_large :
    ∃ region : Region, region.validate = true ∧ (∀ rect ∈ region.mStorage, rect.Fits) ∧
      ∃ bytes, region.flatten region.getFlattenedSize = .ok bytes ∧
        Region.empty.unflatten bytes = (.noMemory, Region.empty) := by
  have high : 2 * (maxRects : Int) ≤ int32Max := by decide
  have fits : ∀ rect ∈ (ofRow maxRects).mStorage, rect.Fits := fits_ofRow (by decide) high
  refine ⟨ofRow maxRects, validate_ofRow (by decide) high, fits, ?_⟩
  have counted : (ofRow maxRects).mStorage.length < 2 ^ 32 := by
    rw [length_ofRow]
    decide
  obtain ⟨bytes, written, read⟩ := unflatten_flatten_eq fits counted .empty
  refine ⟨bytes, written, ?_⟩
  rw [read, length_ofRow, if_pos (Nat.lt_succ_self _)]

end Region

end NativeLibs.Ui
