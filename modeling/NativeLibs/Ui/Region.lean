import NativeLibs.Ui.Rect
import Mathlib.Data.List.Basic

/-! # Regions

`ui/Region.h` and the parts of `Region.cpp` that read a region: the storage
layout, point containment and `validate`. -/

namespace NativeLibs.Ui

def maxValue : Int := int32Max

/-- The storage holds the rectangles followed by their bounds, except that a
region of one rectangle holds that rectangle only. -/
structure Region where
  mStorage : List Rect
  deriving DecidableEq, Repr

namespace Region

variable (region : Region)

def empty : Region := ⟨[⟨0, 0, 0, 0⟩]⟩

def ofRect (rect : Rect) : Region := ⟨[rect]⟩

def isRect : Bool := region.mStorage.length == 1

/-- The last entry of the storage. The code never reads it from an empty
storage; the default only makes the definition total. -/
def getBounds : Rect := region.mStorage.getLast?.getD Rect.emptyRect

def isEmpty : Bool := region.getBounds.isEmpty

def getArray : List Rect :=
  if region.mStorage.isEmpty then []
  else region.mStorage.take (if region.isRect then 1 else region.mStorage.length - 1)

def contains (x y : Int) : Bool :=
  region.getArray.any fun cur => y ≥ cur.top && y < cur.bottom && x ≥ cur.left && x < cur.right

def hasSameRects (region other : Region) : Bool :=
  if region.getArray.length ≠ other.getArray.length then false
  else (region.getArray.zip other.getArray).all fun pair => pair.1 == pair.2

/-! ## Validation -/

def hull (bounds cur : Rect) : Rect where
  left := if bounds.left < cur.left then bounds.left else cur.left
  top := if bounds.top < cur.top then bounds.top else cur.top
  right := if bounds.right > cur.right then bounds.right else cur.right
  bottom := if bounds.bottom > cur.bottom then bounds.bottom else cur.bottom

def rectIsValid (cur : Rect) : Bool :=
  (cur.isValid || cur == Rect.invalidRect) &&
    !(cur.right > maxValue) && !(cur.bottom > maxValue)

def pairIsValid (prev cur : Rect) : Bool :=
  prev.lessThan cur && (if cur.top = prev.top then
      if cur.bottom ≠ prev.bottom then false
      else !(cur.left < prev.right)
    else !(cur.top < prev.bottom))

def validateLoop (prev bounds : Rect) (result : Bool) : List Rect → Rect × Bool
  | [] => (bounds, result)
  | cur :: rest =>
    validateLoop cur (hull bounds cur) (result && rectIsValid cur && pairIsValid prev cur) rest

def validate : Bool :=
  match region.getArray with
  | [] => false
  | first :: rest =>
    let (bounds, result) := validateLoop first first (rectIsValid first) rest
    result && bounds == region.getBounds && region.mStorage.length ≠ 2

/-! ## Basic facts -/

lemma getArray_singleton (rect : Rect) : getArray ⟨[rect]⟩ = [rect] := rfl

lemma getArray_append_bounds (box : Rect) (ne : rects ≠ []) :
    getArray ⟨rects ++ [box]⟩ = rects := by
  obtain ⟨first, rest, rfl⟩ := List.exists_cons_of_ne_nil ne
  simp [getArray, isRect]

lemma contains_iff (x y : Int) :
    region.contains x y = true ↔ ∃ rect ∈ region.getArray, rect.Covers x y := by
  simp only [contains, List.any_eq_true, Bool.and_eq_true, decide_eq_true_eq, Rect.Covers,
    ge_iff_le, and_assoc]

private lemma all_zip_beq_iff : ∀ {left right : List Rect}, left.length = right.length →
    (((left.zip right).all fun pair => pair.1 == pair.2) = true ↔ left = right)
  | [], [], _ => by simp
  | first :: left, other :: right, sameLength => by
      have rest : (((left.zip right).all fun pair => pair.1 == pair.2) = true ↔ left = right) :=
        all_zip_beq_iff (by simpa using sameLength)
      simp [rest]

lemma hasSameRects_iff (region other : Region) :
    region.hasSameRects other = true ↔ region.getArray = other.getArray := by
  unfold hasSameRects
  split
  next ne =>
    constructor
    · intro impossible
      cases impossible
    · intro same
      exact absurd (congrArg List.length same) ne
  next same => exact all_zip_beq_iff (not_not.mp same)

def SequenceValid : List Rect → Prop
  | [] => True
  | [cur] => rectIsValid cur = true
  | prev :: cur :: rest =>
    rectIsValid prev = true ∧ pairIsValid prev cur = true ∧ SequenceValid (cur :: rest)

lemma validateLoop_eq (prev box : Rect) (res : Bool) (rects : List Rect) :
    (validateLoop prev box res rects).1 = rects.foldl hull box ∧
      ((validateLoop prev box (res && rectIsValid prev) rects).2 = true ↔
        res = true ∧ SequenceValid (prev :: rects)) := by
  induction rects generalizing prev box res with
  | nil => simp [validateLoop, SequenceValid]
  | cons cur rest ih =>
    refine ⟨by simpa [validateLoop] using (ih cur (hull box cur) _).1, ?_⟩
    have later := (ih cur (hull box cur) (res && rectIsValid prev && pairIsValid prev cur)).2
    have reordered : (res && rectIsValid prev && rectIsValid cur && pairIsValid prev cur) =
        (res && rectIsValid prev && pairIsValid prev cur && rectIsValid cur) := by
      ac_rfl
    simp only [validateLoop, reordered, later, SequenceValid, Bool.and_eq_true]
    tauto

/-- `validate` accepts exactly the storages whose rectangles pass the checks in
sequence, whose bounds are the hull, and whose size is not two. -/
lemma validate_iff : region.validate = true ↔ ∃ first rest, region.getArray = first :: rest ∧
      SequenceValid (first :: rest) ∧ rest.foldl hull first = region.getBounds ∧
      region.mStorage.length ≠ 2 := by
  unfold validate
  cases shape : region.getArray with
  | nil => simp
  | cons first rest =>
    obtain ⟨boundsEq, resultIff⟩ := validateLoop_eq first first true rest
    simp only [Bool.true_and] at resultIff
    have boundsEq' : (validateLoop first first (rectIsValid first) rest).1 =
        rest.foldl hull first := (validateLoop_eq first first (rectIsValid first) rest).1
    simp only [Bool.and_eq_true, resultIff, beq_iff_eq, boundsEq', true_and,
      decide_eq_true_eq, List.cons.injEq]
    constructor
    · rintro ⟨⟨valid, hullEq⟩, size⟩
      exact ⟨first, rest, ⟨rfl, rfl⟩, valid, hullEq, size⟩
    · rintro ⟨_, _, ⟨rfl, rfl⟩, valid, hullEq, size⟩
      exact ⟨⟨valid, hullEq⟩, size⟩

end Region

/-- A region that `validate` accepts, of 32-bit rectangles whose widths and
heights are not negative. The empty region is one of them. -/
structure ValidRegion where
  region : Region
  validated : region.validate = true
  nonNegative : ∀ rect ∈ region.getArray, rect.NonNegative
  fits : ∀ rect ∈ region.getArray, rect.Fits

end NativeLibs.Ui
