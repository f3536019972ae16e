import NativeLibs.Foundation.Int32

/-! # Rectangles

`ui/Rect.h` and `Rect.cpp`: half-open rectangles of 32-bit coordinates. -/

namespace NativeLibs.Ui

structure Rect where
  left : Int
  top : Int
  right : Int
  bottom : Int
  deriving DecidableEq, Repr

namespace Rect

variable (rect : Rect)

def invalidRect : Rect := ⟨0, 0, -1, -1⟩

def emptyRect : Rect := ⟨0, 0, 0, 0⟩

/-- `Rect(w, h)`, for unsigned sizes: a size that does not fit is clamped. -/
def ofSize (w h : Nat) : Rect := ⟨0, 0, min w int32Max, min h int32Max⟩

/-- The width as the code computes it: the subtraction is exempt from overflow
checks and wraps. -/
def getWidth : Int := wrapInt32 (rect.right - rect.left)

def getHeight : Int := wrapInt32 (rect.bottom - rect.top)

def isValid : Bool := 0 ≤ rect.getWidth && 0 ≤ rect.getHeight

def isEmpty : Bool := rect.getWidth ≤ 0 || rect.getHeight ≤ 0

def lessThan (rect other : Rect) : Bool :=
  if rect.top < other.top then true
  else if rect.top = other.top then
    if rect.left < other.left then true
    else if rect.left = other.left then
      if rect.bottom < other.bottom then true
      else if rect.bottom = other.bottom then rect.right < other.right
      else false
    else false
  else false

def intersect (rect other : Rect) : Bool × Rect :=
  let result : Rect :=
    ⟨max rect.left other.left, max rect.top other.top, min rect.right other.right,
      min rect.bottom other.bottom⟩
  (!result.isEmpty, result)

/-- `reduce`: the bounds of what is left without another rectangle. -/
def reduce (exclude : Rect) : Rect :=
  let mask : Nat := (if exclude.left > rect.left then 1 else 0) |||
    (if exclude.top > rect.top then 2 else 0) ||| (if exclude.right < rect.right then 4 else 0) |||
      (if exclude.bottom < rect.bottom then 8 else 0)
  if mask = 0 then emptyRect
  else if mask &&& (mask - 1) ≠ 0 then rect
  -- Just one bit is set.
  else if mask &&& 1 ≠ 0 then { rect with right := min rect.right exclude.left }
  else if mask &&& 2 ≠ 0 then { rect with bottom := min rect.bottom exclude.top }
  else if mask &&& 4 ≠ 0 then { rect with left := max rect.left exclude.right }
  else { rect with top := max rect.top exclude.bottom }

def offsetBy (x y : Int) : Rect :=
  ⟨rect.left + x, rect.top + y, rect.right + x, rect.bottom + y⟩

def Fits : Prop :=
  FitsInt32 rect.left ∧ FitsInt32 rect.top ∧ FitsInt32 rect.right ∧ FitsInt32 rect.bottom

instance (rect : Rect) : Decidable rect.Fits := inferInstanceAs (Decidable (_ ∧ _))

def NonNegative : Prop := rect.left ≤ rect.right ∧ rect.top ≤ rect.bottom

instance (rect : Rect) : Decidable rect.NonNegative := inferInstanceAs (Decidable (_ ∧ _))

def Covers (x y : Int) : Prop :=
  rect.top ≤ y ∧ y < rect.bottom ∧ rect.left ≤ x ∧ x < rect.right

instance (rect : Rect) (x y : Int) : Decidable (rect.Covers x y) :=
  inferInstanceAs (Decidable (_ ∧ _))

lemma isValid_iff {rect : Rect} (fits : rect.Fits) (nonNegative : rect.NonNegative) :
    rect.isValid = true ↔
      rect.right - rect.left ≤ int32Max ∧ rect.bottom - rect.top ≤ int32Max := by
  obtain ⟨left, top, right, bot⟩ := fits
  simp only [isValid, Bool.and_eq_true, decide_eq_true_eq, getWidth, getHeight,
    wrapInt32_sub_nonneg_iff left right nonNegative.1,
    wrapInt32_sub_nonneg_iff top bot nonNegative.2]

end Rect

/-! ## Rectangles of floats

`ui/FloatRect.h`, and how `Rect` is made of one. The coordinates here are whole numbers, each of
them the value of a `float`. -/

structure FloatRect where
  left : Int
  top : Int
  right : Int
  bottom : Int
  deriving DecidableEq, Repr

/-- `coordinate + 0.5f`, in halves. A `float` has 24 bits: from `2^23` on it has no halves, and the
sum, which lies between two floats, becomes the even one; from `2^24` on the coordinate itself is
the nearest float. -/
def addHalf (coordinate : Int) : Int :=
  let halves := 2 * coordinate + 1
  if halves.natAbs < 2 ^ 24 then halves
  else if halves.natAbs < 2 ^ 25 then 2 * (coordinate + coordinate % 2)
  else 2 * coordinate

/-- `static_cast<int32_t>(coordinate + 0.5f)`: the cast drops the fraction, so that a negative
coordinate moves up by one. -/
def roundCoordinate (coordinate : Int) : Int := (addHalf coordinate).tdiv 2

def Rect.ofFloatRect (floatRect : FloatRect) : Rect :=
  ⟨roundCoordinate floatRect.left, roundCoordinate floatRect.top,
    roundCoordinate floatRect.right, roundCoordinate floatRect.bottom⟩

def Rect.inset (rect : Rect) (left top right bottom : Int) : Rect :=
  ⟨rect.left + left, rect.top + top, rect.right - right, rect.bottom - bottom⟩

variable (bounds : FloatRect)

/-- `Transform::transform(const FloatRect&)` of the identity: the corners stay where they are, and
the smallest rectangle around them is returned. -/
def FloatRect.transform : FloatRect :=
  ⟨min bounds.left bounds.right, min bounds.top bounds.bottom,
    max bounds.left bounds.right, max bounds.top bounds.bottom⟩

lemma addHalf_mono (ord : low ≤ high) : addHalf low ≤ addHalf high := by
  simp only [addHalf]
  split_ifs <;> omega

lemma roundCoordinate_mono (ord : low ≤ high) : roundCoordinate low ≤ roundCoordinate high :=
  Int.tdiv_le_tdiv (by decide) (addHalf_mono ord)

lemma FloatRect.nonNegative_transform : (Rect.ofFloatRect bounds.transform).NonNegative :=
  ⟨roundCoordinate_mono (min_le_max), roundCoordinate_mono (min_le_max)⟩

end NativeLibs.Ui
