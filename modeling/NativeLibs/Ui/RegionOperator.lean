import NativeLibs.Ui.Region
import NativeLibs.Foundation.DoWhile

/-! # The region sweep

`ui/RegionHelper.h`: two spanners, one over rows and one over the rectangles of
a row, report which of the operands each piece of the plane belongs to. Pieces
that the operator keeps are handed to a rasterizer. -/

namespace NativeLibs.Ui

/-- The operators, as the bits that `LHS` (`0b101`) and `RHS` (`0b110`) leave
when the operator is applied to them. -/
inductive Operator
  | nand
  | and
  | or
  | xor
  deriving DecidableEq, Repr

/-- The result of `SpannerBase::next`: the piece belongs to the left operand,
to the right operand, or to both. -/
inductive Inside
  | lhsBeforeRhs
  | lhsAfterRhs
  | lhsCoincideRhs
  deriving DecidableEq, Repr

def Inside.value : Inside → UInt32
  | .lhsBeforeRhs => 0
  | .lhsAfterRhs => 1
  | .lhsCoincideRhs => 2

namespace Operator

variable (op : Operator)

def lhsBits : UInt32 := 0x5

def rhsBits : UInt32 := 0x6

def mask : Operator → UInt32
  | .nand => lhsBits &&& ~~~rhsBits
  | .and => lhsBits &&& rhsBits
  | .or => lhsBits ||| rhsBits
  | .xor => lhsBits ^^^ rhsBits

def keeps (inside : Inside) : Bool := (op.mask >>> inside.value) &&& 1 != 0

def apply : Operator → Bool → Bool → Bool
  | .nand, left, right => left && !right
  | .and, left, right => left && right
  | .or, left, right => left || right
  | .xor, left, right => left ^^ right

lemma apply_true_false : op.apply true false = op.keeps .lhsBeforeRhs := by cases op <;> decide

lemma apply_false_true : op.apply false true = op.keeps .lhsAfterRhs := by cases op <;> decide

lemma apply_true_true : op.apply true true = op.keeps .lhsCoincideRhs := by cases op <;> decide

lemma apply_false_false : op.apply false false = false := by cases op <;> rfl

end Operator

/-- `region_operator::region`: the rectangles that are left, with the offset
that applies to them. -/
structure RegionView where
  rects : List Rect
  dx : Int
  dy : Int
  deriving DecidableEq, Repr

/-! ## SpannerBase -/

structure SpannerBase where
  lhsHead : Int
  lhsTail : Int
  rhsHead : Int
  rhsTail : Int
  deriving DecidableEq, Repr

structure SpannerStep where
  inside : Inside
  head : Int
  tail : Int
  moreLhs : Bool
  moreRhs : Bool
  base : SpannerBase
  deriving DecidableEq, Repr

namespace SpannerBase

def initial : SpannerBase := ⟨maxValue, maxValue, maxValue, maxValue⟩

def next (base : SpannerBase) : SpannerStep :=
  if base.lhsHead < base.rhsHead then
    if base.lhsTail ≤ base.rhsHead then
      ⟨.lhsBeforeRhs, base.lhsHead, base.lhsTail, true, false, base⟩
    else
      ⟨.lhsBeforeRhs, base.lhsHead, base.rhsHead, false, false,
        { base with lhsHead := base.rhsHead }⟩
  else if base.rhsHead < base.lhsHead then
    if base.rhsTail ≤ base.lhsHead then
      ⟨.lhsAfterRhs, base.rhsHead, base.rhsTail, false, true, base⟩
    else
      ⟨.lhsAfterRhs, base.rhsHead, base.lhsHead, false, false,
        { base with rhsHead := base.lhsHead }⟩
  else
    -- The two conditional assignments follow one another in the code; at least
    -- one of them is made, and the second one decides the tail.
    { inside := .lhsCoincideRhs
      head := base.lhsHead
      tail := if base.rhsTail ≤ base.lhsTail then base.rhsTail else base.lhsTail
      moreLhs := base.lhsTail ≤ base.rhsTail
      moreRhs := base.rhsTail ≤ base.lhsTail
      base := { base with
        rhsHead := if base.lhsTail ≤ base.rhsTail then base.lhsTail else base.rhsHead
        lhsHead := if base.rhsTail ≤ base.lhsTail then base.rhsTail else base.lhsHead } }

end SpannerBase

/-! ## Spanner: rows -/

structure Spanner where
  base : SpannerBase
  lhs : RegionView
  rhs : RegionView
  deriving DecidableEq, Repr

namespace Spanner

variable (spanner : Spanner)

def make (lhs rhs : RegionView) : Spanner where
  base :=
    { lhsHead := match lhs.rects with | [] => maxValue | rect :: _ => rect.top + lhs.dy
      lhsTail := match lhs.rects with | [] => maxValue | rect :: _ => rect.bottom + lhs.dy
      rhsHead := match rhs.rects with | [] => maxValue | rect :: _ => rect.top + rhs.dy
      rhsTail := match rhs.rects with | [] => maxValue | rect :: _ => rect.bottom + rhs.dy }
  lhs := lhs
  rhs := rhs

def isDone : Bool := spanner.rhs.rects.isEmpty && spanner.lhs.rects.isEmpty

/-- Drop the rectangles of the current row. The code also reads the first
rectangle of an exhausted region, but does not use what it reads. -/
def skipRow : List Rect → List Rect
  | [] => []
  | rect :: rest => (rect :: rest).dropWhile fun other => other.top == rect.top

def advance (reg : RegionView) : RegionView × Int × Int :=
  match skipRow reg.rects with
  | [] => ({ reg with rects := [] }, maxValue, maxValue)
  | rect :: rest => ({ reg with rects := rect :: rest }, rect.top + reg.dy, rect.bottom + reg.dy)

def advanceLhs : Spanner :=
  let (lhs, head, tail) := advance spanner.lhs
  { spanner with lhs := lhs, base := { spanner.base with lhsHead := head, lhsTail := tail } }

def advanceRhs : Spanner :=
  let (rhs, head, tail) := advance spanner.rhs
  { spanner with rhs := rhs, base := { spanner.base with rhsHead := head, rhsTail := tail } }

def next : SpannerStep × Spanner :=
  let step := spanner.base.next
  let moved := { spanner with base := step.base }
  let moved := if step.moreLhs then moved.advanceLhs else moved
  let moved := if step.moreRhs then moved.advanceRhs else moved
  (step, moved)

end Spanner

/-! ## SpannerInner: the rectangles of a row -/

structure SpannerInner where
  base : SpannerBase
  lhs : RegionView
  rhs : RegionView
  deriving DecidableEq, Repr

namespace SpannerInner

variable (spanner : SpannerInner)

def make (lhs rhs : RegionView) : SpannerInner := ⟨SpannerBase.initial, lhs, rhs⟩

def loadLhs : SpannerInner :=
  match spanner.lhs.rects with
  | [] => spanner
  | rect :: _ => { spanner with base := { spanner.base with
      lhsHead := rect.left + spanner.lhs.dx
      lhsTail := rect.right + spanner.lhs.dx } }

def loadRhs : SpannerInner :=
  match spanner.rhs.rects with
  | [] => spanner
  | rect :: _ => { spanner with base := { spanner.base with
      rhsHead := rect.left + spanner.rhs.dx
      rhsTail := rect.right + spanner.rhs.dx } }

def prepare : Inside → SpannerInner
  | .lhsBeforeRhs =>
    let loaded := spanner.loadLhs
    { loaded with base := { loaded.base with rhsHead := maxValue, rhsTail := maxValue } }
  | .lhsAfterRhs =>
    let cleared := { spanner with base :=
      { spanner.base with lhsHead := maxValue, lhsTail := maxValue } }
    cleared.loadRhs
  | .lhsCoincideRhs => spanner.loadLhs.loadRhs

def isDone : Bool :=
  spanner.base.lhsHead == maxValue && spanner.base.rhsHead == maxValue

def advance (reg : RegionView) (left right : Int) : RegionView × Int × Int :=
  match reg.rects with
  | [] => (reg, left, right)
  | [_] => ({ reg with rects := [] }, maxValue, maxValue)
  | current :: rect :: rest =>
    if rect.top ≠ current.top then ({ reg with rects := rect :: rest }, maxValue, maxValue)
    else ({ reg with rects := rect :: rest }, rect.left + reg.dx, rect.right + reg.dx)

def advanceLhs : SpannerInner :=
  let (lhs, head, tail) := advance spanner.lhs spanner.base.lhsHead spanner.base.lhsTail
  { spanner with lhs := lhs, base := { spanner.base with lhsHead := head, lhsTail := tail } }

def advanceRhs : SpannerInner :=
  let (rhs, head, tail) := advance spanner.rhs spanner.base.rhsHead spanner.base.rhsTail
  { spanner with rhs := rhs, base := { spanner.base with rhsHead := head, rhsTail := tail } }

def next : SpannerStep × SpannerInner :=
  let step := spanner.base.next
  let moved := { spanner with base := step.base }
  let moved := if step.moreLhs then moved.advanceLhs else moved
  let moved := if step.moreRhs then moved.advanceRhs else moved
  (step, moved)

end SpannerInner

/-! ## The two loops -/

namespace RegionOperator

variable {Raster : Type}

/-- An iteration budget for either loop: every iteration but one per
rectangle moves past a rectangle. -/
def budget (lhs rhs : RegionView) : Nat := 2 * (lhs.rects.length + rhs.rects.length) + 2

variable (op : Operator) (rasterizer : Raster → Rect → Raster)

/-- The body of the inner loop, for the row from `top` to `bottom`. -/
def innerBody (top bottom : Int) (state : SpannerInner × Raster) : Option (SpannerInner × Raster) :=
  let (step, spanner) := state.1.next
  let kept := op.keeps step.inside && (step.head < step.tail && top < bottom)
  some (spanner, if kept then rasterizer state.2 ⟨step.head, top, step.tail, bottom⟩ else state.2)

/-- The body of the outer loop. The inner spanner starts from the regions as
they are before the outer spanner moves on. -/
def outerBody (state : Spanner × Raster) : Option (Spanner × Raster) :=
  let inner := SpannerInner.make state.1.lhs state.1.rhs
  let (step, spanner) := state.1.next
  match doWhile (innerBody op rasterizer step.head step.tail)
      (fun inner => inner.1.isDone) (budget inner.lhs inner.rhs)
      (inner.prepare step.inside, state.2) with
  | none => none
  | some (_, raster) => some (spanner, raster)

def run (lhs rhs : RegionView) (raster : Raster) : Option Raster :=
  match doWhile (outerBody op rasterizer) (fun outer => outer.1.isDone) (budget lhs rhs)
      (Spanner.make lhs rhs, raster) with
  | none => none
  | some (_, raster) => some raster

end RegionOperator

/-! ## The rasterizer and the boolean operations

`Region::rasterizer` collects the pieces that the sweep keeps, joins pieces
that touch within a row and rows that continue the row above them, and writes
the storage of the result. -/

/-- `Region::rasterizer`. `head` and `tail` are positions in the storage, which
delimit the row written last; `cur` is the last rectangle of `span`. -/
structure Rasterizer where
  bounds : Rect
  storage : List Rect
  head : Nat
  tail : Nat
  span : List Rect
  deriving DecidableEq, Repr

namespace Rasterizer

variable (raster : Rasterizer)

def initial : Rasterizer := ⟨⟨int32Max, 0, int32Min, 0⟩, [], 0, 0, []⟩

def min (rhs lhs : Int) : Int := if rhs < lhs then rhs else lhs

def max (rhs lhs : Int) : Int := if rhs > lhs then rhs else lhs

def lastRow : List Rect :=
  (raster.storage.take raster.tail).drop raster.head

def merges : Bool :=
  if raster.tail - raster.head = raster.span.length then
    match raster.span, raster.lastRow with
    | p :: _, q :: _ =>
      if p.top = q.bottom then
        (raster.span.zip raster.lastRow).all fun pair =>
          !(pair.1.left ≠ pair.2.left || pair.1.right ≠ pair.2.right)
      else false
    | _, _ => false
  else false

def flushSpan : Rasterizer :=
  match raster.span.head?, raster.span.getLast? with
  | some front, some back =>
    if raster.merges then
      { raster with
        storage := raster.storage.take raster.head ++
          raster.lastRow.map (fun rect => { rect with bottom := front.bottom }) ++
          raster.storage.drop raster.tail
        span := [] }
    else
      { bounds := { raster.bounds with
          left := min front.left raster.bounds.left
          right := max back.right raster.bounds.right }
        storage := raster.storage ++ raster.span
        head := (raster.storage ++ raster.span).length - raster.span.length
        tail := (raster.storage ++ raster.span).length
        span := [] }
  | _, _ => raster

def add (rect : Rect) : Rasterizer :=
  match raster.span.getLast? with
  | none => { raster with span := raster.span ++ [rect] }
  | some cur =>
    if cur.top ≠ rect.top then
      let flushed := raster.flushSpan
      { flushed with span := flushed.span ++ [rect] }
    else if cur.right = rect.left then
      { raster with span := raster.span.dropLast ++ [{ cur with right := rect.right }] }
    else { raster with span := raster.span ++ [rect] }

def finish : Region :=
  let flushed := if raster.span.isEmpty then raster else raster.flushSpan
  match flushed.storage.head?, flushed.storage.getLast? with
  | some front, some back =>
    let bounds := { flushed.bounds with top := front.top, bottom := back.bottom }
    ⟨(if flushed.storage.length = 1 then [] else flushed.storage) ++ [bounds]⟩
  | _, _ => ⟨flushed.storage ++ [{ flushed.bounds with left := 0, right := 0 }]⟩

end Rasterizer

namespace Region

variable (op : Operator)

def operate (lhs rhs : RegionView) : Option Region :=
  match RegionOperator.run op Rasterizer.add lhs rhs Rasterizer.initial with
  | none => none
  | some raster => some raster.finish

/-- `boolean_operation(op, dst, lhs, rhs, dx, dy)`, as the value it leaves in
`dst`. -/
def booleanOperation (lhs rhs : Region) (dx dy : Int) : Option Region :=
  operate op ⟨lhs.getArray, 0, 0⟩ ⟨rhs.getArray, dx, dy⟩

example : booleanOperation .or (ofRect ⟨0, 0, 2, 2⟩) (ofRect ⟨1, 1, 3, 3⟩) 0 0 =
    some ⟨[⟨0, 0, 2, 1⟩, ⟨0, 1, 3, 2⟩, ⟨1, 2, 3, 3⟩, ⟨0, 0, 3, 3⟩]⟩ := by
  decide

/-- The overload whose right operand is a rectangle. An invalid one, other than
the signal value, leaves `dst` as it was. -/
def booleanOperationRect (dst lhs : Region) (rhs : Rect) (dx dy : Int) : Option Region :=
  if !rhs.isValid && rhs ≠ Rect.invalidRect then some dst
  else operate op ⟨lhs.getArray, 0, 0⟩ ⟨[rhs], dx, dy⟩

/-! ## The named operations -/

variable (region rhs : Region)

def merge : Option Region := booleanOperation .or region rhs 0 0

def intersect : Option Region := booleanOperation .and region rhs 0 0

def subtract : Option Region := booleanOperation .nand region rhs 0 0

def orSelf : Option Region :=
  if region.isEmpty then some rhs else booleanOperation .or region rhs 0 0

def subtractSelf : Option Region := booleanOperation .nand region rhs 0 0

def intersectRect (region : Region) (rhs : Rect) : Option Region :=
  booleanOperationRect .and empty region rhs 0 0

def subtractRect (region : Region) (rhs : Rect) : Option Region :=
  booleanOperationRect .nand empty region rhs 0 0

def andSelfRect (region : Region) (rhs : Rect) : Option Region :=
  booleanOperationRect .and region region rhs 0 0

/-- `merge`, `mergeExclusive`, `intersect` and `subtract` with a rectangle. -/
def operationRect (region : Region) (rhs : Rect) : Option Region :=
  booleanOperationRect op empty region rhs 0 0

/-- `xorSelf`, `andSelf` and `subtractSelf` with a rectangle, and `orSelf` with its shortcut. -/
def selfRect (region : Region) (rhs : Rect) : Option Region :=
  if op = .or && region.isEmpty then some (ofRect rhs)
  else booleanOperationRect op region region rhs 0 0

end Region

end NativeLibs.Ui
