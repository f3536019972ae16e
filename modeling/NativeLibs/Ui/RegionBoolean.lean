import NativeLibs.Ui.RegionPoints
import NativeLibs.Ui.RegionTidy

/-! # Boolean operations on valid regions

`Region::boolean_operation` on two regions that pass `validate`: which points
the result covers, whether it passes `validate` again, and that its rectangles
are determined by its points. -/

namespace NativeLibs.Ui

open Run RegionRows RegionSweep RegionLoops RegionRaster RegionResult RegionCanonical RegionPoints
open Region (booleanOperation)
open ValidRegion Operator

variable (valid : ValidRegion)

namespace Region

/-- The points that the sweep covers: those the operator asks for, and those
that leak in from a later row. -/
def Swept (op : Operator) (lhs rhs : Region) (dx dy x y : Int) : Prop :=
  op.apply (lhs.contains x y) (rhs.contains (x - dx) (y - dy)) = true ∨
    op.Spurious ⟨lhs.getArray, 0, 0⟩ ⟨rhs.getArray, dx, dy⟩ x y

def Shiftable (region : Region) (dx dy : Int) : Prop :=
  ∀ rect ∈ region.getArray, (rect.offsetBy dx dy).Fits

instance (region : Region) (dx dy : Int) : Decidable (region.Shiftable dx dy) :=
  inferInstanceAs (Decidable (∀ rect ∈ _, _))

end Region

lemma ValidRegion.banded : Banded valid.region.getArray := by
  obtain ⟨first, rest, shape, seq, _⟩ := (Region.validate_iff _).mp valid.validated
  exact banded_of_sequenceValid (shape ▸ seq) valid.nonNegative

lemma ValidRegion.viewFits (shift : valid.region.Shiftable dx dy) :
    ViewFits ⟨valid.region.getArray, dx, dy⟩ :=
  ⟨valid.banded, shift⟩

lemma ValidRegion.shiftable_zero : valid.region.Shiftable 0 0 := by
  intro rect mem
  simpa [Rect.offsetBy] using valid.fits rect mem

lemma ValidRegion.getArray_ne_nil : valid.region.getArray ≠ [] := by
  obtain ⟨first, rest, shape, _⟩ := (Region.validate_iff _).mp valid.validated
  simp [shape]

lemma ValidRegion.contains_iff (shift : valid.region.Shiftable dx dy) (x y : Int) :
    valid.region.contains (x - dx) (y - dy) = true ↔
      RowsCover (viewRows ⟨valid.region.getArray, dx, dy⟩) x y := by
  rw [Region.contains_iff, rowsCover_viewRows_iff (valid.viewFits shift)]

/-- What a boolean operation on valid regions does: it ends, and writes tidy
rows that cover the swept points. -/
lemma booleanOperation_spec (op : Operator) (lhs rhs : ValidRegion)
    (shift : rhs.region.Shiftable dx dy) :
    ∃ rows res, booleanOperation op lhs.region rhs.region dx dy = some res ∧
      Written rows res ∧ TidyRows rows ∧
      ∀ x y, RowsCover rows x y ↔ Region.Swept op lhs.region rhs.region dx dy x y := by
  have fits := lhs.viewFits lhs.shiftable_zero
  have rhsFits := rhs.viewFits shift
  obtain ⟨res, wrote⟩ := @operate_written op _ _ fits rhsFits lhs.getArray_ne_nil
  refine ⟨_, res, wrote.1, wrote.2, tidy_resultRows fits rhsFits, fun x y => ?_⟩
  refine rowsCover_result_iff fits rhsFits ?_ (rhs.contains_iff shift x y)
  simpa using lhs.contains_iff lhs.shiftable_zero x y

/-! ## Points -/

lemma apply_eq_false_of_spurious {op : Operator} {lhs rhs : ValidRegion}
    (shift : rhs.region.Shiftable dx dy)
    (spurious : op.Spurious ⟨lhs.region.getArray, 0, 0⟩ ⟨rhs.region.getArray, dx, dy⟩ x y) :
    op.apply (lhs.region.contains x y) (rhs.region.contains (x - dx) (y - dy)) = false := by
  have fits := lhs.viewFits lhs.shiftable_zero
  have rhsFits := rhs.viewFits shift
  have outside : ¬ RowsCover (viewRows ⟨lhs.region.getArray, 0, 0⟩) x y ∧
      ¬ RowsCover (viewRows ⟨rhs.region.getArray, dx, dy⟩) x y := by
    rcases spurious with ⟨_, leaks⟩ | ⟨_, leaks⟩
    · exact not_rowsCover_of_leaks fits rhsFits leaks
    · exact (not_rowsCover_of_leaks rhsFits fits leaks).symm
  have lhsOut : lhs.region.contains x y = false := by
    have containsIff := lhs.contains_iff lhs.shiftable_zero x y
    simp only [Int.sub_zero] at containsIff
    rw [← Bool.not_eq_true, containsIff]
    exact outside.1
  have rhsOut : rhs.region.contains (x - dx) (y - dy) = false := by
    rw [← Bool.not_eq_true, rhs.contains_iff shift]
    exact outside.2
  rw [lhsOut, rhsOut, apply_false_false]

/-- The operation computes the points that the operator asks for exactly when
no row of one operand starts on the mark for an exhausted operand while the
other operand waits in a later row with several rectangles. -/
theorem booleanOperation_contains_iff_no_leak (op : Operator) (lhs rhs : ValidRegion) (dx dy : Int)
    (shiftable : rhs.region.Shiftable dx dy) :
    (∃ result, booleanOperation op lhs.region rhs.region dx dy = some result ∧
      ∀ x y, result.contains x y =
        op.apply (lhs.region.contains x y) (rhs.region.contains (x - dx) (y - dy))) ↔
    ∀ x y, ¬ op.Spurious ⟨lhs.region.getArray, 0, 0⟩ ⟨rhs.region.getArray, dx, dy⟩ x y := by
  obtain ⟨rows, result, runs, written, tidy, covers⟩ := booleanOperation_spec op lhs rhs shiftable
  have containsIff : ∀ x y, result.contains x y = true ↔
      Region.Swept op lhs.region rhs.region dx dy x y := fun x y =>
    (contains_of_written tidy written x y).trans (covers x y)
  constructor
  · rintro ⟨other, otherRuns, correct⟩ x y spurious
    obtain rfl : result = other := Option.some.inj (runs.symm.trans otherRuns)
    have wanted := apply_eq_false_of_spurious shiftable spurious
    rw [← correct x y, (containsIff x y).mpr (.inr spurious)] at wanted
    cases wanted
  · intro clean
    refine ⟨result, runs, fun x y => ?_⟩
    rw [Bool.eq_iff_iff, containsIff]
    exact ⟨fun swept => swept.resolve_right (clean x y), .inl⟩

def square : ValidRegion :=
  ⟨.ofRect ⟨0, 0, 2, 2⟩, by decide, by decide, by decide⟩

theorem booleanOperation_contains_iff_no_leak_square :
    (∃ result, booleanOperation .xor square.region square.region 1 1 = some result ∧
      ∀ x y, result.contains x y = apply .xor (square.region.contains x y)
          (square.region.contains (x - 1) (y - 1))) ↔
    ∀ x y, ¬ Operator.Spurious .xor ⟨square.region.getArray, 0, 0⟩
      ⟨square.region.getArray, 1, 1⟩ x y :=
  booleanOperation_contains_iff_no_leak .xor square square 1 1 (by decide)

def markedEdge : ValidRegion :=
  ⟨.ofRect ⟨2147483647, 0, 2147483647, 10⟩, by decide, by decide, by decide⟩

def waitingRow : ValidRegion :=
  ⟨⟨[⟨0, 20, 1, 30⟩, ⟨5, 20, 6, 30⟩, ⟨0, 20, 6, 30⟩]⟩, by decide, by decide, by decide⟩

/-- The union of the two covers the point `(5, 0)`, far above the row. -/
theorem booleanOperation_or_markedEdge_leaks : waitingRow.region.Shiftable 0 0 ∧
      ¬ ∃ result, booleanOperation .or markedEdge.region waitingRow.region 0 0 = some result ∧
        ∀ x y, result.contains x y = apply .or (markedEdge.region.contains x y)
            (waitingRow.region.contains (x - 0) (y - 0)) := by
  refine ⟨by decide, ?_⟩
  rintro ⟨result, runs, correct⟩
  have computed : booleanOperation .or markedEdge.region waitingRow.region 0 0 =
      some ⟨[⟨5, 0, 6, 10⟩, ⟨0, 20, 1, 30⟩, ⟨5, 20, 6, 30⟩, ⟨0, 0, 6, 30⟩]⟩ := by
    decide
  obtain rfl := Option.some.inj (computed.symm.trans runs)
  exact absurd (correct 5 0) (by decide)

/-! ## Validity -/

/-- The result passes `validate` exactly when no row of the swept points has a
stretch of `2^31` points, and no `2^31` successive rows are equal and not
empty. -/
theorem booleanOperation_validates_iff_sizes_fit (op : Operator) (lhs rhs : ValidRegion)
    (dx dy : Int) (shiftable : rhs.region.Shiftable dx dy) :
    (∃ result, booleanOperation op lhs.region rhs.region dx dy = some result ∧
      result.validate = true ∧ result.Tidy) ↔ ¬ (∃ x y, ∀ offset, 0 ≤ offset → offset ≤ int32Max →
      Region.Swept op lhs.region rhs.region dx dy (x + offset) y) ∧
    ¬ (∃ y, (∃ x, Region.Swept op lhs.region rhs.region dx dy x y) ∧
      ∀ offset, 0 ≤ offset → offset ≤ int32Max → ∀ x,
        (Region.Swept op lhs.region rhs.region dx dy x (y + offset) ↔
          Region.Swept op lhs.region rhs.region dx dy x y)) := by
  obtain ⟨rows, result, runs, written, tidy, covers⟩ := booleanOperation_spec op lhs rhs shiftable
  simp only [← covers]
  rw [← tidy.sizes_fit_iff, ← validate_of_written_iff tidy written]
  constructor
  · rintro ⟨other, otherRuns, valid, _⟩
    obtain rfl : result = other := Option.some.inj (runs.symm.trans otherRuns)
    exact valid
  · exact fun valid => ⟨result, runs, valid, tidy_of_written tidy written⟩

theorem booleanOperation_validates_iff_sizes_fit_square :
    (∃ result, booleanOperation .nand square.region square.region 1 0 = some result ∧
      result.validate = true ∧ result.Tidy) ↔ ¬ (∃ x y, ∀ offset, 0 ≤ offset → offset ≤ int32Max →
      Region.Swept .nand square.region square.region 1 0 (x + offset) y) ∧
    ¬ (∃ y, (∃ x, Region.Swept .nand square.region square.region 1 0 x y) ∧
      ∀ offset, 0 ≤ offset → offset ≤ int32Max → ∀ x,
        (Region.Swept .nand square.region square.region 1 0 x (y + offset) ↔
          Region.Swept .nand square.region square.region 1 0 x y)) :=
  booleanOperation_validates_iff_sizes_fit .nand square square 1 0 (by decide)

def westStrip : ValidRegion :=
  ⟨.ofRect ⟨-1073741825, 0, 0, 1⟩, by decide, by decide, by decide⟩

def eastStrip : ValidRegion :=
  ⟨.ofRect ⟨0, 0, 1073741823, 1⟩, by decide, by decide, by decide⟩

/-- The union of the strips is one rectangle, whose width wraps to a negative
value. -/
theorem booleanOperation_or_strips_invalid : eastStrip.region.Shiftable 0 0 ∧
      ¬ ∃ result, booleanOperation .or westStrip.region eastStrip.region 0 0 = some result ∧
        result.validate = true ∧ result.Tidy := by
  refine ⟨by decide, ?_⟩
  rintro ⟨result, runs, valid, _⟩
  have computed : booleanOperation .or westStrip.region eastStrip.region 0 0 =
      some ⟨[⟨-1073741825, 0, 1073741823, 1⟩]⟩ := by
    decide
  obtain rfl := Option.some.inj (computed.symm.trans runs)
  exact absurd valid (by decide)

/-! ## Canonical form -/

def Region.IsResult (region : Region) : Prop :=
  ∃ (op : Operator) (lhs rhs : ValidRegion) (dx dy : Int), rhs.region.Shiftable dx dy ∧
    booleanOperation op lhs.region rhs.region dx dy = some region

/-- Results contain the same points exactly when they have the same
rectangles. -/
theorem contains_eq_iff_hasSameRects {region other : Region} (isResult : region.IsResult)
    (otherIsResult : other.IsResult) :
    (∀ x y, region.contains x y = other.contains x y) ↔ region.hasSameRects other = true := by
  have spec : ∀ {res : Region}, res.IsResult → ∃ rows, Written rows res ∧ TidyRows rows := by
    rintro res ⟨op, lhs, rhs, dx, dy, shiftable, runs⟩
    obtain ⟨rows, same, otherRuns, written, tidy, _⟩ := booleanOperation_spec op lhs rhs shiftable
    obtain rfl : same = res := Option.some.inj (otherRuns.symm.trans runs)
    exact ⟨rows, written, tidy⟩
  obtain ⟨rows, written, tidy⟩ := spec isResult
  obtain ⟨otherRows, otherWritten, otherTidy⟩ := spec otherIsResult
  rw [Region.hasSameRects_iff]
  constructor
  · intro same
    have sameCovers : ∀ x y, RowsCover rows x y ↔ RowsCover otherRows x y := fun x y => by
      rw [← contains_of_written tidy written, ← contains_of_written otherTidy otherWritten, same]
    obtain rfl := tidy.eq_of_covers_iff otherTidy sameCovers
    exact getArray_eq_of_written written otherWritten
  · intro sameRects x y
    rw [Region.contains, Region.contains, sameRects]

/-- The square as a union, and the empty region as a difference. -/
theorem contains_eq_iff_hasSameRects_square :
    (∀ x y, square.region.contains x y = Region.empty.contains x y) ↔
      square.region.hasSameRects Region.empty = true :=
  contains_eq_iff_hasSameRects ⟨.or, square, square, 0, 0, by decide, by decide⟩
    ⟨.nand, square, square, 0, 0, by decide, by decide⟩

/-! ## Reducing a rectangle -/

lemma exists_contains_of_written {rows : List (Run Spans)} (tidy : TidyRows rows)
    (wrote : Written rows reg) (some : rows ≠ []) : ∃ x y, reg.contains x y = true := by
  obtain ⟨rect, mem⟩ := List.exists_mem_of_ne_nil _
    (rects_ne_nil (fun row inRows => (tidy.spans_fit row inRows).nonempty) some)
  obtain ⟨wide, tall, _⟩ := tidy.of_mem_rects mem
  rw [← getArray_of_written wrote some] at mem
  exact ⟨rect.left, rect.top, (reg.contains_iff _ _).mpr
    ⟨rect, mem, le_refl _, tall, le_refl _, wide⟩⟩

lemma Region.isHull_of_corners {reg : Region}
    (solid : ∀ rect ∈ reg.getArray, rect.left < rect.right ∧ rect.top < rect.bottom)
    (ins : ∀ x y, reg.contains x y = true → box.Covers x y)
    (left : reg.contains box.left box.top ∨ reg.contains box.left (box.bottom - 1))
    (top : reg.contains box.left box.top ∨ reg.contains (box.right - 1) box.top)
    (right : reg.contains (box.right - 1) box.top ∨ reg.contains (box.right - 1) (box.bottom - 1))
    (bot : reg.contains box.left (box.bottom - 1) ∨
      reg.contains (box.right - 1) (box.bottom - 1)) : IsHull reg.getArray box := by
  have win : ∀ rect ∈ reg.getArray, box.left ≤ rect.left ∧ box.top ≤ rect.top ∧
      rect.right ≤ box.right ∧ rect.bottom ≤ box.bottom := by
    intro rect mem
    have ⟨wide, tall⟩ := solid rect mem
    have first := ins rect.left rect.top ((reg.contains_iff _ _).mpr
      ⟨rect, mem, by omega, by omega, by omega, by omega⟩)
    have last := ins (rect.right - 1) (rect.bottom - 1) ((reg.contains_iff _ _).mpr
      ⟨rect, mem, by omega, by omega, by omega, by omega⟩)
    simp only [Rect.Covers] at first last
    omega
  simp only [Region.contains_iff, Rect.Covers] at left top right bot
  refine ⟨⟨?_, ?_⟩, ⟨?_, ?_⟩, ⟨?_, ?_⟩, ⟨?_, ?_⟩⟩
  · rcases left with ⟨rect, mem, _⟩ | ⟨rect, mem, _⟩ <;>
      exact ⟨rect, mem, by have := win rect mem; omega⟩
  · rintro _ ⟨rect, mem, rfl⟩
    exact (win rect mem).1
  · rcases top with ⟨rect, mem, _⟩ | ⟨rect, mem, _⟩ <;>
      exact ⟨rect, mem, by have := win rect mem; omega⟩
  · rintro _ ⟨rect, mem, rfl⟩
    exact (win rect mem).2.1
  · rcases right with ⟨rect, mem, _⟩ | ⟨rect, mem, _⟩ <;>
      exact ⟨rect, mem, by have := win rect mem; omega⟩
  · rintro _ ⟨rect, mem, rfl⟩
    exact (win rect mem).2.2.1
  · rcases bot with ⟨rect, mem, _⟩ | ⟨rect, mem, _⟩ <;>
      exact ⟨rect, mem, by have := win rect mem; omega⟩
  · rintro _ ⟨rect, mem, rfl⟩
    exact (win rect mem).2.2.2

lemma Region.contains_ofRect (rect : Rect) (x y : Int) :
    (ofRect rect).contains x y = decide (rect.Covers x y) := by
  rw [Bool.eq_iff_iff, contains_iff]
  simp [ofRect, getArray_singleton]

lemma Region.validate_ofRect (valid : rectIsValid rect = true) :
    (ofRect rect).validate = true := by
  simp [validate, ofRect, getArray_singleton, validateLoop, getBounds, valid]

def ValidRegion.ofRect (rect : Rect) (fits : rect.Fits) (nonNegative : rect.NonNegative)
    (valid : rect.isValid = true) : ValidRegion where
  region := .ofRect rect
  validated := by
    have right : ¬ rect.right > maxValue := not_lt.mpr fits.2.2.1.2
    have bottom : ¬ rect.bottom > maxValue := not_lt.mpr fits.2.2.2.2
    exact Region.validate_ofRect (by simp [Region.rectIsValid, valid, right, bottom])
  nonNegative := by simpa [Region.ofRect, Region.getArray_singleton] using nonNegative
  fits := by simpa [Region.ofRect, Region.getArray_singleton] using fits

lemma subtractRect_spec (rectFits : rect.Fits) (excludeFits : excl.Fits)
    (nonNegative : rect.NonNegative) (valid : rect.isValid = true)
    (excludeNonNegative : excl.NonNegative) (excludeValid : excl.isValid = true) :
    ∃ rows res, (Region.ofRect rect).subtractRect excl = some res ∧
      Written rows res ∧ TidyRows rows ∧
      ∀ x y, res.contains x y = true ↔ rect.Covers x y ∧ ¬ excl.Covers x y := by
  let lhs := ofRect rect rectFits nonNegative valid
  let rhs := ofRect excl excludeFits excludeNonNegative excludeValid
  obtain ⟨rows, res, runs, wrote, tidy, cov⟩ :=
    booleanOperation_spec .nand lhs rhs rhs.shiftable_zero
  refine ⟨rows, res, ?_, wrote, tidy, fun x y => ?_⟩
  · rw [← runs]
    simp [Region.subtractRect, Region.booleanOperationRect, excludeValid, booleanOperation, lhs,
      rhs, ofRect, Region.ofRect, Region.getArray_singleton]
  · rw [contains_of_written tidy wrote, cov]
    constructor
    · rintro (kept | ⟨keeps, _⟩ | ⟨_, _, _, pend⟩)
      · simpa [lhs, rhs, ofRect, Region.contains_ofRect, apply] using kept
      · cases keeps
      · -- There is no second rectangle in the row.
        rcases pend with ⟨_, mem, _, _, _, other, also, _, _⟩
        simp [lhs, ofRect, Region.ofRect, Region.getArray_singleton] at mem also
        subst mem also
        simp only [Rect.NonNegative] at nonNegative
        omega
    · intro kept
      left
      simpa [lhs, rhs, ofRect, Region.contains_ofRect, apply] using kept

def Rect.Keeps (rect exclude : Rect) (x y : Int) : Prop :=
  rect.Covers x y ∧ ¬ exclude.Covers x y

lemma Rect.reduce_corners {rect : Rect} (wide : rect.left < rect.right)
    (tall : rect.top < rect.bottom) (kept : ∃ x y, rect.Keeps excl x y) :
    let box := rect.reduce excl
    (∀ x y, rect.Keeps excl x y → box.Covers x y) ∧
      (rect.Keeps excl box.left box.top ∨ rect.Keeps excl box.left (box.bottom - 1)) ∧
      (rect.Keeps excl box.left box.top ∨ rect.Keeps excl (box.right - 1) box.top) ∧
      (rect.Keeps excl (box.right - 1) box.top ∨ rect.Keeps excl (box.right - 1) (box.bottom - 1)) ∧
      (rect.Keeps excl box.left (box.bottom - 1) ∨
        rect.Keeps excl (box.right - 1) (box.bottom - 1)) := by
  rcases kept with ⟨x, y, kept⟩
  rcases rect with ⟨left, top, right, bot⟩
  rcases excl with ⟨left', top', right', bottom'⟩
  generalize equation : Rect.reduce _ _ = box
  rcases box with ⟨l, t, r, b⟩
  simp only [Rect.Keeps, Rect.Covers] at kept wide tall ⊢
  by_cases onLeft : left' > left <;> by_cases onTop : top' > top <;>
    by_cases onRight : right' < right <;> by_cases onBottom : bottom' < bot <;>
    simp [Rect.reduce, Rect.emptyRect, onLeft, onTop, onRight, onBottom] at equation <;>
    refine ⟨fun x y => ?_, ?_, ?_, ?_, ?_⟩ <;> omega

/-- Apart from rectangles whose sizes wrap around, `reduce` returns the bounds of the difference
of the regions. -/
theorem reduce_eq_bounds_subtract (rect exclude : Rect) (rectFits : rect.Fits)
    (excludeFits : exclude.Fits) (nonNegative : rect.NonNegative) (solid : rect.isEmpty = false)
    (excludeNonNegative : exclude.NonNegative) (excludeValid : exclude.isValid = true) :
    ((Region.ofRect rect).subtractRect exclude).map Region.getBounds =
      some (rect.reduce exclude) := by
  simp only [Rect.isEmpty, Bool.or_eq_false_iff, decide_eq_false_iff_not, not_le] at solid
  have valid : rect.isValid = true := by
    simp [Rect.isValid, solid.1.le, solid.2.le]
  have wide : rect.left < rect.right := by
    apply nonNegative.1.lt_of_ne
    intro same
    simp [Rect.getWidth, same, wrapInt32] at solid
  have tall : rect.top < rect.bottom := by
    apply nonNegative.2.lt_of_ne
    intro same
    simp [Rect.getHeight, same, wrapInt32] at solid
  obtain ⟨rows, res, runs, written, tidy, points⟩ := subtractRect_spec rectFits excludeFits
    nonNegative valid excludeNonNegative excludeValid
  rw [runs, Option.map_some]
  congr 1
  by_cases none : rows = []
  · rcases written with ⟨_, rfl⟩ | ⟨_, _, _, isFront, _⟩
    · have cov : ∀ x y, rect.Covers x y → exclude.Covers x y := by
        intro x y inside
        by_contra outside
        obtain ⟨other, mem, covers⟩ :=
          (Region.contains_iff _ x y).mp ((points x y).mpr ⟨inside, outside⟩)
        rw [List.mem_singleton.mp mem] at covers
        exact absurd (covers.1.trans_lt covers.2.1) (lt_irrefl 0)
      have first := cov rect.left rect.top ⟨by omega, by omega, by omega, by omega⟩
      have last := cov (rect.right - 1) (rect.bottom - 1)
        ⟨by omega, by omega, by omega, by omega⟩
      simp only [Rect.Covers] at first last
      simp [Rect.reduce, not_lt.mpr first.1, not_lt.mpr first.2.2.1,
        not_lt.mpr (Int.le_of_sub_one_lt last.2.1), not_lt.mpr (Int.le_of_sub_one_lt last.2.2.2)]
      rfl
    · rw [none] at isFront
      cases isFront
  · have array := getArray_of_written written none
    have shapes : ∀ rect ∈ res.getArray, rect.left < rect.right ∧ rect.top < rect.bottom := by
      intro rect mem
      obtain ⟨wide, tall, _⟩ := tidy.of_mem_rects (array ▸ mem)
      exact ⟨wide, tall⟩
    have kept : ∃ x y, rect.Keeps exclude x y := by
      obtain ⟨x, y, inside⟩ := exists_contains_of_written tidy written none
      exact ⟨x, y, (points x y).mp inside⟩
    obtain ⟨inside, left, top, right, bottom⟩ := Rect.reduce_corners wide tall kept
    simp only [Rect.Keeps, ← points] at inside left top right bottom
    exact (tidy_of_written tidy written).hull.unique
      (Region.isHull_of_corners shapes inside left top right bottom)

/-- The upper part is cut off. -/
theorem reduce_eq_bounds_subtract_upper :
    ((Region.ofRect ⟨0, 0, 10, 10⟩).subtractRect ⟨0, -3, 12, 4⟩).map Region.getBounds =
      some ⟨0, 4, 10, 10⟩ :=
  reduce_eq_bounds_subtract ⟨0, 0, 10, 10⟩ ⟨0, -3, 12, 4⟩ (by decide) (by decide) (by decide)
    (by decide) (by decide) (by decide)

/-- A rectangle that is valid because its width wraps around. -/
theorem reduce_wrapped_rect_differs :
    let rect : Rect := ⟨-2147483648, 0, -2147483647, 10⟩
    let exclude : Rect := ⟨2147483647, -5, -2147483648, 20⟩
    rect.Fits ∧ exclude.Fits ∧ rect.isEmpty = false ∧ exclude.isValid = true ∧
      ((Region.ofRect rect).subtractRect exclude).map Region.getBounds ≠
        some (rect.reduce exclude) := by
  decide

/-! ## Shifted operands -/

/-- An empty region stays where it is. -/
def Region.translate (region : Region) (dx dy : Int) : Region :=
  if (dx ≠ 0 ∨ dy ≠ 0) ∧ region.isEmpty = false then ⟨region.mStorage.map (·.offsetBy dx dy)⟩
  else region

lemma Region.getArray_translate {region : Region} (solid : region.isEmpty = false) :
    (region.translate dx dy).getArray = region.getArray.map (·.offsetBy dx dy) := by
  by_cases moved : dx ≠ 0 ∨ dy ≠ 0
  · simp [translate, moved, solid, getArray, isRect]
    split <;> simp [List.map_take]
  · obtain ⟨rfl, rfl⟩ := not_or.1 moved |>.imp not_not.1 not_not.1
    simp [translate, Rect.offsetBy]

lemma rows_offsetBy (rects : List Rect) :
    rows 0 0 (rects.map (·.offsetBy dx dy)) = rows dx dy rects := by
  fun_induction rows dx dy rects with
  | case1 => simp [rows]
  | case2 rect rest ih =>
    rw [← ih, List.map_cons, rows]
    simp [rowSpans, Spanner.skipRow, Rect.offsetBy, List.takeWhile_map, List.dropWhile_map, span,
      Function.comp_def, beq_eq_decide]

lemma ViewFits.offsetBy {rects : List Rect} (fits : ViewFits ⟨rects, dx, dy⟩) :
    ViewFits ⟨rects.map (·.offsetBy dx dy), 0, 0⟩ := by
  refine ⟨⟨?_, List.pairwise_map.2 (fits.banded.ordered.imp fun follows => ?_)⟩, ?_⟩
  · simpa [Rect.NonNegative, Rect.offsetBy] using fits.banded.sized
  · simpa [Follows, Rect.offsetBy] using follows
  · simpa [ShiftFits, Rect.offsetBy] using fits.fits

/-- The operation with an offset, which shifts the rectangles as it reads them, writes what the
plain operation writes for the translated region. -/
theorem booleanOperation_translate (op : Operator) (lhs rhs : ValidRegion) (dx dy : Int)
    (shiftable : rhs.region.Shiftable dx dy) (solid : rhs.region.isEmpty = false) :
    booleanOperation op lhs.region (rhs.region.translate dx dy) 0 0 =
      booleanOperation op lhs.region rhs.region dx dy := by
  have fits := lhs.viewFits lhs.shiftable_zero
  have plain := rhs.viewFits shiftable
  have moved := ViewFits.offsetBy plain
  simp only [booleanOperation, Region.getArray_translate solid, Region.operate,
    run_eq _ fits.banded plain.banded fits.fits plain.fits lhs.getArray_ne_nil,
    run_eq _ fits.banded moved.banded fits.fits moved.fits lhs.getArray_ne_nil, rows_offsetBy]

theorem booleanOperation_translate_square :
    booleanOperation .xor square.region (square.region.translate 1 1) 0 0 =
      booleanOperation .xor square.region square.region 1 1 :=
  booleanOperation_translate .xor square square 1 1 (by decide) (by decide)

end NativeLibs.Ui
