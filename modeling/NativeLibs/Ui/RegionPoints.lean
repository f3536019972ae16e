import NativeLibs.Ui.RegionCanonical

/-! # The points of a result

The points that a boolean operation covers: those that the operator asks for,
and those that leak in when a row of one operand starts on the mark for an
exhausted operand while the other operand waits in a later row. -/

namespace NativeLibs.Ui

open Run RegionRows RegionSweep RegionLoops RegionRaster RegionResult RegionCanonical Operator

namespace RegionView

variable (view : RegionView)

def AtHeight (rect : Rect) (y : Int) : Prop :=
  rect.top + view.dy ≤ y ∧ y < rect.bottom + view.dy

def Reaches (y : Int) : Prop := ∃ rect ∈ view.rects, view.AtHeight rect y

/-- All that reaches the height `y` starts at the largest coordinate, which the
code also uses as the mark for an exhausted operand. -/
def BlindAt (y : Int) : Prop :=
  view.Reaches y ∧ ∀ rect ∈ view.rects, view.AtHeight rect y → rect.left + view.dx = maxValue

/-- In the first row below the height `y` a rectangle other than the first one
covers the column `x`. -/
def PendingAt (x y : Int) : Prop :=
  ∃ rect ∈ view.rects, y < rect.top + view.dy ∧
    (∀ other ∈ view.rects, y < other.top + view.dy → rect.top ≤ other.top) ∧
    (rect.left + view.dx ≤ x ∧ x < rect.right + view.dx) ∧
    ∃ earlier ∈ view.rects, earlier.top = rect.top ∧ earlier.right ≤ rect.left

/-- The row of `pending` that is still to come is swept at the height `y`. -/
def Leaks (blind pending : RegionView) (x y : Int) : Prop :=
  blind.BlindAt y ∧ ¬ pending.Reaches y ∧ pending.PendingAt x y

end RegionView

def Operator.Spurious (op : Operator) (lhs rhs : RegionView) (x y : Int) : Prop :=
  (op.keeps .lhsAfterRhs = true ∧ lhs.Leaks rhs x y) ∨
    (op.keeps .lhsBeforeRhs = true ∧ rhs.Leaks lhs x y)

namespace RegionPoints

variable {view : RegionView} {right left : Spans}

/-! ## Rows in terms of rectangles -/

lemma mem_rowOf : run ∈ (rowOf view.dx view.dy view.rects rect).value ↔
      ∃ other ∈ view.rects, other.top = rect.top ∧ span view.dx other = run := by
  simp [rowOf, and_assoc]

lemma top_eq_of_atHeight (banded : Banded view.rects) (mem : rect ∈ view.rects)
    (also : other ∈ view.rects) (atH : view.AtHeight rect y)
    (otherAtHeight : view.AtHeight other y) :
    other.top = rect.top ∧ other.bottom = rect.bottom := by
  obtain ⟨above, below⟩ := atH
  obtain ⟨otherAbove, otherBelow⟩ := otherAtHeight
  by_cases same : rect = other
  · rw [same]
    exact ⟨rfl, rfl⟩
  · rcases banded.follows_or_follows mem also same with foll | foll <;>
      rcases foll with beside | apart <;> omega

lemma bottom_eq_of_top_eq (banded : Banded view.rects) (mem : rect ∈ view.rects)
    (also : other ∈ view.rects) (eqTop : other.top = rect.top) :
    other.bottom = rect.bottom := by
  by_cases same : rect = other
  · rw [same]
  · rcases banded.follows_or_follows mem also same with foll | foll <;>
      rcases foll with beside | apart <;> omega

lemma lookup_eq_some_iff (fits : ViewFits view) : lookup (viewRows view) y = some spans ↔
      ∃ rect ∈ view.rects, view.AtHeight rect y ∧
        (rowOf view.dx view.dy view.rects rect).value = spans := by
  constructor
  · intro hit
    obtain ⟨row, mem, cov, valueEq⟩ := exists_mem_of_lookup_eq hit
    obtain ⟨rect, inRects, rfl⟩ := fits.mem_viewRows_iff.mp mem
    exact ⟨rect, inRects, cov, valueEq⟩
  · rintro ⟨rect, inRects, atH, rfl⟩
    exact fits.walkable.ordered.lookup_eq_of_mem
      (fits.mem_viewRows_iff.mpr ⟨rect, inRects, rfl⟩) atH

lemma lookup_eq_none_iff (fits : ViewFits view) :
    lookup (viewRows view) y = none ↔ ¬ view.Reaches y := by
  constructor
  · rintro none ⟨rect, mem, atH⟩
    have hit := (lookup_eq_some_iff fits).mpr ⟨rect, mem, atH, rfl⟩
    rw [none] at hit
    cases hit
  · intro unreached
    cases hit : lookup (viewRows view) y with
    | none => rfl
    | some spans =>
      obtain ⟨rect, mem, atH, _⟩ := (lookup_eq_some_iff fits).mp hit
      exact absurd ⟨rect, mem, atH⟩ unreached

lemma rowsCover_viewRows_iff (fits : ViewFits view) (x y : Int) : RowsCover (viewRows view) x y ↔
      ∃ rect ∈ view.rects, rect.Covers (x - view.dx) (y - view.dy) := by
  constructor
  · rintro ⟨spans, foundRow, foundSpan⟩
    obtain ⟨rect, mem, atH, rfl⟩ := (lookup_eq_some_iff fits).mp foundRow
    obtain ⟨run, inRow, cov, _⟩ := exists_mem_of_lookup_eq foundSpan
    obtain ⟨other, also, eqTop, rfl⟩ := mem_rowOf.mp inRow
    have sameBottom := bottom_eq_of_top_eq fits.banded mem also eqTop
    obtain ⟨above, below⟩ := atH
    obtain ⟨fromLeft, toRight⟩ := cov
    simp only [span] at fromLeft toRight
    refine ⟨other, also, ?_⟩
    unfold Rect.Covers
    omega
  · rintro ⟨rect, mem, fromTop, toBottom, fromLeft, toRight⟩
    have atH : view.AtHeight rect y := by
      unfold RegionView.AtHeight
      omega
    refine ⟨_, (lookup_eq_some_iff fits).mpr ⟨rect, mem, atH, rfl⟩, ?_⟩
    have inRow := mem_rowOf.mpr ⟨rect, mem, rfl, rfl⟩
    refine (fits.banded.walkable_rowOf fits.fits rect).ordered.lookup_eq_of_mem inRow ?_
    simp only [Run.Covers, span]
    omega

/-! ## Where points leak in -/

lemma ne_nil_of_rowOf (mem : rect ∈ view.rects) :
    (rowOf view.dx view.dy view.rects rect).value ≠ [] := by
  intro none
  have inRow : span view.dx rect ∈ (rowOf view.dx view.dy view.rects rect).value :=
    mem_rowOf.mpr ⟨rect, mem, rfl, rfl⟩
  rw [none] at inRow
  cases inRow

section

variable (fits : ViewFits view)
include fits

lemma blindAt_iff (hit : lookup (viewRows view) y = some spans) :
    view.BlindAt y ↔ ¬ cursorStart maxValue spans < maxValue := by
  obtain ⟨rect, mem, atH, rfl⟩ := (lookup_eq_some_iff fits).mp hit
  have walk := fits.banded.walkable_rowOf fits.fits rect
  obtain ⟨first, rest, shape⟩ := List.exists_cons_of_ne_nil (ne_nil_of_rowOf mem)
  constructor
  · rintro ⟨_, blind⟩
    have inRow : first ∈ (rowOf view.dx view.dy view.rects rect).value := shape ▸ List.mem_cons_self
    obtain ⟨other, also, eqTop, rfl⟩ := mem_rowOf.mp inRow
    have sameBottom := bottom_eq_of_top_eq fits.banded mem also eqTop
    have atMark := blind other also (by
      unfold RegionView.AtHeight at atH ⊢
      omega)
    rw [shape, cursorStart_cons, span, atMark]
    exact lt_irrefl _
  · intro dead
    refine ⟨⟨rect, mem, atH⟩, fun other also otherAtHeight => ?_⟩
    have eqTop := (top_eq_of_atHeight fits.banded mem also atH otherAtHeight).1
    have inRow := mem_rowOf.mpr ⟨other, also, eqTop, rfl⟩
    rw [shape] at walk dead inRow
    obtain ⟨startEq, _, restNil⟩ := walk.eq_of_limit_le (not_lt.mp dead)
    rw [restNil, List.mem_singleton] at inRow
    rw [← startEq, ← inRow]
    rfl

lemma mem_tail_rowOf_iff : lookup (rowOf view.dx view.dy view.rects rect).value.tail x = some () ↔
      ∃ other ∈ view.rects, other.top = rect.top ∧
        (other.left + view.dx ≤ x ∧ x < other.right + view.dx) ∧
        ∃ prior ∈ view.rects, prior.top = rect.top ∧ prior.right ≤ other.left := by
  have walk := fits.banded.walkable_rowOf fits.fits rect
  cases shape : (rowOf view.dx view.dy view.rects rect).value with
  | nil =>
    simp only [List.tail_nil, lookup_nil, reduceCtorEq, false_iff]
    rintro ⟨other, mem, eqTop, _⟩
    have inRow := mem_rowOf.mpr ⟨other, mem, eqTop, rfl⟩
    rw [shape] at inRow
    cases inRow
  | cons first rest =>
    rw [shape] at walk
    have firstInRow : first ∈ (rowOf view.dx view.dy view.rects rect).value :=
      shape ▸ List.mem_cons_self
    obtain ⟨firstRect, firstMember, firstTop, rfl⟩ := mem_rowOf.mp firstInRow
    have restOrdered := walk.ordered.2.2
    constructor
    · intro hit
      obtain ⟨run, inT, cov, _⟩ := exists_mem_of_lookup_eq hit
      have inRow : run ∈ (rowOf view.dx view.dy view.rects rect).value :=
        shape ▸ List.mem_cons_of_mem _ inT
      obtain ⟨other, mem, eqTop, rfl⟩ := mem_rowOf.mp inRow
      have apart := restOrdered.start_le inT
      simp only [span] at apart
      exact ⟨other, mem, eqTop, cov, firstRect, firstMember, firstTop, by omega⟩
    · rintro ⟨other, mem, eqTop, cov, prior, earlierMember, earlierTop, ends⟩
      have inRow := mem_rowOf.mpr ⟨other, mem, eqTop, rfl⟩
      have earlierInRow := mem_rowOf.mpr ⟨prior, earlierMember, earlierTop, rfl⟩
      rw [shape] at inRow earlierInRow
      have inT : span view.dx other ∈ rest := by
        rcases List.mem_cons.mp inRow with eq | inT
        · -- The first one of the row ends before nothing that ends before it.
          exfalso
          simp only [span, Run.mk.injEq] at eq
          rcases List.mem_cons.mp earlierInRow with earlierEqual | earlierInRest
          · simp only [span, Run.mk.injEq] at earlierEqual
            omega
          · have apart := restOrdered.start_le earlierInRest
            have sized := restOrdered.start_le_stop earlierInRest
            simp only [span] at apart sized
            omega
        · exact inT
      exact restOrdered.lookup_eq_of_mem inT cov

lemma pendingAt_iff (x y : Int) :
    lookup ((nextAfter (viewRows view) y).getD []).tail x = some () ↔ view.PendingAt x y := by
  constructor
  · intro hit
    cases next : nextAfter (viewRows view) y with
    | none => simp [next] at hit
    | some spans =>
      rw [next, Option.getD_some] at hit
      obtain ⟨row, mem, starts, rfl, least⟩ := nextAfter_eq_some fits.walkable.ordered next
      obtain ⟨rect, _, rfl⟩ := fits.mem_viewRows_iff.mp mem
      obtain ⟨other, also, eqTop, cov, prior, earlierMember, earlierTop, ends⟩ :=
        (mem_tail_rowOf_iff fits).mp hit
      refine ⟨other, also, by rw [eqTop]; exact starts, ?_, cov, prior,
        earlierMember, earlierTop.trans eqTop.symm, ends⟩
      intro candidate candidateMember candidateStarts
      have := least _ (fits.mem_viewRows_iff.mpr ⟨candidate, candidateMember, rfl⟩)
        candidateStarts
      simp only [rowOf] at this
      omega
  · rintro ⟨rect, mem, starts, least, cov, prior, earlierMember, earlierTop, ends⟩
    have inRows := fits.mem_viewRows_iff.mpr ⟨rect, mem, rfl⟩
    obtain ⟨spans, next⟩ := exists_nextAfter inRows starts
    obtain ⟨row, rowMember, rowStarts, rfl, rowLeast⟩ :=
      nextAfter_eq_some fits.walkable.ordered next
    obtain ⟨other, also, rfl⟩ := fits.mem_viewRows_iff.mp rowMember
    have notBelow := least other also rowStarts
    have notAbove := rowLeast _ inRows starts
    simp only [rowOf] at notAbove
    have eqTop : rect.top = other.top := by omega
    rw [next, Option.getD_some]
    exact (mem_tail_rowOf_iff fits).mpr ⟨rect, mem, eqTop, cov, prior, earlierMember,
      earlierTop.trans eqTop, ends⟩

lemma walkable_of_lookup (hit : lookup (viewRows view) y = some spans) :
    Walkable int32Min maxValue spans := by
  obtain ⟨row, mem, _, rfl⟩ := exists_mem_of_lookup_eq hit
  exact fits.walkable_of_mem mem

lemma walkable_nextAfter (y : Int) :
    Walkable int32Min maxValue ((nextAfter (viewRows view) y).getD []) := by
  cases next : nextAfter (viewRows view) y with
  | none => exact .nil
  | some spans =>
    obtain ⟨row, mem, _, rfl, _⟩ := nextAfter_eq_some fits.walkable.ordered next
    exact fits.walkable_of_mem mem

end

lemma lookup_eq_none_of_at_mark (walk : Walkable int32Min maxValue spans)
    (atMark : ¬ cursorStart maxValue spans < maxValue) (x : Int) : lookup spans x = none := by
  cases spans with
  | nil => rfl
  | cons first rest =>
    obtain ⟨startEq, stopEq, rfl⟩ := walk.eq_of_limit_le (not_lt.mp atMark)
    refine lookup_cons_of_not_covers fun cov => ?_
    have := lt_of_le_of_lt cov.1 cov.2
    omega

/-! ## The pieces of a row -/

section

variable (lWalk : Walkable int32Min maxValue left)
  (rWalk : Walkable int32Min maxValue right)
include lWalk rWalk

variable (x : Int)

lemma lookup_bandRuns_both :
    lookup (bandRuns .lhsCoincideRhs left right) x = overlapAt left right x := by
  have unfolded : bandRuns .lhsCoincideRhs left right =
      if Live left right then sweep left right else sweep left.tail right.tail := rfl
  rw [unfolded]
  by_cases live : Live left right
  · rw [if_pos live]
    exact lookup_sweep lWalk.ordered rWalk.ordered x
  · obtain ⟨_, leftTail, rightTail, flat⟩ := eq_of_not_live lWalk rWalk live
    rw [if_neg live, leftTail, rightTail, ← lookup_sweep lWalk.ordered rWalk.ordered x]
    cases hit : lookup (sweep left right) x with
    | none => simp [sweep]
    | some piece =>
      obtain ⟨str, mem, cov, _⟩ := exists_mem_of_lookup_eq hit
      exact absurd (lt_of_le_of_lt cov.1 cov.2) (flat str mem)

lemma lookup_bandRuns_before : lookup (bandRuns .lhsBeforeRhs left right) x =
      if cursorStart maxValue left < maxValue then overlapAt left [] x
      else overlapAt [] right.tail x := by
  have liveIff : Live left [] ↔ cursorStart maxValue left < maxValue := by simp [Live]
  unfold bandRuns
  simp only [active, liveIff]
  split
  next => exact lookup_sweep lWalk.ordered (.nil _) x
  next dead =>
    obtain ⟨_, leftTail, _⟩ := eq_of_not_live lWalk .nil (liveIff.not.mpr dead)
    rw [leftTail]
    exact lookup_sweep (.nil _) rWalk.tail.ordered x

lemma lookup_bandRuns_after : lookup (bandRuns .lhsAfterRhs left right) x =
      if cursorStart maxValue right < maxValue then overlapAt [] right x
      else overlapAt left.tail [] x := by
  have liveIff : Live [] right ↔ cursorStart maxValue right < maxValue := by simp [Live]
  unfold bandRuns
  simp only [active, liveIff]
  split
  next => exact lookup_sweep (.nil _) rWalk.ordered x
  next dead =>
    obtain ⟨_, _, rightTail, _⟩ := eq_of_not_live .nil rWalk (liveIff.not.mpr dead)
    rw [rightTail]
    exact lookup_sweep lWalk.tail.ordered (.nil _) x

end

def Kept (op : Operator) (piece : Option (Overlap Unit Unit)) : Prop :=
  ∃ overlap, piece = some overlap ∧ op.keeps (inside overlap.side) = true

lemma kept_overlapAt_left (left : Spans) (x : Int) : Kept op (overlapAt left [] x) ↔
      lookup left x = some () ∧ op.keeps .lhsBeforeRhs = true := by
  cases hit : lookup left x <;> simp [Kept, overlapAt, hit, inside]

lemma kept_overlapAt_right (right : Spans) (x : Int) : Kept op (overlapAt [] right x) ↔
      lookup right x = some () ∧ op.keeps .lhsAfterRhs = true := by
  cases hit : lookup right x <;> simp [Kept, overlapAt, hit, inside]

lemma kept_overlapAt_both (left right : Spans) (x : Int) : Kept op (overlapAt left right x) ↔
      op.apply (lookup left x).isSome (lookup right x).isSome = true := by
  cases leftFound : lookup left x <;> cases rightFound : lookup right x <;>
    simp [Kept, overlapAt, leftFound, rightFound, inside, apply_true_true,
      apply_true_false, apply_false_true, apply_false_false]

/-! ## The points of the result -/

section Operands

variable (lhsFits : ViewFits lhs) (rhsFits : ViewFits rhs)

include lhsFits rhsFits

lemma rowsCover_resultRows_iff (x y : Int) : RowsCover (resultRows op lhs rhs) x y ↔
      ∃ band, overlapAt (viewRows lhs) (viewRows rhs) y = some band ∧
        Kept op (lookup (bandRuns (inside band.side) (band.left.getD []) (band.right.getD [])) x) := by
  have bandFits : ∀ band, overlapAt (viewRows lhs) (viewRows rhs) y = some band →
      BandFits band := by
    intro band hit
    rw [← lookup_sweep lhsFits.walkable.ordered rhsFits.walkable.ordered] at hit
    obtain ⟨str, mem, _, rfl⟩ := exists_mem_of_lookup_eq hit
    exact bandFits_of_mem_sweep lhsFits rhsFits mem
  have keptIff : ∀ band, BandFits band →
      ((∃ spans, keepBand op band = some spans ∧ lookup spans x = some ()) ↔
        Kept op (lookup (bandRuns (inside band.side) (band.left.getD []) (band.right.getD []))
          x)) := by
    intro band fits
    have pointIff : lookup (coalesce (keptSpans op band)) x = some () ↔
        Kept op (lookup (bandRuns (inside band.side) (band.left.getD []) (band.right.getD []))
          x) := by
      rw [fits.lookup_coalesce, Option.bind_eq_some_iff]
      simp [Kept, keepPiece]
    rw [← pointIff]
    by_cases empty : keptSpans op band = []
    · simp [keepBand, empty, coalesce]
    · simp [keepBand, empty]
  unfold RowsCover
  rw [lookup_resultRows lhsFits rhsFits]
  constructor
  · rintro ⟨spans, hit, cov⟩
    obtain ⟨band, bandEq, keptEq⟩ := Option.bind_eq_some_iff.mp hit
    exact ⟨band, bandEq, (keptIff band (bandFits band bandEq)).mp ⟨spans, keptEq, cov⟩⟩
  · rintro ⟨band, bandEq, kept⟩
    obtain ⟨spans, keptEq, cov⟩ := (keptIff band (bandFits band bandEq)).mpr kept
    exact ⟨spans, by rw [bandEq]; exact keptEq, cov⟩

lemma not_rowsCover_of_leaks (leaks : lhs.Leaks rhs x y) :
    ¬ RowsCover (viewRows lhs) x y ∧ ¬ RowsCover (viewRows rhs) x y := by
  obtain ⟨blind, unreached, _⟩ := leaks
  constructor
  · rintro ⟨spans, hit, cov⟩
    rw [lookup_eq_none_of_at_mark (walkable_of_lookup lhsFits hit)
      ((blindAt_iff lhsFits hit).mp blind)] at cov
    cases cov
  · rintro ⟨spans, hit, _⟩
    rw [(lookup_eq_none_iff rhsFits).mpr unreached] at hit
    cases hit

lemma kept_before_iff (left : lookup (viewRows lhs) y = some spans)
    (right : lookup (viewRows rhs) y = none) (lhsIff : inLhs = true ↔ lookup spans x = some ()) :
    Kept op (lookup (bandRuns .lhsBeforeRhs spans ((nextAfter (viewRows rhs) y).getD [])) x) ↔
      op.apply inLhs false = true ∨ (op.keeps .lhsAfterRhs = true ∧ lhs.Leaks rhs x y) := by
  have walk := walkable_of_lookup lhsFits left
  have rhsFree := (lookup_eq_none_iff rhsFits).mp right
  rw [lookup_bandRuns_before walk (walkable_nextAfter rhsFits y), RegionView.Leaks,
    blindAt_iff lhsFits left]
  by_cases live : cursorStart maxValue spans < maxValue
  · rw [if_pos live, kept_overlapAt_left, ← lhsIff]
    cases inLhs <;> simp [live, apply_true_false, apply_false_false]
  · have lhsOut : inLhs = false := by
      simpa [lookup_eq_none_of_at_mark walk live] using lhsIff
    rw [if_neg live, kept_overlapAt_right, pendingAt_iff rhsFits, lhsOut,
      apply_false_false]
    simp [live, rhsFree, and_comm]

lemma kept_after_iff (left : lookup (viewRows lhs) y = none)
    (right : lookup (viewRows rhs) y = some spans)
    (rhsIff : inRhs = true ↔ lookup spans x = some ()) :
    Kept op (lookup (bandRuns .lhsAfterRhs ((nextAfter (viewRows lhs) y).getD []) spans) x) ↔
      op.apply false inRhs = true ∨ (op.keeps .lhsBeforeRhs = true ∧ rhs.Leaks lhs x y) := by
  have walk := walkable_of_lookup rhsFits right
  have lhsFree := (lookup_eq_none_iff lhsFits).mp left
  rw [lookup_bandRuns_after (walkable_nextAfter lhsFits y) walk, RegionView.Leaks,
    blindAt_iff rhsFits right]
  by_cases live : cursorStart maxValue spans < maxValue
  · rw [if_pos live, kept_overlapAt_right, ← rhsIff]
    cases inRhs <;> simp [live, apply_false_true, apply_false_false]
  · have rhsOut : inRhs = false := by
      simpa [lookup_eq_none_of_at_mark walk live] using rhsIff
    rw [if_neg live, kept_overlapAt_left, pendingAt_iff lhsFits, rhsOut, apply_false_false]
    simp [live, lhsFree, and_comm]

lemma rowsCover_result_iff (lhsIff : inLhs = true ↔ RowsCover (viewRows lhs) x y)
    (rhsIff : inRhs = true ↔ RowsCover (viewRows rhs) x y) :
    RowsCover (resultRows op lhs rhs) x y ↔
      op.apply inLhs inRhs = true ∨ op.Spurious lhs rhs x y := by
  rw [rowsCover_resultRows_iff lhsFits rhsFits, Operator.Spurious]
  cases left : lookup (viewRows lhs) y with
  | none =>
    have lhsOut : inLhs = false := by simpa [RowsCover, left] using lhsIff
    have noLeak : ¬ lhs.Leaks rhs x y := fun leak => (lookup_eq_none_iff lhsFits).mp left leak.1.1
    cases right : lookup (viewRows rhs) y with
    | none =>
      have rhsOut : inRhs = false := by simpa [RowsCover, right] using rhsIff
      have noOtherLeak : ¬ rhs.Leaks lhs x y := fun leak =>
        (lookup_eq_none_iff rhsFits).mp right leak.1.1
      simp [overlapAt_eq_none left right, lhsOut, rhsOut, noLeak, noOtherLeak,
        apply_false_false]
    | some spans =>
      have spansIff : inRhs = true ↔ lookup spans x = some () := by
        simpa [RowsCover, right] using rhsIff
      simpa [overlapAt_of_right left right, inside, lhsOut, noLeak] using
        kept_after_iff lhsFits rhsFits left right spansIff
  | some spans =>
    have spansIff : inLhs = true ↔ lookup spans x = some () := by
      simpa [RowsCover, left] using lhsIff
    have noLeak : ¬ rhs.Leaks lhs x y := fun leak => by
      rw [(lookup_eq_none_iff lhsFits).mpr leak.2.1] at left
      cases left
    cases right : lookup (viewRows rhs) y with
    | none =>
      have rhsOut : inRhs = false := by simpa [RowsCover, right] using rhsIff
      simpa [overlapAt_of_left left right, inside, rhsOut, noLeak] using
        kept_before_iff lhsFits rhsFits left right spansIff
    | some rest =>
      have othersIff : inRhs = true ↔ lookup rest x = some () := by
        simpa [RowsCover, right] using rhsIff
      have noOtherLeak : ¬ lhs.Leaks rhs x y := fun leak => by
        rw [(lookup_eq_none_iff rhsFits).mpr leak.2.1] at right
        cases right
      have lhsEq : inLhs = (lookup spans x).isSome := by
        rw [Bool.eq_iff_iff, spansIff]
        cases lookup spans x <;> simp
      have rhsEq : inRhs = (lookup rest x).isSome := by
        rw [Bool.eq_iff_iff, othersIff]
        cases lookup rest x <;> simp
      have both := lookup_bandRuns_both (walkable_of_lookup lhsFits left)
        (walkable_of_lookup rhsFits right) x
      simpa [overlapAt_of_both left right, noLeak, noOtherLeak, inside, both, lhsEq, rhsEq]
        using kept_overlapAt_both spans rest x

end Operands

end RegionPoints

end NativeLibs.Ui
