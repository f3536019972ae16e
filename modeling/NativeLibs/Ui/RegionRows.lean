import NativeLibs.Ui.RegionOperator
import NativeLibs.Foundation.RunSweep
import Mathlib.Data.List.TakeWhile

/-! # Rows of a region

The abstract view of a rectangle sequence: a run list over `y` whose values are
run lists over `x`. -/

namespace NativeLibs

open List

namespace Ui

abbrev Spans := List (Run Unit)

namespace RegionRows

variable {rects : List Rect}

/-! ## Banded sequences -/

def Follows (prev cur : Rect) : Prop :=
  (cur.top = prev.top ∧ cur.bottom = prev.bottom ∧ prev.right ≤ cur.left ∧ prev.left < cur.right) ∨
  (prev.top < cur.top ∧ prev.bottom ≤ cur.top)

/-- A sequence in the order of the storage, without negative sizes. -/
structure Banded (rects : List Rect) : Prop where
  sized : ∀ rect ∈ rects, rect.NonNegative
  ordered : rects.Pairwise Follows

lemma Banded.sublist (banded : Banded rects) (contained : less.Sublist rects) :
    Banded less where
  sized rect member := banded.sized rect (contained.subset member)
  ordered := banded.ordered.sublist contained

lemma Banded.follows_or_follows (banded : Banded rects) (member : rect ∈ rects)
    (also : other ∈ rects) (ne : rect ≠ other) : Follows rect other ∨ Follows other rect := by
  have ord := banded.ordered
  clear banded
  induction rects with
  | nil => cases member
  | cons first rest ih =>
    rcases mem_cons.mp member with eq | inT <;>
      rcases mem_cons.mp also with otherEqual | otherInRest
    · exact absurd (eq.trans otherEqual.symm) ne
    · subst eq
      exact .inl (rel_of_pairwise_cons ord otherInRest)
    · subst otherEqual
      exact .inr (rel_of_pairwise_cons ord inT)
    · exact ih inT otherInRest ord.of_cons

lemma Follows.trans (sized : second.NonNegative) (thirdSized : third.NonNegative)
    (old : Follows first second) (after : Follows second third) : Follows first third := by
  obtain ⟨wide, tall⟩ := sized
  obtain ⟨thirdWide, thirdTall⟩ := thirdSized
  rcases old with old | old <;> rcases after with after | after
  · left
    omega
  · right
    omega
  · right
    omega
  · right
    omega

lemma follows_of_pairIsValid {prev : Rect} (prevSized : prev.NonNegative) (curSized : cur.NonNegative)
    (valid : Region.pairIsValid prev cur = true) : Follows prev cur := by
  obtain ⟨wide, tall⟩ := prevSized
  obtain ⟨curWide, curTall⟩ := curSized
  simp only [Region.pairIsValid, Rect.lessThan, Bool.and_eq_true] at valid
  obtain ⟨sorted, placed⟩ := valid
  by_cases eqTop : cur.top = prev.top
  · left
    simp only [eqTop, lt_self_iff_false, if_false, if_true] at sorted placed
    split at placed
    · cases placed
    next sameBottom =>
      have sameBottom : cur.bottom = prev.bottom := not_not.mp sameBottom
      simp only [sameBottom, lt_self_iff_false, if_false, if_true] at sorted
      simp only [Bool.not_eq_true', decide_eq_false_iff_not, not_lt] at placed
      refine ⟨eqTop, sameBottom, placed, ?_⟩
      split at sorted
      · omega
      · split at sorted
        · simp only [decide_eq_true_eq] at sorted
          omega
        · cases sorted
  · right
    simp only [eqTop, if_false, Bool.not_eq_true', decide_eq_false_iff_not, not_lt] at placed
    split at sorted
    · exact ⟨by assumption, placed⟩
    · rw [if_neg fun eq => eqTop eq.symm] at sorted
      cases sorted

/-- `validate` compares neighbours only; the relation extends to all pairs. -/
lemma banded_of_sequenceValid (valid : Region.SequenceValid rects)
    (sized : ∀ rect ∈ rects, rect.NonNegative) : Banded rects := by
  refine ⟨sized, ?_⟩
  induction rects with
  | nil => exact .nil
  | cons prev rest ih =>
    have restSized : ∀ rect ∈ rest, rect.NonNegative := fun rect member =>
      sized rect (mem_cons_of_mem _ member)
    cases rest with
    | nil => exact pairwise_singleton _ _
    | cons cur rest =>
      have later := ih valid.2.2 restSized
      have curSized := restSized cur mem_cons_self
      have next := follows_of_pairIsValid (sized prev mem_cons_self) curSized valid.2.1
      refine .cons ?_ later
      exact forall_mem_cons.2 ⟨next, fun rect member => next.trans curSized (restSized rect
        (mem_cons_of_mem _ member)) (rel_of_pairwise_cons later member)⟩

/-! ## From rectangles to rows -/

def span (dx : Int) (rect : Rect) : Run Unit := ⟨rect.left + dx, rect.right + dx, ()⟩

def rowSpans (dx : Int) : List Rect → Spans
  | [] => []
  | rect :: rest => ((rect :: rest).takeWhile fun other => other.top == rect.top).map (span dx)

lemma length_skipRow_cons_lt (rect : Rect) (rest : List Rect) :
    (Spanner.skipRow (rect :: rest)).length < (rect :: rest).length := by
  simp only [Spanner.skipRow, dropWhile_cons_of_pos, beq_self_eq_true, length_cons]
  exact Nat.lt_succ_of_le (dropWhile_sublist _).length_le

def rows (dx dy : Int) (rects : List Rect) : List (Run Spans) :=
  match rects with
  | [] => []
  | rect :: rest =>
    ⟨rect.top + dy, rect.bottom + dy, rowSpans dx (rect :: rest)⟩ ::
      rows dx dy (Spanner.skipRow (rect :: rest))
termination_by rects.length
decreasing_by exact length_skipRow_cons_lt rect rest

lemma skipRow_sublist : ∀ rects : List Rect, (Spanner.skipRow rects).Sublist rects
  | [] => List.Sublist.refl _
  | _ :: _ => dropWhile_sublist _

lemma Banded.below_of_mem_skipRow (banded : Banded (rect :: rest))
    (member : other ∈ Spanner.skipRow (rect :: rest)) :
    rect.top < other.top ∧ rect.bottom ≤ other.top := by
  have inT : other ∈ rest := by
    rw [Spanner.skipRow, dropWhile_cons_of_pos (by simp)] at member
    exact (dropWhile_sublist _).subset member
  rcases rel_of_pairwise_cons banded.ordered inT with sameRow | below
  · exfalso
    -- The first rectangle left over differs in `top`, and everything behind it
    -- is at least as low.
    cases shape : Spanner.skipRow (rect :: rest) with
    | nil =>
      rw [shape] at member
      cases member
    | cons next others =>
      have kept := banded.sublist (skipRow_sublist (rect :: rest))
      rw [shape] at member kept
      have nextInRest : next ∈ rest := by
        have contained : next ∈ Spanner.skipRow (rect :: rest) := shape ▸ mem_cons_self
        rw [Spanner.skipRow, dropWhile_cons_of_pos (by simp)] at contained
        exact (dropWhile_sublist _).subset contained
      have nextDiffers : ¬ next.top = rect.top := by
        have stops := head?_dropWhile_not (fun other : Rect => other.top == rect.top)
          (rect :: rest)
        rw [Spanner.skipRow] at shape
        rw [shape] at stops
        simpa using stops
      have nextBelow : rect.top < next.top := by
        rcases rel_of_pairwise_cons banded.ordered nextInRest with same | below
        · exact absurd same.1 nextDiffers
        · exact below.1
      rcases mem_cons.mp member with eq | member
      · subst eq
        exact nextDiffers sameRow.1
      · rcases rel_of_pairwise_cons kept.ordered member with same | below
        · omega
        · omega
  · exact below

lemma rowSpans_eq_filter (dx : Int) (banded : Banded (rect :: rest)) :
    rowSpans dx (rect :: rest) =
      ((rect :: rest).filter fun other => other.top == rect.top).map (span dx) := by
  have split := takeWhile_append_dropWhile
    (p := fun other : Rect => other.top == rect.top) (l := rect :: rest)
  have front : ((rect :: rest).takeWhile fun other => other.top == rect.top).filter
      (fun other => other.top == rect.top) =
      (rect :: rest).takeWhile fun other => other.top == rect.top :=
    filter_eq_self.mpr fun other member =>
      mem_takeWhile_imp (p := fun other : Rect => other.top == rect.top) member
  have back : (Spanner.skipRow (rect :: rest)).filter
      (fun other => other.top == rect.top) = [] := by
    rw [filter_eq_nil_iff]
    intro other member
    have := (banded.below_of_mem_skipRow member).1
    simp only [beq_iff_eq]
    omega
  rw [Spanner.skipRow] at back
  rw [rowSpans]
  conv_rhs => rw [← split, filter_append, front, back, append_nil]

def rowOf (dx dy : Int) (rects : List Rect) (rect : Rect) : Run Spans :=
  ⟨rect.top + dy, rect.bottom + dy, (rects.filter fun other => other.top == rect.top).map (span dx)⟩

lemma mem_rows_iff (dx dy : Int) (banded : Banded rects) (row : Run Spans) :
    row ∈ rows dx dy rects ↔ ∃ rect ∈ rects, row = rowOf dx dy rects rect := by
  fun_induction rows dx dy rects with
  | case1 => simp
  | case2 rect rest ih =>
    have later := ih (banded.sublist (skipRow_sublist _))
    -- Behind the first row the rows of the whole sequence are those of the rest.
    have sameRow : ∀ other ∈ Spanner.skipRow (rect :: rest), rowOf dx dy (rect :: rest) other =
          rowOf dx dy (Spanner.skipRow (rect :: rest)) other := by
      intro other member
      have below := (banded.below_of_mem_skipRow member).1
      have split := takeWhile_append_dropWhile
        (p := fun other : Rect => other.top == rect.top) (l := rect :: rest)
      have front : ((rect :: rest).takeWhile fun other => other.top == rect.top).filter
          (fun candidate => candidate.top == other.top) = [] := by
        rw [filter_eq_nil_iff]
        intro candidate inFront
        have := mem_takeWhile_imp inFront
        simp only [beq_iff_eq] at this ⊢
        omega
      simp only [rowOf, Spanner.skipRow]
      conv_lhs => rw [← split, filter_append, front, nil_append]
    constructor
    · intro member
      rcases mem_cons.mp member with eq | member
      · exact ⟨rect, mem_cons_self, by rw [eq, rowOf, rowSpans_eq_filter dx banded]⟩
      · obtain ⟨other, inSkip, eq⟩ := later.mp member
        exact ⟨other, (skipRow_sublist _).subset inSkip, eq.trans (sameRow other inSkip).symm⟩
    · rintro ⟨other, member, eq⟩
      by_cases inSkip : other ∈ Spanner.skipRow (rect :: rest)
      · exact mem_cons_of_mem _ (later.mpr ⟨other, inSkip, eq.trans (sameRow other inSkip)⟩)
      · have inFront : other ∈ (rect :: rest).takeWhile fun other => other.top == rect.top := by
          rw [← takeWhile_append_dropWhile
            (p := fun other : Rect => other.top == rect.top) (l := rect :: rest)] at member
          exact (mem_append.mp member).resolve_right inSkip
        have eqTop : other.top = rect.top := by simpa using mem_takeWhile_imp inFront
        have sameBottom : other.bottom = rect.bottom := by
          rcases mem_cons.mp member with eq | inT
          · rw [eq]
          · rcases rel_of_pairwise_cons banded.ordered inT with same | below
            · exact same.2.1
            · omega
        rw [eq, rowOf, eqTop, sameBottom, ← rowSpans_eq_filter dx banded]
        exact mem_cons_self

/-! ## The rows can be walked -/

def ShiftFits (dx dy : Int) (rects : List Rect) : Prop :=
  ∀ rect ∈ rects, (rect.offsetBy dx dy).Fits

section

variable (fits : ShiftFits dx dy rects) (member : rect ∈ rects)
include fits member

lemma ShiftFits.right_le : rect.right + dx ≤ maxValue :=
  (fits rect member).2.2.1.2

lemma ShiftFits.le_left : int32Min ≤ rect.left + dx :=
  (fits rect member).1.1

lemma ShiftFits.le_top : int32Min ≤ rect.top + dy :=
  (fits rect member).2.1.1

lemma ShiftFits.bottom_le : rect.bottom + dy ≤ maxValue :=
  (fits rect member).2.2.2.2

end

lemma walkable_map_span (sized : ∀ rect ∈ rects, rect.NonNegative)
    (beside : rects.Pairwise fun prev cur => prev.right ≤ cur.left ∧ prev.left < cur.right)
    (starts : ∀ rect ∈ rects, int32Min ≤ rect.left + dx)
    (ends : ∀ rect ∈ rects, rect.right + dx ≤ maxValue) :
    Run.Walkable int32Min maxValue (rects.map (span dx)) := by
  induction rects with
  | nil => exact .nil
  | cons rect rest ih =>
    simp only [forall_mem_cons] at sized starts ends
    obtain ⟨ord, win⟩ := ih sized.2 beside.of_cons starts.2 ends.2
    cases rest with
    | nil => exact ⟨⟨starts.1, Int.add_le_add_right sized.1.1 dx, trivial⟩, ends.1⟩
    | cons next rest =>
      obtain ⟨apart, old⟩ := rel_of_pairwise_cons beside mem_cons_self
      have nextEnds := ends.2 next mem_cons_self
      have order : (span dx rect).stop ≤ (span dx next).start := by
        simp only [span]
        omega
      refine ⟨⟨starts.1, Int.add_le_add_right sized.1.1 dx, order, ord.2⟩, ?_, ends.1, win⟩
      simp only [span]
      omega

variable (banded : Banded rects) (fits : ShiftFits dx dy rects)
include banded fits

lemma Banded.walkable_rowOf (rect : Rect) :
    Run.Walkable int32Min maxValue (rowOf dx dy rects rect).value := by
  have kept : (rects.filter fun other => other.top == rect.top).Sublist rects := filter_sublist
  apply walkable_map_span (banded.sublist kept).sized
  · refine (banded.sublist kept).ordered.imp_of_mem ?_
    intro prev cur prevMember curMember foll
    simp only [mem_filter, beq_iff_eq] at prevMember curMember
    rcases foll with beside | below
    · exact beside.2.2
    · omega
  · exact fun other member => fits.le_left (kept.subset member)
  · exact fun other member => fits.right_le (kept.subset member)

lemma Banded.walkable_rowSpans : Run.Walkable int32Min maxValue (rowSpans dx rects) := by
  cases rects with
  | nil => exact .nil
  | cons rect rest =>
    rw [rowSpans_eq_filter dx banded]
    exact banded.walkable_rowOf fits rect

lemma Banded.walkable_rows : Run.Walkable int32Min maxValue (rows dx dy rects) := by
  fun_induction rows dx dy rects with
  | case1 => exact .nil
  | case2 rect rest ih =>
    have keptFits : ShiftFits dx dy (Spanner.skipRow (rect :: rest)) := fun other member =>
      fits other ((skipRow_sublist _).subset member)
    obtain ⟨ord, win⟩ := ih (banded.sublist (skipRow_sublist _)) keptFits
    have sized : rect.top + dy ≤ rect.bottom + dy :=
      Int.add_le_add_right (banded.sized rect mem_cons_self).2 dy
    have member : rect ∈ rect :: rest := mem_cons_self
    have starts := fits.le_top member
    have ends := fits.bottom_le member
    cases shape : Spanner.skipRow (rect :: rest) with
    | nil =>
      rw [rows]
      exact ⟨⟨starts, sized, trivial⟩, ends⟩
    | cons next others =>
      have inSkip : next ∈ Spanner.skipRow (rect :: rest) := shape ▸ mem_cons_self
      obtain ⟨above, below⟩ := banded.below_of_mem_skipRow inSkip
      have nextSized := banded.sized next ((skipRow_sublist _).subset inSkip)
      have nextEnds := keptFits.bottom_le inSkip
      rw [shape, rows] at ord win
      rw [rows]
      refine ⟨⟨starts, sized, ?_, ord.2⟩, ?_, ends, win⟩
      · exact Int.add_le_add_right below dy
      · have := nextSized.2
        simp only
        omega

end RegionRows

end Ui

end NativeLibs
