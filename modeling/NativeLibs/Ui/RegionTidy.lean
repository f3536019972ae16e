import NativeLibs.Ui.RegionCanonical
import Mathlib.Order.Bounds.Basic

/-! # What `validate` asks of a result

Sorted, disjoint and banded rectangles with their hull as bounds: all of this
holds of every written region. The one check that may fail is the size of a
rectangle, which the code computes with wrap-around. -/

namespace NativeLibs.Ui

open Run RegionRaster RegionCanonical List Region

/-! ## The hull -/

def coords {Coordinate : Type} (coordinate : Rect → Coordinate) (rects : List Rect) :
    Set Coordinate :=
  { value | ∃ rect ∈ rects, coordinate rect = value }

structure IsHull (rects : List Rect) (bounds : Rect) : Prop where
  left : IsLeast (coords Rect.left rects) bounds.left
  top : IsLeast (coords Rect.top rects) bounds.top
  right : IsGreatest (coords Rect.right rects) bounds.right
  bottom : IsGreatest (coords Rect.bottom rects) bounds.bottom

lemma IsHull.unique {rects : List Rect} (isHull : IsHull rects box)
    (otherIsHull : IsHull rects other) : box = other := by
  obtain ⟨left, top, right, bot⟩ := box
  obtain ⟨left', top', right', bottom'⟩ := other
  rw [Rect.mk.injEq]
  exact ⟨isHull.left.unique otherIsHull.left, isHull.top.unique otherIsHull.top,
    isHull.right.unique otherIsHull.right, isHull.bottom.unique otherIsHull.bottom⟩

private lemma isLeast_coords_cons [LinearOrder Coordinate] {v : Coordinate}
    (merge : coordinate both = if coordinate first < coordinate second then coordinate first
      else coordinate second)
    (least : IsLeast (coords coordinate (both :: rest)) v) :
    IsLeast (coords coordinate (first :: second :: rest)) v := by
  obtain ⟨⟨rect, mem, attained⟩, bound⟩ := least
  have below : v ≤ coordinate first ∧ v ≤ coordinate second := by
    have belowBoth : v ≤ coordinate both := bound ⟨both, mem_cons_self, rfl⟩
    rw [merge] at belowBoth
    split at belowBoth
    next smaller => exact ⟨belowBoth, belowBoth.trans smaller.le⟩
    next larger => exact ⟨belowBoth.trans (not_lt.mp larger), belowBoth⟩
  constructor
  · rcases mem_cons.mp mem with eq | mem
    · rw [eq, merge] at attained
      split at attained
      · exact ⟨first, by simp, attained⟩
      · exact ⟨second, by simp, attained⟩
    · exact ⟨rect, by simp [mem], attained⟩
  · rintro other ⟨rect, mem, rfl⟩
    simp only [mem_cons] at mem
    rcases mem with eq | eq | mem
    · exact eq ▸ below.1
    · exact eq ▸ below.2
    · exact bound ⟨rect, mem_cons_of_mem _ mem, rfl⟩

lemma coords_singleton (coordinate : Rect → Coordinate) (rect : Rect) :
    coords coordinate [rect] = {coordinate rect} := by
  ext v
  simp [coords, eq_comm]

lemma isHull_foldl (first : Rect) (rest : List Rect) :
    IsHull (first :: rest) (rest.foldl hull first) := by
  induction rest generalizing first with
  | nil =>
    constructor <;> rw [coords_singleton]
    · exact isLeast_singleton
    · exact isLeast_singleton
    · exact isGreatest_singleton
    · exact isGreatest_singleton
  | cons second rest ih =>
    obtain ⟨left, top, right, bot⟩ := ih (hull first second)
    -- A greatest value is a least one in the reverse order.
    exact ⟨isLeast_coords_cons rfl left, isLeast_coords_cons rfl top,
      @isLeast_coords_cons Intᵒᵈ _ _ _ _ _ _ _ rfl right,
      @isLeast_coords_cons Intᵒᵈ _ _ _ _ _ _ _ rfl bot⟩

namespace RegionCanonical

/-! ## The order of the rectangles -/

def Apart (prev cur : Rect) : Prop :=
  (cur.top = prev.top ∧ cur.bottom = prev.bottom ∧ prev.right < cur.left) ∨
  (prev.top < cur.top ∧ prev.bottom ≤ cur.top)

lemma apart_spans {spans : Spans} (canonical : Canonical spans) :
    (spans.map fun span => (⟨span.start, top, span.stop, bot⟩ : Rect)).Pairwise Apart := by
  induction spans with
  | nil => exact .nil
  | cons first rest ih =>
    refine .cons ?_ (ih canonical.tail)
    intro rect mem
    obtain ⟨span, inRest, rfl⟩ := mem_map.mp mem
    refine .inl ⟨rfl, rfl, ?_⟩
    cases rest with
    | nil => cases inRest
    | cons next rest =>
      obtain ⟨_, old, ne, later⟩ := canonical
      have touching : first.stop ≠ next.start := fun touch => ne touch rfl
      have := later.ordered.start_le inRest
      simp only
      omega

variable (tidy : TidyRows rows)
include tidy

lemma TidyRows.apart : (rects rows).Pairwise Apart := by
  rw [rects, pairwise_flatMap]
  refine ⟨fun row mem => apart_spans (tidy.spans_canonical row mem), ?_⟩
  refine tidy.ordered.pairwise.imp_of_mem ?_
  intro upper lower inRows _ below prev prevMember cur curMember
  obtain ⟨prevSpan, _, rfl⟩ := mem_map.mp prevMember
  obtain ⟨curSpan, _, rfl⟩ := mem_map.mp curMember
  exact .inr ⟨lt_of_lt_of_le (tidy.canonical.nonempty_of_mem inRows) below, below⟩

lemma TidyRows.of_mem_rects (mem : rect ∈ rects rows) :
    rect.left < rect.right ∧ rect.top < rect.bottom ∧ rect.Fits := by
  obtain ⟨row, inRows, span, inRow, rfl⟩ := mem_rects.mp mem
  have fits := tidy.spans_fit row inRows
  have wide := (tidy.spans_canonical row inRows).nonempty_of_mem inRow
  have tall := tidy.canonical.nonempty_of_mem inRows
  have fromLeft := fits.ordered.start_le inRow
  have toRight := fits.ends span inRow
  have fromTop := tidy.ordered.start_le inRows
  have toBottom := tidy.ends row inRows
  refine ⟨wide, tall, ?_⟩
  simp only [Rect.Fits, FitsInt32]
  omega

lemma TidyRows.top_le_head (isFront : (rects rows).head? = some front)
    (mem : rect ∈ rects rows) : front.top ≤ rect.top := by
  have apart := tidy.apart
  cases shape : rects rows with
  | nil =>
    rw [shape] at mem
    cases mem
  | cons first rest =>
    rw [shape] at isFront mem apart
    obtain rfl : first = front := by simpa using isFront
    rcases mem_cons.mp mem with eq | inRest
    · rw [eq]
    · rcases rel_of_pairwise_cons apart inRest with beside | below <;> omega

lemma TidyRows.bottom_le_getLast (isBack : (rects rows).getLast? = some back)
    (mem : rect ∈ rects rows) : rect.bottom ≤ back.bottom := by
  obtain ⟨front, shape⟩ := getLast?_eq_some_iff.mp isBack
  have tall := (tidy.of_mem_rects (mem_of_getLast? isBack)).2.1
  have apart := tidy.apart
  rw [shape] at mem apart
  rcases mem_append.mp mem with inFront | isLast
  · have := (pairwise_append.mp apart).2.2 rect inFront back mem_cons_self
    rcases this with beside | below <;> omega
  · rw [mem_singleton.mp isLast]

lemma TidyRows.isHull (isFront : (rects rows).head? = some front)
    (isBack : (rects rows).getLast? = some back) (topEq : box.top = front.top)
    (bottomEq : box.bottom = back.bottom) (encl : Encloses box (rows.map Run.value)) :
    IsHull (rects rows) box := by
  have frontMem := mem_of_head? isFront
  have backMem := mem_of_getLast? isBack
  have ne : rows.map Run.value ≠ [] := by
    intro none
    rw [map_eq_nil_iff.mp none] at isFront
    cases isFront
  constructor
  · constructor
    · obtain ⟨spans, inValues, span, inRow, eq⟩ := encl.left_mem ne
      obtain ⟨row, inRows, rfl⟩ := mem_map.mp inValues
      exact ⟨_, mem_rects.mpr ⟨row, inRows, span, inRow, rfl⟩, eq⟩
    · rintro _ ⟨rect, mem, rfl⟩
      obtain ⟨row, inRows, span, inRow, rfl⟩ := mem_rects.mp mem
      exact encl.left_le row.value (mem_map_of_mem inRows) span inRow
  · constructor
    · exact ⟨front, frontMem, topEq.symm⟩
    · rintro _ ⟨rect, mem, rfl⟩
      exact topEq.trans_le (tidy.top_le_head isFront mem)
  · constructor
    · obtain ⟨spans, inValues, span, inRow, eq⟩ := encl.right_mem ne
      obtain ⟨row, inRows, rfl⟩ := mem_map.mp inValues
      exact ⟨_, mem_rects.mpr ⟨row, inRows, span, inRow, rfl⟩, eq⟩
    · rintro _ ⟨rect, mem, rfl⟩
      obtain ⟨row, inRows, span, inRow, rfl⟩ := mem_rects.mp mem
      exact encl.le_right row.value (mem_map_of_mem inRows) span inRow
  · constructor
    · exact ⟨back, backMem, bottomEq.symm⟩
    · rintro _ ⟨rect, mem, rfl⟩
      exact (tidy.bottom_le_getLast isBack mem).trans_eq bottomEq.symm

end RegionCanonical

/-! ## Tidy regions -/

/-- The form of a region: rectangles strictly sorted, disjoint, in bands whose
members do not touch, with the hull as bounds, and a storage that does not have
two entries. -/
structure Region.Tidy (region : Region) : Prop where
  sorted : region.getArray.Pairwise fun prev cur => prev.lessThan cur = true
  disjoint : region.getArray.Pairwise fun prev cur => ∀ x y, ¬ (prev.Covers x y ∧ cur.Covers x y)
  banded : region.getArray.Pairwise fun prev cur =>
    if cur.top = prev.top then cur.bottom = prev.bottom ∧ prev.right < cur.left
    else prev.bottom ≤ cur.top
  hull : IsHull region.getArray region.getBounds
  size : region.mStorage.length ≠ 2

lemma isHull_singleton (rect : Rect) : IsHull [rect] rect := isHull_foldl rect []

lemma tidy_of_written (tidy : TidyRows rows) (wrote : Written rows reg) : reg.Tidy := by
  by_cases none : rows = []
  · rcases wrote with ⟨_, rfl⟩ | ⟨box, front, back, isFront, _⟩
    · exact ⟨pairwise_singleton _ _, pairwise_singleton _ _,
        pairwise_singleton _ _, isHull_singleton _, by decide⟩
    · rw [none] at isFront
      cases isFront
  · have arrayEq := getArray_of_written wrote none
    have apart := tidy.apart
    constructor
    · rw [arrayEq]
      refine apart.imp_of_mem fun {prev cur} prevMember _ follows => ?_
      have := (tidy.of_mem_rects prevMember).1
      unfold Rect.lessThan
      rcases follows with beside | below
      · have : prev.left < cur.left := by omega
        simp [beside.1, this]
      · simp [below.1]
    · rw [arrayEq]
      refine apart.imp fun {prev cur} follows x y => ?_
      rintro ⟨⟨_, prevBottom, _, prevRight⟩, curTop, _, curLeft, _⟩
      rcases follows with beside | below <;> omega
    · rw [arrayEq]
      refine apart.imp fun {prev cur} follows => ?_
      rcases follows with beside | below
      · rw [if_pos beside.1]
        exact ⟨beside.2.1, beside.2.2⟩
      · rw [if_neg below.1.ne']
        exact below.2
    · rcases wrote with ⟨empty, _⟩ | ⟨box, front, back, isFront, isBack, topEq, bottomEq,
        encl, rfl⟩
      · exact absurd empty none
      · rw [arrayEq]
        have boundsEq : getBounds ⟨(if (rects rows).length = 1 then [] else rects rows) ++
            [box]⟩ = box := by
          simp [getBounds]
        rw [boundsEq]
        exact tidy.isHull isFront isBack topEq bottomEq encl
    · rcases wrote with ⟨empty, _⟩ | ⟨box, front, back, isFront, isBack, _, _, _, rfl⟩
      · exact absurd empty none
      · have : (rects rows).length ≠ 0 := by
          intro empty
          rw [length_eq_zero_iff.mp empty] at isFront
          cases isFront
        simp only [length_append, length_singleton]
        split
        · simp
        · omega

/-! ## Sizes -/

lemma sequenceValid_iff {rects : List Rect}
    (pairs : rects.Pairwise fun prev cur => pairIsValid prev cur = true) :
    Region.SequenceValid rects ↔ ∀ rect ∈ rects, rectIsValid rect = true := by
  induction rects with
  | nil => simp [Region.SequenceValid]
  | cons prev rest ih =>
    cases rest with
    | nil => simp [Region.SequenceValid]
    | cons cur rest =>
      have pair := rel_of_pairwise_cons pairs mem_cons_self
      rw [Region.SequenceValid, ih pairs.of_cons]
      simp [pair]

lemma validate_of_written_iff (tidy : TidyRows rows) (wrote : Written rows reg) :
    reg.validate = true ↔ ∀ rect ∈ rects rows,
      rect.right - rect.left ≤ int32Max ∧ rect.bottom - rect.top ≤ int32Max := by
  have form := tidy_of_written tidy wrote
  by_cases none : rows = []
  · rcases wrote with ⟨_, rfl⟩ | ⟨box, front, back, isFront, _⟩
    · subst none
      simp only [rects_nil, not_mem_nil, false_implies, implies_true, iff_true]
      decide
    · rw [none] at isFront
      cases isFront
  · have arrayEq := getArray_of_written wrote none
    have pairs : (rects rows).Pairwise fun prev cur => pairIsValid prev cur = true := by
      rw [← arrayEq]
      refine (form.sorted.and form.banded).imp fun {prev cur} both => ?_
      obtain ⟨sorted, banded⟩ := both
      rw [pairIsValid, sorted, Bool.true_and]
      split at banded
      next sameTop =>
        have : prev.right ≤ cur.left := banded.2.le
        simp [sameTop, banded.1, this]
      next differentTop => simp [differentTop, banded]
    have rectIff : ∀ rect ∈ rects rows, (rectIsValid rect = true ↔
        rect.right - rect.left ≤ int32Max ∧ rect.bottom - rect.top ≤ int32Max) := by
      intro rect mem
      obtain ⟨wide, tall, fits⟩ := tidy.of_mem_rects mem
      have notInvalid : rect ≠ Rect.invalidRect := by
        rintro rfl
        exact absurd wide (by decide)
      have right : ¬ rect.right > maxValue := not_lt.mpr fits.2.2.1.2
      have bot : ¬ rect.bottom > maxValue := not_lt.mpr fits.2.2.2.2
      simp [rectIsValid, notInvalid, right, bot, Rect.isValid_iff fits ⟨wide.le, tall.le⟩]
    obtain ⟨first, rest, shape⟩ := exists_cons_of_ne_nil
      (rects_ne_nil (fun row mem => (tidy.spans_fit row mem).nonempty) none)
    rw [validate_iff, arrayEq, shape]
    rw [shape] at pairs rectIff
    have hullEq : rest.foldl hull first = reg.getBounds := by
      refine (isHull_foldl first rest).unique ?_
      rw [← shape, ← arrayEq]
      exact form.hull
    have size := form.size
    rw [← forall₂_congr rectIff, ← sequenceValid_iff pairs]
    constructor
    · rintro ⟨_, _, eq, valid, _⟩
      rwa [eq]
    · exact fun valid => ⟨first, rest, rfl, valid, hullEq, size⟩

lemma RegionCanonical.TidyRows.sizes_fit_iff (tidy : TidyRows rows) : (∀ rect ∈ rects rows,
      rect.right - rect.left ≤ int32Max ∧ rect.bottom - rect.top ≤ int32Max) ↔
    ¬ (∃ x y, ∀ off, 0 ≤ off → off ≤ int32Max → RowsCover rows (x + off) y) ∧
    ¬ (∃ y, (∃ x, RowsCover rows x y) ∧ ∀ off, 0 ≤ off → off ≤ int32Max →
      ∀ x, RowsCover rows x (y + off) ↔ RowsCover rows x y) := by
  have nonneg : 0 ≤ int32Max := by decide
  have wideIff : (∃ row ∈ rows, ∃ span ∈ row.value, int32Max < span.stop - span.start) ↔
      ∃ x y, ∀ off, 0 ≤ off → off ≤ int32Max → RowsCover rows (x + off) y := by
    constructor
    · rintro ⟨row, inRows, long⟩
      obtain ⟨_, x, cov⟩ :=
        ((tidy.spans_canonical row inRows).exists_long_run_iff nonneg).mp long
      have hit := tidy.canonical.lookup_eq_of_mem inRows
        ⟨le_refl _, tidy.canonical.nonempty_of_mem inRows⟩
      exact ⟨x, row.start, fun off above below => ⟨row.value, hit, cov off above below⟩⟩
    · rintro ⟨x, y, cov⟩
      obtain ⟨spans, hit, _⟩ := cov 0 (le_refl _) nonneg
      obtain ⟨row, inRows, _, rfl⟩ := exists_mem_of_lookup_eq hit
      refine ⟨row, inRows, ((tidy.spans_canonical row inRows).exists_long_run_iff nonneg).mpr
          ⟨(), x, fun off above below => ?_⟩⟩
      obtain ⟨spans, sameFound, inSpan⟩ := cov off above below
      rw [hit] at sameFound
      rwa [Option.some.inj sameFound]
  have tallIff : (∃ row ∈ rows, int32Max < row.stop - row.start) ↔
      ∃ y, (∃ x, RowsCover rows x y) ∧ ∀ off, 0 ≤ off → off ≤ int32Max →
        ∀ x, RowsCover rows x (y + off) ↔ RowsCover rows x y := by
    rw [tidy.canonical.exists_long_run_iff nonneg]
    constructor
    · rintro ⟨spans, y, constant⟩
      have hit := constant 0 (le_refl _) nonneg
      rw [Int.add_zero] at hit
      obtain ⟨row, inRows, _, rfl⟩ := exists_mem_of_lookup_eq hit
      obtain ⟨span, inRow⟩ := exists_mem_of_ne_nil _ (tidy.spans_fit row inRows).nonempty
      have canonical := tidy.spans_canonical row inRows
      refine ⟨y, ⟨span.start, row.value, hit, canonical.lookup_eq_of_mem inRow
        ⟨le_refl _, canonical.nonempty_of_mem inRow⟩⟩, fun off above below x => ?_⟩
      simp [RowsCover, hit, constant off above below]
    · rintro ⟨y, ⟨x, spans, hit, _⟩, same⟩
      exact ⟨spans, y, fun off above below =>
        tidy.lookup_eq_of_covers tidy (fun x => (same off above below x).symm) hit⟩
  rw [← wideIff, ← tallIff]
  constructor
  · intro sizes
    constructor
    · rintro ⟨row, inRows, span, inRow, long⟩
      have := (sizes _ (mem_rects.mpr ⟨row, inRows, span, inRow, rfl⟩)).1
      simp only at this
      omega
    · rintro ⟨row, inRows, long⟩
      obtain ⟨span, inRow⟩ := exists_mem_of_ne_nil _ (tidy.spans_fit row inRows).nonempty
      have := (sizes _ (mem_rects.mpr ⟨row, inRows, span, inRow, rfl⟩)).2
      simp only at this
      omega
  · rintro ⟨notWide, notTall⟩ rect mem
    obtain ⟨row, inRows, span, inRow, rfl⟩ := mem_rects.mp mem
    constructor
    · by_contra long
      exact notWide ⟨row, inRows, span, inRow, not_le.mp long⟩
    · by_contra long
      exact notTall ⟨row, inRows, not_le.mp long⟩

end NativeLibs.Ui
