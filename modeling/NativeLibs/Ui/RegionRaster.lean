import NativeLibs.Ui.RegionRows

/-! # What the rasterizer writes

The storage of a rasterizer is a row list written out as rectangles, and the
span is one more row, which is under construction. Taking a piece extends that
row, and `flushSpan` appends it to the row list, in both cases by
`Run.push`. -/

namespace NativeLibs.Ui

open Run List Rasterizer

namespace RegionRaster

variable {ras : Rasterizer} {done : List (Run Spans)}

def rowRects (row : Run Spans) : List Rect :=
  row.value.map fun span => ⟨span.start, row.start, span.stop, row.stop⟩

def rects (rows : List (Run Spans)) : List Rect := rows.flatMap rowRects

@[simp] lemma rects_nil : rects [] = [] := rfl

@[simp] lemma rects_append (front back : List (Run Spans)) :
    rects (front ++ back) = rects front ++ rects back := by
  simp [rects]

@[simp] lemma rects_singleton (row : Run Spans) : rects [row] = rowRects row := by simp [rects]

@[simp] lemma length_rowRects (row : Run Spans) : (rowRects row).length = row.value.length := by
  simp [rowRects]

/-- The horizontal bounds of the rows with these spans. -/
structure Encloses (bounds : Rect) (values : List Spans) : Prop where
  left_le : ∀ spans ∈ values, ∀ span ∈ spans, bounds.left ≤ span.start
  le_right : ∀ spans ∈ values, ∀ span ∈ spans, span.stop ≤ bounds.right
  left_mem : values ≠ [] → ∃ spans ∈ values, ∃ span ∈ spans, span.start = bounds.left
  right_mem : values ≠ [] → ∃ spans ∈ values, ∃ span ∈ spans, span.stop = bounds.right
  initial : values = [] → bounds.left = int32Max ∧ bounds.right = int32Min

/-- The spans of a row, between the smallest and the largest coordinate. -/
structure RowFits (spans : Spans) : Prop where
  nonempty : spans ≠ []
  ordered : OrderedFrom int32Min spans
  ends : ∀ span ∈ spans, span.stop ≤ int32Max

lemma RowFits.extremes (fits : RowFits spans) {front : Run Unit}
    (isFront : spans.head? = some front) (isBack : spans.getLast? = some back) :
    (∀ span ∈ spans, front.start ≤ span.start) ∧ ∀ span ∈ spans, span.stop ≤ back.stop := by
  obtain ⟨_, ord, _⟩ := fits
  constructor
  · cases spans with
    | nil => simp
    | cons first rest =>
      obtain rfl : first = front := by simpa using isFront
      have fromFirst : OrderedFrom first.start (first :: rest) := ⟨le_refl _, ord.2⟩
      exact fun span mem => fromFirst.start_le mem
  · exact fun span mem => ord.stop_le_getLast isBack mem

/-- The rasterizer holds the rows `done`, and `current` is under
construction. -/
structure Holds (raster : Rasterizer) (done : List (Run Spans)) (current : Option (Run Spans)) :
    Prop where
  storage_eq : raster.storage = rects done
  span_eq : raster.span = current.elim [] rowRects
  head_eq : raster.head = (rects done.dropLast).length
  tail_eq : raster.tail = (rects done).length
  nonempty : ∀ row ∈ done, row.value ≠ []
  top_eq : raster.bounds.top = 0
  bottom_eq : raster.bounds.bottom = 0
  encloses : Encloses raster.bounds (done.map Run.value)

lemma holds_initial : Holds initial [] none where
  storage_eq := rfl
  span_eq := rfl
  head_eq := rfl
  tail_eq := rfl
  nonempty := by simp
  top_eq := rfl
  bottom_eq := rfl
  encloses := ⟨by simp, by simp, by simp, by simp, fun _ => ⟨rfl, rfl⟩⟩

/-! ## Flushing a row -/

private lemma all_zip_rowRects_iff : ∀ (left right : Spans) (top bot top' bottom' : Int),
    left.length = right.length →
    ((((left.map fun span => (⟨span.start, top, span.stop, bot⟩ : Rect)).zip
      (right.map fun span => (⟨span.start, top', span.stop, bottom'⟩ : Rect))).all fun pair =>
        !(decide (pair.1.left ≠ pair.2.left) || decide (pair.1.right ≠ pair.2.right))) = true ↔
      right = left)
  | [], [], _, _, _, _, _ => by simp
  | first :: left, other :: right, top, bot, top', bottom', sameLength => by
      have rest := all_zip_rowRects_iff left right top bot top' bottom' (by simpa using sameLength)
      simp only [map_cons, zip_cons_cons, all_cons, Bool.and_eq_true, rest, cons.injEq]
      obtain ⟨low, stop, _⟩ := first
      obtain ⟨otherStart, otherStop, _⟩ := other
      simp only [ne_eq, decide_not, Bool.not_or, Bool.not_not, Bool.and_eq_true,
        decide_eq_true_eq, Run.mk.injEq, and_true]
      rw [eq_comm (a := low), eq_comm (a := stop)]

lemma Holds.lastRow_eq (holds : Holds ras (front ++ [last]) cur) :
    ras.lastRow = rowRects last := by
  rw [lastRow, holds.storage_eq, holds.head_eq, holds.tail_eq, take_length]
  simp

lemma Holds.merges_iff (holds : Holds ras (front ++ [last]) (some band))
    (notNil : band.value ≠ []) :
    ras.merges = true ↔ last.stop = band.start ∧ last.value = band.value := by
  have heights : ras.tail - ras.head = last.value.length := by
    simp [holds.head_eq, holds.tail_eq]
  unfold merges
  rw [heights, holds.lastRow_eq, holds.span_eq, Option.elim_some, length_rowRects]
  split
  next sameLength =>
    have zipped := all_zip_rowRects_iff band.value last.value band.start band.stop last.start
      last.stop sameLength.symm
    obtain ⟨p, ps, bandEq⟩ := exists_cons_of_ne_nil notNil
    have lastNonempty : last.value ≠ [] := holds.nonempty last (by simp)
    obtain ⟨q, qs, lastEq⟩ := exists_cons_of_ne_nil lastNonempty
    have bandShape : rowRects band = ⟨p.start, band.start, p.stop, band.stop⟩ ::
        ps.map fun span => ⟨span.start, band.start, span.stop, band.stop⟩ := by
      simp [rowRects, bandEq]
    have lastShape : rowRects last = ⟨q.start, last.start, q.stop, last.stop⟩ ::
        qs.map fun span => ⟨span.start, last.start, span.stop, last.stop⟩ := by
      simp [rowRects, lastEq]
    rw [bandShape, lastShape]
    simp only
    rw [← bandShape, ← lastShape]
    split
    next touch =>
      rw [rowRects, rowRects, zipped]
      exact ⟨fun same => ⟨touch.symm, same⟩, fun both => both.2⟩
    next apart => simp [show ¬ last.stop = band.start from fun touch => apart touch.symm]
  next ne =>
    simp only [Bool.false_eq_true, false_iff, not_and]
    exact fun _ same => ne (congrArg length same)

lemma Encloses.append {box : Rect} {front : Run Unit} (encl : Encloses box values)
    (fits : RowFits spans) (isFront : spans.head? = some front)
    (isBack : spans.getLast? = some back) :
    Encloses { box with
      left := Rasterizer.min front.start box.left
      right := Rasterizer.max back.stop box.right } (values ++ [spans]) := by
  have frontMem : front ∈ spans := mem_of_head? isFront
  have backMem : back ∈ spans := mem_of_getLast? isBack
  obtain ⟨frontLe, leBack⟩ := fits.extremes isFront isBack
  have frontFits : front.start ≤ int32Max :=
    (fits.ordered.start_le_stop frontMem).trans (fits.ends front frontMem)
  have backFits : int32Min ≤ back.stop :=
    (fits.ordered.start_le backMem).trans (fits.ordered.start_le_stop backMem)
  have minLe : Rasterizer.min front.start box.left ≤ front.start ∧
      Rasterizer.min front.start box.left ≤ box.left := by
    unfold Rasterizer.min
    split <;> omega
  have leMax : back.stop ≤ Rasterizer.max back.stop box.right ∧
      box.right ≤ Rasterizer.max back.stop box.right := by
    unfold Rasterizer.max
    split <;> omega
  constructor
  · intro other mem span inO
    rcases mem_append.mp mem with old | new
    · exact minLe.2.trans (encl.left_le other old span inO)
    · rw [mem_singleton.mp new] at inO
      exact minLe.1.trans (frontLe span inO)
  · intro other mem span inO
    rcases mem_append.mp mem with old | new
    · exact (encl.le_right other old span inO).trans leMax.2
    · rw [mem_singleton.mp new] at inO
      exact (leBack span inO).trans leMax.1
  · intro _
    by_cases smaller : front.start < box.left
    · exact ⟨spans, by simp, front, frontMem, by simp [Rasterizer.min, smaller]⟩
    · simp only [Rasterizer.min, smaller, if_false]
      by_cases first : values = []
      · exact ⟨spans, by simp, front, frontMem, by have := encl.initial first; omega⟩
      · obtain ⟨other, old, span, inO, eq⟩ := encl.left_mem first
        exact ⟨other, mem_append_left _ old, span, inO, eq⟩
  · intro _
    by_cases larger : back.stop > box.right
    · exact ⟨spans, by simp, back, backMem, by simp [Rasterizer.max, larger]⟩
    · simp only [Rasterizer.max, larger, if_false]
      by_cases first : values = []
      · exact ⟨spans, by simp, back, backMem, by have := encl.initial first; omega⟩
      · obtain ⟨other, old, span, inO, eq⟩ := encl.right_mem first
        exact ⟨other, mem_append_left _ old, span, inO, eq⟩
  · simp

lemma Holds.flushSpan_append (holds : Holds ras done (some band)) (fits : RowFits band.value)
    (apart : ras.merges = false) : Holds ras.flushSpan (done ++ [band]) none := by
  obtain ⟨front, isFront⟩ : ∃ front, band.value.head? = some front :=
    Option.isSome_iff_exists.mp (by simpa using fits.nonempty)
  obtain ⟨back, isBack⟩ : ∃ back, band.value.getLast? = some back :=
    Option.isSome_iff_exists.mp (by simpa using fits.nonempty)
  have spanEq : ras.span = rowRects band := holds.span_eq
  have flushed : ras.flushSpan =
      { bounds := { ras.bounds with
          left := Rasterizer.min front.start ras.bounds.left
          right := Rasterizer.max back.stop ras.bounds.right }
        storage := ras.storage ++ rowRects band
        head := (ras.storage ++ rowRects band).length - (rowRects band).length
        tail := (ras.storage ++ rowRects band).length
        span := [] } := by
    simp [Rasterizer.flushSpan, spanEq, apart, rowRects, isFront, isBack]
  rw [flushed]
  constructor
  · simp [holds.storage_eq]
  · rfl
  · simp [holds.storage_eq]
  · simp [holds.storage_eq]
  · exact forall_mem_append.2 ⟨holds.nonempty, forall_mem_singleton.2 fits.nonempty⟩
  · exact holds.top_eq
  · exact holds.bottom_eq
  · rw [map_append]
    exact holds.encloses.append fits isFront isBack

lemma Holds.flushSpan_merge (holds : Holds ras (front ++ [last]) (some band))
    (fits : RowFits band.value) (merges : ras.merges = true) :
    Holds ras.flushSpan (front ++ [{ last with stop := band.stop }]) none := by
  obtain ⟨p, ps, bandEq⟩ := exists_cons_of_ne_nil fits.nonempty
  have spanEq : ras.span = rowRects band := holds.span_eq
  have flushed : ras.flushSpan =
      { ras with
        storage := rects front ++ rowRects { last with stop := band.stop }
        span := [] } := by
    have isFront : ras.span.head? = some ⟨p.start, band.start, p.stop, band.stop⟩ := by
      simp [spanEq, rowRects, bandEq]
    obtain ⟨back, isBack⟩ : ∃ back, ras.span.getLast? = some back :=
      Option.isSome_iff_exists.mp (by simp [spanEq, rowRects, bandEq])
    have kept : ras.storage.take ras.head = rects front := by
      simp [holds.storage_eq, holds.head_eq]
    have rest : ras.storage.drop ras.tail = [] := by simp [holds.storage_eq, holds.tail_eq]
    simp [flushSpan, isFront, isBack, merges, kept, rest, holds.lastRow_eq, rowRects,
      Function.comp_def]
  rw [flushed]
  constructor
  · simp
  · rfl
  · simp [holds.head_eq]
  · simp [holds.tail_eq]
  · exact forall_mem_append.2 ⟨fun row old => holds.nonempty row (mem_append_left _ old),
      forall_mem_singleton.2 (holds.nonempty last (by simp))⟩
  · exact holds.top_eq
  · exact holds.bottom_eq
  · simpa using holds.encloses

lemma Holds.flushSpan (holds : Holds ras done (some band)) (fits : RowFits band.value) :
    Holds ras.flushSpan (push done band) none := by
  rcases eq_nil_or_concat' done with rfl | ⟨front, last, rfl⟩
  · have apart : ras.merges = false := by
      have : band.value.length ≠ 0 := by simpa using fits.nonempty
      simp [merges, holds.head_eq, holds.tail_eq, holds.span_eq, this.symm]
    exact holds.flushSpan_append fits apart
  · rw [push_concat]
    split
    next joins =>
      have merges : ras.merges = true := (holds.merges_iff fits.nonempty).mpr joins
      exact holds.flushSpan_merge fits merges
    next apart =>
      refine holds.flushSpan_append fits ?_
      rw [← Bool.not_eq_true, holds.merges_iff fits.nonempty]
      exact apart

/-! ## Taking the pieces of a row -/

def joined (done : List (Run Spans)) : Option (Run Spans) → List (Run Spans)
  | none => done
  | some band => push done band

lemma Holds.setSpan (holds : Holds ras done cur) (band : Run Spans) :
    Holds { ras with span := rowRects band } done (some band) where
  __ := holds
  span_eq := rfl

lemma Holds.add_first (holds : Holds ras done cur)
    (fits : ∀ band ∈ cur, RowFits band.value) (differs : ∀ band ∈ cur, band.start ≠ top)
    (span : Run Unit) : Holds (ras.add ⟨span.start, top, span.stop, bot⟩) (joined done cur)
      (some ⟨top, bot, [span]⟩) := by
  cases cur with
  | none =>
    have added : ras.add ⟨span.start, top, span.stop, bot⟩ =
        { ras with span := rowRects ⟨top, bot, [span]⟩ } := by
      simp [add, holds.span_eq, rowRects]
    rw [added]
    exact holds.setSpan _
  | some band =>
    have bandFits := fits band rfl
    have flushed := holds.flushSpan bandFits
    obtain ⟨back, isBack⟩ : ∃ back, band.value.getLast? = some back :=
      Option.isSome_iff_exists.mp (by simpa using bandFits.nonempty)
    have lastEq : ras.span.getLast? =
        some ⟨back.start, band.start, back.stop, band.stop⟩ := by
      simp [holds.span_eq, rowRects, isBack]
    have added : ras.add ⟨span.start, top, span.stop, bot⟩ =
        { ras.flushSpan with span := rowRects ⟨top, bot, [span]⟩ } := by
      simp [add, lastEq, differs band rfl, flushed.span_eq, rowRects]
    rw [added]
    exact flushed.setSpan _

lemma Holds.add_next (holds : Holds ras done (some band)) (ne : band.value ≠ [])
    (span : Run Unit) : Holds (ras.add ⟨span.start, band.start, span.stop, band.stop⟩) done
      (some { band with value := push band.value span }) := by
  obtain ⟨low, stop, v⟩ := band
  rcases eq_nil_or_concat' v with rfl | ⟨front, last, rfl⟩
  · exact absurd rfl ne
  · have spanEq : ras.span = rowRects ⟨low, stop, front ++ [last]⟩ := holds.span_eq
    have added : ras.add ⟨span.start, low, span.stop, stop⟩ =
        { ras with span := rowRects ⟨low, stop, push (front ++ [last]) span⟩ } := by
      rw [push_concat]
      by_cases touch : last.stop = span.start
      · simp [add, touch, spanEq, rowRects]
      · simp [add, touch, spanEq, rowRects]
    rw [added]
    exact holds.setSpan _

def addRow (top bottom : Int) (raster : Rasterizer) (spans : Spans) : Rasterizer :=
  spans.foldl (fun raster span => raster.add ⟨span.start, top, span.stop, bottom⟩) raster

lemma Holds.addRow (holds : Holds ras done cur)
    (fits : ∀ band ∈ cur, RowFits band.value) (differs : ∀ band ∈ cur, band.start ≠ top)
    (ne : spans ≠ []) : Holds (addRow top bot ras spans) (joined done cur)
      (some ⟨top, bot, coalesce spans⟩) := by
  obtain ⟨first, rest, rfl⟩ := exists_cons_of_ne_nil ne
  have started := @add_first ras done cur top bot holds fits differs first
  have continues : ∀ (rest v : Spans) (ras : Rasterizer),
      Holds ras (joined done cur) (some ⟨top, bot, v⟩) → v ≠ [] →
      Holds (RegionRaster.addRow top bot ras rest) (joined done cur)
        (some ⟨top, bot, rest.foldl push v⟩) := by
    intro rest
    induction rest with
    | nil => exact fun _ _ holds _ => holds
    | cons span rest ih =>
      intro v ras holds valueNonempty
      exact ih (push v span) _ (holds.add_next valueNonempty span)
        (push_ne_nil v span)
  exact continues rest [first] _ started (by simp)

/-! ## The finished region -/

lemma rects_ne_nil (ne : ∀ row ∈ rows, row.value ≠ []) (some : rows ≠ []) : rects rows ≠ [] := by
  obtain ⟨row, rest, rfl⟩ := exists_cons_of_ne_nil some
  have := ne row mem_cons_self
  simp [rects, rowRects, this]

/-- The region is the row list written out: no rectangle at all is stored as an
empty one, and the bounds stand behind several rectangles, or in the place of
the only one. -/
def Written (rows : List (Run Spans)) (region : Region) : Prop :=
  (rows = [] ∧ region = Region.empty) ∨
    ∃ bounds front back, (rects rows).head? = some front ∧ (rects rows).getLast? = some back ∧
      bounds.top = front.top ∧ bounds.bottom = back.bottom ∧
      Encloses bounds (rows.map Run.value) ∧
      region = ⟨(if (rects rows).length = 1 then [] else rects rows) ++ [bounds]⟩

lemma Holds.finish (holds : Holds ras done cur) (fits : ∀ band ∈ cur, RowFits band.value) :
    Written (joined done cur) ras.finish := by
  have flushed : Holds (if ras.span.isEmpty then ras else ras.flushSpan)
      (joined done cur) none := by
    cases cur with
    | none => simpa [holds.span_eq, joined] using holds
    | some band =>
      have bandFits := fits band rfl
      have unfin : ras.span.isEmpty = false := by
        simpa [holds.span_eq, rowRects] using bandFits.nonempty
      rw [unfin]
      exact holds.flushSpan bandFits
  unfold Rasterizer.finish Written
  generalize (if ras.span.isEmpty then ras else ras.flushSpan) = final at flushed ⊢
  generalize joined done cur = rows at flushed ⊢
  simp only [flushed.storage_eq]
  by_cases none : rows = []
  · subst none
    left
    simp [flushed.top_eq, flushed.bottom_eq, Region.empty]
  · right
    have someRects := rects_ne_nil flushed.nonempty none
    obtain ⟨front, isFront⟩ : ∃ front, (rects rows).head? = some front :=
      Option.isSome_iff_exists.mp (by simpa using someRects)
    obtain ⟨back, isBack⟩ : ∃ back, (rects rows).getLast? = some back :=
      Option.isSome_iff_exists.mp (by simpa using someRects)
    simp only [isFront, isBack]
    exact ⟨{ final.bounds with top := front.top, bottom := back.bottom }, front, back, rfl, rfl, rfl,
      rfl, ⟨flushed.encloses.left_le, flushed.encloses.le_right, flushed.encloses.left_mem,
        flushed.encloses.right_mem, flushed.encloses.initial⟩, rfl⟩

end RegionRaster

end NativeLibs.Ui
