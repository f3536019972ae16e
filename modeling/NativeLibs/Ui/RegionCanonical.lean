import NativeLibs.Ui.RegionLoops
import NativeLibs.Ui.RegionRaster

/-! # The result of a boolean operation

The sweep and the rasterizer together compute a row list by the same two
operations at both levels: select the pieces that the operator keeps, and join
those that touch. -/

namespace NativeLibs.Ui

open Run RegionRows RegionSweep RegionLoops RegionRaster Region Rasterizer

namespace RegionResult

variable {op : Operator} {band : Overlap Spans Spans} {view : RegionView}

def keepPiece (op : Operator) (piece : Overlap Unit Unit) : Option Unit :=
  if op.keeps (inside piece.side) then some () else none

def keptSpans (op : Operator) (band : Overlap Spans Spans) : Spans :=
  select (keepPiece op) (bandRuns (inside band.side) (band.left.getD []) (band.right.getD []))

def keepBand (op : Operator) (band : Overlap Spans Spans) : Option Spans :=
  if keptSpans op band = [] then none else some (coalesce (keptSpans op band))

def resultRows (op : Operator) (lhs rhs : RegionView) : List (Run Spans) :=
  coalesce (select (keepBand op)
    (sweep (rows lhs.dx lhs.dy lhs.rects) (rows rhs.dx rhs.dy rhs.rects)))

/-! ## The rasterizer receives the kept pieces -/

lemma foldl_emit_eq_addRow (above : top < bot) (ras : Rasterizer)
    (runs : List (Run (Overlap Unit Unit))) : runs.foldl (emit op add top bot) ras =
      addRow top bot ras (select (keepPiece op) runs) := by
  induction runs generalizing ras with
  | nil => rfl
  | cons run rest ih =>
    rw [List.foldl_cons, ih]
    by_cases ne : run.start < run.stop <;>
      cases kept : op.keeps (inside run.value.side) <;>
      simp [emit, select, keepPiece, ne, kept, above, addRow]

lemma emitBand_eq_addRow (ras : Rasterizer) (ne : str.start < str.stop) :
    emitBand op add ras str = addRow str.start str.stop ras (keptSpans op str.value) :=
  foldl_emit_eq_addRow ne ras _

/-! ## The pieces of a row -/

/-- The two operands of a row of the sweep can be walked. -/
structure BandFits (band : Overlap Spans Spans) : Prop where
  left : Walkable int32Min maxValue (band.left.getD [])
  right : Walkable int32Min maxValue (band.right.getD [])

lemma BandFits.bandRuns (fits : BandFits band) (inside : Inside) :
    OrderedFrom int32Min (RegionLoops.bandRuns inside (band.left.getD []) (band.right.getD [])) ∧
      ∀ run ∈ RegionLoops.bandRuns inside (band.left.getD []) (band.right.getD []),
        run.stop ≤ int32Max := by
  have swept : ∀ {left right : Spans}, Walkable int32Min maxValue left →
      Walkable int32Min maxValue right → OrderedFrom int32Min (sweep left right) ∧
        ∀ run ∈ sweep left right, run.stop ≤ int32Max := fun left right =>
    ⟨left.ordered.sweep right.ordered, fun _ mem =>
      stop_le_of_mem_sweep (fun _ => left.within.stop_le) (fun _ => right.within.stop_le) mem⟩
  obtain ⟨left, right⟩ := walkable_active fits.left fits.right inside
  unfold RegionLoops.bandRuns
  simp only
  split
  · exact swept left right
  · exact swept fits.left.tail fits.right.tail

lemma BandFits.lookup_coalesce (fits : BandFits band) (point : Int) :
    lookup (coalesce (keptSpans op band)) point =
      (lookup (RegionLoops.bandRuns (inside band.side) (band.left.getD []) (band.right.getD []))
        point).bind (keepPiece op) :=
  lookup_coalesce_select _ (fits.bandRuns _).1 point

lemma BandFits.canonical (fits : BandFits band) : Canonical (coalesce (keptSpans op band)) :=
  select_canonical _ (fits.bandRuns _).1

lemma BandFits.rowFits (fits : BandFits band) (ne : keptSpans op band ≠ []) :
    RowFits (coalesce (keptSpans op band)) := by
  obtain ⟨ord, ends⟩ := fits.bandRuns (inside band.side)
  refine ⟨coalesce_ne_nil ne, ?_, ?_⟩
  · refine fits.canonical.orderedFrom_of_lookup fun point below => ?_
    rw [fits.lookup_coalesce, ord.lookup_eq_none below]
    rfl
  · intro span mem
    refine fits.canonical.stop_le_of_lookup (fun point past => ?_) mem
    rw [fits.lookup_coalesce, lookup_eq_none_of_stop_le ends past]
    rfl

/-! ## The rows of the sweep -/

lemma foldl_emitBand_holds (ord : OrderedFrom bound strs)
    (fits : ∀ str ∈ strs, BandFits str.value) {ras : Rasterizer}
    {done : List (Run Spans)} {cur : Option (Run Spans)} (holds : Holds ras done cur)
    (currentFits : ∀ band ∈ cur, RowFits band.value) (old : ∀ band ∈ cur, band.start < bound) :
    ∃ done' current', Holds (strs.foldl (emitBand op add) ras) done' current' ∧
      (∀ band ∈ current', RowFits band.value) ∧
      joined done' current' = (select (keepBand op) strs).foldl push (joined done cur) := by
  induction strs generalizing bound ras done cur with
  | nil => exact ⟨done, cur, holds, currentFits, rfl⟩
  | cons str rest ih =>
    obtain ⟨limit, sized, later⟩ := ord
    have restFits : ∀ other ∈ rest, BandFits other.value := fun other mem =>
      fits other (List.mem_cons_of_mem _ mem)
    have stillBefore : ∀ band ∈ cur, band.start < str.stop := fun band mem => by
      have := old band mem
      omega
    rw [List.foldl_cons]
    by_cases ne : str.start < str.stop
    · rw [emitBand_eq_addRow ras ne]
      by_cases empty : keptSpans op str.value = []
      · have skips : select (keepBand op) (str :: rest) = select (keepBand op) rest := by
          simp [select, ne, keepBand, empty]
        rw [skips, empty]
        exact ih later restFits holds currentFits stillBefore
      · have kept : select (keepBand op) (str :: rest) =
            ⟨str.start, str.stop, coalesce (keptSpans op str.value)⟩ ::
              select (keepBand op) rest := by
          simp [select, ne, keepBand, empty]
        have differs : ∀ band ∈ cur, band.start ≠ str.start := fun band mem => by
          have := old band mem
          omega
        have stretchFits := fits str List.mem_cons_self
        have added := @Holds.addRow ras done cur str.start _ str.stop holds
          currentFits differs empty
        rw [kept]
        refine ih later restFits added ?_ ?_
        · rintro band ⟨⟩
          exact stretchFits.rowFits empty
        · rintro band ⟨⟩
          exact ne
    · have flat : emitBand op .add ras str = ras :=
        foldl_emit_eq_self ras fun _ _ both => ne both.2
      have skips : select (keepBand op) (str :: rest) = select (keepBand op) rest := by
        simp [select, ne]
      rw [flat, skips]
      exact ih later restFits holds currentFits stillBefore

/-- The assumptions on an operand: a banded sequence that stays within the
coordinates when it is shifted. -/
structure ViewFits (view : RegionView) : Prop where
  banded : Banded view.rects
  fits : ShiftFits view.dx view.dy view.rects

def viewRows (view : RegionView) : List (Run Spans) := rows view.dx view.dy view.rects

lemma ViewFits.walkable (fits : ViewFits view) : Walkable int32Min maxValue (viewRows view) :=
  fits.banded.walkable_rows fits.fits

lemma ViewFits.mem_viewRows_iff (fits : ViewFits view) :
    row ∈ viewRows view ↔ ∃ rect ∈ view.rects, row = rowOf view.dx view.dy view.rects rect :=
  mem_rows_iff view.dx view.dy fits.banded row

lemma ViewFits.walkable_of_mem (fits : ViewFits view) (mem : row ∈ viewRows view) :
    Walkable int32Min maxValue row.value := by
  obtain ⟨rect, _, rfl⟩ := fits.mem_viewRows_iff.mp mem
  exact fits.banded.walkable_rowOf fits.fits rect

section Operands

variable {lhs rhs : RegionView} (lhsFits : ViewFits lhs) (rhsFits : ViewFits rhs)

include lhsFits rhsFits

lemma sweep_ordered : OrderedFrom int32Min (sweep (viewRows lhs) (viewRows rhs)) :=
  lhsFits.walkable.ordered.sweep rhsFits.walkable.ordered

lemma bandFits_of_mem_sweep {str : Run (Overlap Spans Spans)}
    (mem : str ∈ sweep (viewRows lhs) (viewRows rhs)) : BandFits str.value := by
  obtain ⟨leftMem, rightMem⟩ := mem_of_mem_sweep mem
  constructor
  · cases left : str.value.left with
    | none => exact .nil
    | some v =>
      obtain ⟨row, inRows, rfl⟩ := leftMem v left
      exact lhsFits.walkable_of_mem inRows
  · cases right : str.value.right with
    | none => exact .nil
    | some v =>
      obtain ⟨row, inRows, rfl⟩ := rightMem v right
      exact rhsFits.walkable_of_mem inRows

lemma lookup_resultRows (y : Int) : lookup (resultRows op lhs rhs) y =
      (overlapAt (viewRows lhs) (viewRows rhs) y).bind (keepBand op) := by
  rw [← lookup_sweep lhsFits.walkable.ordered rhsFits.walkable.ordered]
  exact lookup_coalesce_select _ (sweep_ordered lhsFits rhsFits) y

lemma operate_written (ne : lhs.rects ≠ []) :
    ∃ res, operate op lhs rhs = some res ∧ Written (resultRows op lhs rhs) res := by
  obtain ⟨done, cur, holds, fits, joinedEq⟩ := @foldl_emitBand_holds op _ _
    (sweep_ordered lhsFits rhsFits)
    (fun str mem => bandFits_of_mem_sweep lhsFits rhsFits mem) _ _ _ holds_initial
    (by simp) (by simp)
  have wrote := holds.finish fits
  rw [joinedEq] at wrote
  refine ⟨_, ?_, wrote⟩
  rw [operate, run_eq initial lhsFits.banded rhsFits.banded lhsFits.fits
    rhsFits.fits ne]
  rfl

end Operands

end RegionResult

/-! ## The canonical form of a result

The rows that a boolean operation writes are canonical at both levels: no two
spans of a row touch, and no two rows that touch have the same spans. Such a
row list is determined by the points it covers. -/

open Run RegionRows RegionSweep RegionLoops RegionRaster RegionResult

namespace RegionCanonical

variable {rows : List (Run Spans)}

structure TidyRows (rows : List (Run Spans)) : Prop where
  canonical : Canonical rows
  ordered : OrderedFrom int32Min rows
  ends : ∀ row ∈ rows, row.stop ≤ int32Max
  spans_canonical : ∀ row ∈ rows, Canonical row.value
  spans_fit : ∀ row ∈ rows, RowFits row.value

lemma tidy_resultRows (lhsFits : ViewFits lhs) (rhsFits : ViewFits rhs) :
    TidyRows (resultRows op lhs rhs) := by
  have ord := sweep_ordered lhsFits rhsFits
  have canon : Canonical (resultRows op lhs rhs) := select_canonical _ ord
  have lookupEq : ∀ y, lookup (resultRows op lhs rhs) y =
      (lookup (sweep (viewRows lhs) (viewRows rhs)) y).bind (keepBand op) := fun y =>
    lookup_coalesce_select _ ord y
  -- Every row of the result is what a row of the sweep keeps.
  have kept : ∀ row ∈ resultRows op lhs rhs, ∃ band, BandFits band ∧ keptSpans op band ≠ [] ∧
      row.value = coalesce (keptSpans op band) := by
    intro row mem
    have hit := canon.lookup_eq_of_mem mem ⟨le_refl _, canon.nonempty_of_mem mem⟩
    rw [lookupEq] at hit
    obtain ⟨band, swept, keptEq⟩ := Option.bind_eq_some_iff.mp hit
    obtain ⟨str, inSweep, _, rfl⟩ := exists_mem_of_lookup_eq swept
    have fits := bandFits_of_mem_sweep lhsFits rhsFits inSweep
    unfold keepBand at keptEq
    split at keptEq
    next => cases keptEq
    next ne => exact ⟨_, fits, ne, (Option.some.inj keptEq).symm⟩
  refine ⟨canon, ?_, ?_, ?_, ?_⟩
  · refine canon.orderedFrom_of_lookup fun y below => ?_
    rw [lookupEq, ord.lookup_eq_none below]
    rfl
  · intro row mem
    refine canon.stop_le_of_lookup (fun y past => ?_) mem
    have ends : ∀ str ∈ sweep (viewRows lhs) (viewRows rhs), str.stop ≤ int32Max :=
      fun str inSweep => stop_le_of_mem_sweep (fun _ => lhsFits.walkable.within.stop_le)
        (fun _ => rhsFits.walkable.within.stop_le) inSweep
    rw [lookupEq, lookup_eq_none_of_stop_le ends past]
    rfl
  · intro row mem
    obtain ⟨band, fits, _, eq⟩ := kept row mem
    rw [eq]
    exact fits.canonical
  · intro row mem
    obtain ⟨band, fits, ne, eq⟩ := kept row mem
    rw [eq]
    exact fits.rowFits ne

/-! ## The points of a written region -/

lemma mem_rects : rect ∈ rects rows ↔ ∃ row ∈ rows, ∃ span ∈ row.value,
      (⟨span.start, row.start, span.stop, row.stop⟩ : Rect) = rect := by
  simp [rects, rowRects]

def RowsCover (rows : List (Run Spans)) (x y : Int) : Prop :=
  ∃ spans, lookup rows y = some spans ∧ lookup spans x = some ()

lemma TidyRows.covers_iff (tidy : TidyRows rows) (x y : Int) :
    (∃ rect ∈ rects rows, rect.Covers x y) ↔ RowsCover rows x y := by
  constructor
  · rintro ⟨rect, mem, fromTop, toBottom, fromLeft, toRight⟩
    obtain ⟨row, inRows, span, inRow, rfl⟩ := mem_rects.mp mem
    exact ⟨row.value, tidy.canonical.lookup_eq_of_mem inRows ⟨fromTop, toBottom⟩,
      (tidy.spans_canonical row inRows).lookup_eq_of_mem inRow ⟨fromLeft, toRight⟩⟩
  · rintro ⟨spans, foundRow, foundSpan⟩
    obtain ⟨row, inRows, rowCovers, rfl⟩ := exists_mem_of_lookup_eq foundRow
    obtain ⟨span, inRow, spanCovers, _⟩ := exists_mem_of_lookup_eq foundSpan
    exact ⟨_, mem_rects.mpr ⟨row, inRows, span, inRow, rfl⟩, rowCovers.1, rowCovers.2,
      spanCovers.1, spanCovers.2⟩

lemma bounds_eq_of_singleton (one : rects rows = [rect]) (topEq : box.top = rect.top)
    (bottomEq : box.bottom = rect.bottom) (encl : Encloses box (rows.map Run.value)) :
    box = rect := by
  have ne : rows.map Run.value ≠ [] := by
    intro none
    rw [List.map_eq_nil_iff.mp none] at one
    cases one
  have only : ∀ spans ∈ rows.map Run.value, ∀ span ∈ spans,
      span.start = rect.left ∧ span.stop = rect.right := by
    intro spans mem span inRow
    obtain ⟨row, inRows, rfl⟩ := List.mem_map.mp mem
    have inRects := mem_rects.mpr ⟨row, inRows, span, inRow, rfl⟩
    rw [one, List.mem_singleton] at inRects
    exact ⟨congrArg Rect.left inRects, congrArg Rect.right inRects⟩
  obtain ⟨leftRow, inLeft, leftSpan, leftMem, leftEq⟩ := encl.left_mem ne
  obtain ⟨rightRow, inR, rightSpan, rightMem, rightEq⟩ := encl.right_mem ne
  have leftSame := leftEq.symm.trans (only leftRow inLeft leftSpan leftMem).1
  have rightSame := rightEq.symm.trans (only rightRow inR rightSpan rightMem).2
  obtain ⟨left, top, right, bot⟩ := box
  simp only at topEq bottomEq leftSame rightSame
  subst topEq bottomEq leftSame rightSame
  rfl

lemma getArray_of_written (wrote : Written rows reg) (ne : rows ≠ []) :
    reg.getArray = rects rows := by
  rcases wrote with ⟨none, _⟩ | ⟨box, front, back, isFront, isBack, topEq, bottomEq, encl,
    rfl⟩
  · exact absurd none ne
  · split
    next one =>
      obtain ⟨rect, eq⟩ := List.length_eq_one_iff.mp one
      rw [eq] at isFront isBack
      obtain rfl : rect = front := by simpa using isFront
      obtain rfl : rect = back := by simpa using isBack
      rw [List.nil_append, getArray_singleton, eq,
        bounds_eq_of_singleton eq topEq bottomEq encl]
    next =>
      refine getArray_append_bounds box fun none => ?_
      rw [none] at isFront
      cases isFront

lemma getArray_eq_of_written {other : Region} (wrote : Written rows reg)
    (otherWritten : Written rows other) : reg.getArray = other.getArray := by
  by_cases none : rows = []
  · subst none
    rcases wrote with ⟨_, rfl⟩ | ⟨_, _, _, front, _⟩
    · rcases otherWritten with ⟨_, rfl⟩ | ⟨_, _, _, front, _⟩
      · rfl
      · cases front
    · cases front
  · rw [getArray_of_written wrote none, getArray_of_written otherWritten none]

variable (tidy : TidyRows rows)
include tidy

lemma contains_of_written (wrote : Written rows reg) (x y : Int) :
    reg.contains x y = true ↔ RowsCover rows x y := by
  rw [contains_iff]
  by_cases none : rows = []
  · rcases wrote with ⟨_, rfl⟩ | ⟨box, front, back, isFront, _⟩
    · subst none
      simp [empty, getArray_singleton, Rect.Covers, RowsCover]
    · rw [none] at isFront
      cases isFront
  · rw [getArray_of_written wrote none]
    exact tidy.covers_iff x y

/-! ## Uniqueness -/

lemma TidyRows.lookup_eq_of_covers (otherTidy : TidyRows other)
    (same : ∀ x, RowsCover rows x y ↔ RowsCover other x y') (hit : lookup rows y = some spans) :
    lookup other y' = some spans := by
  obtain ⟨row, inRows, _, rfl⟩ := exists_mem_of_lookup_eq hit
  have canon := tidy.spans_canonical row inRows
  obtain ⟨span, spanMem⟩ := List.exists_mem_of_ne_nil _ (tidy.spans_fit row inRows).nonempty
  have cov : RowsCover rows span.start y := ⟨row.value, hit,
    canon.lookup_eq_of_mem spanMem ⟨le_refl _, canon.nonempty_of_mem spanMem⟩⟩
  obtain ⟨spans, otherFound, _⟩ := (same span.start).mp cov
  obtain ⟨otherRow, inOther, _, rfl⟩ := exists_mem_of_lookup_eq otherFound
  rw [otherFound]
  refine congrArg some (Canonical.eq_of_lookup_eq (otherTidy.spans_canonical otherRow inOther)
    canon fun x => ?_)
  have sameAt : lookup otherRow.value x = some () ↔ lookup row.value x = some () := by
    have := same x
    simpa [RowsCover, hit, otherFound] using this.symm
  exact Option.ext fun _ => sameAt

lemma TidyRows.eq_of_covers_iff (otherTidy : TidyRows other)
    (same : ∀ x y, RowsCover rows x y ↔ RowsCover other x y) : rows = other := by
  refine Canonical.eq_of_lookup_eq tidy.canonical otherTidy.canonical fun y => ?_
  ext spans
  exact ⟨tidy.lookup_eq_of_covers otherTidy fun x => same x y,
    otherTidy.lookup_eq_of_covers tidy fun x => (same x y).symm⟩

end RegionCanonical

end NativeLibs.Ui
