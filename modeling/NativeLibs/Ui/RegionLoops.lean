import NativeLibs.Ui.RegionSweep

/-! # The two loops of the region sweep

The loops of `region_operator` end within their budget, and hand the rasterizer
the pieces of the sweep of the two row lists, row by row. -/

namespace NativeLibs.Ui

open RegionOperator SpannerInner Run RegionRows RegionSweep SpannerBase DoWhile

namespace RegionLoops

variable {Raster : Type} {op : Operator} {rast : Raster → Rect → Raster}
  {lhs rhs : RegionView}

/-! ## The inner loop -/

def emit (op : Operator) (rasterizer : Raster → Rect → Raster) (top bottom : Int)
    (raster : Raster) (stretch : Run (Overlap Unit Unit)) : Raster :=
  if op.keeps (inside stretch.value.side) && (stretch.start < stretch.stop && top < bottom) then
    rasterizer raster ⟨stretch.start, top, stretch.stop, bottom⟩
  else raster

lemma foldl_emit_eq_self {strs : List (Run (Overlap Unit Unit))} (ras : Raster)
    (flat : ∀ str ∈ strs, ¬ (str.start < str.stop ∧ top < bot)) :
    strs.foldl (emit op rast top bot) ras = ras := by
  induction strs with
  | nil => rfl
  | cons str rest ih =>
    have empty := flat str List.mem_cons_self
    have skips : emit op rast top bot ras str = ras := by
      simp only [emit, ← Bool.decide_and, empty, decide_false, Bool.and_false]
      rfl
    rw [List.foldl_cons, skips]
    exact ih fun other mem => flat other (List.mem_cons_of_mem _ mem)

def ReadsRow (reg : RegionView) (runs : Spans) : Prop :=
  runs = [] ∨ Resumes runs (rowSpans reg.dx reg.rects)

lemma advance_eq_of_ne_nil (head tail : Int) (ne : reg.rects ≠ []) :
    ReadsRow (advance reg head tail).1 (rowSpans reg.dx reg.rects).tail ∧
      (advance reg head tail).2 = (cursorStart maxValue (rowSpans reg.dx reg.rects).tail,
          cursorStop maxValue (rowSpans reg.dx reg.rects).tail) := by
  obtain ⟨rects, dx, dy⟩ := reg
  cases rects with
  | nil => simp at ne
  | cons cur rest =>
    cases rest with
    | nil => exact ⟨.inl (by simp [rowSpans]), by simp [rowSpans, advance]⟩
    | cons rect rest =>
      by_cases eqTop : rect.top = cur.top
      · have tailEq : (rowSpans dx (cur :: rect :: rest)).tail =
            rowSpans dx (rect :: rest) := by
          simp [rowSpans, eqTop]
        simp only [tailEq, advance, eqTop, ne_eq, not_true_eq_false, if_false]
        refine ⟨.inr (.inl rfl), ?_⟩
        simp [rowSpans, span]
      · simp [rowSpans, advance, eqTop, ReadsRow]

lemma advance_readsRow : AdvancesTo advance ReadsRow := by
  intro reg runs head tail reads ne
  have resumes := reads.resolve_left ne
  have rectsNonempty : reg.rects ≠ [] := by
    intro spent
    have := resumes.ne_nil ne
    simp [spent, rowSpans] at this
  rw [resumes.tail_eq]
  exact advance_eq_of_ne_nil head tail rectsNonempty

lemma resumable_readsRow : Resumable ReadsRow := by
  intro reg runs resumed reads resumes
  rcases reads with rfl | reads
  · rcases resumes with rfl | ⟨first, rest, low, eq, _⟩
    · exact .inl rfl
    · cases eq
  · exact .inr (resumes.trans reads)

abbrev InnerReady (spanner : SpannerInner) (left right : Spans) : Prop :=
  Ready ReadsRow spanner.base spanner.lhs spanner.rhs left right

lemma live_of_not_isDone (ready : InnerReady spanner left right)
    (unfin : spanner.isDone = false) : Live left right := by
  have leftLe := cursorStart_le ready.walkableLeft
  have rightLe := cursorStart_le ready.walkableRight
  simp only [isDone, ready.base_eq, cursors, Bool.and_eq_false_iff, beq_eq_false_iff_ne] at unfin
  unfold Live
  omega

lemma not_live_of_isDone (ready : InnerReady spanner left right)
    (fin : spanner.isDone = true) : ¬ Live left right := by
  simp only [isDone, ready.base_eq, cursors, Bool.and_eq_true, beq_iff_eq] at fin
  unfold Live
  omega

lemma foldl_emit_of_not_live (ras : Raster) (walkableLeft : Walkable int32Min maxValue left)
    (walkableRight : Walkable int32Min maxValue right) (dead : ¬ Live left right) :
    (sweep left right).foldl (emit op rast top bot) ras = ras :=
  foldl_emit_eq_self ras fun str mem ne =>
    (eq_of_not_live walkableLeft walkableRight dead).2.2.2 str mem ne.1

def innerNext (spanner : SpannerInner) : SpannerInner :=
  let next := advanced advance spanner.base spanner.lhs spanner.rhs
  ⟨next.1, next.2.1, next.2.2⟩

lemma innerBody_eq (top bot : Int) (spanner : SpannerInner) (ras : Raster) :
    innerBody op rast top bot (spanner, ras) =
      let step := spanner.base.next
      let kept := op.keeps step.inside && (step.head < step.tail && top < bot)
      some (innerNext spanner,
        if kept then rast ras ⟨step.head, top, step.tail, bot⟩ else ras) := by
  simp only [innerBody, spannerInner_next_eq, innerNext]

lemma inner_loop {budget : Nat} (ras : Raster) (ready : InnerReady spanner left right)
    (live : Live left right) (suff : sweepMeasure left right < budget) :
    ∃ final, doWhile (innerBody op rast top bot)
        (fun inner => inner.1.isDone) budget (spanner, ras) = some final ∧
      final.2 = (sweep left right).foldl (emit op rast top bot) ras := by
  -- The invariant fixes the outcome: what was emitted so far, continued by the
  -- sweep of what is left.
  refine terminates (fun measure (st : SpannerInner × Raster) => ∃ left' right' : Spans,
      InnerReady st.1 left' right' ∧ Live left' right' ∧ measure = sweepMeasure left' right' ∧
      (sweep left' right').foldl (emit op rast top bot) st.2 =
        (sweep left right).foldl (emit op rast top bot) ras)
    (fun (st : SpannerInner × Raster) =>
      st.2 = (sweep left right).foldl (emit op rast top bot) ras)
    ?_ budget (sweepMeasure left right) _ ⟨left, right, ready, live, rfl, rfl⟩ suff
  rintro measure ⟨spanner, raster'⟩ ⟨left, right, ready, live, rfl, goal⟩
  obtain ⟨side, left', right', foll, ready'⟩ :=
    ready.next advance_readsRow resumable_readsRow live
  refine ⟨_, innerBody_eq top bot spanner raster', ?_⟩
  rw [foll.sweep_eq, List.foldl_cons] at goal
  simp only [foll.inside_eq]
  constructor
  · intro fin
    rw [← goal, foldl_emit_of_not_live _ ready'.walkableLeft ready'.walkableRight
      (not_live_of_isDone ready' fin)]
    rfl
  · intro unfin
    exact ⟨_, foll.decreases, left', right', ready', live_of_not_isDone ready' unfin, rfl, goal⟩

/-- The rows that `prepare` loads: on a piece that belongs to one operand only,
the other one counts as exhausted. -/
def active (left right : Spans) : Inside → Spans × Spans
  | .lhsBeforeRhs => (left, [])
  | .lhsAfterRhs => ([], right)
  | .lhsCoincideRhs => (left, right)

lemma prepare_eq (lhs rhs : RegionView) (mem : Inside) : (make lhs rhs).prepare mem =
      let rows := active (rowSpans lhs.dx lhs.rects) (rowSpans rhs.dx rhs.rects) mem
      ⟨cursors rows.1 rows.2, lhs, rhs⟩ := by
  obtain ⟨lhsRects, lhsDx, lhsDy⟩ := lhs
  obtain ⟨rhsRects, rhsDx, rhsDy⟩ := rhs
  cases lhsRects <;> cases rhsRects <;> cases mem <;>
    simp [prepare, make, loadLhs, loadRhs, initial, active, cursors, rowSpans, span]

/-- The pieces of one row. If all cursors start on the mark for an exhausted
operand, the first iteration advances both operands, also one that is not
active: the loop then goes on behind the first rectangles of the two rows. -/
def bandRuns (inside : Inside) (left right : Spans) : List (Run (Overlap Unit Unit)) :=
  let rows := active left right inside
  if Live rows.1 rows.2 then sweep rows.1 rows.2 else sweep left.tail right.tail

lemma walkable_active (walkableLeft : Walkable int32Min maxValue left)
    (walkableRight : Walkable int32Min maxValue right) (mem : Inside) :
    Walkable int32Min maxValue (active left right mem).1 ∧
      Walkable int32Min maxValue (active left right mem).2 := by
  cases mem with
  | lhsBeforeRhs => exact ⟨walkableLeft, .nil⟩
  | lhsAfterRhs => exact ⟨.nil, walkableRight⟩
  | lhsCoincideRhs => exact ⟨walkableLeft, walkableRight⟩

lemma readsRow_active (lhs rhs : RegionView) (mem : Inside) :
    ReadsRow lhs (active (rowSpans lhs.dx lhs.rects) (rowSpans rhs.dx rhs.rects) mem).1 ∧
      ReadsRow rhs (active (rowSpans lhs.dx lhs.rects) (rowSpans rhs.dx rhs.rects) mem).2 := by
  cases mem with
  | lhsBeforeRhs => exact ⟨.inr (.inl rfl), .inl rfl⟩
  | lhsAfterRhs => exact ⟨.inl rfl, .inr (.inl rfl)⟩
  | lhsCoincideRhs => exact ⟨.inr (.inl rfl), .inr (.inl rfl)⟩

lemma advance_at_mark (reg : RegionView) :
    ReadsRow (advance reg maxValue maxValue).1 (rowSpans reg.dx reg.rects).tail ∧
      (advance reg maxValue maxValue).2 = (cursorStart maxValue (rowSpans reg.dx reg.rects).tail,
          cursorStop maxValue (rowSpans reg.dx reg.rects).tail) := by
  by_cases spent : reg.rects = []
  · simp [advance, spent, rowSpans, ReadsRow]
  · exact advance_eq_of_ne_nil maxValue maxValue spent

lemma innerNext_at_mark (walkableLeft : Walkable int32Min maxValue (rowSpans lhs.dx lhs.rects))
    (walkableRight : Walkable int32Min maxValue (rowSpans rhs.dx rhs.rects)) :
    InnerReady (innerNext ⟨initial, lhs, rhs⟩)
      (rowSpans lhs.dx lhs.rects).tail (rowSpans rhs.dx rhs.rects).tail := by
  obtain ⟨leftReads, leftCursor⟩ := advance_at_mark lhs
  obtain ⟨rightReads, rightCursor⟩ := advance_at_mark rhs
  refine ⟨?_, leftReads, rightReads, walkableLeft.tail, walkableRight.tail⟩
  simp only [innerNext, advanced, advanceIf, initial_next, if_true, cursors]
  simp only [initial, leftCursor, rightCursor]

lemma length_rowSpans_le (dx : Int) (rects : List Rect) :
    (rowSpans dx rects).length ≤ rects.length := by
  cases rects with
  | nil => exact le_refl _
  | cons rect rest =>
    rw [rowSpans, List.length_map]
    exact (List.takeWhile_sublist _).length_le

lemma inner_run (ras : Raster) (mem : Inside)
    (walkableLeft : Walkable int32Min maxValue (rowSpans lhs.dx lhs.rects))
    (walkableRight : Walkable int32Min maxValue (rowSpans rhs.dx rhs.rects)) :
    ∃ final, doWhile (innerBody op rast top bot) (fun inner => inner.1.isDone) (budget lhs rhs)
        ((make lhs rhs).prepare mem, ras) = some final ∧
      final.2 = (bandRuns mem (rowSpans lhs.dx lhs.rects) (rowSpans rhs.dx rhs.rects)).foldl
        (emit op rast top bot) ras := by
  obtain ⟨activeLeft, activeRight⟩ := walkable_active walkableLeft walkableRight mem
  have leftLength := length_rowSpans_le lhs.dx lhs.rects
  have rightLength := length_rowSpans_le rhs.dx rhs.rects
  rw [prepare_eq, bandRuns]
  simp only
  split
  next live =>
    obtain ⟨readsLeft, readsRight⟩ := readsRow_active lhs rhs mem
    refine inner_loop ras ⟨rfl, readsLeft, readsRight, activeLeft, activeRight⟩ live ?_
    refine lt_of_le_of_lt (sweepMeasure_le _ _) ?_
    unfold budget
    cases mem <;> simp only [active, List.length_nil] <;> omega
  next dead =>
    obtain ⟨atMark, _⟩ := eq_of_not_live activeLeft activeRight dead
    rw [atMark]
    have ready := innerNext_at_mark walkableLeft walkableRight
    have firstIteration := @innerBody_eq Raster op rast top bot
      ⟨.initial, lhs, rhs⟩ ras
    simp only [initial_next, lt_self_iff_false, decide_false, Bool.false_and, Bool.and_false,
      Bool.false_eq_true, if_false] at firstIteration
    unfold budget
    cases fin : (innerNext ⟨.initial, lhs, rhs⟩).isDone with
    | true =>
      refine ⟨_, succ_eq_of_done firstIteration fin, ?_⟩
      exact (foldl_emit_of_not_live ras ready.walkableLeft ready.walkableRight
        (not_live_of_isDone ready fin)).symm
    | false =>
      rw [succ_eq_of_not_done firstIteration fin]
      refine inner_loop ras ready (live_of_not_isDone ready fin) ?_
      refine lt_of_le_of_lt (sweepMeasure_le _ _) ?_
      simp only [List.length_tail]
      have loaded : (rowSpans lhs.dx lhs.rects).length ≠ 0 ∨
          (rowSpans rhs.dx rhs.rects).length ≠ 0 := by
        by_contra none
        have leftNil : rowSpans lhs.dx lhs.rects = [] := by
          rw [← List.length_eq_zero_iff]
          omega
        have rightNil : rowSpans rhs.dx rhs.rects = [] := by
          rw [← List.length_eq_zero_iff]
          omega
        have := live_of_not_isDone ready fin
        simp [leftNil, rightNil, Live] at this
      omega

/-! ## The outer loop -/

structure ReadsRows (reg : RegionView) (runs : List (Run Spans)) : Prop where
  resumes : Resumes runs (rows reg.dx reg.dy reg.rects)
  banded : Banded reg.rects
  fits : ShiftFits reg.dx reg.dy reg.rects

lemma resumable_readsRows : Resumable ReadsRows := fun _ _ _ reads resumes =>
  ⟨resumes.trans reads.resumes, reads.banded, reads.fits⟩

lemma ReadsRows.rects_eq_nil_iff (reads : ReadsRows reg runs) : reg.rects = [] ↔ runs = [] := by
  obtain ⟨rects, dx, dy⟩ := reg
  obtain ⟨resumes, _, _⟩ := reads
  cases rects with
  | nil =>
    rcases resumes with eq | ⟨first, rest, low, eq, _⟩
    · simpa [rows] using eq
    · simp [rows] at eq
  | cons rect rest =>
    rw [rows] at resumes
    rcases resumes with eq | ⟨first, rest, low, _, eq⟩ <;> simp [eq]

lemma ReadsRows.rowSpans_eq (reads : ReadsRows reg runs) :
    (runs.head?.map Run.value).getD [] = rowSpans reg.dx reg.rects := by
  obtain ⟨rects, dx, dy⟩ := reg
  obtain ⟨resumes, _, _⟩ := reads
  cases rects with
  | nil =>
    rcases resumes with eq | ⟨first, rest, low, eq, _⟩
    · simp [eq, rows, rowSpans]
    · simp [rows] at eq
  | cons rect rest =>
    rw [rows] at resumes
    rcases resumes with eq | ⟨first, rest, low, eq, rfl⟩
    · simp [eq]
    · simp [← (List.cons.inj eq).1]

lemma advance_readsRows : AdvancesTo (fun reg _ _ => Spanner.advance reg) ReadsRows := by
  rintro ⟨rects, dx, dy⟩ runs head tail reads ne
  have kept := skipRow_sublist rects
  have skippedBanded := reads.banded.sublist kept
  have skippedFits : ShiftFits dx dy (Spanner.skipRow rects) := fun rect mem =>
    reads.fits rect (kept.subset mem)
  rw [reads.resumes.tail_eq]
  cases rects with
  | nil => exact absurd (reads.rects_eq_nil_iff.mp rfl) ne
  | cons rect rest =>
    rw [rows, List.tail_cons]
    simp only [Spanner.advance]
    cases shape : Spanner.skipRow (rect :: rest) with
    | nil | cons =>
      rw [shape] at skippedBanded skippedFits
      exact ⟨⟨.inl rfl, skippedBanded, skippedFits⟩, by simp [rows]⟩

lemma ReadsRows.advance_rects_eq_nil (reads : ReadsRows reg runs) (last : runs.tail = []) :
    (Spanner.advance reg).1.rects = [] := by
  by_cases spent : runs = []
  · have rectsNil := reads.rects_eq_nil_iff.mpr spent
    simp [Spanner.advance, Spanner.skipRow, rectsNil]
  · have advanced := (advance_readsRows reg runs 0 0 reads spent).1
    exact advanced.rects_eq_nil_iff.mpr last

abbrev OuterReady (spanner : Spanner) (left right : List (Run Spans)) : Prop :=
  Ready ReadsRows spanner.base spanner.lhs spanner.rhs left right

lemma isDone_iff {spanner : Spanner} {left right : List (Run Spans)}
    (ready : OuterReady spanner left right) : spanner.isDone = true ↔ left = [] ∧ right = [] := by
  rw [Spanner.isDone, Bool.and_eq_true, List.isEmpty_iff, List.isEmpty_iff,
    ready.readsLeft.rects_eq_nil_iff, ready.readsRight.rects_eq_nil_iff, and_comm]

def emitBand (op : Operator) (rasterizer : Raster → Rect → Raster) (raster : Raster)
    (stretch : Run (Overlap Spans Spans)) : Raster :=
  (bandRuns (inside stretch.value.side) (stretch.value.left.getD [])
    (stretch.value.right.getD [])).foldl (emit op rasterizer stretch.start stretch.stop) raster

lemma foldl_emitBand_eq_self {strs : List (Run (Overlap Spans Spans))}
    (ras : Raster) (flat : ∀ str ∈ strs, ¬ str.start < str.stop) :
    strs.foldl (emitBand op rast) ras = ras := by
  induction strs with
  | nil => rfl
  | cons str rest ih =>
    have skips : emitBand op rast ras str = ras :=
      foldl_emit_eq_self ras fun _ _ ne => flat str List.mem_cons_self ne.2
    rw [List.foldl_cons, skips]
    exact ih fun other mem => flat other (List.mem_cons_of_mem _ mem)

def outerNext (spanner : Spanner) : Spanner :=
  let next := advanced (fun reg _ _ => Spanner.advance reg) spanner.base spanner.lhs spanner.rhs
  ⟨next.1, next.2.1, next.2.2⟩

lemma outerBody_eq {spanner : Spanner} {left right : List (Run Spans)} (ras : Raster)
    (ready : OuterReady spanner left right) :
    outerBody op rast (spanner, ras) = let step := spanner.base.next
      some (outerNext spanner, (bandRuns step.inside ((left.head?.map Run.value).getD [])
          ((right.head?.map Run.value).getD [])).foldl
          (emit op rast step.head step.tail) ras) := by
  obtain ⟨_, readsLeft, readsRight, _, _⟩ := ready
  obtain ⟨final, runs, emitted⟩ := @inner_run Raster op rast spanner.lhs spanner.rhs
    spanner.base.next.head spanner.base.next.tail ras spanner.base.next.inside
    (readsLeft.banded.walkable_rowSpans readsLeft.fits)
    (readsRight.banded.walkable_rowSpans readsRight.fits)
  rw [readsLeft.rowSpans_eq, readsRight.rowSpans_eq]
  simp only [outerBody, spanner_next_eq, make] at runs ⊢
  rw [runs]
  simp only [emitted, outerNext]

lemma outer_loop {budget : Nat} {spanner : Spanner} {left right : List (Run Spans)}
    (ras : Raster) (ready : OuterReady spanner left right) (remains : left ≠ [] ∨ right ≠ [])
    (suff : sweepMeasure left right < budget) : ∃ final, doWhile (outerBody op rast)
        (fun outer => outer.1.isDone) budget (spanner, ras) = some final ∧
      final.2 = (sweep left right).foldl (emitBand op rast) ras := by
  refine terminates
    (fun measure (st : Spanner × Raster) => ∃ left' right' : List (Run Spans),
      OuterReady st.1 left' right' ∧ (left' ≠ [] ∨ right' ≠ []) ∧
      measure = sweepMeasure left' right' ∧ (sweep left' right').foldl (emitBand op rast) st.2 =
        (sweep left right).foldl (emitBand op rast) ras)
    (fun (st : Spanner × Raster) =>
      st.2 = (sweep left right).foldl (emitBand op rast) ras)
    ?_ budget (sweepMeasure left right) _ ⟨left, right, ready, remains, rfl, rfl⟩ suff
  rintro measure ⟨spanner, raster'⟩ ⟨left, right, ready, remains, rfl, goal⟩
  refine ⟨_, outerBody_eq raster' ready, ?_⟩
  by_cases live : Live left right
  · obtain ⟨side, left', right', foll, ready'⟩ :=
      ready.next advance_readsRows resumable_readsRows live
    have ready' : OuterReady (outerNext spanner) left' right' := ready'
    rw [foll.sweep_eq, List.foldl_cons] at goal
    simp only [foll.inside_eq]
    constructor
    · intro fin
      obtain ⟨rfl, rfl⟩ := (isDone_iff ready').mp fin
      rw [← goal, sweep]
      rfl
    · intro unfin
      refine ⟨_, foll.decreases, left', right', ready', ?_, rfl, goal⟩
      by_contra none
      rw [not_or, not_not, not_not] at none
      simp [(isDone_iff ready').mpr none] at unfin
  · -- All that is left has no height; the step passes both rows at once.
    obtain ⟨atMark, leftTail, rightTail, flat⟩ :=
      eq_of_not_live ready.walkableLeft ready.walkableRight live
    have fin : (outerNext spanner).isDone = true := by
      have baseEq : spanner.base = initial := ready.base_eq.trans atMark
      have leftDone : (Spanner.advance spanner.lhs).1.rects = [] :=
        ready.readsLeft.advance_rects_eq_nil leftTail
      have rightDone : (Spanner.advance spanner.rhs).1.rects = [] :=
        ready.readsRight.advance_rects_eq_nil rightTail
      simp [outerNext, advanced, advanceIf, baseEq, initial_next, Spanner.isDone, leftDone,
        rightDone]
    constructor
    · intro _
      rw [← goal, foldl_emitBand_eq_self raster' flat, ready.base_eq, atMark]
      exact foldl_emit_eq_self raster' fun _ _ ne => absurd ne.2 (lt_irrefl _)
    · intro unfin
      rw [fin] at unfin
      cases unfin

lemma length_rows_le (dx dy : Int) (rects : List Rect) :
    (rows dx dy rects).length ≤ rects.length := by
  fun_induction rows dx dy rects with
  | case1 => exact le_refl _
  | case2 rect rest ih =>
    have less := length_skipRow_cons_lt rect rest
    simp only [List.length_cons] at less ⊢
    omega

/-- `region_operator::operator()` ends, and hands the rasterizer the pieces of
the sweep of the two row lists. -/
lemma run_eq (ras : Raster) (lhsBanded : Banded lhs.rects) (rhsBanded : Banded rhs.rects)
    (fits : ShiftFits lhs.dx lhs.dy lhs.rects) (rhsFits : ShiftFits rhs.dx rhs.dy rhs.rects)
    (ne : lhs.rects ≠ []) : run op rast lhs rhs ras =
      some ((sweep (rows lhs.dx lhs.dy lhs.rects) (rows rhs.dx rhs.dy rhs.rects)).foldl
        (emitBand op rast) ras) := by
  have lhsReads : ReadsRows lhs (rows lhs.dx lhs.dy lhs.rects) := ⟨.inl rfl, lhsBanded, fits⟩
  have rhsReads : ReadsRows rhs (rows rhs.dx rhs.dy rhs.rects) := ⟨.inl rfl, rhsBanded, rhsFits⟩
  have baseEq : (Spanner.make lhs rhs).base =
      cursors (rows lhs.dx lhs.dy lhs.rects) (rows rhs.dx rhs.dy rhs.rects) := by
    obtain ⟨lhsRects, lhsDx, lhsDy⟩ := lhs
    obtain ⟨rhsRects, rhsDx, rhsDy⟩ := rhs
    cases lhsRects <;> cases rhsRects <;> simp [Spanner.make, cursors, rows]
  have ready : OuterReady (Spanner.make lhs rhs) (rows lhs.dx lhs.dy lhs.rects)
      (rows rhs.dx rhs.dy rhs.rects) :=
    ⟨baseEq, lhsReads, rhsReads, lhsBanded.walkable_rows fits, rhsBanded.walkable_rows rhsFits⟩
  have suff : sweepMeasure (rows lhs.dx lhs.dy lhs.rects) (rows rhs.dx rhs.dy rhs.rects) <
      budget lhs rhs := by
    have := sweepMeasure_le (rows lhs.dx lhs.dy lhs.rects) (rows rhs.dx rhs.dy rhs.rects)
    have := length_rows_le lhs.dx lhs.dy lhs.rects
    have := length_rows_le rhs.dx rhs.dy rhs.rects
    unfold budget
    omega
  obtain ⟨final, runs, emitted⟩ := @outer_loop Raster op rast _ _ _ _ ras ready
    (.inl fun spent => ne (lhsReads.rects_eq_nil_iff.mpr spent)) suff
  rw [run, runs]
  simp only [emitted]

end RegionLoops

end NativeLibs.Ui
