import NativeLibs.Ui.RegionRows

/-! # The sweep against run lists

The two spanners of the code walk the same two cursors as `Run.sweep`. The
cursors of the code use the largest coordinate as the mark for an exhausted
operand, so a step is compared with the sweep only while one of the cursors is
below that mark; a step that starts with both cursors on it is followed by
hand. -/

namespace NativeLibs.Ui

open Run RegionRows
open SpannerBase (next initial)

namespace RegionSweep

variable {Left Right Value : Type} {left : List (Run Value)}

def inside : Side → Inside
  | .left => .lhsBeforeRhs
  | .right => .lhsAfterRhs
  | .both => .lhsCoincideRhs

def cursors (left : List (Run Left)) (right : List (Run Right)) : SpannerBase where
  lhsHead := cursorStart maxValue left
  lhsTail := cursorStop maxValue left
  rhsHead := cursorStart maxValue right
  rhsTail := cursorStop maxValue right

def Resumes (resumed runs : List (Run Value)) : Prop :=
  resumed = runs ∨
    ∃ first rest start, runs = first :: rest ∧ resumed = { first with start := start } :: rest

lemma Resumes.trans (outer : Resumes first second) (inner : Resumes second third) :
    Resumes first third := by
  rcases outer with rfl | ⟨run, rest, low, rfl, rfl⟩
  · exact inner
  · rcases inner with rfl | ⟨run, rest, other, rfl, eq⟩
    · exact .inr ⟨run, rest, low, rfl, rfl⟩
    · obtain ⟨rfl, rfl⟩ := List.cons.inj eq
      exact .inr ⟨run, rest, low, rfl, rfl⟩

lemma Resumes.tail_eq (resumes : Resumes resumed runs) : resumed.tail = runs.tail := by
  rcases resumes with rfl | ⟨first, rest, low, rfl, rfl⟩ <;> rfl

lemma Resumes.ne_nil (resumes : Resumes resumed runs) (ne : resumed ≠ []) : runs ≠ [] := by
  rcases resumes with rfl | ⟨first, rest, low, rfl, rfl⟩
  · exact ne
  · simp

def Moves (more : Bool) (head tail : Int) (runs moved : List (Run Value)) : Prop :=
  if more then runs ≠ [] ∧ moved = runs.tail
  else Resumes moved runs ∧ head = cursorStart maxValue moved ∧ tail = cursorStop maxValue moved

structure StepFollows (step : SpannerStep) (left left' : List (Run Left))
    (right right' : List (Run Right)) (side : Side) : Prop where
  sweep_eq : sweep left right =
    ⟨step.head, step.tail, side, left.head?.map Run.value, right.head?.map Run.value⟩ ::
      sweep left' right'
  inside_eq : step.inside = inside side
  movesLeft : Moves step.moreLhs step.base.lhsHead step.base.lhsTail left left'
  movesRight : Moves step.moreRhs step.base.rhsHead step.base.rhsTail right right'
  walkableLeft : Walkable int32Min maxValue left'
  walkableRight : Walkable int32Min maxValue right'
  decreases : sweepMeasure left' right' < sweepMeasure left right

lemma next_follows {left : List (Run Left)} (lWalk : Walkable int32Min maxValue left)
    (rWalk : Walkable int32Min maxValue right)
    (live : cursorStart maxValue left < maxValue ∨ cursorStart maxValue right < maxValue) :
    ∃ side left' right', StepFollows (cursors left right).next left left' right right' side := by
  cases left with
  | nil =>
    cases right with
    | nil => simp at live
    | cons other others =>
      have starts : other.start < maxValue := by simpa using live
      have ends := rWalk.stop_le
      refine ⟨.right, [], others, ?_⟩
      simp only [cursors, cursorStart, cursorStop, next, not_lt.mpr starts.le,
        starts, ends, if_true, if_false]
      exact ⟨by rw [sweep]; rfl, rfl, ⟨.inl rfl, rfl, rfl⟩, ⟨by simp, rfl⟩, .nil,
        rWalk.tail, by simp [sweepMeasure]⟩
  | cons first rest =>
    cases right with
    | nil =>
      have starts : first.start < maxValue := by simpa using live
      have ends := lWalk.stop_le
      refine ⟨.left, rest, [], ?_⟩
      simp only [cursors, cursorStart, cursorStop, next, starts, ends, if_true]
      exact ⟨by rw [sweep]; rfl, rfl, ⟨by simp, rfl⟩, ⟨.inl rfl, rfl, rfl⟩,
        lWalk.tail, .nil, by simp [sweepMeasure]⟩
    | cons other others =>
      simp only [cursors, cursorStart, cursorStop, next]
      by_cases old : first.start < other.start
      · by_cases ends : first.stop ≤ other.start
        · refine ⟨.left, rest, other :: others, ?_⟩
          simp only [old, ends, if_true]
          exact ⟨by rw [sweep, if_pos old, if_pos ends]; rfl, rfl, ⟨by simp, rfl⟩,
            ⟨.inl rfl, rfl, rfl⟩, lWalk.tail, rWalk,
            sweepMeasure_lt_of_length (by simp)⟩
        · refine ⟨.left, { first with start := other.start } :: rest, other :: others, ?_⟩
          simp only [old, ends, if_true, if_false]
          exact ⟨by rw [sweep, if_pos old, if_neg ends]; rfl, rfl,
            ⟨.inr ⟨first, rest, _, rfl, rfl⟩, rfl, rfl⟩, ⟨.inl rfl, rfl, rfl⟩,
            lWalk.restart rWalk.low_le (not_le.mp ends), rWalk,
            by simp [sweepMeasure, old.ne]⟩
      · by_cases after : other.start < first.start
        · by_cases ends : other.stop ≤ first.start
          · refine ⟨.right, first :: rest, others, ?_⟩
            simp only [old, after, ends, if_true, if_false]
            exact ⟨by rw [sweep, if_neg old, if_pos after, if_pos ends]; rfl, rfl,
              ⟨.inl rfl, rfl, rfl⟩, ⟨by simp, rfl⟩, lWalk, rWalk.tail,
              sweepMeasure_lt_of_length (by simp)⟩
          · refine ⟨.right, first :: rest, { other with start := first.start } :: others, ?_⟩
            simp only [old, after, ends, if_true, if_false]
            exact ⟨by rw [sweep, if_neg old, if_pos after, if_neg ends]; rfl, rfl,
              ⟨.inl rfl, rfl, rfl⟩, ⟨.inr ⟨other, others, _, rfl, rfl⟩, rfl, rfl⟩,
              lWalk, rWalk.restart lWalk.low_le (not_le.mp ends),
              by simp [sweepMeasure, after.ne']⟩
        · -- Both cursors stand at the same place; the shorter run is passed.
          rcases lt_trichotomy first.stop other.stop with less | same | longer
          · refine ⟨.both, rest, { other with start := first.stop } :: others, ?_⟩
            simp only [old, after, less.le, not_le.mpr less, if_true, if_false]
            exact ⟨by rw [sweep, if_neg old, if_neg after, if_pos less]; rfl, rfl,
              ⟨by simp, rfl⟩, ⟨.inr ⟨other, others, _, rfl, rfl⟩, rfl, rfl⟩,
              lWalk.tail, rWalk.restart
                (lWalk.low_le.trans lWalk.start_le_stop) less,
              sweepMeasure_lt_of_length (by simp)⟩
          · refine ⟨.both, rest, others, ?_⟩
            simp only [old, after, same, le_refl, if_true, if_false]
            exact ⟨by simp [sweep, old, after, same], rfl,
              ⟨by simp, rfl⟩, ⟨by simp, rfl⟩, lWalk.tail, rWalk.tail,
              sweepMeasure_lt_of_length (by simp; omega)⟩
          · refine ⟨.both, { first with start := other.stop } :: rest, others, ?_⟩
            simp only [old, after, longer.le, not_le.mpr longer, if_true, if_false]
            exact ⟨by
                rw [sweep, if_neg old, if_neg after, if_neg longer.not_gt, if_pos longer]
                rfl,
              rfl, ⟨.inr ⟨first, rest, _, rfl, rfl⟩, rfl, rfl⟩, ⟨by simp, rfl⟩,
              lWalk.restart
                (rWalk.low_le.trans rWalk.start_le_stop) longer, rWalk.tail,
              sweepMeasure_lt_of_length (by simp)⟩

/-! ## Advancing the operands

Both spanners follow a step of the base class by advancing the operands that
the step asks for. What differs is how a region is advanced, and which run list
it stands for. -/

abbrev Advance := RegionView → Int → Int → RegionView × Int × Int

variable (advance : Advance)

def advanceIf (more : Bool) (reg : RegionView) (head tail : Int) : RegionView × Int × Int :=
  if more then advance reg head tail else (reg, head, tail)

/-- Advancing a region that stands for a run list passes the first run. -/
def AdvancesTo (Reads : RegionView → List (Run Value) → Prop) : Prop :=
  ∀ reg runs head tail, Reads reg runs → runs ≠ [] → Reads (advance reg head tail).1 runs.tail ∧
      (advance reg head tail).2 = (cursorStart maxValue runs.tail, cursorStop maxValue runs.tail)

/-- Moving the cursor inside the first run does not change what a region
stands for. -/
def Resumable (Reads : RegionView → List (Run Value) → Prop) : Prop :=
  ∀ reg runs resumed, Reads reg runs → Resumes resumed runs → Reads reg resumed

lemma advanceIf_reads {advance : Advance} (advances : AdvancesTo advance Reads)
    (resumable : Resumable Reads) (reads : Reads reg runs) (moves : Moves more head tail runs moved) :
    Reads (advanceIf advance more reg head tail).1 moved ∧
      (advanceIf advance more reg head tail).2 =
        (cursorStart maxValue moved, cursorStop maxValue moved) := by
  cases more with
  | false =>
    obtain ⟨resumes, headEq, tailEq⟩ := moves
    exact ⟨resumable reg runs moved reads resumes, Prod.ext headEq tailEq⟩
  | true =>
    obtain ⟨ne, rfl⟩ := moves
    exact advances reg runs head tail reads ne

structure Ready (Reads : RegionView → List (Run Value) → Prop) (base : SpannerBase)
    (lhs rhs : RegionView) (left right : List (Run Value)) : Prop where
  base_eq : base = cursors left right
  readsLeft : Reads lhs left
  readsRight : Reads rhs right
  walkableLeft : Walkable int32Min maxValue left
  walkableRight : Walkable int32Min maxValue right

def Live (left right : List (Run Value)) : Prop :=
  cursorStart maxValue left < maxValue ∨ cursorStart maxValue right < maxValue

instance (left right : List (Run Value)) : Decidable (Live left right) :=
  inferInstanceAs (Decidable (_ ∨ _))

def advanced (base : SpannerBase) (lhs rhs : RegionView) : SpannerBase × RegionView × RegionView :=
  let step := base.next
  let left := advanceIf advance step.moreLhs lhs step.base.lhsHead step.base.lhsTail
  let right := advanceIf advance step.moreRhs rhs step.base.rhsHead step.base.rhsTail
  (⟨left.2.1, left.2.2, right.2.1, right.2.2⟩, left.1, right.1)

lemma spanner_next_eq (span : Spanner) : span.next =
      let next := advanced (fun reg _ _ => Spanner.advance reg) span.base span.lhs span.rhs
      (span.base.next, ⟨next.1, next.2.1, next.2.2⟩) := by
  simp only [Spanner.next, advanced, advanceIf]
  cases span.base.next.moreLhs <;> cases span.base.next.moreRhs <;> rfl

lemma spannerInner_next_eq (span : SpannerInner) : span.next =
      let next := advanced SpannerInner.advance span.base span.lhs span.rhs
      (span.base.next, ⟨next.1, next.2.1, next.2.2⟩) := by
  simp only [SpannerInner.next, advanced, advanceIf]
  cases span.base.next.moreLhs <;> cases span.base.next.moreRhs <;> rfl

lemma Ready.next {advance : Advance} (advances : AdvancesTo advance Reads)
    (resumable : Resumable Reads) (ready : Ready Reads base lhs rhs left right)
    (live : Live left right) :
    ∃ side left' right', StepFollows base.next left left' right right' side ∧
      Ready Reads (advanced advance base lhs rhs).1 (advanced advance base lhs rhs).2.1
        (advanced advance base lhs rhs).2.2 left' right' := by
  obtain ⟨baseEq, readsLeft, readsRight, walkableLeft, walkableRight⟩ := ready
  subst baseEq
  obtain ⟨side, left', right', foll⟩ := next_follows walkableLeft walkableRight live
  obtain ⟨newLeft, leftCursor⟩ := advanceIf_reads advances resumable readsLeft foll.movesLeft
  obtain ⟨newRight, rightCursor⟩ := advanceIf_reads advances resumable readsRight foll.movesRight
  refine ⟨side, left', right', foll, ?_, newLeft, newRight, foll.walkableLeft,
    foll.walkableRight⟩
  simp only [advanced, cursors] at leftCursor rightCursor ⊢
  rw [leftCursor, rightCursor]

/-! ## Exhausted cursors -/

lemma cursorStart_le (walk : Walkable int32Min maxValue runs) :
    cursorStart maxValue runs ≤ maxValue := by
  cases runs with
  | nil => exact le_refl _
  | cons run rest => exact walk.start_le_stop.trans walk.stop_le

lemma eq_of_not_live (walkableLeft : Walkable int32Min maxValue left)
    (walkableRight : Walkable int32Min maxValue right) (dead : ¬ Live left right) :
    cursors left right = initial ∧ left.tail = [] ∧ right.tail = [] ∧
      ∀ str ∈ sweep left right, ¬ str.start < str.stop := by
  have spent : ∀ runs : List (Run Value), Walkable int32Min maxValue runs →
      ¬ cursorStart maxValue runs < maxValue →
      cursorStart maxValue runs = maxValue ∧ cursorStop maxValue runs = maxValue ∧
        runs.tail = [] ∧ OrderedFrom maxValue runs := by
    intro runs walk atLimit
    cases runs with
    | nil => exact ⟨rfl, rfl, rfl, trivial⟩
    | cons run rest =>
      obtain ⟨startEq, stopEq, restEq⟩ := walk.eq_of_limit_le (not_lt.mp atLimit)
      subst restEq
      exact ⟨startEq, stopEq, rfl, startEq.ge, walk.start_le_stop, trivial⟩
  obtain ⟨leftDead, rightDead⟩ := not_or.mp dead
  obtain ⟨leftStart, leftStop, leftTail, lOrd⟩ := spent left walkableLeft leftDead
  obtain ⟨rightStart, rightStop, rightTail, rOrd⟩ := spent right walkableRight rightDead
  refine ⟨?_, leftTail, rightTail, fun str mem => ?_⟩
  · simp only [cursors, leftStart, leftStop, rightStart, rightStop, initial]
  · have starts := (lOrd.sweep rOrd).start_le mem
    have ends := stop_le_of_mem_sweep (fun run => walkableLeft.within.stop_le)
      (fun run => walkableRight.within.stop_le) mem
    omega

lemma initial_next : initial.next =
    ⟨.lhsCoincideRhs, maxValue, maxValue, true, true, initial⟩ := rfl

end RegionSweep

end NativeLibs.Ui
