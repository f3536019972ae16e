import NativeLibs.Foundation.RunLength

/-! # Sweeping two run lists

A sweep walks two ordered run lists at once and cuts the line into stretches
that lie in a run of the left list, in a run of the right list, or in one of
each. -/

namespace NativeLibs

open List

inductive Side
  | left
  | right
  | both
  deriving DecidableEq, Repr

def Side.onLeft : Side → Bool
  | .right => false
  | _ => true

def Side.onRight : Side → Bool
  | .left => false
  | _ => true

/-- A stretch of a sweep records the run that each cursor stands on. On a
`left` stretch the right cursor stands on the next run to come, if there is
one. -/
structure Overlap (Left Right : Type) where
  side : Side
  left : Option Left
  right : Option Right
  deriving DecidableEq, Repr

namespace Run

variable {Left Right Value : Type} {str : Run (Overlap Left Right)}

/-- An upper bound for the number of stretches: each run ends once, and a
cursor is moved up to the start of the other one at most once per end. -/
def sweepMeasure (left : List (Run Left)) (right : List (Run Right)) : Nat :=
  2 * (left.length + right.length) + match left, right with
    | first :: _, other :: _ => if first.start = other.start then 0 else 1
    | _, _ => 0

lemma sweepMeasure_le (left : List (Run Left)) (right : List (Run Right)) :
    sweepMeasure left right ≤ 2 * (left.length + right.length) + 1 := by
  unfold sweepMeasure
  split
  · split <;> omega
  · omega

lemma sweepMeasure_lt_of_length
    (less : left'.length + right'.length < left.length + right.length) :
    sweepMeasure left' right' < sweepMeasure left right := by
  have upper := sweepMeasure_le left' right'
  have lower : 2 * (left.length + right.length) ≤ sweepMeasure left right := Nat.le_add_right _ _
  omega

def sweep (left : List (Run Left)) (right : List (Run Right)) :
    List (Run (Overlap Left Right)) :=
  match left, right with
  | [], [] => []
  | first :: rest, [] => ⟨first.start, first.stop, .left, some first.value, none⟩ :: sweep rest []
  | [], other :: others =>
    ⟨other.start, other.stop, .right, none, some other.value⟩ :: sweep [] others
  | first :: rest, other :: others =>
    if first.start < other.start then
      if first.stop ≤ other.start then
        ⟨first.start, first.stop, .left, some first.value, some other.value⟩ ::
          sweep rest (other :: others)
      else
        ⟨first.start, other.start, .left, some first.value, some other.value⟩ ::
          sweep ({ first with start := other.start } :: rest) (other :: others)
    else if other.start < first.start then
      if other.stop ≤ first.start then
        ⟨other.start, other.stop, .right, some first.value, some other.value⟩ ::
          sweep (first :: rest) others
      else
        ⟨other.start, first.start, .right, some first.value, some other.value⟩ ::
          sweep (first :: rest) ({ other with start := first.start } :: others)
    else if first.stop < other.stop then
      ⟨first.start, first.stop, .both, some first.value, some other.value⟩ ::
        sweep rest ({ other with start := first.stop } :: others)
    else if other.stop < first.stop then
      ⟨first.start, other.stop, .both, some first.value, some other.value⟩ ::
        sweep ({ first with start := other.stop } :: rest) others
    else
      ⟨first.start, first.stop, .both, some first.value, some other.value⟩ ::
        sweep rest others
termination_by sweepMeasure left right
decreasing_by
  any_goals
    apply sweepMeasure_lt_of_length
    simp only [length_cons]
    omega
  · simp only [sweepMeasure, length_cons, if_true]
    split <;> omega
  · simp only [sweepMeasure, length_cons, if_true]
    split <;> omega

/-! ## One stretch -/

/-- What a stretch does to a cursor: it stays at the end or on a run to come, or the stretch lies in
its run, and it moves up inside the run or passes it. -/
inductive Step (start stop : Int) : Bool → List (Run Value) → List (Run Value) → Prop
  | ended : Step start stop false [] []
  | waits {run : Run Value} {rest : List (Run Value)} (starts : start < run.start)
      (ends : stop ≤ run.start) : Step start stop false (run :: rest) (run :: rest)
  | resumes {run : Run Value} {rest : List (Run Value)} (starts : run.start = start)
      (ends : stop < run.stop) :
      Step start stop true (run :: rest) ({ run with start := stop } :: rest)
  | passes {run : Run Value} {rest : List (Run Value)} (starts : run.start = start)
      (ends : run.stop = stop) : Step start stop true (run :: rest) rest

lemma Step.ordered {low stop : Int} (step : Step low stop on runs rest)
    (ord : OrderedFrom bound runs) :
    OrderedFrom low runs ∧ OrderedFrom stop rest ∧ (on = true → bound ≤ low) := by
  cases step with
  | ended => exact ⟨trivial, trivial, by simp⟩
  | waits starts ends => exact ⟨⟨starts.le, ord.2⟩, ⟨ends, ord.2⟩, by simp⟩
  | resumes starts ends =>
    exact ⟨⟨starts.ge, ord.2⟩, ⟨le_refl _, ends.le, ord.2.2⟩, fun _ => starts ▸ ord.1⟩
  | passes starts ends =>
    exact ⟨⟨starts.ge, ord.2⟩, ends ▸ ord.2.2, fun _ => starts ▸ ord.1⟩

/-- A sweep begins with this stretch, and goes on with other cursors. -/
structure Cuts (start stop : Int) (side : Side) (left left' : List (Run Left))
    (right right' : List (Run Right)) : Prop where
  sized : start ≤ stop
  onLeft : Step start stop side.onLeft left left'
  onRight : Step start stop side.onRight right right'
  sweep_eq : sweep left right =
    ⟨start, stop, side, left.head?.map Run.value, right.head?.map Run.value⟩ :: sweep left' right'

/-- What is true of two empty lists, and before a stretch if it is true behind it, is true of
any two ordered lists. -/
lemma sweep_induction {motive : List (Run Left) → List (Run Right) → Prop} (ended : motive [] [])
    (cuts : ∀ {low stop side left left' right right' bound},
      Cuts low stop side left left' right right' → OrderedFrom bound left →
        OrderedFrom bound right → motive left' right' → motive left right)
    (lOrd : OrderedFrom bound left) (rOrd : OrderedFrom bound right) : motive left right := by
  have goesOn {low stop left left' right right' bound} (side : Side)
      (cut : Cuts low stop side left left' right right')
      (lOrd : OrderedFrom bound left) (rOrd : OrderedFrom bound right)
      (later : ∀ {bound}, OrderedFrom bound left' → OrderedFrom bound right' →
        motive left' right') : motive left right :=
    cuts cut lOrd rOrd (later (cut.onLeft.ordered lOrd).2.1 (cut.onRight.ordered rOrd).2.1)
  fun_induction sweep left right generalizing bound with
  | case1 => exact ended
  | case2 first rest ih =>
    exact goesOn .left ⟨lOrd.2.1, .passes rfl rfl, .ended, by rw [sweep]; rfl⟩ lOrd
      rOrd ih
  | case3 other others ih =>
    exact goesOn .right ⟨rOrd.2.1, .ended, .passes rfl rfl, by rw [sweep]; rfl⟩ lOrd
      rOrd ih
  | case4 first rest other others old ends ih =>
    exact goesOn .left ⟨lOrd.2.1, .passes rfl rfl, .waits old ends,
      by rw [sweep, if_pos old, if_pos ends]; rfl⟩ lOrd rOrd ih
  | case5 first rest other others old overlaps ih =>
    exact goesOn .left ⟨old.le, .resumes rfl (not_le.mp overlaps), .waits old (le_refl _),
      by rw [sweep, if_pos old, if_neg overlaps]; rfl⟩ lOrd rOrd ih
  | case6 first rest other others late old ends ih =>
    exact goesOn .right ⟨rOrd.2.1, .waits old ends, .passes rfl rfl,
      by rw [sweep, if_neg late, if_pos old, if_pos ends]; rfl⟩ lOrd rOrd
      ih
  | case7 first rest other others late old overlaps ih =>
    exact goesOn .right ⟨old.le, .waits old (le_refl _), .resumes rfl (not_le.mp overlaps),
      by rw [sweep, if_neg late, if_pos old, if_neg overlaps]; rfl⟩ lOrd
      rOrd ih
  | case8 first rest other others late early less ih =>
    exact goesOn .both ⟨lOrd.2.1, .passes rfl rfl, .resumes (by omega) less,
      by rw [sweep, if_neg late, if_neg early, if_pos less]; rfl⟩ lOrd
      rOrd ih
  | case9 first rest other others late early notShorter less ih =>
    have sized : first.start ≤ other.stop := by
      have := rOrd.2.1
      omega
    exact goesOn .both ⟨sized, .resumes rfl less, .passes (by omega) rfl,
      by rw [sweep, if_neg late, if_neg early, if_neg notShorter, if_pos less]; rfl⟩
      lOrd rOrd ih
  | case10 first rest other others late early notShorter notLonger ih =>
    exact goesOn .both ⟨lOrd.2.1, .passes rfl rfl, .passes (by omega) (by omega),
      by rw [sweep, if_neg late, if_neg early, if_neg notShorter, if_neg notLonger]; rfl⟩
      lOrd rOrd ih

lemma OrderedFrom.sweep (lOrd : OrderedFrom bound left)
    (rOrd : OrderedFrom bound right) : OrderedFrom bound (Run.sweep left right) := by
  refine sweep_induction (motive := fun left right => ∀ bound, OrderedFrom bound left →
    OrderedFrom bound right → OrderedFrom bound (Run.sweep left right)) (fun _ _ _ => by rw [Run.sweep]; trivial) ?_
    lOrd rOrd bound lOrd rOrd
  intro low stop side left left' right right' _ cut _ _ later bound lOrd rOrd
  rcases cut.onLeft.ordered lOrd with ⟨_, leftLater, leftBound⟩
  rcases cut.onRight.ordered rOrd with ⟨_, rightLater, rightBound⟩
  rw [cut.sweep_eq]
  refine ⟨?_, cut.sized, later _ leftLater rightLater⟩
  cases side with
  | left => exact leftBound rfl
  | right => exact rightBound rfl
  | both => exact leftBound rfl

lemma stop_le_of_mem_sweep (leftEnds : ∀ run ∈ left, run.stop ≤ bound)
    (rightEnds : ∀ run ∈ right, run.stop ≤ bound) (mem : str ∈ sweep left right) :
    str.stop ≤ bound := by
  fun_induction sweep left right with
  | case1 => cases mem
  | case2 | case3 | case4 | case5 | case6 | case7 | case8 | case9 | case10 =>
    simp only [forall_mem_cons] at leftEnds rightEnds
    rcases mem_cons.mp mem with rfl | mem
    · simp only
      omega
    · apply_assumption <;> simp_all

lemma mem_of_mem_sweep (mem : str ∈ sweep left right) :
    (∀ v, str.value.left = some v → ∃ run ∈ left, run.value = v) ∧
      ∀ v, str.value.right = some v → ∃ run ∈ right, run.value = v := by
  fun_induction sweep left right with
  | case1 => cases mem
  | case2 | case3 | case4 | case5 | case6 | case7 | case8 | case9 | case10 =>
    rename_i ih
    rcases mem_cons.mp mem with rfl | mem
    · simp
    · have later := ih mem
      simp_all

/-! ## What a stretch says about the two lists -/

/-- The value of the first run that starts beyond the point. -/
def nextAfter (runs : List (Run Value)) (point : Int) : Option Value :=
  (runs.find? fun run => point < run.start).map Run.value

lemma nextAfter_cons_of_lt (old : point < run.start) :
    nextAfter (run :: rest) point = some run.value := by
  simp [nextAfter, old]

lemma nextAfter_cons_of_le (met : run.start ≤ point) :
    nextAfter (run :: rest) point = nextAfter rest point := by
  simp [nextAfter, not_lt.mpr met]

lemma nextAfter_eq_some {v : Value} (ord : OrderedFrom bound runs)
    (next : nextAfter runs point = some v) :
    ∃ run ∈ runs, point < run.start ∧ run.value = v ∧
      ∀ other ∈ runs, point < other.start → run.start ≤ other.start := by
  induction runs generalizing bound with
  | nil => cases next
  | cons first rest ih =>
    obtain ⟨_, sized, later⟩ := ord
    by_cases past : point < first.start
    · rw [nextAfter_cons_of_lt past] at next
      refine ⟨first, mem_cons_self, past, Option.some.inj next, ?_⟩
      intro other mem _
      rcases mem_cons.mp mem with eq | mem
      · rw [eq]
      · exact sized.trans (later.start_le mem)
    · rw [nextAfter_cons_of_le (not_lt.mp past)] at next
      obtain ⟨run, mem, starts, valueEq, least⟩ := ih later next
      refine ⟨run, mem_cons_of_mem _ mem, starts, valueEq, ?_⟩
      intro other also otherStarts
      rcases mem_cons.mp also with eq | also
      · rw [eq] at otherStarts
        exact absurd otherStarts past
      · exact least other also otherStarts

lemma exists_nextAfter (mem : run ∈ runs) (starts : point < run.start) :
    ∃ v, nextAfter runs point = some v := by
  have : (runs.find? fun run => point < run.start).isSome := by
    rw [find?_isSome]
    exact ⟨run, mem, by simpa using starts⟩
  obtain ⟨hit, eq⟩ := Option.isSome_iff_exists.mp this
  exact ⟨hit.value, by rw [nextAfter, eq]; rfl⟩

def overlapAt (left : List (Run Left)) (right : List (Run Right)) (point : Int) :
    Option (Overlap Left Right) :=
  match lookup left point, lookup right point with
  | none, none => none
  | some value, none => some ⟨.left, some value, nextAfter right point⟩
  | none, some other => some ⟨.right, nextAfter left point, some other⟩
  | some value, some other => some ⟨.both, some value, some other⟩

lemma overlapAt_of_left {v : Left} (inLeft : lookup left point = some v)
    (noRight : lookup right point = none) :
    overlapAt left right point = some ⟨.left, some v, nextAfter right point⟩ := by
  simp [overlapAt, inLeft, noRight]

lemma overlapAt_of_right {v : Right} (noLeft : lookup left point = none)
    (inR : lookup right point = some v) :
    overlapAt left right point = some ⟨.right, nextAfter left point, some v⟩ := by
  simp [overlapAt, noLeft, inR]

lemma overlapAt_of_both {v : Left} (inLeft : lookup left point = some v)
    (inR : lookup right point = some other) :
    overlapAt left right point = some ⟨.both, some v, some other⟩ := by
  simp [overlapAt, inLeft, inR]

lemma overlapAt_eq_none (noLeft : lookup left point = none)
    (noRight : lookup right point = none) : overlapAt left right point = none := by
  simp [overlapAt, noLeft, noRight]

private lemma lookup_cons_of_stop_le (passed : run.stop ≤ point) :
    lookup (run :: rest) point = lookup rest point :=
  lookup_cons_of_not_covers fun cov => absurd cov.2 (not_lt.mpr passed)

lemma Step.same_behind {low stop : Int} (step : Step low stop on runs rest)
    (sized : low ≤ stop) (behind : stop ≤ point) :
    lookup runs point = lookup rest point ∧ nextAfter runs point = nextAfter rest point := by
  cases step with
  | ended => exact ⟨rfl, rfl⟩
  | waits starts ends => exact ⟨rfl, rfl⟩
  | @resumes run rest starts ends =>
    have met : run.start ≤ point := starts.trans_le (sized.trans behind)
    refine ⟨by simp [lookup, Covers, met, behind], ?_⟩
    rw [nextAfter_cons_of_le met, nextAfter_cons_of_le (by exact behind)]
  | passes starts ends =>
    exact ⟨lookup_cons_of_stop_le (ends.trans_le behind),
      nextAfter_cons_of_le (starts.trans_le (sized.trans behind))⟩

lemma Step.inside {low stop : Int} (step : Step low stop on runs rest)
    (ord : OrderedFrom bound runs) (after : low ≤ point) (old : point < stop) :
    if on then ∃ v, runs.head?.map Run.value = some v ∧ lookup runs point = some v
    else lookup runs point = none ∧ nextAfter runs point = runs.head?.map Run.value := by
  cases step with
  | ended => exact ⟨rfl, rfl⟩
  | @waits run rest starts ends =>
    have past : point < run.start := lt_of_lt_of_le old ends
    have fromRun : OrderedFrom run.start (run :: rest) := ⟨le_refl _, ord.2⟩
    exact ⟨fromRun.lookup_eq_none past, nextAfter_cons_of_lt past⟩
  | resumes starts ends =>
    exact ⟨_, rfl, lookup_cons_of_covers ⟨starts.trans_le after, old.trans ends⟩⟩
  | passes starts ends =>
    exact ⟨_, rfl, lookup_cons_of_covers ⟨starts.trans_le after, old.trans_eq ends.symm⟩⟩

/-- A sweep of two ordered lists reports at every point which of the lists the
point lies in, and the values there. -/
lemma lookup_sweep (lOrd : OrderedFrom bound left) (rOrd : OrderedFrom bound right)
    (point : Int) : lookup (sweep left right) point = overlapAt left right point := by
  refine sweep_induction (motive := fun left right =>
    lookup (sweep left right) point = overlapAt left right point) (by rw [sweep]; rfl) ?_
    lOrd rOrd
  intro low stop side left left' right right' bound cut lOrd rOrd later
  have fromLeft := (cut.onLeft.ordered lOrd).1
  have fromRight := (cut.onRight.ordered rOrd).1
  by_cases isBefore : point < low
  · rw [(fromLeft.sweep fromRight).lookup_eq_none isBefore,
      overlapAt_eq_none (fromLeft.lookup_eq_none isBefore) (fromRight.lookup_eq_none isBefore)]
  rw [cut.sweep_eq]
  by_cases isInside : point < stop
  · have onLeft := cut.onLeft.inside lOrd (not_lt.mp isBefore) isInside
    have onRight := cut.onRight.inside rOrd (not_lt.mp isBefore) isInside
    rw [lookup_cons_of_covers ⟨not_lt.mp isBefore, isInside⟩]
    cases side with
    | left =>
      rcases onLeft with ⟨v, head, hit⟩
      rw [overlapAt_of_left hit onRight.1, head, onRight.2]
    | right =>
      rcases onRight with ⟨v, head, hit⟩
      rw [overlapAt_of_right onLeft.1 hit, head, onLeft.2]
    | both =>
      rcases onLeft with ⟨v, head, hit⟩
      rcases onRight with ⟨other, isOther, foundOther⟩
      rw [overlapAt_of_both hit foundOther, head, isOther]
  · have passed := not_lt.mp isInside
    rcases cut.onLeft.same_behind cut.sized passed with ⟨sameLeft, nextLeft⟩
    rcases cut.onRight.same_behind cut.sized passed with ⟨sameRight, nextRight⟩
    rw [lookup_cons_of_stop_le passed, later]
    simp only [overlapAt, sameLeft, sameRight, nextLeft, nextRight]

end Run

/-! ## Cursors with a sentinel

A cursor walks an ordered run list that ends at or before a limit. When the
list is used up the cursor stands at the limit, so the limit also serves as the
mark for "nothing left". -/

namespace Run

variable {Value : Type}

/-- Every run ends at or before the limit, and only the last one may start
there. A cursor that has reached the limit is then at the end of the list. -/
def EndsWithin (limit : Int) : List (Run Value) → Prop
  | [] => True
  | [run] => run.stop ≤ limit
  | run :: next :: rest => run.start < limit ∧ run.stop ≤ limit ∧ EndsWithin limit (next :: rest)

namespace EndsWithin

variable {rest : List (Run Value)} {run : Run Value}

section

variable (within : EndsWithin limit (run :: rest))
include within

lemma tail : EndsWithin limit rest := by
  cases rest with
  | nil => trivial
  | cons next rest => exact within.2.2

lemma head_stop : run.stop ≤ limit := by
  cases rest with
  | nil => exact within
  | cons next rest => exact within.2.1

lemma tail_eq_nil (atLimit : limit ≤ run.start) : rest = [] := by
  cases rest with
  | nil => rfl
  | cons next rest => exact absurd within.1 (not_lt.mpr atLimit)

end

lemma stop_le (within : EndsWithin limit runs) (mem : run ∈ runs) : run.stop ≤ limit := by
  induction runs with
  | nil => cases mem
  | cons first rest ih =>
    rcases List.mem_cons.mp mem with rfl | mem
    · exact within.head_stop
    · exact ih within.tail mem

lemma restart {low : Int} (within : EndsWithin limit (run :: rest))
    (mem : low < run.stop) : EndsWithin limit ({ run with start := low } :: rest) := by
  cases rest with
  | nil => exact within
  | cons next rest => exact ⟨lt_of_lt_of_le mem within.2.1, within.2.1, within.2.2⟩

end EndsWithin

/-! ## Cursor positions -/

variable (limit : Int)

def cursorStart : List (Run Value) → Int
  | [] => limit
  | run :: _ => run.start

def cursorStop : List (Run Value) → Int
  | [] => limit
  | run :: _ => run.stop

@[simp] lemma cursorStart_nil : cursorStart limit ([] : List (Run Value)) = limit := rfl

@[simp] lemma cursorStart_cons (run : Run Value) (rest : List (Run Value)) :
    cursorStart limit (run :: rest) = run.start := rfl

@[simp] lemma cursorStop_nil : cursorStop limit ([] : List (Run Value)) = limit := rfl

@[simp] lemma cursorStop_cons (run : Run Value) (rest : List (Run Value)) :
    cursorStop limit (run :: rest) = run.stop := rfl

structure Walkable (low limit : Int) (runs : List (Run Value)) : Prop where
  ordered : OrderedFrom low runs
  within : EndsWithin limit runs

namespace Walkable

variable {limit : Int} {run : Run Value} {rest : List (Run Value)}

lemma nil : Walkable low limit ([] : List (Run Value)) := ⟨.nil low, trivial⟩

section

variable (walk : Walkable low limit (run :: rest))
include walk

lemma low_le : low ≤ run.start := walk.ordered.1

lemma start_le_stop : run.start ≤ run.stop :=
  walk.ordered.2.1

lemma stop_le : run.stop ≤ limit :=
  walk.within.head_stop

end

lemma tail (walk : Walkable low limit runs) : Walkable low limit runs.tail := by
  cases runs with
  | nil => exact nil
  | cons run rest =>
    have below : low ≤ run.stop := walk.low_le.trans walk.start_le_stop
    exact ⟨walk.ordered.2.2.weaken below, walk.within.tail⟩

variable (walk : Walkable low limit (run :: rest))
include walk

lemma eq_of_limit_le (atLimit : limit ≤ run.start) :
    run.start = limit ∧ run.stop = limit ∧ rest = [] := by
  have sized := walk.start_le_stop
  have ends := walk.stop_le
  exact ⟨by omega, by omega, walk.within.tail_eq_nil atLimit⟩

lemma restart {start : Int} (above : low ≤ start) (mem : start < run.stop) :
    Walkable low limit ({ run with start := start } :: rest) :=
  ⟨⟨above, mem.le, walk.ordered.2.2⟩, walk.within.restart mem⟩

end Walkable

end Run

end NativeLibs
