import Mathlib.Algebra.Order.Ring.Int
import Mathlib.Data.List.Basic

/-! # Run-length encodings on the integers

A list of runs describes a partial function on the integers: inside the
half-open interval of a run the function has the value of that run. A canonical
list has no empty run and no two touching runs of equal value; it is determined
by the function it describes. -/

namespace NativeLibs

open List

/-- The value `value` on the half-open interval from `start` to `stop`. -/
structure Run (Value : Type) where
  start : Int
  stop : Int
  value : Value
  deriving DecidableEq, Repr

namespace Run

variable {Value Image : Type} {runs rest : List (Run Value)} {run : Run Value}

def Covers (run : Run Value) (point : Int) : Prop :=
  run.start ≤ point ∧ point < run.stop

instance (run : Run Value) (point : Int) : Decidable (run.Covers point) :=
  inferInstanceAs (Decidable (_ ∧ _))

def lookup : List (Run Value) → Int → Option Value
  | [], _ => none
  | run :: rest, point => if run.Covers point then some run.value else lookup rest point

@[simp] lemma lookup_nil (point : Int) : lookup ([] : List (Run Value)) point = none := rfl

lemma lookup_cons_of_covers (cov : run.Covers point) :
    lookup (run :: rest) point = some run.value := by
  simp [lookup, cov]

lemma lookup_cons_of_not_covers (outside : ¬ run.Covers point) :
    lookup (run :: rest) point = lookup rest point := by
  simp [lookup, outside]

lemma lookup_append (front back : List (Run Value)) (point : Int) :
    lookup (front ++ back) point = (lookup front point).or (lookup back point) := by
  induction front with
  | nil => simp
  | cons run rest ih =>
    by_cases cov : run.Covers point
    · simp [lookup, cov]
    · simp [lookup, cov, ih]

/-! ## Ordered lists -/

/-- The runs follow one another without overlap, none starting before `bound`.
Empty runs and touching runs are allowed. -/
def OrderedFrom (bound : Int) : List (Run Value) → Prop
  | [] => True
  | run :: rest => bound ≤ run.start ∧ run.start ≤ run.stop ∧ OrderedFrom run.stop rest

lemma OrderedFrom.nil (bound : Int) : OrderedFrom bound ([] : List (Run Value)) := trivial

section

variable (ord : OrderedFrom bound runs)
include ord

lemma OrderedFrom.weaken (below : lower ≤ bound) : OrderedFrom lower runs := by
  cases runs with
  | nil => trivial
  | cons run rest => exact ⟨below.trans ord.1, ord.2⟩

lemma OrderedFrom.start_le (mem : run ∈ runs) : bound ≤ run.start := by
  induction runs generalizing bound with
  | nil => cases mem
  | cons head rest ih =>
    obtain ⟨limit, sized, later⟩ := ord
    rcases mem_cons.mp mem with rfl | mem
    · exact limit
    · have := ih later mem
      omega

lemma OrderedFrom.start_le_stop (mem : run ∈ runs) : run.start ≤ run.stop := by
  induction runs generalizing bound with
  | nil => cases mem
  | cons head rest ih =>
    rcases mem_cons.mp mem with rfl | mem
    · exact ord.2.1
    · exact ih ord.2.2 mem

lemma OrderedFrom.lookup_eq_none (old : point < bound) : lookup runs point = none := by
  induction runs generalizing bound with
  | nil => rfl
  | cons run rest ih =>
    obtain ⟨limit, sized, later⟩ := ord
    rw [lookup_cons_of_not_covers fun cov => by
      have := cov.1
      omega]
    exact ih later (by omega)

lemma OrderedFrom.lookup_eq_of_mem (mem : run ∈ runs) (cov : run.Covers point) :
    lookup runs point = some run.value := by
  induction runs generalizing bound with
  | nil => cases mem
  | cons head rest ih =>
    rcases mem_cons.mp mem with rfl | mem
    · exact lookup_cons_of_covers cov
    · rw [lookup_cons_of_not_covers fun headCovers => by
        have later := ord.2.2.start_le mem
        have := headCovers.2
        have := cov.1
        omega]
      exact ih ord.2.2 mem

lemma OrderedFrom.pairwise : runs.Pairwise fun run later => run.stop ≤ later.start := by
  induction runs generalizing bound with
  | nil => exact .nil
  | cons first rest ih =>
    exact .cons (fun later mem => ord.2.2.start_le mem)
      (ih ord.2.2)

lemma OrderedFrom.stop_le_getLast (isLast : runs.getLast? = some last) (mem : run ∈ runs) :
    run.stop ≤ last.stop := by
  induction runs generalizing bound run with
  | nil => cases mem
  | cons first rest ih =>
    cases rest with
    | nil =>
      obtain rfl : first = last := by simpa using isLast
      rw [mem_singleton.mp mem]
    | cons next rest =>
      rw [getLast?_cons_cons] at isLast
      rcases mem_cons.mp mem with rfl | mem
      · have nextLe := ih ord.2.2 isLast mem_cons_self
        have := ord.2.2.1
        have := ord.2.2.2.1
        omega
      · exact ih ord.2.2 isLast mem

end

lemma exists_mem_of_lookup_eq {v : Value} (hit : lookup runs point = some v) :
    ∃ run ∈ runs, run.Covers point ∧ run.value = v := by
  induction runs with
  | nil => simp at hit
  | cons head rest ih =>
    by_cases cov : head.Covers point
    · rw [lookup_cons_of_covers cov] at hit
      exact ⟨head, mem_cons_self, cov, Option.some.inj hit⟩
    · rw [lookup_cons_of_not_covers cov] at hit
      obtain ⟨run, mem, rest⟩ := ih hit
      exact ⟨run, mem_cons_of_mem _ mem, rest⟩

lemma lookup_eq_none_of_stop_le (ends : ∀ run ∈ runs, run.stop ≤ limit) (past : limit ≤ point) :
    lookup runs point = none := by
  cases hit : lookup runs point with
  | none => rfl
  | some v =>
    obtain ⟨run, mem, cov, _⟩ := exists_mem_of_lookup_eq hit
    have := ends run mem
    have := cov.2
    omega

/-! ## Selecting runs -/

def select (image : Value → Option Image) (runs : List (Run Value)) : List (Run Image) :=
  runs.filterMap fun run =>
    if run.start < run.stop then (image run.value).map (Run.mk run.start run.stop) else none

lemma mem_select (mem : selected ∈ select image runs) :
    ∃ run ∈ runs, run.start < run.stop ∧ selected.start = run.start ∧
      selected.stop = run.stop ∧ image run.value = some selected.value := by
  obtain ⟨run, inRuns, mapped⟩ := mem_filterMap.mp mem
  split at mapped
  next ne =>
    obtain ⟨v, imageEq, rfl⟩ := Option.map_eq_some_iff.mp mapped
    exact ⟨run, inRuns, ne, rfl, rfl, imageEq⟩
  next => cases mapped

lemma OrderedFrom.select (ord : OrderedFrom bound runs) :
    OrderedFrom bound (Run.select image runs) := by
  induction runs generalizing bound with
  | nil => trivial
  | cons run rest ih =>
    obtain ⟨limit, sized, later⟩ := ord
    simp only [Run.select, filterMap_cons]
    split
    · exact (ih later).weaken (limit.trans sized)
    next mapped =>
      split at mapped
      next =>
        obtain ⟨v, _, rfl⟩ := Option.map_eq_some_iff.mp mapped
        exact ⟨limit, sized, ih later⟩
      next => cases mapped

lemma lookup_select (ord : OrderedFrom bound runs) (point : Int) :
    lookup (select image runs) point = (lookup runs point).bind image := by
  induction runs generalizing bound with
  | nil => rfl
  | cons run rest ih =>
    obtain ⟨_, _, later⟩ := ord
    have rest := ih later
    by_cases cov : run.Covers point
    · have ne : run.start < run.stop := lt_of_le_of_lt cov.1 cov.2
      rw [lookup_cons_of_covers cov]
      simp only [select, filterMap_cons, ne, if_true] at rest ⊢
      cases mapped : image run.value with
      | none =>
        -- Behind the run nothing covers the point any more.
        simp only [Option.map_none, Option.bind_some, mapped]
        rw [rest, later.lookup_eq_none cov.2]
        rfl
      | some v =>
        simp only [Option.map_some, Option.bind_some, mapped]
        exact lookup_cons_of_covers cov
    · rw [lookup_cons_of_not_covers cov, ← rest]
      simp only [select, filterMap_cons]
      split
      · rfl
      next mapped =>
        split at mapped
        next =>
          obtain ⟨v, _, rfl⟩ := Option.map_eq_some_iff.mp mapped
          exact lookup_cons_of_not_covers cov
        next => cases mapped

/-! ## Canonical lists -/

/-- Ordered, without empty runs, and without touching runs of equal value. -/
def Canonical : List (Run Value) → Prop
  | [] => True
  | [run] => run.start < run.stop
  | run :: next :: rest =>
    run.start < run.stop ∧ run.stop ≤ next.start ∧
      (run.stop = next.start → run.value ≠ next.value) ∧ Canonical (next :: rest)

section

variable (canon : Canonical (run :: rest))
include canon

lemma Canonical.tail : Canonical rest := by
  cases rest with
  | nil => trivial
  | cons next rest => exact canon.2.2.2

lemma Canonical.head_nonempty : run.start < run.stop := by
  cases rest with
  | nil => exact canon
  | cons next rest => exact canon.1

lemma Canonical.ordered_tail : OrderedFrom run.stop rest := by
  induction rest generalizing run with
  | nil => trivial
  | cons next rest ih =>
    exact ⟨canon.2.1, canon.tail.head_nonempty.le, ih canon.tail⟩

lemma Canonical.ordered : OrderedFrom run.start (run :: rest) :=
  ⟨le_refl _, canon.head_nonempty.le, canon.ordered_tail⟩

lemma Canonical.lookup_stop_ne : lookup (run :: rest) run.stop ≠ some run.value := by
  rw [lookup_cons_of_not_covers fun cov => absurd cov.2 (lt_irrefl _)]
  cases rest with
  | nil => simp
  | cons next rest =>
    obtain ⟨_, old, ne, canon⟩ := canon
    by_cases touch : run.stop = next.start
    · rw [lookup_cons_of_covers ⟨touch.ge, touch ▸ canon.head_nonempty⟩]
      exact fun eq => ne touch (Option.some.inj eq).symm
    · rw [canon.ordered.lookup_eq_none (by omega)]
      simp

lemma Canonical.lookup_start : lookup (run :: rest) run.start = some run.value :=
  lookup_cons_of_covers ⟨le_refl _, canon.head_nonempty⟩

end

private lemma Canonical.start_le_of_lookup_eq (lCan : Canonical (left :: leftRest))
    (rCan : Canonical (right :: rightRest))
    (same : ∀ point, lookup (left :: leftRest) point = lookup (right :: rightRest) point) :
    right.start ≤ left.start := by
  by_contra old
  have hit := lCan.lookup_start
  rw [same, rCan.ordered.lookup_eq_none (by omega)] at hit
  cases hit

private lemma Canonical.stop_le_of_lookup_eq (lCan : Canonical (left :: leftRest))
    (sameStart : left.start = right.start) (eqVal : left.value = right.value)
    (same : ∀ point, lookup (left :: leftRest) point = lookup (right :: rightRest) point) :
    right.stop ≤ left.stop := by
  by_contra old
  apply lCan.lookup_stop_ne
  rw [same, eqVal]
  have nonempty := lCan.head_nonempty
  exact lookup_cons_of_covers ⟨by omega, by omega⟩

lemma Canonical.eq_of_lookup_eq : ∀ {left right : List (Run Value)},
    Canonical left → Canonical right →
    (∀ point, lookup left point = lookup right point) → left = right
  | [], [], _, _, _ => rfl
  | [], right :: _, _, rCan, same => by
      have hit := rCan.lookup_start
      rw [← same right.start] at hit
      cases hit
  | left :: _, [], lCan, _, same => by
      have hit := lCan.lookup_start
      rw [same left.start] at hit
      cases hit
  | left :: leftRest, right :: rightRest, lCan, rCan, same => by
      have sameStart : left.start = right.start :=
        le_antisymm (Canonical.start_le_of_lookup_eq rCan lCan fun point =>
            (same point).symm)
          (Canonical.start_le_of_lookup_eq lCan rCan same)
      have eqVal : left.value = right.value := by
        have hit := lCan.lookup_start
        rw [same, sameStart, rCan.lookup_start] at hit
        exact (Option.some.inj hit).symm
      have sameStop : left.stop = right.stop :=
        le_antisymm (Canonical.stop_le_of_lookup_eq rCan sameStart.symm eqVal.symm
            fun point => (same point).symm)
          (Canonical.stop_le_of_lookup_eq lCan sameStart eqVal same)
      have sameHead : left = right := by
        cases left
        cases right
        simp_all
      subst sameHead
      congr 1
      apply Canonical.eq_of_lookup_eq lCan.tail rCan.tail
      intro point
      by_cases old : point < left.stop
      · rw [lCan.ordered_tail.lookup_eq_none old,
          rCan.ordered_tail.lookup_eq_none old]
      · have outside : ¬ left.Covers point := fun cov => old cov.2
        have := same point
        rwa [lookup_cons_of_not_covers outside, lookup_cons_of_not_covers outside] at this

section

variable (canon : Canonical runs)
include canon

lemma Canonical.orderedFrom_of_lookup (undefined : ∀ point < low, lookup runs point = none) :
    OrderedFrom low runs := by
  cases runs with
  | nil => trivial
  | cons run rest =>
    refine canon.ordered.weaken ?_
    by_contra below
    have := undefined run.start (not_le.mp below)
    rw [canon.lookup_start] at this
    cases this

lemma Canonical.nonempty_of_mem (mem : run ∈ runs) : run.start < run.stop := by
  induction runs with
  | nil => cases mem
  | cons first rest ih =>
    rcases mem_cons.mp mem with rfl | mem
    · exact canon.head_nonempty
    · exact ih canon.tail mem

lemma Canonical.lookup_eq_of_mem (mem : run ∈ runs) (cov : run.Covers point) :
    lookup runs point = some run.value := by
  cases runs with
  | nil => cases mem
  | cons first rest => exact canon.ordered.lookup_eq_of_mem mem cov

lemma Canonical.lookup_stop_ne_of_mem (mem : run ∈ runs) :
    lookup runs run.stop ≠ some run.value := by
  induction runs with
  | nil => cases mem
  | cons first rest ih =>
    rcases mem_cons.mp mem with rfl | inT
    · exact canon.lookup_stop_ne
    · have starts := canon.ordered_tail.start_le inT
      have nonempty := canon.tail.nonempty_of_mem inT
      rw [lookup_cons_of_not_covers fun cov => by have := cov.2; omega]
      exact ih canon.tail inT

lemma Canonical.exists_long_run_iff {length : Int} (nonneg : 0 ≤ length) :
    (∃ run ∈ runs, length < run.stop - run.start) ↔
      ∃ v point, ∀ off, 0 ≤ off → off ≤ length →
        lookup runs (point + off) = some v := by
  constructor
  · rintro ⟨run, mem, long⟩
    refine ⟨run.value, run.start, fun off above below => ?_⟩
    exact canon.lookup_eq_of_mem mem ⟨by omega, by omega⟩
  · rintro ⟨v, point, constant⟩
    have hit := constant 0 (le_refl _) nonneg
    obtain ⟨run, mem, cov, rfl⟩ := exists_mem_of_lookup_eq hit
    obtain ⟨starts, ends⟩ := cov
    refine ⟨run, mem, ?_⟩
    by_contra short
    refine canon.lookup_stop_ne_of_mem mem ?_
    have met := constant (run.stop - point) (by omega) (by omega)
    rwa [show point + (run.stop - point) = run.stop by omega] at met

lemma Canonical.stop_le_of_lookup (undefined : ∀ point ≥ limit, lookup runs point = none)
    (mem : run ∈ runs) : run.stop ≤ limit := by
  by_contra past
  have nonempty := canon.nonempty_of_mem mem
  have hit := canon.lookup_eq_of_mem mem
    (show run.Covers (run.stop - 1) from ⟨by omega, by omega⟩)
  rw [undefined (run.stop - 1) (by omega)] at hit
  cases hit

end

/-! ## Appending a run -/

def push [DecidableEq Value] : List (Run Value) → Run Value → List (Run Value)
  | [], run => [run]
  | [last], run =>
    if last.stop = run.start ∧ last.value = run.value then [{ last with stop := run.stop }]
    else [last, run]
  | first :: next :: rest, run => first :: push (next :: rest) run

lemma push_ne_nil [DecidableEq Value] (runs : List (Run Value)) (run : Run Value) :
    push runs run ≠ [] := by
  cases runs with
  | nil => simp [push]
  | cons last rest =>
    cases rest with
    | nil => simp only [push]; split <;> simp
    | cons next rest => simp [push]

lemma push_concat [DecidableEq Value] (front : List (Run Value)) (last run : Run Value) :
    push (front ++ [last]) run = if last.stop = run.start ∧ last.value = run.value then
        front ++ [{ last with stop := run.stop }]
      else front ++ [last] ++ [run] := by
  induction front with
  | nil => rfl
  | cons first rest ih =>
    have shape : ∃ next others, rest ++ [last] = next :: others := by
      cases rest with
      | nil => exact ⟨last, [], rfl⟩
      | cons next others => exact ⟨next, others ++ [last], rfl⟩
    obtain ⟨next, others, eq⟩ := shape
    rw [cons_append, eq, push, ← eq, ih]
    split <;> simp

lemma lookup_push [DecidableEq Value] (canon : Canonical runs)
    (ends : ∀ other ∈ runs, other.stop ≤ run.start) (ne : run.start < run.stop)
    (point : Int) : lookup (push runs run) point = (lookup runs point).or (lookup [run] point) := by
  induction runs with
  | nil => simp [push]
  | cons first rest ih =>
    cases rest with
    | nil =>
      have firstNonempty := canon.head_nonempty
      have firstEnds := ends first mem_cons_self
      simp only [push]
      split
      next touch =>
        obtain ⟨touch, eqVal⟩ := touch
        have firstGrows : first.stop < run.stop := touch ▸ ne
        have firstBefore : first.start < run.start := touch ▸ firstNonempty
        have extended : lookup [{ first with stop := run.stop }] point =
            if first.start ≤ point ∧ point < run.stop then some first.value else none :=
          rfl
        rw [extended]
        by_cases inFirst : first.Covers point
        · rw [lookup_cons_of_covers inFirst, if_pos ⟨inFirst.1, lt_trans inFirst.2 firstGrows⟩]
          rfl
        · rw [lookup_cons_of_not_covers inFirst]
          by_cases inRun : run.Covers point
          · rw [lookup_cons_of_covers inRun,
              if_pos ⟨le_trans firstBefore.le inRun.1, inRun.2⟩, eqVal]
            rfl
          · rw [lookup_cons_of_not_covers inRun, if_neg]
            · rfl
            · intro cov
              simp only [Covers] at inFirst inRun
              omega
      next => exact lookup_append [first] [run] point
    | cons next rest =>
      have later := ih canon.tail fun other mem =>
        ends other (mem_cons_of_mem _ mem)
      simp only [push]
      by_cases cov : first.Covers point
      · rw [lookup_cons_of_covers cov, lookup_cons_of_covers cov]
        rfl
      · rw [lookup_cons_of_not_covers cov, later, lookup_cons_of_not_covers cov]

private lemma push_cons_head [DecidableEq Value] (first : Run Value)
    (rest : List (Run Value)) (run : Run Value) :
    ∃ head tail, push (first :: rest) run = head :: tail ∧
      head.start = first.start ∧ head.value = first.value := by
  cases rest with
  | nil =>
    simp only [push]
    split
    next => exact ⟨_, _, rfl, rfl, rfl⟩
    next => exact ⟨_, _, rfl, rfl, rfl⟩
  | cons next rest => exact ⟨_, _, rfl, rfl, rfl⟩

lemma Canonical.push [DecidableEq Value] (canon : Canonical runs)
    (ends : ∀ other ∈ runs, other.stop ≤ run.start) (notNil : run.start < run.stop) :
    Canonical (Run.push runs run) := by
  induction runs with
  | nil => exact notNil
  | cons first rest ih =>
    have firstEnds := ends first mem_cons_self
    have firstNonempty := canon.head_nonempty
    cases rest with
    | nil =>
      simp only [Run.push]
      split
      next => exact (by omega : first.start < run.stop)
      next apart =>
        exact ⟨firstNonempty, firstEnds, fun touch eqVal =>
          apart ⟨touch, eqVal⟩, notNil⟩
    | cons next rest =>
      have later := ih canon.tail fun other mem =>
        ends other (mem_cons_of_mem _ mem)
      obtain ⟨head, tail, shape, sameStart, eqVal⟩ := push_cons_head next rest run
      simp only [Run.push]
      rw [shape] at later ⊢
      obtain ⟨_, old, ne, _⟩ := canon
      exact ⟨firstNonempty, sameStart ▸ old,
        fun touch => eqVal ▸ ne (touch.trans sameStart), later⟩

lemma stop_le_of_mem_push [DecidableEq Value]
    (ends : ∀ previous ∈ runs, previous.stop ≤ run.start) (ne : run.start < run.stop)
    (mem : other ∈ push runs run) : other.stop ≤ run.stop := by
  induction runs with
  | nil =>
    simp only [push, mem_singleton] at mem
    exact mem ▸ le_refl _
  | cons first rest ih =>
    have firstEnds := ends first mem_cons_self
    cases rest with
    | nil =>
      simp only [push] at mem
      split at mem
      next => simp_all
      next =>
        simp only [mem_cons, not_mem_nil, or_false] at mem
        rcases mem with eq | eq <;> subst eq <;> omega
    | cons next rest =>
      rcases mem_cons.mp mem with rfl | mem
      · omega
      · exact ih (fun previous inT =>
          ends previous (mem_cons_of_mem _ inT)) mem

/-! ## Joining the runs of a list -/

def coalesce [DecidableEq Value] (runs : List (Run Value)) : List (Run Value) :=
  runs.foldl push []

lemma coalesce_ne_nil [DecidableEq Value] (ne : runs ≠ []) : coalesce runs ≠ [] := by
  rcases eq_nil_or_concat' runs with rfl | ⟨front, last, rfl⟩
  · exact absurd rfl ne
  · rw [coalesce, foldl_append]
    exact push_ne_nil _ _

private lemma foldl_push [DecidableEq Value] (canon : Canonical runs)
    (ends : ∀ run ∈ runs, run.stop ≤ bound) (ord : OrderedFrom bound later)
    (ne : ∀ run ∈ later, run.start < run.stop) :
    Canonical (later.foldl push runs) ∧ ∀ point, lookup (later.foldl push runs) point =
        (lookup runs point).or (lookup later point) := by
  induction later generalizing runs bound with
  | nil => exact ⟨canon, by simp⟩
  | cons run rest ih =>
    have runNonempty := ne run mem_cons_self
    have endsBefore : ∀ other ∈ runs, other.stop ≤ run.start := fun other mem =>
      (ends other mem).trans ord.1
    obtain ⟨restCanonical, restLookup⟩ := ih (canon.push endsBefore runNonempty)
      (fun other mem => stop_le_of_mem_push endsBefore runNonempty mem)
      ord.2.2 (fun other mem => ne other (mem_cons_of_mem _ mem))
    refine ⟨restCanonical, fun point => ?_⟩
    rw [foldl_cons, restLookup, lookup_push canon endsBefore runNonempty,
      Option.or_assoc, ← lookup_append, singleton_append]

lemma coalesce_canonical [DecidableEq Value] (ord : OrderedFrom bound runs)
    (ne : ∀ run ∈ runs, run.start < run.stop) : Canonical (coalesce runs) :=
  (foldl_push (show Canonical [] from trivial) (by simp) ord ne).1

lemma lookup_coalesce [DecidableEq Value] (ord : OrderedFrom bound runs)
    (ne : ∀ run ∈ runs, run.start < run.stop) (point : Int) :
    lookup (coalesce runs) point = lookup runs point := by
  have joined := (foldl_push (show Canonical [] from trivial) (by simp) ord ne).2
    point
  simpa [coalesce] using joined

lemma select_canonical [DecidableEq Image] (image : Value → Option Image)
    (ord : OrderedFrom bound runs) : Canonical (coalesce (select image runs)) :=
  coalesce_canonical ord.select fun _ mem => by
    obtain ⟨run, _, ne, startEq, stopEq, _⟩ := mem_select mem
    omega

lemma lookup_coalesce_select [DecidableEq Image] (image : Value → Option Image)
    (ord : OrderedFrom bound runs) (point : Int) :
    lookup (coalesce (select image runs)) point = (lookup runs point).bind image := by
  rw [← lookup_select ord]
  refine lookup_coalesce ord.select (fun _ mem => ?_) point
  obtain ⟨run, _, ne, startEq, stopEq, _⟩ := mem_select mem
  omega

end Run

end NativeLibs
