import Mathlib.Algebra.BigOperators.Group.List.Basic
import Mathlib.Data.List.MinMax
import Mathlib.Algebra.Order.Ring.Int

/-! # The items of a cache

`loadItems` walks over the directories of an app and keeps an item for each entry, or one for a
whole directory that is a group. Every directory gets the time of what is newest below it. -/

namespace NativeLibs.Cmds.CacheTracker

open List

/-- The entries of a directory, in the order of the walk. -/
inductive Forest
  | nil
  | file (mtime : Int) (siblings : Forest)
  | directory (mtime : Int) (group : Bool) (children siblings : Forest)

structure CacheItem where
  level : Nat
  directory : Bool
  modified : Int

def collect (modified : Int) : Forest → Int
  | .nil => modified
  | .file mtime siblings => collect (max modified mtime) siblings
  | .directory mtime _ children siblings =>
    collect (collect (max modified mtime) children) siblings

/-- The items of the entries, and what they make of the time of the directory they are in. -/
def loadItemsFrom (level : Nat) (parent : Int) : Forest → List CacheItem × Int
  | .nil => ([], parent)
  | .file mtime siblings =>
    let later := loadItemsFrom level (max parent mtime) siblings
    (⟨level, false, mtime⟩ :: later.1, later.2)
  | .directory mtime true children siblings =>
    let modified := collect mtime children
    let later := loadItemsFrom level (max parent modified) siblings
    (⟨level, true, modified⟩ :: later.1, later.2)
  | .directory mtime false children siblings =>
    let inner := loadItemsFrom (level + 1) mtime children
    let later := loadItemsFrom level (max parent inner.2) siblings
    (⟨level, true, inner.2⟩ :: inner.1 ++ later.1, later.2)

/-- Each tracked directory with each tracked item below it. -/
def below (level : Nat) (parent : Int) : Forest → List (CacheItem × CacheItem)
  | .nil => []
  | .file mtime siblings => below level (max parent mtime) siblings
  | .directory mtime true children siblings =>
    below level (max parent (collect mtime children)) siblings
  | .directory mtime false children siblings =>
    let inner := loadItemsFrom (level + 1) mtime children
    inner.1.map (⟨level, true, inner.2⟩, ·) ++ below (level + 1) mtime children ++
      below level (max parent inner.2) siblings

lemma mem_loadItemsFrom_of_below (level : Nat) (parent : Int) (forest : Forest) :
    ∀ pair ∈ below level parent forest, pair.1 ∈ (loadItemsFrom level parent forest).1 ∧
      pair.2 ∈ (loadItemsFrom level parent forest).1 := by
  fun_induction below with
  | case1 => simp
  | case2 level parent mtime siblings ih | case3 level parent mtime children siblings ih =>
    intro pair mem
    exact (ih pair mem).imp (.tail _) (.tail _)
  | case4 level parent mtime children siblings inner ihChildren ihSiblings =>
    simp only [loadItemsFrom, cons_append, mem_cons, mem_append]
    rintro pair ((mem | mem) | mem)
    · rcases mem_map.1 mem with ⟨item, isItem, rfl⟩
      exact ⟨.inl rfl, .inr (.inl isItem)⟩
    · exact (ihChildren pair mem).imp (.inr ∘ .inl) (.inr ∘ .inl)
    · exact (ihSiblings pair mem).imp (.inr ∘ .inr) (.inr ∘ .inr)

/-- Newer first, then the smaller level. -/
def Before (left right : CacheItem) : Prop :=
  right.modified < left.modified ∨ left.modified = right.modified ∧ left.level < right.level

lemma bubbled_cons (item : CacheItem) {later : List CacheItem × Int} {parent : Int}
    (ih : max parent item.modified ≤ later.2 ∧
      ∀ other ∈ later.1, other.modified ≤ later.2 ∧ item.level ≤ other.level) :
    parent ≤ later.2 ∧
      ∀ other ∈ item :: later.1, other.modified ≤ later.2 ∧ item.level ≤ other.level := by
  rcases ih with ⟨bubbled, all⟩
  refine ⟨(le_max_left _ _).trans bubbled, forall_mem_cons.2 ⟨⟨?_, Nat.le_refl _⟩, all⟩⟩
  exact (le_max_right _ _).trans bubbled

lemma loadItemsFrom_spec (level : Nat) (parent : Int) (forest : Forest) :
    parent ≤ (loadItemsFrom level parent forest).2 ∧
      ∀ item ∈ (loadItemsFrom level parent forest).1,
        item.modified ≤ (loadItemsFrom level parent forest).2 ∧ level ≤ item.level := by
  fun_induction loadItemsFrom with
  | case1 => simp
  | case2 level parent mtime siblings later ih =>
    exact bubbled_cons ⟨level, false, mtime⟩ ih
  | case3 level parent mtime children siblings modified later ih =>
    exact bubbled_cons ⟨level, true, modified⟩ ih
  | case4 level parent mtime children siblings inner later ihInner ih =>
    have spec := bubbled_cons ⟨level, true, inner.2⟩ ih
    rcases forall_mem_cons.1 spec.2 with ⟨atTop, all⟩
    refine ⟨spec.1, forall_mem_cons.2 ⟨atTop, forall_mem_append.2 ⟨fun item mem => ?_, all⟩⟩⟩
    rcases ihInner.2 item mem with ⟨older, deeper⟩
    exact ⟨older.trans atTop.1, by omega⟩

lemma before_of_below (level : Nat) (parent : Int) (forest : Forest) :
    ∀ pair ∈ below level parent forest, Before pair.1 pair.2 := by
  fun_induction below with
  | case1 => simp
  | case2 level parent mtime siblings ih => exact ih
  | case3 level parent mtime children siblings ih => exact ih
  | case4 level parent mtime children siblings inner ihChildren ihSiblings =>
    refine forall_mem_append.2 ⟨forall_mem_append.2 ⟨?_, ihChildren⟩, ihSiblings⟩
    intro pair mem
    rcases mem_map.1 mem with ⟨item, isItem, rfl⟩
    rcases (loadItemsFrom_spec (level + 1) mtime children).2 item isItem with ⟨older, deeper⟩
    rcases older.lt_or_eq with older | same
    · exact .inl older
    · exact .inr ⟨same.symm, deeper⟩

/-- In every list in the order of the keys, a directory comes before all that is below it. -/
theorem directory_before_contents (forest : Forest) (level : Nat) (parent : Int)
    (items : List CacheItem) {i j : Nat}
    (sorted : items.Pairwise fun left right => ¬ Before right left)
    (isBelow : (directory, item) ∈ below level parent forest)
    (atDirectory : items[i]? = some directory) (atItem : items[j]? = some item) : i < j := by
  have before : Before directory item := before_of_below level parent forest _ isBelow
  rcases Nat.lt_trichotomy i j with less | rfl | more
  · exact less
  · rw [atDirectory, Option.some.injEq] at atItem
    simp [atItem, Before] at before
  · rcases List.getElem?_eq_some_iff.1 atDirectory with ⟨inside, rfl⟩
    rcases List.getElem?_eq_some_iff.1 atItem with ⟨_, rfl⟩
    exact absurd before (pairwise_iff_getElem.1 sorted j i _ inside more)

theorem directory_before_contents_newFile :
    ((⟨1, true, 5⟩, ⟨2, false, 5⟩) ∈ below 1 0 (.directory 3 false (.file 5 .nil) .nil)) ∧ 0 < 1 :=
  ⟨.head _, directory_before_contents (.directory 3 false (.file 5 .nil) .nil) 1 0
    [⟨1, true, 5⟩, ⟨2, false, 5⟩] (by simp [Before]) (.head _) rfl rfl⟩

end NativeLibs.Cmds.CacheTracker

/-! ## Freeing caches

`freeCache` takes items from the tracker that is most over its quota. -/

namespace NativeLibs.Cmds.FreeCache

open List

/-- The items that the tracker has, or will load, by their sizes. -/
structure CacheTracker where
  cacheUsed : Int
  cacheQuota : Int
  items : List Int

namespace CacheTracker

variable (tracker : CacheTracker)

def wideRatio : Int :=
  if tracker.cacheQuota = 0 then 0 else (tracker.cacheUsed * 10000).tdiv tracker.cacheQuota

def getCacheRatio : Int := tracker.wideRatio.bmod (2 ^ 32)

abbrev Fits : Prop := tracker.getCacheRatio = tracker.wideRatio

def Settled : Prop := tracker.items ≠ [] → tracker.cacheUsed ≤ tracker.cacheQuota

lemma ratio_lt_iff (positive : 0 < tracker.cacheQuota) (fits : tracker.Fits) :
    tracker.getCacheRatio < 10000 ↔ tracker.cacheUsed < tracker.cacheQuota := by
  rw [fits, wideRatio, if_neg positive.ne']
  rcases Int.le_total 0 tracker.cacheUsed with used | free
  · rw [Int.tdiv_eq_ediv_of_nonneg (by omega), Int.ediv_lt_iff_lt_mul positive]
    omega
  · have negative : 0 ≤ -(tracker.cacheUsed * 10000) := by omega
    have quotient := Int.tdiv_nonneg negative positive.le
    rw [Int.neg_tdiv] at quotient
    omega

end CacheTracker

structure Request where
  defyQuota : Bool
  cacheReservedBytes : Int
  cacheTotal : Int
  targetFreeBytes : Int

structure State where
  active : Option CacheTracker
  queue : List CacheTracker
  needed : Int
  cleared : Int

def State.trackers (state : State) : List CacheTracker := state.active.toList ++ state.queue

structure IsTop (top : CacheTracker) (queue : List CacheTracker) : Prop where
  mem : top ∈ queue
  best : ∀ other ∈ queue, other.getCacheRatio ≤ top.getCacheRatio

section

variable (request : Request) (state : State)

def Stops : Prop :=
  (state.active = none ∧ state.queue = []) ∨
  (∃ tracker ∈ state.active, tracker.getCacheRatio < 10000 ∧ request.defyQuota = false) ∨
  (0 < request.cacheReservedBytes ∧
    request.cacheTotal - request.cacheReservedBytes ≤ state.cleared) ∨
  -- the target is reached
  state.needed ≤ 0

def Swaps : Prop :=
  ∀ tracker ∈ state.active, ∃ top, IsTop top state.queue ∧
    tracker.getCacheRatio < top.getCacheRatio

/-- The item at the back is purged. The disk is only asked when nothing more seems to be needed. -/
inductive Purges : CacheTracker → Int → State → Prop
  | purge (goesOn : ¬ Stops request state) (stays : ¬ Swaps state)
    (isActive : state.active = some tracker) (isItem : tracker.items = rest ++ [item])
    (free : Int) : Purges tracker item
      { active := some ⟨tracker.cacheUsed - item, tracker.cacheQuota, rest⟩
        queue := state.queue
        needed := if state.needed - item ≤ 0 then request.targetFreeBytes - free
          else state.needed - item
        cleared := state.cleared + item }

/-- One turn of the loop. -/
inductive Step : State → Prop
  | swap (goesOn : ¬ Stops request state) (swaps : Swaps state) (isTop : IsTop top state.trackers)
    (rest : state.trackers.Perm (top :: queue)) :
    Step { state with active := some top, queue := queue }
  | drop (goesOn : ¬ Stops request state) (stays : ¬ Swaps state)
    (isActive : state.active = some tracker) (noItems : tracker.items = []) :
    Step { state with active := none }
  | purge {next : State} (purges : Purges request state tracker item next) : Step next

end

section

variable {request : Request} {state next : State}

lemma exists_isTop (queue : List CacheTracker) (some : queue ≠ []) : ∃ top, IsTop top queue := by
  cases isMax : queue.argmax CacheTracker.getCacheRatio with
  | none => exact absurd (argmax_eq_none.1 isMax) some
  | some top => exact ⟨top, argmax_mem isMax, fun other mem => le_of_mem_argmax mem isMax⟩

lemma best_of_stays (stays : ¬ Swaps state) (isActive : state.active = some tracker) :
    ∀ other ∈ state.queue, other.getCacheRatio ≤ tracker.getCacheRatio := by
  intro other mem
  rcases exists_isTop state.queue (ne_nil_of_mem mem) with ⟨top, isTop⟩
  by_contra worse
  apply stays
  intro active same
  cases isActive.symm.trans same
  exact ⟨top, isTop, lt_of_lt_of_le (not_le.1 worse) (isTop.best other mem)⟩

/-! ## Termination -/

def weight (trackers : List CacheTracker) : Nat :=
  (trackers.map fun tracker => tracker.items.length + 1).sum

/-- Each turn takes an item or a tracker away, or it makes the best tracker the active one. -/
lemma weight_step (step : Step request state next) :
    weight next.trackers < weight state.trackers ∨
      weight next.trackers = weight state.trackers ∧ Swaps state ∧ ¬ Swaps next := by
  cases step with
  | @swap top queue goesOn swaps isTop rest =>
    refine .inr ⟨(rest.map _).sum_nat.symm, swaps, fun again => ?_⟩
    rcases again top rfl with ⟨other, isOther, better⟩
    have waits : other ∈ state.trackers := rest.mem_iff.2 (mem_cons_of_mem _ isOther.mem)
    exact absurd (isTop.best other waits) (not_le.2 better)
  | drop goesOn stays isActive noItems =>
    left
    simp [State.trackers, isActive, weight, noItems]
  | purge purges =>
    cases purges with
    | purge goesOn stays isActive isItem free =>
      left
      simp [State.trackers, isActive, weight, isItem]

lemma wellFounded_step (request : Request) :
    WellFounded fun next state => Step request state next := by
  classical
  refine Subrelation.wf ?_ (measure fun state : State =>
    2 * weight state.trackers + if Swaps state then 1 else 0).wf
  intro next state step
  change 2 * weight next.trackers + ite (Swaps next) 1 0 < 2 * weight state.trackers + _
  rcases weight_step step with less | ⟨same, swaps, stays⟩
  · split_ifs <;> omega
  · simp [same, swaps, stays]

lemma exists_step (goesOn : ¬ Stops request state) : ∃ next, Step request state next := by
  by_cases swaps : Swaps state
  · have some : state.trackers ≠ [] := by
      intro none
      rcases append_eq_nil_iff.1 none with ⟨noActive, noQueue⟩
      exact goesOn (.inl ⟨Option.toList_eq_nil_iff.1 noActive, noQueue⟩)
    rcases exists_isTop _ some with ⟨top, isTop⟩
    rcases append_of_mem isTop.mem with ⟨left, right, split⟩
    exact ⟨_, .swap goesOn swaps isTop (split ▸ perm_middle)⟩
  · cases isActive : state.active with
    | none => simp [Swaps, isActive] at swaps
    | some tracker =>
      rcases eq_nil_or_concat' tracker.items with noItems | ⟨rest, item, isItem⟩
      · exact ⟨_, .drop goesOn swaps isActive noItems⟩
      · exact ⟨_, .purge (.purge goesOn swaps isActive isItem 0)⟩

/-- The loop ends, and what it purges is fair. -/
theorem freeCache_fair (request : Request) :
    (WellFounded fun next state => Step request state next) ∧
    ∀ state, (¬ Stops request state → ∃ next, Step request state next) ∧
      ∀ tracker item next, Purges request state tracker item next →
        (∀ other ∈ state.queue, other.getCacheRatio ≤ tracker.getCacheRatio) ∧
        (request.defyQuota = false → 10000 ≤ tracker.getCacheRatio ∧
          (0 < tracker.cacheQuota → tracker.Fits → tracker.cacheQuota ≤ tracker.cacheUsed)) ∧
        (0 < request.cacheReservedBytes →
          state.cleared < request.cacheTotal - request.cacheReservedBytes) := by
  refine ⟨wellFounded_step request, fun state => ⟨exists_step, ?_⟩⟩
  intro tracker item next purges
  cases purges with
  | purge goesOn stays isActive isItem free =>
    simp only [Stops, not_or, not_and, not_exists, not_le] at goesOn
    rcases goesOn with ⟨_, quota, reserve, _⟩
    refine ⟨best_of_stays stays isActive, fun noDefy => ?_, reserve⟩
    have above : 10000 ≤ tracker.getCacheRatio := by
      by_contra under
      exact quota tracker isActive (not_le.1 under) noDefy
    refine ⟨above, fun positive fits => ?_⟩
    by_contra under
    exact absurd ((tracker.ratio_lt_iff positive fits).2 (not_le.1 under)) (not_lt.2 above)

end

/-! ## What is spent -/

/-- What is left of a tracker: its last items are gone, and so is their size. -/
def CacheTracker.LeftOf (tracker whole : CacheTracker) : Prop :=
  tracker.cacheQuota = whole.cacheQuota ∧ ∃ purged, whole.items = tracker.items ++ purged ∧
    whole.cacheUsed = tracker.cacheUsed + purged.sum

def sizes (trackers : List CacheTracker) : Int := (trackers.map (·.items.sum)).sum

structure Spends (start state : State) : Prop where
  left : ∀ tracker ∈ state.trackers, ∃ whole ∈ start.trackers, tracker.LeftOf whole
  cleared : state.cleared + sizes state.trackers = start.cleared + sizes start.trackers

lemma Spends.refl (start : State) : Spends start start :=
  ⟨fun tracker mem => ⟨tracker, mem, rfl, [], by simp, by simp⟩, rfl⟩

lemma Spends.step {request : Request} {next : State} (spends : Spends start state)
    (step : Step request state next) : Spends start next := by
  rcases spends with ⟨left, cleared⟩
  cases step with
  | @swap top queue goesOn swaps isTop rest =>
    exact ⟨fun tracker mem => left tracker (rest.mem_iff.2 mem),
      (congrArg _ (rest.map _).sum_eq.symm).trans cleared⟩
  | drop goesOn stays isActive noItems =>
    refine ⟨fun tracker mem => left tracker (mem_append_right _ mem), ?_⟩
    simpa [sizes, State.trackers, isActive, noItems] using cleared
  | @purge tracker item _ purges =>
    cases purges with
    | purge goesOn stays isActive isItem free =>
      have mem : tracker ∈ state.trackers := mem_append_left _ (Option.mem_toList.2 isActive)
      rcases left tracker mem with ⟨whole, isIn, quota, gone, items, used⟩
      constructor
      · refine forall_mem_append.2 ⟨forall_mem_singleton.2 ⟨whole, isIn, quota, item :: gone, ?_⟩,
          fun other mem => left other (mem_append_right _ mem)⟩
        simp [items, isItem, used]
        omega
      · simp [sizes, State.trackers, isActive, isItem] at cleared ⊢
        omega

/-- In every run, each tracker is one of the first ones without some of its last items, and what
is cleared is the size of all items that are gone. -/
theorem freeCache_spends (request : Request) (start final : State)
    (run : Relation.ReflTransGen (Step request) start final) : Spends start final := by
  induction run with
  | refl => exact .refl start
  | tail _ step ih => exact ih.step step

/-! ## Stopping early -/

/-- What is left when only the first items are kept. -/
def CacheTracker.keeping (tracker : CacheTracker) (count : Nat) : CacheTracker :=
  ⟨tracker.cacheUsed - (tracker.items.drop count).sum, tracker.cacheQuota, tracker.items.take count⟩

/-- The quota is positive, and the ratio fits whichever items are gone. -/
abbrev CacheTracker.Sane (tracker : CacheTracker) : Prop :=
  0 < tracker.cacheQuota ∧
    ∀ count ∈ range (tracker.items.length + 1), (tracker.keeping count).Fits

lemma CacheTracker.LeftOf.fits {tracker whole : CacheTracker} (leftOf : tracker.LeftOf whole)
    (sane : whole.Sane) : tracker.Fits := by
  rcases leftOf with ⟨quota, purged, items, used⟩
  have same : whole.keeping tracker.items.length = tracker := by
    simp [keeping, items, used, ← quota]
  exact same ▸ sane.2 tracker.items.length (mem_range.2 (by rw [items, length_append]; omega))

section

variable {request : Request} {start state next : State}

lemma Spends.ratio_lt (sane : ∀ tracker ∈ start.trackers, tracker.Sane)
    (spends : Spends start state) (mem : tracker ∈ state.trackers) :
    tracker.getCacheRatio < 10000 ↔ tracker.cacheUsed < tracker.cacheQuota := by
  rcases spends.left tracker mem with ⟨whole, isIn, leftOf⟩
  have positive := (sane whole isIn).1
  exact tracker.ratio_lt_iff (leftOf.1 ▸ positive) (leftOf.fits (sane whole isIn))

/-- A turn that purges and takes its tracker under quota leaves no other one with items over. -/
def Calm (request : Request) (state next : State) : Prop :=
  ∀ tracker item, Purges request state tracker item next →
    tracker.cacheUsed - item < tracker.cacheQuota → ∀ other ∈ state.queue, other.Settled

/-- If the active tracker is under quota, no waiting one with items is over. -/
def Covered (state : State) : Prop :=
  ∀ tracker ∈ state.active, tracker.cacheUsed < tracker.cacheQuota →
    ∀ other ∈ state.queue, other.Settled

lemma Covered.step (sane : ∀ tracker ∈ start.trackers, tracker.Sane) (spends : Spends start state)
    (step : Step request state next) (calm : Calm request state next) : Covered next := by
  cases step with
  | @swap top queue goesOn swaps isTop rest =>
    rintro _ ⟨⟩ under other mem _
    have waits := rest.mem_iff.2 (mem_cons_of_mem _ mem)
    have low := (spends.ratio_lt sane isTop.mem).2 under
    exact ((spends.ratio_lt sane waits).1 (lt_of_le_of_lt (isTop.best other waits) low)).le
  | drop => simp [Covered]
  | @purge tracker item _ purges =>
    have last := calm tracker item purges
    cases purges with
    | purge goesOn stays isActive isItem free =>
      rintro _ ⟨⟩ under
      exact last under

lemma Step.goesOn (step : Step request state next) : ¬ Stops request state := by
  cases step with
  | swap goesOn | drop goesOn => exact goesOn
  | purge purges =>
    cases purges with
    | purge goesOn => exact goesOn

lemma Covered.settled (sane : ∀ tracker ∈ start.trackers, tracker.Sane)
    (spends : Spends start state) (covered : Covered state)
    (noReserve : request.cacheReservedBytes = 0) (stops : Stops request state)
    (unreached : 0 < state.needed) : ∀ tracker ∈ state.trackers, tracker.Settled := by
  rcases stops with ⟨none, empty⟩ | ⟨active, isActive, low, _⟩ | ⟨reserve, _⟩ | reached
  · simp [State.trackers, none, empty]
  · have mem : active ∈ state.trackers := mem_append_left _ (Option.mem_toList.2 isActive)
    have under := (spends.ratio_lt sane mem).1 low
    refine forall_mem_append.2 ⟨?_, covered active isActive under⟩
    intro tracker isTracker _
    cases Option.some.inj (isActive.symm.trans (Option.mem_toList.1 isTracker))
    exact under.le
  · omega
  · omega

end

def request : Request := ⟨false, 0, 1000, 500⟩

section

variable {tracker other : CacheTracker} {needed cleared : Int} (pos : 0 < needed)
include pos

lemma taken (best : other.getCacheRatio ≤ tracker.getCacheRatio) :
    Step request ⟨none, [tracker, other], needed, cleared⟩ ⟨some tracker, [other], needed, cleared⟩ :=
  .swap (by simp [Stops, request, pos]) (by simp [Swaps])
    ⟨.head _, forall_mem_cons.2 ⟨Int.le_refl _, forall_mem_singleton.2 best⟩⟩ (.refl _)

variable (above : ¬ tracker.getCacheRatio < 10000)
include above

lemma swapped (better : tracker.getCacheRatio < other.getCacheRatio) :
    Step request ⟨some tracker, [other], needed, cleared⟩ ⟨some other, [tracker], needed, cleared⟩ := by
  refine .swap (by simp [Stops, request, pos, above]) ?_
    ⟨.tail _ (.head _), forall_mem_cons.2 ⟨better.le, by simp⟩⟩ (.swap _ _ _)
  rintro _ ⟨⟩
  exact ⟨other, ⟨.head _, by simp⟩, better⟩

variable (tracker other needed cleared)

lemma purged (rest : List Int) (item : Int) (isItem : tracker.items = rest ++ [item]) (more : item < needed)
    (best : other.getCacheRatio ≤ tracker.getCacheRatio) :
    Step request ⟨some tracker, [other], needed, cleared⟩
      ⟨some ⟨tracker.cacheUsed - item, tracker.cacheQuota, rest⟩, [other], needed - item,
        cleared + item⟩ := by
  have stays : ¬ Swaps ⟨some tracker, [other], needed, cleared⟩ := by
    intro swaps
    rcases swaps tracker rfl with ⟨top, isTop, better⟩
    cases mem_singleton.1 isTop.mem
    exact absurd better (not_lt.2 best)
  have goesOn : ¬ Stops request ⟨some tracker, [other], needed, cleared⟩ := by
    simp [Stops, request, pos, above]
  have purges := Purges.purge goesOn stays rfl isItem 0
  rw [if_neg (by dsimp only; omega)] at purges
  exact .purge purges

end

def first : CacheTracker := ⟨200, 100, [150]⟩
def second : CacheTracker := ⟨150, 100, [60]⟩

lemma first_purged :
    Step request ⟨some first, [second], 500, 0⟩ ⟨some ⟨50, 100, []⟩, [second], 350, 150⟩ :=
  purged first second 500 0 (by decide) (by decide) [] 150 rfl (by decide) (by decide)

theorem freeCache_spends_first : 150 + sizes [⟨50, 100, []⟩, second] = 0 + sizes [first, second] :=
  (freeCache_spends request _ _ (.single first_purged)).cleared

end NativeLibs.Cmds.FreeCache
