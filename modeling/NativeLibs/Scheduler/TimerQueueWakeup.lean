import NativeLibs.Scheduler.VSyncDispatchTimerQueue

/-! # Wakeups

While a callback is armed or has a pending workload update, a timer is set in time for it. Times
within the slack of `kInvalidTime` are excepted, since the queue cannot tell them from no time. -/

namespace NativeLibs.Scheduler

open VSyncDispatchTimerQueue List Machine

/-! ## Wakeup times are below the invalid time -/

/-- An entry whose durations are not negative and whose wakeup time is below a limit. -/
structure Entry.Bounded (limit : Int) (entry : Entry) : Prop where
  duration : 0 ≤ entry.mWorkDuration
  pending : ∀ info ∈ entry.mWorkloadUpdateInfo, 0 ≤ info.duration
  wakeup : ∀ time ∈ entry.wakeupTime, time < limit

/-- The predictions are below a limit, durations are not negative, and the clock shows a 64-bit
time. -/
def Sane (limit : Int) (label : Label) : Prop :=
  (∀ time, label.tracker time < limit) ∧ match label.call with
    | .schedule _ workDuration _ now => 0 ≤ workDuration ∧ now ≤ kInvalidTime
    | _ => True

lemma Entry.schedule_armed (entry : Entry) (work early : Int) (track : Int → Int) (now : Int) :
    (entry.schedule work early track now).1 = .scheduled ∧
      ∃ wakeup, (entry.schedule work early track now).2.wakeupTime = some wakeup := by
  unfold Entry.schedule
  dsimp only
  split
  · rename_i skips
    cases armed : entry.mArmedInfo with
    | none => simp [armed] at skips
    | some info => exact ⟨rfl, info.mActualWakeupTime, by simp [Entry.wakeupTime, armed]⟩
  · exact ⟨rfl, _, rfl⟩

namespace Entry.Bounded

variable {entry : Entry}

variable (capped : entry.Bounded limit)
include capped

lemma update (below : ∀ time, track time < limit) (now : Int) :
    (entry.update track now).Bounded limit := by
  unfold Entry.update
  split
  · exact capped
  · dsimp only
    split
    · rename_i info isUpdate
      have nonneg := capped.pending info isUpdate
      refine ⟨nonneg, nofun, ?_⟩
      rintro time ⟨⟩
      have prediction := below (max info.earliestVsync (now + info.duration))
      dsimp only
      omega
    · rename_i noUpdate
      refine ⟨capped.duration, capped.pending, ?_⟩
      rintro time ⟨⟩
      have prediction := below (max entry.mEarliestVsync (now + entry.mWorkDuration))
      have nonneg := capped.duration
      dsimp only
      omega

lemma schedule (below : ∀ time, track time < limit) (nonneg : 0 ≤ work) (early now : Int) :
    (entry.schedule work early track now).2.Bounded limit := by
  unfold Entry.schedule
  dsimp only
  split
  · exact capped
  · refine ⟨nonneg, capped.pending, ?_⟩
    rintro time ⟨⟩
    dsimp only
    split
    · rename_i last isLast
      have first := below (max early (now + work))
      have second := below (last + entry.mMinVsyncDistance)
      split <;> omega
    · have first := below (max early (now + work))
      omega

lemma disarm : entry.disarm.Bounded limit :=
  ⟨capped.duration, capped.pending, nofun⟩

end Entry.Bounded

lemma EntryStep.bounded {next : Entry} (step : EntryStep label tok entry next) (sane : Sane limit label)
    (capped : entry.Bounded limit) : next.Bounded limit := by
  obtain ⟨below, call⟩ := sane
  cases step with
  | same => exact capped
  | updated now rearms => exact capped.update below now
  | @executed info now later fires armed =>
    have ran : (entry.executing info).Bounded limit := ⟨capped.duration, capped.pending, nofun⟩
    exact ran.update below later
  | scheduled schedules =>
    rw [schedules] at call
    exact capped.schedule below call.1 _ _
  | postponed schedules =>
    rw [schedules] at call
    refine ⟨capped.duration, ?_, capped.wakeup⟩
    rintro info ⟨⟩
    exact call.1
  | disarmed cancels armed => exact capped.disarm
  | cancelled cancels armed => exact capped.disarm.update below _

def AllBounded (limit : Int) (queue : VSyncDispatchTimerQueue) : Prop :=
  ∀ callback ∈ queue.mCallbacks, callback.2.Bounded limit

lemma AllBounded.step {state : Dispatcher} (capped : AllBounded limit state.queue)
    (sane : Sane limit label) : AllBounded limit (state.step label).queue := by
  intro cb mem
  rcases state.step_callbacks label with ⟨_, calls⟩ | comesFrom
  · rw [calls, mem_append, mem_singleton] at mem
    rcases mem with old | rfl
    · exact capped cb old
    · exact ⟨Int.le_refl 0, nofun, nofun⟩
  · obtain ⟨entry, entryMember, entryStep⟩ := comesFrom cb mem
    exact entryStep.bounded sane (capped _ entryMember)

/-! ## The timer -/

inductive Timed (queue : VSyncDispatchTimerQueue) : Prop
  | unneeded (noAlarm : queue.alarm = none) (invalid : queue.mIntendedWakeupTime = kInvalidTime)
      (idle : ∀ callback ∈ queue.mCallbacks,
        callback.2.mArmedInfo = none ∧ callback.2.mWorkloadUpdateInfo = none)
  | set (isSet : queue.alarm = some queue.mIntendedWakeupTime)
      (early : ∀ callback ∈ queue.mCallbacks, ∀ time ∈ callback.2.wakeupTime,
        queue.mIntendedWakeupTime ≤ time + queue.mTimerSlack)

namespace VSyncDispatchTimerQueue

lemma leastWakeup_unarmed (idle : ∀ cb ∈ calls, cb.2.wakeupTime = none) :
    leastWakeup calls none = none := by
  induction calls with
  | nil => rfl
  | cons cb rest ih =>
    have first := idle cb (mem_cons_self ..)
    unfold leastWakeup
    rw [foldl_cons, first]
    exact ih fun other mem => idle other (mem_cons_of_mem _ mem)

lemma update_unarmed {entry : Entry} (unarmed : (entry.update track now).wakeupTime = none) :
    (entry.update track now).mArmedInfo = none ∧
      (entry.update track now).mWorkloadUpdateInfo = none := by
  unfold Entry.update at unarmed ⊢
  split at unarmed
  · rename_i idle
    rw [Bool.and_eq_true, Option.isNone_iff_eq_none, Option.isNone_iff_eq_none] at idle
    rw [if_pos (by simp [idle.1, idle.2])]
    exact idle
  · dsimp only at unarmed
    split at unarmed <;> simp [Entry.wakeupTime] at unarmed

lemma rearm_timed {queue : VSyncDispatchTimerQueue} (nonneg : 0 ≤ queue.mTimerSlack)
    (below : ∀ cb ∈ queue.mCallbacks.map (refresh track now skipUpdate), ∀ time ∈ cb.2.wakeupTime,
        ∃ other ∈ queue.mCallbacks.map (refresh track now skipUpdate),
          ∃ prior ∈ other.2.wakeupTime, prior < queue.mIntendedWakeupTime)
    (skippedArmed : ∀ cb ∈ queue.mCallbacks, some cb.1 = skipUpdate → cb.2.mArmedInfo ≠ none) :
    Timed (queue.rearmTimerSkippingUpdateFor track now skipUpdate) := by
  have calls := queue.rearm_callbacks track now skipUpdate
  unfold rearmTimerSkippingUpdateFor at calls ⊢
  rw [rearmLoop_eq] at calls ⊢
  dsimp only at calls ⊢
  generalize refreshed : queue.mCallbacks.map (refresh track now skipUpdate) = later
    at below calls ⊢
  cases least : leastWakeup later none with
  | none =>
    dsimp only
    have idle := (leastWakeup_none least).2
    refine .unneeded rfl rfl ?_
    intro cb mem
    have noWakeup := idle cb mem
    have wasMember : cb ∈ later := mem
    rw [← refreshed] at wasMember
    obtain ⟨old, oldM, rfl⟩ := mem_map.mp wasMember
    unfold refresh at noWakeup ⊢
    by_cases skips : some old.1 ≠ skipUpdate
    · rw [if_pos skips] at noWakeup ⊢
      exact update_unarmed noWakeup
    · rw [if_neg skips] at noWakeup
      have armed := skippedArmed old oldM (not_not.mp skips)
      exact absurd (by simpa [Entry.wakeupTime] using noWakeup) armed
  | some bound =>
    have lowest := (leastWakeup_some least).2
    have someArmed : ∃ cb ∈ later, ∃ time, time ∈ cb.2.wakeupTime := by
      by_contra noneArmed
      have idle : ∀ cb ∈ later, cb.2.wakeupTime = none := by
        intro cb mem
        cases wakeup : cb.2.wakeupTime with
        | none => rfl
        | some time => exact absurd ⟨cb, mem, time, wakeup⟩ noneArmed
      rw [leastWakeup_unarmed idle] at least
      cases least
    obtain ⟨cb, mem, time, isTime⟩ := someArmed
    obtain ⟨other, also, prior, isEarlier, isBelow⟩ := below cb mem time isTime
    have boundBelow := lowest other also prior isEarlier
    dsimp only
    rw [if_pos (Int.lt_of_le_of_lt boundBelow isBelow)]
    refine .set rfl ?_
    intro any anyMember wakeup wakes
    have atLeast := lowest any anyMember wakeup wakes
    dsimp only [setTimer]
    omega

end VSyncDispatchTimerQueue

/-! ## Steps -/

namespace Timed

variable {state : Dispatcher} {queue : VSyncDispatchTimerQueue}

lemma is_set (timed : Timed queue) (mem : cb ∈ queue.mCallbacks)
    (busy : cb.2.mArmedInfo ≠ none ∨ cb.2.mWorkloadUpdateInfo ≠ none) :
    queue.alarm = some queue.mIntendedWakeupTime ∧
      ∀ cb ∈ queue.mCallbacks, ∀ time ∈ cb.2.wakeupTime,
        queue.mIntendedWakeupTime ≤ time + queue.mTimerSlack := by
  cases timed with
  | unneeded noAlarm invalid idle =>
    obtain ⟨unarmed, noUpdate⟩ := idle cb mem
    rcases busy with armed | pend
    · exact absurd unarmed armed
    · exact absurd noUpdate pend
  | set isSet early => exact ⟨isSet, early⟩

lemma register (timed : Timed state.queue) : Timed (state.step ⟨track, .register⟩).queue := by
  cases timed with
  | unneeded noAlarm invalid idle =>
    refine .unneeded noAlarm invalid ?_
    exact forall_mem_append.2 ⟨idle, forall_mem_singleton.2 ⟨rfl, rfl⟩⟩
  | set isSet early =>
    refine .set isSet ?_
    exact forall_mem_append.2 ⟨early, forall_mem_singleton.2 nofun⟩

lemma unregister (timed : Timed state.queue) (tok : Nat) :
    Timed (state.step ⟨track, .unregister tok⟩).queue := by
  cases timed with
  | unneeded noAlarm invalid idle =>
    exact .unneeded noAlarm invalid fun cb mem =>
      idle cb (mem_filter.mp mem).1
  | set isSet early =>
    exact .set isSet fun cb mem => early cb (mem_filter.mp mem).1

lemma rearm_invalid (nonneg : 0 ≤ queue.mTimerSlack)
    (invalid : queue.mIntendedWakeupTime = kInvalidTime)
    (capped : AllBounded (kInvalidTime - queue.mTimerSlack) (queue.rearmTimer track now)) :
    Timed (queue.rearmTimer track now) := by
  apply rearm_timed nonneg
  · intro cb mem time isTime
    refine ⟨cb, mem, time, isTime, ?_⟩
    rw [← rearm_callbacks] at mem
    have below := (capped cb mem).wakeup time isTime
    omega
  · intro cb mem isNone
    cases isNone

lemma put {next : Entry} (isSet : queue.alarm = some queue.mIntendedWakeupTime)
    (early : ∀ cb ∈ queue.mCallbacks, ∀ time ∈ cb.2.wakeupTime,
      queue.mIntendedWakeupTime ≤ time + queue.mTimerSlack)
    (inTime : ∀ time ∈ next.wakeupTime, queue.mIntendedWakeupTime ≤ time + queue.mTimerSlack) :
    Timed (queue.put tok next) := by
  refine .set isSet ?_
  intro cb mem
  rcases VSyncDispatchTimerQueue.mem_put mem with rfl | ⟨same, _⟩
  · exact inTime
  · exact early cb same

variable (timed : Timed state.queue) (nonneg : 0 ≤ state.queue.mTimerSlack)
include timed nonneg

lemma cancel (capped : AllBounded (kInvalidTime - state.queue.mTimerSlack)
      (state.step ⟨track, .cancel tok now⟩).queue) :
    Timed (state.step ⟨track, .cancel tok now⟩).queue := by
  revert capped
  unfold Dispatcher.step VSyncDispatchTimerQueue.cancel
  dsimp only
  split
  · exact fun _ => timed
  · rename_i entry hit
    split
    · exact fun _ => timed
    · rename_i wakeupTime wakes
      split
      · intro capped
        exact rearm_invalid nonneg rfl capped
      · intro _
        have armed : entry.mArmedInfo ≠ none := by
          intro idle
          simp [Entry.wakeupTime, idle] at wakes
        obtain ⟨isSet, early⟩ :=
          timed.is_set (VSyncDispatchTimerQueue.find_mem hit) (.inl armed)
        exact put isSet early (by simp [Entry.disarm, Entry.wakeupTime])

lemma fire {later : Int} (capped : AllBounded (kInvalidTime - state.queue.mTimerSlack)
      (state.step ⟨track, .fire now later⟩).queue) :
    Timed (state.step ⟨track, .fire now later⟩).queue := by
  revert capped
  unfold Dispatcher.step timerCallback
  dsimp only
  split
  · intro capped
    exact rearm_invalid nonneg rfl capped
  · exact fun _ => timed

lemma schedule (inRange : now ≤ kInvalidTime)
    (capped : AllBounded (kInvalidTime - state.queue.mTimerSlack) state.queue)
    (below : ∀ time, track time < kInvalidTime - state.queue.mTimerSlack) (duration : 0 ≤ work) :
    Timed (state.step ⟨track, .schedule tok work earliest now⟩).queue := by
  unfold Dispatcher.step VSyncDispatchTimerQueue.schedule
  dsimp only
  split
  · exact timed
  · rename_i entry hit
    have entryBounded := capped _ (VSyncDispatchTimerQueue.find_mem hit)
    split
    · rename_i imminent
      -- The intended time has passed, so it is a valid one.
      cases timed with
      | unneeded noAlarm invalid idle =>
        rw [invalid] at imminent
        omega
      | set isSet early =>
        exact put isSet early (early (tok, entry) (VSyncDispatchTimerQueue.find_mem hit))
    · obtain ⟨scheduled, wakeup, wakes⟩ :=
        entry.schedule_armed work earliest track now
      have wakeupBelow :=
        (entryBounded.schedule below duration earliest now).wakeup wakeup wakes
      generalize entry.schedule work earliest track now = oc
        at scheduled wakes ⊢
      obtain ⟨res, next⟩ := oc
      dsimp only at scheduled wakes ⊢
      rw [if_neg (by rw [scheduled]; decide)]
      have isNext := VSyncDispatchTimerQueue.put_mem hit next
      split
      · rename_i early
        have isEarly : wakeup < state.queue.mIntendedWakeupTime - state.queue.mTimerSlack := by
          unfold VSyncDispatchTimerQueue.isBefore at early
          rw [wakes] at early
          exact of_decide_eq_true early
        apply VSyncDispatchTimerQueue.rearm_timed
        · exact nonneg
        · intro cb mem time isTime
          refine ⟨(tok, next), ?_, wakeup, wakes, ?_⟩
          · exact mem_map.mpr ⟨_, isNext, by simp [VSyncDispatchTimerQueue.refresh]⟩
          · have bound : wakeup < state.queue.mIntendedWakeupTime := by omega
            exact bound
        · intro cb mem isToken unarmed
          rcases VSyncDispatchTimerQueue.mem_put mem with rfl | ⟨_, ne⟩
          · dsimp only at unarmed
            simp [Entry.wakeupTime, unarmed] at wakes
          · exact ne (Option.some.inj isToken)
      · rename_i notEarly
        have isLate : state.queue.mIntendedWakeupTime - state.queue.mTimerSlack ≤ wakeup := by
          unfold VSyncDispatchTimerQueue.isBefore at notEarly
          rw [wakes] at notEarly
          exact Int.not_lt.mp fun early => notEarly (decide_eq_true early)
        cases timed with
        | unneeded noAlarm invalid idle =>
          rw [invalid] at isLate
          omega
        | set isSet early =>
          apply put isSet early
          intro time isTime
          rw [Option.mem_def, wakes] at isTime
          have sameTime := Option.some.inj isTime
          omega

end Timed

/-- In every run with a slack that is not negative, durations that are not negative and predictions
below the invalid time by more than the slack, a callback that is armed or has a pending workload
update has a timer, which is set no later than every wakeup time plus the slack. -/
theorem armed_has_timer (timerSlack minVsyncDistance : Int) (nonnegative : 0 ≤ timerSlack)
    (labels : List Label) (sane : ∀ label ∈ labels, Sane (kInvalidTime - timerSlack) label) :
    let queue := (run Dispatcher.step (Dispatcher.create timerSlack minVsyncDistance)
      labels).queue
    (∃ callback ∈ queue.mCallbacks,
        callback.2.mArmedInfo ≠ none ∨ callback.2.mWorkloadUpdateInfo ≠ none) →
      queue.alarm = some queue.mIntendedWakeupTime ∧
        ∀ callback ∈ queue.mCallbacks, ∀ time ∈ callback.2.wakeupTime,
          queue.mIntendedWakeupTime ≤ time + timerSlack := by
  let Holds (state : Dispatcher) : Prop := state.queue.mTimerSlack = timerSlack ∧
    AllBounded (kInvalidTime - timerSlack) state.queue ∧ Timed state.queue
  have settled : ∀ (state : Dispatcher) label, Holds state →
      Sane (kInvalidTime - timerSlack) label → Holds (state.step label) := by
    rintro state label ⟨rfl, bounded, timed⟩ sane
    have next := bounded.step sane
    refine ⟨(state.step_settings label).1, next, ?_⟩
    obtain ⟨tracker, call⟩ := label
    cases call with
    | register => exact timed.register
    | unregister token => exact timed.unregister token
    | schedule token work earliest now =>
      exact timed.schedule nonnegative sane.2.2 bounded sane.1 sane.2.1
    | cancel token now => exact timed.cancel nonnegative next
    | fire now later => exact timed.fire nonnegative next
  have init : Holds (Dispatcher.create timerSlack minVsyncDistance) := by
    refine ⟨rfl, ?_, .unneeded rfl rfl ?_⟩
    · simp [AllBounded, Dispatcher.create, create]
    · simp [Dispatcher.create, create]
  obtain ⟨slack, _, timed⟩ := run_invariant settled init
    (along_of_forall (fun _ _ holds => holds) _ sane)
  rintro queue ⟨callback, mem, busy⟩
  obtain ⟨isSet, early⟩ := timed.is_set mem busy
  rw [slack] at early
  exact ⟨isSet, early⟩

def lastVsync (_ : Int) : Int := kInvalidTime - 5

/-- A vsync within the slack of the invalid time arms a callback without a timer. -/
theorem armed_without_timer :
    let queue := (run Dispatcher.step (Dispatcher.create 10 3)
      [⟨lastVsync, .register⟩, ⟨lastVsync, .schedule 1 0 0 0⟩]).queue
    (∃ callback ∈ queue.mCallbacks, callback.2.mArmedInfo ≠ none) ∧ queue.alarm = none := by
  decide +kernel

def twoCallbacks : List Label :=
  [.register, .register, .schedule 1 5 0 0, .schedule 2 7 0 0].map (⟨fun _ => 10, ·⟩)

theorem armed_has_timer_soon :
    let queue := (run Dispatcher.step (Dispatcher.create 1 3) twoCallbacks).queue
    (∃ callback ∈ queue.mCallbacks,
        callback.2.mArmedInfo ≠ none ∨ callback.2.mWorkloadUpdateInfo ≠ none) ∧
      queue.alarm = some queue.mIntendedWakeupTime := by
  have busy : ∃ callback ∈ (run Dispatcher.step (Dispatcher.create 1 3)
      twoCallbacks).queue.mCallbacks,
      callback.2.mArmedInfo ≠ none ∨ callback.2.mWorkloadUpdateInfo ≠ none := by decide +kernel
  refine ⟨busy, (armed_has_timer 1 3 (by decide) _ ?_ busy).1⟩
  simp [twoCallbacks, Sane, kInvalidTime]

end NativeLibs.Scheduler
