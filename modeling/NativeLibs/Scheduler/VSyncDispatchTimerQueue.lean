import Mathlib.Algebra.Order.Ring.Int
import Mathlib.Data.List.Nodup
import NativeLibs.Foundation.Machine

/-! # The vsync dispatch timer queue

Callbacks are dispatched ahead of predicted vsyncs with a single timer. Times are exact, and
`kInvalidTime` is the largest 64-bit integer. What the tracker predicts and what the clock shows
are arguments. A step of the timer dispatches at once; in the code the callbacks run after `mMutex`
is released. -/

namespace NativeLibs.Scheduler

def kInvalidTime : Int := 2 ^ 63 - 1

inductive ScheduleResult where
  | scheduled
  | cannotSchedule
  | error
  deriving DecidableEq, Repr

inductive CancelResult where
  | cancelled
  | tooLate
  | error
  deriving DecidableEq, Repr

structure ArmingInfo where
  mActualWakeupTime : Int
  mActualVsyncTime : Int
  deriving DecidableEq, Repr

structure WorkloadUpdateInfo where
  duration : Int
  earliestVsync : Int
  deriving DecidableEq, Repr

structure Entry where
  mWorkDuration : Int
  mEarliestVsync : Int
  mMinVsyncDistance : Int
  mArmedInfo : Option ArmingInfo
  mLastDispatchTime : Option Int
  mWorkloadUpdateInfo : Option WorkloadUpdateInfo
  deriving DecidableEq, Repr

namespace Entry

variable (entry : Entry)

def create (minVsyncDistance : Int) : Entry := ⟨0, 0, minVsyncDistance, none, none, none⟩

def wakeupTime : Option Int := entry.mArmedInfo.map (·.mActualWakeupTime)

variable (workDuration earliestVsync : Int) (tracker : Int → Int) (now : Int)

def schedule : ScheduleResult × Entry :=
  let nextVsyncTime := tracker (max earliestVsync (now + workDuration))
  let wouldSkipAVsyncTarget := entry.mArmedInfo.any fun info =>
    nextVsyncTime > info.mActualVsyncTime + entry.mMinVsyncDistance
  if wouldSkipAVsyncTarget then (.scheduled, entry)
  else
    let nextVsyncTime :=
      match entry.mLastDispatchTime with
      | some last =>
        if last + entry.mMinVsyncDistance ≥ nextVsyncTime ∧
            last - entry.mMinVsyncDistance ≤ nextVsyncTime then
          tracker (last + entry.mMinVsyncDistance)
        else nextVsyncTime
      | none => nextVsyncTime
    (.scheduled, { entry with
      mWorkDuration := workDuration
      mEarliestVsync := earliestVsync
      mArmedInfo := some ⟨nextVsyncTime - workDuration, nextVsyncTime⟩ })

def addPendingWorkloadUpdate : Entry :=
  { entry with mWorkloadUpdateInfo := some ⟨workDuration, earliestVsync⟩ }

def hasPendingWorkloadUpdate : Bool := entry.mWorkloadUpdateInfo.isSome

def update : Entry :=
  if entry.mArmedInfo.isNone && entry.mWorkloadUpdateInfo.isNone then entry
  else
    let entry :=
      match entry.mWorkloadUpdateInfo with
      | some info => { entry with
          mEarliestVsync := info.earliestVsync
          mWorkDuration := info.duration
          mWorkloadUpdateInfo := none }
      | none => entry
    let nextVsyncTime := tracker (max entry.mEarliestVsync (now + entry.mWorkDuration))
    { entry with
      mArmedInfo := some ⟨nextVsyncTime - entry.mWorkDuration, nextVsyncTime⟩ }

def disarm : Entry := { entry with mArmedInfo := none }

def executing (info : ArmingInfo) : Entry :=
  { entry with mLastDispatchTime := some info.mActualVsyncTime }.disarm

end Entry

structure Invocation where
  token : Nat
  vsyncTimestamp : Int
  wakeupTimestamp : Int
  deriving DecidableEq, Repr

/-- The queue, with the time keeper's alarm. The order of the callbacks is that of some
iteration. -/
structure VSyncDispatchTimerQueue where
  mTimerSlack : Int
  mMinVsyncDistance : Int
  mCallbackToken : Nat
  mCallbacks : List (Nat × Entry)
  mIntendedWakeupTime : Int
  alarm : Option Int
  deriving DecidableEq, Repr

namespace VSyncDispatchTimerQueue

variable (queue : VSyncDispatchTimerQueue)

def create (timerSlack minVsyncDistance : Int) : VSyncDispatchTimerQueue :=
  ⟨timerSlack, minVsyncDistance, 0, [], kInvalidTime, none⟩

def cancelTimer : VSyncDispatchTimerQueue :=
  { queue with mIntendedWakeupTime := kInvalidTime, alarm := none }

def setTimer (targetTime : Int) : VSyncDispatchTimerQueue :=
  { queue with mIntendedWakeupTime := targetTime, alarm := some targetTime }

def lower (least wakeupTime : Option Int) : Option Int :=
  match least, wakeupTime with
  | some least, some wakeupTime => some (if least > wakeupTime then wakeupTime else least)
  | none, some wakeupTime => some wakeupTime
  | least, none => least

def rearmLoop (tracker : Int → Int) (now : Int) (skipUpdate : Option Nat) :
    List (Nat × Entry) → Option Int → List (Nat × Entry) × Option Int
  | [], least => ([], least)
  | (token, entry) :: rest, least =>
    if entry.wakeupTime.isNone && !entry.hasPendingWorkloadUpdate then
      let (rest, least) := rearmLoop tracker now skipUpdate rest least
      ((token, entry) :: rest, least)
    else
      let entry := if some token ≠ skipUpdate then entry.update tracker now else entry
      let (rest, least) := rearmLoop tracker now skipUpdate rest (lower least entry.wakeupTime)
      ((token, entry) :: rest, least)

variable (tracker : Int → Int) (now : Int)

def rearmTimerSkippingUpdateFor (skipUpdate : Option Nat) : VSyncDispatchTimerQueue :=
  let (callbacks, least) := rearmLoop tracker now skipUpdate queue.mCallbacks none
  let queue := { queue with mCallbacks := callbacks }
  match least with
  | some least => if least < queue.mIntendedWakeupTime then queue.setTimer least else queue.cancelTimer
  | none => queue.cancelTimer

def rearmTimer : VSyncDispatchTimerQueue :=
  queue.rearmTimerSkippingUpdateFor tracker now none

/-- The loop of `timerCallback` over the callbacks that wake up before a time. -/
def execute (limit : Int) : List (Nat × Entry) → List (Nat × Entry) × List Invocation
  | [] => ([], [])
  | (token, entry) :: rest =>
    let (callbacks, invocations) := execute limit rest
    match entry.mArmedInfo with
    | some info =>
      if info.mActualWakeupTime < limit then
        ((token, entry.executing info) :: callbacks,
          ⟨token, info.mActualVsyncTime, info.mActualWakeupTime⟩ :: invocations)
      else ((token, entry) :: callbacks, invocations)
    | none => ((token, entry) :: callbacks, invocations)

def timerCallback (now later : Int) : List Invocation × VSyncDispatchTimerQueue :=
  let lagAllowance := max (now - queue.mIntendedWakeupTime) 0
  let (callbacks, invocations) :=
    execute (queue.mIntendedWakeupTime + queue.mTimerSlack + lagAllowance) queue.mCallbacks
  let queue := { queue with mCallbacks := callbacks, mIntendedWakeupTime := kInvalidTime }
  (invocations, queue.rearmTimer tracker later)

def registerCallback : Nat × VSyncDispatchTimerQueue :=
  let token := queue.mCallbackToken + 1
  (token, { queue with
    mCallbackToken := token
    mCallbacks := queue.mCallbacks ++ [(token, Entry.create queue.mMinVsyncDistance)] })

variable (token : Nat)

def unregisterCallback : VSyncDispatchTimerQueue :=
  { queue with mCallbacks := queue.mCallbacks.filter (·.1 ≠ token) }

def find : Option Entry :=
  (queue.mCallbacks.find? (·.1 = token)).map (·.2)

def put (entry : Entry) : VSyncDispatchTimerQueue :=
  { queue with mCallbacks :=
      queue.mCallbacks.map fun callback => if callback.1 = token then (token, entry) else callback }

def isBefore (time : Option Int) (bound : Int) : Bool := time.all (· < bound)

def schedule (workDuration earliestVsync : Int) (tracker : Int → Int) (now : Int) :
    ScheduleResult × VSyncDispatchTimerQueue :=
  match queue.find token with
  | none => (.error, queue)
  | some entry =>
    if now > queue.mIntendedWakeupTime then
      (.scheduled, queue.put token (entry.addPendingWorkloadUpdate workDuration earliestVsync))
    else
      let (result, entry) := entry.schedule workDuration earliestVsync tracker now
      let queue := queue.put token entry
      if result = .cannotSchedule then (result, queue)
      else
        if isBefore entry.wakeupTime (queue.mIntendedWakeupTime - queue.mTimerSlack) then
          (result, queue.rearmTimerSkippingUpdateFor tracker now (some token))
        else (result, queue)

def cancel (tracker : Int → Int) (now : Int) : CancelResult × VSyncDispatchTimerQueue :=
  match queue.find token with
  | none => (.error, queue)
  | some entry =>
    match entry.wakeupTime with
    | none => (.tooLate, queue)
    | some wakeupTime =>
      let queue := queue.put token entry.disarm
      if wakeupTime = queue.mIntendedWakeupTime then
        (.cancelled, { queue with mIntendedWakeupTime := kInvalidTime }.rearmTimer tracker now)
      else (.cancelled, queue)

end VSyncDispatchTimerQueue

/-! ## Runs of the timer queue

Every step takes a queue with its log of dispatches to the next one. What a step can do to one
callback is said once. -/

open VSyncDispatchTimerQueue List

variable (state : Dispatcher)

/-! ## What the loops do -/

namespace VSyncDispatchTimerQueue

variable (tracker : Int → Int) (now : Int) (skipUpdate : Option Nat)

def refresh (callback : Nat × Entry) : Nat × Entry :=
  (callback.1, if some callback.1 ≠ skipUpdate then callback.2.update tracker now else callback.2)

def leastWakeup (callbacks : List (Nat × Entry)) (least : Option Int) : Option Int :=
  callbacks.foldl (fun least callback => lower least callback.2.wakeupTime) least

lemma lower_none (least : Option Int) : lower least none = least := by cases least <;> rfl

lemma rearmLoop_eq (calls : List (Nat × Entry)) (least : Option Int) :
    rearmLoop tracker now skipUpdate calls least = (calls.map (refresh tracker now skipUpdate),
        leastWakeup (calls.map (refresh tracker now skipUpdate)) least) := by
  induction calls generalizing least with
  | nil => rfl
  | cons cb rest ih =>
    obtain ⟨token, e⟩ := cb
    unfold rearmLoop
    split
    · -- An idle entry stays as it is.
      rename_i idle
      have unarmed : e.mArmedInfo = none := by
        simpa [Entry.wakeupTime] using (Bool.and_eq_true_iff.mp idle).1
      have noUpdate : e.mWorkloadUpdateInfo = none := by
        simpa [Entry.hasPendingWorkloadUpdate] using (Bool.and_eq_true_iff.mp idle).2
      have same : refresh tracker now skipUpdate (token, e) = (token, e) := by
        simp [refresh, Entry.update, unarmed, noUpdate]
      rw [ih]
      simp [same, leastWakeup, Entry.wakeupTime, unarmed, lower_none]
    · dsimp only
      rw [ih]
      rfl

lemma lower_some (least wakeup : Option Int) :
    (∀ bound ∈ lower least wakeup, (∀ first ∈ least, bound ≤ first) ∧
      ∀ time ∈ wakeup, bound ≤ time) ∧
      (lower least wakeup = none → least = none ∧ wakeup = none) := by
  cases least with
  | none => cases wakeup <;> simp [lower]
  | some first =>
    cases wakeup with
    | none => simp [lower]
    | some time =>
      simp only [lower, Option.mem_def, Option.some.injEq]
      refine ⟨?_, nofun⟩
      rintro bound rfl
      split <;> constructor <;> intro other isOther <;> omega

lemma leastWakeup_some (isLeast : leastWakeup calls least = some bound) :
    (∀ first ∈ least, bound ≤ first) ∧ ∀ cb ∈ calls, ∀ wakeup ∈ cb.2.wakeupTime, bound ≤ wakeup := by
  induction calls generalizing least with
  | nil => exact ⟨by rintro first rfl; exact Int.le_of_eq (Option.some.inj isLeast).symm, by simp⟩
  | cons cb rest ih =>
    obtain ⟨below, others⟩ := ih isLeast
    have lowered := (lower_some least cb.2.wakeupTime)
    have here : (∀ first ∈ least, bound ≤ first) ∧
        ∀ wakeup ∈ cb.2.wakeupTime, bound ≤ wakeup := by
      cases step : lower least cb.2.wakeupTime with
      | none =>
        obtain ⟨noLeast, noWakeup⟩ := lowered.2 step
        simp [noLeast, noWakeup]
      | some mid =>
        have belowMiddle := below mid step
        obtain ⟨leastAbove, wakeupAbove⟩ := lowered.1 mid step
        exact ⟨fun first isFirst => Int.le_trans belowMiddle (leastAbove first isFirst),
          fun wakeup wakes => Int.le_trans belowMiddle (wakeupAbove wakeup wakes)⟩
    refine ⟨here.1, ?_⟩
    exact forall_mem_cons.2 ⟨here.2, others⟩

lemma leastWakeup_none (noLeast : leastWakeup calls least = none) :
    least = none ∧ ∀ cb ∈ calls, cb.2.wakeupTime = none := by
  induction calls generalizing least with
  | nil => exact ⟨noLeast, by simp⟩
  | cons cb rest ih =>
    obtain ⟨lowered, others⟩ := ih noLeast
    obtain ⟨none, idle⟩ := (lower_some least cb.2.wakeupTime).2 lowered
    refine ⟨none, ?_⟩
    exact forall_mem_cons.2 ⟨idle, others⟩

lemma rearm_callbacks (queue : VSyncDispatchTimerQueue) (tracker : Int → Int) (now : Int)
    (skipUpdate : Option Nat) :
    (queue.rearmTimerSkippingUpdateFor tracker now skipUpdate).mCallbacks =
      queue.mCallbacks.map (refresh tracker now skipUpdate) := by
  unfold rearmTimerSkippingUpdateFor
  rw [rearmLoop_eq]
  dsimp only
  split
  · split <;> rfl
  · rfl

variable (limit : Int)

def executed (entry : Entry) : Entry :=
  match entry.mArmedInfo with
  | some info => if info.mActualWakeupTime < limit then entry.executing info else entry
  | none => entry

def invocation (callback : Nat × Entry) : Option Invocation :=
  match callback.2.mArmedInfo with
  | some info =>
    if info.mActualWakeupTime < limit then
      some ⟨callback.1, info.mActualVsyncTime, info.mActualWakeupTime⟩
    else none
  | none => none

lemma execute_eq (calls : List (Nat × Entry)) : execute limit calls =
      (calls.map fun cb => (cb.1, executed limit cb.2), calls.filterMap (invocation limit)) := by
  induction calls with
  | nil => rfl
  | cons cb rest ih =>
    obtain ⟨token, e⟩ := cb
    unfold execute
    rw [ih]
    cases armed : e.mArmedInfo with
    | none => simp [executed, invocation, armed]
    | some info =>
      by_cases due : info.mActualWakeupTime < limit
      · simp [executed, invocation, armed, due]
      · simp [executed, invocation, armed, due]

lemma invocation_some {limit : Int} (isInvoked : invocation limit cb = some invoked) :
    ∃ info, cb.2.mArmedInfo = some info ∧ invoked.token = cb.1 ∧
      invoked.vsyncTimestamp = info.mActualVsyncTime ∧
      executed limit cb.2 = cb.2.executing info := by
  unfold invocation at isInvoked
  split at isInvoked
  · rename_i info armed
    split at isInvoked
    · rename_i due
      cases isInvoked
      exact ⟨info, armed, rfl, rfl, by simp [executed, armed, due]⟩
    · cases isInvoked
  · cases isInvoked

lemma executed_same {limit : Int} (idle : invocation limit cb = none) :
    executed limit cb.2 = cb.2 := by
  unfold invocation at idle
  unfold executed
  split at idle
  · rename_i info armed
    split at idle
    · cases idle
    · rename_i notDue
      simp [notDue]
  · simp

end VSyncDispatchTimerQueue

/-! ## Steps -/

inductive Call where
  | register
  | unregister (token : Nat)
  | schedule (token : Nat) (workDuration earliestVsync now : Int)
  | cancel (token : Nat) (now : Int)
  /-- The alarm goes off; the clock is read twice. -/
  | fire (now later : Int)
  deriving DecidableEq, Repr

structure Label where
  tracker : Int → Int
  call : Call

structure Dispatcher where
  queue : VSyncDispatchTimerQueue
  dispatched : List Invocation
  deriving DecidableEq, Repr

namespace Dispatcher

def create (timerSlack minVsyncDistance : Int) : Dispatcher :=
  ⟨VSyncDispatchTimerQueue.create timerSlack minVsyncDistance, []⟩

def step (label : Label) : Dispatcher :=
  match label.call with
  | .register => { state with queue := state.queue.registerCallback.2 }
  | .unregister token => { state with queue := state.queue.unregisterCallback token }
  | .schedule token workDuration earliestVsync now =>
    { state with queue :=
        (state.queue.schedule token workDuration earliestVsync label.tracker now).2 }
  | .cancel token now => { state with queue := (state.queue.cancel token label.tracker now).2 }
  | .fire now later =>
    -- Only a set alarm goes off.
    if state.queue.alarm.isSome then
      let (invocations, queue) := state.queue.timerCallback label.tracker now later
      ⟨queue, state.dispatched ++ invocations⟩
    else state

end Dispatcher

/-! ## What a step does to one callback -/

inductive EntryStep (label : Label) (token : Nat) : Entry → Entry → Prop
  | same (entry : Entry) : EntryStep label token entry entry
  | updated (entry : Entry) (now : Int)
      (rearms : (∃ other workDuration earliestVsync, other ≠ token ∧
          label.call = .schedule other workDuration earliestVsync now) ∨
        (∃ other, other ≠ token ∧ label.call = .cancel other now) ∨
        ∃ earlier, label.call = .fire earlier now) :
      EntryStep label token entry (entry.update label.tracker now)
  | executed {entry : Entry} {info : ArmingInfo} {now later : Int}
      (fires : label.call = .fire now later) (armed : entry.mArmedInfo = some info) :
      EntryStep label token entry ((entry.executing info).update label.tracker later)
  | scheduled (entry : Entry) {workDuration earliestVsync now : Int}
      (schedules : label.call = .schedule token workDuration earliestVsync now) :
      EntryStep label token entry (entry.schedule workDuration earliestVsync label.tracker now).2
  | postponed (entry : Entry) {workDuration earliestVsync now : Int}
      (schedules : label.call = .schedule token workDuration earliestVsync now) :
      EntryStep label token entry (entry.addPendingWorkloadUpdate workDuration earliestVsync)
  | disarmed {entry : Entry} {now : Int} (cancels : label.call = .cancel token now)
      (armed : entry.mArmedInfo ≠ none) : EntryStep label token entry entry.disarm
  | cancelled {entry : Entry} {now : Int} (cancels : label.call = .cancel token now)
      (armed : entry.mArmedInfo ≠ none) :
      EntryStep label token entry (entry.disarm.update label.tracker now)

def ComesFrom (label : Label) (before after : List (Nat × Entry)) : Prop :=
  ∀ callback ∈ after, ∃ entry, (callback.1, entry) ∈ before ∧
    EntryStep label callback.1 entry callback.2

namespace VSyncDispatchTimerQueue

variable {queue : VSyncDispatchTimerQueue}

lemma find_mem (hit : queue.find token = some e) : (token, e) ∈ queue.mCallbacks := by
  obtain ⟨cb, isCallback, rfl⟩ := Option.map_eq_some_iff.mp hit
  have mem := mem_of_find?_eq_some isCallback
  have eqTok := find?_some isCallback
  simp only [decide_eq_true_eq] at eqTok
  rw [← eqTok]
  exact mem

lemma mem_put (mem : cb ∈ (queue.put token e).mCallbacks) :
    cb = (token, e) ∨ (cb ∈ queue.mCallbacks ∧ cb.1 ≠ token) := by
  obtain ⟨old, oldM, isCallback⟩ := mem_map.mp mem
  split at isCallback
  · exact .inl isCallback.symm
  · rename_i ne
    subst isCallback
    exact .inr ⟨oldM, ne⟩

lemma put_mem (hit : queue.find token = some old) (e : Entry) :
    (token, e) ∈ (queue.put token e).mCallbacks := by
  refine mem_map.mpr ⟨(token, old), find_mem hit, ?_⟩
  simp

lemma put_tokens (e : Entry) :
    (queue.put token e).mCallbacks.map (·.1) = queue.mCallbacks.map (·.1) := by
  unfold put
  rw [map_map]
  apply map_congr_left
  intro cb mem
  simp only [Function.comp_apply]
  split
  · rename_i same
    exact same.symm
  · rfl

lemma refresh_tokens (tracker : Int → Int) (now : Int) (skipUpdate : Option Nat)
    (calls : List (Nat × Entry)) :
    (calls.map (refresh tracker now skipUpdate)).map (·.1) = calls.map (·.1) := by
  rw [map_map]
  rfl

lemma comesFrom_refl (calls : List (Nat × Entry)) : ComesFrom label calls calls :=
  fun cb mem => ⟨cb.2, mem, .same cb.2⟩

lemma comesFrom_put_refresh {after : Entry} (hit : queue.find token = some pre)
    (own : EntryStep label token pre after) (rearms : ∀ other, other ≠ token → ∀ e,
      EntryStep label other e (e.update label.tracker now)) :
    ComesFrom label queue.mCallbacks
      ((queue.put token after).mCallbacks.map (refresh label.tracker now (some token))) := by
  intro cb mem
  obtain ⟨old, oldM, rfl⟩ := mem_map.mp mem
  rcases mem_put oldM with rfl | ⟨same, ne⟩
  · refine ⟨pre, find_mem hit, ?_⟩
    simpa [refresh] using own
  · refine ⟨old.2, same, ?_⟩
    have updated := rearms old.1 ne old.2
    simpa [refresh, ne] using updated

lemma comesFrom_put {after : Entry} (hit : queue.find token = some old)
    (own : EntryStep label token old after) :
    ComesFrom label queue.mCallbacks (queue.put token after).mCallbacks := by
  intro cb mem
  rcases mem_put mem with rfl | ⟨same, _⟩
  · exact ⟨old, find_mem hit, own⟩
  · exact ⟨cb.2, same, .same cb.2⟩

lemma schedule_comesFrom (call : label.call = .schedule token work early now) :
    ComesFrom label queue.mCallbacks
      (queue.schedule token work early label.tracker now).2.mCallbacks := by
  unfold schedule
  split
  · exact comesFrom_refl queue.mCallbacks
  · rename_i e hit
    split
    · exact comesFrom_put hit (.postponed e call)
    · have own := EntryStep.scheduled e call
      generalize e.schedule work early label.tracker now = oc at own ⊢
      obtain ⟨res, after⟩ := oc
      dsimp only at own ⊢
      split
      · exact comesFrom_put hit own
      · split
        · rw [rearm_callbacks]
          apply comesFrom_put_refresh hit own
          intro other ne e
          exact .updated e now (.inl ⟨token, _, _, .symm ne, call⟩)
        · exact comesFrom_put hit own

lemma cancel_comesFrom (call : label.call = .cancel token now) :
    ComesFrom label queue.mCallbacks (queue.cancel token label.tracker now).2.mCallbacks := by
  unfold cancel
  split
  · exact comesFrom_refl queue.mCallbacks
  · rename_i e hit
    split
    · exact comesFrom_refl queue.mCallbacks
    · rename_i wakeup wakes
      have armed : e.mArmedInfo ≠ none := by
        intro idle
        simp [Entry.wakeupTime, idle] at wakes
      dsimp only
      split
      · rw [rearmTimer, rearm_callbacks]
        intro cb mem
        obtain ⟨old, oldM, rfl⟩ := mem_map.mp mem
        rcases mem_put oldM with rfl | ⟨same, ne⟩
        · exact ⟨e, find_mem hit, by simpa [refresh] using .cancelled call armed⟩
        · refine ⟨old.2, same, ?_⟩
          have updated : EntryStep label old.1 old.2 (old.2.update label.tracker now) :=
            .updated old.2 now (.inr (.inl ⟨token, .symm ne, call⟩))
          simpa [refresh] using updated
      · exact comesFrom_put hit (.disarmed call armed)

lemma timerCallback_comesFrom {later : Int} (call : label.call = .fire now later) :
    ComesFrom label queue.mCallbacks
      (queue.timerCallback label.tracker now later).2.mCallbacks := by
  unfold timerCallback
  dsimp only
  rw [execute_eq]
  dsimp only
  rw [rearmTimer, rearm_callbacks]
  intro cb mem
  obtain ⟨mid, middleMember, rfl⟩ := mem_map.mp mem
  obtain ⟨old, oldM, rfl⟩ := mem_map.mp middleMember
  refine ⟨old.2, oldM, ?_⟩
  have plain : EntryStep label old.1 old.2 (old.2.update label.tracker later) :=
    .updated old.2 later (.inr (.inr ⟨now, call⟩))
  cases invoked : invocation _ old with
  | none =>
    rw [executed_same invoked]
    simpa [refresh] using plain
  | some _ =>
    rcases invocation_some invoked with ⟨info, armed, _, _, ran⟩
    rw [ran]
    have executed : EntryStep label old.1 old.2
        ((old.2.executing info).update label.tracker later) := .executed call armed
    simpa [refresh] using executed

end VSyncDispatchTimerQueue

lemma Dispatcher.step_callbacks (label : Label) :
    (label.call = .register ∧ (state.step label).queue.mCallbacks = state.queue.mCallbacks ++
        [(state.queue.mCallbackToken + 1, Entry.create state.queue.mMinVsyncDistance)]) ∨
      ComesFrom label state.queue.mCallbacks (state.step label).queue.mCallbacks := by
  obtain ⟨tracker, call⟩ := label
  cases call with
  | register => exact .inl ⟨rfl, rfl⟩
  | unregister token =>
    right
    intro cb mem
    exact ⟨cb.2, (mem_filter.mp mem).1, .same cb.2⟩
  | schedule token work early now => exact .inr (schedule_comesFrom rfl)
  | cancel token now => exact .inr (cancel_comesFrom rfl)
  | fire now later =>
    right
    unfold Dispatcher.step
    dsimp only
    split
    · exact timerCallback_comesFrom rfl
    · exact comesFrom_refl _

/-! ## What no step changes -/

structure SameTokens (queue other : VSyncDispatchTimerQueue) : Prop where
  slack : other.mTimerSlack = queue.mTimerSlack
  distance : other.mMinVsyncDistance = queue.mMinVsyncDistance
  next : other.mCallbackToken = queue.mCallbackToken
  tokens : other.mCallbacks.map (·.1) = queue.mCallbacks.map (·.1)

namespace SameTokens

lemma refl (queue : VSyncDispatchTimerQueue) : SameTokens queue queue := ⟨rfl, rfl, rfl, rfl⟩

lemma trans (first : SameTokens queue mid) (second : SameTokens mid other) :
    SameTokens queue other :=
  ⟨second.slack.trans first.slack, second.distance.trans first.distance,
    second.next.trans first.next, second.tokens.trans first.tokens⟩

variable (queue) (token : Nat)

lemma put (e : Entry) : SameTokens queue (queue.put token e) :=
  ⟨rfl, rfl, rfl, put_tokens e⟩

lemma rearm (tracker : Int → Int) (now : Int) (skipUpdate : Option Nat) :
    SameTokens queue (queue.rearmTimerSkippingUpdateFor tracker now skipUpdate) := by
  have tokens := refresh_tokens tracker now skipUpdate queue.mCallbacks
  rw [← rearm_callbacks] at tokens
  refine ⟨?_, ?_, ?_, tokens⟩ <;>
  · unfold rearmTimerSkippingUpdateFor
    dsimp only
    split
    · split <;> rfl
    · rfl

lemma schedule (work early : Int) (tracker : Int → Int) (now : Int) :
    SameTokens queue (queue.schedule token work early tracker now).2 := by
  unfold VSyncDispatchTimerQueue.schedule
  split
  · exact refl queue
  · split
    · exact put queue token _
    · dsimp only
      split
      · exact put queue token _
      · split
        · exact (put queue token _).trans (rearm _ tracker now (some token))
        · exact put queue token _

variable (tracker : Int → Int)

lemma cancel (now : Int) : SameTokens queue (queue.cancel token tracker now).2 := by
  unfold VSyncDispatchTimerQueue.cancel
  split
  · exact refl queue
  · split
    · exact refl queue
    · dsimp only
      split
      · have disarmed := put queue token (.disarm ‹Entry›)
        have unset : SameTokens queue { queue.put token (.disarm ‹Entry›) with
            mIntendedWakeupTime := kInvalidTime } :=
          ⟨disarmed.slack, disarmed.distance, disarmed.next, disarmed.tokens⟩
        exact unset.trans (rearm _ tracker now none)
      · exact put queue token _

lemma timerCallback (now later : Int) :
    SameTokens queue (queue.timerCallback tracker now later).2 := by
  unfold VSyncDispatchTimerQueue.timerCallback
  dsimp only
  rw [VSyncDispatchTimerQueue.execute_eq]
  refine .trans ?_ (rearm _ tracker later none)
  refine ⟨rfl, rfl, rfl, ?_⟩
  rw [map_map]
  rfl

end SameTokens

lemma Dispatcher.step_sameTokens (label : Label) :
    label.call = .register ∨ (∃ token, label.call = .unregister token) ∨
      SameTokens state.queue (state.step label).queue := by
  rcases label with ⟨tracker, call⟩
  cases call with
  | register => exact .inl rfl
  | unregister token => exact .inr (.inl ⟨token, rfl⟩)
  | schedule token work early now => exact .inr (.inr (.schedule ..))
  | cancel token now => exact .inr (.inr (.cancel ..))
  | fire now later =>
    refine .inr (.inr ?_)
    unfold Dispatcher.step
    dsimp only
    split
    · exact .timerCallback ..
    · exact .refl _

/-- The tokens of a queue are distinct and were handed out. -/
structure Issued (queue : VSyncDispatchTimerQueue) : Prop where
  distinct : (queue.mCallbacks.map (·.1)).Nodup
  bounded : ∀ token ∈ queue.mCallbacks.map (·.1), token ≤ queue.mCallbackToken

lemma Issued.of_same (issued : Issued queue) (same : SameTokens queue other) : Issued other := by
  refine ⟨same.tokens ▸ issued.distinct, ?_⟩
  rw [same.tokens, same.next]
  exact issued.bounded

lemma Issued.step {state : Dispatcher} (issued : Issued state.queue) (label : Label) :
    Issued (state.step label).queue := by
  rcases state.step_sameTokens label with regs | ⟨token, unregisters⟩ | same
  · rw [Dispatcher.step, regs]
    constructor
    · simp only [registerCallback, map_append]
      rw [nodup_append]
      refine ⟨issued.distinct, nodup_singleton _, ?_⟩
      intro token mem new isNew same
      have bound := issued.bounded token mem
      simp only [map_singleton, mem_singleton] at isNew
      omega
    · intro token mem
      simp only [registerCallback, map_append, mem_append, map_singleton, mem_singleton] at mem ⊢
      rcases mem with old | new
      · exact Nat.le_succ_of_le (issued.bounded token old)
      · exact Nat.le_of_eq new
  · rw [Dispatcher.step, unregisters]
    have fewer : ((state.queue.mCallbacks.filter (·.1 ≠ token)).map (·.1)).Sublist
        (state.queue.mCallbacks.map (·.1)) := filter_sublist.map _
    exact ⟨issued.distinct.sublist fewer, fun other mem =>
      issued.bounded other (fewer.subset mem)⟩
  · exact issued.of_same same

variable (timerSlack gap : Int) (labels : List Label)

lemma issued_run : Issued (Machine.run Dispatcher.step (Dispatcher.create timerSlack gap)
      labels).queue := by
  apply Machine.run_always (fun (state : Dispatcher) label (holds : Issued state.queue) =>
    holds.step label)
  constructor <;> simp [Dispatcher.create, create]

lemma Dispatcher.step_settings (label : Label) :
    (state.step label).queue.mTimerSlack = state.queue.mTimerSlack ∧
      (state.step label).queue.mMinVsyncDistance = state.queue.mMinVsyncDistance := by
  rcases state.step_sameTokens label with regs | ⟨token, unregisters⟩ | same
  · rw [Dispatcher.step, regs]
    exact ⟨rfl, rfl⟩
  · rw [Dispatcher.step, unregisters]
    exact ⟨rfl, rfl⟩
  · exact ⟨same.slack, same.distance⟩

lemma run_settings : (Machine.run Dispatcher.step (Dispatcher.create timerSlack gap)
        labels).queue.mTimerSlack = timerSlack ∧
      (Machine.run Dispatcher.step (Dispatcher.create timerSlack gap)
        labels).queue.mMinVsyncDistance = gap := by
  apply Machine.run_always (fun (state : Dispatcher) label
    (holds : state.queue.mTimerSlack = timerSlack ∧
      state.queue.mMinVsyncDistance = gap) =>
    ⟨(state.step_settings label).1.trans holds.1, (state.step_settings label).2.trans holds.2⟩)
  exact ⟨rfl, rfl⟩

def Dispatcher.invoked (label : Label) : List Invocation :=
  match label.call with
  | .fire now _ =>
    if state.queue.alarm.isSome then
      state.queue.mCallbacks.filterMap (invocation
        (state.queue.mIntendedWakeupTime + state.queue.mTimerSlack +
          max (now - state.queue.mIntendedWakeupTime) 0))
    else []
  | _ => []

lemma Dispatcher.step_dispatched (label : Label) :
    (state.step label).dispatched = state.dispatched ++ state.invoked label := by
  obtain ⟨tracker, call⟩ := label
  cases call with
  | fire now later =>
    unfold Dispatcher.step Dispatcher.invoked
    dsimp only
    split
    · unfold timerCallback
      dsimp only
      rw [execute_eq]
    · simp
  | _ => simp [Dispatcher.step, Dispatcher.invoked]

def everyTen (time : Int) : Int := (time / 10 + 1) * 10

end NativeLibs.Scheduler
