import Mathlib.Data.List.Chain
import NativeLibs.Scheduler.VSyncDispatchTimerQueue

/-! # Vsync targets

Successive dispatches of a callback keep the minimum distance, unless an update moves an armed
callback to the vsync that it was last dispatched for. -/

namespace NativeLibs.Scheduler

open VSyncDispatchTimerQueue List Machine

def FarApart (distance first second : Int) : Prop :=
  first + distance ≤ second ∨ second + distance ≤ first

def targets (dispatched : List Invocation) (token : Nat) : List Int :=
  (dispatched.filter (·.token = token)).map (·.vsyncTimestamp)

/-- Successive dispatches of one callback have targets at a distance. -/
def Spaced (distance : Int) (dispatched : List Invocation) : Prop :=
  ∀ token, (targets dispatched token).IsChain (FarApart distance)

namespace Entry

def Apart (entry : Entry) : Prop :=
  ∀ info ∈ entry.mArmedInfo, ∀ last ∈ entry.mLastDispatchTime,
    FarApart entry.mMinVsyncDistance last info.mActualVsyncTime

/-- An update of the entry at this time asks for a vsync behind the last target. -/
def Ready (entry : Entry) (now : Int) : Prop :=
  (entry.mArmedInfo.isSome ∨ entry.mWorkloadUpdateInfo.isSome) →
    ∀ last ∈ entry.mLastDispatchTime, last + entry.mMinVsyncDistance ≤
      match entry.mWorkloadUpdateInfo with
      | some info => max info.earliestVsync (now + info.duration)
      | none => max entry.mEarliestVsync (now + entry.mWorkDuration)

variable {entry : Entry}

lemma update_keeps (entry : Entry) (track : Int → Int) (now : Int) :
    (entry.update track now).mLastDispatchTime = entry.mLastDispatchTime ∧
      (entry.update track now).mMinVsyncDistance = entry.mMinVsyncDistance := by
  unfold update
  split
  · exact ⟨rfl, rfl⟩
  · dsimp only
    split <;> exact ⟨rfl, rfl⟩

lemma schedule_keeps (entry : Entry) (work early : Int) (track : Int → Int) (now : Int) :
    (entry.schedule work early track now).2.mLastDispatchTime = entry.mLastDispatchTime ∧
      (entry.schedule work early track now).2.mMinVsyncDistance = entry.mMinVsyncDistance := by
  unfold schedule
  dsimp only
  split <;> exact ⟨rfl, rfl⟩

lemma Ready.update {now : Int} (ready : entry.Ready now) (ahead : ∀ time, time ≤ track time) :
    (entry.update track now).Apart := by
  intro info armed last isLast
  rw [(update_keeps entry track now).1] at isLast
  rw [(update_keeps entry track now).2]
  unfold Entry.update at armed
  split at armed
  · rename_i idle
    rw [Bool.and_eq_true, Option.isNone_iff_eq_none] at idle
    simp [idle.1] at armed
  · rename_i busy
    have isBusy : entry.mArmedInfo.isSome ∨ entry.mWorkloadUpdateInfo.isSome := by
      cases armedInfo : entry.mArmedInfo <;> cases updateInfo : entry.mWorkloadUpdateInfo <;>
        simp_all
    have bound := ready isBusy last isLast
    left
    dsimp only at armed
    split at armed
    · rename_i updateInfo isUpdate
      rw [isUpdate] at bound
      cases armed
      exact Int.le_trans bound (ahead _)
    · rename_i noUpdate
      rw [noUpdate] at bound
      cases armed
      exact Int.le_trans bound (ahead _)

lemma Apart.schedule (apart : entry.Apart) (ahead : ∀ time, time ≤ track time)
    (work early now : Int) : (entry.schedule work early track now).2.Apart := by
  intro info armed last isLast
  rw [(schedule_keeps entry work early track now).1] at isLast
  rw [(schedule_keeps entry work early track now).2]
  unfold Entry.schedule at armed
  dsimp only at armed
  split at armed
  · exact apart info armed last isLast
  · rw [Option.mem_def] at isLast
    rw [isLast] at armed
    dsimp only at armed
    cases armed
    dsimp only
    split
    · exact .inl (ahead (last + entry.mMinVsyncDistance))
    · rename_i notClose
      unfold FarApart
      omega

end Entry

/-! ## Runs -/

/-- The last target of a callback is that of its last dispatch, and an armed one keeps the
distance from it. -/
structure Tracked (distance : Int) (dispatched : List Invocation) (callback : Nat × Entry) :
    Prop where
  distance : callback.2.mMinVsyncDistance = distance
  last : callback.2.mLastDispatchTime = (targets dispatched callback.1).getLast?
  apart : callback.2.Apart

structure Spread (state : Dispatcher) : Prop where
  issued : Issued state.queue
  logged : ∀ invocation ∈ state.dispatched, invocation.token ≤ state.queue.mCallbackToken
  tracked : ∀ callback ∈ state.queue.mCallbacks,
    Tracked state.queue.mMinVsyncDistance state.dispatched callback
  spaced : Spaced state.queue.mMinVsyncDistance state.dispatched

/-- Every update in the loop that rearms the timer asks for a vsync behind the last target. -/
def RearmReady (callbacks : List (Nat × Entry)) (skipUpdate : Option Nat) (now : Int) : Prop :=
  ∀ callback ∈ callbacks, some callback.1 ≠ skipUpdate → callback.2.Ready now

variable (state : Dispatcher) (label : Label)

/-- A step that rearms the timer does so when every update asks for a vsync behind the last
target. -/
def RearmsBehind : Prop :=
  match label.call with
  | .schedule token workDuration earliestVsync now =>
    ∀ entry ∈ state.queue.find token, now ≤ state.queue.mIntendedWakeupTime →
      isBefore (entry.schedule workDuration earliestVsync label.tracker now).2.wakeupTime
        (state.queue.mIntendedWakeupTime - state.queue.mTimerSlack) →
      RearmReady state.queue.mCallbacks (some token) now
  | .cancel token now =>
    ∀ entry ∈ state.queue.find token, entry.wakeupTime = some state.queue.mIntendedWakeupTime →
      RearmReady (state.queue.put token entry.disarm).mCallbacks none now
  | .fire now later =>
    state.queue.alarm.isSome →
      RearmReady (execute (state.queue.mIntendedWakeupTime +
        state.queue.mTimerSlack + max (now - state.queue.mIntendedWakeupTime) 0)
        state.queue.mCallbacks).1 none later
  | _ => True

/-- The tracker predicts no vsync before the time it is asked for, either. -/
def AsksBehind : Prop :=
  RearmsBehind state label ∧ ∀ time, time ≤ label.tracker time

instance (entry : Entry) (now : Int) : Decidable (entry.Ready now) :=
  inferInstanceAs (Decidable (_ → _))

instance (callbacks : List (Nat × Entry)) (skipUpdate : Option Nat) (now : Int) :
    Decidable (RearmReady callbacks skipUpdate now) :=
  inferInstanceAs (Decidable (∀ callback ∈ callbacks, _))

instance (state : Dispatcher) : (label : Label) → Decidable (RearmsBehind state label)
  | ⟨_, .schedule token _ _ _⟩ => inferInstanceAs (Decidable (∀ entry ∈ state.queue.find token, _))
  | ⟨_, .cancel token _⟩ => inferInstanceAs (Decidable (∀ entry ∈ state.queue.find token, _))
  | ⟨_, .fire _ _⟩ => inferInstanceAs (Decidable (_ → _))
  | ⟨_, .register⟩ => inferInstanceAs (Decidable True)
  | ⟨_, .unregister _⟩ => inferInstanceAs (Decidable True)

section Steps

variable {distance : Int} {queue : VSyncDispatchTimerQueue}

lemma Tracked.refresh (seen : Tracked distance sent cb)
    (ready : some cb.1 ≠ skipUpdate → cb.2.Ready now) (ahead : ∀ time, time ≤ track time) :
    Tracked distance sent (VSyncDispatchTimerQueue.refresh track now skipUpdate cb) := by
  unfold VSyncDispatchTimerQueue.refresh
  by_cases skips : some cb.1 ≠ skipUpdate
  · rw [if_pos skips]
    obtain ⟨sameLast, sameDistance⟩ := cb.2.update_keeps track now
    exact ⟨sameDistance.trans seen.distance, sameLast.trans seen.last, (ready skips).update ahead⟩
  · rw [if_neg skips]
    exact seen

variable (seen : ∀ callback ∈ queue.mCallbacks, Tracked distance sent callback)
include seen

lemma tracked_rearm (ready : RearmReady queue.mCallbacks skipUpdate now)
    (ahead : ∀ time, time ≤ track time) :
    ∀ cb ∈ (queue.rearmTimerSkippingUpdateFor track now skipUpdate).mCallbacks,
      Tracked distance sent cb := by
  intro cb mem
  rw [rearm_callbacks] at mem
  obtain ⟨old, oldM, rfl⟩ := mem_map.mp mem
  exact (seen old oldM).refresh (ready old oldM) ahead

lemma tracked_put (new : Tracked distance sent (tok, entry)) :
    ∀ cb ∈ (queue.put tok entry).mCallbacks, Tracked distance sent cb := by
  intro cb mem
  rcases mem_put mem with rfl | ⟨same, _⟩
  · exact new
  · exact seen cb same

end Steps

namespace Spread

variable {state : Dispatcher} {callbacks : List (Nat × Entry)}

section

variable (spread : Spread state)
include spread

lemma of_same (same : SameTokens state.queue queue) (seen : ∀ cb ∈ queue.mCallbacks,
      Tracked state.queue.mMinVsyncDistance state.dispatched cb) :
    Spread { state with queue := queue } where
  issued := spread.issued.of_same same
  logged := by
    rw [same.next]
    exact spread.logged
  tracked := by
    rw [same.distance]
    exact seen
  spaced := by
    rw [same.distance]
    exact spread.spaced

lemma register (track : Int → Int) : Spread (state.step ⟨track, .register⟩) where
  issued := spread.issued.step _
  logged := fun invocation mem => Nat.le_succ_of_le (spread.logged invocation mem)
  tracked := by
    refine forall_mem_append.2 ⟨spread.tracked, forall_mem_singleton.2 ?_⟩
    refine ⟨rfl, ?_, nofun⟩
    have unused : targets state.dispatched (state.queue.mCallbackToken + 1) = [] := by
      unfold targets
      rw [map_eq_nil_iff, filter_eq_nil_iff]
      intro invocation logged isToken
      have bound := spread.logged invocation logged
      simp only [decide_eq_true_eq] at isToken
      omega
    exact (congrArg getLast? unused).symm
  spaced := spread.spaced

lemma unregister (track : Int → Int) (tok : Nat) :
    Spread (state.step ⟨track, .unregister tok⟩) where
  issued := spread.issued.step _
  logged := spread.logged
  tracked := fun cb mem => spread.tracked cb (mem_filter.mp mem).1
  spaced := spread.spaced

lemma schedule (asks : AsksBehind state ⟨track, .schedule tok work earliest now⟩) :
    Spread (state.step ⟨track, .schedule tok work earliest now⟩) := by
  obtain ⟨ready, ahead⟩ := asks
  have same := SameTokens.schedule state.queue tok work earliest track now
  refine spread.of_same same ?_
  unfold VSyncDispatchTimerQueue.schedule
  split
  · exact spread.tracked
  · rename_i entry hit
    have old := spread.tracked _ (VSyncDispatchTimerQueue.find_mem hit)
    split
    · exact tracked_put spread.tracked ⟨old.distance, old.last, old.apart⟩
    · rename_i notImminent
      obtain ⟨sameLast, sameDistance⟩ := entry.schedule_keeps work earliest track now
      have new : Tracked state.queue.mMinVsyncDistance state.dispatched
          (tok, (entry.schedule work earliest track now).2) :=
        ⟨sameDistance.trans old.distance, sameLast.trans old.last, old.apart.schedule ahead _ _ _⟩
      have put := tracked_put spread.tracked new
      dsimp only
      split
      · exact put
      · split
        · rename_i early
          refine tracked_rearm put ?_ ahead
          intro cb mem notSkipped
          rcases VSyncDispatchTimerQueue.mem_put mem with rfl | ⟨unchanged, _⟩
          · exact absurd rfl notSkipped
          · exact ready entry hit (Int.not_lt.mp notImminent) early cb unchanged notSkipped
        · exact put

lemma cancel (asks : AsksBehind state ⟨track, .cancel tok now⟩) :
    Spread (state.step ⟨track, .cancel tok now⟩) := by
  obtain ⟨ready, ahead⟩ := asks
  refine spread.of_same (.cancel state.queue tok track now) ?_
  unfold VSyncDispatchTimerQueue.cancel
  split
  · exact spread.tracked
  · rename_i entry hit
    split
    · exact spread.tracked
    · rename_i wakeupTime wakes
      have old := spread.tracked _ (VSyncDispatchTimerQueue.find_mem hit)
      have disarmed : Tracked state.queue.mMinVsyncDistance state.dispatched
          (tok, entry.disarm) := ⟨old.distance, old.last, nofun⟩
      have put := tracked_put spread.tracked disarmed
      dsimp only
      split
      · rename_i isIntended
        refine tracked_rearm ?_ ?_ ahead
        · exact put
        · exact ready entry hit (wakes.trans (congrArg some isIntended))
      · exact put

end

/-! ### Dispatches -/

lemma targets_append (sent invocations : List Invocation) (tok : Nat) :
    targets (sent ++ invocations) tok = targets sent tok ++ targets invocations tok := by
  unfold targets
  rw [filter_append, map_append]

lemma targets_absent (limit : Int) (miss : tok ∉ callbacks.map (·.1)) :
    targets (callbacks.filterMap (invocation limit)) tok = [] := by
  unfold targets
  rw [map_eq_nil_iff, filter_eq_nil_iff]
  intro invocation mem isToken
  obtain ⟨cb, callbackMember, isInvocation⟩ := mem_filterMap.mp mem
  obtain ⟨info, _, eqTok, _⟩ := invocation_some isInvocation
  simp only [decide_eq_true_eq] at isToken
  exact miss (isToken ▸ eqTok ▸ mem_map_of_mem callbackMember)

lemma targets_present (limit : Int) (nodup : (callbacks.map (·.1)).Nodup) (mem : cb ∈ callbacks) :
    targets (callbacks.filterMap (invocation limit)) cb.1 =
      ((invocation limit cb).map (·.vsyncTimestamp)).toList := by
  obtain ⟨old, after, rfl⟩ := append_of_mem mem
  rw [map_append, map_cons] at nodup
  have apart := nodup_middle.mp nodup
  rw [nodup_cons, mem_append, not_or] at apart
  rw [filterMap_append, targets_append, targets_absent limit apart.1.1, nil_append]
  cases invoked : invocation limit cb with
  | none =>
    rw [filterMap_cons_none invoked]
    exact targets_absent limit apart.1.2
  | some invocation =>
    obtain ⟨info, _, eqTok, _⟩ := invocation_some invoked
    rw [filterMap_cons_some invoked, ← singleton_append, targets_append,
      targets_absent limit apart.1.2]
    simp [targets, eqTok]

variable (spread : Spread state)
include spread

variable (limit : Int)

lemma targets_dispatched (mem : cb ∈ state.queue.mCallbacks) : targets (state.dispatched ++
        state.queue.mCallbacks.filterMap (invocation limit)) cb.1 = targets state.dispatched cb.1 ++
        ((invocation limit cb).map (·.vsyncTimestamp)).toList := by
  rw [targets_append, targets_present limit spread.issued.distinct mem]

lemma tracked_executed : ∀ cb ∈ state.queue.mCallbacks.map fun cb =>
        (cb.1, executed limit cb.2), Tracked state.queue.mMinVsyncDistance (state.dispatched ++
        state.queue.mCallbacks.filterMap (invocation limit)) cb := by
  intro cb mem
  obtain ⟨old, oldM, rfl⟩ := mem_map.mp mem
  have seen := spread.tracked old oldM
  have log := spread.targets_dispatched limit oldM
  cases invoked : invocation limit old with
  | none =>
    rw [invoked, Option.map_none, Option.toList_none, append_nil] at log
    rw [executed_same invoked]
    exact ⟨seen.distance, seen.last.trans (congrArg getLast? log).symm, seen.apart⟩
  | some invocation =>
    obtain ⟨info, _, _, isTarget, executed⟩ := invocation_some invoked
    rw [invoked, Option.map_some, Option.toList_some, isTarget] at log
    rw [executed]
    refine ⟨seen.distance, ?_, nofun⟩
    rw [log, getLast?_concat]
    rfl

lemma spaced_executed : Spaced state.queue.mMinVsyncDistance (state.dispatched ++
      state.queue.mCallbacks.filterMap (invocation limit)) := by
  intro tok
  by_cases reg : tok ∈ state.queue.mCallbacks.map (·.1)
  · obtain ⟨cb, mem, rfl⟩ := mem_map.mp reg
    have seen := spread.tracked cb mem
    rw [spread.targets_dispatched limit mem]
    cases invoked : invocation limit cb with
    | none =>
      rw [Option.map_none, Option.toList_none, append_nil]
      exact spread.spaced cb.1
    | some invocation =>
      obtain ⟨info, armed, _, isTarget, _⟩ := invocation_some invoked
      rw [Option.map_some, Option.toList_some, isTarget]
      apply (spread.spaced cb.1).append (isChain_singleton _)
      intro last isLast next isNext
      rw [← seen.last] at isLast
      have apart := seen.apart info armed last isLast
      rw [seen.distance] at apart
      rw [head?_singleton, Option.mem_some_iff] at isNext
      exact isNext ▸ apart
  · rw [targets_append, targets_absent limit reg, append_nil]
    exact spread.spaced tok

lemma fire (asks : AsksBehind state ⟨track, .fire now later⟩) :
    Spread (state.step ⟨track, .fire now later⟩) := by
  obtain ⟨ready, ahead⟩ := asks
  unfold Dispatcher.step
  dsimp only at ready ⊢
  split
  · rename_i isSet
    have same := SameTokens.timerCallback state.queue track now later
    have readyNow := ready isSet
    unfold timerCallback at same ⊢
    dsimp only at same ⊢
    generalize state.queue.mIntendedWakeupTime + state.queue.mTimerSlack +
      max (now - state.queue.mIntendedWakeupTime) 0 = limit at same readyNow ⊢
    rw [execute_eq] at same readyNow ⊢
    have executed := spread.tracked_executed limit
    refine ⟨spread.issued.of_same same, ?_, ?_, ?_⟩
    · intro invocation mem
      rw [same.next]
      rcases mem_append.mp mem with old | new
      · exact spread.logged invocation old
      · obtain ⟨cb, callbackMember, invoked⟩ := mem_filterMap.mp new
        obtain ⟨info, _, eqTok, _⟩ := invocation_some invoked
        rw [eqTok]
        exact spread.issued.bounded _ (mem_map_of_mem callbackMember)
    · rw [same.distance]
      exact tracked_rearm executed readyNow ahead
    · rw [same.distance]
      exact spread.spaced_executed limit
  · exact spread

lemma step {label : Label} (asks : AsksBehind state label) : Spread (state.step label) := by
  obtain ⟨track, call⟩ := label
  cases call with
  | register => exact spread.register track
  | unregister tok => exact spread.unregister track tok
  | schedule tok work early now => exact spread.schedule asks
  | cancel tok now => exact spread.cancel asks
  | fire now later => exact spread.fire asks

end Spread

/-- In every run in which the timer is rearmed only when each update asks for a vsync behind the
last target of its callback, successive dispatches of a callback are not closer than the minimum
distance. -/
theorem targets_spaced (timerSlack minVsyncDistance : Int) (labels : List Label)
    (along : Machine.Along Dispatcher.step AsksBehind
      (Dispatcher.create timerSlack minVsyncDistance) labels) :
    Spaced minVsyncDistance (run Dispatcher.step
      (Dispatcher.create timerSlack minVsyncDistance) labels).dispatched := by
  have init : Spread (Dispatcher.create timerSlack minVsyncDistance) := by
    refine ⟨issued_run timerSlack minVsyncDistance [], ?_, ?_, fun token => .nil⟩
    · simp [Dispatcher.create]
    · simp [Dispatcher.create, create]
  have spread := run_invariant
    (fun state label (holds : Spread state) asks => holds.step asks) init along
  have spaced := spread.spaced
  rwa [(run_settings timerSlack minVsyncDistance labels).2] at spaced

lemma everyTen_ahead (time : Int) : time ≤ everyTen time := by
  unfold everyTen
  omega

lemma everyTen_mono (le : first ≤ second) : everyTen first ≤ everyTen second := by
  unfold everyTen
  omega

def twoVsyncs : List Label :=
  [⟨everyTen, .register⟩, ⟨everyTen, .register⟩, ⟨everyTen, .schedule 1 5 0 0⟩, ⟨everyTen, .fire 5 5⟩,
    ⟨everyTen, .schedule 1 5 0 9⟩, ⟨everyTen, .schedule 2 7 0 9⟩, ⟨everyTen, .fire 13 13⟩,
    ⟨everyTen, .fire 15 15⟩]

theorem targets_spaced_twoVsyncs :
    (run Dispatcher.step (Dispatcher.create 1 3) twoVsyncs).dispatched =
        [⟨1, 10, 5⟩, ⟨2, 20, 13⟩, ⟨1, 20, 15⟩] ∧
      Spaced 3 (run Dispatcher.step (Dispatcher.create 1 3) twoVsyncs).dispatched := by
  have behind : Machine.Along .step RearmsBehind (.create 1 3) twoVsyncs := by
    decide
  have ahead : ∀ label ∈ twoVsyncs, ∀ time, time ≤ label.tracker time := by
    simpa [twoVsyncs] using everyTen_ahead
  exact ⟨by decide, targets_spaced 1 3 twoVsyncs (behind.and_forall ahead)⟩

/-- A callback is scheduled for the vsync behind its last one, and moved back to that one when
another callback is scheduled. -/
def movedBack : List Label :=
  [⟨everyTen, .register⟩, ⟨everyTen, .register⟩, ⟨everyTen, .schedule 1 5 0 0⟩, ⟨everyTen, .fire 5 5⟩,
    ⟨everyTen, .schedule 1 1 0 5⟩, ⟨everyTen, .schedule 2 2 0 6⟩, ⟨everyTen, .fire 8 8⟩,
    ⟨everyTen, .fire 9 9⟩]

/-- It is dispatched twice for one vsync, although the tracker is monotone. -/
theorem target_repeated : (∀ first second, first ≤ second → everyTen first ≤ everyTen second) ∧
      (run Dispatcher.step (Dispatcher.create 1 3) movedBack).dispatched =
        [⟨1, 10, 5⟩, ⟨2, 10, 8⟩, ⟨1, 10, 9⟩] ∧
      ¬Spaced 3 (run Dispatcher.step (Dispatcher.create 1 3) movedBack).dispatched := by
  have log : (run Dispatcher.step (Dispatcher.create 1 3) movedBack).dispatched =
      [⟨1, 10, 5⟩, ⟨2, 10, 8⟩, ⟨1, 10, 9⟩] := by decide
  refine ⟨fun first second => everyTen_mono, log, ?_⟩
  intro spaced
  have chain := spaced 1
  rw [log] at chain
  have close : FarApart 3 10 10 := by simpa [targets] using chain
  unfold FarApart at close
  omega

end NativeLibs.Scheduler
