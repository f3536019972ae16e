import NativeLibs.Scheduler.VSyncDispatchTimerQueue

/-! # Cancellation

A callback that was cancelled without a pending workload update is not dispatched before it is
scheduled again. -/

namespace NativeLibs.Scheduler

open VSyncDispatchTimerQueue Dispatcher
open Machine (run)
open List

/-- An entry that nothing arms but a call of `schedule`. -/
structure Entry.Idle (entry : Entry) : Prop where
  unarmed : entry.mArmedInfo = none
  noUpdate : entry.mWorkloadUpdateInfo = none

lemma Entry.Idle.update {e : Entry} (idle : e.Idle) (track : Int → Int) (now : Int) :
    e.update track now = e := by
  simp [Entry.update, idle.unarmed, idle.noUpdate]

structure Quiet (token : Nat) (state : Dispatcher) : Prop where
  issued : token ≤ state.queue.mCallbackToken
  idle : ∀ callback ∈ state.queue.mCallbacks, callback.1 = token → callback.2.Idle

lemma EntryStep.idle {next : Entry} (step : EntryStep label token e next) (idle : e.Idle)
    (unscheduled : ∀ work early now, label.call ≠ .schedule token work early now) : next.Idle := by
  cases step with
  | same => exact idle
  | updated now rearms =>
    rw [idle.update]
    exact idle
  | executed fires armed => simp [idle.unarmed] at armed
  | scheduled schedules | postponed schedules => exact absurd schedules (unscheduled _ _ _)
  | disarmed _ armed | cancelled _ armed => exact absurd idle.unarmed armed

namespace Quiet

lemma next_token (state : Dispatcher) (label : Label) :
    state.queue.mCallbackToken ≤ (state.step label).queue.mCallbackToken := by
  rcases state.step_sameTokens label with regs | ⟨other, unregisters⟩ | same
  · rw [step, regs]
    exact Nat.le_succ _
  · rw [step, unregisters]
    exact Nat.le_refl _
  · exact Nat.le_of_eq same.next.symm

variable (quiet : Quiet token state)
include quiet

lemma step (unscheduled : ∀ work early now, label.call ≠ .schedule token work early now) :
    Quiet token (state.step label) := by
  refine ⟨Nat.le_trans quiet.issued (next_token state label), ?_⟩
  intro cb mem eqTok
  rcases state.step_callbacks label with ⟨_, calls⟩ | comesFrom
  · rw [calls, mem_append, mem_singleton] at mem
    rcases mem with old | rfl
    · exact quiet.idle cb old eqTok
    · have issued := quiet.issued
      simp only at eqTok
      omega
  · obtain ⟨e, entryMember, entryStep⟩ := comesFrom cb mem
    have idle := quiet.idle _ entryMember eqTok
    rw [eqTok] at entryStep
    exact entryStep.idle idle unscheduled

lemma not_invoked (label : Label) : ∀ call ∈ state.invoked label, call.token ≠ token := by
  intro call mem eqTok
  unfold invoked at mem
  split at mem
  · split at mem
    · rcases mem_filterMap.mp mem with ⟨cb, callbackMember, isInvocation⟩
      rcases invocation_some isInvocation with ⟨info, armed, isToken, _⟩
      have idle := (quiet.idle cb callbackMember (isToken ▸ eqTok)).unarmed
      simp [armed] at idle
    · simp at mem
  · simp at mem

lemma run (unscheduled : ∀ label ∈ labels, ∀ work early now,
      label.call ≠ .schedule token work early now) :
    ∃ later, (run Dispatcher.step state labels).dispatched = state.dispatched ++ later ∧
      ∀ call ∈ later, call.token ≠ token := by
  induction labels generalizing state with
  | nil => exact ⟨[], by simp [run], by simp⟩
  | cons label rest ih =>
    have next := quiet.step (unscheduled label (mem_cons_self ..))
    obtain ⟨later, sent, others⟩ :=
      ih next (fun other mem => unscheduled other (mem_cons_of_mem _ mem))
    refine ⟨state.invoked label ++ later, ?_, ?_⟩
    · rw [run, sent, state.step_dispatched, append_assoc]
    · exact forall_mem_append.2 ⟨fun call now => quiet.not_invoked label call now, others⟩

end Quiet

lemma quiet_of_cancelled {state : Dispatcher} (issued : Issued state.queue)
    (cancels : (state.queue.cancel token track now).1 = .cancelled)
    (noUpdate : ∀ e, state.queue.find token = some e → e.mWorkloadUpdateInfo = none) :
    Quiet token (state.step ⟨track, .cancel token now⟩) := by
  have same := SameTokens.cancel state.queue token track now
  unfold step
  dsimp only
  cases hit : state.queue.find token with
  | none => simp [cancel, hit] at cancels
  | some e =>
    have disarmedIdle : e.disarm.Idle := ⟨rfl, noUpdate e hit⟩
    have issuedToken : token ≤ state.queue.mCallbackToken :=
      issued.bounded token (mem_map_of_mem (find_mem hit))
    refine ⟨same.next ▸ issuedToken, ?_⟩
    intro cb mem eqTok
    cases wakeup : e.wakeupTime with
    | none => simp [cancel, hit, wakeup] at cancels
    | some wakeupTime =>
      simp only [cancel, hit, wakeup] at mem
      split at mem
      · rw [rearmTimer, rearm_callbacks]
          at mem
        obtain ⟨old, oldM, rfl⟩ := mem_map.mp mem
        rcases mem_put oldM with rfl | ⟨_, ne⟩
        · simpa [refresh, disarmedIdle.update] using disarmedIdle
        · exact absurd eqTok ne
      · rcases mem_put mem with rfl | ⟨_, ne⟩
        · exact disarmedIdle
        · exact absurd eqTok ne

/-- In every run, a callback that is cancelled while it has no pending workload update is not
dispatched as long as it is not scheduled. -/
theorem cancelled_not_dispatched (timerSlack minVsyncDistance : Int) (before after : List Label)
    (token : Nat) (tracker : Int → Int) (now : Int)
    (cancels : ((run Dispatcher.step (Dispatcher.create timerSlack minVsyncDistance)
      before).queue.cancel token tracker now).1 = .cancelled)
    (noUpdate : ∀ entry, (run Dispatcher.step
      (Dispatcher.create timerSlack minVsyncDistance) before).queue.find token = some entry →
        entry.mWorkloadUpdateInfo = none)
    (unscheduled : ∀ label ∈ after, ∀ workDuration earliestVsync now,
      label.call ≠ .schedule token workDuration earliestVsync now) :
    let cancelled := (run Dispatcher.step
      (Dispatcher.create timerSlack minVsyncDistance) before).step ⟨tracker, .cancel token now⟩
    ∃ later, (run Dispatcher.step cancelled after).dispatched = cancelled.dispatched ++ later ∧
      ∀ invocation ∈ later, invocation.token ≠ token := by
  have issued := issued_run timerSlack minVsyncDistance before
  exact (quiet_of_cancelled issued cancels noUpdate).run unscheduled

theorem cancelled_not_dispatched_early :
    let before := run step (create 1 3)
      [⟨everyTen, .register⟩, ⟨everyTen, .schedule 1 5 0 0⟩]
    (before.queue.cancel 1 everyTen 2).1 = .cancelled ∧
      ∃ later, (run step (before.step ⟨everyTen, .cancel 1 2⟩) [⟨everyTen, .fire 5 5⟩]).dispatched =
          (before.step ⟨everyTen, .cancel 1 2⟩).dispatched ++ later ∧
        ∀ call ∈ later, call.token ≠ 1 :=
  ⟨by decide, cancelled_not_dispatched 1 3 _ _ 1 everyTen 2 (by decide) (by
      intro entry found
      have isEntry : some entry = some ⟨5, 0, 3, some ⟨5, 10⟩, none, none⟩ := found.symm
      rw [Option.some.inj isEntry])
    (by simp)⟩

def cancelledWhilePending : List Label :=
  [⟨everyTen, .register⟩, ⟨everyTen, .schedule 1 5 0 0⟩, ⟨everyTen, .schedule 1 4 0 6⟩]

/-- The pending workload update arms the callback again, and the timer dispatches it. -/
theorem cancelled_dispatched_pending :
    let before := run step (create 1 3) cancelledWhilePending
    (before.queue.cancel 1 everyTen 6).1 = .cancelled ∧ before.dispatched = [] ∧
      (run step (before.step ⟨everyTen, .cancel 1 6⟩)
        [⟨everyTen, .fire 16 16⟩]).dispatched = [⟨1, 20, 16⟩] := by
  decide

end NativeLibs.Scheduler
