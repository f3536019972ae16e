import Mathlib.Data.List.Sort
import Mathlib.Data.Prod.Lex
import NativeLibs.Foundation.Machine
import NativeLibs.Input.InputState

/-! # Dispatch cycles

The queues of a connection of the `InputDispatcher`, the tracker of the events that wait for an
answer, and the loop that publishes. What an event holds is left to `Event`. -/

namespace NativeLibs.Input

/-- `AnrTracker`: a multiset of time limits and tokens of connections. Tokens are numbered in the
order of their addresses. -/
structure AnrTracker where
  mAnrTimeouts : List (Int ×ₗ Nat)
  ordered : mAnrTimeouts.Pairwise (· ≤ ·)

namespace AnrTracker

def clear : AnrTracker := ⟨[], List.Pairwise.nil⟩

def insert (tracker : AnrTracker) (timeoutTime : Int) (token : Nat) : AnrTracker where
  mAnrTimeouts := tracker.mAnrTimeouts.orderedInsert (· ≤ ·) (toLex (timeoutTime, token))
  ordered := tracker.ordered.orderedInsert _ _

end AnrTracker

/-! ## Connections -/

inductive ConnectionStatus where
  | normal
  | broken
  deriving DecidableEq, Repr

structure DispatchEntry (Event : Type) where
  seq : Nat
  eventEntry : Event
  timeoutTime : Int
  deriving DecidableEq, Repr

structure Connection (Event : Type) where
  status : ConnectionStatus
  responsive : Bool
  outboundQueue : List (DispatchEntry Event)
  waitQueue : List (DispatchEntry Event)
  deriving DecidableEq, Repr

inductive PublishStatus where
  | ok
  | wouldBlock
  | failed
  deriving DecidableEq, Repr

namespace Connection

variable {Event : Type} (connection : Connection Event)

def create : Connection Event := ⟨.normal, true, [], []⟩

def abortBrokenDispatchCycle : Connection Event :=
  { connection with status := .broken, outboundQueue := [], waitQueue := [] }

def publishEntries (publish : Nat → PublishStatus) (timeoutTime : Int) (token : Nat) :
    List (DispatchEntry Event) → Connection Event → AnrTracker → Connection Event × AnrTracker
  | [], connection, tracker => ({ connection with outboundQueue := [] }, tracker)
  | entry :: rest, connection, tracker =>
    let entry := { entry with timeoutTime := timeoutTime }
    match publish entry.seq with
    | .ok =>
      publishEntries publish timeoutTime token rest
        { connection with waitQueue := connection.waitQueue ++ [entry] }
        (if connection.responsive then tracker.insert timeoutTime token else tracker)
    | .wouldBlock =>
      -- A full pipe with nothing to wait for is broken.
      if connection.waitQueue.isEmpty then (connection.abortBrokenDispatchCycle, tracker)
      else ({ connection with outboundQueue := entry :: rest }, tracker)
    | .failed => (connection.abortBrokenDispatchCycle, tracker)

def startDispatchCycle (publish : Nat → PublishStatus) (timeoutTime : Int) (token : Nat)
    (tracker : AnrTracker) : Connection Event × AnrTracker :=
  if connection.status = .normal then
    publishEntries publish timeoutTime token connection.outboundQueue connection tracker
  else (connection, tracker)

def findWaitQueueEntry (seq : Nat) : Option (DispatchEntry Event) :=
  connection.waitQueue.find? (·.seq = seq)

def isConnectionResponsive (waitQueue : List (DispatchEntry Event)) (currentTime : Int) : Bool :=
  waitQueue.all (currentTime ≤ ·.timeoutTime)

/-- The end of `doDispatchCycleFinishedLockedInterruptible`, for an entry that is still in the
wait queue: it goes, or it is published again, in front of what waits to be published. -/
def dequeue (entry : DispatchEntry Event) (restartEvent : Bool) (currentTime : Int) :
    Connection Event :=
  let waitQueue := connection.waitQueue.eraseP (·.seq = entry.seq)
  { connection with
    waitQueue := waitQueue
    responsive := connection.responsive || isConnectionResponsive waitQueue currentTime
    outboundQueue := if restartEvent && connection.status = .normal then
      entry :: connection.outboundQueue else connection.outboundQueue }

end Connection

/-! ## Fallback keys

When an application does not handle a key, the policy may offer another one. The dispatcher then
rewrites the entry and publishes it again. This is the dispatch of keys to one connection. -/

open List

def keyCodeUnknown : Int := 0

/-- What a dispatch entry for a key holds. The resolved values are those of the key when it was
enqueued. -/
structure KeyDispatch where
  keyEntry : KeyEntry
  hasForegroundTarget : Bool
  resolvedAction : BitVec 32
  resolvedFlags : BitVec 32
  deriving DecidableEq, Repr

/-- What `afterKeyEventLockedInterruptible` holds while it asks the policy without the lock. -/
structure PolicyCall where
  seq : Nat
  keyEntry : KeyEntry
  fallbackKeyCode : Int
  /-- The application handled the key, or it is not a foreground target. -/
  canceled : Bool
  deriving DecidableEq, Repr

structure KeyChannel (Value : Type) where
  connection : Connection KeyDispatch
  inputState : InputState Value
  nextSeq : Nat
  asking : Option PolicyCall

/-- Publishing at any time stands for the dispatch cycles that are started. -/
inductive KeyChannelStep where
  | enqueueKey (keyEntry : KeyEntry) (hasForegroundTarget : Bool)
  | startDispatchCycle (timeoutTime : Int) (publish : Nat → PublishStatus)
  | finishDispatchCycle (seq : Nat) (handled : Bool) (currentTime : Int)
  /-- The policy returns from `dispatchUnhandledKey`. -/
  | answer (fallback : Bool) (event : KeyEntry) (currentTime : Int)
  | synthesizeCancelationEvents (currentTime : Int) (options : CancelationOptions)

variable (call : PolicyCall)

def PolicyCall.initialDown : Bool :=
  call.keyEntry.action = keyActionDown && call.keyEntry.repeatCount = 0

def PolicyCall.latched (fallback : Bool) (event : KeyEntry) : Int :=
  if call.initialDown then (if fallback then event.keyCode else keyCodeUnknown)
  else call.fallbackKeyCode

def PolicyCall.fallbackKey (event : KeyEntry) (fallbackKeyCode : Int) : KeyEntry :=
  { event with
    policyFlags := call.keyEntry.policyFlags
    action := call.keyEntry.action
    flags := event.flags ||| keyFlagFallback
    keyCode := fallbackKeyCode }

def KeyDispatch.CanceledUp (keyCode : Int) (key : KeyDispatch) : Prop :=
  key.keyEntry.keyCode = keyCode ∧ key.resolvedAction = keyActionUp ∧
    key.resolvedFlags &&& keyFlagCanceled ≠ 0

namespace KeyChannel

variable {Value : Type} {channel : KeyChannel Value}

def create : KeyChannel Value := ⟨Connection.create, InputState.create, 1, none⟩

def enqueueDispatchEntry (hasForegroundTarget : Bool) (channel : KeyChannel Value)
    (keyEntry : KeyEntry) : KeyChannel Value :=
  let tracked := channel.inputState.trackKey keyEntry keyEntry.action keyEntry.flags
  if tracked.1 then
    { channel with
      inputState := tracked.2
      nextSeq := channel.nextSeq + 1
      connection := { channel.connection with
        outboundQueue := channel.connection.outboundQueue ++
          [⟨channel.nextSeq, ⟨keyEntry, hasForegroundTarget, keyEntry.action, keyEntry.flags⟩,
            0⟩] } }
  else { channel with inputState := tracked.2 }

section

variable (channel)

/-- `synthesizeCancelationEventsForConnectionLocked`, up to the dispatch cycle it starts. -/
def synthesizeCancelationEvents (currentTime : Int) (options : CancelationOptions) :
    KeyChannel Value :=
  if channel.connection.status = .broken then channel
  else
    ((channel.inputState.mKeyMementos.filter (InputState.shouldCancelKey · options)).map
      (InputState.cancelKey currentTime)).foldl (enqueueDispatchEntry false) channel

def dequeue (seq : Nat) (currentTime : Int) (restarted : Option KeyEntry) : KeyChannel Value :=
  match channel.connection.findWaitQueueEntry seq with
  | none => { channel with asking := none }
  | some entry =>
    let keyEntry := restarted.getD entry.eventEntry.keyEntry
    { channel with
      asking := none
      connection := channel.connection.dequeue
        { entry with eventEntry := { entry.eventEntry with keyEntry := keyEntry } }
        restarted.isSome currentTime }

/-- `doDispatchCycleFinishedLockedInterruptible` up to the call of the policy. -/
def finishDispatchCycle (seq : Nat) (handled : Bool) (currentTime : Int) : KeyChannel Value :=
  match channel.connection.findWaitQueueEntry seq with
  | none => channel
  | some entry =>
    let keyEntry := entry.eventEntry.keyEntry
    if keyEntry.flags &&& keyFlagFallback != 0 then channel.dequeue seq currentTime none
    else
      let fallbackKeyCode := channel.inputState.getFallbackKey keyEntry.keyCode
      let channel := { channel with
        inputState := if keyEntry.action = keyActionUp then
          channel.inputState.removeFallbackKey keyEntry.keyCode else channel.inputState }
      let call : PolicyCall :=
        ⟨seq, keyEntry, fallbackKeyCode, handled || !entry.eventEntry.hasForegroundTarget⟩
      if fallbackKeyCode = -1 ∧ (call.canceled ∨ !call.initialDown) then
        channel.dequeue seq currentTime none
      else { channel with asking := some call }

def canceledFallback (call : PolicyCall) (fallback : Bool) (event : KeyEntry) : Option Int :=
  if call.canceled then
    if call.fallbackKeyCode ≠ keyCodeUnknown then some call.fallbackKeyCode else none
  else if channel.connection.status ≠ .normal then none
  else
    let fallbackKeyCode := call.latched fallback event
    if fallbackKeyCode ≠ keyCodeUnknown ∧ (!fallback ∨ fallbackKeyCode ≠ event.keyCode) then
      some fallbackKeyCode
    else none

def cancelFallback (currentTime : Int) (fallbackKeyCode : Int) : KeyChannel Value :=
  channel.synthesizeCancelationEvents currentTime
    { mode := .cancelFallbackEvents, keyCode := some fallbackKeyCode }

def latch (call : PolicyCall) (fallback canceled : Bool) (event : KeyEntry)
    (state : InputState Value) : InputState Value :=
  if call.canceled || channel.connection.status ≠ .normal then
    state.removeFallbackKey call.keyEntry.keyCode
  else
    let state := if call.initialDown then
      state.setFallbackKey call.keyEntry.keyCode (call.latched fallback event) else state
    if canceled && call.keyEntry.action ≠ keyActionUp then
      state.setFallbackKey call.keyEntry.keyCode keyCodeUnknown else state

def answer (call : PolicyCall) (fallback : Bool) (event : KeyEntry) (currentTime : Int) :
    KeyChannel Value :=
  let canceled := channel.canceledFallback call fallback event
  let canceledChannel := canceled.elim channel (channel.cancelFallback currentTime)
  let restarted := if call.canceled ∨ channel.connection.status ≠ .normal ∨ canceled.isSome ∨
      !fallback then none else some (call.fallbackKey event (call.latched fallback event))
  { canceledChannel with
    inputState := channel.latch call fallback canceled.isSome event
      canceledChannel.inputState }.dequeue call.seq currentTime restarted

def step : KeyChannelStep → KeyChannel Value
  | .enqueueKey keyEntry hasForegroundTarget =>
    if channel.connection.status = .normal then
      channel.enqueueDispatchEntry hasForegroundTarget keyEntry
    else channel
  | .startDispatchCycle timeoutTime publish =>
    { channel with connection :=
        (channel.connection.startDispatchCycle publish timeoutTime 0 AnrTracker.clear).1 }
  | .finishDispatchCycle seq handled currentTime =>
    if channel.asking.isSome then channel
    else channel.finishDispatchCycle seq handled currentTime
  | .answer fallback event currentTime =>
    channel.asking.elim channel (channel.answer · fallback event currentTime)
  | .synthesizeCancelationEvents currentTime options =>
    channel.synthesizeCancelationEvents currentTime options

/-! ## What a cancelation queues -/

lemma trackKey_fst (st : InputState Value) (e : KeyEntry) (action flags : BitVec 32) :
    (st.trackKey e action flags).1 = true := by
  unfold InputState.trackKey
  split_ifs
  · dsimp only
    split <;> rfl
  · rfl
  · rfl

lemma mem_trackKey {st : InputState Value}
    (mem : memo ∈ (st.trackKey e action flags).2.mKeyMementos) :
    memo ∈ st.mKeyMementos ∨ action = keyActionDown ∧ memo.flags = flags := by
  unfold InputState.trackKey at mem
  split_ifs at mem with up down
  · have freed : (st.releaseFallback e).mKeyMementos = st.mKeyMementos := by
      unfold InputState.releaseFallback
      split <;> rfl
    dsimp only at mem
    split at mem
    · exact .inl (freed ▸ mem_of_mem_eraseIdx mem)
    · exact .inl (freed ▸ mem)
  · rcases mem_append.1 mem with old | added
    · left
      revert old
      split
      · exact mem_of_mem_eraseIdx
      · exact id
    · exact .inr ⟨down, mem_singleton.1 added ▸ rfl⟩
  · exact .inl mem

def keyDispatch (hasForegroundTarget : Bool) (keyEntry : KeyEntry) : KeyDispatch :=
  ⟨keyEntry, hasForegroundTarget, keyEntry.action, keyEntry.flags⟩

lemma foldl_enqueueDispatchEntry (keys : List KeyEntry) :
    ∃ queued, (keys.foldl (enqueueDispatchEntry false) channel).connection =
        { channel.connection with
          outboundQueue := channel.connection.outboundQueue ++ queued } ∧
      queued.map (·.eventEntry) = keys.map (keyDispatch false) := by
  induction keys generalizing channel with
  | nil => exact ⟨[], by simp, rfl⟩
  | cons key rest ih =>
    rcases ih (channel.enqueueDispatchEntry false key) with ⟨queued, same, evs⟩
    refine ⟨⟨channel.nextSeq, keyDispatch false key, 0⟩ :: queued, ?_, by simp [evs]⟩
    rw [foldl_cons, same]
    simp [enqueueDispatchEntry, trackKey_fst, keyDispatch]

lemma outboundQueue_dequeue (seq : Nat) (now : Int) :
    (channel.dequeue seq now none).connection.outboundQueue = channel.connection.outboundQueue := by
  unfold dequeue
  split
  · rfl
  · simp [Connection.dequeue]

lemma canceledUp_cancelKey (now keyCode : Int) (memo : KeyMemento) :
    (keyDispatch false (InputState.cancelKey now memo)).CanceledUp keyCode ↔
      memo.keyCode = keyCode := by
  have absorbed : (memo.flags ||| keyFlagCanceled) &&& keyFlagCanceled = keyFlagCanceled := by
    ext i
    simp +contextual
  have nonzero : keyFlagCanceled ≠ 0#32 := by decide
  simp [KeyDispatch.CanceledUp, keyDispatch, InputState.cancelKey, absorbed, nonzero]

lemma shouldCancelKey_fallback (memo : KeyMemento) (keyCode : Int) :
    InputState.shouldCancelKey memo
        { mode := .cancelFallbackEvents, keyCode := some keyCode } = true ↔
      memo.keyCode = keyCode ∧ memo.flags &&& keyFlagFallback ≠ 0 := by
  simp [InputState.shouldCancelKey]

lemma cancelFallback_queued (now : Int) (fallbackKeyCode : Int) :
    ∃ queued, (channel.cancelFallback now fallbackKeyCode).connection.outboundQueue =
        channel.connection.outboundQueue ++ queued ∧
      ((∃ e ∈ queued, e.eventEntry.CanceledUp fallbackKeyCode) ↔
        channel.connection.status = .normal ∧ ∃ memo ∈ channel.inputState.mKeyMementos,
          memo.keyCode = fallbackKeyCode ∧ memo.flags &&& keyFlagFallback ≠ 0) := by
  unfold cancelFallback synthesizeCancelationEvents
  split
  · rename_i broken
    exact ⟨[], by simp, by simp [broken]⟩
  · rename_i unbroken
    have normal : channel.connection.status = .normal := by
      cases stat : channel.connection.status with
      | normal => rfl
      | broken => exact absurd stat unbroken
    rcases foldl_enqueueDispatchEntry channel _ with ⟨queued, same, evs⟩
    refine ⟨queued, by rw [same], ?_⟩
    have keys : (∃ e ∈ queued, e.eventEntry.CanceledUp fallbackKeyCode) ↔
        ∃ key ∈ queued.map (·.eventEntry), key.CanceledUp fallbackKeyCode := by simp
    rw [keys, evs]
    simp only [map_map, mem_map, mem_filter, shouldCancelKey_fallback, normal,
      true_and, exists_exists_and_eq_and, Function.comp, canceledUp_cancelKey]
    exact exists_congr fun memo => by tauto

/-! ## Keys that are not fallback keys when they are enqueued -/

def Unflagged : Prop :=
  ∀ memento ∈ channel.inputState.mKeyMementos, memento.flags &&& keyFlagFallback = 0

end

def UnflaggedStep : KeyChannelStep → Prop
  | .enqueueKey keyEntry _ => keyEntry.flags &&& keyFlagFallback = 0
  | _ => True

section

variable (bare : channel.Unflagged)
include bare

lemma Unflagged.enqueueDispatchEntry
    (plain : keyEntry.action = keyActionDown → keyEntry.flags &&& keyFlagFallback = 0)
    (hasForegroundTarget : Bool) :
    (channel.enqueueDispatchEntry hasForegroundTarget keyEntry).Unflagged := by
  intro memo mem
  rw [KeyChannel.enqueueDispatchEntry, if_pos (trackKey_fst ..)] at mem
  rcases mem_trackKey mem with old | ⟨down, flags⟩
  · exact bare memo old
  · rw [flags]
    exact plain down

lemma Unflagged.synthesizeCancelationEvents (now : Int) (options : CancelationOptions) :
    (channel.synthesizeCancelationEvents now options).Unflagged := by
  unfold KeyChannel.synthesizeCancelationEvents
  split
  · exact bare
  · rename_i unbroken
    clear unbroken
    generalize channel.inputState.mKeyMementos.filter _ = memos
    induction memos generalizing channel with
    | nil => exact bare
    | cons memo rest ih =>
      apply ih
      apply bare.enqueueDispatchEntry
      intro down
      exact absurd down (by decide : keyActionUp ≠ keyActionDown)

lemma Unflagged.dequeue (seq : Nat) (now : Int) (restarted : Option KeyEntry) :
    (channel.dequeue seq now restarted).Unflagged := by
  unfold KeyChannel.dequeue
  split <;> exact bare

lemma Unflagged.step (plain : UnflaggedStep label) : (channel.step label).Unflagged := by
  cases label with
  | enqueueKey keyEntry hasForegroundTarget =>
    simp only [KeyChannel.step]
    split
    · exact bare.enqueueDispatchEntry (fun _ => plain) hasForegroundTarget
    · exact bare
  | startDispatchCycle timeoutTime publish => exact bare
  | finishDispatchCycle seq took now =>
    simp only [KeyChannel.step, finishDispatchCycle]
    split
    · exact bare
    · split
      · exact bare
      · split
        · exact bare.dequeue _ _ _
        · rename_i e _ _
          have kept : Unflagged { channel with
              inputState := if e.eventEntry.keyEntry.action = keyActionUp then
                channel.inputState.removeFallbackKey e.eventEntry.keyEntry.keyCode
                else channel.inputState } := by
            intro memo mem
            apply bare memo
            revert mem
            dsimp only
            split <;> exact id
          split
          · exact kept.dequeue _ _ _
          · exact kept
  | answer fallback event now =>
    simp only [KeyChannel.step]
    cases channel.asking with
    | none => exact bare
    | some call =>
      apply Unflagged.dequeue
      intro memo mem
      have kept : memo ∈ ((channel.canceledFallback call fallback event).elim channel
          (channel.cancelFallback now)).inputState.mKeyMementos := by
        revert mem
        unfold latch
        dsimp only
        split_ifs <;> exact id
      revert kept
      cases channel.canceledFallback call fallback event with
      | none => exact bare memo
      | some fallbackKeyCode => exact bare.synthesizeCancelationEvents now _ memo
  | synthesizeCancelationEvents now options =>
    exact bare.synthesizeCancelationEvents now options

end

/-- When the dispatcher decides to cancel a fallback key, a canceled key up is queued exactly when
the connection is unbroken and the fallback key was also enqueued as a fallback key of its own and
is down. The keys that the dispatcher puts in place of others are not, so if no other fallback key
is enqueued, nothing is queued. -/
theorem fallback_canceled_iff (labels : List KeyChannelStep) (call : PolicyCall) (fallback : Bool)
    (event : KeyEntry) (currentTime fallbackKeyCode : Int) :
    let channel := Machine.run step (create : KeyChannel Value) labels
    channel.asking = some call →
      channel.canceledFallback call fallback event = some fallbackKeyCode →
      ∃ queued, (channel.step (.answer fallback event currentTime)).connection.outboundQueue =
          channel.connection.outboundQueue ++ queued ∧
        ((∃ entry ∈ queued, entry.eventEntry.CanceledUp fallbackKeyCode) ↔
          channel.connection.status = .normal ∧ ∃ memento ∈ channel.inputState.mKeyMementos,
            memento.keyCode = fallbackKeyCode ∧ memento.flags &&& keyFlagFallback ≠ 0) ∧
        ((∀ label ∈ labels, UnflaggedStep label) →
          ¬ ∃ entry ∈ queued, entry.eventEntry.CanceledUp fallbackKeyCode) := by
  intro channel asking decided
  rcases channel.cancelFallback_queued currentTime fallbackKeyCode with ⟨queued, same, held⟩
  refine ⟨queued, ?_, held, ?_⟩
  · rw [← same]
    simp [step, asking, answer, decided, outboundQueue_dequeue]
  · intro plain found
    have unflagged : channel.Unflagged :=
      Machine.run_invariant (fun _ _ unflagged plain => Unflagged.step unflagged plain)
        (by simp [Unflagged, create, InputState.create])
        (Machine.along_of_forall (fun _ _ plain => plain) create plain)
    rcases held.1 found with ⟨_, memento, mem, _, flagged⟩
    exact flagged (unflagged memento mem)

def press (keyCode : Int) (repeatCount : Nat) (flags : BitVec 32) : KeyEntry where
  eventTime := 0
  deviceId := 1
  source := 0x101
  displayId := 0
  policyFlags := 0
  action := keyActionDown
  flags := flags
  keyCode := keyCode
  scanCode := 0
  metaState := 0
  repeatCount := repeatCount
  downTime := 0

variable (seq : Nat)

def offered : List KeyChannelStep :=
  [.enqueueKey (press 29 0 0) true, .startDispatchCycle 5 fun _ => .ok,
    .finishDispatchCycle seq false 0, .answer true (press 66 0 0) 0,
    .startDispatchCycle 5 fun _ => .ok]

def repeated : List KeyChannelStep :=
  [.finishDispatchCycle seq true 0, .enqueueKey (press 29 1 0) true,
    .startDispatchCycle 5 fun _ => .ok, .finishDispatchCycle (seq + 1) true 0]

def repeatCall : PolicyCall := ⟨seq + 1, press 29 1 0, 66, true⟩

/-- Key 66 is also down as a fallback key of its own. -/
theorem fallback_canceled_iff_flagged :
    ∃ queued, ((Machine.run step (create : KeyChannel Nat) (.enqueueKey (press 66 0 0x400) true ::
        (offered 2 ++ repeated 2))).step (.answer false (press 29 1 0) 0)).connection.outboundQueue
          = queued ∧ ∃ entry ∈ queued, entry.eventEntry.CanceledUp 66 := by
  rcases @fallback_canceled_iff Nat
    (.enqueueKey (press 66 0 0x400) true :: (offered 2 ++ repeated 2)) (repeatCall 2) false
    (press 29 1 0) 0 66 rfl rfl with ⟨queued, same, held, _⟩
  exact ⟨queued, same, held.2 ⟨rfl, ⟨1, 0x101, 0, 66, 0, 0, 0x400, 0, 0⟩, by decide, rfl,
    by decide⟩⟩

/-- The application got the down of key 66, and the dispatcher cancels it; but no up is queued or
published. -/
theorem fallback_left_pressed :
    (Machine.run step (create : KeyChannel Nat) (offered 1)).connection.waitQueue.map
        (fun entry => (entry.eventEntry.keyEntry.keyCode, entry.eventEntry.resolvedAction)) =
      [(66, keyActionDown)] ∧
    let channel := Machine.run step (create : KeyChannel Nat) (offered 1 ++ repeated 1)
    channel.asking = some (repeatCall 1) ∧
      channel.canceledFallback (repeatCall 1) false (press 29 1 0) = some 66 ∧
      (channel.step (.answer false (press 29 1 0) 0)).connection.outboundQueue = [] ∧
      (channel.step (.answer false (press 29 1 0) 0)).connection.waitQueue = [] := by
  decide

end KeyChannel

end NativeLibs.Input
