import NativeLibs.Foundation.Machine

/-! # The event thread

`EventThread` hands display events to its connections. Its thread runs with the lock except
while it waits; clients and the source of vsync events call in between. -/

namespace NativeLibs.Scheduler

open List Machine

/-- A period of one is `Periodic`. -/
inductive VSyncRequest where
  | none
  | single
  | periodic (period : Nat)
  deriving DecidableEq, Repr

inductive DisplayEvent where
  | hotplug (displayId : Nat) (timestamp : Int) (connected : Bool)
  | vsync (displayId : Nat) (timestamp : Int) (count : Nat) (expectedVSyncTimestamp : Int)
  | configChanged (displayId : Nat) (timestamp : Int) (configId : Nat) (vsyncPeriod : Int)
  deriving DecidableEq, Repr

def DisplayEvent.isVSync : DisplayEvent → Bool
  | .vsync .. => true
  | _ => false

def vsyncs (events : List DisplayEvent) : List DisplayEvent := events.filter DisplayEvent.isVSync

/-- A connection with the events that were posted to it. The thread only holds a weak reference;
`alive` says whether it can still be promoted. -/
structure EventThreadConnection where
  alive : Bool
  configChangedDispatch : Bool
  vsyncRequest : VSyncRequest
  received : List DisplayEvent

inductive EventThreadState where
  | idle
  | syntheticVSync
  | vsync
  deriving DecidableEq, Repr

structure VSyncState where
  displayId : Nat
  count : Nat
  synthetic : Bool
  deriving DecidableEq, Repr

/-- `connections` are the objects, and `mDisplayEventConnections` the registered ones.
`vsyncEnabled` is what the source was told. While the thread waits it is `blocked`, and `notified`
once someone has signalled the condition. `dequeued` are the events taken so far. -/
structure EventThread where
  mState : EventThreadState
  mVSyncState : Option VSyncState
  mPendingEvents : List DisplayEvent
  mDisplayEventConnections : List Nat
  connections : Nat → EventThreadConnection
  vsyncEnabled : Bool
  blocked : Bool
  notified : Bool
  dequeued : List DisplayEvent

inductive EventThreadStep where
  | registerDisplayEventConnection (id : Nat) (configChangedDispatch : Bool)
  | setVsyncRate (id : Nat) (rate : Nat)
  | requestNextVsync (id : Nat)
  /-- The last reference of a client goes. -/
  | release (id : Nat)
  | onScreenReleased
  | onScreenAcquired
  | onVSyncEvent (timestamp expectedVSyncTimestamp : Int)
  | onHotplugReceived (displayId : Nat) (timestamp : Int) (connected : Bool)
  | onConfigChanged (displayId : Nat) (timestamp : Int) (configId : Nat) (vsyncPeriod : Int)
  /-- The thread runs through its loop once. -/
  | iterate
  /-- The wait ends by a signal, or without a reason. -/
  | wake
  | timeout (now limit : Int)

/-- What `postEvent` returns. Errors other than `-EAGAIN` are fatal for the connection. -/
inductive PostResult where
  | noError
  | again
  | fatal
  deriving DecidableEq, Repr

/-- `shouldConsumeEvent`, with what it makes of the request. -/
def EventThreadConnection.consume (connection : EventThreadConnection) (event : DisplayEvent) :
    EventThreadConnection :=
  let posted := { connection with received := connection.received ++ [event] }
  match event with
  | .hotplug .. => posted
  | .configChanged .. => if connection.configChangedDispatch then posted else connection
  | .vsync _ _ count _ =>
    match connection.vsyncRequest with
    | .none => connection
    | .single => { posted with vsyncRequest := .none }
    | .periodic period => if count % period = 0 then posted else connection

namespace EventThread

variable (state : Option VSyncState)

def create : EventThread where
  mState := .idle
  mVSyncState := none
  mPendingEvents := []
  mDisplayEventConnections := []
  connections _ := ⟨false, false, .none, []⟩
  vsyncEnabled := false
  blocked := false
  notified := false
  dequeued := []

variable (thread : EventThread)

def notify : EventThread := { thread with notified := true }

variable (id : Nat)

def setConnection (connection : EventThreadConnection) : EventThread :=
  { thread with connections := Function.update thread.connections id connection }

def registerDisplayEventConnection (configChangedDispatch : Bool) : EventThread :=
  if id ∈ thread.mDisplayEventConnections then thread.notify
  else
    { thread.setConnection id ⟨true, configChangedDispatch, .none, []⟩ with
      mDisplayEventConnections := thread.mDisplayEventConnections ++ [id] }.notify

def setRequest (request : VSyncRequest) : EventThread :=
  (thread.setConnection id { thread.connections id with vsyncRequest := request }).notify

/-- A rate that is negative as an `int` is ignored. -/
def setVsyncRate (id rate : Nat) : EventThread :=
  if 2147483648 ≤ rate then thread
  else
    let request := if rate = 0 then VSyncRequest.none else .periodic rate
    if (thread.connections id).vsyncRequest ≠ request then thread.setRequest id request else thread

def requestNextVsync : EventThread :=
  if (thread.connections id).vsyncRequest = .none then thread.setRequest id .single else thread

/-- `onScreenReleased` and `onScreenAcquired`. -/
def setSynthetic (synthetic : Bool) : EventThread :=
  match thread.mVSyncState with
  | none => thread
  | some state =>
    if state.synthetic = synthetic then thread
    else { thread with mVSyncState := some { state with synthetic := synthetic } }.notify

def post (event : DisplayEvent) : EventThread :=
  { thread with mPendingEvents := thread.mPendingEvents ++ [event] }.notify

/-- A vsync event for the display; without one this is fatal. -/
def postVSync (timestamp expectedVSyncTimestamp : Int) : Option EventThread :=
  thread.mVSyncState.map fun state =>
    let count := (state.count + 1) % 4294967296
    { thread with mVSyncState := some { state with count := count } }.post
      (.vsync state.displayId timestamp count expectedVSyncTimestamp)

def plug : DisplayEvent → Option VSyncState
  | .hotplug displayId _ connected =>
    if connected && state.isNone then some ⟨displayId, 0, false⟩
    else if !connected && state.any (·.displayId = displayId) then none
    else state
  | _ => state

variable (vsyncRequested : Bool)

def nextState : EventThreadState :=
  match state with
  | some state =>
    if vsyncRequested then (if state.synthetic then .syntheticVSync else .vsync) else .idle
  | none => .idle

def switchSource (enabled : Bool) (state next : EventThreadState) : Bool :=
  if state = next then enabled
  else if state = .vsync then false
  else if next = .vsync then true
  else enabled

/-- `threadMain` up to the wait, or to the end of the loop if there was an event. -/
def iterate : EventThread :=
  let event := thread.mPendingEvents.head?
  let state := event.elim thread.mVSyncState (plug thread.mVSyncState)
  let live := thread.mDisplayEventConnections.filter fun id => (thread.connections id).alive
  let next := nextState state (live.any fun id => (thread.connections id).vsyncRequest ≠ .none)
  { mState := next
    mVSyncState := state
    mPendingEvents := thread.mPendingEvents.tail
    mDisplayEventConnections := live
    connections := fun id => if id ∈ live then
      event.elim (thread.connections id) (thread.connections id).consume
      else thread.connections id
    vsyncEnabled := switchSource thread.vsyncEnabled thread.mState next
    blocked := event.isNone
    notified := false
    dequeued := thread.dequeued ++ event.toList }

def perform : EventThreadStep → Option EventThread
  | .registerDisplayEventConnection id configChangedDispatch =>
    some (thread.registerDisplayEventConnection id configChangedDispatch)
  | .setVsyncRate id rate => some (thread.setVsyncRate id rate)
  | .requestNextVsync id => some (thread.requestNextVsync id)
  | .release id => some (thread.setConnection id { thread.connections id with alive := false })
  | .onScreenReleased => some (thread.setSynthetic true)
  | .onScreenAcquired => some (thread.setSynthetic false)
  | .onVSyncEvent timestamp expectedVSyncTimestamp =>
    thread.postVSync timestamp expectedVSyncTimestamp
  | .onHotplugReceived displayId timestamp connected =>
    some (thread.post (.hotplug displayId timestamp connected))
  | .onConfigChanged displayId timestamp configId vsyncPeriod =>
    some (thread.post (.configChanged displayId timestamp configId vsyncPeriod))
  | .iterate => some (if thread.blocked then thread else thread.iterate)
  | .wake => some { thread with blocked := false }
  | .timeout now limit =>
    if thread.blocked && thread.mState ≠ .idle then
      { thread with blocked := false }.postVSync now (now + limit)
    else some thread

def step (thread : Option EventThread) (label : EventThreadStep) : Option EventThread :=
  thread.bind (·.perform label)

/-- The source only calls back while it is enabled. -/
def Allowed (thread : Option EventThread) : EventThreadStep → Prop
  | .onVSyncEvent .. => ∀ thread' ∈ thread, thread'.vsyncEnabled = true
  | _ => True

/-! ## The source is enabled when it is needed -/

/-- A display is connected and not synthetic, and one of some connections has a request. -/
def Needs (counts : EventThreadConnection → Prop) : Prop :=
  (∃ state ∈ thread.mVSyncState, state.synthetic = false) ∧
    ∃ id ∈ thread.mDisplayEventConnections, counts (thread.connections id) ∧
      (thread.connections id).vsyncRequest ≠ .none

structure Healthy (thread : EventThread) : Prop where
  enabled : thread.vsyncEnabled = true ↔ thread.mState = .vsync
  connected : thread.mState ≠ .idle → thread.mVSyncState.isSome = true
  settled : thread.blocked = true → thread.notified = false → thread.mPendingEvents = [] ∧
    (thread.mState = .vsync ↔ thread.Needs fun _ => True)

lemma nextState_eq_vsync : nextState state vsyncRequested = .vsync ↔
      (∃ state' ∈ state, state'.synthetic = false) ∧ vsyncRequested = true := by
  cases state with
  | none => simp [nextState]
  | some state => cases vsyncRequested <;> cases synthetic : state.synthetic <;>
      simp [nextState, synthetic]

lemma isSome_of_nextState {state : Option VSyncState} {vsyncRequested : Bool}
    (act : nextState state vsyncRequested ≠ .idle) : state.isSome = true := by
  cases state with
  | none => simp [nextState] at act
  | some state => rfl

lemma consume_alive (conn : EventThreadConnection) (event : DisplayEvent) :
    (conn.consume event).alive = conn.alive := by
  unfold EventThreadConnection.consume
  dsimp only
  split
  · rfl
  · split <;> rfl
  · split
    · rfl
    · rfl
    · split <;> rfl

lemma alive_iterate {thread : EventThread} {id : Nat}
    (listed : id ∈ thread.iterate.mDisplayEventConnections) :
    (thread.iterate.connections id).alive = true := by
  have live := (mem_filter.1 listed).2
  have used : thread.iterate.connections id = thread.mPendingEvents.head?.elim
      (thread.connections id) (thread.connections id).consume := if_pos listed
  rw [used]
  cases thread.mPendingEvents.head? with
  | none => exact live
  | some event => exact (consume_alive _ event).trans live

lemma switchSource_eq {enabled : Bool} {state : EventThreadState}
    (told : enabled = true ↔ state = .vsync) (next : EventThreadState) :
    switchSource enabled state next = true ↔ next = .vsync := by
  cases state <;> cases next <;> simp_all [switchSource]

namespace Healthy

variable {thread : EventThread}

section

variable (sane : thread.Healthy)
include sane

lemma signalled {next : EventThread} (state : next.mState = thread.mState)
    (enabled : next.vsyncEnabled = thread.vsyncEnabled)
    (display : next.mVSyncState.isSome = thread.mVSyncState.isSome)
    (signal : next.notified = true ∨ next.blocked = false) : next.Healthy where
  enabled := by rw [state, enabled, sane.enabled]
  connected := fun act => display ▸ sane.connected (state ▸ act)
  settled := fun blocked quiet => by simp_all

lemma iterate : thread.iterate.Healthy where
  enabled := switchSource_eq sane.enabled _
  connected := isSome_of_nextState
  settled := by
    intro blocked _
    have empty : thread.mPendingEvents = [] := by simpa [EventThread.iterate] using blocked
    refine ⟨by simp [EventThread.iterate, empty], ?_⟩
    simp [EventThread.iterate, empty, nextState_eq_vsync, Needs, and_assoc]

lemma release (id : Nat) :
    (thread.setConnection id { thread.connections id with alive := false }).Healthy := by
  have requests : ∀ other, (Function.update thread.connections id
      { thread.connections id with alive := false } other).vsyncRequest =
      (thread.connections other).vsyncRequest := by
    intro other
    by_cases eq : other = id
    · subst eq
      simp
    · simp [eq]
  refine ⟨sane.enabled, sane.connected, fun blocked quiet => ?_⟩
  have settled := sane.settled blocked quiet
  simpa only [Needs, setConnection, requests] using settled

lemma setSynthetic (synthetic : Bool) : (thread.setSynthetic synthetic).Healthy := by
  unfold EventThread.setSynthetic
  cases hit : thread.mVSyncState with
  | none => exact sane
  | some state =>
    dsimp only
    split
    · exact sane
    · exact sane.signalled rfl rfl (by rw [hit]; rfl) (.inl rfl)

lemma postVSync (display : thread.mVSyncState.isSome = true) (time expected : Int) :
    ∃ next, thread.postVSync time expected = some next ∧ next.Healthy := by
  rcases Option.isSome_iff_exists.1 display with ⟨state, hit⟩
  rw [EventThread.postVSync, hit]
  exact ⟨_, rfl, sane.signalled rfl rfl (by rw [hit]; rfl) (.inl rfl)⟩

lemma perform {label : EventThreadStep} (ok : Allowed (some thread) label) :
    ∃ next, thread.perform label = some next ∧ next.Healthy := by
  cases label with
  | registerDisplayEventConnection id configChangedDispatch =>
    refine ⟨_, rfl, ?_⟩
    unfold registerDisplayEventConnection
    split <;> exact sane.signalled rfl rfl rfl (.inl rfl)
  | setVsyncRate id rate =>
    refine ⟨_, rfl, ?_⟩
    unfold setVsyncRate
    dsimp only
    split_ifs <;> first
      | exact sane
      | exact sane.signalled rfl rfl rfl (.inl rfl)
  | requestNextVsync id =>
    refine ⟨_, rfl, ?_⟩
    unfold requestNextVsync
    split
    · exact sane.signalled rfl rfl rfl (.inl rfl)
    · exact sane
  | release id => exact ⟨_, rfl, sane.release id⟩
  | onScreenReleased => exact ⟨_, rfl, sane.setSynthetic true⟩
  | onScreenAcquired => exact ⟨_, rfl, sane.setSynthetic false⟩
  | onVSyncEvent time expected =>
    apply sane.postVSync
    apply sane.connected
    rw [sane.enabled.1 (ok thread rfl)]
    decide
  | onHotplugReceived | onConfigChanged =>
    exact ⟨_, rfl, sane.signalled rfl rfl rfl (.inl rfl)⟩
  | iterate =>
    refine ⟨_, rfl, ?_⟩
    split
    · exact sane
    · exact sane.iterate
  | wake => exact ⟨_, rfl, sane.signalled rfl rfl rfl (.inr rfl)⟩
  | timeout now limit =>
    simp only [EventThread.perform]
    split
    · rename_i waits
      have woken : Healthy { thread with blocked := false } :=
        sane.signalled rfl rfl rfl (.inr rfl)
      apply woken.postVSync
      apply sane.connected
      simpa using (Bool.and_eq_true_iff.1 waits).2
    · exact ⟨_, rfl, sane⟩

end

end Healthy

/-! ## A single request is answered once -/

def Leaves : EventThreadStep → Prop
  | .setVsyncRate other _ | .requestNextVsync other | .release other => other ≠ id
  | _ => True

lemma vsyncs_append (evs more : List DisplayEvent) :
    vsyncs (evs ++ more) = vsyncs evs ++ vsyncs more := filter_append ..

variable (displayId : Nat) (time : Int)

@[simp] lemma vsyncs_hotplug (connected : Bool) :
    vsyncs [.hotplug displayId time connected] = [] := rfl

@[simp] lemma vsyncs_configChanged (configId : Nat) (vsyncPeriod : Int) :
    vsyncs [.configChanged displayId time configId vsyncPeriod] = [] :=
  rfl

@[simp] lemma vsyncs_vsync (count : Nat) (expected : Int) :
    vsyncs [.vsync displayId time count expected] = [.vsync displayId time count expected] := rfl

/-- A connection is as it was, and no event was taken. -/
structure Unmoved (id : Nat) (thread next : EventThread) : Prop where
  registered : id ∈ thread.mDisplayEventConnections → id ∈ next.mDisplayEventConnections
  same : next.connections id = thread.connections id
  dequeued : next.dequeued = thread.dequeued

namespace Unmoved

variable {thread next : EventThread} {id : Nat}

lemma refl : Unmoved id thread thread := ⟨fun mem => mem, rfl, rfl⟩

lemma setConnection {other : Nat} (ne : other ≠ id) (conn : EventThreadConnection) :
    Unmoved id thread (thread.setConnection other conn) :=
  ⟨fun mem => mem, Function.update_of_ne ne.symm _ _, rfl⟩

lemma postVSync {time : Int} (posts : thread.postVSync time expected = some next) :
    Unmoved id thread next := by
  rcases Option.map_eq_some_iff.1 posts with ⟨state, _, rfl⟩
  exact ⟨fun mem => mem, rfl, rfl⟩

lemma perform {label : EventThreadStep} (leaves : Leaves id label) (calls : label ≠ .iterate)
    (registered : id ∈ thread.mDisplayEventConnections)
    (ran : thread.perform label = some next) : Unmoved id thread next := by
  cases label with
  | registerDisplayEventConnection other configChangedDispatch =>
    cases ran
    unfold registerDisplayEventConnection
    split
    · exact ⟨fun mem => mem, rfl, rfl⟩
    · rename_i unk
      have ne : other ≠ id := fun same => unk (same ▸ registered)
      exact { setConnection ne _ with registered := mem_append_left _ }
  | setVsyncRate other rate =>
    cases ran
    unfold setVsyncRate
    dsimp only
    split_ifs <;> first
      | exact refl
      | exact { setConnection leaves _ with }
  | requestNextVsync other =>
    cases ran
    unfold requestNextVsync
    split
    · exact { setConnection leaves _ with }
    · exact refl
  | release other =>
    cases ran
    exact setConnection leaves _
  | onScreenReleased | onScreenAcquired =>
    cases ran
    unfold setSynthetic
    split
    · exact refl
    · split
      · exact refl
      · exact ⟨fun mem => mem, rfl, rfl⟩
  | onVSyncEvent time expected => exact postVSync ran
  | iterate => exact absurd rfl calls
  | onHotplugReceived | onConfigChanged | wake =>
    cases ran
    exact ⟨fun mem => mem, rfl, rfl⟩
  | timeout now limit =>
    simp only [EventThread.perform] at ran
    split at ran
    · exact { postVSync ran with }
    · cases ran
      exact refl

end Unmoved

/-- Since `start`, where the connection had a single request, it was sent the first vsync event
that was taken, and no other. -/
structure Answered (start : EventThread) (id : Nat) (thread : EventThread) : Prop where
  registered : id ∈ thread.mDisplayEventConnections
  alive : (thread.connections id).alive = true
  taken : ∃ new, thread.dequeued = start.dequeued ++ new ∧
    vsyncs (thread.connections id).received =
      vsyncs (start.connections id).received ++ (vsyncs new).take 1 ∧
    (thread.connections id).vsyncRequest = if vsyncs new = [] then .single else .none

namespace Answered

variable {thread : EventThread} {id : Nat}

section

variable (ans : Answered start id thread)
include ans

lemma frame {next : EventThread} (unmoved : Unmoved id thread next) : Answered start id next where
  registered := unmoved.registered ans.registered
  alive := unmoved.same ▸ ans.alive
  taken := by
    rw [unmoved.same, unmoved.dequeued]
    exact ans.taken

lemma iterate : Answered start id thread.iterate := by
  have live : id ∈ thread.mDisplayEventConnections.filter
      fun id => (thread.connections id).alive :=
    mem_filter.2 ⟨ans.registered, ans.alive⟩
  rcases ans.taken with ⟨new, deq, got, req⟩
  cases event : thread.mPendingEvents.head? with
  | none =>
    refine ans.frame ⟨fun _ => live, ?_, ?_⟩
    · simp [EventThread.iterate, event]
    · simp [EventThread.iterate, event]
  | some event' =>
    have used : thread.iterate.connections id = (thread.connections id).consume event' := by
      simp only [EventThread.iterate, event, Option.elim, if_pos live]
    refine ⟨live, alive_iterate live, new ++ [event'], ?_, ?_⟩
    · simp [EventThread.iterate, event, deq]
    · rw [used, vsyncs_append]
      cases event' with
      | hotplug displayId time connected =>
        simpa [EventThreadConnection.consume, vsyncs_append] using ⟨got, req⟩
      | configChanged displayId time configId vsyncPeriod =>
        cases dispatch : (thread.connections id).configChangedDispatch <;>
          simpa [EventThreadConnection.consume, dispatch, vsyncs_append] using ⟨got, req⟩
      | vsync displayId time count expected =>
        -- the first such event answers the request, and later ones find none
        cases prior : vsyncs new with
        | nil =>
          rw [prior] at got req
          simp [EventThreadConnection.consume, req, got, vsyncs_append]
        | cons first rest =>
          rw [prior] at got req
          simp [EventThreadConnection.consume, req, got]

lemma perform {label : EventThreadStep} (leaves : Leaves id label) {next : EventThread}
    (ran : thread.perform label = some next) : Answered start id next := by
  cases label with
  | iterate =>
    cases ran
    split
    · exact ans
    · exact ans.iterate
  | _ => exact ans.frame (.perform leaves (by simp) ans.registered ran)

end

end Answered

/-! ## Runs -/

def Runs (condition : EventThread → Prop) (thread : Option EventThread) : Prop :=
  ∃ next, thread = some next ∧ next.Healthy ∧ condition next

lemma runs_step {cond : EventThread → Prop} {leaves : EventThreadStep → Prop}
    (kept : ∀ {thread next : EventThread} {label : EventThreadStep}, cond thread →
      leaves label → thread.perform label = some next → cond next)
    (thread : Option EventThread) (label : EventThreadStep) (runs : Runs cond thread)
    (ok : Allowed thread label ∧ leaves label) : Runs cond (step thread label) := by
  rcases runs with ⟨thread, rfl, sane, holds⟩
  rcases sane.perform ok.1 with ⟨next, ran, sane⟩
  exact ⟨next, ran, sane, kept holds ok.2 ran⟩

lemma healthy_create : create.Healthy where
  enabled := by decide
  connected := by decide
  settled := fun blocked => by cases blocked

/-- No run in which the source calls back only while it is enabled stops at a fatal check. When
the thread blocks, no event is pending and the source is enabled exactly if a display is
connected, it is not synthetic and a live connection has a request; while it waits without a
signal this only changes as clients go. A connection with a single request is sent exactly the
first vsync event that is taken afterwards, if its request is not changed. -/
theorem vsync_control (labels : List EventThreadStep)
    (allowed : Machine.Along step Allowed (some create) labels) :
    ∃ thread, run step (some create) labels = some thread ∧
      (thread.blocked = false → thread.iterate.blocked = true → thread.iterate.mPendingEvents = [] ∧
          (thread.iterate.vsyncEnabled = true ↔ thread.iterate.Needs (·.alive = true))) ∧
      (thread.blocked = true → thread.notified = false → thread.mPendingEvents = [] ∧
        (thread.vsyncEnabled = true ↔ thread.Needs fun _ => True)) ∧
      ∀ id ∈ thread.mDisplayEventConnections, (thread.connections id).alive = true →
        (thread.connections id).vsyncRequest = .single → ∀ more : List EventThreadStep,
        Machine.Along step Allowed (some thread) more → (∀ label ∈ more, Leaves id label) →
        ∃ later new, run step (some thread) more = some later ∧
          later.dequeued = thread.dequeued ++ new ∧ vsyncs (later.connections id).received =
            vsyncs (thread.connections id).received ++ (vsyncs new).take 1 := by
  have reached : Runs (fun _ => True) (run step (some create) labels) :=
    run_invariant (runs_step fun _ _ _ => trivial) ⟨create, rfl, healthy_create, trivial⟩
      (allowed.and_forall fun _ _ => trivial)
  rcases reached with ⟨thread, reached, healthy, _⟩
  refine ⟨thread, reached, fun _ blocks => ?_, fun blocked quiet => ?_, ?_⟩
  · have settled := healthy.iterate.settled blocks rfl
    refine ⟨settled.1, healthy.iterate.enabled.trans (settled.2.trans ?_)⟩
    apply and_congr_right
    intro _
    exact exists_congr fun id => and_congr_right fun listed => by simp [alive_iterate listed]
  · have settled := healthy.settled blocked quiet
    exact ⟨settled.1, healthy.enabled.trans settled.2⟩
  · intro id registered alive req more allowed leaves
    have start : Answered thread id thread :=
      ⟨registered, alive, [], by simp, by simp [vsyncs], by simp [vsyncs, req]⟩
    have answered : Runs (Answered thread id) (run step (some thread) more) :=
      run_invariant (runs_step fun answered leaves ran =>
        answered.perform leaves ran) ⟨thread, rfl, healthy, start⟩ (allowed.and_forall leaves)
    rcases answered with ⟨later, run, _, answered⟩
    rcases answered.taken with ⟨new, dequeued, received, _⟩
    exact ⟨later, new, run, dequeued, received⟩

def requested : List EventThreadStep :=
  [.registerDisplayEventConnection 7 false, .onHotplugReceived 1 0 true, .requestNextVsync 7,
    .iterate, .iterate]

theorem vsync_control_requested :
    ∃ thread later new, run step (some create) requested = some thread ∧
      run step (some thread) [.onVSyncEvent 10 20, .wake, .iterate] = some later ∧
      later.dequeued = thread.dequeued ++ new ∧ vsyncs (later.connections 7).received =
        vsyncs (thread.connections 7).received ++ (vsyncs new).take 1 := by
  rcases vsync_control requested ⟨trivial, trivial, trivial, trivial, trivial, trivial⟩ with
    ⟨thread, reached, _, _, answered⟩
  have enabled : thread.vsyncEnabled = true := by
    cases reached
    rfl
  have single : 7 ∈ thread.mDisplayEventConnections ∧ (thread.connections 7).alive = true ∧
      (thread.connections 7).vsyncRequest = .single := by
    cases reached
    exact ⟨by decide, rfl, rfl⟩
  rcases answered 7 single.1 single.2.1 single.2.2 [.onVSyncEvent 10 20, .wake, .iterate]
    ⟨fun _ same => Option.some.inj same ▸ enabled, trivial, trivial, trivial⟩
    (by simp [Leaves]) with ⟨later, new, run, dequeued, received⟩
  exact ⟨thread, later, new, reached, run, dequeued, received⟩

/-! ## Posts that fail -/

/-- `iterate` if the posts of `dispatchEvent` may fail. The request of a connection is consumed
before the event is posted to it. -/
def iteratePosting (thread : EventThread) (post : Nat → PostResult) : EventThread :=
  let next := thread.iterate
  { next with
    mDisplayEventConnections := next.mDisplayEventConnections.filter fun id =>
      post id ≠ .fatal ∨ (next.connections id).received = (thread.connections id).received
    connections := fun id => { next.connections id with
      received := if post id = .noError then (next.connections id).received
        else (thread.connections id).received } }

def stepPosting (thread : Option EventThread) :
    EventThreadStep × (Nat → PostResult) → Option EventThread
  | (.iterate, post) => thread.map fun thread =>
    if thread.blocked then thread else thread.iteratePosting post
  | (label, _) => step thread label

def Keeps (id : Nat) : EventThreadStep → Prop
  | .setVsyncRate other _ | .release other => other ≠ id
  | _ => True

/-- No post to the connection is fatal, and posts of vsync events to it succeed. -/
def Delivers (id : Nat) (thread : Option EventThread)
    (label : EventThreadStep × (Nat → PostResult)) : Prop :=
  label.2 id = .noError ∨ label.2 id = .again ∧
    ∀ thread' ∈ thread, thread'.mPendingEvents.head?.any DisplayEvent.isVSync = false

/-- Since `start` the connection was sent a vsync event, or it has its request. -/
structure Owed (start : EventThread) (id : Nat) (thread : EventThread) : Prop where
  registered : id ∈ thread.mDisplayEventConnections
  alive : (thread.connections id).alive = true
  kept : ∃ events, vsyncs (thread.connections id).received =
      vsyncs (start.connections id).received ++ events ∧
    ((thread.connections id).vsyncRequest = .single ∨ events ≠ [])

variable {thread : EventThread} {id : Nat}

lemma vsyncs_consume (conn : EventThreadConnection) (event : DisplayEvent) :
    ∃ evs, vsyncs (conn.consume event).received = vsyncs conn.received ++ evs ∧
      (event.isVSync = false → evs = []) ∧
      ((conn.consume event).vsyncRequest = conn.vsyncRequest ∨ evs ≠ []) := by
  unfold EventThreadConnection.consume
  cases event with
  | hotplug => exact ⟨[], by simp [vsyncs_append]⟩
  | configChanged => exact ⟨[], by dsimp only; split <;> simp [vsyncs_append]⟩
  | vsync displayId time count expected =>
    cases req : conn.vsyncRequest with
    | none => exact ⟨[], by simp [req]⟩
    | single => exact ⟨[_], vsyncs_append .., by simp [DisplayEvent.isVSync]⟩
    | periodic per =>
      by_cases due : count % per = 0
      · exact ⟨[_], by simp only [due]; exact vsyncs_append .., by simp [DisplayEvent.isVSync]⟩
      · exact ⟨[], by simp [due, req]⟩

namespace Owed

variable (owed : Owed start id thread)
include owed

lemma iteratePosting {post : Nat → PostResult} (delivers : post id = .noError ∨
      post id = .again ∧ thread.mPendingEvents.head?.any DisplayEvent.isVSync = false) :
    Owed start id (thread.iteratePosting post) := by
  have live : id ∈ thread.iterate.mDisplayEventConnections :=
    mem_filter.2 ⟨owed.registered, owed.alive⟩
  have used : thread.iterate.connections id = thread.mPendingEvents.head?.elim
      (thread.connections id) (thread.connections id).consume := if_pos live
  have sent : ∃ evs, vsyncs ((thread.iteratePosting post).connections id).received =
        vsyncs (thread.connections id).received ++ evs ∧
      ((thread.iterate.connections id).vsyncRequest = (thread.connections id).vsyncRequest ∨
        evs ≠ []) := by
    cases event : thread.mPendingEvents.head? with
    | none => exact ⟨[], by simp [EventThread.iteratePosting, used, event]⟩
    | some event' =>
      rw [event] at delivers used
      rcases vsyncs_consume (thread.connections id) event' with ⟨evs, got, quiet, req⟩
      refine ⟨evs, ?_, used ▸ req⟩
      rcases delivers with posted | ⟨again, other⟩
      · simpa [EventThread.iteratePosting, posted, used] using got
      · simp [EventThread.iteratePosting, again, quiet other]
  rcases owed.kept with ⟨prior, old, kept⟩
  rcases sent with ⟨evs, got, req⟩
  refine ⟨mem_filter.2 ⟨live, ?_⟩, alive_iterate live, prior ++ evs, ?_, ?_⟩
  · rcases delivers with posted | ⟨again, _⟩
    · simp [posted]
    · simp [again]
  · rw [got, old, append_assoc]
  · rcases req with same | sent
    · exact kept.imp same.trans (append_ne_nil_of_left_ne_nil · _)
    · exact .inr (append_ne_nil_of_right_ne_nil _ sent)

lemma perform {label : EventThreadStep} (keeps : Keeps id label) (calls : label ≠ .iterate)
    {next : EventThread} (ran : thread.perform label = some next) : Owed start id next := by
  by_cases asks : label = .requestNextVsync id
  · subst asks
    cases ran
    unfold requestNextVsync
    split
    · rcases owed.kept with ⟨evs, got, _⟩
      refine ⟨owed.registered, ?_, evs, ?_, ?_⟩
      · simpa [setRequest, setConnection, notify] using owed.alive
      · simpa [setRequest, setConnection, notify] using got
      · simp [setRequest, setConnection, notify]
    · exact owed
  · have leaves : Leaves id label := by
      cases label with
      | requestNextVsync other => exact fun same => asks (same ▸ rfl)
      | _ => exact keeps
    rcases Unmoved.perform leaves calls owed.registered ran with ⟨registered, same, _⟩
    exact ⟨registered owed.registered, same ▸ owed.alive, same ▸ owed.kept⟩

end Owed

lemma owed_stepPosting (state : Option EventThread)
    (label : EventThreadStep × (Nat → PostResult)) (owed : ∀ thread ∈ state, Owed start id thread)
    (cond : Delivers id state label ∧ Keeps id label.1) :
    ∀ thread ∈ stepPosting state label, Owed start id thread := by
  intro next ran
  rcases label with ⟨label, post⟩
  cases state with
  | none => cases label <;> cases ran
  | some thread =>
    have owed := owed thread rfl
    cases label with
    | iterate =>
      cases ran
      dsimp only
      split
      · exact owed
      · exact owed.iteratePosting (cond.1.imp_right (.imp_right (· thread rfl)))
    | _ => exact owed.perform cond.2 (by simp) ran

/-- A single request of a client that keeps its connection is only cleared after a vsync event
was posted to it, in every run in which posts of vsync events to the connection succeed. -/
theorem request_kept_until_posted (start : EventThread) (id : Nat)
    (registered : id ∈ start.mDisplayEventConnections) (alive : (start.connections id).alive = true)
    (request : (start.connections id).vsyncRequest = .single)
    (labels : List (EventThreadStep × (Nat → PostResult)))
    (delivers : Machine.Along stepPosting (Delivers id) (some start) labels)
    (keeps : ∀ label ∈ labels, Keeps id label.1) :
    ∀ thread ∈ run stepPosting (some start) labels,
      (thread.connections id).vsyncRequest = .single ∨
        ∃ events ≠ [], vsyncs (thread.connections id).received =
          vsyncs (start.connections id).received ++ events := by
  intro thread reached
  have init : ∀ thread ∈ some start, Owed start id thread := by
    rintro _ ⟨⟩
    exact ⟨registered, alive, [], by simp [request]⟩
  have owed := run_invariant owed_stepPosting init (delivers.and_forall keeps)
  rcases (owed thread reached).kept with ⟨events, received, kept⟩
  exact kept.imp_right fun sent => ⟨events, sent, received⟩

def pipeFull : List (EventThreadStep × (Nat → PostResult)) :=
  requested.map (·, fun _ => .noError) ++
    [(.onVSyncEvent 10 20, fun _ => .noError), (.wake, fun _ => .noError),
      (.iterate, fun _ => .again), (.iterate, fun _ => .noError)]

theorem request_lost_pipeFull : (run stepPosting (some create) pipeFull).map (fun thread =>
      (thread.mDisplayEventConnections, (thread.connections 7).alive,
        (thread.connections 7).vsyncRequest, vsyncs (thread.connections 7).received,
        thread.blocked, thread.vsyncEnabled)) = some ([7], true, .none, [], true, false) := rfl

/-- `EAGAIN` for a hotplug event does no harm. -/
theorem request_kept_until_posted_again :
    let asked := ((create.registerDisplayEventConnection 7 false).requestNextVsync 7).post
      (.hotplug 1 0 true)
    ∃ thread, run stepPosting (some asked) [(.iterate, fun _ => .again)] = some thread ∧
      ((thread.connections 7).vsyncRequest = .single ∨ ∃ events ≠ [],
        vsyncs (thread.connections 7).received = vsyncs (asked.connections 7).received ++ events) :=
  ⟨_, rfl, request_kept_until_posted _ 7 (by decide) rfl rfl [(.iterate, fun _ => .again)]
    ⟨.inr ⟨rfl, fun _ same => Option.some.inj same ▸ rfl⟩, trivial⟩ (by simp [Keeps]) _ rfl⟩

end EventThread

end NativeLibs.Scheduler
