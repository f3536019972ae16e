import NativeLibs.Flinger.ClientState
import NativeLibs.Scheduler.VSyncModulator

/-! # Transactions at the server

`setTransactionState` applies a transaction or puts it in the queue of its token, and
`flushTransactionQueues` applies what has become ready. A call is one step: what is modelled of an
animation or a synchronous transaction is the part before or after the server waits. -/

namespace NativeLibs.Flinger

open Composer Scheduler

variable {Token World Value : Type}

/-! ## Flags of a transaction -/

def eSynchronous : BitVec 32 := 0x01

def eAnimation : BitVec 32 := 0x02

def eEarlyWakeup : BitVec 32 := 0x04

def eExplicitEarlyWakeupStart : BitVec 32 := 0x08

def eExplicitEarlyWakeupEnd : BitVec 32 := 0x10

def has (flags bit : BitVec 32) : Bool := flags &&& bit != 0

def transactionStart (flags : BitVec 32) : TransactionStart :=
  if has flags eEarlyWakeup then .early
  else if has flags eExplicitEarlyWakeupEnd then .earlyEnd
  else if has flags eExplicitEarlyWakeupStart then .earlyStart
  else .normal

structure InputWindowCommands where
  syncInputWindows : Bool
  deriving DecidableEq, Repr

def InputWindowCommands.merge (commands other : InputWindowCommands) : InputWindowCommands :=
  ⟨commands.syncInputWindows || other.syncInputWindows⟩

/-! ## Transactions -/

structure Application (Value : Type) where
  states : List (LayerState Value)
  displays : List (DisplayState Value)
  flags : BitVec 32
  inputWindowCommands : InputWindowCommands
  desiredPresentTime : Int
  uncacheBuffer : ClientCacheId
  postTime : Int
  privileged : Bool
  hasListenerCallbacks : Bool
  listenerCallbacks : List ListenerCallbacks

/-- A call of `setTransactionState`: the token, and what is applied if the transaction is ready. -/
structure Submission (Token Value : Type) where
  applyToken : Token
  application : Application Value

/-- `TransactionState`. `ticket` is a history variable: the number of the submission. -/
structure TransactionState (Value : Type) where
  states : List (LayerState Value)
  displays : List (DisplayState Value)
  flags : BitVec 32
  desiredPresentTime : Int
  buffer : ClientCacheId
  postTime : Int
  privileged : Bool
  hasListenerCallbacks : Bool
  listenerCallbacks : List ListenerCallbacks
  ticket : Nat

def Application.enqueue (application : Application Value) (ticket : Nat) :
    TransactionState Value where
  states := application.states
  displays := application.displays
  flags := application.flags
  desiredPresentTime := application.desiredPresentTime
  buffer := application.uncacheBuffer
  postTime := application.postTime
  privileged := application.privileged
  hasListenerCallbacks := application.hasListenerCallbacks
  listenerCallbacks := application.listenerCallbacks
  ticket := ticket

def TransactionState.application (transaction : TransactionState Value)
    (pending : InputWindowCommands) : Application Value where
  states := transaction.states
  displays := transaction.displays
  flags := transaction.flags
  inputWindowCommands := pending
  desiredPresentTime := transaction.desiredPresentTime
  uncacheBuffer := transaction.buffer
  postTime := transaction.postTime
  privileged := transaction.privileged
  hasListenerCallbacks := transaction.hasListenerCallbacks
  listenerCallbacks := transaction.listenerCallbacks

/-- A transaction that was applied: its ticket, what was applied, and what the readiness test said
at that moment. -/
structure Applied (Value : Type) where
  ticket : Nat
  application : Application Value
  ready : Bool

/-- The state of the server that transactions change. `clock` is the time, `signalled` says which
fences have signalled, and `submitted` and `applied` are history variables. -/
structure SurfaceFlinger (Token World Value : Type) where
  mTransactionQueues : AList fun _ : Token => List (TransactionState Value)
  mExpectedPresentTime : Int
  mTransactionFlags : BitVec 32
  mVSyncModulator : VSyncModulator
  mPendingInputWindowCommands : InputWindowCommands
  mPendingSyncInputWindows : Bool
  mTransactionPending : Bool
  mAnimTransactionPending : Bool
  mForceTraversal : Bool
  displays : Displays Value
  scene : Scene World
  clock : Int
  signalled : Nat → Bool
  submitted : List (Submission Token Value)
  applied : List (Applied Value)

namespace SurfaceFlinger

variable (flinger : SurfaceFlinger Token World Value)

def create (config : OffsetsConfig) (displays : Displays Value) (world : World) :
    SurfaceFlinger Token World Value where
  mTransactionQueues := ∅
  mExpectedPresentTime := 0
  mTransactionFlags := 0
  mVSyncModulator := VSyncModulator.create config
  mPendingInputWindowCommands := ⟨false⟩
  mPendingSyncInputWindows := false
  mTransactionPending := false
  mAnimTransactionPending := false
  mForceTraversal := false
  displays := displays
  scene := ⟨world, fun _ => ClientCache.create, []⟩
  clock := 0
  signalled := fun _ => false
  submitted := []
  applied := []

/-! ## Applying -/

def setTransactionFlags (flags : BitVec 32) (transactionStart : TransactionStart) :
    SurfaceFlinger Token World Value :=
  { flinger with
    mTransactionFlags := flinger.mTransactionFlags ||| flags
    mVSyncModulator := flinger.mVSyncModulator.setTransactionStart flinger.clock transactionStart }

def notifyThread (calls : List CallbackCall) : SurfaceFlinger Token World Value :=
  { flinger with
    scene := { flinger.scene with callbacks := flinger.scene.callbacks ++ calls } }

def applyDisplay [DecidableEq Value] (result : SurfaceFlinger Token World Value × BitVec 32)
    (display : DisplayState Value) : SurfaceFlinger Token World Value × BitVec 32 :=
  let (displays, flags) := setDisplayStateLocked result.1.displays display
  ({ result.1 with displays := displays }, result.2 ||| flags)

variable (layers : Layers World Value) (application : Application Value)

def applyState (result : SurfaceFlinger Token World Value × BitVec 32) (s : LayerState Value) :
    SurfaceFlinger Token World Value × BitVec 32 :=
  let (scene, flags) := result.1.scene.setClientStateLocked layers s
    application.desiredPresentTime application.postTime application.privileged
  let scene :=
    if has application.flags eAnimation then
      match s.surface.filter (layers.isAlive scene.world) with
      | some handle =>
        (scene.perform layers handle false 0
          (.recordLayerHistory application.desiredPresentTime) 0).1
      | none => scene
    else scene
  ({ result.1 with scene := scene }, result.2 ||| flags)

def addInputWindowCommands (commands : InputWindowCommands) :
    SurfaceFlinger Token World Value × BitVec 32 :=
  ({ flinger with
    mPendingInputWindowCommands := flinger.mPendingInputWindowCommands.merge commands },
    if commands.syncInputWindows then eTraversalNeeded else 0)

def uncache (uncacheBuffer : ClientCacheId) : SurfaceFlinger Token World Value :=
  match uncacheBuffer.token with
  | some token =>
    { flinger with
      scene := { flinger.scene with
        caches := Function.update flinger.scene.caches token
          ((flinger.scene.caches token).erase uncacheBuffer) } }
  | none => flinger

def awaitAnimation (isMainThread : Bool) : SurfaceFlinger Token World Value :=
  if has application.flags eAnimation && !isMainThread then
    { flinger with mAnimTransactionPending := false }
  else flinger

def applyDisplays [DecidableEq Value] (application : Application Value) :
    SurfaceFlinger Token World Value × BitVec 32 :=
  let result := application.displays.foldl applyDisplay (flinger, 0)
  (result.1.notifyThread (application.listenerCallbacks.flatMap fun listener =>
    [.startRegistration listener, .endRegistration listener]), result.2)

/-- The layers. If nothing has to be drawn, the callbacks are sent at once. -/
def applyClientStates (flinger : SurfaceFlinger Token World Value)
    (application : Application Value) : SurfaceFlinger Token World Value × BitVec 32 :=
  let result := application.states.foldl (applyState layers application) (flinger, 0)
  let flinger := result.1.notifyThread
    ((application.states.flatMap (·.listeners)).dedup.map .endRegistration)
  if !has result.2 eTraversalNeeded && application.hasListenerCallbacks then
    (flinger.notifyThread [.sendCallbacks], result.2)
  else (flinger, result.2)

/-- The first part of `applyTransactionState`: what is set, and the flags that follow from it. -/
def applyStates [DecidableEq Value] (layers : Layers World Value)
    (flinger : SurfaceFlinger Token World Value) (application : Application Value)
    (isMainThread : Bool) : SurfaceFlinger Token World Value × BitVec 32 :=
  let displays := (flinger.awaitAnimation application isMainThread).applyDisplays application
  let clients := displays.1.applyClientStates layers application
  let inputs := clients.1.addInputWindowCommands application.inputWindowCommands
  (inputs.1.uncache application.uncacheBuffer, displays.2 ||| clients.2 ||| inputs.2)

def commit (isMainThread : Bool) (transactionFlags : BitVec 32) :
    SurfaceFlinger Token World Value :=
  let transactionFlags :=
    if transactionFlags = 0 ∧
        (has application.flags eSynchronous || has application.flags eAnimation) then
      eTransactionNeeded
    else transactionFlags
  let forced := isMainThread && has transactionFlags eTraversalNeeded
  let transactionFlags := if forced then transactionFlags &&& ~~~ eTraversalNeeded
    else transactionFlags
  let flinger := { flinger with mForceTraversal := flinger.mForceTraversal || forced }
  -- The flags of a caller without privilege are cleared only after this.
  let start := transactionStart application.flags
  if transactionFlags ≠ 0 then
    let flags :=
      if !application.privileged then
        application.flags &&& ~~~ (eExplicitEarlyWakeupStart ||| eExplicitEarlyWakeupEnd)
      else application.flags
    let flinger := flinger.setTransactionFlags transactionFlags start
    { flinger with
      mAnimTransactionPending := flinger.mAnimTransactionPending || has flags eAnimation
      mTransactionPending := flinger.mTransactionPending || has flags eSynchronous
      mPendingSyncInputWindows := flinger.mPendingSyncInputWindows ||
        application.inputWindowCommands.syncInputWindows }
  else if start = .earlyStart ∨ start = .earlyEnd then
    { flinger with
      mVSyncModulator := flinger.mVSyncModulator.setTransactionStart flinger.clock start }
  else flinger

def applyTransactionState [DecidableEq Value] (layers : Layers World Value)
    (flinger : SurfaceFlinger Token World Value) (application : Application Value)
    (isMainThread : Bool) : SurfaceFlinger Token World Value :=
  let (flinger, transactionFlags) := flinger.applyStates layers application isMainThread
  flinger.commit application isMainThread transactionFlags

/-! ## Queues -/

def oneSecond : Int := 1000000000

def transactionIsReadyToBeApplied (desiredPresentTime : Int) (states : List (LayerState Value)) :
    Bool :=
  if 0 ≤ desiredPresentTime ∧ flinger.mExpectedPresentTime ≤ desiredPresentTime ∧
      desiredPresentTime < flinger.mExpectedPresentTime + oneSecond then false
  else states.all fun s => !s.what .acquireFence || (s.get .acquireFence).all flinger.signalled

def applyTicket [DecidableEq Value] (layers : Layers World Value)
    (flinger : SurfaceFlinger Token World Value) (ticket : Nat) (application : Application Value)
    (isMainThread : Bool) : SurfaceFlinger Token World Value :=
  let ready := flinger.transactionIsReadyToBeApplied application.desiredPresentTime
    application.states
  let flinger := flinger.applyTransactionState layers application isMainThread
  { flinger with applied := flinger.applied ++ [⟨ticket, application, ready⟩] }

/-- `expectedPresentTime` is what `calculateExpectedPresentTime` returns. -/
def setTransactionState [DecidableEq Token] [DecidableEq Value] (layers : Layers World Value)
    (flinger : SurfaceFlinger Token World Value) (submission : Submission Token Value)
    (expectedPresentTime : Int) : SurfaceFlinger Token World Value :=
  let ticket := flinger.submitted.length
  let flinger := { flinger with submitted := flinger.submitted ++ [submission] }
  let application := submission.application
  let pendingTransactions := flinger.mTransactionQueues.lookup submission.applyToken
  let flinger := if pendingTransactions.isNone then
      { flinger with mExpectedPresentTime := expectedPresentTime }
    else flinger
  if pendingTransactions.isSome || !flinger.transactionIsReadyToBeApplied
      application.desiredPresentTime application.states then
    { flinger with
      mTransactionQueues := flinger.mTransactionQueues.insert submission.applyToken
        (pendingTransactions.getD [] ++ [application.enqueue ticket]) }.setTransactionFlags
      eTransactionFlushNeeded .normal
  else flinger.applyTicket layers ticket application false

def flushQueue [DecidableEq Value] (layers : Layers World Value) :
    SurfaceFlinger Token World Value → List (TransactionState Value) →
      SurfaceFlinger Token World Value × List (TransactionState Value)
  | flinger, [] => (flinger, [])
  | flinger, transaction :: rest =>
    if flinger.transactionIsReadyToBeApplied transaction.desiredPresentTime
        transaction.states then
      flushQueue layers (flinger.applyTicket layers transaction.ticket
          (transaction.application flinger.mPendingInputWindowCommands) true) rest
    else (flinger.setTransactionFlags eTransactionFlushNeeded .normal, transaction :: rest)

def flushToken [DecidableEq Token] [DecidableEq Value] (layers : Layers World Value)
    (result : SurfaceFlinger Token World Value × Bool) (token : Token) :
    SurfaceFlinger Token World Value × Bool :=
  match result.1.mTransactionQueues.lookup token with
  | none => result
  | some queue =>
    let (flinger, rest) := result.1.flushQueue layers queue
    ({ flinger with
      mTransactionQueues :=
        if rest.isEmpty then flinger.mTransactionQueues.erase token
        else flinger.mTransactionQueues.insert token rest },
      result.2 || rest.length != queue.length)

def flushTransactionQueues [DecidableEq Token] [DecidableEq Value] (layers : Layers World Value)
    (flinger : SurfaceFlinger Token World Value) (order : List Token) :
    SurfaceFlinger Token World Value × Bool :=
  if order.Perm flinger.mTransactionQueues.keys then
    order.foldl (flushToken layers) (flinger, false)
  else (flinger, false)

/-! ## The main thread -/

def transactionFlushNeeded : Bool :=
  !flinger.mTransactionQueues.keys.isEmpty

def takeTransactionFlags (flags : BitVec 32) : SurfaceFlinger Token World Value :=
  { flinger with mTransactionFlags := flinger.mTransactionFlags &&& ~~~ flags }

def handleTransaction (world : World) : SurfaceFlinger Token World Value :=
  let traverses := has flinger.mTransactionFlags eTraversalNeeded || flinger.mForceTraversal
  { flinger.takeTransactionFlags eTransactionMask with
    mVSyncModulator := flinger.mVSyncModulator.onTransactionHandled flinger.clock
    mForceTraversal := flinger.mForceTraversal && !traverses
    mPendingInputWindowCommands := ⟨false⟩
    mTransactionPending := false
    mAnimTransactionPending := false
    scene := { flinger.scene with world := world } }

def handleMessageTransaction [DecidableEq Token] [DecidableEq Value]
    (layers : Layers World Value) (flinger : SurfaceFlinger Token World Value)
    (order : List Token) (world : World) : SurfaceFlinger Token World Value :=
  let transactionFlags := flinger.mTransactionFlags
  let flushed := flinger.flushTransactionQueues layers order
  let runHandleTransaction :=
    transactionFlags ≠ 0 ∧ transactionFlags ≠ eTransactionFlushNeeded ∨
      flushed.2 ∨ flushed.1.mForceTraversal
  let handled := if runHandleTransaction then flushed.1.handleTransaction world
    else flushed.1.takeTransactionFlags eTransactionFlushNeeded
  if handled.transactionFlushNeeded then handled.setTransactionFlags eTransactionFlushNeeded .normal
  else handled

/-! ## Runs -/

/-- A step of the server, or of its environment: the expected present time is computed, the clock
goes on, a fence signals. -/
inductive Call (Token World Value : Type) where
  | setTransactionState (submission : Submission Token Value) (expectedPresentTime : Int)
  | flushTransactionQueues (order : List Token)
  | handleMessageTransaction (order : List Token) (world : World)
  | setExpectedPresentTime (time : Int)
  | setClock (time : Int)
  | signal (fence : Nat)

def step [DecidableEq Token] [DecidableEq Value] (layers : Layers World Value)
    (flinger : SurfaceFlinger Token World Value) :
    Call Token World Value → SurfaceFlinger Token World Value
  | .setTransactionState submission expectedPresentTime =>
    flinger.setTransactionState layers submission expectedPresentTime
  | .flushTransactionQueues order => (flinger.flushTransactionQueues layers order).1
  | .handleMessageTransaction order world => flinger.handleMessageTransaction layers order world
  | .setExpectedPresentTime time => { flinger with mExpectedPresentTime := time }
  | .setClock time => { flinger with clock := time }
  | .signal fence => { flinger with signalled := Function.update flinger.signalled fence true }

end SurfaceFlinger

/-! ## What the steps of a transaction change

Applying a transaction changes neither the queues nor what the readiness test reads, and it does
not clear a flag. The flush of a queue applies a first part of it. -/

open List

/-! ## What applying a transaction leaves as it is -/

lemma has_or (flags more bit : BitVec 32) :
    has (flags ||| more) bit = (has flags bit || has more bit) := by
  unfold has
  rw [BitVec.and_comm, BitVec.and_or_distrib_left, BitVec.and_comm bit, BitVec.and_comm bit,
    Bool.eq_iff_iff, Bool.or_eq_true, bne_iff_ne, bne_iff_ne, bne_iff_ne]
  exact (not_congr BitVec.or_eq_zero_iff).trans Classical.not_and_iff_not_or_not

structure Kept (before after : SurfaceFlinger Token World Value) : Prop where
  queues : after.mTransactionQueues = before.mTransactionQueues
  expected : after.mExpectedPresentTime = before.mExpectedPresentTime
  signalled : after.signalled = before.signalled
  submitted : after.submitted = before.submitted
  flags : ∀ bit, has before.mTransactionFlags bit = true → has after.mTransactionFlags bit = true

namespace Kept

variable {after : SurfaceFlinger Token World Value}

lemma refl (sf : SurfaceFlinger Token World Value) : Kept sf sf :=
  ⟨rfl, rfl, rfl, rfl, fun _ raised => raised⟩

lemma trans (first : Kept old mid) (second : Kept mid after) : Kept old after where
  queues := second.queues.trans first.queues
  expected := second.expected.trans first.expected
  signalled := second.signalled.trans first.signalled
  submitted := second.submitted.trans first.submitted
  flags bit raised := second.flags bit (first.flags bit raised)

end Kept

/-- As before, and so are the history and the pending input window commands. -/
structure Untouched (before after : SurfaceFlinger Token World Value) : Prop
    extends Kept before after where
  applied : after.applied = before.applied
  pending : after.mPendingInputWindowCommands = before.mPendingInputWindowCommands

namespace SurfaceFlinger

variable {after : SurfaceFlinger Token World Value} (sf : SurfaceFlinger Token World Value)
  (ls : Layers World Value)

lemma setTransactionFlags_untouched (flags : BitVec 32) (low : TransactionStart) :
    Untouched sf (sf.setTransactionFlags flags low) where
  queues := rfl
  expected := rfl
  signalled := rfl
  submitted := rfl
  applied := rfl
  pending := rfl
  flags bit raised := by
    unfold setTransactionFlags
    rw [has_or, raised, Bool.true_or]

lemma setTransactionFlags_raises (low : TransactionStart) :
    has (sf.setTransactionFlags eTransactionFlushNeeded low).mTransactionFlags
      eTransactionFlushNeeded = true := by
  unfold setTransactionFlags
  rw [has_or, Bool.or_eq_true]
  exact .inr rfl

variable (app : Application Value) (main : Bool)

lemma commit_untouched (transactionFlags : BitVec 32) :
    Untouched sf (sf.commit app main transactionFlags) := by
  unfold commit
  extract_lets flags forced left forcing low cleared raised
  split
  · obtain ⟨⟨queues, expected, signalled, sub, raises⟩, appl, pend⟩ :=
      setTransactionFlags_untouched forcing left low
    exact ⟨⟨queues, expected, signalled, sub, raises⟩, appl, pend⟩
  · split
    · exact ⟨⟨rfl, rfl, rfl, rfl, fun _ raised => raised⟩, rfl, rfl⟩
    · exact ⟨⟨rfl, rfl, rfl, rfl, fun _ raised => raised⟩, rfl, rfl⟩

/-! ## Layers and displays -/

def Placed (before after : SurfaceFlinger Token World Value) : Prop :=
  ∃ displays scene waits, after =
    { before with displays := displays, scene := scene, mAnimTransactionPending := waits }

lemma Placed.refl : Placed sf sf := ⟨_, _, _, rfl⟩

lemma Placed.trans (first : Placed old mid) (second : Placed mid after) : Placed old after := by
  obtain ⟨_, _, _, rfl⟩ := first
  obtain ⟨_, _, _, rfl⟩ := second
  exact ⟨_, _, _, rfl⟩

lemma foldl_placed {apply : SurfaceFlinger Token World Value × BitVec 32 → Item →
      SurfaceFlinger Token World Value × BitVec 32}
    (one : ∀ res item, Placed res.1 (apply res item).1) (items : List Item)
    (res : SurfaceFlinger Token World Value × BitVec 32) :
    Placed res.1 (items.foldl apply res).1 := by
  induction items generalizing res with
  | nil => exact .refl _
  | cons item rest ih => exact (one res item).trans (ih (apply res item))

lemma notifyThread_placed (calls : List CallbackCall) : Placed sf (sf.notifyThread calls) :=
  ⟨_, _, _, rfl⟩

lemma uncache_placed (uncacheBuffer : ClientCacheId) : Placed sf (sf.uncache uncacheBuffer) := by
  unfold uncache
  split
  · exact ⟨_, _, _, rfl⟩
  · exact .refl sf

lemma awaitAnimation_placed : Placed sf (sf.awaitAnimation app main) := by
  unfold awaitAnimation
  split
  · exact ⟨_, _, _, rfl⟩
  · exact .refl sf

lemma applyState_placed (res : SurfaceFlinger Token World Value × BitVec 32)
    (s : LayerState Value) : Placed res.1 (applyState ls app res s).1 :=
  ⟨_, _, _, rfl⟩

lemma applyClientStates_placed (sf : SurfaceFlinger Token World Value) (app : Application Value) :
    Placed sf (sf.applyClientStates ls app).1 := by
  have states := (foldl_placed (applyState_placed ls app) app.states
    (sf, 0)).trans (notifyThread_placed _
      ((app.states.flatMap (·.listeners)).dedup.map .endRegistration))
  unfold applyClientStates
  dsimp only
  split
  · exact states.trans (notifyThread_placed _ _)
  · exact states

variable [DecidableEq Value]

lemma applyDisplay_placed (res : SurfaceFlinger Token World Value × BitVec 32)
    (display : DisplayState Value) : Placed res.1 (applyDisplay res display).1 :=
  ⟨_, _, _, rfl⟩

lemma applyDisplays_placed : Placed sf (sf.applyDisplays app).1 :=
  (foldl_placed applyDisplay_placed app.displays (sf, 0)).trans
    (notifyThread_placed _ _)

lemma applyStates_spec (sf : SurfaceFlinger Token World Value)
    (app : Application Value) (main : Bool) :
    ∃ displays scene waits, (sf.applyStates ls app main).1 = { sf with
        displays := displays
        scene := scene
        mAnimTransactionPending := waits
        mPendingInputWindowCommands :=
          sf.mPendingInputWindowCommands.merge app.inputWindowCommands } := by
  have placed := ((sf.awaitAnimation_placed app main).trans
    (applyDisplays_placed _ app)).trans (applyClientStates_placed ls _ app)
  unfold applyStates
  dsimp only
  obtain ⟨displays, scene, waits, same⟩ := placed
  rw [same]
  obtain ⟨_, _, _, cold⟩ := uncache_placed (addInputWindowCommands { sf with
    displays := displays, scene := scene, mAnimTransactionPending := waits }
      app.inputWindowCommands).1 app.uncacheBuffer
  rw [cold]
  exact ⟨_, _, _, rfl⟩

lemma applyTransactionState_spec (sf : SurfaceFlinger Token World Value)
    (app : Application Value) (main : Bool) : Kept sf (sf.applyTransactionState ls app main) ∧
      (sf.applyTransactionState ls app main).applied = sf.applied ∧
      (sf.applyTransactionState ls app main).mPendingInputWindowCommands =
        sf.mPendingInputWindowCommands.merge app.inputWindowCommands := by
  obtain ⟨displays, scene, waits, set⟩ := sf.applyStates_spec ls app main
  have commits := (sf.applyStates ls app main).1.commit_untouched
    app main (sf.applyStates ls app main).2
  rw [set] at commits
  unfold applyTransactionState
  dsimp only
  rw [set]
  exact ⟨⟨commits.queues, commits.expected, commits.signalled, commits.submitted, commits.flags⟩,
    commits.applied, commits.pending⟩

lemma InputWindowCommands.merge_self (commands : InputWindowCommands) :
    commands.merge commands = commands := by
  unfold InputWindowCommands.merge
  rw [Bool.or_self]

/-! ## The flush -/

def flushed (pending : InputWindowCommands) (transaction : TransactionState Value) :
    Applied Value :=
  ⟨transaction.ticket, transaction.application pending, true⟩

lemma applyTicket_spec (sf : SurfaceFlinger Token World Value) (ticket : Nat)
    (app : Application Value) (main : Bool) : Kept sf (sf.applyTicket ls ticket app main) ∧
      (sf.applyTicket ls ticket app main).applied = sf.applied ++ [⟨ticket, app,
          sf.transactionIsReadyToBeApplied app.desiredPresentTime app.states⟩] ∧
      (sf.applyTicket ls ticket app main).mPendingInputWindowCommands =
        sf.mPendingInputWindowCommands.merge app.inputWindowCommands := by
  obtain ⟨kept, appl, pend⟩ :=
    sf.applyTransactionState_spec ls app main
  refine ⟨⟨kept.queues, kept.expected, kept.signalled, kept.submitted, kept.flags⟩, ?_, pend⟩
  unfold applyTicket
  dsimp only
  rw [appl]

/-- The flush of a queue applies a first part of it; if something is left, the flag is raised. -/
structure FlushedQueue (before after : SurfaceFlinger Token World Value)
    (queue rest : List (TransactionState Value)) : Prop where
  kept : Kept before after
  pending : after.mPendingInputWindowCommands = before.mPendingInputWindowCommands
  applied : ∃ done, queue = done ++ rest ∧
    after.applied = before.applied ++ done.map (flushed before.mPendingInputWindowCommands)
  raised : rest ≠ [] → has after.mTransactionFlags eTransactionFlushNeeded = true

lemma flushQueue_spec (q : List (TransactionState Value))
    (sf : SurfaceFlinger Token World Value) : FlushedQueue sf (sf.flushQueue ls q).1 q
      (sf.flushQueue ls q).2 := by
  induction q generalizing sf with
  | nil => exact ⟨.refl sf, rfl, ⟨[], rfl, by simp [flushQueue]⟩, fun some => absurd rfl some⟩
  | cons tx rest ih =>
    unfold flushQueue
    split
    · rename_i ready
      obtain ⟨kept, appl, pend⟩ := sf.applyTicket_spec ls tx.ticket
        (tx.application sf.mPendingInputWindowCommands) true
      have others := ih (sf.applyTicket ls tx.ticket
        (tx.application sf.mPendingInputWindowCommands) true)
      have samePending := pend.trans (InputWindowCommands.merge_self _)
      obtain ⟨done, split, appliedLater⟩ := others.applied
      refine ⟨kept.trans others.kept, others.pending.trans samePending,
        ⟨tx :: done, congrArg (tx :: ·) split, ?_⟩, others.raised⟩
      have wasReady : sf.transactionIsReadyToBeApplied
          (tx.application sf.mPendingInputWindowCommands).desiredPresentTime
          (tx.application sf.mPendingInputWindowCommands).states = true := ready
      rw [appliedLater, appl, wasReady, samePending, map_cons, append_assoc, singleton_append]
      rfl
    · refine ⟨(sf.setTransactionFlags_untouched _ _).toKept, rfl, ⟨[], rfl, ?_⟩,
        fun _ => sf.setTransactionFlags_raises _⟩
      rw [map_nil, append_nil]
      rfl

/-- What a flush has done so far: the transactions that it applied got the pending commands. -/
structure FlushedSince (before after : SurfaceFlinger Token World Value) : Prop where
  submitted : after.submitted = before.submitted
  pending : after.mPendingInputWindowCommands = before.mPendingInputWindowCommands
  applied : ∃ more, after.applied = before.applied ++ more ∧
    ∀ entry ∈ more, entry.application.inputWindowCommands = before.mPendingInputWindowCommands

omit [DecidableEq Value] in
lemma FlushedSince.trans (first : FlushedSince old mid)
    (second : FlushedSince mid after) : FlushedSince old after := by
  obtain ⟨more, appl, commands⟩ := first.applied
  obtain ⟨evenMore, appliedLater, commandsLater⟩ := second.applied
  refine ⟨second.submitted.trans first.submitted, second.pending.trans first.pending,
    more ++ evenMore, ?_, ?_⟩
  · rw [appliedLater, appl, append_assoc]
  · exact forall_mem_append.2 ⟨commands, fun e late => (commandsLater e late).trans
      first.pending⟩

variable [DecidableEq Token]

lemma flushToken_since (res : SurfaceFlinger Token World Value × Bool) (tok : Token) :
    FlushedSince res.1 (flushToken ls res tok).1 := by
  unfold flushToken
  split
  · exact ⟨rfl, rfl, [], (append_nil _).symm, nofun⟩
  · rename_i q _
    have spec := res.1.flushQueue_spec ls q
    obtain ⟨done, -, appl⟩ := spec.applied
    refine ⟨spec.kept.submitted, spec.pending, _, appl, fun e mem => ?_⟩
    obtain ⟨tx, -, rfl⟩ := mem_map.mp mem
    rfl

lemma flushTransactionQueues_since (sf : SurfaceFlinger Token World Value) (order : List Token) :
    FlushedSince sf (sf.flushTransactionQueues ls order).1 := by
  have walk : ∀ (tokens : List Token) (res : SurfaceFlinger Token World Value × Bool),
      FlushedSince res.1 (tokens.foldl (flushToken ls) res).1 := by
    intro tokens
    induction tokens with
    | nil => exact fun _ => ⟨rfl, rfl, [], (append_nil _).symm, nofun⟩
    | cons tok rest ih =>
      exact fun res => (flushToken_since ls res tok).trans (ih _)
  unfold flushTransactionQueues
  split
  · exact walk order (sf, false)
  · exact walk [] (sf, false)

end SurfaceFlinger

end NativeLibs.Flinger
