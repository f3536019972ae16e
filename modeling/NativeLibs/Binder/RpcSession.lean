import NativeLibs.Foundation.PriorityQueue
import Mathlib.Data.List.AList
import Mathlib.Algebra.Order.Ring.Int
import NativeLibs.Foundation.Machine

/-! # The binders an RPC session knows

`RpcAddress.cpp`, and the parts of `RpcState.h` and `RpcState.cpp` that run under
`mNodeMutex`: each is a function of the nodes. A shut-down session does nothing any
more, so that `mTerminated` is left to the endpoint. -/

namespace NativeLibs.Binder

/-! ## Addresses -/

def optionCreated : UInt64 := 1

def optionForServer : UInt64 := 2

/-- `RpcWireAddress`: options, and 32 bytes. -/
structure RpcAddress where
  options : UInt64
  address : Nat
  deriving DecidableEq, Repr

namespace RpcAddress

def zero : RpcAddress := ⟨0, 0⟩

variable (address : RpcAddress)

def isZero : Bool := address = zero

def random (forServer : Bool) (bytes : Nat) : RpcAddress :=
  ⟨if forServer then optionCreated ||| optionForServer else optionCreated, bytes⟩

def isForServer : Bool := address.options &&& optionForServer ≠ 0

def isRecognizedType : Bool :=
  address.options &&& ~~~(optionCreated ||| optionForServer) = 0

end RpcAddress

/-! ## Nodes -/

/-- A binder, as far as a session tells binders apart: an object of this process, the
proxy of an address of this session, or a proxy of another session or of the kernel's
binder driver. -/
inductive IBinder where
  | localObject (object : Nat)
  | proxy (address : RpcAddress)
  | unrelated
  deriving DecidableEq, Repr

structure Transaction where
  address : RpcAddress
  code : Nat
  oneway : Bool
  asyncNumber : Nat
  deriving DecidableEq, Repr

/-- `BinderNode::AsyncTodo`: a oneway transaction that has to wait for others. -/
structure AsyncTodo where
  ref : IBinder
  data : Transaction
  asyncNumber : Nat
  deriving DecidableEq, Repr

structure BinderNode where
  binder : IBinder
  /-- Whether `sentRef` is set. -/
  sentRef : Bool
  timesSent : Nat
  timesRecd : Nat
  asyncNumber : Nat
  asyncTodo : PriorityQueue AsyncTodo.asyncNumber

abbrev NodeMap := AList fun _ : RpcAddress => BinderNode

/-- The ways a session ends. The first ones end the process: a fatal check fails, or an
iterator to no element is followed. The others shut the session down. -/
inductive Halt where
  | addressMismatch
  | unknownProxy
  | unknownTransact
  | unknownDecStrong
  | badDecStrong
  | ownsReceivedBinder
  | pendingAsync
  | lostRef
  | endIterator
  | tooMuchData
  | outOfAsyncNumbers
  | binderDeleted
  | binderNotLocal
  | tooManyPending
  deriving DecidableEq, Repr

inductive Status where
  | ok
  | badType
  | badValue
  | invalidOperation
  | wouldBlock
  | noMemory
  deriving DecidableEq, Repr

/-! ## Sizes on the wire -/

def headerSize : Nat := 16

def transactionSize : Nat := 72

def replySize : Nat := 4

def maxTransactionAllocation : Nat := 100 * 1000

def commandDataValid (size : Nat) (allocates : Bool) : Bool :=
  size = 0 || size ≤ maxTransactionAllocation && allocates

namespace NodeMap

variable (nodes : NodeMap)

/-! ## Leaving -/

def findBinder (binder : IBinder) : Option (Sigma fun _ : RpcAddress => BinderNode) :=
  nodes.entries.find? fun entry => entry.2.binder = binder

def resent (node : BinderNode) : BinderNode :=
  { node with timesSent := node.timesSent + 1, sentRef := true }

def newlySent (binder : IBinder) : BinderNode where
  binder := binder
  sentRef := true
  timesSent := 1
  timesRecd := 0
  asyncNumber := 0
  asyncTodo := PriorityQueue.empty

variable (isServer : Bool)

def freshAddress (random : Fin 5 → Nat) : Option RpcAddress :=
  (List.ofFn fun attempt => RpcAddress.random isServer (random attempt)).find?
    fun address => address ∉ nodes

/-- `onBinderLeaving`. `random` is what the random source returns on each try. -/
def onBinderLeaving (binder : IBinder) (random : Fin 5 → Nat) :
    Except Halt (Except Status (RpcAddress × NodeMap)) :=
  match binder, nodes.findBinder binder with
  | .unrelated, _ => .ok (.error .invalidOperation)
  | .proxy _, none => .error .unknownProxy
  | .proxy actual, some entry =>
    if entry.1 ≠ actual then .error .addressMismatch
    else .ok (.ok (entry.1, nodes.insert entry.1 (resent entry.2)))
  | .localObject _, some entry => .ok (.ok (entry.1, nodes.insert entry.1 (resent entry.2)))
  | .localObject _, none =>
    match nodes.freshAddress isServer random with
    | some address => .ok (.ok (address, nodes.insert address (newlySent binder)))
    | none => .ok (.error .wouldBlock)

/-! ## Entering -/

variable (address : RpcAddress)

def newlyReceived : BinderNode where
  binder := .proxy address
  sentRef := false
  timesSent := 0
  timesRecd := 1
  asyncNumber := 0
  asyncTodo := PriorityQueue.empty

inductive Entering where
  | refused
  /-- The binder is known, and a reference is to be sent back. -/
  | known (node : BinderNode) (nodes : NodeMap)
  | created (nodes : NodeMap)

def onBinderEntering : Entering :=
  if !address.isRecognizedType then .refused
  else match nodes.lookup address with
  | some node => .known node (nodes.insert address { node with timesRecd := node.timesRecd + 1 })
  | none =>
    if address.isForServer = isServer then .refused
    else .created (nodes.insert address (newlyReceived address))

/-! ## Reference counts -/

/-- `tryEraseNode` on a node whose counts have just changed: whether it gives back
`sentRef`, and the nodes. -/
def tryEraseNode (node : BinderNode) : Except Halt (Bool × NodeMap) :=
  if node.timesSent = 0 then
    if node.timesRecd = 0 then
      if node.asyncTodo.items ≠ [] then .error .pendingAsync
      else .ok (node.sentRef, nodes.erase address)
    else .ok (node.sentRef, nodes.insert address { node with sentRef := false })
  else .ok (false, nodes.insert address node)

/-- The part of `sendDecStrong` before the command is sent. -/
def sendDecStrong : Except Halt NodeMap :=
  match nodes.lookup address with
  | none => .error .unknownDecStrong
  | some node =>
    if node.timesRecd = 0 then .error .badDecStrong
    else match nodes.tryEraseNode address { node with timesRecd := node.timesRecd - 1 } with
    | .error halt => .error halt
    | .ok (true, _) => .error .ownsReceivedBinder
    | .ok (false, nodes) => .ok nodes

variable (promotes : BinderNode → Bool)

/-- `processDecStrong`. `promotes` says whether the binder of a node is still alive.
The result says whether `sentRef` was given back. -/
def processDecStrong (address : RpcAddress) : Except Halt (Bool × NodeMap) :=
  match nodes.lookup address with
  | none => .ok (false, nodes)
  | some node =>
    if !promotes node then .error .binderDeleted
    else if node.timesSent = 0 then .ok (false, nodes)
    else if !node.sentRef then .error .lostRef
    else nodes.tryEraseNode address { node with timesSent := node.timesSent - 1 }

/-! ## Oneway transactions -/

def maxAsyncNumber : Nat := 2 ^ 64 - 1

def nodeProgressAsyncNumber (node : BinderNode) : Option BinderNode :=
  if node.asyncNumber ≥ maxAsyncNumber then none
  else some { node with asyncNumber := node.asyncNumber + 1 }

def takeAsyncNumber (oneway : Bool) : Except Halt (Nat × NodeMap) :=
  if address.isZero then .ok (0, nodes)
  else match nodes.lookup address with
  | none => .error .unknownTransact
  | some node =>
    if oneway then
      match nodeProgressAsyncNumber node with
      | none => .error .outOfAsyncNumbers
      | some progressed => .ok (node.asyncNumber, nodes.insert address progressed)
    else .ok (0, nodes)

/-- The part of `transactAddress` before the command is sent: what is sent, and the nodes. -/
def transactAddress (code : Nat) (oneway : Bool) (dataSize : Nat) (allocates : Bool) :
    Except Halt (Except Status Transaction × NodeMap) :=
  match nodes.takeAsyncNumber address oneway with
  | .error halt => .error halt
  | .ok (asyncNumber, nodes) =>
    if 2 ^ 31 - 1 - headerSize - transactionSize < dataSize then .error .tooMuchData
    else if commandDataValid (headerSize + transactionSize + dataSize) allocates then
      .ok (.ok ⟨address, code, oneway, asyncNumber⟩, nodes)
    else .ok (.error .noMemory, nodes)

def onewayCallTerminateLevel : Nat := 10000

inductive OnewayTurn where
  | invalid
  | parked (nodes : NodeMap)
  | execute

variable (transaction : Transaction)

/-- The part of `processTransactInternal` that looks whether it is the turn of a oneway
transaction. It does not look whether there is a node. -/
def onewayTurn (target : IBinder) : Except Halt OnewayTurn :=
  match nodes.lookup transaction.address with
  | none => .error .endIterator
  | some node =>
    if !(promotes node && node.binder = target) then .ok .invalid
    else if transaction.asyncNumber ≠ node.asyncNumber then
      let asyncTodo := node.asyncTodo.push ⟨target, transaction, transaction.asyncNumber⟩
      if asyncTodo.items.length ≥ onewayCallTerminateLevel then .error .tooManyPending
      else .ok (.parked (nodes.insert transaction.address { node with asyncTodo := asyncTodo }))
    else .ok .execute

/-- The part of `processTransactInternal` after a oneway transaction: the transaction
that waited for it, if there is one. -/
def finishOneway : Except Halt (Option AsyncTodo × NodeMap) :=
  match nodes.lookup transaction.address with
  | none => .ok (none, nodes)
  | some node =>
    match nodeProgressAsyncNumber node with
    | none => .error .outOfAsyncNumbers
    | some node =>
      match node.asyncTodo.top with
      | none => .ok (none, nodes.insert transaction.address node)
      | some todo =>
        if todo.asyncNumber = node.asyncNumber then
          .ok (some todo, nodes.insert transaction.address
            { node with asyncTodo := node.asyncTodo.pop })
        else .ok (none, nodes.insert transaction.address node)

end NodeMap

/-! ## One side of an RPC session

The threads of a process that work for a session, step by step. A step is what
`RpcState` does under one acquisition of `mNodeMutex`; between two steps any other
thread may run. What a thread has still to do is a `Task`.

The rest of the process decides when to write binders to parcels, when to make calls and
when to give up its references. Binders in received data can be read from the moment
the data is there, each once. -/

/-- A call on a proxy. Its address is known once the proxy has been sent along, and it is
zero for the special transactions. -/
structure OutgoingCall where
  binder : IBinder
  code : Nat
  oneway : Bool
  address : Option RpcAddress
  deriving DecidableEq, Repr

structure Outgoing where
  call : Option OutgoingCall
  binders : List RpcAddress
  deriving DecidableEq, Repr

inductive Task where
  | compose (outgoing : Outgoing)
  /-- Addresses have been written to data that is never sent. -/
  | lost (addresses : List RpcAddress)
  /-- `processTransactInternal` has to find its target. -/
  | enter (transaction : Transaction)
  /-- Received data has an address that has not been read yet. -/
  | read (address : RpcAddress)
  /-- `session->sendDecStrong` is about to run, for a binder that was known already or for
  a proxy that has lost its last reference. A transaction may go on after it. -/
  | giveBack (address : RpcAddress) (after : Option (Transaction × Option IBinder))
  /-- A oneway transaction has to see whether it is its turn. -/
  | check (transaction : Transaction) (target : IBinder)
  | running (transaction : Transaction) (target : Option IBinder)
  | finish (transaction : Transaction) (target : Option IBinder)
  deriving DecidableEq, Repr

/-- The commands of `RpcWireFormat.h`, with the addresses in their data. -/
inductive Message where
  | transact (transaction : Transaction) (binders : List RpcAddress)
  | reply (binders : List RpcAddress)
  | decStrong (address : RpcAddress)
  deriving DecidableEq, Repr

structure RpcEndpoint where
  isServer : Bool
  nodes : NodeMap
  /-- Strong references to a binder, apart from `sentRef`. -/
  strong : IBinder → Nat
  tasks : List Task
  /-- The transactions handed to their targets, in this order. -/
  log : List Transaction
  halted : Option Halt

namespace RpcEndpoint

variable (endpoint : RpcEndpoint)

def initial (isServer : Bool) : RpcEndpoint where
  isServer := isServer
  nodes := ∅
  strong := fun _ => 0
  tasks := []
  log := []
  halted := none

abbrev Outcome := RpcEndpoint × List (Nat × Message)

/-! ## Strong references -/

def promotes (node : BinderNode) : Bool :=
  node.sentRef || 0 < endpoint.strong node.binder

def incStrong (binder : IBinder) : RpcEndpoint :=
  { endpoint with
    strong := Function.update endpoint.strong binder (endpoint.strong binder + 1) }

def hasSentRef (address : RpcAddress) : Bool :=
  (endpoint.nodes.lookup address).any (·.sentRef)

def spawn (tasks : List Task) : RpcEndpoint :=
  { endpoint with tasks := endpoint.tasks ++ tasks }

/-- `onLastStrongRef` of a proxy without references sends its reference back. -/
def lastStrongRef : IBinder → List Task
  | .proxy address =>
    if endpoint.strong (.proxy address) = 0 && !endpoint.hasSentRef address then
      [.giveBack address none]
    else []
  | _ => []

def release (binder : IBinder) : RpcEndpoint :=
  if endpoint.strong binder = 0 then endpoint
  else
    let released : RpcEndpoint := { endpoint with
      strong := Function.update endpoint.strong binder (endpoint.strong binder - 1) }
    released.spawn (released.lastStrongRef binder)

def releaseTarget : Option IBinder → RpcEndpoint
  | none => endpoint
  | some target => endpoint.release target

/-! ## Sending -/

variable (index : Nat)

def become (tasks : List Task) : RpcEndpoint :=
  { endpoint with tasks := endpoint.tasks.eraseIdx index ++ tasks }

def write (outgoing : Outgoing) (binder : IBinder) (random : Fin 5 → Nat) : Except Halt Outcome :=
  if endpoint.strong binder = 0 then .ok (endpoint, [])
  else match endpoint.nodes.onBinderLeaving endpoint.isServer binder random with
  | .error halt => .error halt
  | .ok (.error _) => .ok (endpoint, [])
  | .ok (.ok (address, nodes)) =>
    let outgoing := { outgoing with binders := outgoing.binders ++ [address] }
    .ok ({ endpoint with nodes := nodes }.become index [.compose outgoing], [])

variable (call : OutgoingCall)

/-- `transact`, up to `transactAddress`. -/
def transact (binders : List RpcAddress) (random : Fin 5 → Nat) : Except Halt Outcome :=
  if endpoint.strong call.binder = 0 then .ok (endpoint, [])
  else match endpoint.nodes.onBinderLeaving endpoint.isServer call.binder random with
  | .error halt => .error halt
  | .ok (.error _) => .ok (endpoint.become index [.lost binders], [])
  | .ok (.ok (address, nodes)) =>
    .ok ({ endpoint with nodes := nodes }.become index
      [.compose ⟨some { call with address := some address }, binders⟩], [])

variable (address : RpcAddress) (binders : List RpcAddress)

def callAddresses : List RpcAddress :=
  if address.isZero then binders else address :: binders

variable (connection dataSize : Nat) (allocates : Bool)

/-- `transactAddress`. -/
def sendCall : Except Halt Outcome :=
  match endpoint.nodes.transactAddress address call.code call.oneway dataSize allocates with
  | .error halt => .error halt
  | .ok (.error _, nodes) =>
    .ok ({ endpoint with nodes := nodes }.become index [.lost (callAddresses address binders)], [])
  | .ok (.ok transaction, nodes) =>
    .ok ({ endpoint with nodes := nodes }.become index [],
      [(connection, .transact transaction binders)])

/-- The end of `processTransactInternal` for a call that wants a reply. -/
def sendReply : Except Halt Outcome :=
  if 2 ^ 31 - 1 - headerSize - replySize < dataSize then .error .tooMuchData
  else if commandDataValid (headerSize + replySize + dataSize) allocates then
    .ok (endpoint.become index [], [(connection, .reply binders)])
  else .ok (endpoint.become index [.lost binders], [])

/-! ## Processing -/

variable (transaction : Transaction) (target : Option IBinder)

/-- What is left to do once the target has executed a transaction, or could not. -/
def settle : RpcEndpoint :=
  if transaction.oneway then endpoint.become index [.finish transaction target]
  else (endpoint.become index [.compose ⟨none, []⟩]).releaseTarget target

def execute : RpcEndpoint :=
  { endpoint.become index [.running transaction target] with
    log := endpoint.log ++ [transaction] }

def dispatch : Option IBinder → Except Halt RpcEndpoint
  | none => .error .binderDeleted
  | some (.localObject object) =>
    .ok (if transaction.oneway then endpoint.become index [.check transaction (.localObject object)]
    else endpoint.execute index transaction (some (.localObject object)))
  | some _ => .error .binderNotLocal

def promote (node : BinderNode) : Option IBinder × RpcEndpoint :=
  if endpoint.promotes node then (some node.binder, endpoint.incStrong node.binder)
  else (none, endpoint)

/-- `processTransactInternal`, up to the target. -/
def enterTarget : Except Halt RpcEndpoint :=
  if transaction.address.isZero then .ok (endpoint.execute index transaction none)
  else match endpoint.nodes.onBinderEntering endpoint.isServer transaction.address with
  | .refused => .ok (endpoint.settle index transaction none)
  | .known node nodes =>
    let (target, endpoint) := endpoint.promote node
    .ok ({ endpoint with nodes := nodes }.become index
      [.giveBack transaction.address (some (transaction, target))])
  | .created _ => .error .binderNotLocal

variable (address : RpcAddress)

def readBinder : RpcEndpoint :=
  match endpoint.nodes.onBinderEntering endpoint.isServer address with
  | .refused => endpoint.become index []
  | .known node nodes =>
    { (endpoint.promote node).2 with nodes := nodes }.become index [.giveBack address none]
  | .created nodes => { endpoint.incStrong (.proxy address) with nodes := nodes }.become index []

/-- `sendDecStrong`, and what comes after it. -/
def giveBack (after : Option (Transaction × Option IBinder)) (connection : Nat) :
    Except Halt Outcome :=
  match endpoint.nodes.sendDecStrong address with
  | .error halt => .error halt
  | .ok nodes =>
    let paid := { endpoint with nodes := nodes }
    let sent := [(connection, Message.decStrong address)]
    match after with
    | none => .ok (paid.become index [], sent)
    | some (transaction, target) =>
      (paid.dispatch index transaction target).map fun next => (next, sent)

def checkTurn (transaction : Transaction) (target : IBinder) : Except Halt RpcEndpoint :=
  match endpoint.nodes.onewayTurn endpoint.promotes transaction target with
  | .error halt => .error halt
  | .ok .invalid => .ok (endpoint.settle index transaction (some target))
  | .ok (.parked nodes) => .ok ({ endpoint with nodes := nodes }.become index [])
  | .ok .execute => .ok (endpoint.execute index transaction (some target))

/-- A oneway transaction is over, and the one that waits for it goes on in the same
thread. -/
def finishTurn (transaction : Transaction) (target : Option IBinder) : Except Halt RpcEndpoint :=
  match endpoint.nodes.finishOneway transaction with
  | .error halt => .error halt
  | .ok (next, nodes) =>
    let tasks := next.toList.map fun todo => Task.check todo.data todo.ref
    .ok (({ endpoint with nodes := nodes }.become index tasks).releaseTarget target)

def perform (connection : Nat) : Task → Except Halt Outcome
  | .compose _ | .lost _ => .ok (endpoint, [])
  | .enter transaction => (endpoint.enterTarget index transaction).map (·, [])
  | .read address => .ok (endpoint.readBinder index address, [])
  | .giveBack address after => endpoint.giveBack index address after connection
  | .check transaction target => (endpoint.checkTurn index transaction target).map (·, [])
  | .running transaction target => .ok (endpoint.settle index transaction target, [])
  | .finish transaction target => (endpoint.finishTurn index transaction target).map (·, [])

/-! ## Steps -/

inductive Action where
  /-- The process makes a reference to an object of its own. -/
  | hold (object : Nat)
  /-- The process gives up a reference. -/
  | release (binder : IBinder)
  | openCall (proxy : RpcAddress) (code : Nat) (oneway : Bool)
  | openSpecial (code : Nat)
  | write (index : Nat) (binder : IBinder) (random : Fin 5 → Nat)
  /-- `transact` is called. -/
  | transact (index : Nat) (random : Fin 5 → Nat)
  | send (index connection dataSize : Nat) (allocates : Bool)
  | proceed (index connection : Nat)

def act : Action → Except Halt Outcome
  | .hold object => .ok (endpoint.incStrong (.localObject object), [])
  | .release binder => .ok (endpoint.release binder, [])
  | .openCall proxy code oneway =>
    .ok (endpoint.spawn [.compose ⟨some ⟨.proxy proxy, code, oneway, none⟩, []⟩], [])
  | .openSpecial code =>
    .ok (endpoint.spawn [.compose ⟨some ⟨.unrelated, code, false, some RpcAddress.zero⟩, []⟩], [])
  | .write index binder random =>
    match endpoint.tasks[index]? with
    | some (.compose ⟨none, binders⟩) => endpoint.write index ⟨none, binders⟩ binder random
    | some (.compose ⟨some ⟨target, code, oneway, none⟩, binders⟩) =>
      endpoint.write index ⟨some ⟨target, code, oneway, none⟩, binders⟩ binder random
    | _ => .ok (endpoint, [])
  | .transact index random =>
    match endpoint.tasks[index]? with
    | some (.compose ⟨some ⟨target, code, oneway, none⟩, binders⟩) =>
      endpoint.transact index ⟨target, code, oneway, none⟩ binders random
    | _ => .ok (endpoint, [])
  | .send index connection dataSize allocates =>
    match endpoint.tasks[index]? with
    | some (.compose ⟨none, binders⟩) =>
      endpoint.sendReply index binders connection dataSize allocates
    | some (.compose ⟨some ⟨target, code, oneway, some address⟩, binders⟩) =>
      endpoint.sendCall index ⟨target, code, oneway, some address⟩ address binders
        connection dataSize allocates
    | _ => .ok (endpoint, [])
  | .proceed index connection =>
    match endpoint.tasks[index]? with
    | some task => endpoint.perform index connection task
    | none => .ok (endpoint, [])

/-- `processCommand`, once the data of the command has been read. -/
def receive : Message → Except Halt RpcEndpoint
  | .transact transaction binders => .ok (endpoint.spawn (.enter transaction :: binders.map .read))
  | .reply binders => .ok (endpoint.spawn (binders.map .read))
  | .decStrong address =>
    match endpoint.nodes.processDecStrong endpoint.promotes address with
    | .error halt => .error halt
    | .ok (gaveBack, nodes) =>
      let collected := { endpoint with nodes := nodes }
      -- `tempHold` is dropped after the lock.
      .ok (if gaveBack then
        collected.spawn (((endpoint.nodes.lookup address).map (·.binder)).elim []
          collected.lastStrongRef)
      else collected)

end RpcEndpoint

/-! ## Two sides of an RPC session

The two endpoints of a session, and the commands on their way between them. Each
command travels on one of the connections; a connection keeps the order of its commands,
and different connections do not wait for each other. Nothing is lost, and what a side
sends succeeds. Once one side has ended the session, nothing happens any more. -/

/-- A session. The server is the side `true`, the client is the side `false`. -/
structure RpcSession where
  endpoint : Bool → RpcEndpoint
  /-- What each side has sent and the other has not read yet, oldest first. -/
  wire : Bool → List (Nat × Message)

namespace RpcSession

variable (session : RpcSession)

def initial : RpcSession where
  endpoint := RpcEndpoint.initial
  wire := fun _ => []

inductive Label where
  | act (side : Bool) (action : RpcEndpoint.Action)
  | deliver (side : Bool) (index : Nat)

def isOver : Bool :=
  (session.endpoint true).halted.isSome || (session.endpoint false).halted.isSome

variable (side : Bool)

def halt (reason : Halt) : RpcSession :=
  { session with
    endpoint := Function.update session.endpoint side
      { session.endpoint side with halted := some reason } }

def advance (outcome : RpcEndpoint.Outcome) : RpcSession where
  endpoint := Function.update session.endpoint side outcome.1
  wire := Function.update session.wire side (session.wire side ++ outcome.2)

def consume (index : Nat) (endpoint : RpcEndpoint) : RpcSession where
  endpoint := Function.update session.endpoint side endpoint
  wire := Function.update session.wire (!side) ((session.wire !side).eraseIdx index)

def firstOfConnection (wire : List (Nat × Message)) (index : Nat) : Option Message :=
  match wire[index]? with
  | none => none
  | some (connection, message) =>
    if (wire.take index).any (·.1 = connection) then none else some message

def step (label : Label) : RpcSession :=
  if session.isOver then session
  else match label with
  | .act side action =>
    match (session.endpoint side).act action with
    | .error reason => session.halt side reason
    | .ok outcome => session.advance side outcome
  | .deliver side index =>
    match firstOfConnection (session.wire !side) index with
    | none => session
    | some message =>
      match (session.endpoint side).receive message with
      | .error reason => session.halt side reason
      | .ok endpoint => session.consume side index endpoint

/-- Everything a step can do: nothing, end the session, let a side act, or let a side read
a command. -/
lemma step_cases (label : Label) : session.step label = session ∨
    (∃ side reason, session.step label = session.halt side reason) ∨
    (∃ side action oc, (session.endpoint side).act action = .ok oc ∧
      session.step label = session.advance side oc) ∨
    ∃ side i msg endpoint, firstOfConnection (session.wire !side) i = some msg ∧
      (session.endpoint side).receive msg = .ok endpoint ∧
      session.step label = session.consume side i endpoint := by
  unfold step
  by_cases ended : session.isOver = true
  · rw [if_pos ended]
    exact .inl rfl
  rw [if_neg ended]
  cases label with
  | act side action =>
    cases acted : (session.endpoint side).act action with
    | error reason => exact .inr (.inl ⟨side, reason, by simp only [acted]⟩)
    | ok oc =>
      exact .inr (.inr (.inl ⟨side, action, oc, acted, by simp only [acted]⟩))
  | deliver side i =>
    cases first : firstOfConnection (session.wire !side) i with
    | none => exact .inl (by simp only [first])
    | some msg =>
      cases got : (session.endpoint side).receive msg with
      | error reason => exact .inr (.inl ⟨side, reason, by simp only [first, got]⟩)
      | ok endpoint =>
        exact .inr (.inr (.inr ⟨side, i, msg, endpoint, first, got,
          by simp only [first, got]⟩))

def run (labels : List Label) : RpcSession := Machine.run step initial labels

end RpcSession

end NativeLibs.Binder
