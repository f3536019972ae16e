import NativeLibs.Binder.OnewayTurns
import NativeLibs.Binder.RefAccounting

/-! # Oneway transactions in order

An endpoint that serves an object, and any sequence of its own steps and of commands that
arrive: the oneway transactions to the object are executed in the order of their numbers,
as long as the node is not given back. -/

namespace NativeLibs.Binder

open List RpcEndpoint NodeMap Machine AList

def Task.handles : Task → Option RpcAddress
  | .compose _ | .lost _ => none
  | .enter transaction => some transaction.address
  | .read address => some address
  | .giveBack address _ => some address
  | .check transaction _ => some transaction.address
  | .running transaction _ => some transaction.address
  | .finish transaction _ => some transaction.address

/-- The oneway transaction to an address that a command brings. -/
def Message.tickets (address : RpcAddress) : Message → List Nat
  | .transact transaction _ => transaction.ticket address
  | .reply _ | .decStrong _ => []

namespace RpcEndpoint

open ReferenceLedger (tally tally_append tally_cons tally_nil)

variable {ep : RpcEndpoint}

/-! ## Steps of the endpoint -/

section

variable (ord : ep.ServesInOrder address obj delivered node)
include ord

lemma ServesInOrder.finishTurn (hit : ep.tasks[i]? = some (.finish tx goal)) :
    (∀ next, ep.finishTurn i tx goal = .ok next → next.InOrderAt address obj delivered) ∧
    (tx.address = address → ∃ next, ep.finishTurn i tx goal = .ok next) := by
  by_cases same : tx.address = address
  · rcases ord.finishOwn hit same with ⟨after, fin, kept⟩
    exact kept.of_ok fin
  · exact ⟨fun next fin => ord.finishOther hit same fin, fun here => absurd here same⟩

lemma ServesInOrder.perform (hit : ep.tasks[i]? = some task) (conn : Nat) :
    (∀ next msgs, ep.perform i conn task = .ok (next, msgs) →
      next.InOrderAt address obj delivered) ∧ (task.handles = some address →
      ∃ oc, ep.perform i conn task = .ok oc) := by
  -- The steps that may end the session have lemmas of this shape without the commands sent.
  have mapped : ∀ {res : Except Halt RpcEndpoint} {here : Prop},
      ((∀ next, res = .ok next → next.InOrderAt address obj delivered) ∧
        (here → ∃ next, res = .ok next)) →
      (∀ next msgs, res.map (·, ([] : List (Nat × Message))) = .ok (next, msgs) →
        next.InOrderAt address obj delivered) ∧
      (here → ∃ oc, res.map (·, ([] : List (Nat × Message))) = .ok oc) := by
    intro res here both
    refine ⟨fun next msgs eq => both.1 next (ok_of_map eq).1, fun holds => ?_⟩
    rcases both.2 holds with ⟨next, ok⟩
    exact ⟨(next, []), by rw [ok]; rfl⟩
  have certain : ∀ {after : RpcEndpoint}, after.InOrderAt address obj delivered →
      ∀ next msgs, (.ok (after, []) : Except Halt Outcome) = .ok (next, msgs) →
        next.InOrderAt address obj delivered := by
    intro after kept next msgs eq
    cases eq
    exact kept
  cases task with
  | compose outgoing => exact ⟨certain ⟨node, ord⟩, fun _ => ⟨_, rfl⟩⟩
  | lost addresses => exact ⟨certain ⟨node, ord⟩, fun _ => ⟨_, rfl⟩⟩
  | enter tx =>
    rw [Task.handles, Option.some.injEq]
    exact mapped (ord.enterTarget hit)
  | read other => exact ⟨certain (ord.readBinder hit), fun _ => ⟨_, rfl⟩⟩
  | giveBack other after =>
    rw [Task.handles, Option.some.injEq]
    exact ord.giveBack hit conn
  | check tx goal =>
    rw [Task.handles, Option.some.injEq]
    exact mapped (ord.checkTurn hit)
  | running tx goal =>
    exact ⟨certain (ord.settle hit rfl rfl goal), fun _ => ⟨_, rfl⟩⟩
  | finish tx goal =>
    rw [Task.handles, Option.some.injEq]
    exact mapped (ord.finishTurn hit)

lemma ServesInOrder.openCall (proxied : ∀ own, call.binder ≠ .localObject own)
    (away : call.address ≠ some address) :
    (ep.spawn [.compose ⟨some call, []⟩]).InOrderAt address obj delivered := by
  exact ord.spawn ord.unproxied rfl rfl rfl (.single ⟨proxied, away⟩)

lemma ServesInOrder.act {next : RpcEndpoint} (acted : ep.act action = .ok (next, msgs)) :
    next.InOrderAt address obj delivered := by
  cases action with
  | hold own =>
    cases acted
    have unproxied : (ep.incStrong (.localObject own)).strong (.proxy address) = 0 := by
      simpa [incStrong] using ord.unproxied
    have held : ((ep.incStrong (.localObject own)).spawn []).InOrderAt address obj
        delivered :=
      ord.spawn unproxied rfl rfl rfl .nil
    simpa [RpcEndpoint.spawn] using held
  | release binder =>
    cases acted
    exact .release ⟨node, ord⟩ binder
  | openCall proxy code ow =>
    cases acted
    exact ord.openCall (by simp) (by simp)
  | openSpecial code =>
    cases acted
    refine ord.openCall (by simp) fun zero => ?_
    rw [Option.some.injEq] at zero
    have nonzero := ord.created.nonzero
    rw [← zero] at nonzero
    exact absurd nonzero (by decide)
  | write i binder random =>
    simp only [RpcEndpoint.act] at acted
    split at acted
    · rename_i bs hit
      exact ord.write hit acted
    · rename_i goal code ow bs hit
      exact ord.write hit acted
    · cases acted
      exact ⟨node, ord⟩
  | transact i random =>
    simp only [RpcEndpoint.act] at acted
    split at acted
    · rename_i goal code ow bs hit
      exact ord.transact hit acted
    · cases acted
      exact ⟨node, ord⟩
  | send i conn dataSize allocates =>
    simp only [RpcEndpoint.act] at acted
    split at acted
    · rename_i bs hit
      exact ord.sendReply hit acted
    · rename_i goal code ow other bs hit
      exact ord.sendCall hit rfl acted
    · cases acted
      exact ⟨node, ord⟩
  | proceed i conn =>
    simp only [RpcEndpoint.act] at acted
    split at acted
    · rename_i task hit
      exact (ord.perform hit conn).1 next msgs acted
    · cases acted
      exact ⟨node, ord⟩

end

/-! ## Commands that arrive -/

/-- A oneway transaction to the address is a new one, its number can be counted on from,
and there is room for it. -/
def Arrives (endpoint : RpcEndpoint) (address : RpcAddress) (delivered : List Nat)
    (message : Message) : Prop :=
  ∀ number ∈ message.tickets address, number ∉ delivered ∧ number < maxAsyncNumber ∧
    (endpoint.tickets address delivered).active.length + 1 < onewayCallTerminateLevel

/-- A command does not take the last reference to the node away. -/
def StaysKnown (endpoint : RpcEndpoint) (address : RpcAddress) (message : Message) : Prop :=
  message = .decStrong address → 1 < endpoint.nodes.timesSent address

instance (endpoint : RpcEndpoint) (address : RpcAddress) (delivered : List Nat)
    (message : Message) : Decidable (endpoint.Arrives address delivered message) :=
  inferInstanceAs (Decidable (∀ number ∈ message.tickets address, _ ∧ _ ∧ _))

instance (endpoint : RpcEndpoint) (address : RpcAddress) (message : Message) :
    Decidable (endpoint.StaysKnown address message) :=
  inferInstanceAs (Decidable (_ → _))

lemma hands_reads (address : RpcAddress) (obj : Nat) (bs : List RpcAddress) :
    Hands address obj (bs.map Task.read) 0 [] [] :=
  ⟨ReferenceLedger.tally_of_silent (by simp [Task.owed]) address, by simp [Task.Fits],
    by simp [Task.tickets], by simp [Task.serving]⟩

section

variable (ord : ep.ServesInOrder address obj delivered node)
include ord

lemma ServesInOrder.arrive (arrives : ep.Arrives address delivered (.transact tx bs)) :
    (ep.spawn (.enter tx :: bs.map .read)).InOrderAt address obj
      (delivered ++ tx.ticket address) := by
  rcases hands_reads address obj bs with ⟨owed, fits, tickets, serving⟩
  by_cases ticket : tx.ticket address = []
  · rw [ticket, append_nil]
    apply ord.spawn ord.unproxied rfl rfl rfl
    constructor
    · simp [Task.owed, owed]
    · exact forall_mem_cons.2 ⟨trivial, fits⟩
    · simp [Task.tickets, ticket, tickets]
    · simp [Task.serving, serving]
  · have alone : tx.ticket address = [tx.asyncNumber] := by
      unfold Transaction.ticket at ticket ⊢
      split_ifs at ticket ⊢
      · rfl
      · exact absurd rfl ticket
    rcases arrives tx.asyncNumber (by simp [Message.tickets, alone]) with
      ⟨fresh, small, room⟩
    rw [alone]
    have act : ((ep.spawn (.enter tx :: bs.map .read)).tickets address
        (delivered ++ [tx.asyncNumber])).active.Perm
          (tx.asyncNumber :: (ep.tickets address delivered).active) := by
      simp only [RpcEndpoint.tickets, RpcEndpoint.spawn, flatMap_append, flatMap_cons,
        Task.tickets, alone, tickets, append_nil, append_assoc]
      exact perm_middle
    refine ⟨node, { ord with fits := ?_, owed := ?_, order := ?_, below := ?_, room := ?_ }⟩
    · exact forall_mem_append.2 ⟨ord.fits, forall_mem_cons.2 ⟨trivial, fits⟩⟩
    · simpa [RpcEndpoint.spawn, Task.owed, owed] using ord.owed
    · apply ord.order.step
      apply Tickets.Step.come tx.asyncNumber fresh
      · rfl
      · rfl
      · exact act
      · simp only [RpcEndpoint.tickets, RpcEndpoint.spawn, flatMap_append,
          flatMap_cons, Task.serving, serving, append_nil]
        exact List.Perm.refl _
      · rfl
    · exact forall_mem_append.2 ⟨ord.below, forall_mem_singleton.2 small⟩
    · rw [act.length_eq, length_cons]
      exact room

lemma ServesInOrder.collect (stays : ep.StaysKnown address (.decStrong other)) :
    (∀ next, ep.receive (.decStrong other) = .ok next → next.InOrderAt address obj delivered) ∧
    (other = address → ∃ next, ep.receive (.decStrong other) = .ok next) := by
  have counts : ∀ {nodes : NodeMap} (sent : Nat), 0 < sent →
      nodes.lookup address = some (node.recounted sent node.timesRecd) →
      ep.nodes.Descends nodes →
      ({ ep with nodes := nodes } : RpcEndpoint).InOrderAt address obj delivered := by
    intro nodes sent pos known desc
    apply ord.keep
    constructor
    · exact ⟨sent, node.timesRecd, pos, known, ord.owed⟩
    · exact ord.descends desc
    · exact ord.unproxied
    · exact ord.fits
    · exact List.Perm.refl _
    · exact List.Perm.refl _
    · rfl
  by_cases same : other = address
  · subst same
    have more : 1 < node.timesSent := by
      rw [← timesSent_of_lookup ord.found]
      exact stays rfl
    have alive : ep.promotes node = true := by
      simp [promotes, ord.serves.sentRef]
    have proc := processDecStrong_served ord.found ord.serves alive more
    apply (counts (node.timesSent - 1) (by omega) (lookup_insert _)
      (touched_processDecStrong proc).descends).of_ok
    simp [receive, proc]
  · refine ⟨fun next got => ?_, fun here => absurd here same⟩
    simp only [receive] at got
    split at got
    · simp at got
    rename_i gaveBack nodes proc
    have touched := touched_processDecStrong proc
    have known : nodes.lookup address = some (node.recounted node.timesSent node.timesRecd) := by
      rw [BinderNode.recounted_self, touched.lookup same, ord.found]
    have collectedInOrder := counts node.timesSent ord.serves.sent known touched.descends
    generalize ({ ep with nodes := nodes } : RpcEndpoint) = coll
      at got collectedInOrder
    cases got
    cases gaveBack with
    | false => exact collectedInOrder
    | true =>
      rcases collectedInOrder with ⟨later, serves⟩
      cases hit : ep.nodes.lookup other with
      | none => exact serves.spawn serves.unproxied rfl rfl rfl .nil
      | some freed =>
        exact serves.spawn serves.unproxied rfl rfl rfl
          (hands_lastStrongRef coll obj (ord.noProxy other freed hit))

lemma ServesInOrder.receive (arrives : ep.Arrives address delivered msg)
    (stays : ep.StaysKnown address msg) : (∀ next, ep.receive msg = .ok next →
      next.InOrderAt address obj (delivered ++ msg.tickets address)) ∧
    ((∀ other, msg = .decStrong other → other = address) → ∃ next, ep.receive msg = .ok next) := by
  cases msg with
  | transact tx bs => exact (ord.arrive arrives).of_ok rfl
  | reply bs =>
    rw [Message.tickets, append_nil]
    have reads := hands_reads address obj bs
    exact (ord.spawn ord.unproxied rfl rfl rfl reads).of_ok rfl
  | decStrong other =>
    rw [Message.tickets, append_nil]
    rcases ord.collect stays with ⟨kept, taken⟩
    exact ⟨kept, fun own => taken (own other rfl)⟩

end

end RpcEndpoint

/-! ## Runs -/

/-- What happens at an endpoint: a step of its own, or a command that arrives. -/
inductive Event where
  | act (action : RpcEndpoint.Action)
  | receive (message : Message)

namespace Event

def tickets (address : RpcAddress) : Event → List Nat
  | .act _ => []
  | .receive message => message.tickets address

def concerns (endpoint : RpcEndpoint) (address : RpcAddress) : Event → Prop
  | .act (.proceed index _) => endpoint.tasks[index]?.bind Task.handles = some address
  | .act _ => False
  | .receive (.transact transaction _) => transaction.address = address
  | .receive (.reply _) => False
  | .receive (.decStrong other) => other = address

end Event

/-- An endpoint that serves an object at an address, with the numbers of the oneway
transactions that have arrived there. -/
structure Service where
  endpoint : RpcEndpoint
  delivered : List Nat
  ended : Option Halt

namespace Service

variable {service : Service}

def outcome (service : Service) : Event → Except Halt RpcEndpoint
  | .act action => (service.endpoint.act action).map (·.1)
  | .receive message => service.endpoint.receive message

def step (address : RpcAddress) (service : Service) (event : Event) : Service :=
  if service.ended.isSome then service
  else match service.outcome event with
  | .error reason => { service with ended := some reason }
  | .ok endpoint =>
    { endpoint := endpoint, delivered := service.delivered ++ event.tickets address, ended := none }

/-- The node of an object has been sent, and no oneway transaction to it has come yet. -/
structure Ready (service : Service) (address : RpcAddress) (object : Nat) : Prop where
  node : ∃ node, service.endpoint.Serves address object node ∧ node.asyncNumber = 0 ∧
    node.asyncTodo.items = []
  tasks : service.endpoint.tasks.flatMap (Task.tickets address) = []
  log : service.endpoint.log.flatMap (Transaction.ticket address) = []
  delivered : service.delivered = []

/-- The numbers of the oneway transactions are distinct and can be counted on from, fewer of
them are outstanding than the limit, and the node keeps a reference. -/
def Allows (address : RpcAddress) (service : Service) : Event → Prop
  | .act _ => True
  | .receive message => service.endpoint.Arrives address service.delivered message ∧
      service.endpoint.StaysKnown address message

instance (address : RpcAddress) (service : Service) :
    (event : Event) → Decidable (service.Allows address event)
  | .act _ => inferInstanceAs (Decidable True)
  | .receive _ => inferInstanceAs (Decidable (_ ∧ _))

section

variable (service) (address)

def executed : List Nat :=
  service.endpoint.log.flatMap (Transaction.ticket address)

def executing : List Nat :=
  service.endpoint.tasks.flatMap (Task.serving address)

def withWorkers : List Nat :=
  service.endpoint.tasks.flatMap (Task.tickets address)

def pending : List Nat :=
  (service.endpoint.nodes.lookup address).elim [] (·.asyncTodo.items.map (·.asyncNumber))

end

def InOrder (address : RpcAddress) (object : Nat) (service : Service) : Prop :=
  service.endpoint.InOrderAt address object service.delivered

lemma executing_eq_nil (free : service.withWorkers address = []) :
    service.executing address = [] := by
  have mem := flatMap_sublist (Task.serving_sublist address) service.endpoint.tasks
  rw [withWorkers] at free
  rw [free] at mem
  exact sublist_nil.1 mem

lemma Ready.inOrder (ready : service.Ready address obj) : InOrder address obj service := by
  rcases ready.node with ⟨node, serves, unnumbered, unparked⟩
  refine ⟨node, serves, ?_, ?_, ?_, ?_⟩
  · constructor
    · rw [tickets, ready.delivered]
      exact nodup_nil
    · simp [tickets, serves.found, unnumbered, unparked, ready.tasks, ready.delivered]
    · apply Tickets.Serving.idle
      · exact executing_eq_nil ready.tasks
      · simp [tickets, serves.found, unnumbered, ready.log]
  · simp [unparked]
  · simp [ready.delivered]
  · simp [tickets, serves.found, unparked, ready.tasks, onewayCallTerminateLevel]

section

variable (ord : InOrder address obj service)
include ord

lemma InOrder.outcome (allowed : service.Allows address event) :
    (∀ next, service.outcome event = .ok next →
      next.InOrderAt address obj (service.delivered ++ event.tickets address)) ∧
    (event.concerns service.endpoint address → ∃ next, service.outcome event = .ok next) := by
  rcases ord with ⟨node, serves⟩
  cases event with
  | act action =>
    rw [Event.tickets, append_nil, Service.outcome]
    constructor
    · intro next acted
      cases res : service.endpoint.act action with
      | error halt => simp [res, Except.map] at acted
      | ok oc =>
        rcases oc with ⟨after, msgs⟩
        rw [res] at acted
        cases acted
        exact serves.act res
    · intro concerns
      cases action with
      | proceed i conn =>
        rcases Option.bind_eq_some_iff.1 concerns with ⟨task, hit, handles⟩
        rcases (serves.perform hit conn).2 handles with ⟨oc, ran⟩
        exact ⟨oc.1, by simp [act, hit, ran, Except.map]⟩
      | _ => exact concerns.elim
  | receive msg =>
    rcases serves.receive allowed.1 allowed.2 with ⟨kept, taken⟩
    refine ⟨kept, fun concerns => taken fun other same => ?_⟩
    rw [same] at concerns
    exact concerns

lemma InOrder.step (allowed : service.Allows address event) :
    InOrder address obj (service.step address event) := by
  unfold Service.step
  split_ifs with ended
  · exact ord
  · cases res : service.outcome event with
    | error reason => exact ord
    | ok next => exact (ord.outcome allowed).1 next res

lemma InOrder.complete (free : service.withWorkers address = [])
    (all : service.delivered.Perm (range bound)) :
    service.executed address = range bound ∧ service.pending address = [] := by
  rcases ord with ⟨node, serves⟩
  have act : (service.endpoint.tickets address service.delivered).active =
      node.asyncTodo.items.map (·.asyncNumber) := by
    rw [serves.tickets_eq]
    change service.withWorkers address ++ _ = _
    rw [free, nil_append]
  have shown : (service.endpoint.tickets address service.delivered).next = node.asyncNumber := by
    rw [serves.tickets_eq]
  have later : ∀ n ∈ (service.endpoint.tickets address service.delivered).active,
      (service.endpoint.tickets address service.delivered).next < n := by
    intro n mem
    rw [act] at mem
    rcases mem_map.1 mem with ⟨todo, wait, rfl⟩
    rw [shown]
    exact (serves.waits todo wait).1
  rcases serves.order.complete later all with ⟨none, done⟩
  constructor
  · rw [← done]
    cases serves.order.serving with
    | idle none served => exact served
    | busy one served =>
      have busy : service.executing address = [_] := one
      rw [executing_eq_nil free] at busy
      cases busy
  · simp only [pending, serves.found, Option.elim_some]
    rw [← act, none]

end

/-- The oneway transactions to an object are executed in the order of their numbers, no two
of them at the same time, and none of them ends the session. When those below a number have
come and no worker has one any more, all were executed and none is pending. -/
theorem oneway_in_order (ready : service.Ready address object) (events : List Event)
    (along : Machine.Along (step address) (Allows address) service events) :
    let after := run (step address) service events
    after.executed address = range (after.executed address).length ∧
      (after.executing address).length ≤ 1 ∧
      (∀ event, event.concerns after.endpoint address → after.Allows address event →
        after.ended = none → (after.step address event).ended = none) ∧
      ∀ bound, after.delivered.Perm (range bound) → after.withWorkers address = [] →
        after.executed address = range bound ∧ after.pending address = [] := by
  intro after
  have inOrder : InOrder address object after :=
    run_invariant (fun _ _ old ok => InOrder.step old ok)
      ready.inOrder along
  refine ⟨?_, ?_, ?_, fun bound all free => inOrder.complete free all⟩
  · rcases inOrder with ⟨node, serves⟩
    exact serves.order.served_eq_range
  · rcases inOrder with ⟨node, serves⟩
    exact serves.order.serving_length_le_one
  · intro event concerns ok live
    rcases (inOrder.outcome ok).2 concerns with ⟨next, res⟩
    simp [Service.step, live, res]

def rootService : Service where
  endpoint := { initial true with
    nodes := insert RpcSession.rootAddress (newlySent (.localObject 0)) ∅ }
  delivered := []
  ended := none

lemma rootService_ready : rootService.Ready RpcSession.rootAddress 0 := by
  have only : ∀ {other node}, rootService.endpoint.nodes.lookup other = some node →
      node = newlySent (.localObject 0) := by
    intro other node hit
    simp only [rootService] at hit
    by_cases here : other = RpcSession.rootAddress
    · rw [here, lookup_insert, Option.some.injEq] at hit
      exact hit.symm
    · rw [lookup_insert_ne here, lookup_empty] at hit
      cases hit
  have serves : (newlySent (.localObject 0)).Serves 0 := ⟨rfl, rfl, by decide⟩
  refine ⟨⟨newlySent (.localObject 0), ⟨RpcAddress.created_random true 0,
    lookup_insert _, serves, ?_, ?_, rfl, by simp [rootService, initial],
    by decide⟩, rfl, rfl⟩, rfl, rfl, rfl⟩
  · intro other node hit todo mem
    rw [only hit] at mem
    cases mem
  · intro other node hit
    rw [only hit]
    simp [newlySent]

def overtaken : List Event :=
  let oneway := fun number => Event.receive (.transact ⟨RpcSession.rootAddress, 1, true, number⟩ [])
  let proceed := Event.act (.proceed 0 0)
  [oneway 1, proceed, proceed, proceed, oneway 0, proceed, proceed, proceed, proceed, proceed,
    proceed, proceed, proceed]

theorem oneway_in_order_overtaken :
    let after := run (step RpcSession.rootAddress) rootService overtaken
    (run (step RpcSession.rootAddress) rootService (overtaken.take 5)).pending
      RpcSession.rootAddress = [1] ∧
    after.executed RpcSession.rootAddress = range 2 ∧
      after.pending RpcSession.rootAddress = [] := by
  refine ⟨by decide +kernel, ?_⟩
  exact (oneway_in_order rootService_ready overtaken (by decide +kernel)).2.2.2 2
    (by decide +kernel) (by decide +kernel)

end Service

namespace RpcSession

/-- The client gets a proxy of the root object and makes two oneway calls on it. The second
one arrives first and is parked; the first one is being executed. Both references have come
back, the client gives up its proxy, and the server reads the `DEC_STRONG`. -/
def droppedWhilePending : List Label :=
  let call := fun connection => [Label.act false (.openCall rootAddress 1 true),
    .act false (.transact 0 fun _ => 0), .act false (.send 0 connection 0 true)]
  .act true (.hold 0) :: askRoot 0 ++ [.deliver false 0, .act false (.proceed 0 0)] ++
    call 0 ++ call 1 ++
    [.deliver true 1, .act true (.proceed 0 0), .act true (.proceed 0 0), .act true (.proceed 0 0),
      .deliver true 0, .act true (.proceed 0 1), .act true (.proceed 0 1), .act true (.proceed 0 0),
      .deliver false 0, .deliver false 0, .act false (.release (.proxy rootAddress)),
      .act false (.proceed 0 2), .deliver true 0]

/-- The last `DEC_STRONG` aborts a server that has a oneway transaction pending. -/
theorem last_decStrong_aborts_pending :
    let server := (run droppedWhilePending).endpoint true
    server.halted = some .pendingAsync ∧
      server.tasks = [.running ⟨rootAddress, 1, true, 0⟩ (some (.localObject 0))] ∧
      server.log.flatMap (Transaction.ticket rootAddress) = [0] ∧
      ((server.nodes.lookup rootAddress).map (·.asyncTodo.items.map (·.asyncNumber))) =
        some [1] := by
  decide +kernel

end RpcSession

end NativeLibs.Binder
