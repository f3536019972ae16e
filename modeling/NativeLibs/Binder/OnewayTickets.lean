import NativeLibs.Foundation.TicketOrder
import NativeLibs.Binder.EndpointSteps

/-! # Oneway transactions as tickets

The oneway transactions to one object are tickets: their numbers are those of the
transactions, the number shown is `asyncNumber`, and the tickets of the threads and of
`asyncTodo` are active. -/

namespace NativeLibs.Binder

open ReferenceLedger (tally tally_append tally_cons tally_nil)
open List

def Transaction.ticket (address : RpcAddress) (transaction : Transaction) : List Nat :=
  if transaction.oneway ∧ transaction.address = address then [transaction.asyncNumber] else []

namespace Task

variable (address : RpcAddress)

def tickets : Task → List Nat
  | .enter transaction => transaction.ticket address
  | .giveBack _ (some (transaction, _)) => transaction.ticket address
  | .check transaction _ => transaction.ticket address
  | .running transaction _ => transaction.ticket address
  | .finish transaction _ => transaction.ticket address
  | _ => []

def serving : Task → List Nat
  | .running transaction _ => transaction.ticket address
  | .finish transaction _ => transaction.ticket address
  | _ => []

/-- What the tasks of an endpoint look like that serves an object at an address: calls are
made on proxies, and the transactions at the address are for the object. -/
def Fits (object : Nat) : Task → Prop
  | .compose ⟨some call, _⟩ => (∀ own, call.binder ≠ .localObject own) ∧ call.address ≠ some address
  | .giveBack source (some (transaction, target)) =>
    source = transaction.address ∧ (source = address → target = some (.localObject object))
  | .check transaction target =>
    transaction.oneway = true ∧ (transaction.address = address → target = .localObject object)
  | .finish transaction _ => transaction.oneway = true
  | _ => True

lemma serving_sublist (task : Task) : (task.serving address).Sublist (task.tickets address) := by
  cases task with
  | running tx goal => exact .refl _
  | finish tx goal => exact .refl _
  | _ => exact nil_sublist _

end Task

namespace RpcEndpoint

variable {ep next : RpcEndpoint} {i : Nat} {tasks : List Task}

def tickets (endpoint : RpcEndpoint) (address : RpcAddress) (delivered : List Nat) : Tickets where
  next := (endpoint.nodes.lookup address).elim 0 (·.asyncNumber)
  issued := delivered
  active := endpoint.tasks.flatMap (Task.tickets address) ++
    (endpoint.nodes.lookup address).elim [] (·.asyncTodo.items.map (·.asyncNumber))
  serving := endpoint.tasks.flatMap (Task.serving address)
  served := endpoint.log.flatMap (Transaction.ticket address)

structure Serves (endpoint : RpcEndpoint) (address : RpcAddress) (object : Nat)
    (node : BinderNode) : Prop where
  created : address.Created
  found : endpoint.nodes.lookup address = some node
  serves : node.Serves object
  parked : endpoint.nodes.Parked
  noProxy : endpoint.nodes.NoProxy address
  unproxied : endpoint.strong (.proxy address) = 0
  fits : ∀ task ∈ endpoint.tasks, task.Fits address object
  owed : tally Task.owed endpoint.tasks address ≤ node.timesRecd

/-- The oneway transactions are executed in order: those that wait come after the number
shown, and there is room for all of them. -/
structure ServesInOrder (endpoint : RpcEndpoint) (address : RpcAddress) (object : Nat)
    (delivered : List Nat) (node : BinderNode) : Prop
    extends endpoint.Serves address object node where
  order : (endpoint.tickets address delivered).InOrder
  waits : ∀ todo ∈ node.asyncTodo.items,
    node.asyncNumber < todo.asyncNumber ∧ todo.ref = .localObject object
  below : ∀ number ∈ delivered, number < NodeMap.maxAsyncNumber
  room : (endpoint.tickets address delivered).active.length < NodeMap.onewayCallTerminateLevel

lemma Serves.descends (serves : ep.Serves address obj node) {nodes : NodeMap}
    (descends : ep.nodes.Descends nodes) : nodes.Parked ∧ nodes.NoProxy address :=
  ⟨serves.parked.descends descends, serves.noProxy.descends serves.found descends⟩

/-! ## Tasks that go on -/

lemma perm_become (found : ep.tasks[i]? = some task) (ment : Task → List Mention)
    (tasks : List Task) :
    (ment task ++ (ep.become i tasks).tasks.flatMap ment).Perm
      (ep.tasks.flatMap ment ++ tasks.flatMap ment) := by
  rcases List.getElem?_eq_some_iff.1 found with ⟨bound, same⟩
  have together := List.getElem_cons_eraseIdx_perm bound
  rw [same] at together
  have mentioned := (together.flatMap_right ment).append_right (tasks.flatMap ment)
  simpa [become] using mentioned

lemma perm_become_same (found : ep.tasks[i]? = some task)
    (ment : Task → List Mention) (same : tasks.flatMap ment = ment task) :
    ((ep.become i tasks).tasks.flatMap ment).Perm
      (ep.tasks.flatMap ment) := by
  have both := perm_become found ment tasks
  rw [same] at both
  exact (perm_append_left_iff _).1 (both.trans perm_append_comm)

lemma fits_become (fits : ∀ task ∈ ep.tasks, task.Fits address obj)
    (new : ∀ later ∈ tasks, later.Fits address obj) :
    ∀ later ∈ (ep.become i tasks).tasks, later.Fits address obj := by
  exact forall_mem_append.2 ⟨fun later old => fits later (mem_of_mem_eraseIdx old), new⟩

structure Hands (address : RpcAddress) (object : Nat) (tasks : List Task) (owed : Nat)
    (tickets serving : List Nat) : Prop where
  owed : tally Task.owed tasks address = owed
  fits : ∀ task ∈ tasks, task.Fits address object
  tickets : tasks.flatMap (Task.tickets address) = tickets
  serving : tasks.flatMap (Task.serving address) = serving

lemma Hands.nil : Hands address obj [] 0 [] [] := ⟨rfl, by simp, rfl, rfl⟩

lemma Hands.single (fits : task.Fits address obj) :
    Hands address obj [task] (task.owed.count address) (task.tickets address)
      (task.serving address) :=
  ⟨by simp, by simpa using fits, by simp, by simp⟩

/-! ## Steps that leave the tickets alone -/

/-- The node and the tickets at an address are as before, but for the counts. -/
structure Keeps (endpoint next : RpcEndpoint) (address : RpcAddress) (object : Nat)
    (node : BinderNode) : Prop where
  node : ∃ sent recd, 0 < sent ∧ next.nodes.lookup address = some (node.recounted sent recd) ∧
    tally Task.owed next.tasks address ≤ recd
  nodes : next.nodes.Parked ∧ next.nodes.NoProxy address
  unproxied : next.strong (.proxy address) = 0
  fits : ∀ task ∈ next.tasks, task.Fits address object
  tickets : (next.tasks.flatMap (Task.tickets address)).Perm
    (endpoint.tasks.flatMap (Task.tickets address))
  serving : (next.tasks.flatMap (Task.serving address)).Perm
    (endpoint.tasks.flatMap (Task.serving address))
  served : next.log.flatMap (Transaction.ticket address) =
    endpoint.log.flatMap (Transaction.ticket address)

def InOrderAt (endpoint : RpcEndpoint) (address : RpcAddress) (object : Nat)
    (delivered : List Nat) : Prop :=
  ∃ node, endpoint.ServesInOrder address object delivered node

lemma InOrderAt.of_ok (kept : next.InOrderAt address obj given)
    {res : Except Halt RpcEndpoint} (ok : res = .ok next) {here : Prop} :
    (∀ after, res = .ok after → after.InOrderAt address obj given) ∧
      (here → ∃ after, res = .ok after) := by
  rw [ok]
  refine ⟨fun after same => ?_, fun _ => ⟨next, rfl⟩⟩
  cases same
  exact kept

lemma ServesInOrder.keep (ord : ep.ServesInOrder address obj given node)
    (keeps : ep.Keeps next address obj node) :
    next.InOrderAt address obj given := by
  rcases keeps.node with ⟨sent, recd, pos, found, owed⟩
  have step : (ep.tickets address given).Step (next.tickets address given) := by
    apply Tickets.Step.keep
    · simp [tickets, found, ord.found, BinderNode.recounted]
    · rfl
    · simp only [tickets, found, ord.found, Option.elim_some, BinderNode.recounted]
      exact keeps.tickets.append_right _
    · exact keeps.serving
    · exact keeps.served
  have act : (next.tickets address given).active.length =
      (ep.tickets address given).active.length := by
    simp only [tickets, found, ord.found, Option.elim_some, BinderNode.recounted]
    exact (keeps.tickets.append_right _).length_eq
  exact ⟨_, { ord with
    found := found
    serves := ord.serves.recounted pos
    parked := keeps.nodes.1
    noProxy := keeps.nodes.2
    unproxied := keeps.unproxied
    fits := keeps.fits
    owed := owed
    order := ord.order.step step
    room := by
      rw [act]
      exact ord.room }⟩

section

variable (ord : ep.ServesInOrder address obj given node)
include ord

section

variable (found : ep.tasks[i]? = some task)
include found

lemma ServesInOrder.pass {mid : RpcEndpoint} (same : mid.tasks = ep.tasks)
    (log : mid.log = ep.log) (pos : 0 < sent)
    (at_address : mid.nodes.lookup address = some (node.recounted sent recd))
    (nodes : mid.nodes.Parked ∧ mid.nodes.NoProxy address)
    (unproxied : mid.strong (.proxy address) = 0)
    (hands : Hands address obj tasks owed (task.tickets address) (task.serving address))
    (enough : node.timesRecd + owed ≤ recd + task.owed.count address) :
    (mid.become i tasks).InOrderAt address obj given := by
  have found' : mid.tasks[i]? = some task := by rw [same, found]
  have tickets := perm_become_same found' (Task.tickets address) hands.tickets
  have serving := perm_become_same found' (Task.serving address) hands.serving
  rw [same] at tickets serving
  apply ord.keep
  constructor
  · have after := congrArg Books.owed (books_become found' tasks address)
    have count := count_le_tally found Task.owed address
    have old := ord.owed
    simp only [books, same, hands.owed] at after
    exact ⟨sent, recd, pos, at_address, by omega⟩
  · exact nodes
  · exact unproxied
  · apply fits_become _ hands.fits
    rw [same]
    exact ord.fits
  · exact tickets
  · exact serving
  · exact congrArg _ log

lemma ServesInOrder.renode {nodes : NodeMap} (pos : 0 < sent)
    (at_address : nodes.lookup address = some (node.recounted sent recd))
    (descends : ep.nodes.Descends nodes)
    (hands : Hands address obj tasks owed (task.tickets address) (task.serving address))
    (enough : node.timesRecd + owed ≤ recd + task.owed.count address) :
    ({ ep with nodes := nodes }.become i tasks).InOrderAt address obj given :=
  ord.pass found rfl rfl pos at_address (ord.descends descends) ord.unproxied hands
    enough

lemma ServesInOrder.become
    (hands : Hands address obj tasks 0 (task.tickets address) (task.serving address)) :
    (ep.become i tasks).InOrderAt address obj given :=
  ord.pass found rfl rfl ord.serves.sent ord.found ⟨ord.parked, ord.noProxy⟩
    ord.unproxied hands (Nat.le_add_right _ _)

end

lemma ServesInOrder.spawn {mid : RpcEndpoint} (unproxied : mid.strong (.proxy address) = 0)
    (nodes : mid.nodes = ep.nodes) (same : mid.tasks = ep.tasks)
    (log : mid.log = ep.log) (hands : Hands address obj tasks 0 [] []) :
    (mid.spawn tasks).InOrderAt address obj given := by
  apply ord.keep
  constructor
  · refine ⟨node.timesSent, node.timesRecd, ord.serves.sent, ?_, ?_⟩
    · rw [BinderNode.recounted_self, RpcEndpoint.spawn, nodes]
      exact ord.found
    · simpa [RpcEndpoint.spawn, same, hands.owed] using ord.owed
  · rw [RpcEndpoint.spawn, nodes]
    exact ⟨ord.parked, ord.noProxy⟩
  · exact unproxied
  · exact forall_mem_append.2 ⟨fun task old => ord.fits task (same ▸ old), hands.fits⟩
  · simp [RpcEndpoint.spawn, same, hands.tickets]
  · simp [RpcEndpoint.spawn, same, hands.serving]
  · simp [RpcEndpoint.spawn, log]

end

/-! ## References of the process -/

lemma hands_lastStrongRef (ep : RpcEndpoint) (obj : Nat) (ne : binder ≠ .proxy address) :
    Hands address obj (ep.lastStrongRef binder) 0 [] [] := by
  cases binder with
  | localObject own => exact .nil
  | unrelated => exact .nil
  | proxy other =>
    rw [lastStrongRef]
    split_ifs
    · have none : [other].count address = 0 := by
        simpa [count_eq_zero, eq_comm] using ne
      exact none ▸ .single trivial
    · exact .nil

variable (ord : ep.InOrderAt address obj given)
include ord

lemma InOrderAt.release (binder : IBinder) :
    (ep.release binder).InOrderAt address obj given := by
  rcases ord with ⟨node, serves⟩
  unfold RpcEndpoint.release
  split_ifs with unheld
  · exact ⟨node, serves⟩
  · have ne : binder ≠ .proxy address := by
      intro same
      rw [same] at unheld
      exact unheld serves.unproxied
    have unproxied : ({ ep with
        strong := Function.update ep.strong binder (ep.strong binder - 1) } :
        RpcEndpoint).strong (.proxy address) = 0 := by
      simpa [Function.update_of_ne ne.symm] using serves.unproxied
    exact serves.spawn unproxied rfl rfl rfl (hands_lastStrongRef _ obj ne)

lemma InOrderAt.releaseTarget (goal : Option IBinder) :
    (ep.releaseTarget goal).InOrderAt address obj given := by
  cases goal with
  | none => exact ord
  | some binder => exact ord.release binder

end RpcEndpoint

end NativeLibs.Binder

/-! ## The steps of an endpoint and its oneway transactions

No step but those of the oneway transactions themselves touches their tickets. -/

namespace NativeLibs.Binder.RpcEndpoint

open ReferenceLedger (tally tally_append tally_cons tally_nil)

variable {ep : RpcEndpoint} {tx : Transaction} {nodes : NodeMap}

/-! ## Sending -/

section

variable (ord : ep.ServesInOrder addr obj given node)
include ord

lemma ServesInOrder.leave (hit : ep.tasks[i]? = some (.compose outgoing))
    (left : ep.nodes.onBinderLeaving ep.isServer binder random = .ok (.ok (other, nodes)))
    (fits : (other = addr → binder = .localObject obj) → (Task.compose composed).Fits addr obj) :
    ({ ep with nodes := nodes }.become i [.compose composed]).InOrderAt addr obj given := by
  rcases NodeMap.lookup_onBinderLeaving ord.found ord.serves left with
    ⟨sent, pos, at_address, own⟩
  exact ord.renode hit pos at_address (NodeMap.touched_onBinderLeaving left).descends
    (.single (fits own)) (Nat.le_refl _)

lemma ServesInOrder.write (hit : ep.tasks[i]? = some (.compose outgoing))
    (wrote : ep.write i outgoing binder random = .ok (next, msgs)) :
    next.InOrderAt addr obj given := by
  unfold RpcEndpoint.write at wrote
  split_ifs at wrote with unheld
  · cases wrote
    exact ⟨node, ord⟩
  · split at wrote
    · simp at wrote
    · cases wrote
      exact ⟨node, ord⟩
    · rename_i other nodes left
      cases wrote
      apply ord.leave hit left
      intro own
      have old := ord.fits _ (List.mem_of_getElem? hit)
      rcases outgoing with ⟨call, bs⟩
      cases call with
      | none => trivial
      | some call => exact old

lemma ServesInOrder.transact (hit : ep.tasks[i]? = some (.compose ⟨some call, bs⟩))
    (sent : ep.transact i call bs random = .ok (next, msgs)) : next.InOrderAt addr obj given := by
  have old : (Task.compose ⟨some call, bs⟩).Fits addr obj :=
    ord.fits _ (List.mem_of_getElem? hit)
  unfold RpcEndpoint.transact at sent
  split_ifs at sent with unheld
  · cases sent
    exact ⟨node, ord⟩
  · split at sent
    · simp at sent
    · cases sent
      exact ord.become hit (.single trivial)
    · rename_i other nodes left
      cases sent
      apply ord.leave hit left
      intro own
      refine ⟨old.1, fun same => ?_⟩
      exact old.1 obj (own (Option.some.inj same))

lemma ServesInOrder.sendCall (hit : ep.tasks[i]? = some (.compose ⟨some call, bs⟩))
    (addressed : call.address = some other)
    (sent : ep.sendCall i call other bs conn dataSize allocates =
      .ok (next, msgs)) : next.InOrderAt addr obj given := by
  have old : (Task.compose ⟨some call, bs⟩).Fits addr obj :=
    ord.fits _ (List.mem_of_getElem? hit)
  have ne : other ≠ addr := fun same => old.2 (by rw [addressed, same])
  unfold RpcEndpoint.sendCall at sent
  split at sent
  · simp at sent
  all_goals
    rename_i nodes tx
    have touched := NodeMap.touched_transactAddress tx
    cases sent
    exact ord.renode hit ord.serves.sent ((touched.lookup ne).trans ord.found)
      touched.descends (by first | exact .single trivial | exact .nil) (Nat.le_refl _)

lemma ServesInOrder.sendReply (hit : ep.tasks[i]? = some (.compose ⟨none, bs⟩))
    (sent : ep.sendReply i bs conn dataSize allocates = .ok (next, msgs)) :
    next.InOrderAt addr obj given := by
  unfold RpcEndpoint.sendReply at sent
  split_ifs at sent with large valid
  all_goals
    cases sent
    exact ord.become hit (by first | exact .single trivial | exact .nil)

end

/-! ## Executing -/

lemma ticket_of_ne (ne : tx.address ≠ addr) : tx.ticket addr = [] := by
  simp [Transaction.ticket, ne]

lemma ticket_of_sync (sync : tx.oneway = false) : tx.ticket addr = [] := by
  simp [Transaction.ticket, sync]

lemma Hands.running (apart : tx.ticket addr = []) (goal : Option IBinder) :
    Hands addr obj [.running tx goal] 0 (tx.ticket addr) [] :=
  ⟨rfl, by simp [Task.Fits], by simp [Task.tickets], by simp [Task.serving, apart]⟩

lemma InOrderAt.logged (ord : ep.InOrderAt addr obj given) (apart : tx.ticket addr = []) :
    ({ ep with log := ep.log ++ [tx] }).InOrderAt addr obj given := by
  rcases ord with ⟨node, serves⟩
  apply serves.keep
  constructor
  · exact ⟨_, _, serves.serves.sent, serves.found, serves.owed⟩
  · exact ⟨serves.parked, serves.noProxy⟩
  · exact serves.unproxied
  · exact serves.fits
  · exact .refl _
  · exact .refl _
  · simp [apart]

lemma ServesInOrder.settle (ord : ep.ServesInOrder addr obj given node)
    (hit : ep.tasks[i]? = some task) (tickets : task.tickets addr = tx.ticket addr)
    (serving : task.serving addr = tx.ticket addr) (goal : Option IBinder) :
    (ep.settle i tx goal).InOrderAt addr obj given := by
  unfold RpcEndpoint.settle
  split_ifs with ow
  · apply ord.become hit
    rw [tickets, serving]
    exact .single ow
  · have none : tx.ticket addr = [] := ticket_of_sync (by simpa using ow)
    apply InOrderAt.releaseTarget
    apply ord.become hit
    rw [tickets, serving, none]
    exact .single trivial

/-! ## Entering -/

lemma Serves.unproxied_promote (serves : ep.Serves addr obj node)
    (hit : ep.nodes.lookup other = some ent) : (ep.promote ent).2.strong (.proxy addr) = 0 := by
  have ne : .proxy addr ≠ ent.binder :=
    fun same => serves.noProxy other ent hit same.symm
  rw [promote_strong, serves.unproxied]
  simp [ne]

lemma promote_log (ep : RpcEndpoint) (ent : BinderNode) : (ep.promote ent).2.log = ep.log := by
  unfold promote
  split_ifs <;> rfl

lemma ServesInOrder.enterKnown (ord : ep.ServesInOrder addr obj given node)
    (hit : ep.tasks[i]? = some task)
    (known : ep.nodes.onBinderEntering ep.isServer other = .known ent nodes)
    (fits : (Task.giveBack other after).Fits addr obj)
    (tickets : (Task.giveBack other after).tickets addr = task.tickets addr)
    (serving : task.serving addr = []) : ({ (ep.promote ent).2 with nodes := nodes }.become i
      [.giveBack other after]).InOrderAt addr obj given := by
  rcases promote_frame ep ent with ⟨_, tasks⟩
  have log := promote_log ep ent
  have hands : Hands addr obj [.giveBack other after] ([other].count addr)
      (task.tickets addr) (task.serving addr) := by
    rw [← tickets, serving]
    exact .single fits
  by_cases same : other = addr
  · subst same
    have comp : ep.nodes.onBinderEntering ep.isServer other = _ :=
      NodeMap.lookup_onBinderEntering ord.created ord.found
    rw [known, NodeMap.Entering.known.injEq] at comp
    rcases comp with ⟨rfl, rfl⟩
    refine ord.pass hit tasks log ord.serves.sent (AList.lookup_insert _)
      (ord.descends (NodeMap.touched_onBinderEntering_known known).descends)
      (ord.unproxied_promote ord.found) hands ?_
    rw [List.count_singleton_self]
    exact Nat.le_add_right _ _
  · have touched := NodeMap.touched_onBinderEntering_known known
    have at_other := (NodeMap.onBinderEntering_eq_known known).1
    refine ord.pass hit tasks log ord.serves.sent
      ((touched.lookup same).trans ord.found) (ord.descends touched.descends)
      (ord.unproxied_promote at_other) hands ?_
    simp [same]

lemma Serves.not_refused (serves : ep.Serves addr obj node)
    (no : ep.nodes.onBinderEntering ep.isServer other = .refused) : other ≠ addr := by
  intro same
  have known : ep.nodes.onBinderEntering ep.isServer addr = _ :=
    NodeMap.lookup_onBinderEntering serves.created serves.found
  rw [← same, no] at known
  cases known

section

variable (ord : ep.ServesInOrder addr obj given node)
include ord

lemma ServesInOrder.readBinder (hit : ep.tasks[i]? = some (.read other)) :
    (ep.readBinder i other).InOrderAt addr obj given := by
  unfold RpcEndpoint.readBinder
  split
  · exact ord.become hit .nil
  · rename_i ent nodes known
    exact ord.enterKnown hit known trivial rfl rfl
  · rename_i nodes made
    rcases NodeMap.lookup_onBinderEntering_created ord.found made with ⟨ne, at_address⟩
    have unproxied : (ep.incStrong (.proxy other)).strong (.proxy addr) = 0 := by
      have apart : IBinder.proxy addr ≠ .proxy other := by
        simpa using fun same => ne same.symm
      simpa [incStrong, Function.update_of_ne apart] using ord.unproxied
    exact ord.pass hit rfl rfl ord.serves.sent at_address
      (ord.descends (NodeMap.touched_onBinderEntering_created made).descends) unproxied .nil
      (Nat.le_refl _)

lemma ServesInOrder.enterTarget (hit : ep.tasks[i]? = some (.enter tx)) :
    (∀ next, ep.enterTarget i tx = .ok next → next.InOrderAt addr obj given) ∧
    (tx.address = addr → ∃ next, ep.enterTarget i tx = .ok next) := by
  have promoted : ep.promote node =
      (some (.localObject obj), ep.incStrong (.localObject obj)) := by
    simp [promote, promotes, ord.serves.sentRef, ord.serves.binder]
  constructor
  · intro next ent
    unfold RpcEndpoint.enterTarget at ent
    split_ifs at ent with zero
    · have ne : tx.address ≠ addr := by
        intro same
        rw [same, ord.created.nonzero] at zero
        cases zero
      have none : tx.ticket addr = [] := ticket_of_ne ne
      cases ent
      exact (ord.become hit (.running none _)).logged none
    · split at ent
      · rename_i no
        have none : tx.ticket addr = [] := ticket_of_ne (ord.not_refused no)
        cases ent
        apply ord.settle hit rfl
        rw [none]
        rfl
      · rename_i enteredNode nodes known
        cases ent
        have goal : tx.address = addr →
            (ep.promote enteredNode).1 = some (.localObject obj) := by
          intro same
          have comp : ep.nodes.onBinderEntering ep.isServer addr = _ :=
            NodeMap.lookup_onBinderEntering ord.created ord.found
          rw [same, comp, NodeMap.Entering.known.injEq] at known
          rw [← known.1, promoted]
        have fits : (Task.giveBack tx.address
            (some (tx, (ep.promote enteredNode).1))).Fits addr obj :=
          ⟨rfl, goal⟩
        exact ord.enterKnown hit known fits rfl rfl
      · simp at ent
  · intro same
    have comp : ep.nodes.onBinderEntering ep.isServer addr = _ :=
      NodeMap.lookup_onBinderEntering ord.created ord.found
    rw [← same] at comp
    have nonzero : tx.address.isZero = false := by
      rw [same]
      exact ord.created.nonzero
    simp [RpcEndpoint.enterTarget, nonzero, comp]

lemma ServesInOrder.dispatch (hit : ep.tasks[i]? = some (.giveBack other (some (tx, goal))))
    (pos : 0 < sent) (at_address : nodes.lookup addr = some (node.recounted sent recd))
    (desc : ep.nodes.Descends nodes) (owed : node.timesRecd ≤ recd + [other].count addr)
    (dispatched : ({ ep with nodes := nodes }).dispatch i tx goal = .ok next) :
    next.InOrderAt addr obj given := by
  have fits : (Task.giveBack other (some (tx, goal))).Fits addr obj :=
    ord.fits _ (List.mem_of_getElem? hit)
  cases goal with
  | none => simp [RpcEndpoint.dispatch] at dispatched
  | some binder =>
    cases binder with
    | proxy | unrelated => simp [RpcEndpoint.dispatch] at dispatched
    | localObject own =>
      rw [RpcEndpoint.dispatch] at dispatched
      cases dispatched
      split_ifs with ow
      · have goal : tx.address = addr →
            IBinder.localObject own = .localObject obj := by
          intro same
          exact Option.some.inj (fits.2 (fits.1.trans same))
        exact ord.renode hit pos at_address desc (.single ⟨ow, goal⟩) owed
      · have none : tx.ticket addr = [] := ticket_of_sync (by simpa using ow)
        exact (ord.renode hit pos at_address desc (.running none _) owed).logged none

end

end NativeLibs.Binder.RpcEndpoint
