import NativeLibs.Binder.OnewayTickets

/-! # Oneway transactions take turns

A oneway transaction that is not next is parked, the one that is next is executed, and
the end of one lets the next one go on. -/

namespace NativeLibs.Binder.RpcEndpoint

open ReferenceLedger (tally tally_append tally_cons tally_nil)
open List RpcEndpoint NodeMap PriorityQueue AList

variable {ep next : RpcEndpoint} {i : Nat} {tx : Transaction}

lemma ticket_of_oneway (ow : tx.oneway = true)
    (same : tx.address = addr) :
    tx.ticket addr = [tx.asyncNumber] := by
  simp [Transaction.ticket, ow, same]

lemma ServesInOrder.giveBack (ord : ep.ServesInOrder addr obj given node)
    {after : Option (Transaction × Option IBinder)}
    (found : ep.tasks[i]? = some (.giveBack other after)) (conn : Nat) :
    (∀ next msgs, ep.giveBack i other after conn = .ok (next, msgs) →
      next.InOrderAt addr obj given) ∧
    (other = addr → ∃ oc, ep.giveBack i other after conn = .ok oc) := by
  have fits := ord.fits _ (mem_of_getElem? found)
  have owes := count_le_tally found Task.owed addr
  have owed := ord.owed
  -- At the address itself the node stays, with one reference less.
  have paid : other = addr → ep.nodes.sendDecStrong other = .ok (ep.nodes.insert
      addr (node.recounted node.timesSent (node.timesRecd - 1))) := by
    intro same
    rw [same]
    apply sendDecStrong_served ord.found ord.serves
    simp only [Task.owed, same, count_singleton_self] at owes
    omega
  constructor
  · intro next msgs gave
    unfold RpcEndpoint.giveBack at gave
    split at gave
    · simp at gave
    rename_i nodes sent
    have touched := touched_sendDecStrong sent
    have kept : ∃ recd, nodes.lookup addr = some (node.recounted node.timesSent recd) ∧
        node.timesRecd ≤ recd + [other].count addr := by
      by_cases same : other = addr
      · refine ⟨node.timesRecd - 1, ?_, ?_⟩
        · rw [paid same] at sent
          cases sent
          exact lookup_insert _
        · rw [same, count_singleton_self]
          omega
      · exact ⟨node.timesRecd, (touched.lookup same).trans ord.found, Nat.le_add_right _ _⟩
    rcases kept with ⟨recd, at_address, suff⟩
    cases after with
    | none =>
      cases gave
      exact ord.renode found ord.serves.sent at_address touched.descends .nil suff
    | some resumed =>
      rcases resumed with ⟨tx, goal⟩
      cases dispatched : ({ ep with nodes := nodes }).dispatch i tx goal with
      | error halt => simp [dispatched, Except.map] at gave
      | ok later =>
        simp only [dispatched, Except.map] at gave
        cases gave
        exact ord.dispatch found ord.serves.sent at_address touched.descends suff
          dispatched
  · intro same
    unfold RpcEndpoint.giveBack
    rw [paid same]
    cases after with
    | none => exact ⟨_, rfl⟩
    | some resumed =>
      rcases resumed with ⟨tx, goal⟩
      rw [fits.2 same]
      exact ⟨_, rfl⟩

/-! ## Waiting -/

lemma ServesInOrder.tickets_eq (ord : ep.ServesInOrder addr obj given node) :
    ep.tickets addr given =
      { next := node.asyncNumber, issued := given
        active := ep.tasks.flatMap (Task.tickets addr) ++
          node.asyncTodo.items.map (·.asyncNumber)
        serving := ep.tasks.flatMap (Task.serving addr)
        served := ep.log.flatMap (Transaction.ticket addr) } := by
  simp [tickets, ord.found]

lemma mem_active (found : ep.tasks[i]? = some task)
    (ticket : n ∈ task.tickets addr) :
    n ∈ (ep.tickets addr given).active := by
  apply mem_append_left
  exact mem_flatMap.2 ⟨task, mem_of_getElem? found, ticket⟩

section

variable (ord : ep.ServesInOrder addr obj given node)
include ord

lemma ServesInOrder.room_for (found : ep.tasks[i]? = some task)
    (ticket : task.tickets addr = [n]) :
    node.asyncTodo.items.length + 1 < onewayCallTerminateLevel := by
  have room := ord.room
  have perm := (perm_become found (Task.tickets addr) []).length_eq
  rw [ord.tickets_eq] at room
  simp only [ticket, length_append, length_map, length_singleton,
    flatMap_nil, length_nil] at room perm
  omega

lemma ServesInOrder.turn (found : ep.tasks[i]? = some task) (unowed : task.owed = [])
    {tasks : List Task} (after : next.tasks = (ep.become i tasks).tasks)
    {tickets : List Nat} (hands : Hands addr obj tasks 0 tickets serving)
    (lookup : next.nodes.lookup addr = some new) (side : new.Serves obj)
    (recd : new.timesRecd = node.timesRecd)
    (nodes : next.nodes.Parked ∧ next.nodes.NoProxy addr)
    (unproxied : next.strong (.proxy addr) = 0)
    (waits : ∀ todo ∈ new.asyncTodo.items,
      new.asyncNumber < todo.asyncNumber ∧ todo.ref = .localObject obj)
    (step : (ep.tickets addr given).Step (next.tickets addr given))
    (fewer : (next.tickets addr given).active.length ≤
      (ep.tickets addr given).active.length) :
    next.InOrderAt addr obj given := by
  refine ⟨new, { ord with
    found := lookup
    serves := side
    parked := nodes.1
    noProxy := nodes.2
    unproxied := unproxied
    fits := ?_
    owed := ?_
    order := ord.order.step step
    waits := waits
    room := Nat.lt_of_le_of_lt fewer ord.room }⟩
  · rw [after]
    exact fits_become ord.fits hands.fits
  · have total := congrArg Books.owed (books_become found tasks addr)
    simp only [books, unowed, count_nil, hands.owed] at total
    rw [after, recd]
    have old := ord.owed
    omega

lemma ServesInOrder.park (ow : tx.oneway = true)
    (same : tx.address = addr)
    (found : ep.tasks[i]? = some (.check tx (.localObject obj)))
    (early : tx.asyncNumber ≠ node.asyncNumber) :
    ({ ep with nodes := ep.nodes.insert addr { node with
      asyncTodo := node.asyncTodo.push
        ⟨.localObject obj, tx, tx.asyncNumber⟩ } }.become i []).InOrderAt
      addr obj given := by
  have ticket : (Task.check tx (.localObject obj)).tickets addr =
      [tx.asyncNumber] := ticket_of_oneway ow same
  have pushed := push_perm node.asyncTodo
    ⟨.localObject obj, tx, tx.asyncNumber⟩
  have later : node.asyncNumber < tx.asyncNumber := by
    have act : tx.asyncNumber ∈ (ep.tickets addr given).active :=
      mem_active found (by simp [ticket])
    have bound := ord.order.next_le act
    rw [ord.tickets_eq] at bound
    simp only at bound
    omega
  set new : BinderNode := { node with
    asyncTodo := node.asyncTodo.push
      ⟨.localObject obj, tx, tx.asyncNumber⟩ }
  have nums : (new.asyncTodo.items.map (·.asyncNumber)).Perm
      (tx.asyncNumber :: node.asyncTodo.items.map (·.asyncNumber)) :=
    pushed.map (·.asyncNumber)
  have lookup : lookup addr (ep.nodes.insert addr new) = some new :=
    lookup_insert _
  have act : (({ ep with nodes := ep.nodes.insert addr new }.become i
      []).tickets addr given).active.Perm (ep.tickets addr given).active := by
    have moved := perm_become found (Task.tickets addr) []
    rw [ticket, flatMap_nil, append_nil] at moved
    have both := moved.append_right (node.asyncTodo.items.map (·.asyncNumber))
    rw [append_assoc, singleton_append] at both
    rw [ord.tickets_eq]
    simp only [RpcEndpoint.tickets, RpcEndpoint.become, lookup, Option.elim_some]
    exact ((nums.append_left _).trans perm_middle).trans both
  refine ord.turn found rfl rfl .nil lookup { ord.serves with } rfl
    ⟨ord.parked.park ord.found same ow, ord.noProxy.replace ord.found rfl⟩
    ord.unproxied ?_ ?_ act.length_eq.le
  · intro todo mem
    rcases mem_cons.1 (pushed.mem_iff.1 mem) with rfl | old
    · exact ⟨later, rfl⟩
    · exact ord.waits todo old
  · refine Tickets.Step.keep ?_ rfl act ?_ rfl
    · rw [ord.tickets_eq]
      simp [RpcEndpoint.tickets, RpcEndpoint.become, lookup, new]
    · exact perm_become_same found (Task.serving addr) rfl

end

lemma flatMap_sublist {many : Item → List Mention} (each : ∀ item, (few item).Sublist (many item))
    (items : List Item) : (items.flatMap few).Sublist (items.flatMap many) := by
  induction items with
  | nil => exact .refl _
  | cons item rest ih =>
    simp only [flatMap_cons]
    exact (each item).append ih

section

variable (ord : ep.ServesInOrder addr obj given node)
include ord

lemma ServesInOrder.begin (ow : tx.oneway = true)
    (same : tx.address = addr)
    (found : ep.tasks[i]? = some (.check tx (.localObject obj)))
    (shown : tx.asyncNumber = node.asyncNumber) :
    (ep.execute i tx (some (.localObject obj))).InOrderAt
      addr obj given := by
  have ticket : tx.ticket addr = [node.asyncNumber] := by
    rw [ticket_of_oneway ow same, shown]
  have moved := perm_become found (Task.tickets addr) []
  have turns := perm_become found (Task.serving addr) []
  have act : ((ep.execute i tx (some (.localObject obj))).tickets addr
      given).active.Perm (ep.tickets addr given).active := by
    have tickets := perm_become_same found (Task.tickets addr)
      (by simp [Task.tickets] : [Task.running tx
        (some (.localObject obj))].flatMap (Task.tickets addr) = _)
    simp only [RpcEndpoint.tickets]
    exact tickets.append_right _
  -- What the other threads execute is active as well, besides this transaction.
  have wait : (node.asyncNumber :: ep.tasks.flatMap (Task.serving addr)).Subperm
      (ep.tickets addr given).active := by
    have rest : (flatMap (Task.serving addr) (ep.become i []).tasks).Sublist
        (flatMap (Task.tickets addr) (ep.become i []).tasks) :=
      flatMap_sublist (Task.serving_sublist addr) _
    rw [flatMap_nil, append_nil] at moved turns
    have tickets : (Task.check tx (.localObject obj)).tickets addr =
        [node.asyncNumber] := ticket
    rw [tickets] at moved
    have first : (node.asyncNumber :: ep.tasks.flatMap (Task.serving addr)).Perm
        (node.asyncNumber :: (ep.become i []).tasks.flatMap (Task.serving addr)) :=
      (turns.symm).cons _
    have second := (first.subperm_right.2 (.refl _)).trans
      (rest.cons_cons node.asyncNumber).subperm
    rw [ord.tickets_eq]
    exact (second.trans moved.subperm).trans (sublist_append_left _ _).subperm
  refine ord.turn found rfl rfl (.single trivial) ord.found ord.serves rfl
    ⟨ord.parked, ord.noProxy⟩ ord.unproxied ord.waits ?_ act.length_eq.le
  have n : (ep.tickets addr given).next = node.asyncNumber := by
    rw [ord.tickets_eq]
  refine .begin ?_ rfl rfl act ?_ ?_ <;> rw [n]
  · exact wait
  · have runs := perm_become found (Task.serving addr)
      [.running tx (some (.localObject obj))]
    have exec : [Task.running tx (some (.localObject obj))].flatMap
        (Task.serving addr) = [node.asyncNumber] := by
      simp [Task.serving, ticket]
    rw [exec] at runs
    exact runs.trans (perm_append_singleton _ _)
  · simp [RpcEndpoint.tickets, RpcEndpoint.execute, ticket]

lemma ServesInOrder.checkTurn {goal : IBinder}
    (found : ep.tasks[i]? = some (.check tx goal)) :
    (∀ next, ep.checkTurn i tx goal = .ok next →
      next.InOrderAt addr obj given) ∧
    (tx.address = addr →
      ∃ next, ep.checkTurn i tx goal = .ok next) := by
  have fits : (Task.check tx goal).Fits addr obj :=
    ord.fits _ (mem_of_getElem? found)
  by_cases same : tx.address = addr
  · -- The node is there, and its binder is the target.
    rw [fits.2 same] at found ⊢
    have alive : (ep.promotes node && decide (node.binder = .localObject obj)) = true := by
      simp [promotes, ord.serves.sentRef, ord.serves.binder]
    have at_address : ep.nodes.lookup tx.address = some node := by
      rw [same]
      exact ord.found
    have room := ord.room_for found (ticket_of_oneway fits.1 same)
    by_cases shown : tx.asyncNumber = node.asyncNumber
    · apply (ord.begin fits.1 same found shown).of_ok
      simp [RpcEndpoint.checkTurn, onewayTurn, at_address, alive, shown]
    · have pushed := (push_perm node.asyncTodo
        ⟨.localObject obj, tx, tx.asyncNumber⟩).length_eq
      have few : ¬(node.asyncTodo.push ⟨.localObject obj, tx,
          tx.asyncNumber⟩).items.length ≥ onewayCallTerminateLevel := by
        rw [pushed]
        simp only [length_cons]
        omega
      apply (ord.park fits.1 same found shown).of_ok
      simp [RpcEndpoint.checkTurn, onewayTurn, at_address, alive, shown, few, same]
  · refine ⟨fun next check => ?_, fun here => absurd here same⟩
    have none : tx.ticket addr = [] := ticket_of_ne same
    unfold RpcEndpoint.checkTurn at check
    split at check
    · simp at check
    · cases check
      exact ord.settle found rfl none.symm (some goal)
    · rename_i nodes parked
      cases check
      have apart : nodes.Parked ∧ nodes.NoProxy addr := by
        rcases onewayTurn_parked parked with ⟨other, at_other, rfl⟩
        exact ⟨ord.parked.park at_other rfl fits.1, ord.noProxy.replace at_other rfl⟩
      have hands : Hands addr obj [] 0 (tx.ticket addr) [] := by
        rw [none]
        exact .nil
      exact ord.pass found rfl rfl ord.serves.sent
        ((lookup_onewayTurn same parked).trans ord.found) apart ord.unproxied hands
        (Nat.le_refl _)
    · cases check
      exact (ord.become found (.running none _)).logged none

/-! ## The end of a transaction -/

lemma ServesInOrder.finish (found : ep.tasks[i]? = some (.finish tx goal))
    (ticket : tx.ticket addr = [node.asyncNumber])
    (sameButTodo : new = { node with
      asyncNumber := node.asyncNumber + 1, asyncTodo := new.asyncTodo })
    {tasks : List Task} {tickets : List Nat} (hands : Hands addr obj tasks 0 tickets [])
    (moved : node.asyncTodo.items.map (·.asyncNumber) =
      tickets ++ new.asyncTodo.items.map (·.asyncNumber))
    (less : ∀ todo ∈ new.asyncTodo.items, todo ∈ node.asyncTodo.items)
    (waits : ∀ todo ∈ new.asyncTodo.items, node.asyncNumber + 1 < todo.asyncNumber) :
    ({ ep with nodes := ep.nodes.insert addr new }.become i
      tasks).InOrderAt addr obj given := by
  have binder : new.binder = node.binder := by rw [sameButTodo]
  have n : new.asyncNumber = node.asyncNumber + 1 := by rw [sameButTodo]
  have lookup : lookup addr (ep.nodes.insert addr new) = some new :=
    lookup_insert _
  have desc : ep.nodes.Descends (ep.nodes.insert addr new) :=
    (NodeMap.Touched.changed ord.found binder less).descends
  have act : (ep.tickets addr given).active.Perm (node.asyncNumber ::
      (({ ep with nodes := ep.nodes.insert addr new }.become i
        tasks).tickets addr given).active) := by
    have goes := perm_become found (Task.tickets addr) tasks
    have exec : (Task.finish tx goal).tickets addr = [node.asyncNumber] := ticket
    rw [exec, singleton_append, hands.tickets] at goes
    have both := goes.append_right (new.asyncTodo.items.map (·.asyncNumber))
    rw [append_assoc, ← moved] at both
    rw [ord.tickets_eq]
    simp only [RpcEndpoint.tickets, RpcEndpoint.become, lookup, Option.elim_some]
    exact both.symm
  refine ord.turn found rfl rfl hands lookup ?_ ?_ (ord.descends desc)
    ord.unproxied ?_ ?_ ?_
  · rw [sameButTodo]
    exact { ord.serves with }
  · rw [sameButTodo]
  · intro todo mem
    exact ⟨n ▸ waits todo mem, (ord.waits todo (less todo mem)).2⟩
  · refine .finish node.asyncNumber ?_ ?_ rfl act rfl
    · have serving := perm_become found (Task.serving addr) tasks
      have exec : (Task.finish tx goal).serving addr = [node.asyncNumber] :=
        ticket
      rw [exec, hands.serving, append_nil, singleton_append] at serving
      exact serving.symm
    · rw [ord.tickets_eq]
      simp [RpcEndpoint.tickets, RpcEndpoint.become, lookup, n]
  · have length := act.length_eq
    simp only [length_cons] at length
    omega

lemma ServesInOrder.shown (found : ep.tasks[i]? = some task)
    (serving : n ∈ task.serving addr) :
    n = node.asyncNumber ∧ node.asyncNumber < maxAsyncNumber := by
  have served : n ∈ (ep.tickets addr given).serving :=
    mem_flatMap.2 ⟨task, mem_of_getElem? found, serving⟩
  have shown : n = node.asyncNumber := by
    cases ord.order.serving with
    | idle none done =>
      rw [none] at served
      cases served
    | busy one done =>
      rw [one, mem_singleton, ord.tickets_eq] at served
      exact served
  refine ⟨shown, ord.below _ ?_⟩
  have ticket : n ∈ task.tickets addr := (Task.serving_sublist addr task).subset serving
  have act : n ∈ (ep.tickets addr given).active := mem_active found ticket
  rw [← shown]
  exact ord.order.accounted.mem_iff.2 (mem_append_right _ act)

variable (found : ep.tasks[i]? = some (.finish tx goal))
include found

lemma ServesInOrder.finishOther (ne : tx.address ≠ addr)
    (fin : ep.finishTurn i tx goal = .ok next) :
    next.InOrderAt addr obj given := by
  unfold finishTurn at fin
  split at fin
  · simp at fin
  rename_i todo nodes ended
  cases fin
  rcases finishOneway_touched ended with ⟨touched, waited⟩
  -- What goes on was parked at the other address.
  have apart : ∀ wait ∈ todo.toList,
      wait.data.oneway = true ∧ wait.data.address ≠ addr := by
    intro wait mem
    rcases waited wait (Option.mem_toList.1 mem) with ⟨other, at_other, ins⟩
    have parked := ord.parked _ other at_other wait ins
    exact ⟨parked.2.1, parked.1.symm ▸ ne⟩
  have own : tx.ticket addr = [] := ticket_of_ne ne
  have hands : Hands addr obj (todo.toList.map fun wait =>
      .check wait.data wait.ref) 0 (tx.ticket addr)
      (tx.ticket addr) := by
    rw [own]
    cases todo with
    | none => exact .nil
    | some wait =>
      rcases apart wait (by simp) with ⟨ow, away⟩
      have none : wait.data.ticket addr = [] := ticket_of_ne away
      have fits : (Task.check wait.data wait.ref).Fits addr obj :=
        ⟨ow, fun same => absurd same away⟩
      have hands := Hands.single fits
      rw [Task.tickets, none] at hands
      exact hands
  apply InOrderAt.releaseTarget
  exact ord.renode found ord.serves.sent ((touched.lookup ne).trans ord.found)
    touched.descends hands (Nat.le_refl _)

lemma ServesInOrder.finishOwn (same : tx.address = addr) :
    ∃ next, ep.finishTurn i tx goal = .ok next ∧
      next.InOrderAt addr obj given := by
  have ow : tx.oneway = true := ord.fits _ (mem_of_getElem? found)
  have own : tx.ticket addr = [tx.asyncNumber] := ticket_of_oneway ow same
  have exec : (Task.finish tx goal).serving addr = [tx.asyncNumber] :=
    own
  rcases ord.shown found (by rw [exec]; exact mem_singleton_self _) with ⟨shown, below⟩
  rw [shown] at own
  have prog : nodeProgressAsyncNumber node =
      some { node with asyncNumber := node.asyncNumber + 1 } := by
    simp [nodeProgressAsyncNumber, Nat.not_le.2 below]
  have at_address : ep.nodes.lookup tx.address = some node := by
    rw [same]
    exact ord.found
  -- No parked transaction is next.
  have wait (ended : ep.nodes.finishOneway tx = .ok (none,
        ep.nodes.insert addr { node with asyncNumber := node.asyncNumber + 1 }))
      (later : ∀ todo ∈ node.asyncTodo.items, node.asyncNumber + 1 < todo.asyncNumber) :
      ∃ next, ep.finishTurn i tx goal = .ok next ∧
        next.InOrderAt addr obj given := by
    simp only [finishTurn, ended]
    refine ⟨_, rfl, .releaseTarget ?_ goal⟩
    exact ord.finish found own rfl .nil rfl (fun _ mem => mem) later
  cases top : node.asyncTodo.top with
  | none =>
    apply wait
    · simp [finishOneway, at_address, prog, top, same]
    · simp [items_eq_nil_of_top top]
  | some first =>
    rcases items_of_top top with ⟨items, smallest⟩
    have firstWaits := ord.waits first (by rw [items]; exact mem_cons_self)
    have firstParked := ord.parked addr node ord.found first
      (by rw [items]; exact mem_cons_self)
    by_cases turn : first.asyncNumber = node.asyncNumber + 1
    · have ended : ep.nodes.finishOneway tx = .ok (some first,
          ep.nodes.insert addr { node with
            asyncNumber := node.asyncNumber + 1
            asyncTodo := node.asyncTodo.pop }) := by
        simp [finishOneway, at_address, prog, top, turn, same]
      simp only [finishTurn, ended]
      refine ⟨_, rfl, .releaseTarget ?_ goal⟩
      have ticket : first.data.ticket addr = [first.asyncNumber] := by
        rw [ticket_of_oneway firstParked.2.1 firstParked.1, firstParked.2.2]
      have fits : (Task.check first.data first.ref).Fits addr obj :=
        ⟨firstParked.2.1, fun _ => firstWaits.2⟩
      apply ord.finish found own rfl (.single fits)
      · simp [Task.tickets, ticket, items]
      · intro todo mem
        rw [items]
        exact mem_cons_of_mem _ mem
      · intro todo mem
        -- The numbers of parked transactions are distinct.
        have nodup : (node.asyncTodo.items.map (·.asyncNumber)).Nodup := by
          have act := ord.order.active_nodup
          rw [ord.tickets_eq] at act
          exact (nodup_append.1 act).2.1
        rw [items, map_cons, nodup_cons] at nodup
        have ne : first.asyncNumber ≠ todo.asyncNumber := by
          intro eq
          apply nodup.1
          rw [eq]
          exact mem_map_of_mem mem
        have notSmaller := smallest todo mem
        omega
    · apply wait
      · simp [finishOneway, at_address, prog, top, turn, same]
      · intro todo mem
        have above : node.asyncNumber + 1 < first.asyncNumber := by omega
        rw [items] at mem
        rcases mem_cons.1 mem with rfl | later
        · exact above
        · have notSmaller := smallest todo later
          omega

end

end NativeLibs.Binder.RpcEndpoint
