import NativeLibs.Binder.OnewayOrder

/-! # Oneway calls from end to end

A oneway call takes its number before it is known whether there is memory for the command. A call
that fails after that has used up a number that is never sent, and the other side waits for it.
Where this does not happen and the caller keeps its node, every call that was sent is executed. -/

namespace NativeLibs.Binder

open List RpcEndpoint NodeMap AList

/-! ## The number of the next call -/

namespace NodeMap

variable {nodes next : NodeMap}

def nextNumber (nodes : NodeMap) (address : RpcAddress) : Nat :=
  (nodes.lookup address).elim 0 (·.asyncNumber)

/-- The number at an address stays, unless the node is erased. -/
def KeepsNumber (nodes next : NodeMap) (address : RpcAddress) : Prop :=
  (nodes.lookup address ≠ none → next.lookup address ≠ none) →
    next.nextNumber address = nodes.nextNumber address

lemma nextNumber_of_lookup (found : nodes.lookup addr = some node) :
    nodes.nextNumber addr = node.asyncNumber := by
  rw [nextNumber, found]
  rfl

lemma KeepsNumber.refl : nodes.KeepsNumber nodes addr := fun _ => rfl

lemma keepsNumber_of_lookup (same : next.lookup addr = nodes.lookup addr) :
    nodes.KeepsNumber next addr := by
  intro _
  rw [nextNumber, same, nextNumber]

lemma keepsNumber_insert {changed : BinderNode}
    (same : changed.asyncNumber = nodes.nextNumber other) :
    nodes.KeepsNumber (nodes.insert other changed) addr := by
  by_cases here : addr = other
  · intro _
    rw [here, nextNumber_of_lookup (lookup_insert _), same]
  · exact keepsNumber_of_lookup (lookup_insert_ne here)

lemma keepsNumber_tryEraseNode {changed : BinderNode}
    (erased : nodes.tryEraseNode other changed = .ok (gaveBack, next))
    (same : changed.asyncNumber = nodes.nextNumber other) : nodes.KeepsNumber next addr := by
  unfold tryEraseNode at erased
  split_ifs at erased <;> cases erased
  · by_cases here : addr = other
    · intro kept
      rw [here, lookup_erase] at kept
      rw [here, nextNumber, nextNumber, lookup_erase, not_not.1 fun known => kept known rfl]
    · exact keepsNumber_of_lookup (lookup_erase_ne here)
  · exact keepsNumber_insert same
  · exact keepsNumber_insert same

lemma keepsNumber_onBinderLeaving
    (left : nodes.onBinderLeaving serves binder random = .ok (.ok (other, next))) :
    nodes.KeepsNumber next addr := by
  rcases onBinderLeaving_cases left with ⟨node, found, _, rfl⟩ | ⟨_, _, _, _, absent, rfl⟩
  · exact keepsNumber_insert (nextNumber_of_lookup found).symm
  · exact keepsNumber_insert (by rw [nextNumber, absent]; rfl)

lemma keepsNumber_sendDecStrong (sent : nodes.sendDecStrong other = .ok next) :
    nodes.KeepsNumber next addr := by
  rcases sendDecStrong_eq_ok sent with ⟨node, found, _, erased⟩
  exact keepsNumber_tryEraseNode erased (nextNumber_of_lookup found).symm

lemma keepsNumber_processDecStrong {alive : BinderNode → Bool}
    (processed : nodes.processDecStrong alive other = .ok (gaveBack, next)) :
    nodes.KeepsNumber next addr := by
  rcases processDecStrong_eq_ok processed with ⟨rfl, _⟩ | ⟨node, found, _, erased⟩
  · exact keepsNumber_of_lookup rfl
  · exact keepsNumber_tryEraseNode erased (nextNumber_of_lookup found).symm

/-- A call takes its number even if there is no memory for its command. -/
lemma transactAddress_cases (made : addr.Created)
    (tried : nodes.transactAddress addr code oneway size allocates = .ok (sent, next)) :
    (oneway = false ∧ next = nodes ∧ ∀ tx, sent = .ok tx → tx.oneway = false) ∨
    (oneway = true ∧ next.nextNumber addr = nodes.nextNumber addr + 1 ∧
      sent = if commandDataValid (headerSize + transactionSize + size) allocates = true then
        .ok ⟨addr, code, true, nodes.nextNumber addr⟩ else .error .noMemory) := by
  simp only [transactAddress, takeAsyncNumber, made.nonzero, Bool.false_eq_true, if_false] at tried
  cases found : nodes.lookup addr with
  | none => simp [found] at tried
  | some node =>
    rw [found] at tried
    cases oneway with
    | false =>
      simp only [Bool.false_eq_true, if_false] at tried
      split_ifs at tried <;> cases tried <;> simp
    | true =>
      cases progress : nodeProgressAsyncNumber node with
      | none => simp [progress] at tried
      | some progressed =>
        rcases nodeProgressAsyncNumber_eq_some progress with ⟨_, rfl⟩
        simp only [progress, if_true] at tried
        have number := nextNumber_of_lookup found
        have advanced : nextNumber (nodes.insert addr
            { node with asyncNumber := node.asyncNumber + 1 }) addr = _ :=
          nextNumber_of_lookup (lookup_insert _)
        split_ifs at tried with _ valid <;> cases tried <;> simp [advanced, number, valid]

end NodeMap

/-! ## The side that calls -/

namespace RpcEndpoint

variable {ep next : RpcEndpoint} {after : Option (Transaction × Option IBinder)}

lemma nodes_release (ep : RpcEndpoint) (binder : IBinder) :
    (ep.release binder).nodes = ep.nodes := by
  unfold release
  split_ifs <;> rfl

lemma nodes_releaseTarget (ep : RpcEndpoint) (target : Option IBinder) :
    (ep.releaseTarget target).nodes = ep.nodes := by
  cases target with
  | none => rfl
  | some binder => exact nodes_release ep binder

lemma nodes_settle (ep : RpcEndpoint) (i : Nat) (tx : Transaction) (target : Option IBinder) :
    (ep.settle i tx target).nodes = ep.nodes := by
  unfold settle
  split_ifs
  · rfl
  · exact nodes_releaseTarget _ target

lemma keepsNumber_readBinder (ep : RpcEndpoint) (i : Nat) (other : RpcAddress) :
    ep.nodes.KeepsNumber (ep.readBinder i other).nodes addr := by
  unfold readBinder
  split
  · exact .refl
  · rename_i known
    rcases onBinderEntering_eq_known known with ⟨found, rfl⟩
    exact keepsNumber_insert (nextNumber_of_lookup found).symm
  · rename_i created
    rcases onBinderEntering_eq_created created with ⟨absent, _, rfl⟩
    exact keepsNumber_insert (by rw [nextNumber, absent]; rfl)

lemma keepsNumber_enterTarget (entered : ep.enterTarget i tx = .ok next) :
    ep.nodes.KeepsNumber next.nodes addr := by
  unfold enterTarget at entered
  split_ifs at entered
  · cases entered
    exact .refl
  · split at entered <;> cases entered
    · exact keepsNumber_of_lookup (by rw [nodes_settle])
    · rename_i known
      rcases onBinderEntering_eq_known known with ⟨found, rfl⟩
      exact keepsNumber_insert (nextNumber_of_lookup found).symm

lemma keepsNumber_giveBack (gave : ep.giveBack i other after conn = .ok (next, msgs)) :
    ep.nodes.KeepsNumber next.nodes addr ∧ msgs = [(conn, .decStrong other)] := by
  unfold giveBack at gave
  split at gave
  · cases gave
  rename_i nodes sent
  have keeps : ep.nodes.KeepsNumber nodes addr := keepsNumber_sendDecStrong sent
  cases after with
  | none =>
    cases gave
    exact ⟨keeps, rfl⟩
  | some resumed =>
    rcases resumed with ⟨tx, target⟩
    simp only [dispatch] at gave
    split at gave <;> cases gave
    split_ifs <;> exact ⟨keeps, rfl⟩

lemma keepsNumber_checkTurn (checked : ep.checkTurn i tx binder = .ok next) :
    ep.nodes.KeepsNumber next.nodes addr := by
  unfold checkTurn at checked
  split at checked <;> cases checked
  · exact keepsNumber_of_lookup (by rw [nodes_settle])
  · rename_i parks
    rcases onewayTurn_parked parks with ⟨node, found, rfl⟩
    exact keepsNumber_insert (nextNumber_of_lookup found).symm
  · exact .refl

lemma keepsNumber_finishTurn (ne : tx.address ≠ addr)
    (finished : ep.finishTurn i tx target = .ok next) :
    ep.nodes.KeepsNumber next.nodes addr := by
  unfold finishTurn at finished
  split at finished <;> cases finished
  rename_i ended
  have touched := (finishOneway_touched ended).1
  exact keepsNumber_of_lookup (by rw [nodes_releaseTarget]; exact touched.lookup ne)

/-- What a side does that calls the binder of an address: it finds memory for its oneway calls
there, and it executes no oneway transaction to the address itself. -/
def asCaller (endpoint : RpcEndpoint) (address : RpcAddress) : Action → Bool
  | .send index _ dataSize allocates =>
    match endpoint.tasks[index]? with
    | some (.compose ⟨some ⟨_, _, true, some other⟩, _⟩) =>
      other ≠ address || commandDataValid (headerSize + transactionSize + dataSize) allocates
    | _ => true
  | .proceed index _ =>
    match endpoint.tasks[index]? with
    | some (.finish transaction _) => transaction.address ≠ address
    | _ => true
  | _ => true

lemma keepsNumber_perform
    (elsewhere : ∀ tx target, task = .finish tx target → tx.address ≠ addr)
    (ran : ep.perform i conn task = .ok (next, msgs)) :
    ep.nodes.KeepsNumber next.nodes addr ∧ msgs.flatMap (·.2.tickets addr) = [] := by
  cases task with
  | compose _ | lost _ =>
    cases ran
    exact ⟨.refl, rfl⟩
  | enter tx =>
    rcases ok_of_map ran with ⟨entered, rfl⟩
    exact ⟨keepsNumber_enterTarget entered, rfl⟩
  | read other =>
    cases ran
    exact ⟨keepsNumber_readBinder ep i other, rfl⟩
  | giveBack other after =>
    rcases keepsNumber_giveBack ran with ⟨keeps, rfl⟩
    exact ⟨keeps, rfl⟩
  | check tx binder =>
    rcases ok_of_map ran with ⟨checked, rfl⟩
    exact ⟨keepsNumber_checkTurn checked, rfl⟩
  | running tx target =>
    cases ran
    exact ⟨keepsNumber_of_lookup (by rw [nodes_settle]), rfl⟩
  | finish tx target =>
    rcases ok_of_map ran with ⟨finished, rfl⟩
    exact ⟨keepsNumber_finishTurn (elsewhere tx target rfl) finished, rfl⟩

/-- The numbers that a step sends to the address go on from those that were sent before. -/
def GoesOn (endpoint next : RpcEndpoint) (messages : List (Nat × Message))
    (address : RpcAddress) : Prop :=
  (endpoint.nodes.lookup address ≠ none → next.nodes.lookup address ≠ none) →
    range (endpoint.nodes.nextNumber address) ++ messages.flatMap (·.2.tickets address) =
      range (next.nodes.nextNumber address)

lemma goesOn_of_keeps (keeps : ep.nodes.KeepsNumber next.nodes addr)
    (mute : msgs.flatMap (·.2.tickets addr) = []) : ep.GoesOn next msgs addr := by
  intro kept
  rw [mute, append_nil, keeps kept]

lemma goesOn_write (wrote : ep.write i outgoing binder random = .ok (next, msgs)) :
    ep.GoesOn next msgs addr := by
  unfold write at wrote
  split_ifs at wrote
  · cases wrote
    exact goesOn_of_keeps .refl rfl
  · split at wrote <;> cases wrote
    · exact goesOn_of_keeps .refl rfl
    · rename_i left
      exact goesOn_of_keeps (keepsNumber_onBinderLeaving left) rfl

lemma goesOn_transact (sent : ep.transact i call bs random = .ok (next, msgs)) :
    ep.GoesOn next msgs addr := by
  unfold transact at sent
  split_ifs at sent
  · cases sent
    exact goesOn_of_keeps .refl rfl
  · split at sent <;> cases sent
    · exact goesOn_of_keeps .refl rfl
    · rename_i left
      exact goesOn_of_keeps (keepsNumber_onBinderLeaving left) rfl

lemma goesOn_sendCall (made : addr.Created) (valid : call.oneway = true → other = addr →
      commandDataValid (headerSize + transactionSize + size) allocates = true)
    (sent : ep.sendCall i call other bs conn size allocates = .ok (next, msgs)) :
    ep.GoesOn next msgs addr := by
  unfold sendCall at sent
  split at sent <;> cases sent
  all_goals
    rename_i tried
    have touched := touched_transactAddress tried
    by_cases same : other = addr
  · subst same
    rcases transactAddress_cases made tried with ⟨_, rfl, _⟩ | ⟨oneway, _, fails⟩
    · exact goesOn_of_keeps .refl rfl
    · rw [if_pos (valid oneway rfl)] at fails
      cases fails
  · exact goesOn_of_keeps (keepsNumber_of_lookup (touched.lookup same)) rfl
  · subst same
    rcases transactAddress_cases made tried with ⟨_, rfl, sync⟩ | ⟨oneway, number, goes⟩
    · exact goesOn_of_keeps .refl (by simp [Message.tickets, ticket_of_sync (sync _ rfl)])
    · rw [if_pos (valid oneway rfl), Except.ok.injEq] at goes
      rename_i tx nodes
      intro _
      change _ = range (nodes.nextNumber other)
      rw [number, range_succ, goes]
      simp [Message.tickets, Transaction.ticket]
  · have address := (transactAddress_eq_ok tried).2 _ rfl
    refine goesOn_of_keeps (keepsNumber_of_lookup (touched.lookup same)) ?_
    simp [Message.tickets, ticket_of_ne (address ▸ same)]

lemma goesOn_act (made : addr.Created) (suits : ep.asCaller addr action = true)
    (acted : ep.act action = .ok (next, msgs)) : ep.GoesOn next msgs addr := by
  cases action with
  | hold obj | openCall proxy code oneway | openSpecial code =>
    cases acted
    exact goesOn_of_keeps .refl rfl
  | release binder =>
    cases acted
    exact goesOn_of_keeps (keepsNumber_of_lookup (by rw [nodes_release])) rfl
  | write i binder random =>
    simp only [act] at acted
    split at acted
    · exact goesOn_write acted
    · exact goesOn_write acted
    · cases acted
      exact goesOn_of_keeps .refl rfl
  | transact i random =>
    simp only [act] at acted
    split at acted
    · exact goesOn_transact acted
    · cases acted
      exact goesOn_of_keeps .refl rfl
  | send i conn size allocates =>
    simp only [act] at acted
    split at acted
    · unfold sendReply at acted
      split_ifs at acted <;> cases acted <;> exact goesOn_of_keeps .refl rfl
    · rename_i target code oneway other bs hit
      refine goesOn_sendCall made (fun ow same => ?_) acted
      cases ow
      simpa [asCaller, hit, same] using suits
    · cases acted
      exact goesOn_of_keeps .refl rfl
  | proceed i conn =>
    simp only [act] at acted
    split at acted
    · rename_i task hit
      have elsewhere : ∀ tx target, task = .finish tx target → tx.address ≠ addr := by
        intro tx target same
        simpa [asCaller, hit, same] using suits
      rcases keepsNumber_perform elsewhere acted with ⟨keeps, mute⟩
      exact goesOn_of_keeps keeps mute
    · cases acted
      exact goesOn_of_keeps .refl rfl

lemma keepsNumber_receive (got : ep.receive message = .ok next) :
    ep.nodes.KeepsNumber next.nodes addr := by
  cases message with
  | transact tx bs | reply bs =>
    cases got
    exact .refl
  | decStrong other =>
    simp only [receive] at got
    split at got <;> cases got
    rename_i nodes processed
    have keeps : ep.nodes.KeepsNumber nodes addr := keepsNumber_processDecStrong processed
    split_ifs <;> exact keeps

end RpcEndpoint

/-! ## Both sides -/

namespace RpcSession

variable {session : RpcSession}

lemma isOver_halt (session : RpcSession) (side : Bool) (reason : Halt) :
    (session.halt side reason).isOver = true := by
  cases side <;> simp [isOver, halt]

/-- A session, with the oneway transactions to an address that its owner has read. -/
structure Link where
  session : RpcSession
  delivered : List Nat

namespace Link

section

variable (owner : Bool) (address : RpcAddress) (link : Link)

def arriving : Label → List Nat
  | .act _ _ => []
  | .deliver side index =>
    if side = owner ∧ link.session.isOver = false then
      (firstOfConnection (link.session.wire !side) index).toList.flatMap (·.tickets address)
    else []

def step (label : Label) : Link :=
  ⟨link.session.step label, link.delivered ++ link.arriving owner address label⟩

def onWire : List Nat := (link.session.wire !owner).flatMap (·.2.tickets address)

/-- The numbers of the calls that returned OK. -/
def sent : List Nat := link.delivered ++ link.onWire owner address

def service : Service := ⟨link.session.endpoint owner, link.delivered, none⟩

/-- The owner has room for what it reads, and keeps its node. -/
def HasRoom (message : Message) : Prop :=
  (∀ number ∈ message.tickets address, number < maxAsyncNumber ∧
    ((link.session.endpoint owner).tickets address link.delivered).active.length + 1 <
      onewayCallTerminateLevel) ∧
  (link.session.endpoint owner).StaysKnown address message

def Suits : Label → Prop
  | .act side action =>
    side = (!owner) → (link.session.endpoint side).asCaller address action = true
  | .deliver side index => side = owner →
    ∀ message ∈ firstOfConnection (link.session.wire !side) index,
      link.HasRoom owner address message

/-- The session stays alive, the caller keeps its node and finds memory for its calls, and the
owner has room for them. -/
def Orderly (label : Label) : Prop :=
  (link.session.step label).isOver = false ∧
  (link.session.knows (!owner) address = true →
    (link.session.step label).knows (!owner) address = true) ∧
  link.Suits owner address label

/-- The owner has made its node, and no oneway call has been made on it. -/
structure Opened (object : Nat) : Prop where
  ready : (link.service owner).Ready address object
  unsent : link.onWire owner address = []
  first : (link.session.endpoint !owner).nodes.nextNumber address = 0

end

structure Linked (owner : Bool) (address : RpcAddress) (object : Nat) (link : Link) : Prop where
  served : (link.session.endpoint owner).InOrderAt address object link.delivered
  numbers : (link.sent owner address).Perm
    (range ((link.session.endpoint !owner).nodes.nextNumber address))

variable {owner : Bool} {address : RpcAddress} {link : Link}

instance (message : Message) : Decidable (link.HasRoom owner address message) :=
  inferInstanceAs (Decidable (_ ∧ _))

instance : (label : Label) → Decidable (link.Suits owner address label)
  | .act _ _ => inferInstanceAs (Decidable (_ → _))
  | .deliver _ _ => inferInstanceAs (Decidable (_ → _))

instance (label : Label) : Decidable (link.Orderly owner address label) :=
  inferInstanceAs (Decidable (_ ∧ _ ∧ _))

lemma Opened.linked (opened : link.Opened owner address obj) : link.Linked owner address obj where
  served := opened.ready.inOrder
  numbers := by
    have none : link.delivered = [] := opened.ready.delivered
    rw [sent, none, opened.unsent, opened.first]
    exact Perm.nil

lemma perm_read (link : Link) (address : RpcAddress)
    (hit : (link.session.wire !owner)[index]? = some (conn, message)) :
    (link.sent owner address).Perm (link.delivered ++ message.tickets address ++
      ((link.session.wire !owner).eraseIdx index).flatMap (·.2.tickets address)) := by
  rcases List.getElem?_eq_some_iff.1 hit with ⟨bound, same⟩
  have together := getElem_cons_eraseIdx_perm bound
  rw [same] at together
  have all := (together.flatMap_right (·.2.tickets address)).append_left link.delivered
  simpa [sent, onWire] using all.symm

section

variable (linked : link.Linked owner address obj)
include linked

lemma Linked.act (suits : link.Suits owner address (.act side action))
    (kept : link.session.knows (!owner) address = true →
      (link.session.advance side outcome).knows (!owner) address = true)
    (acted : (link.session.endpoint side).act action = .ok outcome) :
    Linked owner address obj ⟨link.session.advance side outcome, link.delivered⟩ := by
  by_cases own : side = owner
  · subst own
    refine ⟨?_, by simpa [advance, sent, onWire] using linked.numbers⟩
    rcases linked.served with ⟨node, order⟩
    simpa [advance] using order.act acted
  · have caller : side = !owner := Bool.eq_not_of_ne own
    subst caller
    refine ⟨by simpa [advance] using linked.served, ?_⟩
    rcases linked.served with ⟨node, order⟩
    have goesOn := goesOn_act order.created (suits rfl) acted
      (by simpa [knows, advance, Option.isSome_iff_ne_none] using kept)
    simp only [advance, Function.update_self, sent, onWire, flatMap_append, ← append_assoc]
    rw [← goesOn]
    exact linked.numbers.append_right _

lemma Linked.read {next : RpcEndpoint} (suits : link.Suits owner address (.deliver side index))
    (kept : link.session.knows (!owner) address = true →
      (link.session.consume side index next).knows (!owner) address = true)
    (first : firstOfConnection (link.session.wire !side) index = some message)
    (got : (link.session.endpoint side).receive message = .ok next) :
    Linked owner address obj ⟨link.session.consume side index next,
      link.delivered ++ if side = owner then message.tickets address else []⟩ := by
  by_cases own : side = owner
  · subst own
    rw [if_pos rfl]
    rcases mem_of_firstOfConnection first with ⟨conn, hit⟩
    have apart := perm_read link address hit
    rcases linked.served with ⟨node, order⟩
    have room := suits rfl message first
    have new : ∀ number ∈ message.tickets address, number ∉ link.delivered := by
      have distinct := apart.nodup_iff.1 (linked.numbers.nodup_iff.2 nodup_range)
      intro number mem delivered
      exact (nodup_append.1 (nodup_append.1 distinct).1).2.2 number delivered number mem rfl
    have arrives : (link.session.endpoint side).Arrives address link.delivered message :=
      fun number mem => ⟨new number mem, room.1 number mem⟩
    constructor
    · simpa [consume] using (order.receive arrives room.2).1 next got
    · simpa [consume, sent, onWire] using apart.symm.trans linked.numbers
  · have caller : side = !owner := Bool.eq_not_of_ne own
    subst caller
    rw [if_neg own, append_nil]
    have same := keepsNumber_receive got
      (by simpa [knows, consume, Option.isSome_iff_ne_none] using kept)
    refine ⟨by simpa [consume] using linked.served, ?_⟩
    simpa [consume, sent, onWire, same] using linked.numbers

lemma Linked.step (orderly : link.Orderly owner address label) :
    (link.step owner address label).Linked owner address obj := by
  rcases orderly with ⟨alive, kept, suits⟩
  have live : link.session.isOver = false := by
    by_contra ended
    unfold RpcSession.step at alive
    rw [if_pos (by simpa using ended)] at alive
    exact ended alive
  unfold Link.step
  unfold RpcSession.step at alive kept ⊢
  rw [if_neg (by simp [live])] at alive kept ⊢
  cases label with
  | act side action =>
    cases acted : (link.session.endpoint side).act action with
    | error reason => simp [acted, isOver_halt] at alive
    | ok outcome =>
      simp only [acted, arriving, append_nil] at kept ⊢
      exact linked.act suits kept acted
  | deliver side index =>
    cases first : firstOfConnection (link.session.wire !side) index with
    | none => simpa [arriving, first] using linked
    | some message =>
      cases got : (link.session.endpoint side).receive message with
      | error reason => simp [first, got, isOver_halt] at alive
      | ok next =>
        have read : link.arriving owner address (.deliver side index) =
            if side = owner then message.tickets address else [] := by
          simp [arriving, live, first]
        simp only [first, got, read] at kept ⊢
        exact linked.read suits kept first got

end

/-- In every run whose steps are orderly, the oneway calls that returned OK have the numbers from 0
on, without a gap, and when all of them were read and no worker has one, all were executed. -/
theorem oneway_calls_executed {object : Nat} (opened : link.Opened owner address object)
    (labels : List Label)
    (along : Machine.Along (step owner address) (Orderly owner address) link labels) :
    let after := Machine.run (step owner address) link labels
    (after.sent owner address).Perm (range (after.sent owner address).length) ∧
      (after.onWire owner address = [] → (after.service owner).withWorkers address = [] →
        (after.service owner).executed address = range (after.sent owner address).length ∧
        (after.service owner).pending address = []) := by
  intro after
  have linked : Linked owner address object after :=
    Machine.run_invariant (fun _ _ old ok => Linked.step old ok) opened.linked along
  have numbers := linked.numbers
  have length := numbers.length_eq
  rw [length_range] at length
  rw [← length] at numbers
  refine ⟨numbers, fun allRead free => ?_⟩
  have delivered : after.delivered.Perm (range (after.sent owner address).length) := by
    simpa [sent, allRead] using numbers
  have inOrder : Service.InOrder address object (after.service owner) := linked.served
  exact inOrder.complete free delivered

end Link

def rootKnown : List Label :=
  .act true (.hold 0) :: askRoot 0 ++ [.deliver false 0, .act false (.proceed 0 0)]

lemma rootKnown_opened : Link.Opened true rootAddress ⟨run rootKnown, []⟩ 0 := by
  have entries : ∀ entry ∈ ((run rootKnown).endpoint true).nodes.entries,
      entry.2.asyncTodo.items.length = 0 ∧ entry.2.binder ≠ .proxy rootAddress := by
    decide +kernel
  have nodes : ∀ {other node}, ((run rootKnown).endpoint true).nodes.lookup other = some node →
      node.asyncTodo.items = [] ∧ node.binder ≠ .proxy rootAddress := fun hit =>
    (entries _ (mem_lookup_iff.1 hit)).imp_left length_eq_zero_iff.1
  have known : (((run rootKnown).endpoint true).nodes.lookup rootAddress).isSome = true := by
    decide +kernel
  rcases Option.isSome_iff_exists.1 known with ⟨node, found⟩
  have shape : ∀ node ∈ ((run rootKnown).endpoint true).nodes.lookup rootAddress,
      (node.binder = .localObject 0 ∧ node.sentRef = true ∧ 0 < node.timesSent) ∧
        node.asyncNumber = 0 := by decide +kernel
  have idle : ((run rootKnown).endpoint true).tasks = [] := by decide +kernel
  rcases shape node found with ⟨⟨binder, sentRef, sent⟩, first⟩
  refine ⟨⟨⟨node, ⟨RpcAddress.created_random true 0, found, ⟨binder, sentRef, sent⟩, ?_, ?_,
    by decide +kernel, ?_, ?_⟩, first, (nodes found).1⟩, ?_, by decide +kernel, rfl⟩,
    by decide +kernel, by decide +kernel⟩
  · intro other node hit todo mem
    rw [(nodes hit).1] at mem
    cases mem
  · intro other node hit
    exact (nodes hit).2
  · simp [Link.service, idle]
  · simp [Link.service, idle, ReferenceLedger.tally]
  · simp [Link.service, idle]

/-- The client makes two oneway calls over two connections, and the server reads the second one
first. -/
def swapped : List Label :=
  let call := fun connection => [Label.act false (.openCall rootAddress 1 true),
    .act false (.transact 0 fun _ => 0), .act false (.send 0 connection 8 true)]
  let proceed := Label.act true (.proceed 0 0)
  call 0 ++ call 1 ++ [.deliver true 1, proceed, proceed, proceed, .deliver true 0] ++
    replicate 8 proceed

theorem oneway_calls_executed_swapped :
    let after := Machine.run (Link.step true rootAddress) ⟨run rootKnown, []⟩ swapped
    after.delivered = [1, 0] ∧
      (after.service true).executed rootAddress = range 2 ∧
      (after.service true).pending rootAddress = [] := by
  refine ⟨by decide +kernel, ?_⟩
  have executed := (Link.oneway_calls_executed rootKnown_opened swapped
    (by decide +kernel)).2 (by decide +kernel) (by decide +kernel)
  have length : ((Machine.run (Link.step true rootAddress) ⟨run rootKnown, []⟩ swapped).sent true
      rootAddress).length = 2 := by decide +kernel
  rwa [length] at executed

/-- A oneway call that is too large, and then one that is not. The server reads
everything. -/
def largeFirst : List Label :=
  rootKnown ++ [.act false (.openCall rootAddress 1 true), .act false (.transact 0 fun _ => 0),
      .act false (.send 0 0 99913 true),
      .act false (.openCall rootAddress 1 true), .act false (.transact 1 fun _ => 0),
      .act false (.send 1 0 8 true),
      .deliver true 0, .act true (.proceed 0 0), .act true (.proceed 0 0),
      .act true (.proceed 0 0), .deliver false 0]

/-- The call that was sent has number 1, and it waits for number 0 for ever: nothing is under
way, and the server has nothing to do. -/
theorem largeFirst_blocks_next :
    let session := run largeFirst
    session.isOver = false ∧ session.wire true = [] ∧ session.wire false = [] ∧
      (session.endpoint true).tasks = [] ∧
      ((session.endpoint true).log.filter (·.oneway)) = [] ∧
      (((session.endpoint true).nodes.lookup rootAddress).map fun node =>
        (node.asyncNumber, node.asyncTodo.items.map (·.asyncNumber))) = some (0, [1]) := by
  decide +kernel

end RpcSession

end NativeLibs.Binder
