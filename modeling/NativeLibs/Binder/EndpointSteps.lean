import NativeLibs.Binder.EndpointBooks

/-! # What the steps of an endpoint do to its books

Every action of an endpoint is one step of the books, and so is reading a command. -/

namespace NativeLibs.Binder.RpcEndpoint

open ReferenceLedger (tally tally_append tally_cons tally_nil)
open Binder.Task (leaving arriving owed)
open List
open Books.Entry (none leave send enter create refuse pay)
open NodeMap Message Steps

variable {ep next : RpcEndpoint} {i : Nat} {task : Task} {nodes : NodeMap} {tasks : List Task}

/-! ## Steps at one address -/

/-- Nodes and references are as before, but for those of one address. -/
structure Touches (endpoint middle : RpcEndpoint) (address : RpcAddress) : Prop where
  isServer : middle.isServer = endpoint.isServer
  tasks : middle.tasks = endpoint.tasks
  sound : middle.Sound
  sent : ∀ other, other ≠ address → middle.nodes.timesSent other = endpoint.nodes.timesSent other
  recd : ∀ other, other ≠ address → middle.nodes.timesRecd other = endpoint.nodes.timesRecd other
  held : ∀ other, other ≠ address → middle.strong (.proxy other) = endpoint.strong (.proxy other)

lemma Touches.steps (touch : ep.Touches mid addr)
    (found : ep.tasks[i]? = some task) (made : ∀ later ∈ tasks, later.Created)
    (mentioned : ∀ other, other ≠ addr → tally leaving tasks other =
        task.leaving.count other ∧ tally arriving tasks other = task.arriving.count other ∧
      tally owed tasks other = task.owed.count other) (sends : ∀ msg ∈ msgs, msg.2.references = [] ∧
      ∀ other, other ≠ addr → other ∉ msg.2.payments)
    (e : Books.Entry (ep.owns addr) (ep.books addr) ((mid.become i tasks).books addr) 0
      (tally (·.2.payments) msgs addr)) :
    ep.Steps (mid.become i tasks) msgs where
  isServer := touch.isServer
  sound := touch.sound.become i made
  created := by
    intro msg mem
    simp [sends msg mem]
  entries := by
    intro other
    have references : tally (·.2.references) msgs other = 0 :=
      ReferenceLedger.tally_of_silent (fun msg mem => (sends msg mem).1) other
    rw [references]
    by_cases same : other = addr
    · subst same
      exact e
    · have payments : tally (·.2.payments) msgs other = 0 := by
        simp only [tally, count_eq_zero, mem_flatMap, not_exists, not_and]
        intro msg mem
        exact (sends msg mem).2 other same
      rcases mentioned other same with ⟨leaving, arriving, owed⟩
      have unchanged : (mid.become i tasks).books other = ep.books other := by
        rw [books_become (touch.tasks ▸ found), leaving, arriving, owed]
        simp only [books, touch.tasks, touch.sent other same, touch.recd other same,
          touch.held other same, Nat.sub_add_cancel (count_le_tally found _ other)]
      rw [payments, unchanged]
      exact none _ _

lemma touches_withNodes {mid : RpcEndpoint} (isServer : mid.isServer = ep.isServer)
    (tasks : mid.tasks = ep.tasks) (middleSound : mid.Sound)
    (held : ∀ other, other ≠ addr → mid.strong (.proxy other) = ep.strong (.proxy other))
    (nodesSound : nodes.Sound ep.isServer) (counts : ep.nodes.Recounted nodes addr sent recd) :
    ep.Touches { mid with nodes := nodes } addr where
  isServer := isServer
  tasks := tasks
  sound := middleSound.withNodes (isServer ▸ nodesSound)
  sent := by
    intro other ne
    simp only [counts.sent, Function.update_of_ne ne]
  recd := by
    intro other ne
    simp only [counts.recd, Function.update_of_ne ne]
  held := held

/-! ## Sending -/

lemma steps_leave (sound : ep.Sound) (found : ep.tasks[i]? = some task) (held : ep.strong binder ≠ 0)
    (left : ep.nodes.onBinderLeaving ep.isServer binder random = .ok (.ok (address, nodes)))
    (leaving : later.leaving.Perm (address :: task.leaving))
    (arriving : later.arriving = task.arriving) (owed : later.owed = task.owed) :
    ep.Steps ({ ep with nodes := nodes }.become i [later]) [] := by
  rcases onBinderLeaving_spec sound.nodes left with ⟨after, counts, made, own⟩
  have touch : ep.Touches { ep with nodes := nodes } address :=
    touches_withNodes rfl rfl sound (fun _ _ => rfl) after counts
  have found' := touch.tasks.symm ▸ found
  apply touch.steps found
  · intro task' mem
    rw [mem_singleton.1 mem]
    intro other mentioned
    rw [mem_append, leaving.mem_iff, arriving, mem_cons] at mentioned
    have old := sound.created_of_found found other
    rw [mem_append] at old
    rcases mentioned with (same | pre) | pre
    · rw [same]
      exact made
    · exact old (.inl pre)
    · exact old (.inr pre)
  · intro other ne
    simp [leaving.count_eq, arriving, owed, count_cons_of_ne ne.symm]
  · simp
  · refine leave ?_ ?_ ⟨rfl, rfl⟩
    · rcases own with own | proxy
      · exact .inl (by simp [owns, own])
      · exact .inr (by rw [proxy] at held; exact Nat.pos_of_ne_zero held)
    · have kept := count_le_tally found Task.leaving address
      rw [books_become found']
      simp only [tally_cons, tally_nil, leaving.count_eq, count_cons_self, arriving, owed]
      ext
      · simp [books, counts.sent]
      · simp [books, counts.recd]
      · exact Nat.sub_add_cancel (count_le_tally found Task.owed address)
      · rfl
      · simp only [books]
        omega
      · exact Nat.sub_add_cancel (count_le_tally found Task.arriving address)

lemma steps_write (sound : ep.Sound) (found : ep.tasks[i]? = some (.compose outgoing))
    (unaddressed : (Task.compose outgoing).leaving = outgoing.binders)
    (same : ∀ bs, (Task.compose { outgoing with binders := bs }).leaving = bs)
    (wrote : ep.write i outgoing binder random = .ok (next, msgs)) :
    ep.Steps next msgs := by
  unfold write at wrote
  split_ifs at wrote with unheld
  · cases wrote
    exact .stutter sound
  · split at wrote
    · simp at wrote
    · cases wrote
      exact .stutter sound
    · rename_i addr nodes left
      cases wrote
      apply steps_leave sound found unheld left
      · rw [same, unaddressed]
        exact perm_append_singleton addr outgoing.binders
      · rfl
      · rfl

lemma sameBooks_lose (sound : ep.Sound) (found : ep.tasks[i]? = some task)
    (later : Task) (leaving : later.leaving = task.leaving)
    (arriving : later.arriving = task.arriving) (owed : later.owed = task.owed) :
    ep.SameBooks (ep.become i [later]) where
  isServer := rfl
  sound := by
    apply sound.become
    intro task' mem
    rw [mem_singleton.1 mem, Task.Created, leaving, arriving]
    exact sound.created_of_found found
  books := by
    funext addr
    rw [books_become found]
    simp only [tally_cons, tally_nil, leaving, arriving, owed]
    ext
    · rfl
    · rfl
    · exact Nat.sub_add_cancel (count_le_tally found Task.owed addr)
    · rfl
    · exact Nat.sub_add_cancel (count_le_tally found Task.leaving addr)
    · exact Nat.sub_add_cancel (count_le_tally found Task.arriving addr)

lemma callAddresses_of_created (made : addr.Created) (bs : List RpcAddress) :
    callAddresses addr bs = addr :: bs := by
  simp [callAddresses, made.nonzero]

section

variable (sound : ep.Sound)
include sound

lemma steps_transact (found : ep.tasks[i]? = some (.compose ⟨some ⟨goal, code, ow, none⟩, bs⟩))
    (sent : ep.transact i ⟨goal, code, ow, none⟩ bs random =
      .ok (next, msgs)) : ep.Steps next msgs := by
  unfold transact at sent
  split_ifs at sent with unheld
  · cases sent
    exact .stutter sound
  · split at sent
    · simp at sent
    · cases sent
      exact (sameBooks_lose sound found (.lost _) rfl rfl rfl).steps
    · rename_i addr nodes left
      cases sent
      have made := (onBinderLeaving_spec sound.nodes left).2.2.1
      apply steps_leave sound found unheld left
      · simp only [leaving, callAddresses_of_created made]
        exact .refl _
      · rfl
      · rfl

lemma steps_send (found : ep.tasks[i]? = some task) (conn : Nat)
    (carried : msg.references = task.leaving) (nothing : msg.payments = [])
    (arriving : task.arriving = []) (owed : task.owed = []) :
    ep.Steps (ep.become i []) [(conn, msg)] where
  isServer := rfl
  sound := sound.become i (by simp)
  created := by
    intro sent mem addr mentioned
    rw [mem_singleton.1 mem, carried] at mentioned
    exact sound.created_of_found found addr (mem_append_left _ mentioned)
  entries := by
    intro addr
    have kept := count_le_tally found leaving addr
    simp only [tally_cons, tally_nil, carried, nothing]
    rw [books_become found, arriving, owed]
    apply send
    · rfl
    · simp only [books, tally_nil]
      omega
    · rfl

lemma steps_sendCall (found : ep.tasks[i]? = some (.compose ⟨some call, bs⟩))
    (addressed : call.address = some addr)
    (sent : ep.sendCall i call addr bs conn dataSize allocates =
      .ok (next, msgs)) : ep.Steps next msgs := by
  rcases call with ⟨goal, code, ow, known⟩
  simp only at addressed
  subst addressed
  unfold sendCall at sent
  split at sent
  · simp at sent
  all_goals
    rename_i nodes tx
    rcases transactAddress_spec sound.nodes tx with
      ⟨after, sentSame, recdSame, carries⟩
    have renumbered := sameBooks_withNodes sound after sentSame recdSame
    cases sent
    apply renumbered.andThen
  · exact (sameBooks_lose renumbered.sound found (.lost _) rfl rfl rfl).steps
  · apply steps_send renumbered.sound found conn _ rfl rfl rfl
    simp only [references, carries _ rfl, leaving]

lemma steps_sendReply (found : ep.tasks[i]? = some (.compose ⟨none, bs⟩))
    (sent : ep.sendReply i bs conn dataSize allocates = .ok (next, msgs)) : ep.Steps next msgs := by
  unfold sendReply at sent
  split_ifs at sent with large valid
  · cases sent
    exact steps_send sound found conn rfl rfl rfl rfl
  · cases sent
    exact (sameBooks_lose sound found (.lost _) rfl rfl rfl).steps

end

/-! ## Entering -/

lemma promote_strong (ep : RpcEndpoint) (node : BinderNode) (binder : IBinder) :
    (ep.promote node).2.strong binder =
      ep.strong binder + if binder = node.binder ∧ ep.promotes node then 1 else 0 := by
  unfold promote
  by_cases alive : ep.promotes node = true
  · by_cases same : binder = node.binder <;> simp [alive, incStrong, same]
  · simp [alive]

lemma promote_frame (ep : RpcEndpoint) (node : BinderNode) :
    (ep.promote node).2.isServer = ep.isServer ∧ (ep.promote node).2.tasks = ep.tasks := by
  unfold promote
  split_ifs <;> exact ⟨rfl, rfl⟩

section

variable (sound : ep.Sound)
include sound

lemma promote_held (at_address : ep.nodes.lookup addr = some node) (other : RpcAddress) :
    (ep.promote node).2.strong (.proxy other) = ep.strong (.proxy other) +
      if other = addr ∧ (ep.books addr).handled (ep.owns addr) then 1 else 0 := by
  have nodeSound := sound.nodes addr node at_address
  rw [promote_strong]
  congr 1
  apply if_congr _ rfl rfl
  by_cases own : addr.isForServer = ep.isServer
  · rcases nodeSound.own own with ⟨obj, binder⟩
    simp [binder, Books.handled, owns, own]
  · have stranger : ep.owns addr = false := by simpa [owns] using own
    rw [nodeSound.foreign own, IBinder.proxy.injEq]
    apply and_congr_right
    intro same
    simp [promotes, nodeSound.sentRef, nodeSound.foreign own, Books.handled, stranger, books,
      timesSent_of_lookup at_address]

lemma Sound.promote (at_address : ep.nodes.lookup addr = some node) :
    (ep.promote node).2.Sound := by
  unfold RpcEndpoint.promote
  split_ifs
  · apply sound.incStrong
    intro other proxy own
    have nodeSound := sound.nodes addr node at_address
    by_cases mine : addr.isForServer = ep.isServer
    · rcases nodeSound.own mine with ⟨obj, binder⟩
      simp [binder] at proxy
    · rw [nodeSound.foreign mine, IBinder.proxy.injEq] at proxy
      exact mine (proxy ▸ own)
  · exact sound

variable (found : ep.tasks[i]? = some task)
include found

lemma steps_enter_known (enters : task.Enters address)
    (ent : ep.nodes.onBinderEntering ep.isServer address = .known node nodes)
    (after : Option (Transaction × Option IBinder)) : ep.Steps
      ({ (ep.promote node).2 with nodes := nodes }.become i [.giveBack address after]) [] := by
  rcases onBinderEntering_known sound.nodes ent with ⟨at_address, nodesSound, counts⟩
  rcases promote_frame ep node with ⟨isServer, tasks⟩
  have strong := promote_held sound at_address
  have arrives := count_le_tally found Task.arriving address
  rw [enters.arriving, count_singleton_self] at arrives
  have touch : ep.Touches { (ep.promote node).2 with nodes := nodes } address := by
    refine touches_withNodes isServer tasks (sound.promote at_address) ?_ nodesSound counts
    intro other ne
    rw [strong]
    simp [ne]
  have found' := touch.tasks.symm ▸ found
  apply touch.steps found
  · simp [Task.Created, Task.leaving, Task.arriving]
  · intro other ne
    rcases enters.count_other ne with ⟨leaving, arriving, owed⟩
    rw [leaving, arriving, owed]
    simp [Task.leaving, Task.arriving, Task.owed, ne.symm]
  · simp
  · refine enter arrives ?_ ?_ ⟨rfl, rfl⟩
    · have counted := (sound.nodes address node at_address).counted
      simp only [books, Books.known, timesSent_of_lookup at_address,
        timesRecd_of_lookup at_address, Bool.or_eq_true, decide_eq_true_eq]
      omega
    · rw [books_become found', enters.leaving, enters.owed, enters.arriving]
      ext
      · simp [books, counts.sent]
      · simp [books, counts.recd]
      · simp [books, tasks, Task.owed]
      · have here := strong address
        simp only [true_and] at here
        exact here
      · simp [books, tasks, Task.leaving]
      · simp [books, tasks, Task.arriving]

lemma steps_enter_created (enters : task.Enters address)
    (ent : ep.nodes.onBinderEntering ep.isServer address = .created nodes) :
    ep.Steps ({ ep.incStrong (.proxy address) with nodes := nodes }.become i []) [] := by
  have made : address.Created := by
    apply sound.created_of_found found
    simp [enters.arriving]
  rcases onBinderEntering_created sound.nodes made ent with
    ⟨miss, foreign, nodesSound, counts⟩
  have arrives := count_le_tally found arriving address
  rw [enters.arriving, count_singleton_self] at arrives
  have touch : ep.Touches { ep.incStrong (.proxy address) with nodes := nodes }
      address := by
    have incremented : (ep.incStrong (.proxy address)).Sound := by
      apply sound.incStrong
      intro other proxy
      rw [IBinder.proxy.injEq] at proxy
      exact proxy ▸ foreign
    refine touches_withNodes rfl rfl incremented ?_ nodesSound counts
    intro other ne
    simp [incStrong, ne]
  have found' := touch.tasks.symm ▸ found
  apply touch.steps found
  · simp
  · intro other ne
    simp [enters.count_other ne]
  · simp
  · have uns : ep.nodes.timesSent address = 0 := by simp [timesSent, miss]
    have unrecv : ep.nodes.timesRecd address = 0 := by simp [timesRecd, miss]
    refine create arrives ?_ ?_ ⟨rfl, rfl⟩
    · simp [books, Books.known, uns, unrecv]
    · rw [books_become found', enters.leaving, enters.owed, enters.arriving]
      ext
      · simp [books, counts.sent, uns]
      · simp [books, counts.recd, unrecv]
      · simp [books, incStrong]
      · simp [books, incStrong]
      · simp [books, incStrong]
      · simp [books, incStrong]

lemma steps_refuse (enters : task.Enters address)
    (ent : ep.nodes.onBinderEntering ep.isServer address = .refused)
    (mute : ∀ later ∈ tasks, later.Silent) : ep.Steps (ep.become i tasks) [] := by
  have made : address.Created := by
    apply sound.created_of_found found
    simp [enters.arriving]
  rcases onBinderEntering_refused made ent with ⟨miss, own⟩
  have arrives := count_le_tally found arriving address
  rw [enters.arriving, count_singleton_self] at arrives
  have touch : ep.Touches ep address :=
    ⟨rfl, rfl, sound, fun _ _ => rfl, fun _ _ => rfl, fun _ _ => rfl⟩
  apply touch.steps found (created_of_silent mute)
  · intro other ne
    simp [tally_of_silent mute, enters.count_other ne]
  · simp
  · refine refuse arrives ?_ ?_
    · simp [owns, own]
    · simp [books, Books.known, timesSent, timesRecd, miss]

/-! ## Processing -/

lemma steps_pay (leaving : task.leaving = []) (arriving : task.arriving = [])
    (owed : task.owed = [address]) (sent : ep.nodes.sendDecStrong address = .ok nodes)
    (conn : Nat) (mute : ∀ later ∈ tasks, later.Silent) :
    ep.Steps ({ ep with nodes := nodes }.become i tasks) [(conn, .decStrong address)] := by
  rcases sendDecStrong_spec sound.nodes sent with ⟨nodesSound, _, counts⟩
  have owes := count_le_tally found Task.owed address
  rw [owed, count_singleton_self] at owes
  have touch : ep.Touches { ep with nodes := nodes } address :=
    touches_withNodes rfl rfl sound (fun _ _ => rfl) nodesSound counts
  have found' := touch.tasks.symm ▸ found
  rcases tally_of_silent mute address with ⟨noneLeave, noneArrive, noneOwe⟩
  apply touch.steps found (created_of_silent mute)
  · intro other ne
    simp [tally_of_silent mute, leaving, arriving, owed, ne.symm]
  · simp [references, payments]
  · refine pay owes ?_ rfl (by simp [payments])
    rw [books_become found', leaving, arriving, owed, noneLeave, noneArrive, noneOwe]
    ext
    · simp [books, counts.sent]
    · simp [books, counts.recd]
    · simp [books]
    · rfl
    · rfl
    · rfl

end

lemma silent_only (mute : task.Silent) : ∀ later ∈ [task], later.Silent := by simpa using mute

lemma Steps.logged (steps : ep.Steps next msgs) (log : List Transaction) :
    ep.Steps { next with log := log } msgs where
  __ := steps
  sound := ⟨steps.sound.nodes, steps.sound.tasks, steps.sound.strong⟩

section

variable (sound : ep.Sound)
include sound

lemma steps_giveBack {after : Option (Transaction × Option IBinder)}
    (found : ep.tasks[i]? = some (.giveBack addr after))
    (gave : ep.giveBack i addr after conn = .ok (next, msgs)) : ep.Steps next msgs := by
  unfold giveBack at gave
  split at gave
  · simp at gave
  rename_i nodes sent
  cases after with
  | none =>
    cases gave
    exact steps_pay sound found rfl rfl rfl sent conn (by simp)
  | some resumed =>
    rcases resumed with ⟨tx, goal⟩
    cases goal with
    | none => simp [dispatch, Except.map] at gave
    | some binder =>
      cases binder with
      | proxy | unrelated => simp [dispatch, Except.map] at gave
      | localObject obj =>
        simp only [dispatch, Except.map] at gave
        cases gave
        split_ifs
        · exact steps_pay sound found rfl rfl rfl sent conn (silent_only ⟨rfl, rfl, rfl⟩)
        · exact (steps_pay sound found rfl rfl rfl sent conn (silent_only ⟨rfl, rfl, rfl⟩)).logged _

lemma sameBooks_execute (found : ep.tasks[i]? = some task) (mute : task.Silent)
    (tx : Transaction) (goal : Option IBinder) : ep.Steps (ep.execute i tx goal) [] :=
  (sameBooks_become sound found mute (silent_only ⟨rfl, rfl, rfl⟩)).steps.logged _

lemma steps_settle (found : ep.tasks[i]? = some task) (mute : task.Silent)
    (tx : Transaction) (goal : Option IBinder) : ep.Steps (ep.settle i tx goal) [] := by
  unfold settle
  split_ifs
  · exact (sameBooks_become sound found mute (silent_only ⟨rfl, rfl, rfl⟩)).steps
  · have become : ep.SameBooks (ep.become i [.compose ⟨none, []⟩]) :=
      sameBooks_become sound found mute (silent_only ⟨rfl, rfl, rfl⟩)
    exact become.andThen (steps_releaseTarget become.sound goal)

lemma steps_checkTurn (found : ep.tasks[i]? = some (.check tx goal))
    (check : ep.checkTurn i tx goal = .ok next) : ep.Steps next [] := by
  have mute : (Task.check tx goal).Silent := ⟨rfl, rfl, rfl⟩
  unfold checkTurn at check
  split at check
  · simp at check
  · cases check
    exact steps_settle sound found mute tx (some goal)
  · rename_i nodes parked
    cases check
    rcases onewayTurn_parked parked with ⟨node, at_address, rfl⟩
    rcases sound.nodes.replace at_address { node with
      asyncTodo := node.asyncTodo.push ⟨goal, tx, tx.asyncNumber⟩ }
      rfl rfl rfl rfl with ⟨after, sent, recd⟩
    have parkedBooks := sameBooks_withNodes sound after sent recd
    exact (parkedBooks.trans (sameBooks_become parkedBooks.sound found mute (by simp))).steps
  · cases check
    exact sameBooks_execute sound found mute tx (some goal)

lemma steps_finishTurn (found : ep.tasks[i]? = some (.finish tx goal))
    (fin : ep.finishTurn i tx goal = .ok next) : ep.Steps next [] := by
  unfold finishTurn at fin
  split at fin
  · simp at fin
  · rename_i todo nodes ended
    cases fin
    rcases finishOneway_spec sound.nodes ended with ⟨after, sent, recd⟩
    have progressed := sameBooks_withNodes sound after sent recd
    have follow : ∀ later ∈ todo.toList.map fun todo => Task.check todo.data todo.ref,
        later.Silent := by
      intro later mem
      rcases mem_map.1 mem with ⟨wait, _, rfl⟩
      exact ⟨rfl, rfl, rfl⟩
    have become := progressed.trans (sameBooks_become progressed.sound found ⟨rfl, rfl, rfl⟩ follow)
    exact become.andThen (steps_releaseTarget become.sound goal)

lemma steps_enterTarget (found : ep.tasks[i]? = some (.enter tx))
    (ent : ep.enterTarget i tx = .ok next) : ep.Steps next [] := by
  unfold enterTarget at ent
  split_ifs at ent with zero
  · cases ent
    have mute : (Task.enter tx).Silent := by
      simp [Task.silent_iff, leaving, arriving, owed, callAddresses, zero]
    exact sameBooks_execute sound found mute tx none
  have enters : (Task.enter tx).Enters tx.address := by
    constructor
    · rfl
    · simp [arriving, callAddresses, zero]
    · rfl
  split at ent
  · rename_i no
    cases ent
    unfold settle
    split_ifs <;> exact steps_refuse sound found enters no (silent_only ⟨rfl, rfl, rfl⟩)
  · rename_i node nodes known
    cases ent
    exact steps_enter_known sound found enters known _
  · simp at ent

lemma steps_readBinder (found : ep.tasks[i]? = some (.read address)) :
    ep.Steps (ep.readBinder i address) [] := by
  have enters : (Task.read address).Enters address := ⟨rfl, rfl, rfl⟩
  unfold readBinder
  split
  · rename_i no
    exact steps_refuse sound found enters no (by simp)
  · rename_i node nodes known
    exact steps_enter_known sound found enters known none
  · rename_i nodes made
    exact steps_enter_created sound found enters made

end

lemma ok_of_map {res : Except Halt RpcEndpoint}
    (mapped : res.map (·, ([] : List (Nat × Message))) = .ok (next, msgs)) :
    res = .ok next ∧ msgs = [] := by
  cases res with
  | error halt => simp [Except.map] at mapped
  | ok v =>
    simp only [Except.map, Except.ok.injEq, Prod.mk.injEq] at mapped
    exact ⟨by rw [mapped.1], mapped.2.symm⟩

section

variable (sound : ep.Sound)
include sound

lemma steps_perform (found : ep.tasks[i]? = some task)
    (ran : ep.perform i conn task = .ok (next, msgs)) : ep.Steps next msgs := by
  cases task with
  | compose | lost =>
    cases ran
    exact .stutter sound
  | enter tx =>
    rcases ok_of_map ran with ⟨ent, rfl⟩
    exact steps_enterTarget sound found ent
  | read addr =>
    cases ran
    exact steps_readBinder sound found
  | giveBack addr after => exact steps_giveBack sound found ran
  | check tx goal =>
    rcases ok_of_map ran with ⟨checked, rfl⟩
    exact steps_checkTurn sound found checked
  | running tx goal =>
    cases ran
    exact steps_settle sound found ⟨rfl, rfl, rfl⟩ tx goal
  | finish tx goal =>
    rcases ok_of_map ran with ⟨fin, rfl⟩
    exact steps_finishTurn sound found fin

/-! ## Every step -/

lemma steps_open (mute : begun.Silent) : ep.Steps (ep.spawn [begun]) [] := by
  apply silent
  · rfl
  · apply sound.spawn
    intro task mem
    rw [mem_singleton.1 mem]
    exact mute.created
  · intro addr
    rw [books_spawn]
    simp only [tally_cons, tally_nil, mute.owed, mute.leaving, mute.arriving,
      count_nil, Nat.add_zero]
    exact none _ _

lemma steps_act (acted : ep.act action = .ok (next, msgs)) : ep.Steps next msgs := by
  cases action with
  | hold obj =>
    cases acted
    apply silent
    · rfl
    · exact sound.incStrong (by simp)
    · exact fun addr => none _ _
  | release binder =>
    cases acted
    exact steps_release sound binder
  | openCall | openSpecial =>
    cases acted
    exact steps_open sound ⟨rfl, rfl, rfl⟩
  | write i binder random =>
    simp only [act] at acted
    split at acted
    · rename_i bs found
      exact steps_write sound found rfl (fun _ => rfl) acted
    · rename_i goal code ow bs found
      exact steps_write sound found rfl (fun _ => rfl) acted
    · cases acted
      exact stutter sound
  | transact i random =>
    simp only [act] at acted
    split at acted
    · rename_i goal code ow bs found
      exact steps_transact sound found acted
    · cases acted
      exact stutter sound
  | send i conn dataSize allocates =>
    simp only [act] at acted
    split at acted
    · rename_i bs found
      exact steps_sendReply sound found acted
    · rename_i goal code ow addr bs found
      exact steps_sendCall sound found rfl acted
    · cases acted
      exact stutter sound
  | proceed i conn =>
    simp only [act] at acted
    split at acted
    · rename_i task found
      exact steps_perform sound found acted
    · cases acted
      exact stutter sound

/-! ## Reading a command -/

lemma books_arrive (created : ∀ address ∈ msg.references, address.Created)
    (carries : msg.payments = []) (got : ep.receive msg = .ok next) :
    next.isServer = ep.isServer ∧ next.Sound ∧ ∀ address,
      next.books address = { ep.books address with
        arriving := (ep.books address).arriving + msg.references.count address } := by
  have reads : ∀ bs : List RpcAddress, (∀ address ∈ bs, address.Created) →
      (∀ task ∈ bs.map Task.read, task.Created) ∧ ∀ address,
        tally Task.owed (bs.map .read) address = 0 ∧
        tally Task.leaving (bs.map .read) address = 0 ∧
        tally Task.arriving (bs.map .read) address = bs.count address := by
    intro bs all
    constructor
    · intro task mem
      rcases mem_map.1 mem with ⟨address, ins, rfl⟩
      simpa [Task.Created, Task.leaving, Task.arriving] using all address ins
    · intro address
      refine ⟨?_, ?_, ?_⟩
      · exact ReferenceLedger.tally_of_silent (by simp [Task.owed]) address
      · exact ReferenceLedger.tally_of_silent (by simp [Task.leaving]) address
      · exact ReferenceLedger.tally_map_singleton (fun _ => rfl) bs address
  cases msg with
  | decStrong address => simp [payments] at carries
  | reply bs =>
    cases got
    rcases reads bs created with ⟨made, counts⟩
    refine ⟨rfl, sound.spawn made, fun address => ?_⟩
    rcases counts address with ⟨owed, leaving, arriving⟩
    rw [books_spawn, owed, leaving, arriving]
    rfl
  | transact tx bs =>
    cases got
    have ins : ∀ address ∈ bs, address.Created := by
      intro address mem
      apply created
      simp only [references, callAddresses]
      split_ifs <;> simp [mem]
    rcases reads bs ins with ⟨made, counts⟩
    refine ⟨rfl, ?_, fun address => ?_⟩
    · apply sound.spawn
      refine forall_mem_cons.2 ⟨?_, made⟩
      intro address mentioned
      apply created
      simp only [Task.leaving, Task.arriving, callAddresses] at mentioned
      simp only [references, callAddresses]
      split_ifs at mentioned ⊢ with zero
      · simp at mentioned
      · simp_all
    · rcases counts address with ⟨owed, leaving, arriving⟩
      rw [books_spawn, tally_cons, tally_cons, tally_cons, owed, leaving, arriving]
      simp only [Task.owed, Task.leaving, Task.arriving, references, callAddresses]
      split_ifs <;> simp [count_cons, Nat.add_comm]

end

lemma exists_lookup_of_sent (known : 0 < (ep.books addr).sent) :
    ∃ node, ep.nodes.lookup addr = some node := by
  cases found : ep.nodes.lookup addr with
  | none => simp [books, timesSent, found] at known
  | some node => exact ⟨node, rfl⟩

lemma books_collect (sound : ep.Sound) (known : 0 < (ep.books address).sent)
    (got : ep.receive (.decStrong address) = .ok next) : next.isServer = ep.isServer ∧ next.Sound ∧
      (∀ other, other ≠ address → next.books other = ep.books other) ∧ next.books address =
        let after : Books := { ep.books address with
          sent := (ep.books address).sent - 1 }
        { after with
          owed := after.owed + if (ep.books address).handled (ep.owns address) &&
            !after.handled (ep.owns address) then 1 else 0 } := by
  rcases exists_lookup_of_sent known with ⟨node, found⟩
  have nodeSound := sound.nodes address node found
  simp only [receive] at got
  split at got
  · simp at got
  rename_i gaveBack nodes proc
  rcases processDecStrong_spec sound.nodes known proc with
    ⟨nodesSound, counts, last⟩
  set coll : RpcEndpoint := { ep with nodes := nodes }
  have collectedSound : coll.Sound := sound.withNodes nodesSound
  have books : ∀ other, coll.books other = { ep.books other with
      sent := nodes.timesSent other, recd := nodes.timesRecd other } := fun _ => rfl
  have spawns : ∃ tasks, next = coll.spawn tasks ∧ ∀ other,
      (∀ task ∈ tasks, task.Created) ∧ tally leaving tasks other = 0 ∧
      tally arriving tasks other = 0 ∧ tally owed tasks other =
        if gaveBack = true ∧ node.binder = .proxy other ∧ coll.strong node.binder = 0 ∧
          coll.hasSentRef other = false then 1 else 0 := by
    rw [← Except.ok.inj got, found]
    cases gaveBack with
    | false => exact ⟨[], by simp [spawn], by simp⟩
    | true => exact ⟨_, rfl, by simpa using lastStrongRef_spec coll node.binder⟩
  rcases spawns with ⟨spawned, rfl, tasks⟩
  refine ⟨rfl, collectedSound.spawn (tasks address).1, ?_, ?_⟩
  · intro other ne
    rcases tasks other with ⟨_, leaving, arriving, owed⟩
    have away : node.binder ≠ .proxy other := by
      intro same
      by_cases own : address.isForServer = ep.isServer
      · rcases nodeSound.own own with ⟨obj, binder⟩
        simp [binder] at same
      · rw [nodeSound.foreign own, IBinder.proxy.injEq] at same
        exact ne same.symm
    rw [books_spawn, leaving, arriving, owed, books, counts.sent, counts.recd]
    simp [away, ne, RpcEndpoint.books]
  · rcases tasks address with ⟨_, leaving, arriving, owed⟩
    rw [books_spawn, leaving, arriving, owed, books, counts.sent, counts.recd]
    have strong : coll.strong = ep.strong := rfl
    have sent : coll.nodes.timesSent address = ep.nodes.timesSent address - 1 := by
      simp [coll, counts.sent]
    rw [collectedSound.hasSentRef, sent, strong, last]
    have pos : 0 < ep.nodes.timesSent address := known
    ext
    · simp [RpcEndpoint.books]
    · simp [RpcEndpoint.books]
    · simp only [RpcEndpoint.books, Books.handled_eq]
      congr 1
      by_cases own : address.isForServer = ep.isServer
      · rcases nodeSound.own own with ⟨obj, binder⟩
        simp [binder, owns, own]
      · have stranger : ep.owns address = false := by simpa [owns] using own
        rw [nodeSound.foreign own, stranger]
        apply if_congr _ rfl rfl
        simp [pos]
        omega
    · rfl
    · rfl
    · rfl

end NativeLibs.Binder.RpcEndpoint
