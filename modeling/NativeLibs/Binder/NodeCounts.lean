import NativeLibs.Binder.RpcSession

/-! # The counts of the nodes

What each operation on the nodes does to `timesSent` and `timesRecd`, which is all that
the accounting of references has to know about it. -/

namespace NativeLibs.Binder

open List AList Function

namespace RpcAddress

structure Created (address : RpcAddress) : Prop where
  recognized : address.isRecognizedType = true
  nonzero : address.isZero = false

lemma created_random (forServer : Bool) (bytes : Nat) : (random forServer bytes).Created := by
  constructor
  · rw [isRecognizedType, decide_eq_true_iff]
    cases forServer with
    | false => exact (by decide : optionCreated &&& ~~~(optionCreated ||| optionForServer) = 0)
    | true =>
      exact (by decide : (optionCreated ||| optionForServer) &&&
        ~~~(optionCreated ||| optionForServer) = 0)
  · cases forServer <;> simp [random, isZero, zero, optionCreated, optionForServer]

@[simp] lemma isForServer_random (forServer : Bool) (bytes : Nat) :
    (random forServer bytes).isForServer = forServer := by
  cases forServer with
  | false => exact (by decide : decide (optionCreated &&& optionForServer ≠ 0) = false)
  | true =>
    exact (by decide : decide ((optionCreated ||| optionForServer) &&& optionForServer ≠ 0) = true)

end RpcAddress

/-- What holds of a node at an address. A side's own addresses stand for its objects, and
those of the other side for proxies. -/
structure BinderNode.Sound (isServer : Bool) (address : RpcAddress) (node : BinderNode) :
    Prop where
  created : address.Created
  sentRef : node.sentRef = decide (0 < node.timesSent)
  counted : 0 < node.timesSent + node.timesRecd
  own : address.isForServer = isServer → ∃ object, node.binder = .localObject object
  foreign : address.isForServer ≠ isServer → node.binder = .proxy address

namespace NodeMap

variable {nodes next : NodeMap}

def timesSent (nodes : NodeMap) (address : RpcAddress) : Nat :=
  (nodes.lookup address).elim 0 (·.timesSent)

def timesRecd (nodes : NodeMap) (address : RpcAddress) : Nat :=
  (nodes.lookup address).elim 0 (·.timesRecd)

lemma timesSent_of_lookup (hit : nodes.lookup addr = some node) :
    nodes.timesSent addr = node.timesSent := by
  simp [timesSent, hit]

lemma timesRecd_of_lookup (hit : nodes.lookup addr = some node) :
    nodes.timesRecd addr = node.timesRecd := by
  simp [timesRecd, hit]

structure Recounted (nodes next : NodeMap) (address : RpcAddress) (sent recd : Nat) : Prop where
  sent : next.timesSent = update nodes.timesSent address sent
  recd : next.timesRecd = update nodes.timesRecd address recd

lemma recounted_insert (nodes : NodeMap) (addr : RpcAddress) (node : BinderNode) :
    Recounted nodes (nodes.insert addr node) addr node.timesSent node.timesRecd := by
  constructor
  all_goals
    funext other
    by_cases same : other = addr
    · subst same
      simp [timesSent, timesRecd]
    · simp [timesSent, timesRecd, lookup_insert_ne same, update_of_ne same]

lemma recounted_erase (nodes : NodeMap) (addr : RpcAddress) :
    Recounted nodes (nodes.erase addr) addr 0 0 := by
  constructor
  all_goals
    funext other
    by_cases same : other = addr
    · subst same
      simp [timesSent, timesRecd]
    · simp [timesSent, timesRecd, lookup_erase_ne same, update_of_ne same]

/-! ## Sound nodes -/

def Sound (isServer : Bool) (nodes : NodeMap) : Prop :=
  ∀ address node, nodes.lookup address = some node → node.Sound isServer address

section

variable (sound : nodes.Sound side)
include sound

lemma Sound.insert (new : node.Sound side addr) : Sound side (nodes.insert addr node) := by
  intro other hit at_other
  by_cases same : other = addr
  · subst same
    rw [lookup_insert, Option.some.injEq] at at_other
    subst at_other
    exact new
  · rw [lookup_insert_ne same] at at_other
    exact sound other hit at_other

lemma Sound.replace (hit : nodes.lookup addr = some node) (new : BinderNode)
    (binder : new.binder = node.binder) (sentRef : new.sentRef = node.sentRef)
    (sent : new.timesSent = node.timesSent) (recd : new.timesRecd = node.timesRecd) :
    Sound side (nodes.insert addr new) ∧ timesSent (nodes.insert addr new) = nodes.timesSent ∧
      timesRecd (nodes.insert addr new) = nodes.timesRecd := by
  have old := sound addr node hit
  have counts := recounted_insert nodes addr new
  refine ⟨sound.insert ⟨old.created, ?_, ?_, ?_, ?_⟩, ?_, ?_⟩
  · rw [sentRef, sent, old.sentRef]
  · rw [sent, recd]
    exact old.counted
  · rw [binder]
    exact old.own
  · rw [binder]
    exact old.foreign
  · rw [counts.sent, sent, ← timesSent_of_lookup hit, update_eq_self]
  · rw [counts.recd, recd, ← timesRecd_of_lookup hit, update_eq_self]

lemma Sound.erase : Sound side (nodes.erase addr) := by
  intro other hit at_other
  by_cases same : other = addr
  · subst same
    simp at at_other
  · rw [lookup_erase_ne same] at at_other
    exact sound other hit at_other

lemma Sound.lookup_eq_none_iff (addr : RpcAddress) :
    nodes.lookup addr = none ↔ nodes.timesSent addr = 0 ∧ nodes.timesRecd addr = 0 := by
  cases hit : nodes.lookup addr with
  | none => simp [timesSent, timesRecd, hit]
  | some node =>
    have counts := (sound addr node hit).counted
    simp only [timesSent, timesRecd, hit, Option.elim_some, reduceCtorEq, false_iff]
    omega

end

lemma lookup_of_findBinder (hit : nodes.findBinder binder = some e) :
    nodes.lookup e.1 = some e.2 ∧ e.2.binder = binder := by
  have mem := mem_of_find?_eq_some hit
  have same := find?_some hit
  exact ⟨mem_lookup_iff.2 mem, by simpa using same⟩

/-! ## The operations -/

lemma onBinderLeaving_cases
    (left : nodes.onBinderLeaving side binder random = .ok (.ok (addr, next))) :
    (∃ node, nodes.lookup addr = some node ∧ node.binder = binder ∧
      next = nodes.insert addr (resent node)) ∨
    ∃ obj bytes, binder = .localObject obj ∧ addr = RpcAddress.random side bytes ∧
      nodes.lookup addr = none ∧ next = nodes.insert addr (newlySent binder) := by
  have again : ∀ e, nodes.findBinder binder = some e → e.1 = addr →
      nodes.insert e.1 (resent e.2) = next → ∃ node, nodes.lookup addr = some node ∧
        node.binder = binder ∧ next = nodes.insert addr (resent node) := by
    rintro e hit rfl rfl
    rcases lookup_of_findBinder hit with ⟨at_entry, same⟩
    exact ⟨e.2, at_entry, same, rfl⟩
  unfold onBinderLeaving at left
  split at left
  · cases left
  · cases left
  · rename_i e hit
    split_ifs at left
    cases left
    exact .inl (again e hit rfl rfl)
  · rename_i e hit
    cases left
    exact .inl (again e hit rfl rfl)
  · split at left
    · rename_i fresh
      cases left
      have unused := find?_some fresh
      rcases (mem_ofFn' _ _).1 (mem_of_find?_eq_some fresh) with ⟨attempt, rfl⟩
      exact .inr ⟨_, _, rfl, rfl, by simpa [lookup_eq_none] using unused, rfl⟩
    · cases left

lemma onBinderEntering_eq_known (ent : nodes.onBinderEntering side addr = .known node next) :
    nodes.lookup addr = some node ∧
      next = nodes.insert addr { node with timesRecd := node.timesRecd + 1 } := by
  cases hit : nodes.lookup addr with
  | none =>
    simp only [onBinderEntering, hit] at ent
    split_ifs at ent
  | some known =>
    simp only [onBinderEntering, hit] at ent
    split_ifs at ent
    cases ent
    exact ⟨rfl, rfl⟩

lemma onBinderEntering_eq_created (ent : nodes.onBinderEntering side addr = .created next) :
    nodes.lookup addr = none ∧ addr.isForServer ≠ side ∧
      next = nodes.insert addr (newlyReceived addr) := by
  cases hit : nodes.lookup addr with
  | some known =>
    simp only [onBinderEntering, hit] at ent
    split_ifs at ent
  | none =>
    simp only [onBinderEntering, hit] at ent
    split_ifs at ent with unrecognized own
    cases ent
    exact ⟨rfl, own, rfl⟩

lemma onBinderEntering_refused (made : addr.Created)
    (ent : nodes.onBinderEntering side addr = .refused) :
    nodes.lookup addr = none ∧ addr.isForServer = side := by
  cases hit : nodes.lookup addr with
  | some known => simp [onBinderEntering, hit, made.recognized] at ent
  | none => simpa [onBinderEntering, hit, made.recognized] using ent

lemma sendDecStrong_eq_ok (sent : nodes.sendDecStrong addr = .ok next) :
    ∃ node, nodes.lookup addr = some node ∧ node.timesRecd ≠ 0 ∧
      nodes.tryEraseNode addr { node with timesRecd := node.timesRecd - 1 } =
        .ok (false, next) := by
  unfold sendDecStrong at sent
  split at sent
  · cases sent
  · rename_i node hit
    split_ifs at sent with unrecv
    split at sent
    · cases sent
    · cases sent
    · rename_i ers
      cases sent
      exact ⟨node, hit, unrecv, ers⟩

lemma processDecStrong_eq_ok
    (proc : nodes.processDecStrong promotes addr = .ok (gaveBack, next)) :
    next = nodes ∧ nodes.timesSent addr = 0 ∨
      ∃ node, nodes.lookup addr = some node ∧ node.sentRef = true ∧
        nodes.tryEraseNode addr { node with timesSent := node.timesSent - 1 } =
          .ok (gaveBack, next) := by
  unfold processDecStrong at proc
  split at proc
  · rename_i miss
    cases proc
    exact .inl ⟨rfl, by simp [timesSent, miss]⟩
  · rename_i node hit
    split_ifs at proc with deleted uns lost
    · cases proc
      exact .inl ⟨rfl, by rw [timesSent_of_lookup hit, uns]⟩
    · exact .inr ⟨node, hit, by simpa using lost, proc⟩

lemma nodeProgressAsyncNumber_eq_some (res : nodeProgressAsyncNumber node = some progressed) :
    node.asyncNumber < maxAsyncNumber ∧
      progressed = { node with asyncNumber := node.asyncNumber + 1 } := by
  unfold nodeProgressAsyncNumber at res
  split_ifs at res with last
  exact ⟨Nat.lt_of_not_le last, (Option.some.inj res).symm⟩

lemma takeAsyncNumber_cases (taken : nodes.takeAsyncNumber addr ow = .ok (num, next)) :
    next = nodes ∨ ow = true ∧ ∃ node, nodes.lookup addr = some node ∧ num = node.asyncNumber ∧
      next = nodes.insert addr { node with asyncNumber := node.asyncNumber + 1 } := by
  unfold takeAsyncNumber at taken
  by_cases zero : addr.isZero = true
  · simp only [zero, if_true, Except.ok.injEq, Prod.mk.injEq] at taken
    exact .inl taken.2.symm
  · rw [if_neg zero] at taken
    cases hit : nodes.lookup addr with
    | none => simp [hit] at taken
    | some node =>
      cases ow with
      | false =>
        simp only [hit, Bool.false_eq_true, if_false, Except.ok.injEq, Prod.mk.injEq] at taken
        exact .inl taken.2.symm
      | true =>
        cases prog : nodeProgressAsyncNumber node with
        | none => simp [hit, prog] at taken
        | some progressed =>
          simp only [hit, prog, if_true, Except.ok.injEq, Prod.mk.injEq] at taken
          rcases nodeProgressAsyncNumber_eq_some prog with ⟨_, rfl⟩
          exact .inr ⟨rfl, node, rfl, taken.1.symm, taken.2.symm⟩

lemma transactAddress_eq_ok
    (transacted : nodes.transactAddress addr code ow dataSize allocates = .ok (sent, next)) :
    (∃ num, nodes.takeAsyncNumber addr ow = .ok (num, next)) ∧
      ∀ tx, sent = .ok tx → tx.address = addr := by
  unfold transactAddress at transacted
  split at transacted
  · cases transacted
  · rename_i num taken n
    split_ifs at transacted
    all_goals
      cases transacted
      exact ⟨⟨num, n⟩, by simp⟩

lemma onewayTurn_parked (parked : nodes.onewayTurn promotes tx goal = .ok (.parked next)) :
    ∃ node, nodes.lookup tx.address = some node ∧
      next = nodes.insert tx.address { node with
        asyncTodo := node.asyncTodo.push ⟨goal, tx, tx.asyncNumber⟩ } := by
  unfold onewayTurn at parked
  cases hit : nodes.lookup tx.address with
  | none => simp [hit] at parked
  | some node =>
    simp only [hit] at parked
    split_ifs at parked with invalid waits full
    · simp at parked
    · simp only [Except.ok.injEq, OnewayTurn.parked.injEq] at parked
      exact ⟨node, rfl, parked.symm⟩
    · simp at parked

lemma finishOneway_cases (fin : nodes.finishOneway tx = .ok (todo, next)) :
    (todo = none ∧ next = nodes) ∨ ∃ node new, nodes.lookup tx.address = some node ∧
      next = nodes.insert tx.address
        { node with asyncNumber := node.asyncNumber + 1, asyncTodo := new } ∧
      (∀ wait ∈ new.items, wait ∈ node.asyncTodo.items) ∧
      ∀ wait, todo = some wait → wait ∈ node.asyncTodo.items := by
  unfold finishOneway at fin
  split at fin
  · cases fin
    exact .inl ⟨rfl, rfl⟩
  · rename_i node hit
    split at fin
    · cases fin
    · rename_i prog
      rcases nodeProgressAsyncNumber_eq_some prog with ⟨_, rfl⟩
      cases top : node.asyncTodo.top with
      | none =>
        simp only [top] at fin
        cases fin
        exact .inr ⟨node, _, hit, rfl, fun _ mem => mem, by simp⟩
      | some first =>
        have items := (PriorityQueue.items_of_top top).1
        simp only [top] at fin
        split_ifs at fin
        · cases fin
          refine .inr ⟨node, _, hit, rfl, fun wait mem => ?_, fun wait same => ?_⟩
          · rw [items]
            exact mem_cons_of_mem _ mem
          · rw [← Option.some.inj same, items]
            exact mem_cons_self
        · cases fin
          exact .inr ⟨node, _, hit, rfl, fun _ mem => mem, by simp⟩

variable (sound : nodes.Sound side)
include sound

lemma onBinderLeaving_spec
    (left : nodes.onBinderLeaving side binder random = .ok (.ok (addr, next))) : next.Sound side ∧
      Recounted nodes next addr (nodes.timesSent addr + 1) (nodes.timesRecd addr) ∧
      addr.Created ∧ (addr.isForServer = side ∨ binder = .proxy addr) := by
  rcases onBinderLeaving_cases left with
    ⟨node, hit, rfl, rfl⟩ | ⟨obj, bytes, rfl, rfl, miss, rfl⟩
  · have old := sound addr node hit
    have new : (resent node).Sound side addr := by
      constructor
      · exact old.created
      · simp [resent]
      · simp only [resent]
        omega
      · exact old.own
      · exact old.foreign
    refine ⟨sound.insert new, ?_, old.created, ?_⟩
    · rw [timesSent_of_lookup hit, timesRecd_of_lookup hit]
      exact recounted_insert nodes addr (resent node)
    · by_cases own : addr.isForServer = side
      · exact .inl own
      · exact .inr (old.foreign own)
  · have new : (newlySent (.localObject obj)).Sound side
        (.random side bytes) := by
      constructor
      · exact RpcAddress.created_random _ _
      · rfl
      · exact Nat.one_pos
      · exact fun _ => ⟨obj, rfl⟩
      · exact fun foreign => absurd (RpcAddress.isForServer_random _ _) foreign
    refine ⟨sound.insert new, ?_, new.created, .inl (RpcAddress.isForServer_random _ _)⟩
    simp only [timesSent, timesRecd, miss, Option.elim_none]
    exact recounted_insert nodes _ (newlySent (.localObject obj))

lemma onBinderEntering_known (ent : nodes.onBinderEntering side addr = .known node next) :
    nodes.lookup addr = some node ∧ next.Sound side ∧
      Recounted nodes next addr (nodes.timesSent addr) (nodes.timesRecd addr + 1) := by
  rcases onBinderEntering_eq_known ent with ⟨hit, rfl⟩
  have old := sound addr node hit
  refine ⟨hit, sound.insert ⟨old.created, old.sentRef, ?_, old.own, old.foreign⟩, ?_⟩
  · simp only
    omega
  · rw [timesSent_of_lookup hit, timesRecd_of_lookup hit]
    exact recounted_insert nodes addr _

lemma onBinderEntering_created (made : addr.Created)
    (ent : nodes.onBinderEntering side addr = .created next) :
    nodes.lookup addr = none ∧ addr.isForServer ≠ side ∧ next.Sound side ∧
      Recounted nodes next addr 0 1 := by
  rcases onBinderEntering_eq_created ent with ⟨miss, other, rfl⟩
  have new : (newlyReceived addr).Sound side addr := by
    constructor
    · exact made
    · rfl
    · exact Nat.one_pos
    · exact fun own => absurd own other
    · exact fun _ => rfl
  exact ⟨miss, other, sound.insert new, recounted_insert nodes addr (newlyReceived addr)⟩

lemma tryEraseNode_spec (ers : nodes.tryEraseNode addr node = .ok (gaveBack, next))
    (old : addr.Created) (own : addr.isForServer = side → ∃ obj, node.binder = .localObject obj)
    (foreign : addr.isForServer ≠ side → node.binder = .proxy addr)
    (sentRef : 0 < node.timesSent → node.sentRef = true) :
    next.Sound side ∧ Recounted nodes next addr node.timesSent node.timesRecd ∧
      gaveBack = (decide (node.timesSent = 0) && node.sentRef) := by
  unfold tryEraseNode at ers
  split_ifs at ers with uns unrecv pend
  · cases ers
    rw [uns, unrecv]
    exact ⟨sound.erase, recounted_erase nodes addr, by simp⟩
  · cases ers
    refine ⟨sound.insert ⟨old, ?_, ?_, own, foreign⟩, recounted_insert nodes addr _, ?_⟩
    · simp [uns]
    · simp only
      omega
    · simp [uns]
  · cases ers
    refine ⟨sound.insert ⟨old, ?_, ?_, own, foreign⟩, recounted_insert nodes addr _, ?_⟩
    · simp [sentRef (by omega), Nat.pos_of_ne_zero uns]
    · omega
    · simp [uns]

lemma sendDecStrong_spec (sent : nodes.sendDecStrong addr = .ok next) :
    next.Sound side ∧ 0 < nodes.timesRecd addr ∧
      Recounted nodes next addr (nodes.timesSent addr) (nodes.timesRecd addr - 1) := by
  rcases sendDecStrong_eq_ok sent with ⟨node, hit, unrecv, ers⟩
  have old := sound addr node hit
  have sentRef : 0 < node.timesSent → node.sentRef = true := by
    intro pos
    simp [old.sentRef, pos]
  rcases tryEraseNode_spec sound ers old.created old.own old.foreign sentRef
    with ⟨after, recounted, _⟩
  rw [timesSent_of_lookup hit, timesRecd_of_lookup hit]
  exact ⟨after, Nat.pos_of_ne_zero unrecv, recounted⟩

lemma processDecStrong_spec (known : 0 < nodes.timesSent addr)
    (proc : nodes.processDecStrong promotes addr = .ok (gaveBack, next)) : next.Sound side ∧
      Recounted nodes next addr (nodes.timesSent addr - 1) (nodes.timesRecd addr) ∧
      gaveBack = decide (nodes.timesSent addr = 1) := by
  rcases processDecStrong_eq_ok proc with ⟨_, uns⟩ | ⟨node, hit, held, ers⟩
  · omega
  · have old := sound addr node hit
    rcases tryEraseNode_spec sound ers old.created old.own old.foreign fun _ => held
      with ⟨after, recounted, gave⟩
    rw [timesSent_of_lookup hit] at known ⊢
    rw [timesRecd_of_lookup hit]
    refine ⟨after, recounted, ?_⟩
    rw [gave, held, Bool.and_true]
    exact decide_eq_decide.2 (by simp only; omega)

lemma transactAddress_spec
    (transacted : nodes.transactAddress addr code ow dataSize allocates = .ok (sent, next)) :
    next.Sound side ∧ next.timesSent = nodes.timesSent ∧ next.timesRecd = nodes.timesRecd ∧
      ∀ tx, sent = .ok tx → tx.address = addr := by
  rcases transactAddress_eq_ok transacted with ⟨⟨_, n⟩, addressed⟩
  rcases takeAsyncNumber_cases n with rfl | ⟨_, node, hit, _, rfl⟩
  · exact ⟨sound, rfl, rfl, addressed⟩
  · have repl := sound.replace hit { node with asyncNumber := node.asyncNumber + 1 }
      rfl rfl rfl rfl
    exact ⟨repl.1, repl.2.1, repl.2.2, addressed⟩

lemma finishOneway_spec (fin : nodes.finishOneway tx = .ok (todo, next)) :
    next.Sound side ∧ next.timesSent = nodes.timesSent ∧ next.timesRecd = nodes.timesRecd := by
  rcases finishOneway_cases fin with ⟨_, rfl⟩ | ⟨node, _, hit, rfl, _⟩
  · exact ⟨sound, rfl, rfl⟩
  · exact sound.replace hit _ rfl rfl rfl rfl

end NodeMap

/-! ## The node of an object that is served

A node that stands for an object of this process and has been sent is not erased while
its count is not zero. The operations on the nodes may change its counts; its binder and
its oneway transactions are only touched by the oneway operations at its own address. -/

/-- The node of an object that the other side has a reference to. -/
structure BinderNode.Serves (node : BinderNode) (object : Nat) : Prop where
  binder : node.binder = .localObject object
  sentRef : node.sentRef = true
  sent : 0 < node.timesSent

namespace BinderNode

variable {node : BinderNode}

def recounted (node : BinderNode) (sent recd : Nat) : BinderNode :=
  { node with timesSent := sent, timesRecd := recd }

lemma Serves.recounted (side : node.Serves obj) {sent : Nat} (pos : 0 < sent) :
    (node.recounted sent recd).Serves obj :=
  ⟨side.binder, side.sentRef, pos⟩

lemma recounted_self (node : BinderNode) :
    node.recounted node.timesSent node.timesRecd = node := rfl

end BinderNode

namespace NodeMap

variable {nodes next : NodeMap}

lemma lookup_onBinderLeaving (found : nodes.lookup addr = some node) (side : node.Serves obj)
    (left : nodes.onBinderLeaving isServer binder random = .ok (.ok (other, next))) :
    ∃ sent, 0 < sent ∧ next.lookup addr = some (node.recounted sent node.timesRecd) ∧
      (other = addr → binder = .localObject obj) := by
  rcases onBinderLeaving_cases left with ⟨sent, at_other, same, rfl⟩ | ⟨_, _, _, _, miss, rfl⟩
  · by_cases here : other = addr
    · subst here
      rw [found] at at_other
      cases at_other
      refine ⟨node.timesSent + 1, by omega, ?_, fun _ => same ▸ side.binder⟩
      rw [lookup_insert]
      simp [resent, BinderNode.recounted, side.sentRef]
    · refine ⟨node.timesSent, side.sent, ?_, fun there => absurd there here⟩
      rw [lookup_insert_ne (Ne.symm here), found]
      rfl
  · have ne : other ≠ addr := by
      rintro rfl
      rw [found] at miss
      cases miss
    refine ⟨node.timesSent, side.sent, ?_, fun same => absurd same ne⟩
    rw [lookup_insert_ne ne.symm, found]
    rfl

lemma lookup_onBinderEntering (made : addr.Created) (found : nodes.lookup addr = some node) :
    nodes.onBinderEntering side addr = .known node (nodes.insert addr
      (node.recounted node.timesSent (node.timesRecd + 1))) := by
  simp [onBinderEntering, made.recognized, found, BinderNode.recounted]

section

variable (found : nodes.lookup addr = some node)
include found

lemma lookup_onBinderEntering_created (made : nodes.onBinderEntering side other = .created next) :
    other ≠ addr ∧ next.lookup addr = some node := by
  rcases onBinderEntering_eq_created made with ⟨miss, _, rfl⟩
  have ne : other ≠ addr := by
    rintro rfl
    rw [found] at miss
    cases miss
  exact ⟨ne, by rw [lookup_insert_ne ne.symm, found]⟩

/-! ## Reference counts -/

lemma sendDecStrong_served (side : node.Serves obj) (got : 0 < node.timesRecd) :
    nodes.sendDecStrong addr =
      .ok (nodes.insert addr (node.recounted node.timesSent (node.timesRecd - 1))) := by
  have unrecv : node.timesRecd ≠ 0 := by omega
  have uns : node.timesSent ≠ 0 := by
    have sent := side.sent
    omega
  simp [sendDecStrong, found, unrecv, tryEraseNode, uns, BinderNode.recounted]

lemma processDecStrong_served (side : node.Serves obj) (alive : promotes node = true)
    (more : 1 < node.timesSent) : nodes.processDecStrong promotes addr =
      .ok (false, nodes.insert addr (node.recounted (node.timesSent - 1) node.timesRecd)) := by
  have uns : node.timesSent ≠ 0 := by omega
  have left : node.timesSent - 1 ≠ 0 := by omega
  simp [processDecStrong, found, alive, uns, side.sentRef, tryEraseNode, left, BinderNode.recounted]

end

/-! ## Oneway transactions -/

lemma lookup_onewayTurn (ne : tx.address ≠ addr)
    (parked : nodes.onewayTurn promotes tx goal = .ok (.parked next)) :
    next.lookup addr = nodes.lookup addr := by
  rcases onewayTurn_parked parked with ⟨node, _, rfl⟩
  exact lookup_insert_ne fun same => ne same.symm

/-! ## Parked transactions -/

/-- Parked transactions are oneway, and wait at their own address. -/
def Parked (nodes : NodeMap) : Prop :=
  ∀ address node, nodes.lookup address = some node → ∀ todo ∈ node.asyncTodo.items,
    todo.data.address = address ∧ todo.data.oneway = true ∧ todo.asyncNumber = todo.data.asyncNumber

def NoProxy (nodes : NodeMap) (address : RpcAddress) : Prop :=
  ∀ other node, nodes.lookup other = some node → node.binder ≠ .proxy address

/-- Every node comes from the one at its address, with the same binder and nothing more
parked, or it is new and has no proxy but its own. -/
def Descends (nodes next : NodeMap) : Prop :=
  ∀ address changed, next.lookup address = some changed →
    (∃ node, nodes.lookup address = some node ∧ changed.binder = node.binder ∧
      ∀ todo ∈ changed.asyncTodo.items, todo ∈ node.asyncTodo.items) ∨
    (nodes.lookup address = none ∧ changed.asyncTodo.items = [] ∧
      ∀ proxied, changed.binder = .proxy proxied → proxied = address)

lemma Parked.descends (parked : nodes.Parked) (desc : nodes.Descends next) : next.Parked := by
  intro addr changed found todo mem
  rcases desc addr changed found with ⟨node, old, _, wait⟩ | ⟨_, none, _⟩
  · exact parked addr node old todo (wait todo mem)
  · simp [none] at mem

lemma NoProxy.descends (noProxy : nodes.NoProxy addr)
    (known : nodes.lookup addr = some node) (desc : nodes.Descends next) : next.NoProxy addr := by
  intro other changed found proxy
  rcases desc other changed found with ⟨old, at_other, same, _⟩ | ⟨miss, _, own⟩
  · exact noProxy other old at_other (same.symm.trans proxy)
  · rw [← own addr proxy, known] at miss
    cases miss

/-- What an operation may do to the nodes: it erases or changes the one at its address, or adds
one there. -/
inductive Touched (nodes : NodeMap) (address : RpcAddress) : NodeMap → Prop
  | kept : Touched nodes address nodes
  | erased : Touched nodes address (nodes.erase address)
  | changed {node changed : BinderNode} (found : nodes.lookup address = some node)
      (binder : changed.binder = node.binder)
      (waiting : ∀ todo ∈ changed.asyncTodo.items, todo ∈ node.asyncTodo.items) :
      Touched nodes address (nodes.insert address changed)
  | added {added : BinderNode} (absent : nodes.lookup address = none)
      (idle : added.asyncTodo.items = [])
      (own : ∀ proxied, added.binder = .proxy proxied → proxied = address) :
      Touched nodes address (nodes.insert address added)

lemma Touched.lookup (touched : nodes.Touched other next) (ne : other ≠ addr) :
    next.lookup addr = nodes.lookup addr := by
  cases touched with
  | kept => rfl
  | erased => exact lookup_erase_ne ne.symm
  | changed | added => exact lookup_insert_ne ne.symm

lemma Touched.descends (touched : nodes.Touched addr next) : nodes.Descends next := by
  intro other later found
  by_cases same : addr = other
  · subst same
    cases touched with
    | kept => exact .inl ⟨later, found, rfl, fun _ mem => mem⟩
    | erased => simp at found
    | changed old binder wait =>
      rw [lookup_insert] at found
      cases found
      exact .inl ⟨_, old, binder, wait⟩
    | added miss idle own =>
      rw [lookup_insert] at found
      cases found
      exact .inr ⟨miss, idle, own⟩
  · rw [touched.lookup same] at found
    exact .inl ⟨later, found, rfl, fun _ mem => mem⟩

lemma touched_onBinderLeaving
    (left : nodes.onBinderLeaving side binder random = .ok (.ok (addr, next))) :
    nodes.Touched addr next := by
  rcases onBinderLeaving_cases left with ⟨_, found, _, rfl⟩ | ⟨_, _, rfl, _, miss, rfl⟩
  · exact .changed found rfl fun _ mem => mem
  · exact .added miss rfl (by simp [newlySent])

lemma touched_onBinderEntering_known (known : nodes.onBinderEntering side addr = .known ent next) :
    nodes.Touched addr next := by
  rcases onBinderEntering_eq_known known with ⟨found, rfl⟩
  exact .changed found rfl fun _ mem => mem

lemma touched_onBinderEntering_created (made : nodes.onBinderEntering side addr = .created next) :
    nodes.Touched addr next := by
  rcases onBinderEntering_eq_created made with ⟨miss, _, rfl⟩
  exact .added miss rfl (by simp [newlyReceived])

lemma touched_tryEraseNode (found : nodes.lookup addr = some node)
    (erased : nodes.tryEraseNode addr changed = .ok (gaveBack, next))
    (binder : changed.binder = node.binder) (same : changed.asyncTodo = node.asyncTodo) :
    nodes.Touched addr next := by
  unfold tryEraseNode at erased
  split_ifs at erased
  all_goals
    cases erased
  · exact .erased
  · exact .changed found binder fun _ mem => same ▸ mem
  · exact .changed found binder fun _ mem => same ▸ mem

lemma touched_sendDecStrong (sent : nodes.sendDecStrong addr = .ok next) :
    nodes.Touched addr next := by
  rcases sendDecStrong_eq_ok sent with ⟨_, found, _, erased⟩
  exact touched_tryEraseNode found erased rfl rfl

lemma touched_processDecStrong
    (proc : nodes.processDecStrong promotes addr = .ok (gaveBack, next)) :
    nodes.Touched addr next := by
  rcases processDecStrong_eq_ok proc with ⟨rfl, _⟩ | ⟨_, found, _, erased⟩
  · exact .kept
  · exact touched_tryEraseNode found erased rfl rfl

lemma touched_transactAddress
    (tx : nodes.transactAddress addr code ow dataSize allocates = .ok (sent, next)) :
    nodes.Touched addr next := by
  rcases transactAddress_eq_ok tx with ⟨⟨_, n⟩, _⟩
  rcases takeAsyncNumber_cases n with rfl | ⟨_, _, found, _, rfl⟩
  · exact .kept
  · exact .changed found rfl fun _ mem => mem

lemma Parked.park (parked : nodes.Parked) (found : nodes.lookup addr = some node)
    (at_address : tx.address = addr) (ow : tx.oneway = true) :
    NodeMap.Parked (nodes.insert addr { node with
      asyncTodo := node.asyncTodo.push ⟨goal, tx, tx.asyncNumber⟩ }) := by
  intro other changed at_other todo mem
  by_cases same : other = addr
  · subst same
    rw [lookup_insert, Option.some.injEq] at at_other
    rw [← at_other] at mem
    rcases List.mem_cons.1 ((PriorityQueue.push_perm _ _).mem_iff.1 mem) with rfl | old
    · exact ⟨at_address, ow, rfl⟩
    · exact parked other node found todo old
  · rw [lookup_insert_ne same] at at_other
    exact parked other changed at_other todo mem

lemma NoProxy.replace (noProxy : nodes.NoProxy other) (found : nodes.lookup addr = some node)
    (same : changed.binder = node.binder) : NodeMap.NoProxy (nodes.insert addr changed) other := by
  intro at_address later at_later
  by_cases here : at_address = addr
  · subst here
    rw [lookup_insert, Option.some.injEq] at at_later
    rw [← at_later, same]
    exact noProxy at_address node found
  · rw [lookup_insert_ne here] at at_later
    exact noProxy at_address later at_later

lemma finishOneway_touched (fin : nodes.finishOneway tx = .ok (todo, next)) :
    nodes.Touched tx.address next ∧ ∀ wait, todo = some wait →
      ∃ node, nodes.lookup tx.address = some node ∧ wait ∈ node.asyncTodo.items := by
  rcases finishOneway_cases fin with ⟨rfl, rfl⟩ | ⟨node, _, found, rfl, less, waited⟩
  · exact ⟨.kept, by simp⟩
  · exact ⟨.changed found rfl less, fun wait same => ⟨node, found, waited wait same⟩⟩

end NodeMap

end NativeLibs.Binder
