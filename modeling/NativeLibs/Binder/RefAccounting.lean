import NativeLibs.Binder.EndpointSteps

/-! # References between the two sides of a session

At every address the books of both sides and what is on the wire make up a ledger of
references, and every step of a session is a step of each of these ledgers. -/

namespace NativeLibs.Binder

open ReferenceLedger (Ledger Party tally tally_append tally_eraseIdx)
open RpcSession RpcEndpoint List

namespace Books

def ledger (owner : Bool) (me peer : Books) (out paid back returned : Nat) : Ledger where
  me :=
    { owner := owner
      sent := me.sent
      recd := me.recd
      owed := me.owed
      held := me.held
      inFlight := me.leaving + out + peer.arriving
      returning := paid }
  peer :=
    { owner := !owner
      sent := peer.sent
      recd := peer.recd
      owed := peer.owed
      held := peer.held
      inFlight := peer.leaving + back + me.arriving
      returning := returned }

lemma Entry.balanced {next : Books} (e : Entry owner me next references payments)
    (bal : (ledger owner me peer out paid back got).Balanced) :
    (ledger owner next peer (out + references) (paid + payments) back got).Balanced := by
  have pres : 0 < me.arriving →
      0 < (ledger owner me peer out paid back got).peer.inFlight := by
    simp only [ledger]
    omega
  cases e with
  | send same moved nothing =>
    refine (congrArg Ledger.Balanced ?_).mpr bal
    rw [same, nothing]
    simp only [ledger, moved]
    congr 2
    omega
  | leave may e nothing =>
    refine (congrArg Ledger.Balanced ?_).mpr (bal.leave may)
    rw [e, nothing.1, nothing.2]
    simp only [ledger, Ledger.leave]
    congr 2
    omega
  | enter arr known e nothing =>
    refine (congrArg Ledger.Balanced ?_).mpr (bal.enter (pres arr))
    have remembered : (ledger owner me peer out paid back got).me.known = true := known
    rw [Ledger.enter, if_pos remembered, e, nothing.1, nothing.2]
    simp only [ledger]
    congr 2
    omega
  | create arr unk e nothing =>
    refine (congrArg Ledger.Balanced ?_).mpr (bal.enter (pres arr))
    have lost : (ledger owner me peer out paid back got).me.known = false := unk
    rw [Ledger.enter, if_neg (Bool.eq_false_iff.1 lost), e, nothing.1, nothing.2]
    simp only [ledger]
    congr 2
    omega
  | refuse arr own unk =>
    -- A reference on its way to the owner keeps the node alive.
    have sent : 0 < me.sent := bal.sent_pos_of_inFlight own (pres arr)
    rw [known_eq_false_iff] at unk
    omega
  | pay owed e nothing paid_one =>
    refine (congrArg Ledger.Balanced ?_).mpr (bal.pay owed)
    rw [e, nothing, paid_one]
    simp only [ledger, Ledger.pay]
    rfl
  | release e nothing =>
    refine (congrArg Ledger.Balanced ?_).mpr bal.release
    rw [e, nothing.1, nothing.2]
    rfl

lemma balanced_arrive (bal : (ledger owner me peer out paid back got).Balanced)
    (onWire : arrived ≤ back) :
    (ledger owner { me with arriving := me.arriving + arrived } peer out paid (back - arrived)
      got).Balanced := by
  refine (congrArg Ledger.Balanced ?_).mpr bal
  simp only [ledger]
  congr 2
  omega

lemma balanced_collect (bal : (ledger owner me peer out paid back got).Balanced)
    (onWire : 0 < got) :
    let after : Books := { me with sent := me.sent - 1 }
    (ledger owner { after with
      owed := after.owed + if me.handled owner && !after.handled owner then 1 else 0 }
      peer out paid back (got - 1)).Balanced :=
  bal.collect onWire

lemma Entry.last {next : Books} (e : Entry owner me next references payments) (known : me.known = true)
    (lost : next.known = false) : me.sent + me.recd = 1 := by
  have counts := Books.known_eq_false_iff.1 lost
  rw [Books.known_iff] at known
  cases e with
  | send same moved nothing =>
    rw [same] at counts
    simp only at counts
    omega
  | refuse arr own unk =>
    rw [known_eq_false_iff] at unk
    omega
  | leave _ e _ | enter _ _ e _ | create _ _ e _ | pay _ e _ _ | release e _ =>
    rw [e] at counts
    simp only at counts
    omega

end Books

namespace RpcSession

variable {session : RpcSession} {side : Bool} {ep : RpcEndpoint}

section

variable (session) (side) (address)

def books : Books :=
  (session.endpoint side).books address

def references : Nat :=
  tally (·.2.references) (session.wire side) address

def decStrongs : Nat :=
  tally (·.2.payments) (session.wire side) address

def inFlight : Nat :=
  (session.books side address).leaving + session.references side address +
    (session.books (!side) address).arriving

def timesSent : Nat :=
  (session.endpoint side).nodes.timesSent address

def timesRecd : Nat :=
  (session.endpoint side).nodes.timesRecd address

def knows : Bool :=
  ((session.endpoint side).nodes.lookup address).isSome

def ledger : Ledger :=
  Books.ledger (address.isForServer == side) (session.books side address)
    (session.books (!side) address) (session.references side address)
    (session.decStrongs side address) (session.references (!side) address)
    (session.decStrongs (!side) address)

end

structure Sound (session : RpcSession) : Prop where
  isServer : ∀ side, (session.endpoint side).isServer = side
  endpoint : ∀ side, (session.endpoint side).Sound
  created : ∀ side, ∀ message ∈ session.wire side, ∀ address ∈ message.2.references, address.Created
  balanced : ∀ side address, (session.ledger side address).Balanced

lemma balanced_other (bal : (session.ledger side address).Balanced) :
    (session.ledger (!side) address).Balanced := by
  have swapped : session.ledger (!side) address = (session.ledger side address).swap := by
    have owner : (address.isForServer == !side) = !(address.isForServer == side) := by
      cases address.isForServer <;> cases side <;> rfl
    simp [ledger, Books.ledger, Ledger.swap, owner]
  rw [swapped]
  exact bal.swap

lemma balanced_all (side : Bool) (bal : ∀ address, (session.ledger side address).Balanced) :
    ∀ other address, (session.ledger other address).Balanced := by
  intro other address
  by_cases same : other = side
  · rw [same]
    exact bal address
  · rw [Bool.eq_not.2 same]
    exact balanced_other (bal address)

/-! ## Steps -/

lemma initial_sound : initial.Sound where
  isServer := by
    intro side
    rfl
  endpoint := by
    intro side
    constructor
    · intro address node hit
      simp [initial, RpcEndpoint.initial] at hit
    · simp [initial, RpcEndpoint.initial]
    · intro address own
      rfl
  created := by simp [initial]
  balanced := by
    intro side address
    constructor
    all_goals simp [ledger, Books.ledger, books, references, decStrongs, initial, Party.Fair,
      RpcEndpoint.initial, RpcEndpoint.books, NodeMap.timesSent, NodeMap.timesRecd, Party.handled]

lemma endpoint_halt (session : RpcSession) (side : Bool) (reason : Halt) (other : Bool) :
    (session.halt side reason).endpoint other = { session.endpoint other with
        halted := ((session.halt side reason).endpoint other).halted } := by
  by_cases same : other = side
  · subst same
    simp [halt]
  · simp [halt, same]

lemma books_halt (session : RpcSession) (side : Bool) (reason : Halt) :
    (session.halt side reason).books = session.books := by
  funext other address
  rw [books, endpoint_halt]
  rfl

lemma mem_of_firstOfConnection {wire : List (Nat × Message)}
    (first : firstOfConnection wire i = some msg) :
    ∃ conn, wire[i]? = some (conn, msg) := by
  unfold firstOfConnection at first
  split at first
  · simp at first
  · rename_i conn hit at_index
    split_ifs at first
    exact ⟨conn, by rw [at_index, Option.some.inj first]⟩

lemma ledger_consume (i : Nat) (ep : RpcEndpoint) (address : RpcAddress) :
    (session.consume side i ep).ledger side address =
      Books.ledger (address.isForServer == side) (ep.books address)
        (session.books (!side) address) (session.references side address)
        (session.decStrongs side address)
        (tally (·.2.references) ((session.wire !side).eraseIdx i) address)
        (tally (·.2.payments) ((session.wire !side).eraseIdx i) address) := by
  have ne : (!side) ≠ side := by simp
  have other : side ≠ !side := by simp
  simp [ledger, books, references, decStrongs, consume, ne, other]

section

variable (sound : session.Sound)
include sound

lemma Sound.halt (reason : Halt) : (session.halt side reason).Sound := by
  constructor
  · intro other
    rw [endpoint_halt]
    exact sound.isServer other
  · intro other
    rw [endpoint_halt]
    have old := sound.endpoint other
    exact ⟨old.nodes, old.tasks, old.strong⟩
  · exact sound.created
  · intro other address
    have old := sound.balanced other address
    rw [ledger] at old ⊢
    rw [books_halt]
    exact old

lemma Sound.advance (steps : (session.endpoint side).Steps oc.1 oc.2) :
    (session.advance side oc).Sound where
  isServer := by
    intro other
    by_cases same : other = side
    · subst same
      simpa [RpcSession.advance, steps.isServer] using sound.isServer other
    · simpa [RpcSession.advance, same] using sound.isServer other
  endpoint := by
    intro other
    by_cases same : other = side
    · subst same
      simpa [RpcSession.advance] using steps.sound
    · simpa [RpcSession.advance, same] using sound.endpoint other
  created := by
    intro other
    by_cases same : other = side
    · subst same
      intro msg mem
      simp only [RpcSession.advance, Function.update_self, mem_append] at mem
      rcases mem with old | new
      · exact sound.created other msg old
      · exact steps.created msg new
    · simpa [RpcSession.advance, same] using sound.created other
  balanced := by
    apply balanced_all side
    intro address
    have pre := sound.balanced side address
    have e := steps.entries address
    rw [owns, sound.isServer] at e
    have after := e.balanced pre
    have ne : (!side) ≠ side := by simp
    simpa [ledger, books, references, decStrongs, RpcSession.advance, ne] using after

lemma receive_balanced (hit : (session.wire !side)[i]? = some (conn, msg))
    (got : (session.endpoint side).receive msg = .ok ep) :
    ep.isServer = side ∧ ep.Sound ∧
      ∀ address, ((session.consume side i ep).ledger side address).Balanced := by
  have made : ∀ address ∈ msg.references, address.Created :=
    sound.created (!side) _ (mem_of_getElem? hit)
  have onWire : ∀ address, session.references (!side) address = msg.references.count address +
        tally (·.2.references) ((session.wire !side).eraseIdx i) address :=
    fun address => tally_eraseIdx hit address
  have paid : ∀ address, session.decStrongs (!side) address = msg.payments.count address +
        tally (·.2.payments) ((session.wire !side).eraseIdx i) address :=
    fun address => tally_eraseIdx hit address
  by_cases nothing : msg.payments = []
  · rcases books_arrive (sound.endpoint side) made nothing got with
      ⟨isServer, after, books⟩
    refine ⟨isServer.trans (sound.isServer side), after, fun address => ?_⟩
    have carried := onWire address
    have unpaid := paid address
    rw [nothing, count_nil, Nat.zero_add] at unpaid
    have still : tally (·.2.references) ((session.wire !side).eraseIdx i) address =
        session.references (!side) address - msg.references.count address := by omega
    rw [ledger_consume, books, still, ← unpaid]
    exact Books.balanced_arrive (sound.balanced side address) (by omega)
  · cases msg with
    | transact tx bs => exact absurd rfl nothing
    | reply bs => exact absurd rfl nothing
    | decStrong ret =>
      have onTheWay : 0 < session.decStrongs (!side) ret := by
        rw [paid, Message.payments_decStrong, count_singleton_self]
        omega
      have sent : 0 < ((session.endpoint side).books ret).sent :=
        (sound.balanced side ret).sent_pos_of_returning onTheWay
      rcases books_collect (sound.endpoint side) sent got with
        ⟨isServer, after, away, here⟩
      refine ⟨isServer.trans (sound.isServer side), after, fun address => ?_⟩
      have uncarried := onWire address
      have payment := paid address
      rw [Message.references_decStrong, count_nil, Nat.zero_add] at uncarried
      rw [Message.payments_decStrong] at payment
      rw [ledger_consume, ← uncarried]
      by_cases same : address = ret
      · subst same
        rw [count_singleton_self] at payment
        have left : tally (·.2.payments) ((session.wire !side).eraseIdx i) address =
            session.decStrongs (!side) address - 1 := by omega
        rw [here, left, owns, sound.isServer]
        exact Books.balanced_collect (sound.balanced side address) onTheWay
      · have ne : ret ≠ address := fun eq => same eq.symm
        simp only [count_singleton, beq_iff_eq, ne, if_false, Nat.zero_add] at payment
        rw [away address same, ← payment]
        exact sound.balanced side address

lemma Sound.consume (first : firstOfConnection (session.wire !side) i = some msg)
    (got : (session.endpoint side).receive msg = .ok ep) :
    (session.consume side i ep).Sound := by
  rcases mem_of_firstOfConnection first with ⟨conn, hit⟩
  rcases receive_balanced sound hit got with ⟨isServer, endpointSound, bal⟩
  constructor
  · intro other
    by_cases same : other = side
    · subst same
      simpa [RpcSession.consume] using isServer
    · simpa [RpcSession.consume, same] using sound.isServer other
  · intro other
    by_cases same : other = side
    · subst same
      simpa [RpcSession.consume] using endpointSound
    · simpa [RpcSession.consume, same] using sound.endpoint other
  · intro other msg mem
    by_cases same : other = !side
    · subst same
      simp only [RpcSession.consume, Function.update_self] at mem
      exact sound.created (!side) msg (mem_of_mem_eraseIdx mem)
    · simp only [RpcSession.consume, Function.update_of_ne same] at mem
      exact sound.created other msg mem
  · exact balanced_all side bal

lemma Sound.step (label : Label) : (session.step label).Sound := by
  rcases step_cases session label with same | ⟨side, reason, halted⟩ |
    ⟨side, action, oc, acted, advanced⟩ | ⟨side, i, msg, ep, first, got, read⟩
  · rw [same]
    exact sound
  · rw [halted]
    exact sound.halt reason
  · rw [advanced]
    exact sound.advance (steps_act (sound.endpoint side) acted)
  · rw [read]
    exact sound.consume first got

end

/-! ## Runs -/

lemma run_sound (labels : List Label) : (run labels).Sound := by
  have kept : ∀ (session : RpcSession) (label : Label), session.Sound → True →
      (session.step label).Sound := fun _ label sound _ => sound.step label
  exact Machine.run_invariant kept initial_sound
    (Machine.along_of_forall (fun _ _ cond => cond) _ fun _ _ => trivial)

lemma Sound.knows_eq (sound : session.Sound) (side : Bool) (address : RpcAddress) :
    session.knows side address = (session.books side address).known := by
  have none := (sound.endpoint side).nodes.lookup_eq_none_iff address
  cases hit : (session.endpoint side).nodes.lookup address with
  | none =>
    have zero := none.1 hit
    simp [knows, hit, books, Books.known, RpcEndpoint.books, zero]
  | some node =>
    have counts := ((sound.endpoint side).nodes address node hit).counted
    have pos : 0 < node.timesSent ∨ 0 < node.timesRecd := by omega
    simpa [knows, hit, books, Books.known, RpcEndpoint.books,
      NodeMap.timesSent_of_lookup hit, NodeMap.timesRecd_of_lookup hit] using pos

lemma Sound.last_of_read (sound : session.Sound)
    (first : firstOfConnection (session.wire !side) i = some msg)
    (got : (session.endpoint side).receive msg = .ok ep)
    (known : (session.books side address).known = true)
    (lost : (ep.books address).known = false) :
    session.timesSent side address + session.timesRecd side address = 1 := by
  rcases mem_of_firstOfConnection first with ⟨conn, hit⟩
  have made : ∀ address ∈ msg.references, address.Created :=
    sound.created (!side) _ (mem_of_getElem? hit)
  have kept : ep.books address ≠ session.books side address := by
    intro same
    rw [same, known] at lost
    cases lost
  by_cases nothing : msg.payments = []
  · rcases RpcEndpoint.books_arrive (sound.endpoint side) made nothing got with
      ⟨_, _, books⟩
    have same : (ep.books address).known = (session.books side address).known := by
      rw [books]
      rfl
    rw [same, known] at lost
    cases lost
  · cases msg with
    | transact tx bs => exact absurd rfl nothing
    | reply bs => exact absurd rfl nothing
    | decStrong ret =>
      have onTheWay : 0 < session.decStrongs (!side) ret := by
        have paid : session.decStrongs (!side) ret = _ := tally_eraseIdx hit ret
        rw [paid, Message.payments_decStrong, count_singleton_self]
        omega
      have sent : 0 < ((session.endpoint side).books ret).sent :=
        (sound.balanced side ret).sent_pos_of_returning onTheWay
      rcases RpcEndpoint.books_collect (sound.endpoint side) sent got with
        ⟨_, _, away, here⟩
      by_cases same : address = ret
      · subst same
        rw [here, Books.known_eq_false_iff] at lost
        simp only [RpcEndpoint.books] at lost sent
        simp only [timesSent, timesRecd]
        omega
      · exact absurd (away address same) kept

lemma Sound.last_of_forgotten (sound : session.Sound) (label : Label)
    (known : (session.books side address).known = true)
    (lost : ((session.step label).books side address).known = false) :
    session.timesSent side address + session.timesRecd side address = 1 := by
  have unchanged : (session.step label).books side address = session.books side address →
      session.timesSent side address + session.timesRecd side address = 1 := by
    intro same
    rw [same, known] at lost
    cases lost
  rcases step_cases session label with same | ⟨actor, reason, halted⟩ |
    ⟨actor, action, oc, acted, advanced⟩ |
    ⟨actor, i, msg, ep, first, got, read⟩
  · exact unchanged (by rw [same])
  · exact unchanged (by rw [halted, books_halt])
  · by_cases same : side = actor
    · subst same
      have e := (steps_act (sound.endpoint side) acted).entries address
      apply e.last known
      simpa [advanced, books, RpcSession.advance] using lost
    · apply unchanged
      simp [advanced, books, RpcSession.advance, same]
  · by_cases same : side = actor
    · subst same
      apply sound.last_of_read first got known
      simpa [read, books, RpcSession.consume] using lost
    · apply unchanged
      simp [read, books, RpcSession.consume, same]

/-- In every run, and for both sides, what a side has sent is under way, counted by the
other side, or being given back; a node goes with its last count; and neither a
`DEC_STRONG` nor an address on its way to its owner is for a node that the receiver has
forgotten. -/
theorem references_accounted (labels : List Label) (side : Bool) (address : RpcAddress) :
    let session := run labels
    session.timesSent side address = session.inFlight side address +
      session.timesRecd (!side) address + session.decStrongs (!side) address ∧
    (∀ label, session.knows side address = true → (session.step label).knows side address = false →
      session.timesSent side address + session.timesRecd side address = 1) ∧
    (0 < session.decStrongs (!side) address → session.knows side address = true) ∧
    (address.isForServer = side → 0 < session.inFlight (!side) address →
      session.knows side address = true) := by
  intro session
  have sound : session.Sound := run_sound labels
  have balanced := sound.balanced side address
  have remembered : 0 < session.timesSent side address → session.knows side address = true := by
    intro sent
    rw [sound.knows_eq, Books.known_iff]
    exact .inl sent
  refine ⟨balanced.mine, ?_, ?_, ?_⟩
  · intro label known forgotten
    rw [sound.knows_eq] at known
    rw [(sound.step label).knows_eq] at forgotten
    exact sound.last_of_forgotten label known forgotten
  · intro returning
    exact remembered (balanced.sent_pos_of_returning returning)
  · intro own inFlight
    apply remembered
    apply balanced.sent_pos_of_inFlight
    · simp [ledger, Books.ledger, own]
    · have same : (session.ledger side address).peer.inFlight =
          session.inFlight (!side) address := by
        simp [ledger, Books.ledger, RpcSession.inFlight]
      rw [same]
      exact inFlight

/-! ## Two scenarios -/

/-- The address that a server makes when it reads zeros from the random source. -/
def rootAddress : RpcAddress := RpcAddress.random true 0

/-- The client asks for the root object, on a connection, and the server replies with it.
The command at `index` is the client's. -/
def askRoot (index : Nat) : List Label :=
  [.act false (.openSpecial 0), .act false (.send 0 0 0 true), .deliver true index,
    .act true (.proceed 0 0), .act true (.proceed 0 0),
    .act true (.write 0 (.localObject 0) fun _ => 0), .act true (.send 0 0 48 true)]

def rootForgotten : List Label :=
  .act true (.hold 0) :: askRoot 0 ++
    [.deliver false 0, .act false (.proceed 0 0), .act false (.release (.proxy rootAddress)),
      .act false (.proceed 0 1)]

/-- While the client's `DEC_STRONG` is under way, the server still knows the address. -/
theorem references_accounted_returning : (run rootForgotten).decStrongs false rootAddress = 1 ∧
      (run rootForgotten).knows true rootAddress = true :=
  have returning : (run rootForgotten).decStrongs false rootAddress = 1 := by decide +kernel
  ⟨returning, (references_accounted rootForgotten true rootAddress).2.2.1 (by
    change 0 < (run rootForgotten).decStrongs false rootAddress
    omega)⟩

/-- In every run, an address that a side knows is known to the other side, unless it is on its way
there or is being given back. So no node is left over on one side. -/
theorem known_by_both (labels : List Label) (side : Bool) (address : RpcAddress) :
    let session := run labels
    session.knows side address = true → session.knows (!side) address = true ∨
      0 < session.inFlight side address ∨ 0 < session.decStrongs (!side) address := by
  intro session known
  have sound : session.Sound := run_sound labels
  have mine : session.timesSent side address = session.inFlight side address +
      session.timesRecd (!side) address + session.decStrongs (!side) address :=
    (sound.balanced side address).mine
  have theirs : session.timesSent (!side) address = _ + session.timesRecd side address + _ :=
    (sound.balanced side address).theirs
  have iff : ∀ side, session.knows side address = true ↔
      0 < session.timesSent side address ∨ 0 < session.timesRecd side address := by
    intro side
    rw [sound.knows_eq, Books.known_iff]
    rfl
  rw [iff] at known ⊢
  omega

theorem known_by_both_returning : (run rootForgotten).knows false rootAddress = true ∨
      0 < (run rootForgotten).inFlight true rootAddress ∨
        0 < (run rootForgotten).decStrongs false rootAddress :=
  known_by_both rootForgotten true rootAddress (by decide +kernel)

/-- An owner may send an address to a side that has forgotten it: the client has known the
root object and given it up, and its `DEC_STRONG` is still under way when the server sends
the address again. -/
theorem owner_sends_forgotten_address :
    let before := run (rootForgotten ++ (askRoot 1).take 6)
    let after := run (rootForgotten ++ askRoot 1)
    (run (rootForgotten.take 10)).knows false rootAddress = true ∧
      before.knows false rootAddress = false ∧ after.knows false rootAddress = false ∧
      before.references true rootAddress = 0 ∧ after.references true rootAddress = 1 := by
  decide +kernel

end RpcSession

end NativeLibs.Binder
