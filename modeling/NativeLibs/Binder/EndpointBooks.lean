import NativeLibs.Binder.NodeCounts
import NativeLibs.Foundation.ReferenceLedger

/-! # The books of an endpoint

For every address, the references an endpoint has sent and received, and those it is
working on. One step of an endpoint makes one entry at every address. -/

namespace NativeLibs.Binder

open ReferenceLedger (tally tally_append tally_cons tally_nil tally_eraseIdx)

namespace Message

def references : Message → List RpcAddress
  | .transact transaction binders => RpcEndpoint.callAddresses transaction.address binders
  | .reply binders => binders
  | .decStrong _ => []

def payments : Message → List RpcAddress
  | .decStrong address => [address]
  | _ => []

variable (addr : RpcAddress)

lemma references_decStrong : (decStrong addr).references = [] := rfl

lemma payments_decStrong : (decStrong addr).payments = [addr] := rfl

end Message

namespace Task

def leaving : Task → List RpcAddress
  | .compose ⟨none, binders⟩ => binders
  | .compose ⟨some ⟨_, _, _, none⟩, binders⟩ => binders
  | .compose ⟨some ⟨_, _, _, some address⟩, binders⟩ => RpcEndpoint.callAddresses address binders
  | .lost addresses => addresses
  | _ => []

def arriving : Task → List RpcAddress
  | .enter transaction => RpcEndpoint.callAddresses transaction.address []
  | .read address => [address]
  | _ => []

def owed : Task → List RpcAddress
  | .giveBack address _ => [address]
  | _ => []

structure Silent (task : Task) : Prop where
  leaving : task.leaving = []
  arriving : task.arriving = []
  owed : task.owed = []

lemma silent_iff (task : Task) :
    task.Silent ↔ task.leaving = [] ∧ task.arriving = [] ∧ task.owed = [] :=
  ⟨fun mute => ⟨mute.leaving, mute.arriving, mute.owed⟩,
    fun mute => ⟨mute.1, mute.2.1, mute.2.2⟩⟩

structure Enters (task : Task) (address : RpcAddress) : Prop where
  leaving : task.leaving = []
  arriving : task.arriving = [address]
  owed : task.owed = []

lemma Enters.count_other {task : Task} (enters : task.Enters addr)
    (ne : other ≠ addr) : task.leaving.count other = 0 ∧
      task.arriving.count other = 0 ∧ task.owed.count other = 0 := by
  simp [enters.leaving, enters.arriving, enters.owed, ne.symm]

def Created (task : Task) : Prop := ∀ address ∈ task.leaving ++ task.arriving, address.Created

lemma Silent.created {task : Task} (mute : task.Silent) : task.Created := by
  simp [Created, mute.leaving, mute.arriving]

end Task

/-- What an endpoint knows about an address. -/
@[ext]
structure Books where
  sent : Nat
  recd : Nat
  owed : Nat
  held : Nat
  leaving : Nat
  arriving : Nat

namespace Books

def known (books : Books) : Bool := 0 < books.sent || 0 < books.recd

lemma known_iff {books : Books} : books.known = true ↔ 0 < books.sent ∨ 0 < books.recd := by
  simp [known]

lemma known_eq_false_iff {books : Books} :
    books.known = false ↔ books.sent = 0 ∧ books.recd = 0 := by
  simp [known]

def handled (books : Books) (owner : Bool) : Bool := !owner && (0 < books.sent || 0 < books.held)

lemma handled_eq (books : Books) (owner : Bool) :
    books.handled owner = decide (owner = false ∧ (0 < books.sent ∨ 0 < books.held)) := by
  cases owner <;> simp [handled]

/-- One entry in the books of an address. The endpoint sends `references` and
`payments`. -/
inductive Entry (owner : Bool) (before after : Books) (references payments : Nat) : Prop where
  | send (same : after = { before with leaving := after.leaving })
      (moved : before.leaving = after.leaving + references) (nothing : payments = 0)
  | leave (may : owner = true ∨ 0 < before.held)
      (entry : after = { before with sent := before.sent + 1, leaving := before.leaving + 1 })
      (nothing : references = 0 ∧ payments = 0)
  | enter (arriving : 0 < before.arriving) (known : before.known = true)
      (entry : after = { before with
        recd := before.recd + 1
        owed := before.owed + 1
        held := before.held + if before.handled owner then 1 else 0
        arriving := before.arriving - 1 })
      (nothing : references = 0 ∧ payments = 0)
  | create (arriving : 0 < before.arriving) (unknown : before.known = false)
      (entry : after = { before with
        recd := before.recd + 1
        held := before.held + 1
        arriving := before.arriving - 1 })
      (nothing : references = 0 ∧ payments = 0)
  | refuse (arriving : 0 < before.arriving) (own : owner = true) (unknown : before.known = false)
  | pay (owed : 0 < before.owed)
      (entry : after = { before with recd := before.recd - 1, owed := before.owed - 1 })
      (nothing : references = 0) (paid : payments = 1)
  | release (entry : after = { before with
        held := before.held - 1
        owed := before.owed + if before.handled owner &&
          !({ before with held := before.held - 1 } : Books).handled owner then 1 else 0 })
      (nothing : references = 0 ∧ payments = 0)

lemma Entry.none (owner : Bool) (books : Books) : Entry owner books books 0 0 := .send rfl rfl rfl

end Books

namespace RpcEndpoint

variable {ep : RpcEndpoint} {i : Nat} {tasks : List Task}

def owns (endpoint : RpcEndpoint) (address : RpcAddress) : Bool :=
  address.isForServer == endpoint.isServer

def books (endpoint : RpcEndpoint) (address : RpcAddress) : Books where
  sent := endpoint.nodes.timesSent address
  recd := endpoint.nodes.timesRecd address
  owed := tally Task.owed endpoint.tasks address
  held := endpoint.strong (.proxy address)
  leaving := tally Task.leaving endpoint.tasks address
  arriving := tally Task.arriving endpoint.tasks address

structure Sound (endpoint : RpcEndpoint) : Prop where
  nodes : endpoint.nodes.Sound endpoint.isServer
  tasks : ∀ task ∈ endpoint.tasks, task.Created
  strong : ∀ address, address.isForServer = endpoint.isServer → endpoint.strong (.proxy address) = 0

/-- One step of an endpoint: it stays sound, it sends addresses of binders only, and it
makes an entry at every address. -/
structure Steps (endpoint next : RpcEndpoint) (messages : List (Nat × Message)) : Prop where
  isServer : next.isServer = endpoint.isServer
  sound : next.Sound
  created : ∀ message ∈ messages, ∀ address ∈ message.2.references, address.Created
  entries : ∀ address, Books.Entry (endpoint.owns address) (endpoint.books address)
    (next.books address) (tally (·.2.references) messages address)
    (tally (·.2.payments) messages address)

/-! ## Sound endpoints -/

lemma Steps.silent (isServer : next.isServer = ep.isServer) (sound : next.Sound)
    (es : ∀ addr, Books.Entry (ep.owns addr) (ep.books addr)
      (next.books addr) 0 0) : ep.Steps next [] where
  isServer := isServer
  sound := sound
  created := by simp
  entries := es

section

variable (sound : ep.Sound)
include sound

lemma Steps.stutter : ep.Steps ep [] :=
  .silent rfl sound fun _ => .none _ _

lemma Sound.become (i : Nat) (made : ∀ task ∈ tasks, task.Created) :
    (ep.become i tasks).Sound where
  __ := sound
  tasks :=
    List.forall_mem_append.2 ⟨fun task old => sound.tasks task (List.mem_of_mem_eraseIdx old),
      made⟩

lemma Sound.spawn (made : ∀ task ∈ tasks, task.Created) : (ep.spawn tasks).Sound where
  __ := sound
  tasks := List.forall_mem_append.2 ⟨sound.tasks, made⟩

lemma Sound.withNodes {nodes : NodeMap} (new : nodes.Sound ep.isServer) :
    ({ ep with nodes := nodes }).Sound where
  __ := sound
  nodes := new

lemma Sound.incStrong
    (foreign : ∀ addr, binder = .proxy addr → addr.isForServer ≠ ep.isServer) :
    (ep.incStrong binder).Sound where
  __ := sound
  strong := by
    intro addr own
    have other : .proxy addr ≠ binder := fun same => foreign addr same.symm own
    simpa [RpcEndpoint.incStrong, Function.update_of_ne other] using sound.strong addr own

lemma Sound.created_of_found (hit : ep.tasks[i]? = some task) : task.Created :=
  sound.tasks task (List.mem_of_getElem? hit)

end

lemma count_le_tally (hit : ep.tasks[i]? = some task)
    (ment : Task → List RpcAddress) (addr : RpcAddress) :
    (ment task).count addr ≤ tally ment ep.tasks addr := by
  rw [tally_eraseIdx hit]
  exact Nat.le_add_right _ _

lemma books_become (hit : ep.tasks[i]? = some task) (tasks : List Task)
    (addr : RpcAddress) :
    (ep.become i tasks).books addr = { ep.books addr with
        owed := (ep.books addr).owed - task.owed.count addr +
          tally Task.owed tasks addr
        leaving := (ep.books addr).leaving - task.leaving.count addr +
          tally Task.leaving tasks addr
        arriving := (ep.books addr).arriving - task.arriving.count addr +
          tally Task.arriving tasks addr } := by
  simp [books, become, tally_eraseIdx hit]

/-! ## Steps that make no entry -/

structure SameBooks (endpoint next : RpcEndpoint) : Prop where
  isServer : next.isServer = endpoint.isServer
  sound : next.Sound
  books : next.books = endpoint.books

lemma SameBooks.steps (same : ep.SameBooks next) : ep.Steps next [] := by
  apply Steps.silent same.isServer same.sound
  intro addr
  rw [same.books]
  exact Books.Entry.none _ _

lemma SameBooks.andThen (same : ep.SameBooks next) (steps : next.Steps last msgs) :
    ep.Steps last msgs where
  isServer := steps.isServer.trans same.isServer
  sound := steps.sound
  created := steps.created
  entries := by
    intro addr
    have e := steps.entries addr
    rw [same.books] at e
    have owner : next.owns addr = ep.owns addr := by simp only [owns, same.isServer]
    rw [owner] at e
    exact e

lemma created_of_silent (mute : ∀ later ∈ tasks, later.Silent) :
    ∀ later ∈ tasks, later.Created :=
  fun later mem => (mute later mem).created

lemma tally_of_silent (mute : ∀ later ∈ tasks, later.Silent) (other : RpcAddress) :
    tally Task.leaving tasks other = 0 ∧ tally Task.arriving tasks other = 0 ∧
      tally Task.owed tasks other = 0 :=
  ⟨ReferenceLedger.tally_of_silent (fun later mem => (mute later mem).leaving) other,
    ReferenceLedger.tally_of_silent (fun later mem => (mute later mem).arriving) other,
    ReferenceLedger.tally_of_silent (fun later mem => (mute later mem).owed) other⟩

lemma sameBooks_become (sound : ep.Sound) (hit : ep.tasks[i]? = some task)
    (mute : task.Silent) (follow : ∀ later ∈ tasks, later.Silent) :
    ep.SameBooks (ep.become i tasks) where
  isServer := rfl
  sound := sound.become i (created_of_silent follow)
  books := by
    funext addr
    rcases tally_of_silent follow addr with ⟨leaving, arr, owed⟩
    rw [books_become hit, mute.leaving, mute.arriving, mute.owed, leaving, arr, owed]
    rfl

lemma sameBooks_withNodes (sound : ep.Sound) {nodes : NodeMap}
    (new : nodes.Sound ep.isServer) (sent : nodes.timesSent = ep.nodes.timesSent)
    (recd : nodes.timesRecd = ep.nodes.timesRecd) :
    ep.SameBooks { ep with nodes := nodes } where
  isServer := rfl
  sound := sound.withNodes new
  books := by
    funext addr
    simp only [RpcEndpoint.books, sent, recd]

lemma SameBooks.trans (first : ep.SameBooks next) (second : next.SameBooks last) :
    ep.SameBooks last where
  isServer := second.isServer.trans first.isServer
  sound := second.sound
  books := second.books.trans first.books

/-! ## References of the process -/

lemma Sound.hasSentRef (sound : ep.Sound) (addr : RpcAddress) :
    ep.hasSentRef addr = decide (0 < ep.nodes.timesSent addr) := by
  cases hit : ep.nodes.lookup addr with
  | none => simp [RpcEndpoint.hasSentRef, NodeMap.timesSent, hit]
  | some node =>
    simp [RpcEndpoint.hasSentRef, NodeMap.timesSent, hit, (sound.nodes addr node hit).sentRef]

lemma lastStrongRef_spec (ep : RpcEndpoint) (binder : IBinder) (addr : RpcAddress) :
    (∀ task ∈ ep.lastStrongRef binder, task.Created) ∧
      tally Task.leaving (ep.lastStrongRef binder) addr = 0 ∧
      tally Task.arriving (ep.lastStrongRef binder) addr = 0 ∧
      tally Task.owed (ep.lastStrongRef binder) addr =
        if binder = .proxy addr ∧ ep.strong binder = 0 ∧
          ep.hasSentRef addr = false then 1 else 0 := by
  cases binder with
  | localObject obj => simp [lastStrongRef]
  | unrelated => simp [lastStrongRef]
  | proxy own =>
    by_cases dead : (ep.strong (.proxy own) = 0 && !ep.hasSentRef own) = true
    · have gone : ep.strong (.proxy own) = 0 ∧ ep.hasSentRef own = false := by
        simpa using dead
      simp only [lastStrongRef, dead, if_true]
      refine ⟨?_, ?_, ?_, ?_⟩
      · simp [Task.Created, Task.leaving, Task.arriving]
      · simp [Task.leaving]
      · simp [Task.arriving]
      · by_cases same : own = addr
        · subst same
          simp [Task.owed, gone]
        · simp [Task.owed, same]
    · have alive : ¬(IBinder.proxy own = .proxy addr ∧ ep.strong (.proxy own) = 0 ∧
          ep.hasSentRef addr = false) := by
        rintro ⟨same, unheld, unsent⟩
        rw [IBinder.proxy.injEq] at same
        subst same
        simp [unheld, unsent] at dead
      rw [if_neg alive]
      simp [lastStrongRef, dead]

lemma books_spawn (ep : RpcEndpoint) (tasks : List Task) (addr : RpcAddress) :
    (ep.spawn tasks).books addr = { ep.books addr with
        owed := (ep.books addr).owed + tally Task.owed tasks addr
        leaving := (ep.books addr).leaving + tally Task.leaving tasks addr
        arriving := (ep.books addr).arriving + tally Task.arriving tasks addr } := by
  simp [books, spawn]

lemma steps_release (sound : ep.Sound) (binder : IBinder) :
    ep.Steps (ep.release binder) [] := by
  by_cases unheld : ep.strong binder = 0
  · rw [release, if_pos unheld]
    exact Steps.stutter sound
  rw [release, if_neg unheld]
  dsimp only
  generalize updated : ({ ep with
    strong := Function.update ep.strong binder (ep.strong binder - 1) } :
      RpcEndpoint) = freed
  have strong : ∀ other, freed.strong other =
      if other = binder then ep.strong binder - 1 else ep.strong other := by
    intro other
    simp [← updated, Function.update_apply]
  have isServer : freed.isServer = ep.isServer := by rw [← updated]
  have nodes : freed.nodes = ep.nodes := by rw [← updated]
  have tasks : freed.tasks = ep.tasks := by rw [← updated]
  have after : freed.Sound := by
    constructor
    · rw [nodes, isServer]
      exact sound.nodes
    · rw [tasks]
      exact sound.tasks
    · intro addr own
      rw [isServer] at own
      have old := sound.strong addr own
      rw [strong]
      split_ifs with same
      · rw [← same]
        omega
      · exact old
  have unchanged : (freed.spawn (freed.lastStrongRef binder)).isServer = ep.isServer :=
    isServer
  apply Steps.silent unchanged
  · exact after.spawn (lastStrongRef_spec freed binder RpcAddress.zero).1
  intro addr
  rcases lastStrongRef_spec freed binder addr with ⟨_, leaving, arr, owed⟩
  rw [books_spawn, leaving, arr, owed]
  by_cases same : binder = .proxy addr
  · subst same
    have stranger : ep.owns addr = false := by
      have foreign : addr.isForServer ≠ ep.isServer :=
        fun own => unheld (sound.strong addr own)
      simpa [owns] using foreign
    apply Books.Entry.release _ ⟨rfl, rfl⟩
    have held := Nat.pos_of_ne_zero unheld
    simp only [books, Books.handled, nodes, tasks, strong, after.hasSentRef, stranger]
    by_cases sent : 0 < ep.nodes.timesSent addr
    · simp [sent]
    · by_cases last : ep.strong (.proxy addr) - 1 = 0
      · simp [sent, last, held]
      · simp [sent, last, held, Nat.pos_of_ne_zero last]
  · have elsewhere : (IBinder.proxy addr) ≠ binder := fun eq => same eq.symm
    simp only [same, false_and, if_false, Nat.add_zero]
    have books : freed.books addr = ep.books addr := by
      simp [RpcEndpoint.books, nodes, tasks, strong, elsewhere]
    rw [books]
    exact Books.Entry.none _ _

lemma steps_releaseTarget (sound : ep.Sound) (goal : Option IBinder) :
    ep.Steps (ep.releaseTarget goal) [] := by
  cases goal with
  | none => exact .stutter sound
  | some binder => exact steps_release sound binder

end RpcEndpoint

end NativeLibs.Binder
