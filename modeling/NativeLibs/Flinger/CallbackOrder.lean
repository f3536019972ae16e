import NativeLibs.Flinger.TransactionCompletedThread

/-! # The order of transaction-completed callbacks

What the callers do is recorded beside the thread: the transactions in the order
in which their registration started, those that are still registering, and the
pending handles that were not passed to `finalizePendingCallbackHandles` yet.
The transactions sent to a listener, followed by those that wait, are the ones
that started; counting handles, the thread never knows of fewer pending handles
than there are. -/

namespace NativeLibs.Composer.ListenerCallbacks

lemma equal_self (tx : ListenerCallbacks) : tx.equal tx = true := by
  simp [equal]

lemma equal_comm (l r : ListenerCallbacks) : l.equal r = r.equal l := by
  simp only [equal]
  rw [Bool.beq_comm, Bool.beq_comm (a := l.callbackIds.head?)]

end NativeLibs.Composer.ListenerCallbacks

namespace NativeLibs.Flinger

open Composer (ListenerCallbacks)
open Machine (Along)
open List

variable {Stats Fence : Type}

abbrev HandleName := Nat × ListenerCallbacks

def CallbackHandle.name (handle : CallbackHandle Stats) : HandleName :=
  (handle.object, handle.transaction)

structure CallbackHistory where
  /-- The transactions, in the order in which their registration started. -/
  started : List ListenerCallbacks
  registering : List ListenerCallbacks
  /-- The handles that were registered as pending and not finalized since. -/
  unfinalized : List HandleName
  /-- The transactions of handles that were finalized without being pending. -/
  excess : List ListenerCallbacks

namespace CallbackHistory

def empty : CallbackHistory :=
  ⟨[], [], [], []⟩

variable (history : CallbackHistory)

def finalize (handle : CallbackHandle Stats) : CallbackHistory :=
  if handle.name ∈ history.unfinalized then
    { history with unfinalized := history.unfinalized.erase handle.name }
  else { history with excess := history.excess ++ [handle.transaction] }

def step : TransactionCompletedThread.Call Stats Fence → CallbackHistory
  | .startRegistration transaction _ =>
    if transaction ∈ history.registering then history
    else
      { history with
        started := history.started ++ [transaction]
        registering := history.registering ++ [transaction] }
  | .endRegistration transaction =>
    { history with registering := history.registering.eraseP transaction.equal }
  | .registerPendingCallbackHandle handle =>
    { history with unfinalized := history.unfinalized ++ [handle.name] }
  | .registerUnpresentedCallbackHandle _ => history
  | .finalizePendingCallbackHandles handles => handles.foldl finalize history
  | .addPresentFence _ => history
  | .round _ => history

def startedBy (listener : Nat) : List (List CallbackId) :=
  (history.started.filter (·.listener = listener)).map (·.callbackIds)

def unfinalizedOf (transaction : ListenerCallbacks) : List HandleName :=
  history.unfinalized.filter (·.2 = transaction)

lemma length_unfinalizedOf_register (handle : CallbackHandle Stats) (tx : ListenerCallbacks) :
    (unfinalizedOf { history with unfinalized := history.unfinalized ++ [handle.name] }
      tx).length = (history.unfinalizedOf tx).length +
        if tx = handle.transaction then 1 else 0 := by
  simp only [unfinalizedOf, filter_append, length_append]
  by_cases same : tx = handle.transaction
  · simp [same, CallbackHandle.name]
  · simp [same, Ne.symm same, CallbackHandle.name]

/-- What the callers keep to: a transaction has callback ids whose first one is
new to the listener, its handles are registered while it is registering, and
listeners stay alive. -/
def Proper : TransactionCompletedThread.Call Stats Fence → Prop
  | .startRegistration transaction linkToDeath =>
    linkToDeath = true ∧ transaction.callbackIds ≠ [] ∧ (transaction ∈ history.registering ∨
        ∀ other ∈ history.started, transaction.equal other = false)
  | .registerPendingCallbackHandle handle => handle.transaction ∈ history.registering
  | .registerUnpresentedCallbackHandle handle => handle.transaction ∈ history.registering
  | .round isBinderAlive => ∀ listener, isBinderAlive listener = true
  | _ => True

end CallbackHistory

namespace TransactionCompletedThread

variable (peer : Nat)

/-! ## Calls that keep the transactions in place -/

def waitingIds (thread : TransactionCompletedThread Stats Fence) (listener : Nat) :
    List (List CallbackId) :=
  (thread.waiting listener).map (·.callbackIds)

/-- The records are the same up to what the transactions carry. -/
structure Steady (thread thread' : TransactionCompletedThread Stats Fence) : Prop where
  mRunning : thread'.mRunning = thread.mRunning
  registering : thread'.mRegisteringTransactions = thread.mRegisteringTransactions
  waitingIds : ∀ listener, thread'.waitingIds listener = thread.waitingIds listener
  sent : ∀ listener, thread'.sent listener = thread.sent listener

namespace Steady

lemma refl (thread : TransactionCompletedThread Stats Fence) : Steady thread thread :=
  ⟨rfl, rfl, fun _ => rfl, fun _ => rfl⟩

lemma trans (first : Steady thread thread') (second : Steady thread' thread'') :
    Steady thread thread'' where
  mRunning := second.mRunning.trans first.mRunning
  registering := second.registering.trans first.registering
  waitingIds peer := (second.waitingIds peer).trans (first.waitingIds peer)
  sent peer := (second.sent peer).trans (first.sent peer)

end Steady

variable (thread : TransactionCompletedThread Stats Fence)

@[simp] lemma waiting_setCompleted (peer other : Nat)
    (deque : Option (List (TransactionStats Stats Fence))) :
    (thread.setCompleted peer deque).waiting other =
      if other = peer then deque.getD [] else thread.waiting other := by
  by_cases same : other = peer <;> simp [waiting, setCompleted, same]

variable (tx : ListenerCallbacks)

lemma steady_setPending (count : Nat) : Steady thread (thread.setPending tx count) :=
  ⟨rfl, rfl, fun _ => rfl, fun _ => rfl⟩

lemma steady_setCompleted {peer : Nat} (ids : deque.map (·.callbackIds) = thread.waitingIds peer) :
    Steady thread (thread.setCompleted peer (some deque)) := by
  refine ⟨rfl, rfl, fun other => ?_, fun _ => rfl⟩
  by_cases same : other = peer
  · simp [waitingIds, waiting_setCompleted, same, ids]
  · simp [waitingIds, waiting_setCompleted, same]

lemma steady_touchCompleted : Steady thread (thread.touchCompleted peer) :=
  thread.steady_setCompleted rfl

lemma waitingIds_append (peer other : Nat) (callbackIds : List CallbackId) :
    (thread.setCompleted peer
      (some (thread.waiting peer ++ [⟨callbackIds, -1, none, []⟩]))).waitingIds other =
      if other = peer then thread.waitingIds other ++ [callbackIds]
      else thread.waitingIds other := by
  by_cases same : other = peer
  · simp [waitingIds, waiting_setCompleted, same]
  · simp [waitingIds, waiting_setCompleted, same]

variable (handle : CallbackHandle Stats)

lemma pending_increment :
    (thread.setPending handle.transaction (thread.mPendingTransactions handle.transaction + 1)
      ).mPendingTransactions tx = thread.mPendingTransactions tx +
        if tx = handle.transaction then 1 else 0 := by
  by_cases same : tx = handle.transaction <;> simp [setPending, same]

lemma map_callbackIds_addToLast (deque : List (TransactionStats Stats Fence)) :
    (addToLast handle deque).map (·.callbackIds) = deque.map (·.callbackIds) := by
  unfold addToLast
  dsimp only
  cases deque.reverse.findIdx? _ with
  | none => rfl
  | some i =>
    have kept : ∀ (list : List (TransactionStats Stats Fence)) (i : Nat),
        (list.modify i (addStats handle)).map (·.callbackIds) = list.map (·.callbackIds) := by
      intro list
      induction list with
      | nil => simp
      | cons stats rest ih =>
        intro i
        cases i with
        | zero => rfl
        | succ i => simp [modify_succ_cons, ih]
    simp [map_reverse, kept]

lemma steady_addCallbackHandle : Steady thread (thread.addCallbackHandle handle).1 := by
  have touched := thread.steady_touchCompleted handle.listener
  refine touched.trans (steady_setCompleted _ ?_)
  rw [map_callbackIds_addToLast]
  rfl

def finalizeHandle : TransactionCompletedThread Stats Fence × Bool :=
  (thread.setPending handle.transaction
    (thread.mPendingTransactions handle.transaction - 1)).addCallbackHandle handle

lemma finalizeHandles_cons (rest : List (CallbackHandle Stats)) :
    thread.finalizeHandles (handle :: rest) = if (thread.finalizeHandle handle).2 then
        (thread.finalizeHandle handle).1.finalizeHandles rest
      else (thread.finalizeHandle handle).1 :=
  rfl

lemma steady_finalizeHandle : Steady thread (thread.finalizeHandle handle).1 :=
  (thread.steady_setPending _ _).trans (steady_addCallbackHandle _ handle)

lemma pending_finalizeHandle : (thread.finalizeHandle handle).1.mPendingTransactions tx =
      thread.mPendingTransactions tx - if tx = handle.transaction then 1 else 0 := by
  by_cases same : tx = handle.transaction <;>
    simp [finalizeHandle, addCallbackHandle, touchCompleted, setCompleted, setPending, same]

lemma steady_finalizeHandles (held : List (CallbackHandle Stats)) :
    Steady thread (thread.finalizeHandles held) := by
  induction held generalizing thread with
  | nil => exact .refl thread
  | cons handle rest ih =>
    have turn := thread.steady_finalizeHandle handle
    rw [finalizeHandles_cons]
    split
    · exact turn.trans (ih _)
    · exact turn

lemma Steady.hasTransactionStats {thread : TransactionCompletedThread Stats Fence}
    (same : Steady thread thread') (peer : Nat) (callbackIds : List CallbackId) :
    thread'.hasTransactionStats peer callbackIds = thread.hasTransactionStats peer callbackIds := by
  have asIds : ∀ thread : TransactionCompletedThread Stats Fence,
      thread.hasTransactionStats peer callbackIds =
        (thread.waitingIds peer).any (compareCallbackIds · callbackIds == 0) := by
    intro thread
    rw [TransactionCompletedThread.hasTransactionStats, TransactionCompletedThread.waitingIds,
      any_map]
    rfl
  rw [asIds, asIds, same.waitingIds]

lemma addCallbackHandle_found : (thread.addCallbackHandle handle).2 =
      thread.hasTransactionStats handle.listener handle.callbackIds :=
  (thread.steady_touchCompleted handle.listener).hasTransactionStats _ _

lemma finalizeHandle_found : (thread.finalizeHandle handle).2 =
      thread.hasTransactionStats handle.listener handle.callbackIds :=
  (addCallbackHandle_found _ handle).trans ((thread.steady_setPending _ _).hasTransactionStats _ _)

lemma hasTransactionStats_of_mem {peer : Nat} (mem : callbackIds ∈ thread.waitingIds peer) :
    thread.hasTransactionStats peer callbackIds = true := by
  rcases mem_map.mp mem with ⟨stats, listed, rfl⟩
  have zero : compareCallbackIds stats.callbackIds stats.callbackIds = 0 := by
    unfold compareCallbackIds
    cases stats.callbackIds.head? <;> simp
  apply any_eq_true.mpr
  exact ⟨stats, listed, by simp [zero]⟩

/-! ## A round -/

lemma takeCompleted_append (deque : List (TransactionStats Stats Fence)) :
    (thread.takeCompleted peer deque).1.map (·.callbackIds) ++
        (thread.takeCompleted peer deque).2.map (·.callbackIds) = deque.map (·.callbackIds) := by
  induction deque with
  | nil => rfl
  | cons stats rest ih =>
    simp only [takeCompleted]
    split
    · rfl
    · split
      · rfl
      · split
        · rfl
        · split <;> simp [ih]

lemma takeCompleted_complete (taken : stats ∈ (thread.takeCompleted peer deque).1) :
    thread.isRegisteringTransaction ⟨peer, stats.callbackIds⟩ = false ∧
      thread.mPendingTransactions ⟨peer, stats.callbackIds⟩ = 0 := by
  induction deque with
  | nil => cases taken
  | cons head rest ih =>
    simp only [takeCompleted] at taken
    split at taken
    · cases taken
    · rename_i closed
      split at taken
      · cases taken
      · rename_i none
        split at taken
        · cases taken
        · rcases mem_cons.mp taken with same | later
          · have ids : stats.callbackIds = head.callbackIds := by
              rw [same]
              split <;> rfl
            rw [ids]
            exact ⟨by simpa using closed, by simpa using none⟩
          · exact ih later

lemma takeCompleted_registering (listed : callbackIds ∈ deque.map (·.callbackIds))
    (registering : thread.isRegisteringTransaction ⟨peer, callbackIds⟩ = true) :
    callbackIds ∈ (thread.takeCompleted peer deque).2.map (·.callbackIds) := by
  rw [← thread.takeCompleted_append peer deque] at listed
  rcases mem_append.mp listed with taken | stays
  · rcases mem_map.mp taken with ⟨stats, mem, rfl⟩
    rw [(thread.takeCompleted_complete peer mem).1] at registering
    cases registering
  · exact stays

lemma takeCompleted_none (none : (thread.takeCompleted peer deque).1 = []) :
    (thread.takeCompleted peer deque).2 = deque := by
  cases deque with
  | nil => rfl
  | cons stats rest =>
    simp only [takeCompleted] at none ⊢
    split at none
    · simp [*]
    · split at none
      · simp [*]
      · split at none
        · simp [*]
        · cases none

lemma getD_remaining : (thread.remaining peer true).getD [] =
      (thread.takeCompleted peer (thread.waiting peer)).2 := by
  unfold remaining
  dsimp only
  split
  · rename_i none
    rw [thread.takeCompleted_none peer (isEmpty_iff.mp none)]
    rfl
  · split
    · rfl
    · rename_i rest
      have empty : (thread.takeCompleted peer (thread.waiting peer)).2 = [] := by
        simpa using rest
      rw [empty]
      rfl

end TransactionCompletedThread

/-! ## The thread and its history -/

structure Tracked (Stats Fence : Type) where
  thread : TransactionCompletedThread Stats Fence
  history : CallbackHistory

namespace Tracked

open TransactionCompletedThread

def create : Tracked Stats Fence :=
  ⟨TransactionCompletedThread.create, CallbackHistory.empty⟩

variable (tracked : Tracked Stats Fence) (call : Call Stats Fence)

def step : Tracked Stats Fence :=
  ⟨tracked.thread.step call, tracked.history.step call⟩

def Proper : Prop :=
  tracked.history.Proper call

structure Agrees (tracked : Tracked Stats Fence) : Prop where
  running : tracked.history.started ≠ [] → tracked.thread.mRunning = true
  registering : tracked.thread.mRegisteringTransactions = tracked.history.registering
  started : ∀ transaction ∈ tracked.history.registering, transaction ∈ tracked.history.started
  distinct : tracked.history.started.Pairwise fun l r => l.equal r = false
  order : ∀ listener,
    (tracked.thread.sent listener).map (·.callbackIds) ++ tracked.thread.waitingIds listener =
      tracked.history.startedBy listener
  waiting : ∀ transaction ∈ tracked.history.registering, transaction.callbackIds ∈
      tracked.thread.waitingIds transaction.listener
  pending : ∀ transaction, (tracked.history.unfinalizedOf transaction).length ≤
      tracked.thread.mPendingTransactions transaction + tracked.history.excess.count transaction

end Tracked

namespace Tracked.Agrees

open TransactionCompletedThread

variable {tracked : Tracked Stats Fence} {thread : TransactionCompletedThread Stats Fence}
  {history : CallbackHistory}

section

variable (agreed : tracked.Agrees)
include agreed

lemma steady (same : Steady tracked.thread thread)
    (started : history.started = tracked.history.started)
    (registering : history.registering = tracked.history.registering)
    (pending : ∀ tx, (history.unfinalizedOf tx).length ≤
      thread.mPendingTransactions tx + history.excess.count tx) : Agrees ⟨thread, history⟩ := by
  cases history
  cases started
  cases registering
  refine ⟨fun some => same.mRunning.trans (agreed.running some),
    same.registering.trans agreed.registering, agreed.started, agreed.distinct, ?_, ?_, pending⟩
  · intro peer
    rw [same.sent, same.waitingIds]
    exact agreed.order peer
  · intro tx mem
    rw [same.waitingIds]
    exact agreed.waiting tx mem

lemma isRegistering_iff (mem : tx ∈ tracked.history.registering) :
    tracked.thread.isRegisteringTransaction tx = true := by
  rw [isRegisteringTransaction, agreed.registering]
  exact any_eq_true.mpr ⟨tx, mem, tx.equal_self⟩

lemma startRegistration (proper : tracked.Proper (.startRegistration tx linkToDeath)) :
    (tracked.step (.startRegistration tx linkToDeath)).Agrees := by
  simp only [Tracked.step, CallbackHistory.step, TransactionCompletedThread.step,
    TransactionCompletedThread.startRegistration]
  rcases proper with ⟨linked, _, known | fresh⟩
  · -- another surface of a transaction that is already registering
    have regs : tracked.thread.run.isRegisteringTransaction tx = true :=
      agreed.isRegistering_iff known
    rw [if_pos regs, if_pos known]
    exact { agreed with running := fun _ => rfl }
  · have unk : tx ∉ tracked.history.registering := by
      intro mem
      have ne := fresh tx (agreed.started tx mem)
      rw [tx.equal_self] at ne
      cases ne
    have regs : tracked.thread.run.isRegisteringTransaction tx = false := by
      apply any_eq_false.mpr
      intro other mem
      have listed : other ∈ tracked.thread.mRegisteringTransactions := mem
      rw [agreed.registering] at listed
      simp [fresh other (agreed.started other listed)]
    simp only [unk, regs, linked, Bool.false_eq_true, if_false, Bool.true_eq_false, and_false]
    constructor
    · intro _
      rfl
    · exact congrArg (· ++ [tx]) agreed.registering
    · exact forall_mem_append.2 ⟨fun other old => mem_append_left _ (agreed.started other
        old), fun _ new => mem_append_right _ new⟩
    · apply pairwise_append.mpr
      refine ⟨agreed.distinct, pairwise_singleton _ _, ?_⟩
      intro other mem new same
      rw [mem_singleton.mp same, ListenerCallbacks.equal_comm]
      exact fresh other mem
    · intro peer
      have order := agreed.order peer
      rw [waitingIds_append, CallbackHistory.startedBy, filter_append, map_append]
      by_cases same : peer = tx.listener
      · have mine : tx.listener = peer := same.symm
        rw [if_pos same, ← append_assoc]
        simp only [filter_cons, mine, decide_true, if_true, filter_nil, map_cons, map_nil]
        exact congrArg (· ++ [tx.callbackIds]) order
      · have other : ¬ tx.listener = peer := Ne.symm same
        rw [if_neg same]
        simp only [filter_cons, other, decide_false, Bool.false_eq_true, if_false,
          filter_nil, map_nil, append_nil]
        exact order
    · intro other mem
      rw [waitingIds_append]
      rcases mem_append.mp mem with old | new
      · have waits := agreed.waiting other old
        split
        · exact mem_append_left _ waits
        · exact waits
      · rw [mem_singleton.mp new, if_pos rfl]
        exact mem_append_right _ mem_cons_self
    · exact agreed.pending

lemma running_of_registering (mem : tx ∈ tracked.history.registering) :
    tracked.thread.mRunning = true :=
  agreed.running (ne_nil_of_mem (agreed.started tx mem))

lemma endRegistration (tx : ListenerCallbacks) : (tracked.step (.endRegistration tx)).Agrees := by
  have fewer : ∀ other ∈ tracked.history.registering.eraseP tx.equal,
      other ∈ tracked.history.registering := fun other mem => mem_of_mem_eraseP mem
  have ended : tracked.thread.endRegistration tx = { tracked.thread with
      mRegisteringTransactions := tracked.history.registering.eraseP tx.equal } := by
    rw [TransactionCompletedThread.endRegistration, agreed.registering]
    split
    · rename_i stop
      -- nothing was ever registered
      cases known : tracked.history.registering with
      | nil => rw [eraseP_nil, ← known, ← agreed.registering]
      | cons first rest =>
        have running := agreed.running_of_registering (known ▸ mem_cons_self : first ∈ _)
        simp [running] at stop
    · rfl
  rw [Tracked.step, TransactionCompletedThread.step, ended]
  exact { agreed with
    registering := rfl
    started := fun other mem => agreed.started other (fewer other mem)
    waiting := fun other mem => agreed.waiting other (fewer other mem) }

lemma registerPendingCallbackHandle
    (proper : tracked.Proper (.registerPendingCallbackHandle handle)) :
    (tracked.step (.registerPendingCallbackHandle handle)).Agrees := by
  have mem : handle.transaction ∈ tracked.history.registering := proper
  have touched := tracked.thread.steady_touchCompleted handle.listener
  have hit : (tracked.thread.touchCompleted handle.listener).hasTransactionStats
      handle.listener handle.callbackIds = true := by
    apply hasTransactionStats_of_mem
    rw [touched.waitingIds]
    exact agreed.waiting handle.transaction mem
  simp only [Tracked.step, CallbackHistory.step, TransactionCompletedThread.step,
    TransactionCompletedThread.registerPendingCallbackHandle, hit,
    agreed.running_of_registering mem, Bool.not_true, Bool.false_eq_true, if_false, if_true]
  apply agreed.steady (touched.trans (steady_setPending _ _ _))
  · rfl
  · rfl
  intro tx
  have old := agreed.pending tx
  rw [tracked.history.length_unfinalizedOf_register, pending_increment]
  exact Nat.le_trans (Nat.add_le_add_right old _) (Nat.add_right_comm _ _ _).le

lemma registerUnpresentedCallbackHandle (handle : CallbackHandle Stats) :
    Agrees ⟨tracked.thread.registerUnpresentedCallbackHandle handle, tracked.history⟩ := by
  unfold TransactionCompletedThread.registerUnpresentedCallbackHandle
  split
  · exact agreed
  · exact agreed.steady (steady_addCallbackHandle _ handle) rfl rfl agreed.pending

end

lemma length_unfinalizedOf_finalize (history : CallbackHistory)
    (handle : CallbackHandle Stats) (tx : ListenerCallbacks) :
    ((history.finalize handle).unfinalizedOf tx).length + history.excess.count tx +
        (if tx = handle.transaction then 1 else 0) = (history.unfinalizedOf tx).length +
        (history.finalize handle).excess.count tx := by
  unfold CallbackHistory.finalize
  split
  · rename_i pending
    have lengths := ((perm_cons_erase pending).filter (·.2 = tx)).length_eq
    simp only [CallbackHistory.unfinalizedOf, CallbackHandle.name, filter_cons,
      decide_eq_true_eq, eq_comm (a := tx)] at lengths ⊢
    split at lengths <;> simp_all
    omega
  · simp only [CallbackHistory.unfinalizedOf, count_append, count_singleton, beq_iff_eq,
      eq_comm (a := tx)]
    omega

def Covers (thread : TransactionCompletedThread Stats Fence) (history : CallbackHistory) : Prop :=
  ∀ transaction, (history.unfinalizedOf transaction).length ≤
    thread.mPendingTransactions transaction + history.excess.count transaction

variable (held : List (CallbackHandle Stats))

lemma covers_skip (cov : Covers thread history) :
    Covers thread (held.foldl .finalize history) := by
  induction held generalizing history with
  | nil => exact cov
  | cons handle rest ih =>
    apply ih
    intro tx
    have count := length_unfinalizedOf_finalize history handle tx
    have old := cov tx
    omega

/-- The loop may end early; the handles behind then stay pending for the
thread. -/
lemma covers_finalizeHandles (cov : Covers thread history) :
    Covers (thread.finalizeHandles held) (held.foldl .finalize history) := by
  induction held generalizing thread history with
  | nil => exact cov
  | cons handle rest ih =>
    have counts : Covers (thread.finalizeHandle handle).1 (history.finalize handle) := by
      intro tx
      have count := length_unfinalizedOf_finalize history handle tx
      have old := cov tx
      rw [pending_finalizeHandle]
      omega
    rw [finalizeHandles_cons, foldl_cons]
    split
    · exact ih counts
    · exact covers_skip rest counts

lemma foldl_finalize_started (history : CallbackHistory) :
    (held.foldl .finalize history).started = history.started ∧
      (held.foldl .finalize history).registering = history.registering := by
  induction held generalizing history with
  | nil => exact ⟨rfl, rfl⟩
  | cons handle rest ih =>
    have one : (history.finalize handle).started = history.started ∧
        (history.finalize handle).registering = history.registering := by
      unfold CallbackHistory.finalize
      split <;> exact ⟨rfl, rfl⟩
    have others := ih (history.finalize handle)
    exact ⟨others.1.trans one.1, others.2.trans one.2⟩

lemma finalizePendingCallbackHandles (agreed : tracked.Agrees) (held : List (CallbackHandle Stats)) :
    (tracked.step (.finalizePendingCallbackHandles held)).Agrees := by
  have kept := foldl_finalize_started held tracked.history
  simp only [Tracked.step, TransactionCompletedThread.step,
    TransactionCompletedThread.finalizePendingCallbackHandles]
  split
  · exact agreed.steady (.refl _) kept.1 kept.2 (covers_skip held agreed.pending)
  · exact agreed.steady (steady_finalizeHandles _ held) kept.1 kept.2
      (covers_finalizeHandles held agreed.pending)

lemma round (agreed : tracked.Agrees) (proper : tracked.Proper (.round isBinderAlive)) :
    Agrees ⟨tracked.thread.round isBinderAlive, tracked.history⟩ := by
  have alive : ∀ peer, isBinderAlive peer = true := proper
  unfold TransactionCompletedThread.round
  split
  · exact agreed
  · exact { agreed with
      order := by
        intro peer
        have parts := tracked.thread.takeCompleted_append peer (tracked.thread.waiting peer)
        have order := agreed.order peer
        simp only [waitingIds, TransactionCompletedThread.waiting, alive, completed, if_true,
          map_append, append_assoc] at order ⊢
        rw [getD_remaining]
        rw [← order]
        exact congrArg _ parts
      waiting := by
        intro tx mem
        simp only [waitingIds, TransactionCompletedThread.waiting, alive]
        rw [getD_remaining]
        exact tracked.thread.takeCompleted_registering _ (agreed.waiting tx mem)
          (agreed.isRegistering_iff mem) }

lemma step (tracked : Tracked Stats Fence) (call : Call Stats Fence) (agreed : tracked.Agrees)
    (proper : tracked.Proper call) : (tracked.step call).Agrees := by
  cases call with
  | startRegistration tx linkToDeath => exact agreed.startRegistration proper
  | endRegistration tx => exact agreed.endRegistration tx
  | registerPendingCallbackHandle handle => exact agreed.registerPendingCallbackHandle proper
  | registerUnpresentedCallbackHandle handle =>
    exact agreed.registerUnpresentedCallbackHandle handle
  | finalizePendingCallbackHandles held => exact agreed.finalizePendingCallbackHandles held
  | addPresentFence presentFence =>
    exact agreed.steady ⟨rfl, rfl, fun _ => rfl, fun _ => rfl⟩ rfl rfl agreed.pending
  | round alive => exact agreed.round proper

lemma create : (Tracked.create : Tracked Stats Fence).Agrees where
  running none := absurd rfl none
  registering := rfl
  started _ mem := by cases mem
  distinct := .nil
  order _ := rfl
  waiting _ mem := by cases mem
  pending _ := Nat.zero_le _

lemma nodup_startedBy (agreed : tracked.Agrees) (peer : Nat) :
    (tracked.history.startedBy peer).Nodup := by
  apply pairwise_map.mpr
  apply List.Pairwise.imp_of_mem _ (agreed.distinct.filter _)
  intro l r memL memR ne same
  have listenerL := (mem_filter.mp memL).2
  have listenerR := (mem_filter.mp memR).2
  simp only [decide_eq_true_eq] at listenerL listenerR
  rw [ListenerCallbacks.equal, listenerL, listenerR, same] at ne
  simp at ne

end Tracked.Agrees

namespace TransactionCompletedThread

structure Frame (thread : TransactionCompletedThread Stats Fence) (call : Call Stats Fence)
    (after : TransactionCompletedThread Stats Fence) : Prop where
  running : thread.mRunning = true → after.mRunning = true
  sent : (∀ isBinderAlive, call ≠ .round isBinderAlive) → after.sent = thread.sent
  pending : (∀ handle, call ≠ .registerPendingCallbackHandle handle) →
    (∀ handles, call ≠ .finalizePendingCallbackHandles handles) →
    after.mPendingTransactions = thread.mPendingTransactions

variable (thread : TransactionCompletedThread Stats Fence) (call : Call Stats Fence)

lemma step_frame : Frame thread call (thread.step call) := by
  cases call with
  | startRegistration tx linkToDeath =>
    simp only [step, startRegistration]
    split
    · exact ⟨fun _ => rfl, fun _ => rfl, fun _ _ => rfl⟩
    · split <;> exact ⟨fun _ => rfl, fun _ => rfl, fun _ _ => rfl⟩
  | endRegistration tx =>
    simp only [step, endRegistration]
    split <;> exact ⟨id, fun _ => rfl, fun _ _ => rfl⟩
  | registerPendingCallbackHandle handle =>
    simp only [step, registerPendingCallbackHandle]
    split
    · exact ⟨id, fun _ => rfl, fun _ _ => rfl⟩
    · split
      · exact ⟨id, fun _ => rfl, fun other => absurd rfl (other handle)⟩
      · exact ⟨id, fun _ => rfl, fun _ _ => rfl⟩
  | registerUnpresentedCallbackHandle handle =>
    simp only [step, registerUnpresentedCallbackHandle]
    split <;> exact ⟨id, fun _ => rfl, fun _ _ => rfl⟩
  | finalizePendingCallbackHandles held =>
    have steady := thread.steady_finalizeHandles held
    simp only [step, finalizePendingCallbackHandles]
    split
    · exact ⟨id, fun _ => rfl, fun _ _ => rfl⟩
    · exact ⟨steady.mRunning.trans, fun _ => funext steady.sent,
        fun _ other => absurd rfl (other held)⟩
  | addPresentFence presentFence => exact ⟨id, fun _ => rfl, fun _ _ => rfl⟩
  | round alive =>
    simp only [step, round]
    split
    · exact ⟨id, fun _ => rfl, fun _ _ => rfl⟩
    · exact ⟨id, fun other => absurd rfl (other alive), fun _ _ => rfl⟩

lemma sent_step (peer : Nat) : ∃ new, (thread.step call).sent peer = thread.sent peer ++ new ∧
      ∀ stats ∈ new, thread.isRegisteringTransaction ⟨peer, stats.callbackIds⟩ = false ∧
        thread.mPendingTransactions ⟨peer, stats.callbackIds⟩ = 0 := by
  by_cases isRound : ∃ isBinderAlive, call = .round isBinderAlive
  · rcases isRound with ⟨isBinderAlive, rfl⟩
    simp only [step, round]
    split
    · exact ⟨[], (append_nil _).symm, nofun⟩
    · refine ⟨_, rfl, ?_⟩
      intro stats mem
      unfold completed at mem
      split at mem
      · exact thread.takeCompleted_complete peer mem
      · cases mem
  · have same := (thread.step_frame call).sent fun alive round => isRound ⟨alive, round⟩
    exact ⟨[], by rw [same, append_nil], nofun⟩

end TransactionCompletedThread

namespace Tracked

/-- Over every proper run: a listener is sent its transactions in the order in
which their registration started, each at most once; and what a call sends is
not registering and has no more unfinalized handles than were finalized without
being pending, so none if handles are only finalized while they are pending. -/
theorem callbacks_in_order (calls : List (TransactionCompletedThread.Call Stats Fence))
    (proper : Along step Proper create calls) (listener : Nat) :
    ((Machine.run step create calls).thread.sent listener).map (·.callbackIds) <+:
        (Machine.run step create calls).history.startedBy listener ∧
      ((Machine.run step create calls).history.startedBy listener).Nodup ∧
      ∀ call, ∃ new, ((Machine.run step create calls).step call).thread.sent listener =
          (Machine.run step create calls).thread.sent listener ++ new ∧ ∀ stats ∈ new,
          ⟨listener, stats.callbackIds⟩ ∉ (Machine.run step create calls).history.registering ∧
          ((Machine.run step create calls).history.unfinalizedOf
              ⟨listener, stats.callbackIds⟩).length ≤
            (Machine.run step create calls).history.excess.count ⟨listener, stats.callbackIds⟩ ∧
          (⟨listener, stats.callbackIds⟩ ∉ (Machine.run step create calls).history.excess →
            (Machine.run step create calls).history.unfinalizedOf
              ⟨listener, stats.callbackIds⟩ = []) := by
  have agrees : (Machine.run step create calls).Agrees :=
    Machine.run_invariant Agrees.step Agrees.create proper
  generalize Machine.run step create calls = tracked at agrees
  refine ⟨⟨_, agrees.order listener⟩, agrees.nodup_startedBy listener, fun call => ?_⟩
  rcases tracked.thread.sent_step call listener with ⟨new, sent, complete⟩
  refine ⟨new, sent, fun stats mem => ?_⟩
  rcases complete stats mem with ⟨closed, none⟩
  have cov := agrees.pending ⟨listener, stats.callbackIds⟩
  rw [none, Nat.zero_add] at cov
  refine ⟨?_, cov, ?_⟩
  · intro registering
    rw [agrees.isRegistering_iff registering] at closed
    cases closed
  · intro noExcess
    rw [count_eq_zero_of_not_mem noExcess] at cov
    exact length_eq_zero_iff.mp (Nat.le_zero.mp cov)

def latchedHandle : CallbackHandle Unit :=
  ⟨0, 1, [10], 5, some ()⟩

def twoTransactions : List (TransactionCompletedThread.Call Unit Unit) :=
  [.startRegistration ⟨1, [10]⟩ true, .registerPendingCallbackHandle latchedHandle,
    .endRegistration ⟨1, [10]⟩, .startRegistration ⟨1, [20]⟩ true, .endRegistration ⟨1, [20]⟩,
    .round fun _ => true, .finalizePendingCallbackHandles [latchedHandle],
    .addPresentFence (some ()), .round fun _ => true]

theorem callbacks_in_order_twoTransactions : Along step Proper create twoTransactions ∧
      ((Machine.run step create twoTransactions).thread.sent 1).map (·.callbackIds) = [[10], [20]] ∧
      ((Machine.run step create twoTransactions).thread.sent 1).map (·.callbackIds) <+:
        (Machine.run step create twoTransactions).history.startedBy 1 := by
  have proper : Along step Proper create twoTransactions := by
    refine ⟨⟨rfl, by decide, .inr (by simp [create, CallbackHistory.empty])⟩, ?_, trivial,
      ⟨rfl, by decide, .inr ?_⟩, trivial, fun _ => rfl, trivial, trivial, fun _ => rfl, trivial⟩
    · exact mem_singleton.mpr rfl
    · intro other mem
      rw [mem_singleton.mp mem]
      rfl
  exact ⟨proper, rfl, (callbacks_in_order twoTransactions proper 1).1⟩

end Tracked

end NativeLibs.Flinger
