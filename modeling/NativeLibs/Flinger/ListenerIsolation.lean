import NativeLibs.Flinger.CallbackOrder

/-! # Listeners that die

The records of a listener that died are dropped by a round while layers may
still hold its handles. A handle whose transaction is not recorded ends the
loop of `finalizePendingCallbackHandles`, so the handles behind it in the list
stay pending. As long as no such handle stands before a handle of a listener
that lives, the listeners that live are served as if there were no others. -/

namespace NativeLibs.Flinger

open Composer (ListenerCallbacks)
open Machine (Along)
open List CallbackHandle

variable {Stats Fence : Type}

namespace TransactionCompletedThread

variable (live : Nat → Bool)

def Call.only : Call Stats Fence → Option (Call Stats Fence)
  | .startRegistration transaction linkToDeath =>
    if live transaction.listener then some (.startRegistration transaction linkToDeath)
    else none
  | .endRegistration transaction =>
    if live transaction.listener then some (.endRegistration transaction)
    else none
  | .registerPendingCallbackHandle handle =>
    if live handle.listener then some (.registerPendingCallbackHandle handle) else none
  | .registerUnpresentedCallbackHandle handle =>
    if live handle.listener then some (.registerUnpresentedCallbackHandle handle) else none
  | .finalizePendingCallbackHandles handles =>
    some (.finalizePendingCallbackHandles (handles.filter (live ·.listener)))
  | .addPresentFence presentFence => some (.addPresentFence presentFence)
  | .round isBinderAlive => some (.round isBinderAlive)

variable (thread : TransactionCompletedThread Stats Fence)

/-- No handle whose transaction is not recorded stands before a handle of a live
listener. -/
def NoneBehind (handles : List (CallbackHandle Stats)) : Prop :=
  handles.Pairwise fun earlier later => live later.listener = true →
    thread.hasTransactionStats earlier.listener earlier.callbackIds = true

def Prompt : Call Stats Fence → Prop
  | .finalizePendingCallbackHandles handles => NoneBehind live thread handles
  | _ => True

/-- If the loop goes on, the condition holds for the rest; if it ends, no live
listener has a handle behind. -/
lemma NoneBehind.next (prompt : NoneBehind live thread (held :: rest)) :
    NoneBehind live (thread.finalizeHandle held).1 rest ∧ (¬ (thread.finalizeHandle held).2 = true →
        ∀ other ∈ rest, live other.listener = false) := by
  have parts := pairwise_cons.mp prompt
  constructor
  · apply parts.2.imp
    intro prior later hit lives
    rw [(thread.steady_finalizeHandle held).hasTransactionStats]
    exact hit lives
  · intro missing other mem
    by_contra lives
    apply missing
    rw [finalizeHandle_found]
    exact parts.1 other mem (by simpa using lives)

/-! ## The threads of the live listeners -/

section Only

variable (live : Nat → Bool) (thread : TransactionCompletedThread Stats Fence) (peer : Nat)

def only : TransactionCompletedThread Stats Fence :=
  { thread with
    mRegisteringTransactions := thread.mRegisteringTransactions.filter (live ·.listener)
    mPendingTransactions := fun transaction =>
      if live transaction.listener then thread.mPendingTransactions transaction else 0
    mCompletedTransactions := fun listener =>
      if live listener then thread.mCompletedTransactions listener else none
    sent := fun listener => if live listener then thread.sent listener else [] }

@[simp] lemma mCompletedTransactions_only : (thread.only live).mCompletedTransactions peer =
      if live peer then thread.mCompletedTransactions peer else none := rfl

@[simp] lemma sent_only :
    (thread.only live).sent peer = if live peer then thread.sent peer else [] := rfl

@[simp] lemma waiting_only :
    (thread.only live).waiting peer = if live peer then thread.waiting peer else [] := by
  cases lives : live peer <;> simp [waiting, lives]

lemma only_setCompleted (deque : Option (List (TransactionStats Stats Fence))) :
    (thread.setCompleted peer deque).only live =
      if live peer then (thread.only live).setCompleted peer deque else thread.only live := by
  cases lives : live peer
  all_goals
    simp only [only, setCompleted, Bool.false_eq_true, if_false, if_true]
    congr 1
    funext other
    by_cases same : other = peer <;> simp [same, lives]

lemma only_setPending (tx : ListenerCallbacks) (count : Nat) :
    (thread.setPending tx count).only live =
      if live tx.listener then (thread.only live).setPending tx count else thread.only live := by
  cases lives : live tx.listener
  all_goals
    simp only [only, setPending, Bool.false_eq_true, if_false, if_true]
    congr 1
    funext other
    by_cases same : other = tx <;> simp [same, lives]

variable {live} {tx : ListenerCallbacks}

lemma listener_eq_of_equal (eq : tx.equal other = true) : other.listener = tx.listener := by
  simp only [ListenerCallbacks.equal, Bool.and_eq_true, beq_iff_eq] at eq
  exact eq.1.symm

lemma isRegisteringTransaction_only (lives : live tx.listener = true) :
    (thread.only live).isRegisteringTransaction tx = thread.isRegisteringTransaction tx := by
  simp only [isRegisteringTransaction, only, any_filter]
  congr 1
  funext other
  cases eq : tx.equal other with
  | false => simp
  | true => simp [listener_eq_of_equal eq, lives]

lemma hasTransactionStats_only {peer : Nat} (lives : live peer = true)
    (callbackIds : List CallbackId) : (thread.only live).hasTransactionStats peer callbackIds =
      thread.hasTransactionStats peer callbackIds := by
  simp [hasTransactionStats, waiting_only, lives]

lemma takeCompleted_only {peer : Nat} (lives : live peer = true)
    (deque : List (TransactionStats Stats Fence)) :
    (thread.only live).takeCompleted peer deque = thread.takeCompleted peer deque := by
  induction deque with
  | nil => rfl
  | cons stats rest ih =>
    have regs : (thread.only live).isRegisteringTransaction ⟨peer, stats.callbackIds⟩ =
        thread.isRegisteringTransaction ⟨peer, stats.callbackIds⟩ :=
      thread.isRegisteringTransaction_only lives
    have pend : (thread.only live).mPendingTransactions ⟨peer, stats.callbackIds⟩ =
        thread.mPendingTransactions ⟨peer, stats.callbackIds⟩ := if_pos lives
    have presentFence : (thread.only live).mPresentFence = thread.mPresentFence := rfl
    simp only [takeCompleted, regs, pend, presentFence, ih]

lemma only_round (alive : Nat → Bool) :
    (thread.round alive).only live = (thread.only live).round alive := by
  have remains : ∀ peer, (thread.only live).remaining peer (alive peer) =
      if live peer then thread.remaining peer (alive peer) else none := by
    intro peer
    cases lives : live peer with
    | false => simp [remaining, lives, takeCompleted]
    | true => simp [remaining, lives, thread.takeCompleted_only lives]
  have sends : ∀ peer, (thread.only live).sent peer ++
      (thread.only live).completed peer (alive peer) =
      if live peer then thread.sent peer ++
        thread.completed peer (alive peer) else [] := by
    intro peer
    cases lives : live peer with
    | false => simp [completed, lives, takeCompleted]
    | true => simp [completed, lives, thread.takeCompleted_only lives]
  have runs : (thread.only live).mRunning = thread.mRunning := rfl
  unfold round
  simp only [remains, sends, runs]
  split <;> rfl

lemma only_touchCompleted : (thread.touchCompleted peer).only live =
      if live peer then (thread.only live).touchCompleted peer else thread.only live := by
  rw [touchCompleted, only_setCompleted, touchCompleted, waiting_only]
  split <;> rfl

section

variable (held)

lemma only_addCallbackHandle : (thread.addCallbackHandle held).1.only live =
      if live held.listener then ((thread.only live).addCallbackHandle held).1
      else thread.only live := by
  simp only [addCallbackHandle, only_setCompleted, only_touchCompleted]
  cases lives : live held.listener with
  | false => rfl
  | true =>
    have touched : (thread.touchCompleted held.listener).only live = _ :=
      thread.only_touchCompleted held.listener
    rw [lives, if_pos rfl] at touched
    rw [if_pos rfl, if_pos rfl, if_pos rfl, ← touched, waiting_only, lives, if_pos rfl]

lemma only_startRegistration (runs : thread.mRunning = true) (linkToDeath : Bool) :
    (thread.startRegistration tx linkToDeath).only live = if live tx.listener then
        (thread.only live).startRegistration tx linkToDeath else thread.only live := by
  have still : thread.run = thread := by rw [run, ← runs]
  have still' : (thread.only live).run = thread.only live := by
    rw [run, ← runs]
    rfl
  cases lives : live tx.listener with
  | false =>
    have kept : only live { thread with
        mRegisteringTransactions := thread.mRegisteringTransactions ++ [tx] } =
        thread.only live := by
      simp [only, filter_append, lives]
    simp only [startRegistration, still, Bool.false_eq_true, if_false]
    split
    · rfl
    · split
      · exact kept
      · rw [only_setCompleted, lives]
        exact kept
  | true =>
    have kept : only live { thread with
        mRegisteringTransactions := thread.mRegisteringTransactions ++ [tx] } =
        { thread.only live with
          mRegisteringTransactions :=
            (thread.only live).mRegisteringTransactions ++ [tx] } := by
      simp [only, filter_append, lives]
    simp only [startRegistration, still, still', thread.isRegisteringTransaction_only lives,
      ← kept, mCompletedTransactions_only, waiting_only, lives, if_true]
    split
    · rfl
    · split
      · rfl
      · rw [only_setCompleted, lives, if_pos rfl]

lemma filter_eraseP (list : List ListenerCallbacks) :
    (list.eraseP tx.equal).filter (live ·.listener) = if live tx.listener then
        (list.filter (live ·.listener)).eraseP tx.equal else list.filter (live ·.listener) := by
  induction list with
  | nil => simp
  | cons other rest ih =>
    cases eq : tx.equal other with
    | true =>
      have same := listener_eq_of_equal eq
      cases lives : live tx.listener <;> simp [eq, same, lives]
    | false =>
      cases other' : live other.listener <;>
        cases lives : live tx.listener <;> simp_all

lemma only_endRegistration (tx : ListenerCallbacks) : (thread.endRegistration tx).only live =
      if live tx.listener then (thread.only live).endRegistration tx else thread.only live := by
  have runs : (thread.only live).mRunning = thread.mRunning := rfl
  simp only [endRegistration, runs]
  split
  · simp
  · simp only [only, filter_eraseP]
    split <;> rfl

lemma only_registerPendingCallbackHandle : (thread.registerPendingCallbackHandle held).only live =
      if live held.listener then (thread.only live).registerPendingCallbackHandle held
      else thread.only live := by
  have runs : (thread.only live).mRunning = thread.mRunning := rfl
  have touched : (thread.touchCompleted held.listener).only live = _ :=
    thread.only_touchCompleted held.listener
  simp only [registerPendingCallbackHandle, runs]
  split
  · simp
  · cases lives : live held.listener with
    | false =>
      have dead : live held.transaction.listener = false := lives
      simp only [lives, Bool.false_eq_true, if_false] at touched ⊢
      split
      · rw [only_setPending, dead]
        exact touched
      · exact touched
    | true =>
      have lives' : live held.transaction.listener = true := lives
      have pend : ∀ other : TransactionCompletedThread Stats Fence,
          (other.only live).mPendingTransactions held.transaction =
            other.mPendingTransactions held.transaction := fun _ => if_pos lives
      rw [lives, if_pos rfl] at touched
      rw [if_pos rfl, ← touched, hasTransactionStats_only _ lives, pend]
      split
      · rw [only_setPending, lives', if_pos rfl]
      · rfl

lemma only_registerUnpresentedCallbackHandle :
    (thread.registerUnpresentedCallbackHandle held).only live =
      if live held.listener then (thread.only live).registerUnpresentedCallbackHandle held
      else thread.only live := by
  have runs : (thread.only live).mRunning = thread.mRunning := rfl
  simp only [registerUnpresentedCallbackHandle, runs]
  split
  · simp
  · exact thread.only_addCallbackHandle held

lemma only_finalizeHandle : (thread.finalizeHandle held).1.only live =
      if live held.listener then ((thread.only live).finalizeHandle held).1
      else thread.only live := by
  have counts := thread.only_setPending live held.transaction
    (thread.mPendingTransactions held.transaction - 1)
  rw [finalizeHandle, only_addCallbackHandle, counts]
  cases lives : live held.listener with
  | false => simp [transaction, lives]
  | true =>
    have pend : (thread.only live).mPendingTransactions held.transaction =
        thread.mPendingTransactions held.transaction := if_pos lives
    rw [finalizeHandle, pend]
    simp [transaction, lives]

end
lemma only_finalizeHandles {group : List (CallbackHandle Stats)}
    (prompt : NoneBehind live thread group) : (thread.finalizeHandles group).only live =
      (thread.only live).finalizeHandles (group.filter (live ·.listener)) := by
  induction group generalizing thread with
  | nil => rfl
  | cons held rest ih =>
    have next := prompt.next
    have turn : (thread.finalizeHandle held).1.only live = _ := thread.only_finalizeHandle held
    rw [finalizeHandles_cons]
    cases lives : live held.listener with
    | true =>
      rw [lives, if_pos rfl] at turn
      rw [filter_cons_of_pos (by simpa using lives), finalizeHandles_cons, finalizeHandle_found,
        finalizeHandle_found, hasTransactionStats_only _ lives, ← turn]
      split
      · exact ih _ next.1
      · rfl
    | false =>
      have skips : (thread.finalizeHandle held).1.only live = thread.only live := by
        simpa [lives] using turn
      rw [filter_cons_of_neg (by simp [lives])]
      split
      · rw [ih _ next.1, skips]
      · rename_i missing
        have none : rest.filter (live ·.listener) = [] := by
          apply filter_eq_nil_iff.mpr
          intro other mem
          simp [next.2 missing other mem]
        rw [none, skips]
        rfl

lemma only_step (runs : thread.mRunning = true) (prompt : Prompt live thread call) :
    (thread.step call).only live =
      (call.only live).elim (thread.only live) (thread.only live).step := by
  have elim : ∀ (lives : Bool) (call : Call Stats Fence),
      (if lives then some call else none).elim (thread.only live) (thread.only live).step =
        if lives then (thread.only live).step call else thread.only live := by
    intro lives call
    cases lives <;> rfl
  cases call with
  | startRegistration tx linkToDeath =>
    rw [Call.only, elim]
    exact thread.only_startRegistration runs linkToDeath
  | endRegistration tx =>
    rw [Call.only, elim]
    exact thread.only_endRegistration tx
  | registerPendingCallbackHandle held =>
    rw [Call.only, elim]
    exact thread.only_registerPendingCallbackHandle held
  | registerUnpresentedCallbackHandle held =>
    rw [Call.only, elim]
    exact thread.only_registerUnpresentedCallbackHandle held
  | finalizePendingCallbackHandles group =>
    have running' : (thread.only live).mRunning = true := runs
    simp only [step, Call.only, Option.elim_some, finalizePendingCallbackHandles, runs,
      running', Bool.not_true, Bool.false_eq_true, if_false]
    exact thread.only_finalizeHandles prompt
  | addPresentFence presentFence => rfl
  | round alive => exact thread.only_round alive

lemma only_run (calls : List (Call Stats Fence)) (runs : thread.mRunning = true)
    (prompt : Along step (Prompt live) thread calls) : (Machine.run step thread calls).only live =
      Machine.run step (thread.only live) (calls.filterMap (·.only live)) := by
  induction calls generalizing thread with
  | nil => rfl
  | cons call rest ih =>
    have one := thread.only_step runs prompt.1
    have others := ih _ ((thread.step_frame call).running runs) prompt.2
    rw [one] at others
    cases kept : call.only live with
    | none =>
      rw [kept] at others
      rw [filterMap_cons_none kept]
      exact others
    | some other =>
      rw [kept] at others
      rw [filterMap_cons_some kept]
      exact others

end Only

/-! ## Pending handles -/

/-- For a live listener the thread counts no more pending handles than were not
finalized yet. -/
def Accounted (live : Nat → Bool) (thread : TransactionCompletedThread Stats Fence)
    (history : CallbackHistory) : Prop :=
  ∀ transaction, live transaction.listener = true →
    thread.mPendingTransactions transaction ≤ (history.unfinalizedOf transaction).length

namespace Accounted

variable {live : Nat → Bool} {thread : TransactionCompletedThread Stats Fence}
  {group : List (CallbackHandle Stats)}

lemma length_finalize_ge (hist : CallbackHistory) (held : CallbackHandle Stats)
    (tx : ListenerCallbacks) : (hist.unfinalizedOf tx).length ≤
      ((hist.finalize held).unfinalizedOf tx).length + (if tx = held.transaction then 1 else 0) := by
  have count := Tracked.Agrees.length_unfinalizedOf_finalize hist held tx
  have more : hist.excess.count tx ≤
      (hist.finalize held).excess.count tx := by
    unfold CallbackHistory.finalize
    split
    · exact Nat.le_refl _
    · exact (sublist_append_left _ _).count_le tx
  omega

lemma skip (dead : ∀ held ∈ group, live held.listener = false) (acc : Accounted live thread hist) :
    Accounted live thread (group.foldl .finalize hist) := by
  induction group generalizing hist with
  | nil => exact acc
  | cons held rest ih =>
    apply ih fun other mem => dead other (mem_cons_of_mem held mem)
    intro tx lives
    have ne : tx ≠ held.transaction := by
      rintro rfl
      rw [transaction, dead held mem_cons_self] at lives
      cases lives
    have fewer := length_finalize_ge hist held tx
    rw [if_neg ne] at fewer
    exact Nat.le_trans (acc tx lives) fewer

section

variable (acc : Accounted live thread hist)
include acc

lemma finalizeHandle (held : CallbackHandle Stats) :
    Accounted live (thread.finalizeHandle held).1 (hist.finalize held) := by
  intro tx lives
  have fewer := length_finalize_ge hist held tx
  have old := acc tx lives
  rw [pending_finalizeHandle]
  omega

lemma finalizeHandles (prompt : NoneBehind live thread group) :
    Accounted live (thread.finalizeHandles group) (group.foldl .finalize hist) := by
  induction group generalizing thread hist with
  | nil => exact acc
  | cons held rest ih =>
    have counts := acc.finalizeHandle held
    rw [finalizeHandles_cons, foldl_cons]
    split
    · exact ih counts prompt.next.1
    · rename_i missing
      exact skip (prompt.next.2 missing) counts

lemma step (runs : thread.mRunning = true) (prompt : Prompt live thread call) :
    Accounted live (thread.step call) (hist.step call) := by
  have kept : (∀ held, call ≠ .registerPendingCallbackHandle held) →
      (∀ group, call ≠ .finalizePendingCallbackHandles group) →
      (hist.step call).unfinalized = hist.unfinalized →
      Accounted live (thread.step call) (hist.step call) := by
    intro notPending notFinalized unfinalized other lives
    rw [(thread.step_frame call).pending notPending notFinalized, CallbackHistory.unfinalizedOf,
      unfinalized]
    exact acc other lives
  cases call with
  | startRegistration tx linkToDeath =>
    apply kept (by simp) (by simp)
    simp only [CallbackHistory.step]
    split <;> rfl
  | endRegistration tx => exact kept (by simp) (by simp) rfl
  | registerPendingCallbackHandle held =>
    intro other lives
    have old := acc other lives
    rw [CallbackHistory.step, hist.length_unfinalizedOf_register,
      TransactionCompletedThread.step, registerPendingCallbackHandle]
    split
    · exact Nat.le_trans old (Nat.le_add_right _ _)
    · dsimp only
      split
      · rw [pending_increment]
        exact Nat.add_le_add_right old _
      · exact Nat.le_trans old (Nat.le_add_right _ _)
  | registerUnpresentedCallbackHandle held => exact kept (by simp) (by simp) rfl
  | finalizePendingCallbackHandles group =>
    simp only [TransactionCompletedThread.step, finalizePendingCallbackHandles, runs,
      Bool.not_true, Bool.false_eq_true, if_false]
    exact acc.finalizeHandles prompt
  | addPresentFence presentFence => exact acc
  | round alive => exact kept (by simp) (by simp) rfl

end

lemma run (calls : List (Call Stats Fence)) (acc : Accounted live thread hist)
    (runs : thread.mRunning = true)
    (prompt : Along TransactionCompletedThread.step (Prompt live) thread calls) :
    Accounted live (Machine.run TransactionCompletedThread.step thread calls)
      (Machine.run CallbackHistory.step hist calls) := by
  induction calls generalizing thread hist with
  | nil => exact acc
  | cons call rest ih =>
    exact ih (acc.step runs prompt.1) ((thread.step_frame call).running runs)
      prompt.2

end Accounted

def started : TransactionCompletedThread Stats Fence :=
  create.run

/-- In every run in which no handle without a recorded transaction stands before
a handle of a live listener: a live listener has no pending handle left once its
handles were finalized, and it has been sent what it would have been sent
without the other listeners. -/
theorem live_listener_isolated (live : Nat → Bool) (calls : List (Call Stats Fence))
    (prompt : Along step (Prompt live) started calls) (listener : Nat)
    (lives : live listener = true) : (∀ callbackIds,
      (Machine.run CallbackHistory.step .empty calls).unfinalizedOf ⟨listener, callbackIds⟩ = [] →
      (Machine.run step started calls).mPendingTransactions ⟨listener, callbackIds⟩ = 0) ∧
    (Machine.run step started calls).sent listener =
      (Machine.run step started (calls.filterMap (·.only live))).sent listener ∧
    (Machine.run step started calls).waiting listener =
      (Machine.run step started (calls.filterMap (·.only live))).waiting listener := by
  have only := (started : TransactionCompletedThread Stats Fence).only_run calls rfl prompt
  have fresh : (started : TransactionCompletedThread Stats Fence).only live = started := by
    simp [TransactionCompletedThread.only, started, create, run]
  have accounted : Accounted live (Machine.run step started calls)
      (Machine.run CallbackHistory.step .empty calls) :=
    Accounted.run calls (fun _ _ => Nat.le_refl 0) rfl prompt
  rw [← fresh, ← only, fresh, sent_only, waiting_only, lives]
  refine ⟨?_, rfl, rfl⟩
  intro callbackIds none
  have bound := accounted ⟨listener, callbackIds⟩ lives
  rw [none] at bound
  exact Nat.le_zero.mp bound

def handleOfFirst : CallbackHandle Unit :=
  ⟨0, 1, [11], 5, some ()⟩

def handleOfSecond : CallbackHandle Unit :=
  ⟨1, 2, [20], 5, some ()⟩

/-- Listener 1 dies with one transaction complete and one pending; a round drops
its records before its handle is finalized together with that of listener 2. -/
def finalizedWith (handles : List (CallbackHandle Unit)) : List (Call Unit Unit) :=
  [.startRegistration ⟨1, [10]⟩ true, .endRegistration ⟨1, [10]⟩,
    .startRegistration ⟨1, [11]⟩ true, .registerPendingCallbackHandle handleOfFirst,
    .endRegistration ⟨1, [11]⟩, .startRegistration ⟨2, [20]⟩ true,
    .registerPendingCallbackHandle handleOfSecond, .endRegistration ⟨2, [20]⟩,
    .round (· != 1), .finalizePendingCallbackHandles handles, .addPresentFence (some ()),
    .round (· != 1)]

theorem live_listener_isolated_liveFirst :
    Along step (Prompt (· != 1)) started (finalizedWith [handleOfSecond, handleOfFirst]) ∧
      ((Machine.run step started (finalizedWith [handleOfSecond, handleOfFirst])).sent 2).map
        (·.callbackIds) = [[20]] ∧
      (Machine.run step started (finalizedWith [handleOfSecond, handleOfFirst])
        ).mPendingTransactions ⟨2, [20]⟩ = 0 := by
  have prompt : Along step (Prompt (· != 1)) started
      (finalizedWith [handleOfSecond, handleOfFirst]) := by
    refine ⟨trivial, trivial, trivial, trivial, trivial, trivial, trivial, trivial, trivial, ?_,
      trivial, trivial, trivial⟩
    apply pairwise_pair.mpr
    intro lives
    cases lives
  exact ⟨prompt, rfl,
    (live_listener_isolated (· != 1) (finalizedWith [handleOfSecond, handleOfFirst]) prompt 2
      rfl).1 [20] rfl⟩

/-- With the handle of the dead listener in front, the handle of listener 2 was
finalized and stays pending, and listener 2 is not sent its transaction. -/
theorem stale_handle_blocks_listener : (Machine.run CallbackHistory.step .empty
        (finalizedWith [handleOfFirst, handleOfSecond])).unfinalizedOf ⟨2, [20]⟩ = [] ∧
      (Machine.run step started (finalizedWith [handleOfFirst, handleOfSecond])
        ).mPendingTransactions ⟨2, [20]⟩ = 1 ∧
      ((Machine.run step started (finalizedWith [handleOfFirst, handleOfSecond])).sent 2).map
        (·.callbackIds) = [] ∧
      ((Machine.run step started ((finalizedWith [handleOfFirst, handleOfSecond]).filterMap
        (·.only (· != 1)))).sent 2).map (·.callbackIds) = [[20]] :=
  ⟨rfl, rfl, rfl, rfl⟩

end TransactionCompletedThread

end NativeLibs.Flinger
