import NativeLibs.Composer.LayerState
import NativeLibs.Foundation.Machine
import Mathlib.Algebra.Order.Ring.Int

/-! # Transaction-completed callbacks

`TransactionCompletedThread` keeps, for each listener, the transactions whose
callbacks are still to be sent, how many handles of each are pending, and which
transactions are still being registered. Every call takes the mutex for its
whole length, and so does a round of the callback thread. A listener is named
by a number; what a listener was sent is recorded in the order of the calls. -/

namespace NativeLibs.Composer

/-- `ListenerCallbacks::operator==`, which looks at the first ids only. -/
def ListenerCallbacks.equal (l r : ListenerCallbacks) : Bool :=
  l.listener == r.listener && l.callbackIds.head? == r.callbackIds.head?

end NativeLibs.Composer

namespace NativeLibs.Flinger

open Composer (ListenerCallbacks)

abbrev CallbackId := Int

/-- Zero if the ids compare equal. The difference of two 64-bit ids is returned
as a 32-bit integer. -/
def compareCallbackIds (c1 c2 : List CallbackId) : Int :=
  match c1.head?, c2.head? with
  | none, none => 0
  | none, some _ => 1
  | some _, none => 1
  | some first, some other => (first - other).bmod 4294967296

structure TransactionStats (Stats Fence : Type) where
  callbackIds : List CallbackId
  latchTime : Int
  presentFence : Option Fence
  surfaceStats : List Stats

/-- A handle: which object it is, whose transaction it belongs to, and what it
carries when it is added. `surfaceStats` is `none` once the surface control is
gone. -/
structure CallbackHandle (Stats : Type) where
  object : Nat
  listener : Nat
  callbackIds : List CallbackId
  latchTime : Int
  surfaceStats : Option Stats

def CallbackHandle.transaction {Stats : Type} (handle : CallbackHandle Stats) :
    ListenerCallbacks :=
  ⟨handle.listener, handle.callbackIds⟩

/-- The state under `mMutex`. A pending count of zero stands for a missing
entry. `sent` is what was passed to `onTransactionCompleted` of each listener. -/
structure TransactionCompletedThread (Stats Fence : Type) where
  mRunning : Bool
  mRegisteringTransactions : List ListenerCallbacks
  mPendingTransactions : ListenerCallbacks → Nat
  mCompletedTransactions : Nat → Option (List (TransactionStats Stats Fence))
  mPresentFence : Option Fence
  sent : Nat → List (TransactionStats Stats Fence)

namespace TransactionCompletedThread

variable {Stats Fence : Type} (handle : CallbackHandle Stats) (listener : Nat)

def create : TransactionCompletedThread Stats Fence where
  mRunning := false
  mRegisteringTransactions := []
  mPendingTransactions _ := 0
  mCompletedTransactions _ := none
  mPresentFence := none
  sent _ := []

variable (thread : TransactionCompletedThread Stats Fence)

def run : TransactionCompletedThread Stats Fence :=
  { thread with mRunning := true }

def waiting : List (TransactionStats Stats Fence) :=
  (thread.mCompletedTransactions listener).getD []

def setCompleted (deque : Option (List (TransactionStats Stats Fence))) :
    TransactionCompletedThread Stats Fence :=
  { thread with
    mCompletedTransactions := fun other =>
      if other = listener then deque else thread.mCompletedTransactions other }

variable (transaction : ListenerCallbacks)

def setPending (count : Nat) : TransactionCompletedThread Stats Fence :=
  { thread with
    mPendingTransactions := fun other =>
      if other = transaction then count else thread.mPendingTransactions other }

def isRegisteringTransaction : Bool :=
  thread.mRegisteringTransactions.any transaction.equal

variable (listenerCallbacks : ListenerCallbacks)

def startRegistration (linkToDeath : Bool) : TransactionCompletedThread Stats Fence :=
  let running := thread.run
  if running.isRegisteringTransaction listenerCallbacks then running
  else
    let registering :=
      { running with
        mRegisteringTransactions := running.mRegisteringTransactions ++ [listenerCallbacks] }
    let listener := listenerCallbacks.listener
    if registering.mCompletedTransactions listener = none ∧ linkToDeath = false then registering
    else
      registering.setCompleted listener (some (registering.waiting listener ++
          [⟨listenerCallbacks.callbackIds, -1, none, []⟩]))

def endRegistration : TransactionCompletedThread Stats Fence :=
  if !thread.mRunning then thread
  else
    { thread with
      mRegisteringTransactions := thread.mRegisteringTransactions.eraseP listenerCallbacks.equal }

/-- The search of `findTransactionStats`, from the back of the deque. -/
def hasTransactionStats (callbackIds : List CallbackId) : Bool :=
  (thread.waiting listener).any fun stats => compareCallbackIds stats.callbackIds callbackIds == 0

def touchCompleted : TransactionCompletedThread Stats Fence :=
  thread.setCompleted listener (some (thread.waiting listener))

def registerPendingCallbackHandle : TransactionCompletedThread Stats Fence :=
  if !thread.mRunning then thread
  else
    let touched := thread.touchCompleted handle.listener
    if touched.hasTransactionStats handle.listener handle.callbackIds then
      touched.setPending handle.transaction (touched.mPendingTransactions handle.transaction + 1)
    else touched

def addStats (stats : TransactionStats Stats Fence) : TransactionStats Stats Fence :=
  { stats with
    latchTime := handle.latchTime
    surfaceStats := stats.surfaceStats ++ handle.surfaceStats.toList }

def addToLast (deque : List (TransactionStats Stats Fence)) : List (TransactionStats Stats Fence) :=
  let found := fun stats : TransactionStats Stats Fence =>
    compareCallbackIds stats.callbackIds handle.callbackIds == 0
  match deque.reverse.findIdx? found with
  | none => deque
  | some index => (deque.reverse.modify index (addStats handle)).reverse

def addCallbackHandle : TransactionCompletedThread Stats Fence × Bool :=
  let touched := thread.touchCompleted handle.listener
  (touched.setCompleted handle.listener (some (addToLast handle (touched.waiting handle.listener))),
    touched.hasTransactionStats handle.listener handle.callbackIds)

def registerUnpresentedCallbackHandle : TransactionCompletedThread Stats Fence :=
  if !thread.mRunning then thread else (thread.addCallbackHandle handle).1

/-- The loop of `finalizePendingCallbackHandles`, which ends at the first
handle whose transaction is not found. -/
def finalizeHandles (thread : TransactionCompletedThread Stats Fence) :
    List (CallbackHandle Stats) → TransactionCompletedThread Stats Fence
  | [] => thread
  | handle :: rest =>
    let counted := thread.setPending handle.transaction
      (thread.mPendingTransactions handle.transaction - 1)
    let added := counted.addCallbackHandle handle
    if added.2 then finalizeHandles added.1 rest else added.1

def finalizePendingCallbackHandles (handles : List (CallbackHandle Stats)) :
    TransactionCompletedThread Stats Fence :=
  if !thread.mRunning then thread else thread.finalizeHandles handles

def addPresentFence (presentFence : Option Fence) : TransactionCompletedThread Stats Fence :=
  { thread with mPresentFence := presentFence }

def takeCompleted (thread : TransactionCompletedThread Stats Fence) (listener : Nat) :
    List (TransactionStats Stats Fence) →
      List (TransactionStats Stats Fence) × List (TransactionStats Stats Fence)
  | [] => ([], [])
  | stats :: rest =>
    if thread.isRegisteringTransaction ⟨listener, stats.callbackIds⟩ then ([], stats :: rest)
    else if thread.mPendingTransactions ⟨listener, stats.callbackIds⟩ ≠ 0 then ([], stats :: rest)
    else if stats.latchTime ≥ 0 ∧ thread.mPresentFence.isNone then ([], stats :: rest)
    else
      let taken := takeCompleted thread listener rest
      let stats := if stats.latchTime ≥ 0 then { stats with presentFence := thread.mPresentFence }
        else stats
      (stats :: taken.1, taken.2)

variable (isBinderAlive : Bool)

def remaining : Option (List (TransactionStats Stats Fence)) :=
  let taken := thread.takeCompleted listener (thread.waiting listener)
  if taken.1.isEmpty then thread.mCompletedTransactions listener
  else if isBinderAlive && !taken.2.isEmpty then some taken.2
  else none

def completed : List (TransactionStats Stats Fence) :=
  if isBinderAlive then (thread.takeCompleted listener (thread.waiting listener)).1 else []

/-- One round of `threadMain`, with what `isBinderAlive` says of each listener. -/
def round (isBinderAlive : Nat → Bool) : TransactionCompletedThread Stats Fence :=
  if !thread.mRunning then thread
  else
    { thread with
      mCompletedTransactions := fun listener => thread.remaining listener (isBinderAlive listener)
      mPresentFence := none
      sent := fun listener =>
        thread.sent listener ++ thread.completed listener (isBinderAlive listener) }

inductive Call (Stats Fence : Type) where
  | startRegistration (listenerCallbacks : ListenerCallbacks) (linkToDeath : Bool)
  | endRegistration (listenerCallbacks : ListenerCallbacks)
  | registerPendingCallbackHandle (handle : CallbackHandle Stats)
  | registerUnpresentedCallbackHandle (handle : CallbackHandle Stats)
  | finalizePendingCallbackHandles (handles : List (CallbackHandle Stats))
  | addPresentFence (presentFence : Option Fence)
  | round (isBinderAlive : Nat → Bool)

def step (thread : TransactionCompletedThread Stats Fence) :
    Call Stats Fence → TransactionCompletedThread Stats Fence
  | .startRegistration listenerCallbacks linkToDeath =>
    thread.startRegistration listenerCallbacks linkToDeath
  | .endRegistration listenerCallbacks => thread.endRegistration listenerCallbacks
  | .registerPendingCallbackHandle handle => thread.registerPendingCallbackHandle handle
  | .registerUnpresentedCallbackHandle handle => thread.registerUnpresentedCallbackHandle handle
  | .finalizePendingCallbackHandles handles => thread.finalizePendingCallbackHandles handles
  | .addPresentFence presentFence => thread.addPresentFence presentFence
  | .round isBinderAlive => thread.round isBinderAlive

end TransactionCompletedThread

end NativeLibs.Flinger
