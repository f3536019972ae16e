import Mathlib.Data.List.Perm.Basic

/-! # References counted between two parties

Two parties exchange references to one object over channels that lose nothing. The
object lives with its owner; the other party has a handle while it needs one. Each
party counts how often it has sent the object and how often it has received it, and
pays every received reference back with a message of its own, except for the one that
the handle stands for, which is paid back when the handle dies.

The ledger of one object is the two parties' counts together with what is under way.
It is kept from the point of view of the party that acts; `swap` turns it around. -/

namespace NativeLibs.ReferenceLedger

structure Party where
  /-- The object lives with this party. -/
  owner : Bool
  sent : Nat
  recd : Nat
  /-- Received references that are about to be paid back. -/
  owed : Nat
  /-- Uses of the handle by the rest of the party. -/
  held : Nat
  /-- References sent, and not yet received by the other party. -/
  inFlight : Nat
  /-- Payments sent, and not yet received by the other party. -/
  returning : Nat

namespace Party

variable (party : Party)

def known : Bool := 0 < party.sent || 0 < party.recd

/-- The party has a handle. What it has sent holds on to the handle, too. -/
def handled : Bool := !party.owner && (0 < party.sent || 0 < party.held)

/-- Every received reference is about to be paid back, but for the handle's. -/
def Fair : Prop := party.recd = party.owed + if party.handled then 1 else 0

/-- The handle dies when nothing holds on to it any more, and its reference is then
owed. -/
def settled (before after : Party) : Party :=
  { after with owed := after.owed + if before.handled && !after.handled then 1 else 0 }

variable {party}

lemma handled_iff :
    party.handled = true ↔ party.owner = false ∧ (0 < party.sent ∨ 0 < party.held) := by
  simp [handled]

lemma known_iff : party.known = true ↔ 0 < party.sent ∨ 0 < party.recd := by simp [known]

lemma Fair.recd_pos (fair : party.Fair) (handled : party.handled = true) : 0 < party.recd := by
  rw [Fair, if_pos handled] at fair
  omega

lemma Fair.settled (fair : party.Fair) (recd : after.recd = party.recd)
    (owed : after.owed = party.owed) (dies : after.handled = true → party.handled = true) :
    (Party.settled party after).Fair := by
  have same : (Party.settled party after).handled = after.handled := rfl
  simp only [Fair, same] at fair ⊢
  simp only [Party.settled, recd, owed, fair]
  cases old : party.handled with
  | false =>
    have gone : after.handled = false := by
      rw [← Bool.not_eq_true]
      intro alive
      simp [dies alive] at old
    simp [gone]
  | true => cases after.handled <;> simp

end Party

structure Ledger where
  me : Party
  peer : Party

namespace Ledger

variable {ledger : Ledger}

def swap (ledger : Ledger) : Ledger := ⟨ledger.peer, ledger.me⟩

structure Balanced (ledger : Ledger) : Prop where
  owners : ledger.peer.owner = !ledger.me.owner
  mine : ledger.me.sent = ledger.me.inFlight + ledger.peer.recd + ledger.peer.returning
  theirs : ledger.peer.sent = ledger.peer.inFlight + ledger.me.recd + ledger.me.returning
  fair : ledger.me.Fair
  peerFair : ledger.peer.Fair

lemma Balanced.swap (bal : ledger.Balanced) : ledger.swap.Balanced where
  owners := by simp [Ledger.swap, bal.owners]
  mine := bal.theirs
  theirs := bal.mine
  fair := bal.peerFair
  peerFair := bal.fair

/-! ## Steps -/

section

variable (ledger)

def leave : Ledger :=
  { ledger with
    me := { ledger.me with
      sent := ledger.me.sent + 1
      inFlight := ledger.me.inFlight + 1 } }

/-- A reference is received. A party that remembers the object owes the reference; one
that does not makes a handle for it. -/
def enter : Ledger where
  me :=
    if ledger.me.known then
      { ledger.me with
        recd := ledger.me.recd + 1
        owed := ledger.me.owed + 1
        held := ledger.me.held + if ledger.me.handled then 1 else 0 }
    else { ledger.me with recd := ledger.me.recd + 1, held := ledger.me.held + 1 }
  peer := { ledger.peer with inFlight := ledger.peer.inFlight - 1 }

def pay : Ledger :=
  { ledger with
    me := { ledger.me with
      recd := ledger.me.recd - 1
      owed := ledger.me.owed - 1
      returning := ledger.me.returning + 1 } }

def collect : Ledger where
  me := Party.settled ledger.me { ledger.me with sent := ledger.me.sent - 1 }
  peer := { ledger.peer with returning := ledger.peer.returning - 1 }

def release : Ledger :=
  { ledger with me := Party.settled ledger.me { ledger.me with held := ledger.me.held - 1 } }

end

/-! ## Every step keeps the balance -/

namespace Balanced

section

variable (bal : ledger.Balanced)
include bal

lemma leave (may : ledger.me.owner = true ∨ 0 < ledger.me.held) : ledger.leave.Balanced where
  __ := bal
  mine := by
    have mine := bal.mine
    simp only [Ledger.leave]
    omega
  fair := by
    -- Sending holds on to a handle that is alive already.
    have fair := bal.fair
    have same : ledger.leave.me.handled = ledger.me.handled := by
      rcases may with owner | held
      · simp [Ledger.leave, Party.handled, owner]
      · simp [Ledger.leave, Party.handled, held]
    simp only [Party.Fair, same] at fair ⊢
    exact fair

lemma sent_pos_of_handled (handled : ledger.peer.handled = true) : 0 < ledger.me.sent := by
  have recd := bal.peerFair.recd_pos handled
  have mine := bal.mine
  omega

lemma sent_pos_of_returning (returning : 0 < ledger.peer.returning) : 0 < ledger.me.sent := by
  have mine := bal.mine
  omega

lemma sent_pos_of_inFlight (owner : ledger.me.owner = true)
    (inFlight : 0 < ledger.peer.inFlight) : 0 < ledger.me.sent := by
  apply bal.sent_pos_of_handled
  have theirs := bal.theirs
  have holder := bal.owners
  rw [Party.handled_iff]
  refine ⟨by simp [holder, owner], .inl ?_⟩
  omega

end

lemma handled_enter (known : ledger.me.known = true) :
    ledger.enter.me.handled = ledger.me.handled := by
  simp only [Ledger.enter, if_pos known]
  cases handled : ledger.me.handled with
  | false => exact handled
  | true =>
    rw [Party.handled_iff] at handled ⊢
    exact ⟨handled.1, handled.2.imp id (Nat.lt_add_right _)⟩

variable (bal : ledger.Balanced)
include bal

lemma enter (inFlight : 0 < ledger.peer.inFlight) : ledger.enter.Balanced where
  __ := bal
  owners := by
    rw [Ledger.enter]
    split_ifs <;> exact bal.owners
  mine := by
    have mine := bal.mine
    rw [Ledger.enter]
    split_ifs <;> exact mine
  theirs := by
    have theirs := bal.theirs
    rw [Ledger.enter]
    split_ifs <;> simp only <;> omega
  fair := by
    have fair := bal.fair
    by_cases known : ledger.me.known = true
    · have same := handled_enter known
      simp only [Party.Fair, same] at fair ⊢
      simp only [Ledger.enter, if_pos known, fair]
      omega
    · -- Only the other party makes a handle anew.
      have lost : ledger.me.sent = 0 ∧ ledger.me.recd = 0 := by
        simp only [Party.known_iff, not_or] at known
        omega
      have holder : ledger.me.owner = false := by
        rw [← Bool.not_eq_true]
        intro owner
        have sent := bal.sent_pos_of_inFlight owner inFlight
        omega
      have made : ledger.enter.me.handled = true := by
        simp [Ledger.enter, known, Party.handled_iff, holder]
      simp only [Party.Fair, if_pos made] at fair ⊢
      simp only [Ledger.enter, if_neg known]
      omega

lemma pay (owed : 0 < ledger.me.owed) : ledger.pay.Balanced where
  __ := bal
  theirs := by
    have theirs := bal.theirs
    have fair := bal.fair
    simp only [Party.Fair] at fair
    simp only [Ledger.pay]
    omega
  fair := by
    have fair := bal.fair
    have same : ledger.pay.me.handled = ledger.me.handled := rfl
    simp only [Party.Fair, same] at fair ⊢
    simp only [Ledger.pay]
    omega

lemma collect (returning : 0 < ledger.peer.returning) : ledger.collect.Balanced where
  __ := bal
  mine := by
    have mine := bal.mine
    simp only [Ledger.collect, Party.settled]
    omega
  fair := by
    have dies : ({ ledger.me with sent := ledger.me.sent - 1 } : Party).handled = true →
        ledger.me.handled = true := by
      simp only [Party.handled_iff]
      intro handled
      exact ⟨handled.1, handled.2.imp (by omega) id⟩
    exact bal.fair.settled rfl rfl dies

lemma release : ledger.release.Balanced where
  __ := bal
  fair := by
    have dies : ({ ledger.me with held := ledger.me.held - 1 } : Party).handled = true →
        ledger.me.handled = true := by
      simp only [Party.handled_iff]
      intro handled
      exact ⟨handled.1, handled.2.imp id (by omega)⟩
    exact bal.fair.settled rfl rfl dies

end Balanced

end Ledger

/-! ## Counting what is under way -/

section Tally

variable {Item Object : Type*} [DecidableEq Object] (mentions : Item → List Object)

def tally (items : List Item) (object : Object) : Nat := (items.flatMap mentions).count object

variable {mentions}

@[simp] lemma tally_nil (obj : Object) : tally mentions [] obj = 0 := rfl

@[simp] lemma tally_cons (item : Item) (items : List Item) (obj : Object) :
    tally mentions (item :: items) obj = (mentions item).count obj + tally mentions items obj := by
  simp [tally]

@[simp] lemma tally_append (items more : List Item) (obj : Object) :
    tally mentions (items ++ more) obj = tally mentions items obj + tally mentions more obj := by
  simp [tally]

lemma tally_map_singleton (one : ∀ obj, mentions (make obj) = [obj])
    (objs : List Object) (obj : Object) : tally mentions (objs.map make) obj = objs.count obj := by
  simp [tally, List.flatMap_map, one]

lemma tally_of_silent (mute : ∀ item ∈ items, mentions item = []) (obj : Object) :
    tally mentions items obj = 0 := by
  simp only [tally, List.flatMap_eq_nil_iff.2 mute, List.count_nil]

lemma tally_eraseIdx (hit : items[i]? = some item) (obj : Object) : tally mentions items obj =
      (mentions item).count obj + tally mentions (items.eraseIdx i) obj := by
  rcases List.getElem?_eq_some_iff.1 hit with ⟨bound, same⟩
  have together := List.getElem_cons_eraseIdx_perm bound
  rw [same] at together
  have counts := (together.flatMap_right mentions).count_eq obj
  rw [← tally_cons]
  exact counts.symm

end Tally

end NativeLibs.ReferenceLedger
