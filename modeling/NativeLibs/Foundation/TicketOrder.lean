import Mathlib.Data.List.Perm.Basic
import Mathlib.Data.List.Range
import Mathlib.Data.List.Nodup

/-! # Tickets served in order

Tickets with distinct numbers come in any order, and each is served when the number
shown is its own; after it has been served, the next number is shown. The lists are
taken up to order, but for the one of the tickets served, which is the history. -/

namespace NativeLibs

open List

structure Tickets where
  next : Nat
  issued : List Nat
  /-- Tickets that have come and have not been served to the end. -/
  active : List Nat
  serving : List Nat
  /-- Tickets whose service has begun, in this order. -/
  served : List Nat

namespace Tickets

variable {ticket after : Tickets}

/-- Service has begun for the numbers below the one shown, or up to it. -/
inductive Serving (tickets : Tickets) : Prop where
  | idle (none : tickets.serving = []) (done : tickets.served = range tickets.next)
  | busy (one : tickets.serving = [tickets.next])
      (done : tickets.served = range (tickets.next + 1))

structure InOrder (tickets : Tickets) : Prop where
  distinct : tickets.issued.Nodup
  accounted : tickets.issued.Perm (range tickets.next ++ tickets.active)
  serving : tickets.Serving

inductive Step (tickets after : Tickets) : Prop where
  | keep (next : after.next = tickets.next) (issued : after.issued = tickets.issued)
      (active : after.active.Perm tickets.active) (serving : after.serving.Perm tickets.serving)
      (served : after.served = tickets.served)
  | come (number : Nat) (fresh : number ∉ tickets.issued) (next : after.next = tickets.next)
      (issued : after.issued = tickets.issued ++ [number])
      (active : after.active.Perm (number :: tickets.active))
      (serving : after.serving.Perm tickets.serving) (served : after.served = tickets.served)
  | begin (waiting : (tickets.next :: tickets.serving).Subperm tickets.active)
      (next : after.next = tickets.next) (issued : after.issued = tickets.issued)
      (active : after.active.Perm tickets.active)
      (serving : after.serving.Perm (tickets.next :: tickets.serving))
      (served : after.served = tickets.served ++ [tickets.next])
  | finish (number : Nat) (serving : tickets.serving.Perm (number :: after.serving))
      (next : after.next = tickets.next + 1) (issued : after.issued = tickets.issued)
      (active : tickets.active.Perm (number :: after.active))
      (served : after.served = tickets.served)

section

variable (ord : ticket.InOrder)
include ord

lemma InOrder.active_nodup : ticket.active.Nodup :=
  (nodup_append.1 (ord.accounted.nodup_iff.1 ord.distinct)).2.1

lemma InOrder.next_le (act : n ∈ ticket.active) : ticket.next ≤ n := by
  have nodup := ord.accounted.nodup_iff.1 ord.distinct
  by_contra below
  have served : n ∈ range ticket.next := mem_range.2 (by omega)
  exact (nodup_append.1 nodup).2.2 n served n act rfl

lemma InOrder.serving_length_le_one : ticket.serving.length ≤ 1 := by
  cases ord.serving with
  | idle none done => simp [none]
  | busy one done => simp [one]

lemma InOrder.served_eq_range : ticket.served = range ticket.served.length := by
  cases ord.serving with
  | idle none done => simp [done]
  | busy one done => simp [done]

end

lemma Serving.of_perm (serving : ticket.Serving) (next : after.next = ticket.next)
    (same : after.serving.Perm ticket.serving) (served : after.served = ticket.served) :
    after.Serving := by
  cases serving with
  | idle none done =>
    rw [none] at same
    exact .idle same.eq_nil (by rw [served, done, next])
  | busy one done =>
    rw [one] at same
    exact .busy (by rw [perm_singleton.1 same, next]) (by rw [served, done, next])

lemma InOrder.step (ord : ticket.InOrder) (step : ticket.Step after) : after.InOrder := by
  have acc := ord.accounted
  cases step with
  | keep next issued act serving served =>
    refine ⟨issued ▸ ord.distinct, ?_, ord.serving.of_perm next serving served⟩
    rw [issued, next]
    exact acc.trans (act.symm.append_left _)
  | come n fresh next issued act serving served =>
    refine ⟨?_, ?_, ord.serving.of_perm next serving served⟩
    · rw [issued, nodup_append]
      refine ⟨ord.distinct, nodup_singleton _, ?_⟩
      intro old mem new isNew
      rw [mem_singleton.1 isNew]
      exact fun same => fresh (same ▸ mem)
    · rw [issued, next]
      have moved : (ticket.issued ++ [n]).Perm
          (n :: (range ticket.next ++ ticket.active)) :=
        (perm_append_singleton n _).trans (acc.cons _)
      exact moved.trans (perm_middle.symm.trans (act.symm.append_left _))
  | begin wait next issued act serving served =>
    have nodup : (ticket.next :: ticket.serving).Nodup := by
      rcases wait with ⟨sorted, same, sublist⟩
      exact same.nodup_iff.1 (sublist.nodup ord.active_nodup)
    refine ⟨issued ▸ ord.distinct, ?_, ?_⟩
    · rw [issued, next]
      exact acc.trans (act.symm.append_left _)
    · cases ord.serving with
      | idle none done =>
        rw [none] at serving
        refine .busy ?_ ?_
        · rw [perm_singleton.1 serving, next]
        · rw [served, done, next, range_succ]
      | busy one done => simp [one] at nodup
  | finish n serving next issued act served =>
    cases ord.serving with
    | idle none done =>
      rw [none] at serving
      exact absurd serving.symm.eq_nil (by simp)
    | busy one done =>
      rw [one] at serving
      have parts := perm_singleton.1 serving.symm
      simp only [cons.injEq] at parts
      refine ⟨issued ▸ ord.distinct, ?_, .idle parts.2 (by rw [served, done, next])⟩
      rw [issued, next, range_succ, append_assoc]
      rw [parts.1] at act
      exact acc.trans (act.append_left _)

/-- When all numbers below a bound have come and every ticket that is left waits for a
number after the one shown, all have been served. -/
lemma InOrder.complete (ord : ticket.InOrder)
    (later : ∀ n ∈ ticket.active, ticket.next < n)
    (all : ticket.issued.Perm (range bound)) : ticket.active = [] ∧ ticket.next = bound := by
  have acc : (range bound).Perm (range ticket.next ++ ticket.active) :=
    all.symm.trans ord.accounted
  have none : ticket.active = [] := by
    rw [eq_nil_iff_forall_not_mem]
    intro n mem
    have above := later n mem
    have below : n < bound := by
      have ins := acc.mem_iff.2 (mem_append_right _ mem)
      simpa using ins
    -- The number shown has come as well, and it can only be an active one.
    have shown : ticket.next ∈ range ticket.next ++ ticket.active :=
      acc.mem_iff.1 (by simp; omega)
    rcases mem_append.1 shown with served | act
    · simp at served
    · exact absurd (later _ act) (by simp)
  refine ⟨none, ?_⟩
  rw [none, append_nil] at acc
  simpa using acc.length_eq.symm

end Tickets

end NativeLibs
