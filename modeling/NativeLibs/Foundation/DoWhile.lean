import Mathlib.Tactic.Common

/-! # Do-while loops

A `do { … } while (!done)` loop whose body may itself fail to produce a state,
for instance because it contains another loop that ran out of iterations. The
iteration budget only makes the definition structural: `none` is a loop that is
still running when the budget ends. -/

namespace NativeLibs

/-- Run `body`, stop when `done` holds of the new state, otherwise repeat, for
at most `budget` executions of the body. -/
def doWhile {State : Type} (body : State → Option State) (done : State → Bool) :
    Nat → State → Option State
  | 0, _ => none
  | budget + 1, state =>
    match body state with
    | none => none
    | some next => if done next then some next else doWhile body done budget next

namespace DoWhile

variable {State : Type}

lemma succ_eq_of_done (runs : body st = some next) (fin : done next = true) :
    doWhile body done (budget + 1) st = some next := by
  simp [doWhile, runs, fin]

lemma succ_eq_of_not_done (runs : body st = some next) (unfinished : done next = false) :
    doWhile body done (budget + 1) st = doWhile body done budget next := by
  simp [doWhile, runs, unfinished]

/-- Total correctness. The invariant carries a measure. From a state satisfying
it one execution of the body either ends the loop in a state satisfying `Post`,
or reaches another state satisfying the invariant at a smaller measure. -/
lemma terminates (Inv : Nat → State → Prop) (Post : State → Prop)
    (step : ∀ measure st, Inv measure st → ∃ next, body st = some next ∧
      (done next = true → Post next) ∧
      (done next = false → ∃ smaller < measure, Inv smaller next)) :
    ∀ (budget measure : Nat) (st : State), Inv measure st → measure < budget →
      ∃ final, doWhile body done budget st = some final ∧ Post final := by
  intro budget
  induction budget with
  | zero => exact fun _ _ _ below => absurd below (Nat.not_lt_zero _)
  | succ budget ih =>
    intro measure st holds below
    obtain ⟨next, runs, atEnd, onward⟩ := step measure st holds
    cases fin : done next with
    | true => exact ⟨next, succ_eq_of_done runs fin, atEnd fin⟩
    | false =>
      obtain ⟨smaller, decreases, nextHolds⟩ := onward fin
      rw [succ_eq_of_not_done runs fin]
      exact ih smaller next nextHolds (by omega)

end DoWhile

end NativeLibs
