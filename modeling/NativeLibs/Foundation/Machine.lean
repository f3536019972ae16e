import Mathlib.Data.List.Basic

/-! # Runs of a machine

A machine is a total step function on labels; a label carries everything the
environment decides. Properties of runs come from one induction. -/

namespace NativeLibs.Machine

variable {State Label : Type*} (step : State → Label → State) {inv : State → Prop}
  {cond : Label → Prop}

def run : State → List Label → State
  | state, [] => state
  | state, label :: rest => run (step state label) rest

/-- Every step of the run is taken in a state that allows its label. -/
def Along (allowed : State → Label → Prop) : State → List Label → Prop
  | _, [] => True
  | state, label :: rest => allowed state label ∧ Along allowed (step state label) rest

instance instDecidableAlong (allowed : State → Label → Prop)
    [∀ state label, Decidable (allowed state label)] :
    (state : State) → (labels : List Label) → Decidable (Along step allowed state labels)
  | _, [] => inferInstanceAs (Decidable True)
  | state, label :: rest =>
    have := instDecidableAlong allowed (step state label) rest
    inferInstanceAs (Decidable (_ ∧ _))

variable {step}

/-- What allowed steps preserve holds at the end of every run of allowed steps. -/
lemma run_invariant (kept : ∀ st label, inv st → ok st label →
      inv (step st label)) (init : inv st)
    (along : Along step ok st labels) : inv (run step st labels) := by
  induction labels generalizing st with
  | nil => exact init
  | cons label rest ih => exact ih (kept st label init along.1) along.2

lemma run_always (kept : ∀ st label, inv st → inv (step st label))
    (init : inv st) (labels : List Label) : inv (run step st labels) := by
  induction labels generalizing st with
  | nil => exact init
  | cons label rest ih => exact ih (kept st label init)

lemma Along.and_forall (along : Along step ok st labels)
    (all : ∀ label ∈ labels, cond label) :
    Along step (fun st label => ok st label ∧ cond label) st labels := by
  induction labels generalizing st with
  | nil => trivial
  | cons label rest ih =>
    have tail : ∀ later ∈ rest, cond later := by
      intro later mem
      exact all later (by simp [mem])
    exact ⟨⟨along.1, all label (by simp)⟩, ih along.2 tail⟩

lemma along_of_forall (sufficient : ∀ st label, cond label → ok st label)
    (st : State) (all : ∀ label ∈ labels, cond label) :
    Along step ok st labels := by
  induction labels generalizing st with
  | nil => trivial
  | cons label rest ih =>
    have head := sufficient st label (all label (by simp))
    have tail : ∀ later ∈ rest, cond later := by
      intro later mem
      exact all later (by simp [mem])
    exact ⟨head, ih (step st label) tail⟩

end NativeLibs.Machine
