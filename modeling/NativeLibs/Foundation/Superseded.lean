import Mathlib.Data.List.Basic

/-! # Superseded elements of a list

A list may lose elements that a later element supersedes, and no others. -/

namespace NativeLibs.Superseded

variable {Element : Type*}

/-- The second list is the first one without some elements, each of which is superseded by a
later element of the first list. -/
inductive Kept (supersedes : Element → Prop) : List Element → List Element → Prop
  | nil : Kept supersedes [] []
  | keep {all kept : List Element} (element : Element) (rest : Kept supersedes all kept) :
      Kept supersedes (element :: all) (element :: kept)
  | drop {all kept : List Element} {later : Element} (element : Element) (member : later ∈ all)
      (superseding : supersedes later) (rest : Kept supersedes all kept) :
      Kept supersedes (element :: all) kept

namespace Kept

lemma concat (keeps : Kept supersedes all kept) (element : Element) :
    Kept supersedes (all ++ [element]) (kept ++ [element]) := by
  induction keeps with
  | nil => exact .keep element .nil
  | keep first rest ih => exact .keep first ih
  | drop first mem superseding rest ih =>
    exact .drop first (List.mem_append_left _ mem) superseding ih

lemma supersede (keeps : Kept supersedes all (kept ++ drops)) (superseding : supersedes later) :
    Kept supersedes (all ++ [later]) (kept ++ [later]) := by
  generalize both : kept ++ drops = left at keeps
  induction keeps generalizing kept drops with
  | nil =>
    obtain ⟨rfl, rfl⟩ := List.append_eq_nil_iff.mp both
    exact .keep later .nil
  | keep first rest ih =>
    cases kept with
    | nil =>
      have dropsRest := ih (List.nil_append _)
      exact .drop first (by simp) superseding dropsRest
    | cons head others =>
      obtain ⟨rfl, rfl⟩ := List.cons.inj both
      exact .keep head (ih rfl)
  | drop first mem superseded rest ih =>
    exact .drop first (List.mem_append_left _ mem) superseded (ih both)

end Kept

end NativeLibs.Superseded
