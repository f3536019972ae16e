import Mathlib.Data.List.Basic
import Mathlib.Order.Defs.LinearOrder

/-! # Pieces that tile an interval

A list of pieces, each of which begins where the one before it ends. -/

namespace NativeLibs

open List

variable {Piece : Type*} (start size : Piece → Nat)

def Tiles : Nat → List Piece → Nat → Prop
  | first, [], last => first = last
  | first, piece :: rest, last => start piece = first ∧ Tiles (first + size piece) rest last

namespace Tiles

variable {start size} {pieces : List Piece}

lemma append_iff : Tiles start size first (left ++ right) last ↔
    ∃ mid, Tiles start size first left mid ∧ Tiles start size mid right last := by
  induction left generalizing first with
  | nil => simp [Tiles]
  | cons head rest ih => simp [Tiles, ih, and_assoc]

section

variable (tiles : Tiles start size first pieces last)
include tiles

lemma le : first ≤ last := by
  induction pieces generalizing first with
  | nil => exact Nat.le_of_eq tiles
  | cons head rest ih => exact Nat.le_trans (Nat.le_add_right _ _) (ih tiles.2)

lemma mem_bounds (mem : piece ∈ pieces) :
    first ≤ start piece ∧ start piece + size piece ≤ last := by
  rcases append_of_mem mem with ⟨old, after, rfl⟩
  rcases append_iff.1 tiles with ⟨mid, head, begins, tail⟩
  rw [begins]
  exact ⟨head.le, tail.le⟩

lemma pairwise :
    pieces.Pairwise fun prior later => start prior + size prior ≤ start later := by
  induction pieces generalizing first with
  | nil => exact .nil
  | cons head rest ih =>
    rw [pairwise_cons]
    refine ⟨fun later mem => ?_, ih tiles.2⟩
    rw [tiles.1]
    exact (tiles.2.mem_bounds mem).1

lemma disjoint_of_start_ne (inOne : one ∈ pieces) (inOther : other ∈ pieces)
    (ne : start one ≠ start other) :
    start one + size one ≤ start other ∨ start other + size other ≤ start one := by
  rcases append_of_mem inOne with ⟨old, after, rfl⟩
  have ord := tiles.pairwise
  rw [pairwise_append, pairwise_cons] at ord
  rcases mem_append.1 inOther with prior | later
  · exact .inr (ord.2.2 other prior one (by simp))
  · rcases mem_cons.1 later with rfl | later
    · exact absurd rfl ne
    · exact .inl (ord.2.1.1 other later)

lemma nodup_starts (pos : ∀ piece ∈ pieces, 0 < size piece) : (pieces.map start).Nodup := by
  have apart : pieces.Pairwise fun prior later => start prior ≠ start later := by
    apply tiles.pairwise.imp_of_mem
    intro prior later mem _ old same
    have nonempty := pos prior mem
    omega
  exact pairwise_map.2 apart

end

end Tiles

end NativeLibs
