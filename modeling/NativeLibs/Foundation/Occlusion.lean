import Mathlib.Data.Set.Lattice

/-! # Occlusion

Layers stand in a list from back to front. Each has a footprint, a solid part of it that hides what
is behind, and a clear part where it shows nothing. A layer is kept if something of it is drawn
within the bounds. The solid parts of the layers that are not kept hide nothing that the kept ones
would not hide. -/

namespace NativeLibs

structure Occlusion (Layer Point : Type*) where
  footprint : Layer → Set Point
  solid : Layer → Set Point
  clear : Layer → Set Point
  bounds : Set Point
  solid_subset : ∀ layer, solid layer ⊆ footprint layer
  not_clear_of_solid : ∀ layer, ∀ point ∈ solid layer, point ∉ clear layer

namespace Occlusion

variable {Layer Point : Type*} (scene : Occlusion Layer Point) (layers : List Layer)

def footprints : Set Point := ⋃ layer ∈ layers, scene.footprint layer

def solids : Set Point := ⋃ layer ∈ layers, scene.solid layer

variable (layer : Layer) (above : List Layer)

def visible : Set Point :=
  scene.footprint layer \ scene.solids above

def covered : Set Point :=
  scene.footprint layer ∩ scene.footprints above

def Draws : Prop :=
  ((scene.visible layer above \ scene.clear layer) ∩ scene.bounds).Nonempty

open Classical in
noncomputable def kept : List Layer → List (Layer × List Layer)
  | [] => []
  | layer :: above => if scene.Draws layer above then (layer, above) :: kept above else kept above

open Classical in
noncomputable def shownAt (layers : List Layer) (point : Point) : List Layer :=
  (((scene.kept layers).filter fun split => point ∈ scene.visible split.1 split.2).map
    Prod.fst).reverse

variable {scene} {layer : Layer} {above layers : List Layer}

lemma footprints_cons :
    scene.footprints (layer :: above) = scene.footprint layer ∪ scene.footprints above := by
  simp [footprints, Set.iUnion_or, Set.iUnion_union_distrib]

lemma solids_cons : scene.solids (layer :: above) = scene.solid layer ∪ scene.solids above := by
  simp [solids, Set.iUnion_or, Set.iUnion_union_distrib]

lemma kept_cons_of_draws (draws : scene.Draws layer above) :
    scene.kept (layer :: above) = (layer, above) :: scene.kept above :=
  if_pos draws

lemma kept_cons_of_not_draws (idle : ¬ scene.Draws layer above) :
    scene.kept (layer :: above) = scene.kept above :=
  if_neg idle

lemma kept_subset_cons : scene.kept above ⊆ scene.kept (layer :: above) := by
  by_cases draws : scene.Draws layer above
  · rw [kept_cons_of_draws draws]
    exact List.subset_cons_self _ _
  · rw [kept_cons_of_not_draws draws]
    exact .refl _

lemma kept_sublist : ((scene.kept layers).map Prod.fst).Sublist layers := by
  induction layers with
  | nil => exact .slnil
  | cons layer above ih =>
    by_cases draws : scene.Draws layer above
    · rw [kept_cons_of_draws draws]
      exact ih.cons_cons layer
    · rw [kept_cons_of_not_draws draws]
      exact ih.cons layer

lemma layer_mem_of_mem_kept (mem : split ∈ scene.kept layers) : split.1 ∈ layers :=
  kept_sublist.subset (List.mem_map_of_mem mem)

lemma not_draws_of_visible_empty (hidden : scene.visible layer above = ∅) :
    ¬ scene.Draws layer above := by
  simp [Draws, hidden]

lemma solids_cons_of_hidden (hidden : scene.visible layer above = ∅) :
    scene.solids (layer :: above) = scene.solids above := by
  rw [solids_cons, Set.union_eq_right]
  exact (scene.solid_subset layer).trans (Set.sdiff_eq_empty.mp hidden)

lemma exists_kept (inBounds : point ∈ scene.bounds) (solid : point ∈ scene.solids layers) :
    ∃ split ∈ scene.kept layers, point ∈ scene.solid split.1 ∧
      point ∈ scene.visible split.1 split.2 := by
  induction layers with
  | nil => simp [solids] at solid
  | cons layer above ih =>
    by_cases hidden : point ∈ scene.solids above
    · obtain ⟨split, mem, shown⟩ := ih hidden
      exact ⟨split, kept_subset_cons mem, shown⟩
    · -- nothing above is solid here, so that this layer shows
      rw [solids_cons] at solid
      have inLayer := solid.resolve_right hidden
      have vis : point ∈ scene.visible layer above := ⟨scene.solid_subset layer inLayer, hidden⟩
      have draws : scene.Draws layer above :=
        ⟨point, ⟨vis, scene.not_clear_of_solid layer point inLayer⟩, inBounds⟩
      rw [kept_cons_of_draws draws]
      exact ⟨(layer, above), List.mem_cons_self, inLayer, vis⟩

lemma bounds_diff_solids : scene.bounds \ scene.solids layers =
      scene.bounds \ ⋃ split ∈ scene.kept layers, scene.solid split.1 := by
  ext point
  refine and_congr_right fun inBounds => not_congr ⟨fun solid => ?_, fun solid => ?_⟩
  · obtain ⟨split, mem, inLayer, _⟩ := exists_kept inBounds solid
    exact Set.mem_biUnion mem inLayer
  · obtain ⟨split, mem, inLayer⟩ := Set.mem_iUnion₂.mp solid
    exact Set.mem_biUnion (layer_mem_of_mem_kept mem) inLayer

end Occlusion

end NativeLibs
