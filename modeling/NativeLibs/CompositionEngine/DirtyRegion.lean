import NativeLibs.CompositionEngine.Visibility
import Mathlib.Data.List.Nodup

/-! # What is drawn again

Two walks over the layers of one output, with the frame between them posted. The second walk marks
the points that have to be drawn again. It compares each layer with its own entry of the first
walk, and layers that have nothing to show any more are not compared at all. -/

namespace NativeLibs.CompositionEngine

open Ui List

namespace Output

variable {result : Output}

def shownAt (output : Output) (point : Int × Int) : List Nat :=
  (output.getOutputLayersOrderedByZ.reverse.filter fun outputLayer =>
    outputLayer.state.visibleRegion.contains point.1 point.2).map OutputLayer.layerFE

/-- Why a point is drawn again in the second of two walks, over `before` and over `after`. A layer
with its dirty content, of which something is visible, is or was shown there; or a layer is visible
there that had another one in front of it; or the layer in front was not the one in front. -/
inductive Noticed (output : Output) (before after : List LayerFE) (point : Int × Int) : Prop
  | touched {layer : LayerFE} {above : List LayerFE} {state : LayerFECompositionState}
      (suffix : layer :: above <:+ after) (isState : output.candidate layer = some state)
      (contentDirty : state.contentDirty = true)
      (isVisible : (output.scene.visible layer above).Nonempty)
      (clear : point ∉ output.scene.solids above)
      (shown : point ∈ output.scene.visible layer above ∨ ∃ old ∈ output.scene.kept before,
        old.1.id = layer.id ∧ point ∈ output.scene.visible old.1 old.2)
  | uncovered {layer : LayerFE} {above : List LayerFE} {old : LayerFE × List LayerFE}
      (suffix : layer :: above <:+ after) (visible : point ∈ output.scene.visible layer above)
      (wasKept : old ∈ output.scene.kept before) (same : old.1.id = layer.id)
      (covered : point ∈ output.scene.covered old.1 old.2)
  | exposed {layer : LayerFE} {above : List LayerFE}
      (suffix : layer :: above <:+ after) (visible : point ∈ output.scene.visible layer above)
      (front : point ∉ output.scene.footprints above)
      (wasNot : ∀ old ∈ output.scene.kept before, old.1.id = layer.id →
        point ∈ output.scene.visible old.1 old.2 → point ∈ output.scene.covered old.1 old.2)

variable {out : Output} {after : List LayerFE}

/-! ## What the first walk leaves -/

lemma find_of_shows (shown : List.Forall₂ out.Shows splits outputLayers)
    (nodup : (splits.map fun split => split.1.id).Nodup) (mem : split ∈ splits) :
    ∃ lay, (outputLayers.find? fun lay => lay.layerFE == split.1.id) =
      some lay ∧ out.Shows split lay := by
  induction shown with
  | nil => cases mem
  | @cons first lay rest others shows _ ih =>
    rw [map_cons, nodup_cons] at nodup
    rcases mem_cons.mp mem with rfl | later
    · exact ⟨lay, by simp [shows.layerFE], shows⟩
    · have ne : first.1.id ≠ split.1.id := fun same =>
        nodup.1 (same ▸ mem_map_of_mem later)
      obtain ⟨hit, isFound, showsFound⟩ := ih nodup.2 later
      refine ⟨hit, ?_, showsFound⟩
      rw [find?_cons_of_neg (by simpa [shows.layerFE] using ne), isFound]

lemma distinct_kept (nodup : (old.map LayerFE.id).Nodup) :
    ((out.scene.kept old).map fun split => split.1.id).Nodup := by
  have sublist : ((out.scene.kept old).map Prod.fst).Sublist old := Occlusion.kept_sublist
  have ids := sublist.map LayerFE.id
  rw [map_map] at ids
  exact nodup.sublist ids

lemma mem_old_iff
    (shown : List.Forall₂ out.Shows (out.scene.kept pre) result.getOutputLayersOrderedByZ)
    (nodup : (pre.map LayerFE.id).Nodup) (layer : LayerFE) (point : Int × Int) :
    (point ∈ result.oldVisible layer ↔ ∃ old ∈ out.scene.kept pre,
        old.1.id = layer.id ∧ point ∈ out.scene.visible old.1 old.2) ∧
      (point ∈ result.oldCovered layer ↔ ∃ old ∈ out.scene.kept pre,
        old.1.id = layer.id ∧ point ∈ out.scene.covered old.1 old.2) := by
  have e : ∀ lay, result.previousOutputLayer layer = some lay →
      ∃ old ∈ out.scene.kept pre, old.1.id = layer.id ∧ out.Shows old lay := by
    intro lay hit
    obtain ⟨sameId, mem⟩ := previousOutputLayer_spec hit
    obtain ⟨old, inKept, shows⟩ := exists_of_forall₂ shown.flip mem
    exact ⟨old, inKept, shows.layerFE.symm.trans sameId, shows⟩
  have unique : ∀ old ∈ out.scene.kept pre, old.1.id = layer.id →
      ∃ lay, result.previousOutputLayer layer = some lay ∧
        out.Shows old lay := by
    intro old inKept same
    obtain ⟨lay, hit, shows⟩ := find_of_shows shown (distinct_kept nodup) inKept
    rw [same] at hit
    exact ⟨lay, (previousOutputLayer_eq result layer).trans hit, shows⟩
  constructor
  · constructor
    · rintro ⟨lay, hit, vis⟩
      obtain ⟨old, inKept, same, shows⟩ := e lay hit
      exact ⟨old, inKept, same, shows.visibleRegion ▸ vis⟩
    · rintro ⟨old, inKept, same, vis⟩
      obtain ⟨lay, hit, shows⟩ := unique old inKept same
      exact ⟨lay, hit, shows.visibleRegion ▸ vis⟩
  · constructor
    · rintro ⟨lay, hit, cov⟩
      obtain ⟨old, inKept, same, shows⟩ := e lay hit
      exact ⟨old, inKept, same, shows.coveredRegion ▸ cov⟩
    · rintro ⟨old, inKept, same, cov⟩
      obtain ⟨lay, hit, shows⟩ := unique old inKept same
      exact ⟨lay, hit, shows.coveredRegion ▸ cov⟩

lemma shownAt_eq
    (shown : List.Forall₂ out.Shows (out.scene.kept ls) result.getOutputLayersOrderedByZ)
    (point : Int × Int) :
    result.shownAt point = (out.scene.shownAt ls point).map LayerFE.id := by
  unfold shownAt Occlusion.shownAt
  rw [map_reverse, map_map, filter_reverse, map_reverse]
  congr 1
  generalize out.scene.kept ls = splits at shown ⊢
  generalize result.getOutputLayersOrderedByZ = outputLayers at shown ⊢
  induction shown with
  | nil => rfl
  | @cons split lay _ _ shows _ ih =>
    have vis : lay.state.visibleRegion.contains point.1 point.2 = true ↔
        point ∈ out.scene.visible split.1 split.2 :=
      Set.ext_iff.mp shows.visibleRegion point
    by_cases here : point ∈ out.scene.visible split.1 split.2
    · simp [vis.mpr here, here, ih, shows.layerFE]
    · have miss := (not_congr vis).mpr here
      simp [miss, here, ih]

/-! ## What the second walk marks -/

lemma mem_repainted_iff (out : Output) (ls : List LayerFE) (point : Int × Int) :
    point ∈ out.repainted ls ↔
      ∃ layer above, layer :: above <:+ ls ∧ point ∈ out.repaintedBy layer above := by
  induction ls with
  | nil => simp [repainted]
  | cons layer above ih =>
    simp only [repainted, Set.mem_union, ih, suffix_cons_iff, cons.injEq]
    constructor
    · rintro (here | ⟨other, rest, suffix, later⟩)
      · exact ⟨layer, above, .inl ⟨rfl, rfl⟩, here⟩
      · exact ⟨other, rest, .inr suffix, later⟩
    · rintro ⟨other, rest, ⟨rfl, rfl⟩ | suffix, here⟩
      · exact .inl here
      · exact .inr ⟨other, rest, suffix, here⟩

lemma mem_repainted_iff_noticed (sameScene : result.scene = out.scene)
    (sameCandidate : result.candidate = out.candidate)
    (shown : List.Forall₂ out.Shows (out.scene.kept pre) result.getOutputLayersOrderedByZ)
    (nodup : (pre.map LayerFE.id).Nodup) :
    point ∈ result.repainted after ↔ out.Noticed pre after point := by
  rw [mem_repainted_iff]
  unfold repaintedBy repaint
  rw [sameScene, sameCandidate]
  constructor
  · rintro ⟨layer, above, suffix, st, isState, isVisible, marked, clear⟩
    have old := mem_old_iff shown nodup layer point
    cases dirty : st.contentDirty with
    | true =>
      rw [dirty, if_pos rfl] at marked
      exact .touched suffix isState dirty isVisible clear (marked.imp id old.1.mp)
    | false =>
      rw [dirty, if_neg Bool.false_ne_true] at marked
      rcases marked with ⟨vis, wasCovered⟩ | ⟨⟨vis, uncovered⟩, notExposed⟩
      · obtain ⟨split, wasKept, same, cov⟩ := old.2.mp wasCovered
        exact .uncovered suffix vis wasKept same cov
      · refine .exposed suffix vis (fun cov => uncovered ⟨vis.1, cov⟩) ?_
        intro split wasKept same wasVisible
        by_contra wasUncovered
        refine notExposed ⟨old.1.mpr ⟨split, wasKept, same, wasVisible⟩, fun wasCovered => ?_⟩
        obtain ⟨other, otherKept, otherSame, cov⟩ := old.2.mp wasCovered
        have eq : other = split :=
          inj_on_of_nodup_map (distinct_kept nodup) otherKept wasKept
            (otherSame.trans same.symm)
        exact wasUncovered (eq ▸ cov)
  · intro noticed
    cases noticed with
    | @touched layer above st suffix isState dirty isVisible clear shownThere =>
      have old := mem_old_iff shown nodup layer point
      refine ⟨layer, above, suffix, st, isState, isVisible, ?_, clear⟩
      rw [dirty, if_pos rfl]
      exact shownThere.imp id old.1.mpr
    | @uncovered layer above split suffix vis wasKept same cov =>
      have old := mem_old_iff shown nodup layer point
      obtain ⟨st, isState, _⟩ := vis.1
      refine ⟨layer, above, suffix, st, isState, ⟨point, vis⟩, ?_, vis.2⟩
      split
      next => exact .inl vis
      next => exact .inl ⟨vis, old.2.mpr ⟨split, wasKept, same, cov⟩⟩
    | @exposed layer above suffix vis front wasNot =>
      have old := mem_old_iff shown nodup layer point
      obtain ⟨st, isState, _⟩ := vis.1
      refine ⟨layer, above, suffix, st, isState, ⟨point, vis⟩, ?_, vis.2⟩
      split
      next => exact .inl vis
      next =>
        refine .inr ⟨⟨vis, fun cov => front cov.2⟩, fun wasExposed => ?_⟩
        obtain ⟨split, wasKept, same, wasVisible⟩ := old.1.mp wasExposed.1
        have cov := wasNot split wasKept same wasVisible
        exact wasExposed.2 (old.2.mpr ⟨split, wasKept, same, cov⟩)

/-- After two walks over distinct layers, every point of the viewport where the shown layers differ
is marked exactly if every such point is noticed. -/
theorem dirtyRegion_complete_iff (frame : Frame) (output : Output) (before after : List LayerFE)
    (enabled : output.isEnabled = true) (outputIn : output.InFrame frame)
    (beforeIn : ∀ layer ∈ before, ∀ state ∈ output.candidate layer, state.InFrame frame)
    (afterIn : ∀ layer ∈ after, ∀ state ∈ output.candidate layer, state.InFrame frame)
    (distinctBefore : (before.map LayerFE.id).Nodup)
    (distinctAfter : (after.map LayerFE.id).Nodup) :
    ∃ first second, output.rebuildLayerStacks ⟨true, before⟩ = some first ∧
      first.postFramebuffer.rebuildLayerStacks ⟨true, after⟩ = some second ∧
      ((∀ point ∈ output.viewport.points, first.shownAt point ≠ second.shownAt point →
          point ∈ second.dirtyRegion.points) ↔
        ∀ point ∈ output.viewport.points, (output.scene.shownAt before point).map LayerFE.id ≠
            (output.scene.shownAt after point).map LayerFE.id →
          output.Noticed before after point) := by
  obtain ⟨currentLayers, undefined, dirty, runs, currentIn, shown, _⟩ :=
    outputIn.rebuildLayerStacks enabled beforeIn
  let posted : Output := { output with
    mCurrentOutputLayersOrderedByZ := currentLayers
    mPendingOutputLayersOrderedByZ := []
    undefinedRegion := undefined
    dirtyRegion := .empty }
  have postedIn : posted.InFrame frame :=
    ⟨outputIn.bounds, outputIn.viewport, Region.inFrame_empty, currentIn, rfl⟩
  obtain ⟨laterLayers, laterUndefined, laterDirty, laterRuns, _, laterShown, _, _, marked⟩ :=
    postedIn.rebuildLayerStacks enabled afterIn
  have postedRuns : Output.rebuildLayerStacks (Output.postFramebuffer { posted with
      dirtyRegion := dirty }) ⟨true, after⟩ = posted.rebuildLayerStacks ⟨true, after⟩ := by
    unfold postFramebuffer
    rw [if_pos enabled]
  refine ⟨_, _, runs, postedRuns.trans laterRuns, ?_⟩
  refine forall_congr' fun point => forall_congr' fun _ => ?_
  have noticed : point ∈ posted.repainted after ↔ output.Noticed before after point :=
    mem_repainted_iff_noticed rfl rfl shown distinctBefore
  rw [marked distinctAfter, Region.points_empty, Set.empty_union, noticed, shownAt_eq shown,
    shownAt_eq laterShown]
  rfl

def hiddenState : LayerFECompositionState :=
  { opaqueState ⟨0, 0, 5, 5⟩ with isVisible := false, contentDirty := true }

theorem dirtyRegion_complete_iff_smallScreen :
    ∃ first second, smallScreen.rebuildLayerStacks ⟨true, smallLayers⟩ = some first ∧
      first.postFramebuffer.rebuildLayerStacks ⟨true, smallLayers.tail⟩ = some second ∧
      ((∀ point ∈ smallScreen.viewport.points, first.shownAt point ≠ second.shownAt point →
          point ∈ second.dirtyRegion.points) ↔
        ∀ point ∈ smallScreen.viewport.points,
          (smallScreen.scene.shownAt smallLayers point).map LayerFE.id ≠
            (smallScreen.scene.shownAt smallLayers.tail point).map LayerFE.id →
          smallScreen.Noticed smallLayers smallLayers.tail point) :=
  dirtyRegion_complete_iff smallFrame smallScreen smallLayers smallLayers.tail rfl
    smallScreen_inFrame smallLayers_inFrame
    (fun layer mem => smallLayers_inFrame layer (mem_of_mem_tail mem)) (by decide) (by decide)

/-- A window is hidden. Nothing is shown any more where it was, and nothing is marked. -/
theorem hidden_layer_unmarked : ¬ ∃ first second,
      smallScreen.rebuildLayerStacks ⟨true, [⟨1, some (opaqueState ⟨0, 0, 5, 5⟩)⟩]⟩ = some first ∧
      first.postFramebuffer.rebuildLayerStacks ⟨true, [⟨1, some hiddenState⟩]⟩ = some second ∧
      ∀ point ∈ smallScreen.viewport.points, first.shownAt point ≠ second.shownAt point →
        point ∈ second.dirtyRegion.points := by
  rintro ⟨first, second, firstRuns, secondRuns, complete⟩
  have computed : ((smallScreen.rebuildLayerStacks
      ⟨true, [⟨1, some (opaqueState ⟨0, 0, 5, 5⟩)⟩]⟩).bind fun first =>
        (first.postFramebuffer.rebuildLayerStacks ⟨true, [⟨1, some hiddenState⟩]⟩).map fun second =>
          (first.shownAt (0, 0), second.shownAt (0, 0), second.dirtyRegion)) =
      some ([1], [], .empty) := by
    decide
  rw [firstRuns, Option.bind_some, secondRuns, Option.map_some, Option.some.injEq, Prod.mk.injEq,
    Prod.mk.injEq] at computed
  obtain ⟨wasShown, isShown, isDirty⟩ := computed
  have inViewport : smallScreen.viewport.Covers 0 0 := by decide
  have differ : first.shownAt (0, 0) ≠ second.shownAt (0, 0) := by
    rw [wasShown, isShown]
    decide
  have marked := complete (0, 0) inViewport differ
  rw [isDirty, Region.points_empty] at marked
  cases marked

end Output

end NativeLibs.CompositionEngine
