import NativeLibs.CompositionEngine.Output
import NativeLibs.Foundation.Occlusion
import NativeLibs.Ui.RegionFrame
import Mathlib.Data.List.ReduceOption

/-! # Which layers an output shows

An output shows its layers as an occlusion scene. One walk of `rebuildLayerStacks` computes, in
regions, the visible and the covered part of each layer that is kept, and what is left undefined. -/

namespace NativeLibs.CompositionEngine

open Ui List
open Region (inFrame_empty empty solid_ofRect points_ofRect points_empty)
open Occlusion Region.InFrame

/-! ## Layers in a frame -/

namespace LayerFECompositionState

variable {state : LayerFECompositionState}

structure InFrame (frame : Frame) (state : LayerFECompositionState) : Prop where
  footprint : state.visibleRectWithShadows.Within frame
  hint : state.isOpaque = false → state.transparentRegionHint.InFrame frame

lemma visibleRectWithShadows_eq (state : LayerFECompositionState) :
    ∃ margin : Int, 0 ≤ margin ∧ state.visibleRectWithShadows =
      ⟨state.visibleRect.left - margin, state.visibleRect.top - margin,
        state.visibleRect.right + margin, state.visibleRect.bottom + margin⟩ := by
  unfold visibleRectWithShadows
  split
  next casts =>
    refine ⟨state.shadowRadius.ceil, ?_, ?_⟩
    · have radius : (0 : Rat) ≤ state.shadowRadius.ceil := casts.le.trans Rat.le_ceil
      exact_mod_cast radius
    · simp only [Rect.inset, Rect.mk.injEq]
      omega
  next => exact ⟨0, le_refl 0, by simp⟩

lemma visibleRect_subset (state : LayerFECompositionState) :
    state.visibleRect.points ⊆ state.visibleRectWithShadows.points := by
  obtain ⟨margin, _, shape⟩ := state.visibleRectWithShadows_eq
  rintro point ⟨_, _, _, _⟩
  rw [shape]
  refine ⟨?_, ?_, ?_, ?_⟩ <;> simp only <;> omega

namespace InFrame

variable (inF : state.InFrame frame)
include inF

lemma visibleRect : state.visibleRect.Within frame := by
  obtain ⟨margin, _, shape⟩ := state.visibleRectWithShadows_eq
  obtain ⟨left, top, right, bot, _⟩ := inF.footprint
  rw [shape] at left top right bot
  have nonNegative := FloatRect.nonNegative_transform state.geomLayerBounds
  simp only at left top right bot
  exact ⟨by omega, by omega, by omega, by omega, nonNegative⟩

lemma shadowRegion : ∃ reg, state.shadowRegion = some reg ∧ reg.InFrame frame := by
  unfold LayerFECompositionState.shadowRegion
  split
  next =>
    obtain ⟨reg, runs, regionIn, _⟩ :=
      (ofRect inF.footprint).subtractRect inF.visibleRect
    exact ⟨reg, runs, regionIn⟩
  next => exact ⟨.empty, rfl, inFrame_empty⟩

lemma transparentRegion : state.transparentRegion.InFrame frame := by
  unfold LayerFECompositionState.transparentRegion
  split
  next => exact inFrame_empty
  next translucent => exact inF.hint (Bool.not_eq_true _ ▸ translucent)

lemma opaqueRegion : state.opaqueRegion.InFrame frame := by
  unfold LayerFECompositionState.opaqueRegion
  split
  next => exact .ofRect inF.visibleRect
  next => exact inFrame_empty

end InFrame

variable (state)

lemma opaqueRegion_subset : state.opaqueRegion.points ⊆ state.visibleRectWithShadows.points := by
  unfold opaqueRegion
  split
  next => simpa using state.visibleRect_subset
  next => simp

lemma not_transparent_of_opaque (inOpaque : point ∈ state.opaqueRegion.points) :
    point ∉ state.transparentRegion.points := by
  unfold opaqueRegion at inOpaque
  unfold transparentRegion
  cases isOpaque : state.isOpaque with
  | true => simp
  | false => simp [isOpaque] at inOpaque

end LayerFECompositionState

/-! ## The scene of an output -/

namespace Output

/-- The layers of the output, in points. A layer that is hidden or belongs elsewhere has none. -/
def scene (output : Output) : Occlusion LayerFE (Int × Int) where
  footprint layer := {point | ∃ state ∈ output.candidate layer,
    point ∈ state.visibleRectWithShadows.points}
  solid layer := {point | ∃ state ∈ output.candidate layer, point ∈ state.opaqueRegion.points}
  clear layer := {point | ∃ state ∈ output.candidate layer, point ∈ state.transparentRegion.points}
  bounds := output.bounds.points
  solid_subset := by
    rintro layer point ⟨state, isState, solid⟩
    exact ⟨state, isState, state.opaqueRegion_subset solid⟩
  not_clear_of_solid := by
    rintro layer point ⟨state, isState, solid⟩ ⟨other, isOther, clear⟩
    obtain rfl : state = other := Option.some.inj (isState.symm.trans isOther)
    exact state.not_transparent_of_opaque solid clear

section Candidate

variable {out : Output}

section

variable (isState : out.candidate layer = some state)
include isState

lemma footprint_of_candidate :
    out.scene.footprint layer = state.visibleRectWithShadows.points := by
  ext point
  simp [scene, isState]

lemma solid_of_candidate : out.scene.solid layer = state.opaqueRegion.points := by
  ext point
  simp [scene, isState]

lemma clear_of_candidate : out.scene.clear layer = state.transparentRegion.points := by
  ext point
  simp [scene, isState]

end

lemma footprint_of_no_candidate (noState : out.candidate layer = none) :
    out.scene.footprint layer = ∅ := by
  ext point
  simp [scene, noState]

end Candidate

/-- The output layer shows its front-end layer below the layers that are above it. -/
structure Shows (output : Output) (split : LayerFE × List LayerFE) (outputLayer : OutputLayer) :
    Prop where
  layerFE : outputLayer.layerFE = split.1.id
  candidate : (output.candidate split.1).isSome
  visibleRegion : outputLayer.state.visibleRegion.points = output.scene.visible split.1 split.2
  coveredRegion : outputLayer.state.coveredRegion.points = output.scene.covered split.1 split.2

end Output

/-- The regions of an output layer that the next walk reads lie in the frame. -/
structure OutputLayer.InFrame (frame : Frame) (outputLayer : OutputLayer) : Prop where
  visibleRegion : outputLayer.state.visibleRegion.InFrame frame
  coveredRegion : outputLayer.state.coveredRegion.InFrame frame

/-- An output between two walks, with all that it reads in the frame. -/
structure Output.InFrame (frame : Frame) (output : Output) : Prop where
  bounds : output.bounds.Within frame
  viewport : output.viewport.Within frame
  dirtyRegion : output.dirtyRegion.InFrame frame
  current : ∀ outputLayer ∈ output.getOutputLayersOrderedByZ, outputLayer.InFrame frame
  idle : output.mPendingOutputLayersOrderedByZ = []

/-! ## The previous layers -/

namespace Output

def previousOutputLayer (output : Output) (layerFE : LayerFE) : Option OutputLayer :=
  (output.findCurrentOutputLayerForLayer layerFE).bind output.getOutputLayerOrderedByZByIndex

lemma bind_findIdx_eq_find (p : α → Bool) (es : List (Option α)) :
    ((es.findIdx? fun e => e.any p).bind fun i => es[i]?.join) =
      es.reduceOption.find? p := by
  induction es with
  | nil => rfl
  | cons e rest ih =>
    cases e with
    | none =>
      simp only [findIdx?_cons, Option.any_none, Bool.false_eq_true, if_false,
        reduceOption_cons_of_none, ← ih]
      cases rest.findIdx? fun e => e.any p <;> rfl
    | some v =>
      simp only [findIdx?_cons, Option.any_some, reduceOption_cons_of_some, find?_cons, ← ih]
      by_cases hit : p v = true
      · simp [hit]
      · simp only [hit]
        cases rest.findIdx? fun e => e.any p <;> rfl

lemma previousOutputLayer_eq (out : Output) (layerFE : LayerFE) :
    out.previousOutputLayer layerFE = out.getOutputLayersOrderedByZ.find? fun lay =>
        lay.layerFE == layerFE.id :=
  bind_findIdx_eq_find _ _

lemma previousOutputLayer_spec {out : Output} (hit : out.previousOutputLayer layer = some lay) :
    lay.layerFE = layer.id ∧ lay ∈ out.getOutputLayersOrderedByZ := by
  rw [previousOutputLayer_eq] at hit
  exact ⟨by simpa using find?_some hit, mem_of_find?_eq_some hit⟩

lemma find_reduceOption_set {es : List (Option α)}
    (other : ∀ v, es[i]? = some (some v) → p v = false) :
    (es.set i none).reduceOption.find? p = es.reduceOption.find? p := by
  induction es generalizing i with
  | nil => rfl
  | cons e rest ih =>
    cases i with
    | zero =>
      cases e with
      | none => rfl
      | some v =>
        have differs : p v = false := other v rfl
        simp [reduceOption_cons_of_some, differs]
    | succ i =>
      have later := ih fun v atIndex => other v atIndex
      cases e with
      | none => simpa [reduceOption_cons_of_none] using later
      | some v => simp [reduceOption_cons_of_some, find?_cons, later]

def oldVisible (output : Output) (layerFE : LayerFE) : Set (Int × Int) :=
  {point | ∃ outputLayer ∈ output.previousOutputLayer layerFE,
    point ∈ outputLayer.state.visibleRegion.points}

def oldCovered (output : Output) (layerFE : LayerFE) : Set (Int × Int) :=
  {point | ∃ outputLayer ∈ output.previousOutputLayer layerFE,
    point ∈ outputLayer.state.coveredRegion.points}

end Output

def repaint (contentDirty : Bool) (visible covered oldVisible oldCovered above : Set (Int × Int)) :
    Set (Int × Int) :=
  (if contentDirty then visible ∪ oldVisible
    else visible ∩ oldCovered ∪ ((visible \ covered) \ (oldVisible \ oldCovered))) \ above

namespace Output

def repaintedBy (output : Output) (layer : LayerFE) (above : List LayerFE) : Set (Int × Int) :=
  {point | ∃ state ∈ output.candidate layer, (output.scene.visible layer above).Nonempty ∧
    point ∈ repaint state.contentDirty (output.scene.visible layer above)
      (output.scene.covered layer above) (output.oldVisible layer) (output.oldCovered layer)
      (output.scene.solids above)}

def repainted (output : Output) : List LayerFE → Set (Int × Int)
  | [] => ∅
  | layer :: above => output.repaintedBy layer above ∪ output.repainted above

lemma repaintedBy_of_candidate {out : Output} (isState : out.candidate layer = some state)
    (isVisible : (out.scene.visible layer above).Nonempty) :
    out.repaintedBy layer above = repaint state.contentDirty (out.scene.visible layer above)
      (out.scene.covered layer above) (out.oldVisible layer) (out.oldCovered layer)
      (out.scene.solids above) := by
  ext point
  simp [repaintedBy, isState, isVisible]

lemma repaintedBy_of_hidden {out : Output} (hidden : out.scene.visible layer above = ∅) :
    out.repaintedBy layer above = ∅ := by
  ext point
  simp [repaintedBy, hidden]

end Output

/-! ## One layer -/

lemma dirtyRegionOf_spec (vis : visibleRegion.InFrame frame)
    (cov : coveredRegion.InFrame frame) (oldVisible : oldVisibleRegion.InFrame frame)
    (oldCovered : oldCoveredRegion.InFrame frame) (above : aboveOpaqueLayers.InFrame frame)
    (contentDirty : Bool) :
    ∃ dirty, dirtyRegionOf contentDirty visibleRegion coveredRegion oldVisibleRegion
        oldCoveredRegion aboveOpaqueLayers = some dirty ∧ dirty.InFrame frame ∧
      dirty.points = repaint contentDirty visibleRegion.points coveredRegion.points
        oldVisibleRegion.points oldCoveredRegion.points aboveOpaqueLayers.points := by
  cases contentDirty with
  | true =>
    obtain ⟨whole, wholeRuns, wholeIn, wholePoints⟩ := vis.orSelf oldVisible
    obtain ⟨dirty, runs, dirtyIn, _, points⟩ := wholeIn.subtractSelf above
    refine ⟨dirty, by simp [dirtyRegionOf, wholeRuns, runs], dirtyIn, ?_⟩
    rw [points, wholePoints]
    rfl
  | false =>
    obtain ⟨newExposed, newRuns, newIn, _, newPoints⟩ := vis.subtract cov
    obtain ⟨oldExposed, oldRuns, oldIn, _, oldPoints⟩ := oldVisible.subtract oldCovered
    obtain ⟨uncovered, uncoveredRuns, uncoveredIn, _, uncoveredPoints⟩ :=
      vis.intersect oldCovered
    obtain ⟨exposed, exposedRuns, exposedIn, _, exposedPoints⟩ := newIn.subtract oldIn
    obtain ⟨union, unionRuns, unionIn, unionPoints⟩ := uncoveredIn.merge exposedIn
    obtain ⟨dirty, runs, dirtyIn, _, points⟩ := unionIn.subtractSelf above
    refine ⟨dirty, ?_, dirtyIn, ?_⟩
    · simp [dirtyRegionOf, newRuns, oldRuns, uncoveredRuns, exposedRuns, unionRuns, runs]
    · rw [points, unionPoints, uncoveredPoints, exposedPoints, newPoints, oldPoints]
      rfl

/-- What the walk has added up after the layers `above`. -/
structure CoverageState.AddsUp (frame : Frame) (output : Output) (above : List LayerFE)
    (coverage : CoverageState) : Prop where
  aboveCoveredLayers : coverage.aboveCoveredLayers.InFrame frame
  covered_points : coverage.aboveCoveredLayers.points = output.scene.footprints above
  aboveOpaqueLayers : coverage.aboveOpaqueLayers.InFrame frame
  opaque_points : coverage.aboveOpaqueLayers.points = output.scene.solids above
  dirtyRegion : coverage.dirtyRegion.InFrame frame
  -- a layer that occurs twice finds another entry the second time
  dirty_points : (above.map LayerFE.id).Nodup → coverage.dirtyRegion.points = output.repainted above

/-- What the walk has made of `output` after the layers `above`. -/
structure Output.Reached (frame : Frame) (output : Output) (above : List LayerFE)
    (current : Output) : Prop where
  same : ∃ currentLayers pendingLayers, current = { output with
    mCurrentOutputLayersOrderedByZ := currentLayers
    mPendingOutputLayersOrderedByZ := pendingLayers }
  currentLayers : ∀ outputLayer ∈ current.getOutputLayersOrderedByZ, outputLayer.InFrame frame
  pendingLayers : ∀ outputLayer ∈ current.mPendingOutputLayersOrderedByZ, outputLayer.InFrame frame
  shown : List.Forall₂ output.Shows (output.scene.kept above)
    current.mPendingOutputLayersOrderedByZ.reverse
  previous : ∀ layer : LayerFE, layer.id ∉ above.map LayerFE.id →
    current.previousOutputLayer layer = output.previousOutputLayer layer

namespace Output

variable {out : Output}

lemma mem_getOutputLayersOrderedByZ : lay ∈ out.getOutputLayersOrderedByZ ↔
      some lay ∈ out.mCurrentOutputLayersOrderedByZ :=
  reduceOption_mem_iff

section

variable (met : out.Reached frame above cur)
include met

lemma Reached.bounds_eq : cur.bounds = out.bounds ∧ cur.viewport = out.viewport := by
  obtain ⟨_, _, rfl⟩ := met.same
  exact ⟨rfl, rfl⟩

lemma Reached.candidate_eq (layer : LayerFE) : cur.candidate layer = out.candidate layer := by
  obtain ⟨_, _, rfl⟩ := met.same
  rfl

lemma Reached.skip (idle : ¬ out.scene.Draws layer above) :
    out.Reached frame (layer :: above) cur where
  same := met.same
  currentLayers := met.currentLayers
  pendingLayers := met.pendingLayers
  shown := by
    rw [kept_cons_of_not_draws idle]
    exact met.shown
  previous other miss := met.previous other fun inAbove =>
    miss (mem_cons_of_mem _ inAbove)

end

lemma previousOutputLayer_ensureOutputLayer (cur : Output) (layer : LayerFE)
    (editState : OutputLayerCompositionState → OutputLayerCompositionState) (other : LayerFE)
    (ne : other.id ≠ layer.id) :
    (cur.ensureOutputLayer (cur.findCurrentOutputLayerForLayer layer) layer
      editState).previousOutputLayer other = cur.previousOutputLayer other := by
  rw [previousOutputLayer_eq, previousOutputLayer_eq]
  simp only [Output.ensureOutputLayer, getOutputLayersOrderedByZ]
  split
  next i isIndex =>
    refine find_reduceOption_set fun lay atIndex => ?_
    have hit : cur.previousOutputLayer layer = some lay := by
      simp [previousOutputLayer, isIndex, getOutputLayerOrderedByZByIndex, atIndex]
    obtain ⟨sameId, _⟩ := previousOutputLayer_spec hit
    simpa [sameId] using ne.symm
  next => rfl

lemma Reached.ensureOutputLayer (met : out.Reached frame above cur)
    (draws : out.scene.Draws layer above)
    (inF : ∀ state, (editState state).visibleRegion.InFrame frame ∧
      (editState state).coveredRegion.InFrame frame)
    (shows : ∀ state, out.Shows (layer, above) ⟨layer.id, editState state⟩) :
    out.Reached frame (layer :: above)
      (cur.ensureOutputLayer (cur.findCurrentOutputLayerForLayer layer) layer editState) := by
  -- whether it was found or created, the layer is one for this front-end layer
  obtain ⟨state, isLayer⟩ : ∃ state,
      (cur.previousOutputLayer layer).getD ⟨layer.id, .initial⟩ = ⟨layer.id, state⟩ := by
    cases hit : cur.previousOutputLayer layer with
    | none => exact ⟨_, rfl⟩
    | some lay =>
      obtain ⟨sameId, _⟩ := previousOutputLayer_spec hit
      exact ⟨lay.state, by rw [Option.getD_some, ← sameId]⟩
  have same := cur.previousOutputLayer_ensureOutputLayer layer editState
  simp only [previousOutputLayer] at isLayer
  simp only [Output.ensureOutputLayer, isLayer] at same ⊢
  constructor
  · obtain ⟨_, _, rfl⟩ := met.same
    exact ⟨_, _, rfl⟩
  · intro lay mem
    refine met.currentLayers lay ?_
    rw [mem_getOutputLayersOrderedByZ] at mem ⊢
    dsimp only at mem
    split at mem
    next => exact (mem_or_eq_of_mem_set mem).resolve_right (by simp)
    next => exact mem
  · exact forall_mem_append.2 ⟨met.pendingLayers, forall_mem_singleton.2 ⟨(inF
      state).1, (inF state).2⟩⟩
  · rw [kept_cons_of_draws draws, reverse_append]
    exact .cons (shows state) met.shown
  · intro other miss
    rw [map_cons, mem_cons, not_or] at miss
    exact (same other miss.1).trans (met.previous other miss.2)

lemma Reached.previous_inFrame (met : out.Reached frame above cur) (layer : LayerFE) :
    ((cur.previousOutputLayer layer).elim empty fun lay => lay.state.visibleRegion).InFrame frame ∧
      ((cur.previousOutputLayer layer).elim empty
        fun lay => lay.state.coveredRegion).InFrame frame := by
  cases hit : cur.previousOutputLayer layer with
  | none => exact ⟨inFrame_empty, inFrame_empty⟩
  | some lay =>
    have inF := met.currentLayers lay (previousOutputLayer_spec hit).2
    exact ⟨inF.visibleRegion, inF.coveredRegion⟩

lemma previous_points (out : Output) (layer : LayerFE) :
    ((out.previousOutputLayer layer).elim empty
        fun lay => lay.state.visibleRegion).points = out.oldVisible layer ∧
      ((out.previousOutputLayer layer).elim empty
        fun lay => lay.state.coveredRegion).points = out.oldCovered layer := by
  unfold oldVisible oldCovered
  cases out.previousOutputLayer layer with
  | none => simp
  | some lay => simp

variable (met : out.Reached frame above cur) (outIn : out.InFrame frame)
include met outIn

lemma Reached.storeOutputLayer (isCandidate : (out.candidate layer).isSome)
    (draws : out.scene.Draws layer above) (visibleIn : visibleRegion.InFrame frame)
    (coveredIn : coveredRegion.InFrame frame) (shadowIn : shadowRegion.InFrame frame)
    (visiblePoints : visibleRegion.points = out.scene.visible layer above)
    (coveredPoints : coveredRegion.points = out.scene.covered layer above) :
    ∃ next, cur.storeOutputLayer (cur.findCurrentOutputLayerForLayer layer) layer
        visibleRegion visibleNonTransparentRegion coveredRegion shadowRegion = some next ∧
      out.Reached frame (layer :: above) next := by
  obtain ⟨nonShadow, nonShadowRuns, nonShadowIn, _⟩ := visibleIn.subtract shadowIn
  obtain ⟨outputSpace, outputSpaceRuns, _⟩ := nonShadowIn.intersectRect outIn.viewport
  simp only [Output.storeOutputLayer, met.bounds_eq.2, nonShadowRuns, outputSpaceRuns,
    Option.bind_eq_bind, Option.bind_some, Option.pure_def, Option.some.injEq, exists_eq_left']
  exact met.ensureOutputLayer draws (fun _ => ⟨visibleIn, coveredIn⟩)
    fun _ => ⟨rfl, isCandidate, visiblePoints, coveredPoints⟩

lemma Reached.updateVisibleLayer (isState : out.candidate layer = some state)
    (stateIn : state.InFrame frame) (sum : CoverageState.AddsUp frame out above coverage)
    (nowIn : nowCovered.InFrame frame)
    (nowPoints : nowCovered.points = out.scene.footprints (layer :: above))
    (isVisible : (out.scene.visible layer above).Nonempty)
    (visibleIn : visibleRegion.InFrame frame) (coveredIn : coveredRegion.InFrame frame)
    (shadowIn : shadowRegion.InFrame frame)
    (visiblePoints : visibleRegion.points = out.scene.visible layer above)
    (coveredPoints : coveredRegion.points = out.scene.covered layer above) :
    ∃ next, cur.updateVisibleLayer { coverage with aboveCoveredLayers := nowCovered } layer
        state visibleRegion coveredRegion shadowRegion = some next ∧
      out.Reached frame (layer :: above) next.1 ∧
      next.2.AddsUp frame out (layer :: above) := by
  obtain ⟨oldVisibleIn, oldCoveredIn⟩ := met.previous_inFrame layer
  obtain ⟨dirty, dirtyRuns, dirtyIn, dirtyPoints⟩ := dirtyRegionOf_spec visibleIn coveredIn
    oldVisibleIn oldCoveredIn sum.aboveOpaqueLayers state.contentDirty
  obtain ⟨allDirty, allDirtyRuns, allDirtyIn, allDirtyPoints⟩ := sum.dirtyRegion.orSelf dirtyIn
  obtain ⟨opaqueNow, opaqueRuns, opaqueIn, opaquePoints⟩ :=
    sum.aboveOpaqueLayers.orSelf stateIn.opaqueRegion
  obtain ⟨nonTransparent, nonTransparentRuns, nonTransparentIn, _, nonTransparentPoints⟩ :=
    visibleIn.subtract stateIn.transparentRegion
  obtain ⟨draw, drawRuns, _, drawSolid, drawPoints⟩ := nonTransparentIn.andSelfRect outIn.bounds
  have nextAddsUp : CoverageState.AddsUp frame out (layer :: above)
      ⟨nowCovered, opaqueNow, allDirty⟩ := by
    refine ⟨nowIn, nowPoints, opaqueIn, ?_, allDirtyIn, fun nodup => ?_⟩
    · rw [opaquePoints, sum.opaque_points, solids_cons, solid_of_candidate isState,
        Set.union_comm]
    · rw [map_cons, nodup_cons] at nodup
      rw [met.previous layer nodup.1, (out.previous_points layer).1,
        (out.previous_points layer).2, visiblePoints, coveredPoints,
        sum.opaque_points] at dirtyPoints
      rw [allDirtyPoints, sum.dirty_points nodup.2, dirtyPoints, Set.union_comm, repainted,
        repaintedBy_of_candidate isState isVisible]
  have drawsIff : draw.isEmpty = true ↔ ¬ out.scene.Draws layer above := by
    refine .trans drawSolid ?_
    rw [drawPoints, nonTransparentPoints, visiblePoints, Occlusion.Draws,
      clear_of_candidate isState, Set.not_nonempty_iff_eq_empty]
    rfl
  unfold previousOutputLayer at dirtyRuns
  simp only [Output.updateVisibleLayer, dirtyRuns, allDirtyRuns, opaqueRuns, nonTransparentRuns,
    met.bounds_eq.1, drawRuns, Option.bind_eq_bind, Option.bind_some, Option.pure_def]
  split
  next idle => exact ⟨_, rfl, met.skip (drawsIff.mp idle), nextAddsUp⟩
  next drawn =>
    have draws : out.scene.Draws layer above := by
      by_contra idle
      exact drawn (drawsIff.mpr idle)
    obtain ⟨next, runs, nextReached⟩ := met.storeOutputLayer outIn
      (Option.isSome_iff_exists.mpr ⟨state, isState⟩) draws visibleIn coveredIn shadowIn
      visiblePoints coveredPoints
    rw [runs]
    exact ⟨_, rfl, nextReached, nextAddsUp⟩

end Output

lemma CoverageState.AddsUp.dirty_points_of_hidden {frame : Frame} {coverage : CoverageState}
    (sum : coverage.AddsUp frame out above) (hidden : out.scene.visible layer above = ∅)
    (nodup : ((layer :: above).map LayerFE.id).Nodup) :
    coverage.dirtyRegion.points = out.repainted (layer :: above) := by
  rw [map_cons, nodup_cons] at nodup
  rw [sum.dirty_points nodup.2, Output.repainted, Output.repaintedBy_of_hidden hidden,
    Set.empty_union]

namespace Output

variable {out : Output} {outputLayers : List OutputLayer}

lemma Reached.ensureOutputLayerIfVisible (met : out.Reached frame above cur)
    (outIn : out.InFrame frame) (sum : coverage.AddsUp frame out above)
    (layerIn : ∀ state ∈ out.candidate layer, state.InFrame frame) :
    ∃ next, cur.ensureOutputLayerIfVisible coverage layer = some next ∧
      out.Reached frame (layer :: above) next.1 ∧ next.2.AddsUp frame out (layer :: above) := by
  -- a layer without a footprint changes nothing
  have miss (nothing : out.scene.footprint layer = ∅) :
      out.Reached frame (layer :: above) cur ∧
        coverage.AddsUp frame out (layer :: above) := by
    have hidden : out.scene.visible layer above = ∅ := by
      rw [visible, nothing, Set.empty_sdiff]
    refine ⟨met.skip (not_draws_of_visible_empty hidden),
      sum.aboveCoveredLayers, ?_, sum.aboveOpaqueLayers, ?_, sum.dirtyRegion,
      sum.dirty_points_of_hidden hidden⟩
    · rw [sum.covered_points, footprints_cons, nothing, Set.empty_union]
    · rw [sum.opaque_points, solids_cons_of_hidden hidden]
  unfold Output.ensureOutputLayerIfVisible
  rw [met.candidate_eq]
  split
  next noState => exact ⟨_, rfl, miss (footprint_of_no_candidate noState)⟩
  next state isState =>
    have stateIn := layerIn state isState
    have footprint := footprint_of_candidate isState
    obtain ⟨shadow, shadowRuns, shadowIn⟩ := stateIn.shadowRegion
    have footprintIn := ofRect stateIn.footprint
    have footprintSolid := solid_ofRect stateIn.footprint
    rw [Region.Solid, points_ofRect, ← footprint] at footprintSolid
    obtain ⟨cov, coveredRuns, coveredIn, _, coveredPoints⟩ :=
      sum.aboveCoveredLayers.intersect footprintIn
    obtain ⟨nowCovered, nowCoveredRuns, nowCoveredIn, nowCoveredPoints⟩ :=
      sum.aboveCoveredLayers.orSelf footprintIn
    obtain ⟨vis, visibleRuns, visibleIn, visibleSolid, visiblePoints⟩ :=
      footprintIn.subtractSelf sum.aboveOpaqueLayers
    rw [points_ofRect, ← footprint] at coveredPoints nowCoveredPoints visiblePoints
    rw [sum.covered_points, Set.inter_comm] at coveredPoints
    rw [sum.covered_points, Set.union_comm, ← footprints_cons] at nowCoveredPoints
    rw [sum.opaque_points] at visiblePoints
    simp only [Output.coverLayer, shadowRuns, coveredRuns, nowCoveredRuns, visibleRuns,
      Option.bind_eq_bind, Option.bind_some, Option.pure_def]
    split
    next empty => exact ⟨_, rfl, miss (footprintSolid.mp empty)⟩
    next =>
      split
      next empty =>
        -- the opaque region is not added, but it is hidden by those above
        have hidden : out.scene.visible layer above = ∅ :=
          visiblePoints.symm.trans (visibleSolid.mp empty)
        refine ⟨_, rfl, met.skip (not_draws_of_visible_empty hidden), nowCoveredIn,
          nowCoveredPoints, sum.aboveOpaqueLayers, ?_, sum.dirtyRegion,
          sum.dirty_points_of_hidden hidden⟩
        rw [sum.opaque_points, solids_cons_of_hidden hidden]
      next solid =>
        have isVisible : (out.scene.visible layer above).Nonempty := by
          rw [Set.nonempty_iff_ne_empty]
          intro hidden
          exact solid (visibleSolid.mpr (visiblePoints.trans hidden))
        exact met.updateVisibleLayer outIn isState stateIn sum nowCoveredIn
          nowCoveredPoints isVisible visibleIn coveredIn shadowIn visiblePoints coveredPoints

/-! ## The walk -/

lemma ensureAll_append (out : Output) (coverage : CoverageState) (ls : List LayerFE)
    (last : LayerFE) : out.ensureAll coverage (ls ++ [last]) =
      (out.ensureAll coverage ls).bind fun next =>
        next.1.ensureOutputLayerIfVisible next.2 last := by
  induction ls generalizing out coverage with
  | nil => simp [ensureAll]
  | cons layer rest ih => simp [ensureAll, ih, Option.bind_assoc]

lemma InFrame.ensureAll (outIn : out.InFrame frame)
    (layersIn : ∀ layer ∈ ls, ∀ state ∈ out.candidate layer, state.InFrame frame) :
    ∃ next, out.ensureAll .initial ls.reverse = some next ∧
      out.Reached frame ls next.1 ∧ next.2.AddsUp frame out ls := by
  induction ls with
  | nil =>
    refine ⟨_, rfl, ⟨⟨_, _, rfl⟩, outIn.current, ?_, ?_, fun _ _ => rfl⟩,
      inFrame_empty, ?_, inFrame_empty, ?_, inFrame_empty, fun _ => points_empty⟩
    · simp [outIn.idle]
    · simp [outIn.idle, kept]
    · simp [CoverageState.initial, footprints]
    · simp [CoverageState.initial, solids]
  | cons layer above ih =>
    obtain ⟨next, runs, met, sum⟩ :=
      ih fun other mem => layersIn other (mem_cons_of_mem _ mem)
    rw [reverse_cons, ensureAll_append, runs]
    exact met.ensureOutputLayerIfVisible outIn sum (layersIn layer mem_cons_self)

def numbered (entry : OutputLayer × Nat) : OutputLayer :=
  { entry.1 with state := { entry.1.state with z := entry.2 } }

lemma numberLayers_finalize (out : Output) :
    out.finalizePendingOutputLayers.numberLayers.getOutputLayersOrderedByZ =
      out.mPendingOutputLayersOrderedByZ.reverse.zipIdx.map numbered := by
  simp only [getOutputLayersOrderedByZ, numberLayers, finalizePendingOutputLayers, zipIdx_map,
    map_map, reduceOption]
  rw [filterMap_map]
  exact congrFun filterMap_eq_map _

lemma forall₂_shows_numbered (shown : List.Forall₂ out.Shows splits outputLayers) (low : Nat) :
    List.Forall₂ out.Shows splits ((outputLayers.zipIdx low).map numbered) := by
  induction shown generalizing low with
  | nil => exact .nil
  | cons shows _ ih =>
    exact .cons ⟨shows.layerFE, shows.candidate, shows.visibleRegion, shows.coveredRegion⟩
      (ih (low + 1))

lemma mem_numbered (mem : lay ∈ outputLayers.zipIdx.map numbered) :
    ∃ original ∈ outputLayers, ∃ z, lay = numbered (original, z) := by
  obtain ⟨⟨original, z⟩, ins, rfl⟩ := mem_map.mp mem
  exact ⟨original, (mem_zipIdx' ins).2 ▸ getElem_mem _, z, rfl⟩

lemma InFrame.collectVisibleLayers (outIn : out.InFrame frame)
    (layersIn : ∀ layer ∈ ls, ∀ state ∈ out.candidate layer, state.InFrame frame) :
    ∃ next, out.collectVisibleLayers .initial ls = some next ∧
      (∃ currentLayers, next.1 = { out with
        mCurrentOutputLayersOrderedByZ := currentLayers
        mPendingOutputLayersOrderedByZ := [] }) ∧
      (∀ lay ∈ next.1.getOutputLayersOrderedByZ, lay.InFrame frame) ∧
      List.Forall₂ out.Shows (out.scene.kept ls) next.1.getOutputLayersOrderedByZ ∧
      next.2.AddsUp frame out ls := by
  obtain ⟨walked, runs, met, sum⟩ := outIn.ensureAll layersIn
  refine ⟨(walked.1.finalizePendingOutputLayers.numberLayers, walked.2), ?_, ?_, ?_, ?_, sum⟩
  · simp [Output.collectVisibleLayers, runs]
  · obtain ⟨_, _, same⟩ := met.same
    rw [same]
    exact ⟨_, rfl⟩
  · intro lay mem
    rw [numberLayers_finalize] at mem
    obtain ⟨original, inPending, z, rfl⟩ := mem_numbered mem
    have originalIn := met.pendingLayers original (mem_reverse.mp inPending)
    exact ⟨originalIn.visibleRegion, originalIn.coveredRegion⟩
  · rw [numberLayers_finalize]
    exact forall₂_shows_numbered met.shown 0

lemma exists_of_forall₂ (pairs : List.Forall₂ related lefts rights) (mem : left ∈ lefts) :
    ∃ right ∈ rights, related left right := by
  induction pairs with
  | nil => cases mem
  | cons first _ ih =>
    rcases mem_cons.mp mem with rfl | later
    · exact ⟨_, mem_cons_self, first⟩
    · obtain ⟨right, ins, hit⟩ := ih later
      exact ⟨right, mem_cons_of_mem _ ins, hit⟩

lemma InFrame.rebuildLayerStacks (outIn : out.InFrame frame) (enabled : out.isEnabled = true)
    (layersIn : ∀ layer ∈ ls, ∀ state ∈ out.candidate layer, state.InFrame frame) :
    ∃ currentLayers undefinedRegion dirtyRegion,
      out.rebuildLayerStacks ⟨true, ls⟩ = some { out with
        mCurrentOutputLayersOrderedByZ := currentLayers
        mPendingOutputLayersOrderedByZ := []
        undefinedRegion
        dirtyRegion } ∧
      (∀ lay ∈ currentLayers.reduceOption, lay.InFrame frame) ∧
      List.Forall₂ out.Shows (out.scene.kept ls) currentLayers.reduceOption ∧
      undefinedRegion.points = out.bounds.points \ out.scene.solids ls ∧
      dirtyRegion.InFrame frame ∧
      ((ls.map LayerFE.id).Nodup →
        dirtyRegion.points = out.dirtyRegion.points ∪ out.repainted ls) := by
  obtain ⟨⟨walked, coverage⟩, runs, ⟨currentLayers, isWalked⟩, currentIn, shown, sum⟩ :=
    outIn.collectVisibleLayers layersIn
  dsimp only at isWalked currentIn shown sum
  subst isWalked
  obtain ⟨undefined, undefinedRuns, _, _, undefinedPoints⟩ :=
    (ofRect outIn.bounds).subtractSelf sum.aboveOpaqueLayers
  obtain ⟨dirty, dirtyRuns, dirtyIn, dirtyPoints⟩ := outIn.dirtyRegion.orSelf sum.dirtyRegion
  refine ⟨currentLayers, undefined, dirty, ?_, currentIn, shown, ?_, dirtyIn, fun nodup => ?_⟩
  · simp [Output.rebuildLayerStacks, enabled, runs, undefinedRuns, dirtyRuns]
  · rw [undefinedPoints, points_ofRect, sum.opaque_points]
  · rw [dirtyPoints, sum.dirty_points nodup]

/-- What an output shows after its layer stacks were rebuilt: in a frame, each kept layer with its
visible and covered points, and nothing undefined where a kept layer is opaque. Every point of the
bounds where some layer is opaque is visible in a kept layer. -/
theorem rebuildLayerStacks_visibility (frame : Frame) (output : Output) (layers : List LayerFE)
    (enabled : output.isEnabled = true) (outputIn : output.InFrame frame)
    (layersIn : ∀ layer ∈ layers, ∀ state ∈ output.candidate layer, state.InFrame frame) :
    ∃ result, output.rebuildLayerStacks ⟨true, layers⟩ = some result ∧ result.InFrame frame ∧
      List.Forall₂ output.Shows (output.scene.kept layers) result.getOutputLayersOrderedByZ ∧
      result.undefinedRegion.points = output.bounds.points \
        ⋃ split ∈ output.scene.kept layers, output.scene.solid split.1 ∧
      ∀ point ∈ output.bounds.points, ∀ layer ∈ layers, point ∈ output.scene.solid layer →
        ∃ outputLayer ∈ result.getOutputLayersOrderedByZ,
          point ∈ outputLayer.state.visibleRegion.points := by
  obtain ⟨currentLayers, undefined, dirty, runs, currentIn, shown, undefinedPoints, dirtyIn, _⟩ :=
    outputIn.rebuildLayerStacks enabled layersIn
  refine ⟨_, runs, ⟨outputIn.bounds, outputIn.viewport, dirtyIn, currentIn, rfl⟩, shown, ?_, ?_⟩
  · rw [undefinedPoints]
    change output.scene.bounds \ _ = output.scene.bounds \ _
    exact bounds_diff_solids
  · intro point inBounds layer mem solid
    obtain ⟨split, isKept, _, vis⟩ :=
      exists_kept inBounds (Set.mem_biUnion mem solid)
    obtain ⟨outputLayer, inResult, shows⟩ := exists_of_forall₂ shown isKept
    exact ⟨outputLayer, inResult, shows.visibleRegion ▸ vis⟩

def smallFrame : Frame where
  box := ⟨-100, -100, 100, 100⟩
  left := by decide
  top := by decide
  right := by decide
  bottom := by decide
  width := by decide
  height := by decide
  below := by decide

def smallScreen : Output where
  isEnabled := true
  layerStackInternal := true
  layerStackId := 0
  bounds := ⟨0, 0, 10, 10⟩
  viewport := ⟨0, 0, 10, 10⟩
  dirtyRegion := .empty
  undefinedRegion := .empty
  mCurrentOutputLayersOrderedByZ := []
  mPendingOutputLayersOrderedByZ := []

def opaqueState (bounds : FloatRect) : LayerFECompositionState where
  layerStackId := some 0
  internalOnly := false
  isVisible := true
  isOpaque := true
  contentDirty := false
  transparentRegionHint := .empty
  geomLayerBounds := bounds
  shadowRadius := 0

def shadowedState : LayerFECompositionState :=
  { opaqueState ⟨2, 2, 8, 8⟩ with
    isOpaque := false, transparentRegionHint := .ofRect ⟨3, 3, 4, 4⟩, shadowRadius := 2 }

lemma smallScreen_inFrame : smallScreen.InFrame smallFrame where
  bounds := ⟨by decide, by decide, by decide, by decide, by decide⟩
  viewport := ⟨by decide, by decide, by decide, by decide, by decide⟩
  dirtyRegion := inFrame_empty
  current := by simp [smallScreen, getOutputLayersOrderedByZ, reduceOption]
  idle := rfl

lemma shadowedState_inFrame : shadowedState.InFrame smallFrame where
  footprint := ⟨by decide, by decide, by decide, by decide, by decide⟩
  hint _ := .ofRect ⟨by decide, by decide, by decide, by decide, by decide⟩

lemma opaqueState_inFrame : (opaqueState ⟨0, 0, 5, 5⟩).InFrame smallFrame where
  footprint := ⟨by decide, by decide, by decide, by decide, by decide⟩
  hint translucent := by cases translucent

def smallLayers : List LayerFE :=
  [⟨1, some shadowedState⟩, ⟨2, some (opaqueState ⟨0, 0, 5, 5⟩)⟩]

lemma smallLayers_inFrame :
    ∀ layer ∈ smallLayers, ∀ state ∈ smallScreen.candidate layer, state.InFrame smallFrame := by
  intro layer mem state isState
  simp only [smallLayers, mem_cons, not_mem_nil, or_false] at mem
  rcases mem with rfl | rfl
  · cases isState
    exact shadowedState_inFrame
  · cases isState
    exact opaqueState_inFrame

theorem rebuildLayerStacks_visibility_smallScreen :
    ∃ result, smallScreen.rebuildLayerStacks ⟨true, smallLayers⟩ = some result ∧
      result.InFrame smallFrame ∧
      List.Forall₂ smallScreen.Shows (smallScreen.scene.kept smallLayers)
        result.getOutputLayersOrderedByZ ∧
      result.undefinedRegion.points = smallScreen.bounds.points \
        ⋃ split ∈ smallScreen.scene.kept smallLayers, smallScreen.scene.solid split.1 ∧
      ∀ point ∈ smallScreen.bounds.points, ∀ layer ∈ smallLayers,
        point ∈ smallScreen.scene.solid layer → ∃ outputLayer ∈ result.getOutputLayersOrderedByZ,
          point ∈ outputLayer.state.visibleRegion.points :=
  rebuildLayerStacks_visibility smallFrame smallScreen smallLayers rfl smallScreen_inFrame
    smallLayers_inFrame

/-- The rectangle of an opaque layer that begins at `-3` begins at `-2`: of its first column
nothing is visible, although nothing is above it. -/
theorem rebuildLayerStacks_negative_bounds : ¬ ∃ result, smallScreen.rebuildLayerStacks
        ⟨true, [⟨1, some (opaqueState ⟨-3, 0, 5, 5⟩)⟩]⟩ = some result ∧
      ∀ outputLayer ∈ result.getOutputLayersOrderedByZ, ∀ x y,
        outputLayer.state.visibleRegion.contains x y = true ↔
          (⟨-3, 0, 5, 5⟩ : Rect).Covers x y := by
  rintro ⟨result, runs, whole⟩
  have computed : (smallScreen.rebuildLayerStacks
      ⟨true, [⟨1, some (opaqueState ⟨-3, 0, 5, 5⟩)⟩]⟩).map (fun result =>
        result.getOutputLayersOrderedByZ.map fun outputLayer => outputLayer.state.visibleRegion) =
      some [⟨[⟨-2, 0, 5, 5⟩]⟩] := by
    decide
  rw [runs, Option.map_some, Option.some.injEq] at computed
  obtain ⟨outputLayer, _, shape, vis, _⟩ := map_eq_cons_iff.mp computed
  have atEdge := whole outputLayer (shape ▸ mem_cons_self) (-3) 0
  rw [vis] at atEdge
  exact absurd (atEdge.mpr (by decide)) (by decide)

end Output

end NativeLibs.CompositionEngine
