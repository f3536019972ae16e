import NativeLibs.Ui.RegionOperator
import Mathlib.Data.Rat.Floor

/-! # Layer stacks of an output

`CompositionEngine/src/Output.cpp`: `rebuildLayerStacks` walks the layers from front to back, finds
out what is visible of each, and keeps an output layer for those that draw something. The layer
transforms and the transform of the output are the identity here, which maps a region to a copy of
itself. A region operation that does not end is `none`. -/

namespace NativeLibs.CompositionEngine

open Ui

/-- What `ensureOutputLayerIfVisible` reads of `LayerFECompositionState`. -/
structure LayerFECompositionState where
  layerStackId : Option Nat
  internalOnly : Bool
  isVisible : Bool
  isOpaque : Bool
  contentDirty : Bool
  transparentRegionHint : Region
  geomLayerBounds : FloatRect
  shadowRadius : Rat
  deriving DecidableEq, Repr

structure LayerFE where
  id : Nat
  compositionState : Option LayerFECompositionState
  deriving DecidableEq, Repr

structure OutputLayerCompositionState where
  visibleRegion : Region
  visibleNonTransparentRegion : Region
  coveredRegion : Region
  outputSpaceVisibleRegion : Region
  shadowRegion : Region
  z : Nat
  deriving DecidableEq, Repr

def OutputLayerCompositionState.initial : OutputLayerCompositionState :=
  ⟨.empty, .empty, .empty, .empty, .empty, 0⟩

structure OutputLayer where
  layerFE : Nat
  state : OutputLayerCompositionState
  deriving DecidableEq, Repr

/-- An entry of the current layers is null once its layer has been moved to the pending ones. -/
structure Output where
  isEnabled : Bool
  layerStackInternal : Bool
  layerStackId : Nat
  bounds : Rect
  viewport : Rect
  dirtyRegion : Region
  undefinedRegion : Region
  mCurrentOutputLayersOrderedByZ : List (Option OutputLayer)
  mPendingOutputLayersOrderedByZ : List OutputLayer
  deriving DecidableEq, Repr

structure CompositionRefreshArgs where
  updatingOutputGeometryThisFrame : Bool
  layers : List LayerFE

/-- What the layers walked so far, which are above the next one, add up to. -/
structure CoverageState where
  aboveCoveredLayers : Region
  aboveOpaqueLayers : Region
  dirtyRegion : Region
  deriving DecidableEq, Repr

def CoverageState.initial : CoverageState := ⟨.empty, .empty, .empty⟩

namespace LayerFECompositionState

variable (state : LayerFECompositionState)

def visibleRect : Rect := .ofFloatRect state.geomLayerBounds.transform

def visibleRectWithShadows : Rect :=
  if state.shadowRadius > 0 then
    let inset := -state.shadowRadius.ceil
    state.visibleRect.inset inset inset inset inset
  else state.visibleRect

def shadowRegion : Option Region :=
  if state.shadowRadius > 0 then
    (Region.ofRect state.visibleRectWithShadows).subtractRect state.visibleRect
  else some .empty

def transparentRegion : Region := if state.isOpaque then .empty else state.transparentRegionHint

def opaqueRegion : Region := if state.isOpaque then .ofRect state.visibleRect else .empty

end LayerFECompositionState

namespace Output

variable (output : Output)

def belongsInOutput (layerStackId : Option Nat) (internalOnly : Bool) : Bool :=
  layerStackId == some output.layerStackId && (!internalOnly || output.layerStackInternal)

/-- `getOutputLayersOrderedByZ`, which skips nothing once the pending layers are finalized. -/
def getOutputLayersOrderedByZ : List OutputLayer :=
  output.mCurrentOutputLayersOrderedByZ.reduceOption

def findCurrentOutputLayerForLayer (layer : LayerFE) : Option Nat :=
  output.mCurrentOutputLayersOrderedByZ.findIdx? fun entry =>
    entry.any fun outputLayer => outputLayer.layerFE == layer.id

def getOutputLayerOrderedByZByIndex (index : Nat) : Option OutputLayer :=
  output.mCurrentOutputLayersOrderedByZ[index]?.join

/-- `ensureOutputLayer` moves the current layer, or a new one, to the pending layers. The caller
writes its state through the pointer that is returned; here it passes what it writes. -/
def ensureOutputLayer (prevIndex : Option Nat) (layerFE : LayerFE)
    (editState : OutputLayerCompositionState → OutputLayerCompositionState) : Output :=
  let outputLayer := (prevIndex.bind output.getOutputLayerOrderedByZByIndex).getD
    ⟨layerFE.id, .initial⟩
  { output with
    mCurrentOutputLayersOrderedByZ := match prevIndex with
      | some index => output.mCurrentOutputLayersOrderedByZ.set index none
      | none => output.mCurrentOutputLayersOrderedByZ
    mPendingOutputLayersOrderedByZ := output.mPendingOutputLayersOrderedByZ ++
      [{ outputLayer with state := editState outputLayer.state }] }

def finalizePendingOutputLayers : Output :=
  { output with
    mCurrentOutputLayersOrderedByZ := output.mPendingOutputLayersOrderedByZ.reverse.map some
    mPendingOutputLayersOrderedByZ := [] }

end Output

def dirtyRegionOf (contentDirty : Bool)
    (visibleRegion coveredRegion oldVisibleRegion oldCoveredRegion aboveOpaqueLayers : Region) :
    Option Region := do
  let dirty ←
    if contentDirty then visibleRegion.orSelf oldVisibleRegion
    else do
      let newExposed ← visibleRegion.subtract coveredRegion
      let oldExposed ← oldVisibleRegion.subtract oldCoveredRegion
      let uncovered ← visibleRegion.intersect oldCoveredRegion
      let exposed ← newExposed.subtract oldExposed
      uncovered.merge exposed
  dirty.subtractSelf aboveOpaqueLayers

namespace Output

variable (output : Output)

/-- The last part of `ensureOutputLayerIfVisible`, for a layer that passed the check against the
bounds of the output. -/
def storeOutputLayer (prevIndex : Option Nat) (layerFE : LayerFE)
    (visibleRegion visibleNonTransparentRegion coveredRegion shadowRegion : Region) :
    Option Output := do
  let visibleNonShadowRegion ← visibleRegion.subtract shadowRegion
  let outputSpaceVisibleRegion ← visibleNonShadowRegion.intersectRect output.viewport
  return output.ensureOutputLayer prevIndex layerFE fun state =>
    { state with visibleRegion, visibleNonTransparentRegion, coveredRegion,
                 outputSpaceVisibleRegion, shadowRegion }

variable (coverage : CoverageState) (layerFE : LayerFE) (state : LayerFECompositionState)

/-- The part of `ensureOutputLayerIfVisible` after it is known that something of the layer is
visible below the layers above. -/
def updateVisibleLayer (visibleRegion coveredRegion shadowRegion : Region) :
    Option (Output × CoverageState) := do
  let prevIndex := output.findCurrentOutputLayerForLayer layerFE
  let prevOutputLayer := prevIndex.bind output.getOutputLayerOrderedByZByIndex
  let oldVisibleRegion := prevOutputLayer.elim .empty fun layer => layer.state.visibleRegion
  let oldCoveredRegion := prevOutputLayer.elim .empty fun layer => layer.state.coveredRegion
  let dirty ← dirtyRegionOf state.contentDirty visibleRegion coveredRegion oldVisibleRegion
    oldCoveredRegion coverage.aboveOpaqueLayers
  let dirtyRegion ← coverage.dirtyRegion.orSelf dirty
  let aboveOpaqueLayers ← coverage.aboveOpaqueLayers.orSelf state.opaqueRegion
  let coverage := { coverage with dirtyRegion, aboveOpaqueLayers }
  let visibleNonTransparentRegion ← visibleRegion.subtract state.transparentRegion
  let drawRegion ← visibleNonTransparentRegion.andSelfRect output.bounds
  if drawRegion.isEmpty then return (output, coverage)
  else
    let output ← output.storeOutputLayer prevIndex layerFE visibleRegion
      visibleNonTransparentRegion coveredRegion shadowRegion
    return (output, coverage)

def coverLayer : Option (Output × CoverageState) := do
  let shadowRegion ← state.shadowRegion
  let footprint := Region.ofRect state.visibleRectWithShadows
  if footprint.isEmpty then return (output, coverage)
  else
    let coveredRegion ← coverage.aboveCoveredLayers.intersect footprint
    let aboveCoveredLayers ← coverage.aboveCoveredLayers.orSelf footprint
    let visibleRegion ← footprint.subtractSelf coverage.aboveOpaqueLayers
    let coverage := { coverage with aboveCoveredLayers }
    if visibleRegion.isEmpty then return (output, coverage)
    else output.updateVisibleLayer coverage layerFE state visibleRegion coveredRegion shadowRegion

def candidate : Option LayerFECompositionState :=
  layerFE.compositionState.filter fun state =>
    output.belongsInOutput state.layerStackId state.internalOnly && state.isVisible

def ensureOutputLayerIfVisible : Option (Output × CoverageState) :=
  match output.candidate layerFE with
  | none => some (output, coverage)
  | some state => output.coverLayer coverage layerFE state

def ensureAll (output : Output) (coverage : CoverageState) :
    List LayerFE → Option (Output × CoverageState)
  | [] => some (output, coverage)
  | layerFE :: rest => do
      let (output, coverage) ← output.ensureOutputLayerIfVisible coverage layerFE
      output.ensureAll coverage rest

def numberLayers (output : Output) : Output :=
  { output with
    mCurrentOutputLayersOrderedByZ := output.mCurrentOutputLayersOrderedByZ.zipIdx.map fun entry =>
      entry.1.map fun layer => { layer with state := { layer.state with z := entry.2 } } }

def collectVisibleLayers (output : Output) (coverage : CoverageState) (layers : List LayerFE) :
    Option (Output × CoverageState) := do
  let (output, coverage) ← output.ensureAll coverage layers.reverse
  return (output.finalizePendingOutputLayers.numberLayers, coverage)

def rebuildLayerStacks (output : Output) (refreshArgs : CompositionRefreshArgs) : Option Output :=
  if !output.isEnabled || !refreshArgs.updatingOutputGeometryThisFrame then some output
  else do
    let (output, coverage) ← output.collectVisibleLayers .initial refreshArgs.layers
    let undefinedRegion ← (Region.ofRect output.bounds).subtractSelf coverage.aboveOpaqueLayers
    let dirtyRegion ← output.dirtyRegion.orSelf coverage.dirtyRegion
    return { output with undefinedRegion, dirtyRegion }

def postFramebuffer : Output :=
  if output.isEnabled then { output with dirtyRegion := .empty } else output

end Output

end NativeLibs.CompositionEngine
