import Mathlib.Logic.Function.Basic

/-! # Layer states

`layer_state_t`: what a transaction changes of one layer. The word `what` has one bit for each
kind of change, so it is a set of changes. Values that are only copied are of an arbitrary type. -/

namespace NativeLibs.Composer

/-- The bits of `what`, from bit 0 on. -/
inductive Change where
  | position
  | layer
  | size
  | alpha
  | matrix
  | transparentRegion
  | flags
  | layerStack
  | cropLegacy
  | deferTransactionLegacy
  | overrideScalingMode
  | shadowRadius
  | reparentChildren
  | detachChildren
  | relativeLayer
  | reparent
  | color
  | destroySurface
  | transform
  | transformToDisplayInverse
  | crop
  | buffer
  | acquireFence
  | dataspace
  | hdrMetadata
  | surfaceDamageRegion
  | api
  | sidebandStream
  | colorTransform
  | hasListenerCallbacks
  | inputInfo
  | cornerRadius
  | frame
  | cachedBuffer
  | backgroundColor
  | metadata
  | colorSpaceAgnostic
  | frameRateSelectionPriority
  | frameRate
  | backgroundBlurRadius
  | producerDisconnect
  | fixedTransformHint
  deriving DecidableEq, Repr

inductive Field where
  | x
  | y
  | z
  | w
  | h
  | layerStack
  | alpha
  | matrix
  | cropLegacy
  | cornerRadius
  | backgroundBlurRadius
  | barrierHandleLegacy
  | reparentHandle
  | frameNumberLegacy
  | overrideScalingMode
  | barrierGbpLegacy
  | relativeLayerHandle
  | parentHandleForChild
  | color
  | transparentRegion
  | transform
  | transformToDisplayInverse
  | crop
  | frame
  | buffer
  | acquireFence
  | dataspace
  | hdrMetadata
  | surfaceDamageRegion
  | api
  | sidebandStream
  | colorTransform
  | inputInfo
  | cachedBuffer
  | bgColorAlpha
  | bgColorDataspace
  | colorSpaceAgnostic
  | shadowRadius
  | frameRateSelectionPriority
  | frameRate
  | frameRateCompatibility
  | fixedTransformHint
  deriving DecidableEq, Repr

/-- A buffer is known by its id, which is never used again. -/
structure GraphicBuffer where
  id : Nat
  deriving DecidableEq, Repr

/-- `client_cache_t`: a process, unless it is null, and the id of a buffer. -/
structure ClientCacheId where
  token : Option Nat
  id : Nat
  deriving DecidableEq, Repr

@[reducible] def Field.Payload (Value : Type) : Field → Type
  | .overrideScalingMode => Int
  | .buffer => Option GraphicBuffer
  | .acquireFence => Option Nat
  | .cachedBuffer => ClientCacheId
  | .frameRateCompatibility => Int
  | .fixedTransformHint => BitVec 32
  | _ => Value

structure ListenerCallbacks where
  listener : Nat
  callbackIds : List Int
  deriving DecidableEq, Repr

/-- `layer_state_t`. `metadata` is the map of `LayerMetadata`. -/
structure LayerState (Value : Type) where
  surface : Option Nat
  what : Change → Bool
  get : (field : Field) → field.Payload Value
  flags : BitVec 8
  mask : BitVec 8
  metadata : Nat → Option (List UInt8)
  listeners : List ListenerCallbacks

namespace LayerState

variable {Value : Type} (state : LayerState Value)

def create (surface : Option Nat) (values : (field : Field) → field.Payload Value) :
    LayerState Value :=
  ⟨surface, fun _ => false, values, 0, 0, fun _ => none, []⟩

def record (change : Change) : LayerState Value :=
  { state with what := fun other => other = change || state.what other }

def forget (change : Change) : LayerState Value :=
  { state with what := fun other => !(decide (other = change)) && state.what other }

def write (field : Field) (value : field.Payload Value) : LayerState Value :=
  { state with get := Function.update state.get field value }

/-! ## The setters of a transaction -/

def eLayerHidden : BitVec 32 := 0x01

def eLayerOpaque : BitVec 32 := 0x02

def eLayerSecure : BitVec 32 := 0x80

/-- Hidden, opaque and secure are the flags that count as a change. The fields have eight bits. -/
def setFlags (flags mask : BitVec 32) : LayerState Value :=
  let state := if mask &&& (eLayerOpaque ||| eLayerHidden ||| eLayerSecure) != 0 then
      state.record .flags
    else state
  { state with
    flags := (state.flags &&& ~~~ mask.setWidth 8) ||| (flags &&& mask).setWidth 8
    mask := state.mask ||| mask.setWidth 8 }

def setMetadata (key : Nat) (data : List UInt8) : LayerState Value :=
  { state.record .metadata with metadata := Function.update state.metadata key (some data) }

def toRotationFlags : Int → BitVec 32
  | 0 => 0
  | 1 => 4
  | 2 => 3
  | 3 => 7
  | _ => 0x80

/-- A call of a setter for the layer of the state. `valid` is what `ValidateFrameRate` says. -/
inductive Setter (Value : Type) where
  | setPosition (x y : Value)
  | setSize (w h : Value)
  | setLayer (z : Value)
  | setRelativeLayer (relativeTo z : Value)
  | setFlags (flags mask : BitVec 32)
  | setTransparentRegionHint (transparentRegion : Value)
  | setAlpha (alpha : Value)
  | setLayerStack (layerStack : Value)
  | setMetadata (key : Nat) (data : List UInt8)
  | setMatrix (matrix : Value)
  | setCropLegacy (crop : Value)
  | setCornerRadius (cornerRadius : Value)
  | setBackgroundBlurRadius (backgroundBlurRadius : Value)
  | deferTransactionUntilHandle (handle frameNumber : Value)
  | deferTransactionUntilSurface (barrierGbp frameNumber : Value)
  | reparentChildren (newParentHandle : Value)
  | reparent (newParentHandle : Value)
  | setColor (color : Value)
  | setBackgroundColor (color alpha dataspace : Value)
  | setTransform (transform : Value)
  | setTransformToDisplayInverse (transformToDisplayInverse : Value)
  | setCrop (crop : Value)
  | setFrame (frame : Value)
  | setBuffer (buffer : Option GraphicBuffer)
  | setAcquireFence (fence : Option Nat)
  | setDataspace (dataspace : Value)
  | setHdrMetadata (hdrMetadata : Value)
  | setSurfaceDamageRegion (surfaceDamageRegion : Value)
  | setApi (api : Value)
  | setSidebandStream (sidebandStream : Value)
  | setColorSpaceAgnostic (agnostic : Value)
  | setFrameRateSelectionPriority (priority : Value)
  | notifyProducerDisconnect
  | detachChildren
  | setOverrideScalingMode (overrideScalingMode : Int)
  | setInputWindowInfo (info : Value)
  | setColorTransform (colorTransform : Value)
  | setShadowRadius (shadowRadius : Value)
  | setFrameRate (frameRate : Value) (compatibility : Int) (valid : Bool)
  | setFixedTransformHint (fixedTransformHint : Int)

def set : Setter Value → LayerState Value
  | .setPosition x y => ((state.record .position).write .x x).write .y y
  | .setSize w h => ((state.record .size).write .w w).write .h h
  | .setLayer z => ((state.record .layer).forget .relativeLayer).write .z z
  | .setRelativeLayer relativeTo z =>
    (((state.record .relativeLayer).forget .layer).write .relativeLayerHandle relativeTo).write
      .z z
  | .setFlags flags mask => state.setFlags flags mask
  | .setTransparentRegionHint transparentRegion =>
    (state.record .transparentRegion).write .transparentRegion transparentRegion
  | .setAlpha alpha => (state.record .alpha).write .alpha alpha
  | .setLayerStack layerStack => (state.record .layerStack).write .layerStack layerStack
  | .setMetadata key data => state.setMetadata key data
  | .setMatrix matrix => (state.record .matrix).write .matrix matrix
  | .setCropLegacy crop => (state.record .cropLegacy).write .cropLegacy crop
  | .setCornerRadius cornerRadius => (state.record .cornerRadius).write .cornerRadius cornerRadius
  | .setBackgroundBlurRadius backgroundBlurRadius =>
    (state.record .backgroundBlurRadius).write .backgroundBlurRadius backgroundBlurRadius
  | .deferTransactionUntilHandle handle frameNumber =>
    ((state.record .deferTransactionLegacy).write .barrierHandleLegacy handle).write
      .frameNumberLegacy frameNumber
  | .deferTransactionUntilSurface barrierGbp frameNumber =>
    ((state.record .deferTransactionLegacy).write .barrierGbpLegacy barrierGbp).write
      .frameNumberLegacy frameNumber
  | .reparentChildren newParentHandle =>
    (state.record .reparentChildren).write .reparentHandle newParentHandle
  | .reparent newParentHandle =>
    (state.record .reparent).write .parentHandleForChild newParentHandle
  | .setColor color => (state.record .color).write .color color
  | .setBackgroundColor color alpha dataspace =>
    (((state.record .backgroundColor).write .color color).write .bgColorAlpha alpha).write
      .bgColorDataspace dataspace
  | .setTransform transform => (state.record .transform).write .transform transform
  | .setTransformToDisplayInverse transformToDisplayInverse =>
    (state.record .transformToDisplayInverse).write .transformToDisplayInverse
      transformToDisplayInverse
  | .setCrop crop => (state.record .crop).write .crop crop
  | .setFrame frame => (state.record .frame).write .frame frame
  | .setBuffer buffer => (state.record .buffer).write .buffer buffer
  | .setAcquireFence fence => (state.record .acquireFence).write .acquireFence fence
  | .setDataspace dataspace => (state.record .dataspace).write .dataspace dataspace
  | .setHdrMetadata hdrMetadata => (state.record .hdrMetadata).write .hdrMetadata hdrMetadata
  | .setSurfaceDamageRegion surfaceDamageRegion =>
    (state.record .surfaceDamageRegion).write .surfaceDamageRegion surfaceDamageRegion
  | .setApi api => (state.record .api).write .api api
  | .setSidebandStream sidebandStream =>
    (state.record .sidebandStream).write .sidebandStream sidebandStream
  | .setColorSpaceAgnostic agnostic =>
    (state.record .colorSpaceAgnostic).write .colorSpaceAgnostic agnostic
  | .setFrameRateSelectionPriority priority =>
    (state.record .frameRateSelectionPriority).write .frameRateSelectionPriority priority
  | .notifyProducerDisconnect => state.record .producerDisconnect
  | .detachChildren => state.record .detachChildren
  | .setOverrideScalingMode overrideScalingMode =>
    if -1 ≤ overrideScalingMode ∧ overrideScalingMode ≤ 3 then
      (state.record .overrideScalingMode).write .overrideScalingMode overrideScalingMode
    else state
  | .setInputWindowInfo info => (state.record .inputInfo).write .inputInfo info
  | .setColorTransform colorTransform =>
    (state.record .colorTransform).write .colorTransform colorTransform
  | .setShadowRadius shadowRadius => (state.record .shadowRadius).write .shadowRadius shadowRadius
  | .setFrameRate frameRate compatibility valid =>
    if valid then
      ((state.record .frameRate).write .frameRate frameRate).write .frameRateCompatibility
        compatibility
    else state
  | .setFixedTransformHint fixedTransformHint =>
    (state.record .fixedTransformHint).write .fixedTransformHint
      (toRotationFlags fixedTransformHint)

/-! ## Merging -/

/-- A branch of `merge`: a change, the fields that are copied for it, and the change it
replaces. -/
structure MergeRule where
  change : Change
  fields : List Field
  replaces : Option Change
  deriving DecidableEq, Repr

def mergeRules : List MergeRule :=
  [⟨.position, [.x, .y], none⟩,
    ⟨.layer, [.z], some .relativeLayer⟩,
    ⟨.size, [.w, .h], none⟩,
    ⟨.alpha, [.alpha], none⟩,
    ⟨.matrix, [.matrix], none⟩,
    ⟨.transparentRegion, [.transparentRegion], none⟩,
    ⟨.layerStack, [.layerStack], none⟩,
    ⟨.cropLegacy, [.cropLegacy], none⟩,
    ⟨.cornerRadius, [.cornerRadius], none⟩,
    ⟨.backgroundBlurRadius, [.backgroundBlurRadius], none⟩,
    ⟨.deferTransactionLegacy, [.barrierHandleLegacy, .barrierGbpLegacy, .frameNumberLegacy], none⟩,
    ⟨.overrideScalingMode, [.overrideScalingMode], none⟩,
    ⟨.reparentChildren, [.reparentHandle], none⟩,
    ⟨.detachChildren, [], none⟩,
    ⟨.relativeLayer, [.z, .relativeLayerHandle], some .layer⟩,
    ⟨.reparent, [.parentHandleForChild], none⟩,
    ⟨.destroySurface, [], none⟩,
    ⟨.transform, [.transform], none⟩,
    ⟨.transformToDisplayInverse, [.transformToDisplayInverse], none⟩,
    ⟨.crop, [.crop], none⟩,
    ⟨.frame, [.frame], none⟩,
    ⟨.buffer, [.buffer], none⟩,
    ⟨.acquireFence, [.acquireFence], none⟩,
    ⟨.dataspace, [.dataspace], none⟩,
    ⟨.hdrMetadata, [.hdrMetadata], none⟩,
    ⟨.surfaceDamageRegion, [.surfaceDamageRegion], none⟩,
    ⟨.api, [.api], none⟩,
    ⟨.sidebandStream, [.sidebandStream], none⟩,
    ⟨.colorTransform, [.colorTransform], none⟩,
    ⟨.hasListenerCallbacks, [], none⟩,
    ⟨.inputInfo, [.inputInfo], none⟩,
    ⟨.cachedBuffer, [.cachedBuffer], none⟩,
    ⟨.backgroundColor, [.color, .bgColorAlpha, .bgColorDataspace], none⟩,
    ⟨.shadowRadius, [.shadowRadius], none⟩,
    ⟨.frameRateSelectionPriority, [.frameRateSelectionPriority], none⟩,
    ⟨.frameRate, [.frameRate, .frameRateCompatibility], none⟩,
    ⟨.fixedTransformHint, [.fixedTransformHint], none⟩]

def copy (state other : LayerState Value) (fields : List Field) : LayerState Value :=
  { state with get := fun field => if field ∈ fields then other.get field else state.get field }

def mergeRule (other state : LayerState Value) (rule : MergeRule) : LayerState Value :=
  if other.what rule.change then
    let state := state.record rule.change
    let state := (rule.replaces.map state.forget).getD state
    state.copy other rule.fields
  else state

variable (state other : LayerState Value)

def mergeFlags : LayerState Value :=
  if other.what .flags then
    { state.record .flags with
      flags := (state.flags &&& ~~~ other.mask) ||| (other.flags &&& other.mask)
      mask := state.mask ||| other.mask }
  else state

/-- `LayerMetadata::merge`, for one key: an empty value only replaces another one. -/
def mergeEntry : Option (List UInt8) → Option (List UInt8) → Option (List UInt8)
  | old, none => old
  | some _, some data => some data
  | none, some data => if data.isEmpty then none else some data

def mergeMetadata : LayerState Value :=
  if other.what .metadata then
    { state.record .metadata with
      metadata := fun key => mergeEntry (state.metadata key) (other.metadata key) }
  else state

/-- `merge`. The flags and the metadata are apart from the fields, so their places among the
branches do not matter. -/
def merge : LayerState Value :=
  ((mergeRules.foldl (mergeRule other) state).mergeFlags other).mergeMetadata other

end LayerState

end NativeLibs.Composer
