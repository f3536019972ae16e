import NativeLibs.Composer.Transaction

/-! # The buffer cache of the server

`ClientCache` and the buffers that `setClientStateLocked` resolves, for the layers of one process.
Layers are not removed, and the process lives. -/

namespace NativeLibs.Flinger

open Composer

variable {Value : Type}

structure ClientCache where
  processBuffers : AList fun _ : Nat => GraphicBuffer

namespace ClientCache

variable (cache : ClientCache)

def create : ClientCache := ⟨∅⟩

variable (cacheId : ClientCacheId)

def get : Option GraphicBuffer :=
  cacheId.token.bind fun _ => cache.processBuffers.lookup cacheId.id

def add (buffer : GraphicBuffer) : ClientCache :=
  if cacheId.token.isNone then cache
  else if cache.processBuffers.keys.length > bufferCacheMaxSize then cache
  else ⟨cache.processBuffers.insert cacheId.id buffer⟩

def erase : ClientCache :=
  if cacheId.token.isNone then cache else ⟨cache.processBuffers.erase cacheId.id⟩

def resolve (state : LayerState Value) : Option GraphicBuffer × ClientCache :=
  let bufferChanged := state.what .buffer
  let cacheIdChanged := state.what .cachedBuffer
  match bufferChanged, cacheIdChanged, state.get .buffer with
  | true, true, some buffer => (some buffer, cache.add (state.get .cachedBuffer) buffer)
  | _, true, _ => (cache.get (state.get .cachedBuffer), cache)
  | true, false, buffer => (buffer, cache)
  | false, false, _ => (none, cache)

def resolveAll : ClientCache → List (LayerEntry Value) →
    List (LayerEntry Value × Option GraphicBuffer) × ClientCache
  | cache, [] => ([], cache)
  | cache, entry :: rest =>
    let (buffer, cache) := cache.resolve entry.state
    let (others, cache) := resolveAll cache rest
    ((entry, buffer) :: others, cache)

def serve :
    Message Value → List (LayerEntry Value × Option GraphicBuffer) × ClientCache
  | .transaction entries => cache.resolveAll entries
  | .uncacheBuffer cacheId => ([], cache.erase cacheId)

def serveAll (messages : List (Message Value)) : ClientCache :=
  messages.foldl (fun cache message => (serve cache message).2) create

end ClientCache

end NativeLibs.Flinger

/-! ## What a transaction does to layers and displays

`setClientStateLocked` and `setDisplayStateLocked`. What the layers do with a call is a parameter:
the server only sees whether a call changed something. -/

namespace NativeLibs.Flinger

open Composer

variable {World Value : Type}

/-! ## Transaction flags -/

def eTransactionNeeded : BitVec 32 := 0x01

def eTraversalNeeded : BitVec 32 := 0x02

def eDisplayTransactionNeeded : BitVec 32 := 0x04

def eTransformHintUpdateNeeded : BitVec 32 := 0x08

def eTransactionFlushNeeded : BitVec 32 := 0x10

def eTransactionMask : BitVec 32 := 0x1f

/-! ## Layers -/

inductive Operation (Value : Type) where
  | pushPendingState
  | onDisconnect
  | setPosition (x y : Value)
  | setLayer (z : Value)
  | setRelativeLayer (relativeLayerHandle z : Value)
  | setSize (w h : Value)
  | setAlpha (alpha : Value)
  | setColor (color : Value)
  | setColorTransform (colorTransform : Value)
  | setBackgroundColor (color alpha dataspace : Value)
  | setMatrix (matrix : Value) (allowNonRectPreservingTransforms : Bool)
  | setTransparentRegionHint (transparentRegion : Value)
  | setFlags (flags mask : BitVec 8)
  | setCropLegacy (crop : Value)
  | setCornerRadius (cornerRadius : Value)
  | setBackgroundBlurRadius (backgroundBlurRadius : Value)
  | setLayerStack (layerStack : Value)
  | deferTransactionUntilLegacy (barrierHandle barrierGbp frameNumber : Value)
  | reparentChildren (reparentHandle : Value)
  | detachChildren
  | setOverrideScalingMode (overrideScalingMode : Int)
  | setTransform (transform : Value)
  | setTransformToDisplayInverse (transformToDisplayInverse : Value)
  | setCrop (crop : Value)
  | setFrame (frame : Value)
  | setAcquireFence (acquireFence : Option Nat)
  | setDataspace (dataspace : Value)
  | setHdrMetadata (hdrMetadata : Value)
  | setSurfaceDamageRegion (surfaceDamageRegion : Value)
  | setApi (api : Value)
  | setSidebandStream (sidebandStream : Value)
  | setInputInfo (inputInfo : Value)
  | setMetadata (metadata : Nat → Option (List UInt8))
  | setColorSpaceAgnostic (colorSpaceAgnostic : Value)
  | setShadowRadius (shadowRadius : Value)
  | setFrameRateSelectionPriority (priority : Value)
  | setFrameRate (frameRate : Value) (compatibility : Int)
  | setFixedTransformHint (fixedTransformHint : BitVec 32)
  | reparent (parentHandleForChild : Value)
  | setBuffer (buffer : GraphicBuffer) (acquireFence : Option Nat) (postTime : Int)
      (desiredPresentTime : Int) (cachedBuffer : ClientCacheId)
  | setTransactionCompletedListeners (handles : List ListenerCallbacks)
  | recordLayerHistory (presentTime : Int)

/-- What the layers do. `perform` also says what the call returns, and for a z order or a layer
stack whether the list of the layers was sorted again. -/
structure Layers (World Value : Type) where
  isAlive : World → Nat → Bool
  perform : World → Nat → Operation Value → World × Bool
  inputInfo : World → Nat → Value
  frameRateSelectionPriority : World → Nat → Value
  validateFrameRate : Value → Int → Bool
  supportsBlur : Bool

/-- A branch of `setClientStateLocked`: the change it is for, a further condition, the call and the
flags that it raises, if it returns true or in any case. -/
structure Branch (Value : Type) where
  change : Change
  condition : Bool := true
  operation : Operation Value
  flags : BitVec 32 := eTraversalNeeded
  always : Bool := false

def branches (layers : Layers World Value) (privileged : Bool) (s : LayerState Value) :
    List (Branch Value) :=
  [{ change := .deferTransactionLegacy, operation := .pushPendingState, flags := 0 },
    { change := .producerDisconnect, operation := .onDisconnect, flags := 0 },
    { change := .position, operation := .setPosition (s.get .x) (s.get .y) },
    { change := .layer, operation := .setLayer (s.get .z),
      flags := eTransactionNeeded ||| eTraversalNeeded },
    { change := .relativeLayer,
      operation := .setRelativeLayer (s.get .relativeLayerHandle) (s.get .z),
      flags := eTransactionNeeded ||| eTraversalNeeded },
    { change := .size, operation := .setSize (s.get .w) (s.get .h) },
    { change := .alpha, operation := .setAlpha (s.get .alpha) },
    { change := .color, operation := .setColor (s.get .color) },
    { change := .colorTransform, operation := .setColorTransform (s.get .colorTransform) },
    { change := .backgroundColor,
      operation := .setBackgroundColor (s.get .color) (s.get .bgColorAlpha)
        (s.get .bgColorDataspace) },
    { change := .matrix, operation := .setMatrix (s.get .matrix) privileged },
    { change := .transparentRegion,
      operation := .setTransparentRegionHint (s.get .transparentRegion) },
    { change := .flags, operation := .setFlags s.flags s.mask },
    { change := .cropLegacy, operation := .setCropLegacy (s.get .cropLegacy) },
    { change := .cornerRadius, operation := .setCornerRadius (s.get .cornerRadius) },
    { change := .backgroundBlurRadius, condition := layers.supportsBlur,
      operation := .setBackgroundBlurRadius (s.get .backgroundBlurRadius) },
    { change := .layerStack, operation := .setLayerStack (s.get .layerStack),
      flags := eTransactionNeeded ||| eTraversalNeeded ||| eTransformHintUpdateNeeded },
    { change := .deferTransactionLegacy,
      operation := .deferTransactionUntilLegacy (s.get .barrierHandleLegacy)
        (s.get .barrierGbpLegacy) (s.get .frameNumberLegacy),
      flags := 0 },
    { change := .reparentChildren, operation := .reparentChildren (s.get .reparentHandle),
      flags := eTransactionNeeded ||| eTraversalNeeded },
    { change := .detachChildren, operation := .detachChildren, flags := 0 },
    { change := .overrideScalingMode,
      operation := .setOverrideScalingMode (s.get .overrideScalingMode), flags := 0 },
    { change := .transform, operation := .setTransform (s.get .transform) },
    { change := .transformToDisplayInverse,
      operation := .setTransformToDisplayInverse (s.get .transformToDisplayInverse) },
    { change := .crop, operation := .setCrop (s.get .crop) },
    { change := .frame, operation := .setFrame (s.get .frame) },
    { change := .acquireFence, operation := .setAcquireFence (s.get .acquireFence) },
    { change := .dataspace, operation := .setDataspace (s.get .dataspace) },
    { change := .hdrMetadata, operation := .setHdrMetadata (s.get .hdrMetadata) },
    { change := .surfaceDamageRegion,
      operation := .setSurfaceDamageRegion (s.get .surfaceDamageRegion) },
    { change := .api, operation := .setApi (s.get .api) },
    { change := .sidebandStream, operation := .setSidebandStream (s.get .sidebandStream) },
    { change := .inputInfo, condition := privileged,
      operation := .setInputInfo (s.get .inputInfo), always := true },
    { change := .metadata, operation := .setMetadata s.metadata },
    { change := .colorSpaceAgnostic,
      operation := .setColorSpaceAgnostic (s.get .colorSpaceAgnostic) },
    { change := .shadowRadius, operation := .setShadowRadius (s.get .shadowRadius) },
    { change := .frameRateSelectionPriority, condition := privileged,
      operation := .setFrameRateSelectionPriority (s.get .frameRateSelectionPriority) },
    { change := .frameRate,
      condition := layers.validateFrameRate (s.get .frameRate) (s.get .frameRateCompatibility),
      operation := .setFrameRate (s.get .frameRate) (s.get .frameRateCompatibility) },
    { change := .fixedTransformHint,
      operation := .setFixedTransformHint (s.get .fixedTransformHint),
      flags := eTraversalNeeded ||| eTransformHintUpdateNeeded },
    { change := .reparent, operation := .reparent (s.get .parentHandleForChild),
      flags := eTransactionNeeded ||| eTraversalNeeded }]

inductive CallbackCall where
  | startRegistration (listener : ListenerCallbacks)
  | endRegistration (listener : ListenerCallbacks)
  | registerUnpresentedCallbackHandle (listener : ListenerCallbacks) (surface : Option Nat)
  | sendCallbacks
  deriving DecidableEq, Repr

/-- What the states of layers change: the layers, the buffer caches of the processes and the
callbacks. -/
structure Scene (World : Type) where
  world : World
  caches : Nat → ClientCache
  callbacks : List CallbackCall

namespace Scene

variable (layers : Layers World Value) (handle : Nat)

def perform (always : Bool) (raised : BitVec 32) (operation : Operation Value) (scene : Scene World)
    (flags : BitVec 32) : Scene World × BitVec 32 :=
  let (world, changed) := layers.perform scene.world handle operation
  ({ scene with world := world }, if changed || always then flags ||| raised else flags)

def takeBranch (s : LayerState Value) (result : Scene World × BitVec 32) (branch : Branch Value) :
    Scene World × BitVec 32 :=
  if s.what branch.change && branch.condition then
    result.1.perform layers handle branch.always branch.flags branch.operation result.2
  else result

def resolve (scene : Scene World) (s : LayerState Value) : Option GraphicBuffer × Scene World :=
  let token := (s.get .cachedBuffer).token.getD 0
  let (buffer, cache) := (scene.caches token).resolve s
  (buffer, { scene with caches := Function.update scene.caches token cache })

def setBuffer (s : LayerState Value) (postTime desiredPresentTime : Int)
    (result : Scene World × BitVec 32) : Scene World × BitVec 32 :=
  let (buffer, scene) := result.1.resolve s
  match buffer with
  | some buffer =>
    scene.perform layers handle false eTraversalNeeded
      (.setBuffer buffer (s.get .acquireFence) postTime desiredPresentTime
        (s.get .cachedBuffer)) result.2
  | none => (scene, result.2)

def setClientStateLocked (scene : Scene World) (s : LayerState Value)
    (desiredPresentTime postTime : Int) (privileged : Bool) : Scene World × BitVec 32 :=
  let scene := { scene with
    callbacks := scene.callbacks ++ s.listeners.map .startRegistration }
  match s.surface.filter (layers.isAlive scene.world) with
  | none =>
    ({ scene with
      callbacks := scene.callbacks ++
        s.listeners.map fun listener => .registerUnpresentedCallbackHandle listener s.surface }, 0)
  | some handle =>
    let result := (branches layers privileged s).foldl (takeBranch layers handle s) (scene, 0)
    let result := setBuffer layers handle s postTime desiredPresentTime result
    let handles := if s.what .hasListenerCallbacks then s.listeners else []
    result.1.perform layers handle false eTraversalNeeded
      (.setTransactionCompletedListeners handles) result.2

end Scene

/-! ## Displays -/

inductive DisplayChange where
  | surface
  | layerStack
  | displayProjection
  | displaySize
  deriving DecidableEq, Repr

inductive DisplayField where
  | surface
  | layerStack
  | orientation
  | frame
  | viewport
  | width
  | height
  deriving DecidableEq, Repr

structure DisplayState (Value : Type) where
  token : Nat
  what : DisplayChange → Bool
  get : DisplayField → Value

abbrev Displays (Value : Type) := AList fun _ : Nat => DisplayField → Value

def displayRules : List (DisplayChange × DisplayField) :=
  [(.surface, .surface), (.layerStack, .layerStack), (.displayProjection, .orientation),
    (.displayProjection, .frame), (.displayProjection, .viewport), (.displaySize, .width),
    (.displaySize, .height)]

def setDisplayField [DecidableEq Value] (s : DisplayState Value)
    (result : (DisplayField → Value) × BitVec 32) (rule : DisplayChange × DisplayField) :
    (DisplayField → Value) × BitVec 32 :=
  if s.what rule.1 ∧ result.1 rule.2 ≠ s.get rule.2 then
    (Function.update result.1 rule.2 (s.get rule.2), result.2 ||| eDisplayTransactionNeeded)
  else result

def setDisplayStateLocked [DecidableEq Value] (displays : Displays Value)
    (s : DisplayState Value) : Displays Value × BitVec 32 :=
  match displays.lookup s.token with
  | none => (displays, 0)
  | some state =>
    let (state, flags) := displayRules.foldl (setDisplayField s) (state, 0)
    (displays.replace s.token state, flags)

end NativeLibs.Flinger
