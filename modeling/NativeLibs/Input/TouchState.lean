import Mathlib.Data.List.Basic

/-! # Touch states

Input messages, the motion events that are made of them, and the resampling of touches. The
arithmetic of coordinates is a parameter, and so are the fields that are only copied from a
message to its event. -/

namespace NativeLibs.Input

/-! ## Messages -/

structure PointerProperties where
  id : Nat
  toolType : Int
  deriving DecidableEq, Repr

structure Pointer (Coords : Type) where
  properties : PointerProperties
  coords : Coords
  deriving DecidableEq, Repr

/-- `InputMessage::Body::Motion`. The number of pointers is between 1 and `MAX_POINTERS`. -/
structure Motion (Coords Other : Type) where
  seq : UInt32
  eventTime : Int
  deviceId : Int
  source : BitVec 32
  action : BitVec 32
  metaState : BitVec 32
  pointers : List (Pointer Coords)
  other : Other
  deriving DecidableEq, Repr

inductive InputMessage (Coords Other : Type) where
  | key (seq : UInt32) (body : Other)
  | motion (body : Motion Coords Other)
  | focus (seq : UInt32) (hasFocus inTouchMode : Bool)
  deriving DecidableEq, Repr

def InputMessage.seq {Coords Other : Type} : InputMessage Coords Other → UInt32
  | .key seq _ => seq
  | .motion body => body.seq
  | .focus seq _ _ => seq

/-! ## Actions and sources -/

def actionDown : BitVec 32 := 0

def actionUp : BitVec 32 := 1

def actionMove : BitVec 32 := 2

def actionCancel : BitVec 32 := 3

def actionPointerDown : BitVec 32 := 5

def actionPointerUp : BitVec 32 := 6

def actionHoverMove : BitVec 32 := 7

def actionScroll : BitVec 32 := 8

def actionMask : BitVec 32 := 0xff

def isPointerEvent (source : BitVec 32) : Bool := source &&& 2 == 2

/-! ## Events -/

/-- `MotionEvent`. A sample has a time and the coordinates of each pointer. -/
structure MotionEvent (Coords Other : Type) where
  deviceId : Int
  source : BitVec 32
  action : BitVec 32
  metaState : BitVec 32
  properties : List PointerProperties
  other : Other
  samples : List (Int × List Coords)
  deriving DecidableEq, Repr

variable {Coords Other : Type}

/-- `initializeMotionEvent`. Nothing of the event that the factory has made is left. -/
def initializeMotionEvent (_ : MotionEvent Coords Other) (msg : Motion Coords Other) :
    MotionEvent Coords Other where
  deviceId := msg.deviceId
  source := msg.source
  action := msg.action
  metaState := msg.metaState
  properties := msg.pointers.map (·.properties)
  other := msg.other
  samples := [(msg.eventTime, msg.pointers.map (·.coords))]

def addSample (event : MotionEvent Coords Other) (msg : Motion Coords Other) :
    MotionEvent Coords Other :=
  { event with
    metaState := event.metaState ||| msg.metaState
    samples := event.samples ++ [(msg.eventTime, msg.pointers.map (·.coords))] }

/-! ## Touch states -/

/-- What is done with the coordinates, in floating point. -/
structure CoordArithmetic (Coords : Type) where
  sameXY : Coords → Coords → Bool
  /-- The first coordinates with X and Y of the second ones. -/
  setXY : Coords → Coords → Coords
  /-- The first coordinates with X and Y interpolated to the second ones, where `alpha` is a
  quotient. -/
  lerpXY : Coords → Coords → Int → Int → Coords

/-- The coordinates of pointers by their ids. Of two pointers with one id the last counts. -/
structure History (Coords : Type) where
  eventTime : Int
  pointers : List (Nat × Coords)
  deriving DecidableEq, Repr

namespace History

variable (history : History Coords)

def initializeFrom (msg : Motion Coords Other) : History Coords where
  eventTime := msg.eventTime
  pointers := msg.pointers.map fun pointer => (pointer.properties.id, pointer.coords)

variable (id : Nat)

def getPointerById : Option Coords :=
  (history.pointers.reverse.find? (·.1 = id)).map (·.2)

def clearBit : History Coords :=
  { history with pointers := history.pointers.filter (·.1 ≠ id) }

end History

structure TouchState (Coords : Type) where
  deviceId : Int
  source : BitVec 32
  /-- At most two, and the current one first. -/
  history : List (History Coords)
  lastResample : History Coords
  deriving DecidableEq, Repr

namespace TouchState

variable (arith : CoordArithmetic Coords) (state : TouchState Coords) (msg : Motion Coords Other)

def initialized (deviceId : Int) (source : BitVec 32) : TouchState Coords :=
  ⟨deviceId, source, [], ⟨0, []⟩⟩

def addHistory : TouchState Coords :=
  { state with history := (History.initializeFrom msg :: state.history).take 2 }

def recentCoordinatesAreIdentical (id : Nat) : Bool :=
  match state.history with
  | current :: previous :: _ =>
    match current.getPointerById id, previous.getPointerById id with
    | some currentCoords, some previousCoords => arith.sameXY currentCoords previousCoords
    | _, _ => false
  | _ => false

def rewritePointer (eventTime : Int) (pointer : Pointer Coords) :
    TouchState Coords × Pointer Coords :=
  match state.lastResample.getPointerById pointer.properties.id with
  | some resampleCoords =>
    if eventTime < state.lastResample.eventTime ∨
        state.recentCoordinatesAreIdentical arith pointer.properties.id = true then
      (state, { pointer with coords := arith.setXY pointer.coords resampleCoords })
    else ({ state with lastResample := state.lastResample.clearBit pointer.properties.id }, pointer)
  | none => (state, pointer)

def rewritePointers (eventTime : Int) :
    TouchState Coords → List (Pointer Coords) → TouchState Coords × List (Pointer Coords)
  | state, [] => (state, [])
  | state, pointer :: rest =>
    let (state, pointer) := state.rewritePointer arith eventTime pointer
    let (state, rest) := rewritePointers eventTime state rest
    (state, pointer :: rest)

def rewriteMessage : TouchState Coords × Motion Coords Other :=
  let (state, pointers) := rewritePointers arith msg.eventTime state msg.pointers
  (state, { msg with pointers := pointers })

/-- `lastResample.idBits.clearBit(getActionId())`. An action that names a pointer behind the
last one is not sent. -/
def clearActionId : TouchState Coords :=
  match msg.pointers[(msg.action.toNat &&& 0xff00) >>> 8]? with
  | some pointer => { state with lastResample := state.lastResample.clearBit pointer.properties.id }
  | none => state

end TouchState

def findTouchState (states : List (TouchState Coords)) (deviceId : Int) (source : BitVec 32) :
    Option Nat :=
  states.findIdx? fun state => state.deviceId = deviceId ∧ state.source = source

variable (arith : CoordArithmetic Coords) (resampleTouch : Bool) (states : List (TouchState Coords))

def updateTouchState (msg : Motion Coords Other) : List (TouchState Coords) × Motion Coords Other :=
  if !resampleTouch || !isPointerEvent msg.source then (states, msg)
  else
    let index := findTouchState states msg.deviceId msg.source
    let action := msg.action &&& actionMask
    if action = actionDown then
      let state := (TouchState.initialized msg.deviceId msg.source).addHistory msg
      match index with
      | some index => (states.set index state, msg)
      | none => (states ++ [state], msg)
    else match index.bind fun index => (states[index]?).map fun state => (index, state) with
    | none => (states, msg)
    | some (index, state) =>
      if action = actionMove then
        let (state, msg) := (state.addHistory msg).rewriteMessage arith msg
        (states.set index state, msg)
      else if action = actionPointerDown then
        let (state, msg) := (state.clearActionId msg).rewriteMessage arith msg
        (states.set index state, msg)
      else if action = actionPointerUp then
        let (state, msg) := state.rewriteMessage arith msg
        (states.set index (state.clearActionId msg), msg)
      else if action = actionScroll then
        let (state, msg) := state.rewriteMessage arith msg
        (states.set index state, msg)
      else if action = actionUp ∨ action = actionCancel then
        let (_, msg) := state.rewriteMessage arith msg
        (states.eraseIdx index, msg)
      else (states, msg)

/-! ## Resampling -/

def nanosPerMs : Int := 1000000

def resampleLatency : Int := 5 * nanosPerMs

def resampleMinDelta : Int := 2 * nanosPerMs

def resampleMaxDelta : Int := 20 * nanosPerMs

def resampleMaxPrediction : Int := 8 * nanosPerMs

def shouldResampleTool (toolType : Int) : Bool := toolType == 1 || toolType == 0

variable (state : TouchState Coords)

/-- The data that a touch is resampled with: the other sample, the time of the new one, and
`alpha` as a quotient. -/
def resampleData (current : History Coords) (sampleTime : Int)
    (next : Option (Motion Coords Other)) : Option (History Coords × Int × Int × Int) :=
  match next with
  | some next =>
    let future := History.initializeFrom next
    let delta := future.eventTime - current.eventTime
    if delta < resampleMinDelta then none
    else some (future, sampleTime, sampleTime - current.eventTime, delta)
  | none =>
    match state.history with
    | _ :: other :: _ =>
      let delta := current.eventTime - other.eventTime
      if delta < resampleMinDelta then none
      else if delta > resampleMaxDelta then none
      else
        let maxPredict := current.eventTime + min (delta / 2) resampleMaxPrediction
        let sampleTime := if sampleTime > maxPredict then maxPredict else sampleTime
        some (other, sampleTime, current.eventTime - sampleTime, delta)
    | _ => none

def resampleCoords (other : History Coords) (alpha delta : Int) (pointer : PointerProperties)
    (currentCoords : Coords) : Coords :=
  match state.lastResample.getPointerById pointer.id with
  | some oldCoords =>
    if state.recentCoordinatesAreIdentical arith pointer.id then oldCoords
    else interpolated
  | none => interpolated
where
  interpolated : Coords :=
    match other.getPointerById pointer.id with
    | some otherCoords =>
      if shouldResampleTool pointer.toolType then arith.lerpXY currentCoords otherCoords alpha delta
      else currentCoords
    | none => currentCoords

def resampleTouchState (sampleTime : Int) (event : MotionEvent Coords Other)
    (next : Option (Motion Coords Other)) : List (TouchState Coords) × MotionEvent Coords Other :=
  if !resampleTouch || !isPointerEvent event.source || event.action ≠ actionMove then
    (states, event)
  else match (findTouchState states event.deviceId event.source).bind fun index =>
      (states[index]?).map fun state => (index, state) with
  | none => (states, event)
  | some (index, state) =>
    match state.history with
    | [] => (states, event)
    | current :: _ =>
      -- Without one of the pointers nothing is resampled.
      match event.properties.mapM fun pointer =>
          (current.getPointerById pointer.id).map fun coords => (pointer, coords) with
      | none => (states, event)
      | some pointers =>
        match resampleData state current sampleTime next with
        | none => (states, event)
        | some (other, sampleTime, alpha, delta) =>
          let coords := pointers.map fun (pointer, coords) =>
            resampleCoords arith state other alpha delta pointer coords
          let lastResample : History Coords :=
            ⟨sampleTime, (event.properties.map (·.id)).zip coords⟩
          (states.set index { state with lastResample := lastResample },
            { event with samples := event.samples ++ [(sampleTime, coords)] })

end NativeLibs.Input
