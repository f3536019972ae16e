import NativeLibs.Input.TouchState

/-! # The input state of a connection

What the dispatcher remembers of the events it published to a window, so that it can take them
back. A state keeps a memento for each key that is down and for each motion in progress. Event
ids are left out, and the values of coordinates are of an arbitrary type. -/

namespace NativeLibs.Input

/-! ## Events -/

/-- `PointerCoords`: the axes that are present, and their values. -/
structure PointerCoords (Value : Type) where
  bits : BitVec 64
  values : List Value
  deriving DecidableEq, Repr

def PointerCoords.isEmpty {Value : Type} (coords : PointerCoords Value) : Bool := coords.bits == 0

inductive MotionClassification where
  | none
  | ambiguousGesture
  | deepPress
  deriving DecidableEq, Repr

structure KeyEntry where
  eventTime : Int
  deviceId : Int
  source : BitVec 32
  displayId : Int
  policyFlags : BitVec 32
  action : BitVec 32
  flags : BitVec 32
  keyCode : Int
  scanCode : Int
  metaState : BitVec 32
  repeatCount : Nat
  downTime : Int
  deriving DecidableEq, Repr

structure MotionEntry (Value : Type) where
  eventTime : Int
  deviceId : Int
  source : BitVec 32
  displayId : Int
  policyFlags : BitVec 32
  action : BitVec 32
  actionButton : BitVec 32
  flags : BitVec 32
  metaState : BitVec 32
  buttonState : BitVec 32
  classification : MotionClassification
  edgeFlags : BitVec 32
  xPrecision : Value
  yPrecision : Value
  xCursorPosition : Value
  yCursorPosition : Value
  downTime : Int
  pointers : List (Pointer (PointerCoords Value))
  deriving DecidableEq, Repr

inductive EventEntry (Value : Type) where
  | key (entry : KeyEntry)
  | motion (entry : MotionEntry Value)
  deriving DecidableEq, Repr

def keyActionDown : BitVec 32 := 0

def keyActionUp : BitVec 32 := 1

def keyFlagCanceled : BitVec 32 := 0x20

def keyFlagFallback : BitVec 32 := 0x400

def actionHoverEnter : BitVec 32 := 9

def actionHoverExit : BitVec 32 := 10

def actionPointerIndexShift : Nat := 8

variable (source : BitVec 32)

def isPointerSource : Bool := source &&& 0x2 != 0

def isNavigationSource : Bool := source &&& 0x4 != 0

def isJoystickSource : Bool := source &&& 0x10 != 0

def maxPointers : Nat := 16

/-! ## Mementos -/

structure KeyMemento where
  deviceId : Int
  source : BitVec 32
  displayId : Int
  keyCode : Int
  scanCode : Int
  metaState : BitVec 32
  flags : BitVec 32
  downTime : Int
  policyFlags : BitVec 32
  deriving DecidableEq, Repr

/-- No `firstNewPointerIdx` is `INVALID_POINTER_INDEX`. -/
structure MotionMemento (Value : Type) where
  deviceId : Int
  source : BitVec 32
  displayId : Int
  flags : BitVec 32
  xPrecision : Value
  yPrecision : Value
  xCursorPosition : Value
  yCursorPosition : Value
  downTime : Int
  pointers : List (Pointer (PointerCoords Value))
  firstNewPointerIdx : Option Nat
  hovering : Bool
  policyFlags : BitVec 32
  deriving DecidableEq, Repr

namespace MotionMemento

variable {Value : Type}

def setPointers (memento : MotionMemento Value) (entry : MotionEntry Value) :
    MotionMemento Value :=
  { memento with pointers := entry.pointers }

/-- One turn of the loop of `mergePointerStateTo`. The arrays have room for `MAX_POINTERS`. -/
def addNewPointer (other : MotionMemento Value) (pointer : Pointer (PointerCoords Value)) :
    Option (MotionMemento Value) :=
  if other.pointers.length < maxPointers then
    some { other with
      firstNewPointerIdx := some (other.firstNewPointerIdx.getD other.pointers.length)
      pointers := other.pointers ++ [pointer] }
  else none

/-- The other memento with the pointers of this one, or nothing if they do not fit. -/
def mergePointerStateTo (memento other : MotionMemento Value) : Option (MotionMemento Value) :=
  memento.pointers.foldlM addNewPointer other

end MotionMemento

/-! ## The state -/

inductive CancelationMode where
  | cancelAllEvents
  | cancelPointerEvents
  | cancelNonPointerEvents
  | cancelFallbackEvents
  deriving DecidableEq, Repr

structure CancelationOptions where
  mode : CancelationMode
  keyCode : Option Int := none
  deviceId : Option Int := none
  displayId : Option Int := none

structure InputState (Value : Type) where
  mKeyMementos : List KeyMemento
  mMotionMementos : List (MotionMemento Value)
  mFallbackKeys : List (Int × Int)
  deriving DecidableEq, Repr

namespace InputState

variable {Value : Type} (state : InputState Value) (memento : MotionMemento Value)
  (currentTime : Int)

def create : InputState Value := ⟨[], [], []⟩

def isNeutral : Bool :=
  state.mKeyMementos.isEmpty && state.mMotionMementos.isEmpty

def findKeyMemento (entry : KeyEntry) : Option Nat :=
  state.mKeyMementos.findIdx? fun memento =>
    memento.deviceId = entry.deviceId && memento.source = entry.source &&
      memento.displayId = entry.displayId && memento.keyCode = entry.keyCode &&
      memento.scanCode = entry.scanCode

def findMotionMemento (entry : MotionEntry Value) (hovering : Bool) : Option Nat :=
  state.mMotionMementos.findIdx? fun memento =>
    memento.deviceId = entry.deviceId && memento.source = entry.source &&
      memento.displayId = entry.displayId && memento.hovering = hovering

def addKeyMemento (entry : KeyEntry) (flags : BitVec 32) : InputState Value :=
  let memento : KeyMemento :=
    { deviceId := entry.deviceId, source := entry.source, displayId := entry.displayId,
      keyCode := entry.keyCode, scanCode := entry.scanCode, metaState := entry.metaState,
      flags := flags, downTime := entry.downTime, policyFlags := entry.policyFlags }
  { state with mKeyMementos := state.mKeyMementos ++ [memento] }

def addMotionMemento (entry : MotionEntry Value) (flags : BitVec 32) (hovering : Bool) :
    InputState Value :=
  let memento : MotionMemento Value :=
    { deviceId := entry.deviceId, source := entry.source, displayId := entry.displayId,
      flags := flags, xPrecision := entry.xPrecision, yPrecision := entry.yPrecision,
      xCursorPosition := entry.xCursorPosition, yCursorPosition := entry.yCursorPosition,
      downTime := entry.downTime, pointers := entry.pointers, firstNewPointerIdx := none,
      hovering := hovering, policyFlags := entry.policyFlags }
  { state with mMotionMementos := state.mMotionMementos ++ [memento] }

variable (index : Nat)

def eraseKeyMemento : InputState Value :=
  { state with mKeyMementos := state.mKeyMementos.eraseIdx index }

def eraseMotionMemento : InputState Value :=
  { state with mMotionMementos := state.mMotionMementos.eraseIdx index }

def setMementoPointers (entry : MotionEntry Value) : InputState Value :=
  { state with mMotionMementos := state.mMotionMementos.modify index (·.setPointers entry) }

def releaseFallback (entry : KeyEntry) : InputState Value :=
  if entry.flags &&& keyFlagFallback != 0 then
    { state with mFallbackKeys := state.mFallbackKeys.filter (·.2 != entry.keyCode) }
  else state

def trackKey (entry : KeyEntry) (action flags : BitVec 32) : Bool × InputState Value :=
  if action = keyActionUp then
    let state := state.releaseFallback entry
    match state.findKeyMemento entry with
    | some index => (true, state.eraseKeyMemento index)
    -- Inconsistent key up events are let through.
    | none => (true, state)
  else if action = keyActionDown then
    let state :=
      match state.findKeyMemento entry with
      | some index => state.eraseKeyMemento index
      | none => state
    (true, state.addKeyMemento entry flags)
  else (true, state)

variable (entry : MotionEntry Value)

def endMotion (hovering : Bool) : Bool × InputState Value :=
  match state.findMotionMemento entry hovering with
  | some index => (true, state.eraseMotionMemento index)
  | none => (false, state)

variable (flags : BitVec 32)

def beginMotion (hovering : Bool) : Bool × InputState Value :=
  let state :=
    match state.findMotionMemento entry hovering with
    | some index => state.eraseMotionMemento index
    | none => state
  (true, state.addMotionMemento entry flags hovering)

/-- `entry.pointerCoords[0].isEmpty()`. An event has at least one pointer. -/
def firstCoordsEmpty : Bool :=
  entry.pointers.head?.all (·.coords.isEmpty)

def continueMotion : Bool × InputState Value :=
  if isNavigationSource entry.source then (true, state)
  else
    let found := state.findMotionMemento entry false
    if isJoystickSource entry.source then
      match found with
      | some index =>
        if firstCoordsEmpty entry then (true, state.eraseMotionMemento index)
        else (true, state.setMementoPointers index entry)
      | none =>
        if firstCoordsEmpty entry then (true, state)
        else (true, state.addMotionMemento entry flags false)
    else
      match found with
      | some index =>
        if (state.mMotionMementos[index]?.bind (·.firstNewPointerIdx)).isNone then
          (true, state.setMementoPointers index entry)
        else (false, state)
      | none => (false, state)

def trackMotion (action flags : BitVec 32) : Bool × InputState Value :=
  let actionMasked := action &&& actionMask
  if actionMasked = actionUp ∨ actionMasked = actionCancel then state.endMotion entry false
  else if actionMasked = actionDown then state.beginMotion entry flags false
  else if actionMasked = actionPointerUp ∨ actionMasked = actionPointerDown ∨
      actionMasked = actionMove then
    state.continueMotion entry flags
  else if actionMasked = actionHoverExit then state.endMotion entry true
  else if actionMasked = actionHoverEnter ∨ actionMasked = actionHoverMove then
    state.beginMotion entry flags true
  else (true, state)

def clear (_ : InputState Value) : InputState Value := ⟨[], [], []⟩

variable (originalKeyCode : Int)

def getFallbackKey : Int :=
  (state.mFallbackKeys.lookup originalKeyCode).getD (-1)

def removeFallbackKey : InputState Value :=
  { state with mFallbackKeys := state.mFallbackKeys.filter (·.1 != originalKeyCode) }

def setFallbackKey (originalKeyCode fallbackKeyCode : Int) : InputState Value :=
  { state with
    mFallbackKeys := (originalKeyCode, fallbackKeyCode) ::
      state.mFallbackKeys.filter (·.1 != originalKeyCode) }

/-! ## Cancelation -/

def shouldCancelKey (memento : KeyMemento) (options : CancelationOptions) : Bool :=
  if options.keyCode.any (memento.keyCode != ·) then false
  else if options.deviceId.any (memento.deviceId != ·) then false
  else if options.displayId.any (memento.displayId != ·) then false
  else
    match options.mode with
    | .cancelAllEvents | .cancelNonPointerEvents => true
    | .cancelFallbackEvents => memento.flags &&& keyFlagFallback != 0
    | .cancelPointerEvents => false

variable (options : CancelationOptions)

def shouldCancelMotion : Bool :=
  if options.deviceId.any (memento.deviceId != ·) then false
  else if options.displayId.any (memento.displayId != ·) then false
  else
    match options.mode with
    | .cancelAllEvents => true
    | .cancelPointerEvents => isPointerSource memento.source
    | .cancelNonPointerEvents => !isPointerSource memento.source
    | .cancelFallbackEvents => false

def cancelKey (memento : KeyMemento) : KeyEntry where
  eventTime := currentTime
  deviceId := memento.deviceId
  source := memento.source
  displayId := memento.displayId
  policyFlags := memento.policyFlags
  action := keyActionUp
  flags := memento.flags ||| keyFlagCanceled
  keyCode := memento.keyCode
  scanCode := memento.scanCode
  metaState := memento.metaState
  repeatCount := 0
  downTime := memento.downTime

def motionEvent (memento : MotionMemento Value) (action : BitVec 32)
    (pointers : List (Pointer (PointerCoords Value))) : MotionEntry Value where
  eventTime := currentTime
  deviceId := memento.deviceId
  source := memento.source
  displayId := memento.displayId
  policyFlags := memento.policyFlags
  action := action
  actionButton := 0
  flags := memento.flags
  metaState := 0
  buttonState := 0
  classification := .none
  edgeFlags := 0
  xPrecision := memento.xPrecision
  yPrecision := memento.yPrecision
  xCursorPosition := memento.xCursorPosition
  yCursorPosition := memento.yCursorPosition
  downTime := memento.downTime
  pointers := pointers

def cancelMotion (memento : MotionMemento Value) : MotionEntry Value :=
  motionEvent currentTime memento (if memento.hovering then actionHoverExit else actionCancel)
    memento.pointers

def synthesizeCancelationEvents : List (EventEntry Value) :=
  (state.mKeyMementos.filter (shouldCancelKey · options)).map
      (fun memento => .key (cancelKey currentTime memento)) ++
    (state.mMotionMementos.filter (shouldCancelMotion · options)).map
      (fun memento => .motion (cancelMotion currentTime memento))

/-! ## Split touches -/

/-- The events for the pointers of one memento that the target does not know. -/
def pointerDownEvents (memento : MotionMemento Value) (first : Nat) : List (EventEntry Value) :=
  (List.range' first (memento.pointers.length - first)).map fun index =>
    let action := if index + 1 ≤ 1 then actionDown
      else actionPointerDown ||| BitVec.ofNat 32 (index <<< actionPointerIndexShift)
    .motion (motionEvent currentTime memento action (memento.pointers.take (index + 1)))

/-- The first new pointer of a memento that `synthesizePointerDownEvents` deals with. -/
def newPointers : Option Nat :=
  if isPointerSource memento.source then memento.firstNewPointerIdx else none

def synthesizePointerDownEvents : List (EventEntry Value) × InputState Value :=
  (state.mMotionMementos.flatMap fun memento =>
      match newPointers memento with
      | some first => pointerDownEvents currentTime memento first
      | none => [],
    { state with mMotionMementos := state.mMotionMementos.map fun memento =>
        if (newPointers memento).isSome then { memento with firstNewPointerIdx := none }
        else memento })

def sameStream (memento other : MotionMemento Value) : Bool :=
  memento.deviceId = other.deviceId && memento.source = other.source &&
    memento.displayId = other.displayId

/-- One turn of the loop of `mergePointerStateTo`. A memento that is copied is marked in both
states. -/
def mergeMemento (others : List (MotionMemento Value)) :
    Option (MotionMemento Value × List (MotionMemento Value)) :=
  if isPointerSource memento.source then
    match others.findIdx? (sameStream memento) with
    | some index => do
        let other ← others[index]?
        let merged ← memento.mergePointerStateTo other
        some (memento, others.set index merged)
    | none =>
      let memento := { memento with firstNewPointerIdx := some 0 }
      some (memento, others ++ [memento])
  else some (memento, others)

def mergeMementos : List (MotionMemento Value) → List (MotionMemento Value) →
    Option (List (MotionMemento Value) × List (MotionMemento Value))
  | [], others => some ([], others)
  | memento :: rest, others => do
      let (memento, others) ← mergeMemento memento others
      let (rest, others) ← mergeMementos rest others
      some (memento :: rest, others)

/-- The two states afterwards, or nothing if a memento would get too many pointers. -/
def mergePointerStateTo (state other : InputState Value) :
    Option (InputState Value × InputState Value) := do
  let (mementos, others) ← mergeMementos state.mMotionMementos other.mMotionMementos
  some ({ state with mMotionMementos := mementos }, { other with mMotionMementos := others })

end InputState

end NativeLibs.Input
