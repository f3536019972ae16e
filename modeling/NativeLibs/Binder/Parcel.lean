import NativeLibs.Foundation.Bytes
import Mathlib.Data.List.Sort

/-! # Parcels

The buffer of a parcel, its position and its table of objects, and the functions that
write, read, grow and shrink it. What the allocator does is an argument. -/

namespace NativeLibs.Binder

open Bytes (Memory store load)
open Bytes

inductive ParcelStatus where
  | noError
  | badValue
  | badType
  | noMemory
  | notEnoughData
  | permissionDenied
  | fdsNotAllowed
  | unexpectedNull
  deriving DecidableEq, Repr

def int32Max : Nat := 2 ^ 31 - 1

def sizeMax : Nat := 2 ^ 64 - 1

/-- `pad_size`. Its argument is never near `SIZE_MAX`. -/
def padSize (size : Nat) : Nat := (size + 3) / 4 * 4

def flatSize : Nat := 24

/-- `flat_binder_object`. A handle is the lower half of `binder`. -/
structure FlatBinderObject where
  type : BitVec 32
  flags : BitVec 32
  binder : BitVec 64
  cookie : BitVec 64
  deriving DecidableEq, Repr

def FlatBinderObject.bytes (object : FlatBinderObject) : List UInt8 :=
  encode 4 object.type.toNat ++ encode 4 object.flags.toNat ++
    encode 8 object.binder.toNat ++ encode 8 object.cookie.toNat

def packChars (first second : Nat) : BitVec 32 :=
  BitVec.ofNat 32 (first * 2 ^ 24 + second * 2 ^ 16 + 0x2a * 2 ^ 8 + 0x85)

def binderTypeBinder : BitVec 32 := packChars 0x73 0x62

def binderTypeHandle : BitVec 32 := packChars 0x73 0x68

def binderTypeFd : BitVec 32 := packChars 0x66 0x64

/-- What the allocator does in one call: whether there is memory for data and for a table of
objects, and what is in new memory. -/
structure Heap where
  data : Bool
  objects : Bool
  garbage : Memory

structure Parcel where
  mError : ParcelStatus
  /-- Whether `mData` is not null. -/
  allocated : Bool
  mData : Memory
  mDataSize : Nat
  mDataCapacity : Nat
  mDataPos : Nat
  /-- The first `mObjectsSize` entries. -/
  mObjects : List Nat
  mObjectsCapacity : Nat
  mNextObjectHint : Nat
  mObjectsSorted : Bool
  /-- Whether `mOwner` is not null. -/
  hasOwner : Bool
  mAllowFds : Bool
  /-- Whether `mSession` is not null. -/
  isForRpc : Bool

namespace Parcel

variable (parcel : Parcel)

def initState : Parcel where
  mError := .noError
  allocated := false
  mData := fun _ => 0
  mDataSize := 0
  mDataCapacity := 0
  mDataPos := 0
  mObjects := []
  mObjectsCapacity := 0
  mNextObjectHint := 0
  mObjectsSorted := false
  hasOwner := false
  mAllowFds := true
  isForRpc := false

def dataSize : Nat :=
  if parcel.mDataSize > parcel.mDataPos then parcel.mDataSize else parcel.mDataPos

/-! ## Growing and shrinking -/

/-- How many of the first `count` objects stay when the data ends at `desired`: those after
the last one that begins before it are dropped. -/
def keptObjects (objects : List Nat) (desired : Nat) : Nat → Nat
  | 0 => 0
  | count + 1 =>
    if objects.getD count 0 < desired then count + 1 else keptObjects objects desired count

def objectsSize (desired : Nat) : Nat :=
  if desired < parcel.mDataSize then
    if desired = 0 then 0 else keptObjects parcel.mObjects desired parcel.mObjects.length
  else parcel.mObjects.length

def outOfMemory : ParcelStatus × Parcel :=
  (.noMemory, { parcel with mError := .noMemory })

def copied (count : Nat) (old new : Memory) : Memory :=
  fun index => if index < count then old index else new index

def dropObjects (count : Nat) (heap : Heap) : Parcel :=
  if count < parcel.mObjects.length then
    { parcel with
      mObjects := parcel.mObjects.take count
      mObjectsCapacity :=
        if count = 0 then 0 else if heap.objects then count else parcel.mObjectsCapacity
      mNextObjectHint := 0
      mObjectsSorted := false }
  else parcel

def takeOver (desired count : Nat) (heap : Heap) : ParcelStatus × Parcel :=
  if desired = 0 then (.noError, initState)
  else if !heap.data then parcel.outOfMemory
  else if count ≠ 0 && !heap.objects then parcel.outOfMemory
  else (.noError, { parcel with
    allocated := true
    mData := copied (min parcel.mDataSize desired) parcel.mData heap.garbage
    mDataSize := min parcel.mDataSize desired
    mDataCapacity := desired
    mObjects := parcel.mObjects.take count
    mObjectsCapacity := count
    mNextObjectHint := 0
    mObjectsSorted := false
    hasOwner := false })

variable (desired : Nat) (heap : Heap)

def resize : ParcelStatus × Parcel :=
  if desired > parcel.mDataCapacity then
    if heap.data then
      (.noError, { parcel with
        mData := copied parcel.mDataCapacity parcel.mData heap.garbage
        mDataCapacity := desired })
    else parcel.outOfMemory
  else (.noError, { parcel with
    mDataSize := min parcel.mDataSize desired
    mDataPos := min parcel.mDataPos desired })

def firstData : ParcelStatus × Parcel :=
  if heap.data then
    (.noError, { parcel with
      allocated := true
      mData := heap.garbage
      mDataSize := 0
      mDataPos := 0
      mDataCapacity := desired })
  else parcel.outOfMemory

def continueWrite : ParcelStatus × Parcel :=
  if desired > int32Max then (.badValue, parcel)
  else
    let count := parcel.objectsSize desired
    if parcel.hasOwner then parcel.takeOver desired count heap
    else if parcel.allocated then (parcel.dropObjects count heap).resize desired heap
    else parcel.firstData desired heap

variable (len : Nat)

def grownSize : Nat := (parcel.mDataSize + len) * 3 / 2

def growData (heap : Heap) : ParcelStatus × Parcel :=
  if len > int32Max then (.badValue, parcel)
  else if len > sizeMax - parcel.mDataSize then (.noMemory, parcel)
  else if parcel.mDataSize + len > sizeMax / 3 then (.noMemory, parcel)
  else if parcel.grownSize len ≤ parcel.mDataSize then (.noMemory, parcel)
  else parcel.continueWrite (max (parcel.grownSize len) 128) heap

def setDataSize (size : Nat) (heap : Heap) : ParcelStatus × Parcel :=
  if size > int32Max then (.badValue, parcel)
  else match parcel.continueWrite size heap with
  | (.noError, parcel) => (.noError, { parcel with mDataSize := size })
  | failed => failed

/-- A position above `INT32_MAX` is fatal. -/
def setDataPosition (position : Nat) : Parcel :=
  { parcel with mDataPos := position, mNextObjectHint := 0, mObjectsSorted := false }

def setDataCapacity (size : Nat) (heap : Heap) : ParcelStatus × Parcel :=
  if size > int32Max then (.badValue, parcel)
  else if size > parcel.mDataCapacity then parcel.continueWrite size heap
  else (.noError, parcel)

/-! ## Writing -/

def finishWrite : ParcelStatus × Parcel :=
  if len > int32Max then (.badValue, parcel)
  else (.noError, { parcel with
    mDataPos := parcel.mDataPos + len
    mDataSize := max parcel.mDataSize (parcel.mDataPos + len) })

/-- The padding is cleared and the position moves on: `restart_write` of `writeInplace`. The
result is the offset of the data. -/
def claim : Nat × Parcel :=
  let padded := padSize len
  let cleared := { parcel with
    mData := store parcel.mData (parcel.mDataPos + len) (List.replicate (padded - len) 0) }
  (parcel.mDataPos, (cleared.finishWrite padded).2)

/-- `writeInplace`: the offset of the data, and none for the null pointer. The position plus
the length wraps only from `2 ^ 64` on. -/
def writeInplace (heap : Heap) : Option Nat × Parcel :=
  if len > int32Max then (none, parcel)
  else
    let padded := padSize len
    if parcel.mDataPos + padded ≥ 2 ^ 64 then (none, parcel)
    else if parcel.mDataPos + padded ≤ parcel.mDataCapacity then
      let (offset, claimed) := parcel.claim len
      -- Without a buffer the pointer to the data is null.
      (if parcel.allocated then some offset else none, claimed)
    else match parcel.growData padded heap with
    | (.noError, parcel) =>
      let (offset, claimed) := parcel.claim len
      (some offset, claimed)
    | (_, parcel) => (none, parcel)

def write (bytes : List UInt8) (heap : Heap) : ParcelStatus × Parcel :=
  if bytes.length > int32Max then (.badValue, parcel)
  else match parcel.writeInplace bytes.length heap with
  | (some offset, parcel) => (.noError, { parcel with mData := store parcel.mData offset bytes })
  | (none, parcel) => (parcel.mError, parcel)

/-- The values that `writeAligned` takes, of four or of eight bytes. -/
inductive Aligned where
  | word (value : BitVec 32)
  | long (value : BitVec 64)
  deriving DecidableEq, Repr

def Aligned.bytes : Aligned → List UInt8
  | .word value => encode 4 value.toNat
  | .long value => encode 8 value.toNat

variable (bytes : List UInt8)

/-- Bytes are stored at the position: `restart_write` of `writeAligned`, `writeUnpadded` and
`writeObject`. -/
def put : ParcelStatus × Parcel :=
  { parcel with mData := store parcel.mData parcel.mDataPos bytes }.finishWrite bytes.length

def writeAligned (value : Aligned) (heap : Heap) : ParcelStatus × Parcel :=
  if parcel.mDataPos + value.bytes.length ≤ parcel.mDataCapacity then parcel.put value.bytes
  else match parcel.growData value.bytes.length heap with
  | (.noError, parcel) => parcel.put value.bytes
  | failed => failed

def writeUnpadded (heap : Heap) : ParcelStatus × Parcel :=
  if bytes.length > int32Max then (.badValue, parcel)
  else if parcel.mDataPos + bytes.length ≥ 2 ^ 64 then (.badValue, parcel)
  else if parcel.mDataPos + bytes.length ≤ parcel.mDataCapacity then parcel.put bytes
  else match parcel.growData bytes.length heap with
  | (.noError, parcel) => parcel.put bytes
  | failed => failed

/-! ## Objects -/

variable (object : FlatBinderObject) (nullMetaData : Bool)

def putObject : ParcelStatus × Parcel :=
  let stored := { parcel with mData := store parcel.mData parcel.mDataPos object.bytes }
  if object.type = binderTypeFd ∧ parcel.mAllowFds = false then (.fdsNotAllowed, stored)
  else
    let listed :=
      if nullMetaData || object.binder ≠ 0 then
        { stored with mObjects := stored.mObjects ++ [stored.mDataPos] }
      else stored
    listed.finishWrite flatSize

def growObjects (needed : Nat) (heap : Heap) : ParcelStatus × Parcel :=
  let count := parcel.mObjects.length
  if needed > sizeMax - count then (.noMemory, parcel)
  else if count + needed > sizeMax / 3 then (.noMemory, parcel)
  else
    let newSize := (count + needed) * 3 / 2
    if newSize > sizeMax / 8 then (.noMemory, parcel)
    else if heap.objects then (.noError, { parcel with mObjectsCapacity := newSize })
    else (.noMemory, parcel)

def writeObject (heap : Heap) : ParcelStatus × Parcel :=
  let grown :=
    if parcel.mDataPos + flatSize ≤ parcel.mDataCapacity then (.noError, parcel)
    else parcel.growData flatSize heap
  match grown with
  | (.noError, ready) =>
    let tabled :=
      if parcel.mObjects.length < parcel.mObjectsCapacity then (.noError, ready)
      else ready.growObjects 2 heap
    match tabled with
    | (.noError, ready) => ready.putObject object nullMetaData
    | failed => failed
  | failed => failed

def inRange (offset len object : Nat) : Bool :=
  offset ≤ object && object + flatSize ≤ offset + len

/-- `firstIndex` and `lastIndex` of `appendFrom`, if there are any objects in the range. -/
def objectRange (objects : List Nat) (offset len : Nat) : Option (Nat × Nat) :=
  objects.zipIdx.foldl (fun range entry =>
    if inRange offset len entry.1 then
      match range with
      | none => some (entry.2, entry.2)
      | some (firstIndex, _) => some (firstIndex, entry.2)
    else range) none

/-- One object is appended, at an offset that may wrap. A file descriptor is duplicated, and
`dup` is the descriptor that the duplicate gets. -/
def appendObject (dup : Nat → BitVec 32) (offset startPos : Nat) (result : ParcelStatus × Parcel)
    (object : Nat) : ParcelStatus × Parcel :=
  let (err, parcel) := result
  let off := (2 ^ 64 + object - offset + startPos) % 2 ^ 64
  let listed := { parcel with mObjects := parcel.mObjects ++ [off] }
  if decode (load parcel.mData off 4) = binderTypeFd.toNat then
    let data := store parcel.mData (off + 8) (encode 4 (dup off).toNat)
    (if parcel.mAllowFds then err else .fdsNotAllowed,
      { listed with mData := store data (off + 16) (encode 8 1) })
  else (err, listed)

def appendObjects (parcel source : Parcel) (offset len startPos : Nat) (dup : Nat → BitVec 32)
    (heap : Heap) : ParcelStatus × Parcel :=
  match objectRange source.mObjects offset len with
  | none => (.noError, parcel)
  | some (firstIndex, lastIndex) =>
    let objects := (source.mObjects.take (lastIndex + 1)).drop firstIndex
    let grown :=
      if parcel.mObjectsCapacity < parcel.mObjects.length + objects.length then
        parcel.growObjects objects.length heap
      else (.noError, parcel)
    match grown with
    | (.noError, parcel) => objects.foldl (appendObject dup offset startPos) (.noError, parcel)
    | failed => failed

def appendFrom (parcel source : Parcel) (offset len : Nat) (dup : Nat → BitVec 32) (heap : Heap) :
    ParcelStatus × Parcel :=
  if source.isForRpc ≠ parcel.isForRpc then (.badType, parcel)
  else if len = 0 then (.noError, parcel)
  else if len > int32Max then (.badValue, parcel)
  else if offset > source.mDataSize ∨ len > source.mDataSize ∨
      offset + len > source.mDataSize then (.badValue, parcel)
  else
    let grown :=
      if parcel.mDataSize + len > parcel.mDataCapacity then parcel.growData len heap
      else (.noError, parcel)
    match grown with
    | (.noError, ready) =>
      let appended := { ready with
        mData := store ready.mData ready.mDataPos (load source.mData offset len)
        mDataPos := ready.mDataPos + len
        mDataSize := ready.mDataSize + len }
      appended.appendObjects source offset len parcel.mDataPos dup heap
    | failed => failed

/-! ## Reading -/

def isSorted : List Nat → Bool
  | first :: second :: rest => !(first > second) && isSorted (second :: rest)
  | _ => true

/-- The loop of `validateReadData` over the objects from the hint on: how many of them end
before the position and begin before the bound, unless one of them overlaps. -/
def passObjects (position upperBound : Nat) : List Nat → Option Nat
  | [] => some 0
  | object :: rest =>
    if upperBound > object then
      if position < object + flatSize then none
      else (passObjects position upperBound rest).map (· + 1)
    else some 0

def checkObjects (upperBound : Nat) : ParcelStatus × Parcel :=
  match passObjects parcel.mDataPos upperBound (parcel.mObjects.drop parcel.mNextObjectHint) with
  | none => (.permissionDenied, parcel)
  | some passed => (.noError, { parcel with mNextObjectHint := parcel.mNextObjectHint + passed })

def validateReadData (upperBound : Nat) : ParcelStatus × Parcel :=
  if parcel.mObjectsSorted || parcel.mObjects.length ≤ 1 then parcel.checkObjects upperBound
  else if isSorted parcel.mObjects then
    { parcel with mObjectsSorted := true }.checkObjects upperBound
  else
    { parcel with
      mObjects := parcel.mObjects.insertionSort (· ≤ ·)
      mNextObjectHint := 0
      mObjectsSorted := true }.checkObjects upperBound

/-- The part that `read`, `readInplace` and `readAligned` share: the offset of the bytes, once
there are enough of them. -/
def readRange (padded : Nat) : Except ParcelStatus Nat × Parcel :=
  let checked :=
    if parcel.mObjects.length > 0 then parcel.validateReadData (parcel.mDataPos + padded)
    else (.noError, parcel)
  let moved := { checked.2 with mDataPos := checked.2.mDataPos + padded }
  if checked.1 = .noError then (.ok parcel.mDataPos, moved) else (.error checked.1, moved)

def read : Except ParcelStatus (List UInt8) × Parcel :=
  if len > int32Max then (.error .badValue, parcel)
  else if parcel.mDataPos + padSize len < 2 ^ 64 ∧
      parcel.mDataPos + padSize len ≤ parcel.mDataSize then
    match parcel.readRange (padSize len) with
    | (.ok offset, next) => (.ok (load parcel.mData offset len), next)
    | (.error status, next) => (.error status, next)
  else (.error .notEnoughData, parcel)

def readInplace : Option Nat × Parcel :=
  if len > int32Max then (none, parcel)
  else if parcel.mDataPos + padSize len < 2 ^ 64 ∧
      parcel.mDataPos + padSize len ≤ parcel.mDataSize then
    match parcel.readRange (padSize len) with
    | (.ok offset, next) => (if parcel.allocated then some offset else none, next)
    | (.error _, next) => (none, next)
  else (none, parcel)

def readAligned (size : Nat) : Except ParcelStatus (List UInt8) × Parcel :=
  if parcel.mDataPos + size ≤ parcel.mDataSize then
    match parcel.readRange size with
    | (.ok offset, next) => (.ok (load parcel.mData offset size), next)
    | (.error status, next) => (.error status, next)
  else (.error .notEnoughData, parcel)

/-- `readCString`: the offset and the length of the string, and none for the null pointer. -/
def readCString : Option (Nat × Nat) × Parcel :=
  if parcel.mDataPos < parcel.mDataSize then
    let avail := parcel.mDataSize - parcel.mDataPos
    match (load parcel.mData parcel.mDataPos avail).findIdx? (· == 0) with
    | some len => (some (parcel.mDataPos, len),
        { parcel with mDataPos := parcel.mDataPos + padSize (len + 1) })
    | none => (none, parcel)
  else (none, parcel)

def searchForward (objects : List Nat) (position : Nat) : Nat → Nat → Nat
  | 0, index => index
  | fuel + 1, index =>
    if index < objects.length - 1 ∧ objects.getD index 0 < position then
      searchForward objects position fuel (index + 1)
    else index

def searchBackward (objects : List Nat) (position : Nat) : Nat → Nat
  | 0 => 0
  | index + 1 =>
    if objects.getD (index + 1) 0 > position then searchBackward objects position index
    else index + 1

def findObject (objects : List Nat) (position hint : Nat) : Option Nat :=
  if objects.length = 0 then none
  else
    let forward :=
      if hint < objects.length then searchForward objects position objects.length hint
      else objects.length - 1
    if objects.getD forward 0 = position then some forward
    else
      let backward := searchBackward objects position forward
      if objects.getD backward 0 = position then some backward else none

def readObject : Option Nat × Parcel :=
  let position := parcel.mDataPos
  if position + flatSize ≤ parcel.mDataSize then
    let moved := { parcel with mDataPos := position + flatSize }
    let binder := decode (load parcel.mData (position + 8) 8)
    let cookie := decode (load parcel.mData (position + 16) 8)
    if !nullMetaData && cookie = 0 && binder = 0 then (some position, moved)
    else match findObject parcel.mObjects position parcel.mNextObjectHint with
    | some index => (some position, { moved with mNextObjectHint := index + 1 })
    | none => (none, moved)
  else (none, parcel)

/-! ## Received data -/

def acceptsObjects (data : Memory) : Nat → List Nat → Bool
  | _, [] => true
  | minOffset, offset :: rest =>
    let type := BitVec.ofNat 32 (decode (load data offset 4))
    !(offset < minOffset) &&
      (type = binderTypeBinder || type = binderTypeHandle || type = binderTypeFd) &&
        acceptsObjects data (offset + flatSize) rest

def ipcSetDataReference (data : Memory) (dataSize : Nat) (objects : List Nat) : Parcel :=
  { initState with
    allocated := true
    mData := data
    mDataSize := dataSize
    mDataCapacity := dataSize
    mObjects := if acceptsObjects data 0 objects then objects else []
    mObjectsCapacity := objects.length
    hasOwner := true }

end Parcel

/-! ## Values in parcels

The writers and the readers of the types that have a fixed form: numbers, texts, vectors of
bytes and buffers. -/

namespace Parcel

variable (parcel : Parcel)

/-! ## Writers -/

def writeInt32 (val : BitVec 32) (heap : Heap) : ParcelStatus × Parcel :=
  parcel.writeAligned (.word val) heap

def writeUint32 (val : BitVec 32) (heap : Heap) : ParcelStatus × Parcel :=
  parcel.writeAligned (.word val) heap

def writeInt64 (val : BitVec 64) (heap : Heap) : ParcelStatus × Parcel :=
  parcel.writeAligned (.long val) heap

def writeBool (val : Bool) (heap : Heap) : ParcelStatus × Parcel :=
  parcel.writeInt32 (if val then 1 else 0) heap

def writeChar (val : BitVec 16) (heap : Heap) : ParcelStatus × Parcel :=
  parcel.writeInt32 (val.setWidth 32) heap

def writeByte (val : BitVec 8) (heap : Heap) : ParcelStatus × Parcel :=
  parcel.writeInt32 (val.signExtend 32) heap

/-- The texts of `writeString8` and `writeString16`: the number of characters, and then their
bytes and a terminator. -/
def writeText (len : Nat) (str terminator : List UInt8) (heap more : Heap) :
    ParcelStatus × Parcel :=
  match parcel.writeInt32 (BitVec.ofNat 32 len) heap with
  | (.noError, parcel) =>
    match parcel.writeInplace (str.length + terminator.length) more with
    | (some data, parcel) =>
      (.noError, { parcel with
        mData := store (store parcel.mData data str) (data + str.length) terminator })
    | (none, parcel) => (parcel.mError, parcel)
  | failed => failed

def writeString8 (str : List UInt8) (heap more : Heap) : ParcelStatus × Parcel :=
  parcel.writeText str.length str [0] heap more

variable (str : List (BitVec 16))

def charBytes : List UInt8 :=
  str.flatMap fun char => encode 2 char.toNat

def writeString16 (heap more : Heap) : ParcelStatus × Parcel :=
  parcel.writeText str.length (charBytes str) [0, 0] heap more

def kNullVectorSize : BitVec 32 := -1

def writeNullableString16 (str : Option (List (BitVec 16))) (heap more : Heap) :
    ParcelStatus × Parcel :=
  match str with
  | none => parcel.writeInt32 kNullVectorSize heap
  | some str => parcel.writeString16 str heap more

/-- `writeByteVector`. The status of the size is not looked at. -/
def writeByteVector (val : List UInt8) (heap more : Heap) : ParcelStatus × Parcel :=
  if val.length > int32Max then (.badValue, parcel)
  else
    let sized := (parcel.writeInt32 (BitVec.ofNat 32 val.length) heap).2
    sized.write val more

/-! ## Readers -/

def readInt32 : Except ParcelStatus (BitVec 32) × Parcel :=
  let (bytes, next) := parcel.readAligned 4
  (bytes.map fun bytes => BitVec.ofNat 32 (decode bytes), next)

/-- `readInt32` without a status, which is zero if nothing can be read. -/
def readInt32OrZero : BitVec 32 × Parcel :=
  match parcel.readInt32 with
  | (.ok value, next) => (value, next)
  | (.error _, next) => (0, next)

def readUint32 : Except ParcelStatus (BitVec 32) × Parcel :=
  let (bytes, next) := parcel.readAligned 4
  (bytes.map fun bytes => BitVec.ofNat 32 (decode bytes), next)

def readInt64 : Except ParcelStatus (BitVec 64) × Parcel :=
  let (bytes, next) := parcel.readAligned 8
  (bytes.map fun bytes => BitVec.ofNat 64 (decode bytes), next)

def readBool : Except ParcelStatus Bool × Parcel :=
  let (value, next) := parcel.readInt32
  (value.map fun value => value != 0, next)

def readChar : Except ParcelStatus (BitVec 16) × Parcel :=
  let (value, next) := parcel.readInt32
  (value.map fun value => value.setWidth 16, next)

def readByte : Except ParcelStatus (BitVec 8) × Parcel :=
  let (value, next) := parcel.readInt32
  (value.map fun value => value.setWidth 8, next)

/-- `readString8Inplace` and `readString16Inplace`, for characters of some width: the offset
of the characters and their number, and none for the null pointer. -/
def readTextInplace (width : Nat) : Option (Nat × Nat) × Parcel :=
  let (size, next) := parcel.readInt32OrZero
  if 0 ≤ size.toInt ∧ size.toInt < int32Max then
    let len := size.toNat
    match next.readInplace ((len + 1) * width) with
    | (some str, next) =>
      if decode (load next.mData (str + len * width) width) = 0 then (some (str, len), next)
      else (none, next)
    | (none, next) => (none, next)
  else (none, next)

def readString8 : Except ParcelStatus (List UInt8) × Parcel :=
  match parcel.readTextInplace 1 with
  | (some (str, len), next) => (.ok (load next.mData str len), next)
  | (none, next) => (.error .unexpectedNull, next)

def readString16 : Except ParcelStatus (List (BitVec 16)) × Parcel :=
  match parcel.readTextInplace 2 with
  | (some (str, len), next) =>
    (.ok ((loadWords next.mData str 2 len).map (BitVec.ofNat 16)), next)
  | (none, next) => (.error .unexpectedNull, next)

/-- `readString16` of an optional string. The number of characters is read twice. -/
def readNullableString16 : Except ParcelStatus (Option (List (BitVec 16))) × Parcel :=
  let startPos := parcel.mDataPos
  match parcel.readInt32 with
  | (.ok peek, next) =>
    if peek = kNullVectorSize then (.ok none, next)
    else
      let (str, next) := (next.setDataPosition startPos).readString16
      (str.map some, next)
  | (.error status, next) => (.error status, next)

/-- `dataAvail`. A result above `INT32_MAX` is fatal. -/
def dataAvail : Nat := parcel.dataSize - parcel.mDataPos

def readByteVector : Except ParcelStatus (List UInt8) × Parcel :=
  match parcel.readInt32 with
  | (.ok size, next) =>
    if size.toInt < 0 then (.error .unexpectedNull, next)
    else if size.toNat > next.dataAvail then (.error .badValue, next)
    else match next.readInplace size.toNat with
    | (some data, next) => (.ok (load next.mData data size.toNat), next)
    | (none, next) => (.error .badValue, next)
  | (.error status, next) => (.error status, next)

/-! ## Sequences of values -/

inductive Value where
  | int32 (val : BitVec 32)
  | uint32 (val : BitVec 32)
  | int64 (val : BitVec 64)
  | bool (val : Bool)
  | byte (val : BitVec 8)
  | char (val : BitVec 16)
  | string8 (str : List UInt8)
  | string16 (str : List (BitVec 16))
  | nullableString16 (str : Option (List (BitVec 16)))
  | byteVector (val : List UInt8)
  | buffer (data : List UInt8)
  deriving DecidableEq, Repr

inductive ValueType where
  | int32
  | uint32
  | int64
  | bool
  | byte
  | char
  | string8
  | string16
  | nullableString16
  | byteVector
  | buffer (len : Nat)
  deriving DecidableEq, Repr

def Value.type : Value → ValueType
  | .int32 _ => .int32
  | .uint32 _ => .uint32
  | .int64 _ => .int64
  | .bool _ => .bool
  | .byte _ => .byte
  | .char _ => .char
  | .string8 _ => .string8
  | .string16 _ => .string16
  | .nullableString16 _ => .nullableString16
  | .byteVector _ => .byteVector
  | .buffer data => .buffer data.length

def Value.length : Value → Nat
  | .string8 str => str.length
  | .string16 str => str.length
  | .nullableString16 (some str) => str.length
  | .byteVector val => val.length
  | .buffer data => data.length
  | _ => 0

/-- A value that is written, and what the allocator does meanwhile. -/
structure ValueWrite where
  value : Value
  heap : Heap
  more : Heap

def writeValue (write : ValueWrite) : ParcelStatus × Parcel :=
  match write.value with
  | .int32 val => parcel.writeInt32 val write.heap
  | .uint32 val => parcel.writeUint32 val write.heap
  | .int64 val => parcel.writeInt64 val write.heap
  | .bool val => parcel.writeBool val write.heap
  | .byte val => parcel.writeByte val write.heap
  | .char val => parcel.writeChar val write.heap
  | .string8 str => parcel.writeString8 str write.heap write.more
  | .string16 str => parcel.writeString16 str write.heap write.more
  | .nullableString16 str => parcel.writeNullableString16 str write.heap write.more
  | .byteVector val => parcel.writeByteVector val write.heap write.more
  | .buffer data => parcel.write data write.heap

def readValue : ValueType → Except ParcelStatus Value × Parcel
  | .int32 => let (val, next) := parcel.readInt32; (val.map .int32, next)
  | .uint32 => let (val, next) := parcel.readUint32; (val.map .uint32, next)
  | .int64 => let (val, next) := parcel.readInt64; (val.map .int64, next)
  | .bool => let (val, next) := parcel.readBool; (val.map .bool, next)
  | .byte => let (val, next) := parcel.readByte; (val.map .byte, next)
  | .char => let (val, next) := parcel.readChar; (val.map .char, next)
  | .string8 => let (str, next) := parcel.readString8; (str.map .string8, next)
  | .string16 => let (str, next) := parcel.readString16; (str.map .string16, next)
  | .nullableString16 =>
    let (str, next) := parcel.readNullableString16; (str.map .nullableString16, next)
  | .byteVector => let (val, next) := parcel.readByteVector; (val.map .byteVector, next)
  | .buffer len => let (data, next) := parcel.read len; (data.map .buffer, next)

def writeValues : Parcel → List ValueWrite → Parcel
  | parcel, [] => parcel
  | parcel, write :: rest => writeValues (parcel.writeValue write).2 rest

/-- Values that are read one after the other are those, each read leaves the position aligned,
and the last one leaves it at the end of the data. -/
def ReadsBack : Parcel → List Value → Prop
  | parcel, [] => parcel.mDataPos = parcel.dataSize
  | parcel, value :: rest =>
    (parcel.readValue value.type).1 = .ok value ∧ (parcel.readValue value.type).2.mDataPos % 4 = 0 ∧
        ReadsBack (parcel.readValue value.type).2 rest

end Parcel

end NativeLibs.Binder
