import NativeLibs.Foundation.Bytes

/-! # Strings in PDX messages

`StringWrapper` is sent as an encoding byte, a length and the characters. -/

namespace NativeLibs.Vr

open Bytes (encode decode length_encode decode_encode)
open List UInt8

/-- The characters of a wrapper, each of `width` bytes. -/
structure StringWrapper (width : Nat) where
  length : Nat
  data : List UInt8
  sized : data.length = length * width

namespace StringWrapper

variable {width : Nat} (string : StringWrapper width)

def serializeStringType (size : Nat) : List UInt8 :=
  if size < 2 ^ 5 then [ofNat (0xa0 + size)]
  else if size < 2 ^ 8 then 0xd9 :: encode 1 size
  else if size < 2 ^ 16 then 0xda :: encode 2 size
  else 0xdb :: encode 4 size

def getEncodingSize (size : Nat) : Nat :=
  if size < 2 ^ 5 then 1 else if size < 2 ^ 8 then 2 else if size < 2 ^ 16 then 3 else 5

def getSerializedSize : Nat := getEncodingSize string.length + string.length * width

def serializeString : List UInt8 := serializeStringType string.length ++ string.data

def readRawData (size : Nat) (buffer : List UInt8) : Option (List UInt8 × List UInt8) :=
  if buffer.length < size then none else some (buffer.take size, buffer.drop size)

def deserializeStringType : List UInt8 → Option (Nat × List UInt8)
  | [] => none
  | encoding :: rest =>
    let value := fun size => (readRawData size rest).map fun (bytes, rest) => (decode bytes, rest)
    if 0xa0 ≤ encoding ∧ encoding ≤ 0xbf then some (encoding.toNat % 32, rest)
    else if encoding = 0xd9 then value 1
    else if encoding = 0xda then value 2
    else if encoding = 0xdb then value 4
    else none

/-- `DeserializeObject` into a wrapper of a capacity: its length, its characters, and the rest. -/
def deserializeObject (width capacity : Nat) (buffer : List UInt8) :
    Option (Nat × List UInt8 × List UInt8) :=
  (deserializeStringType buffer).bind fun (size, rest) =>
    let length := min (size / width) capacity
    if length * width < size ∨ size % width ≠ 0 then none
    else (readRawData size rest).map fun read => (length, read)

lemma readRawData_append (bytes rest : List UInt8) :
    readRawData bytes.length (bytes ++ rest) = some (bytes, rest) := by
  simp [readRawData]

lemma readRawData_encode (count size : Nat) (rest : List UInt8) :
    readRawData count (encode count size ++ rest) = some (encode count size, rest) := by
  simpa using readRawData_append (encode count size) rest

lemma deserialize_serializeStringType (size : Nat) (rest : List UInt8) :
    deserializeStringType (serializeStringType size ++ rest) = some (size % 2 ^ 32, rest) := by
  unfold serializeStringType
  split_ifs with fix str8 str16
  · have byte : (ofNat (0xa0 + size)).toNat = 0xa0 + size := by simp; omega
    have fixstr : 0xa0 ≤ ofNat (0xa0 + size) ∧ ofNat (0xa0 + size) ≤ 0xbf := by
      simp only [le_iff_toNat_le, byte]
      exact ⟨Nat.le_add_right _ _, by simp; omega⟩
    simp only [deserializeStringType, singleton_append, if_pos fixstr, byte]
    congr 2
    omega
  · simp [deserializeStringType, readRawData_encode, decode_encode]
    omega
  · simp [deserializeStringType, readRawData_encode, decode_encode]
    omega
  · simp [deserializeStringType, readRawData_encode, decode_encode]

/-- The size is always right. The characters come back exactly if there are none, or each has one
byte and their number has 32 bits. -/
theorem roundTrip_iff (string : StringWrapper width) (positive : 0 < width) :
    string.serializeString.length = string.getSerializedSize ∧
    ((∀ capacity rest, string.length ≤ capacity →
        deserializeObject width capacity (string.serializeString ++ rest) =
          some (string.length, string.data, rest)) ↔
      string.length = 0 ∨ width = 1 ∧ string.length < 2 ^ 32) := by
  have sized := string.sized
  constructor
  · simp only [serializeString, serializeStringType, getSerializedSize, getEncodingSize,
      length_append, sized]
    split_ifs <;> simp
  · simp only [serializeString, append_assoc, deserializeObject, deserialize_serializeStringType,
      Option.bind_some]
    constructor
    · intro roundTrip
      have back := roundTrip string.length [] (Nat.le_refl _)
      split_ifs at back
      have whole : string.length * width ≤ string.length % 2 ^ 32 := by
        simp [readRawData] at back
        omega
      have bounded := Nat.mod_le string.length (2 ^ 32)
      rcases Nat.eq_zero_or_pos string.length with none | some
      · exact .inl none
      · have single : width = 1 := by
          have : width ≤ 1 := Nat.le_of_mul_le_mul_left (by omega) some
          omega
        subst single
        exact .inr ⟨rfl, by omega⟩
    · rintro (none | ⟨rfl, short⟩) capacity rest fits
      · have empty : string.data = [] := by simpa [none] using sized
        simp [none, empty, readRawData]
      · have whole : string.length = string.data.length := by omega
        rw [Nat.mod_eq_of_lt short, Nat.div_one, Nat.min_eq_left fits, if_neg (by omega)]
        rw [whole, readRawData_append, Option.map_some]

def wide : StringWrapper 2 := ⟨2, [1, 0, 2, 0], rfl⟩

/-- The length is taken for a number of bytes. -/
theorem wide_comes_back_short :
    deserializeObject 2 2 wide.serializeString = some (1, [1, 0], [2, 0]) := by decide

theorem roundTrip_iff_narrow :
    deserializeObject 1 2 ((⟨2, [1, 2], rfl⟩ : StringWrapper 1).serializeString ++ [7]) =
      some (2, [1, 2], [7]) :=
  ((roundTrip_iff ⟨2, [1, 2], rfl⟩ (by decide)).2.2 (.inr (by decide))) 2 [7] (by decide)

end StringWrapper
end NativeLibs.Vr
