import NativeLibs.Binder.ParcelAppend
import NativeLibs.Binder.ParcelCapacity

/-! # Reading values back

The values that have been written to a fresh parcel are read back from its beginning exactly
if there was a buffer for each piece of them. -/

namespace NativeLibs.Binder

open Bytes (Memory store load)
open List
open Bytes (decode load_add encode length_encode ofNat_decode_encode decode_replicate_zero loadWords loadWords_encode)

namespace Parcel

variable {p next : Parcel}

/-! ## Reads without objects -/

def advance (parcel : Parcel) (len : Nat) : Parcel :=
  { parcel with mDataPos := parcel.mDataPos + len }

section

variable (noTab : p.mObjects = [])
include noTab

lemma readRange_tableless (len : Nat) : p.readRange len = (.ok p.mDataPos, p.advance len) := by
  simp [readRange, noTab, advance]

lemma readAligned_tableless (size : Nat) : p.readAligned size =
      if p.mDataPos + size ≤ p.mDataSize then (.ok (load p.mData p.mDataPos size), p.advance size)
      else (.error .notEnoughData, p) := by
  rw [readAligned, readRange_tableless noTab]

lemma readInt32_tableless : p.readInt32 = if p.mDataPos + 4 ≤ p.mDataSize then
        (.ok (BitVec.ofNat 32 (decode (load p.mData p.mDataPos 4))), p.advance 4)
      else (.error .notEnoughData, p) := by
  rw [readInt32, readAligned_tableless noTab]
  split_ifs <;> rfl

lemma readInplace_tableless (len : Nat) : p.readInplace len = if len > int32Max then (none, p)
      else if p.mDataPos + padSize len < 2 ^ 64 ∧ p.mDataPos + padSize len ≤ p.mDataSize then
        (if p.allocated then some p.mDataPos else none, p.advance (padSize len))
      else (none, p) := by
  rw [readInplace, readRange_tableless noTab]

lemma read_tableless (len : Nat) : p.read len = if len > int32Max then (.error .badValue, p)
      else if p.mDataPos + padSize len < 2 ^ 64 ∧ p.mDataPos + padSize len ≤ p.mDataSize then
        (.ok (load p.mData p.mDataPos len), p.advance (padSize len))
      else (.error .notEnoughData, p) := by
  rw [Parcel.read, readRange_tableless noTab]

end

/-! ## What is left to read -/

/-- The bytes are the rest of the data, from the position on. -/
structure Ahead (parcel : Parcel) (bytes : List UInt8) : Prop where
  tableless : parcel.mObjects = []
  ends : parcel.mDataPos + bytes.length = parcel.mDataSize
  data : load parcel.mData parcel.mDataPos bytes.length = bytes
  bounded : parcel.mDataSize ≤ int32Max
  allocated : 0 < parcel.mDataSize → parcel.allocated = true

lemma Ahead.advance (ahead : p.Ahead (piece ++ rest)) :
    load p.mData p.mDataPos piece.length = piece ∧ (p.advance piece.length).Ahead rest := by
  have ends := ahead.ends
  have data := ahead.data
  rw [length_append] at ends data
  rw [load_add] at data
  rcases append_inj data (by simp) with ⟨first, later⟩
  refine ⟨first, ahead.tableless, ?_, later, ahead.bounded, ahead.allocated⟩
  simp only [Parcel.advance]
  omega

lemma Ahead.readAligned (ahead : p.Ahead (piece ++ rest)) :
    p.readAligned piece.length = (.ok piece, p.advance piece.length) := by
  have ends := ahead.ends
  rw [length_append] at ends
  rw [readAligned_tableless ahead.tableless, if_pos (by omega), ahead.advance.1]

lemma Ahead.readInt32 (ahead : p.Ahead (encode 4 v.toNat ++ rest)) :
    p.readInt32 = (.ok v, p.advance 4) := by
  have algn := ahead.readAligned
  rw [length_encode] at algn
  rw [Parcel.readInt32, algn]
  have whole : 2 ^ 32 = 256 ^ 4 := by decide
  simp only [Except.map, ofNat_decode_encode whole]

section

variable (ahead : p.Ahead (padded piece ++ rest))
include ahead

lemma Ahead.paddedPiece : (piece.length ≤ int32Max ∧ p.mDataPos + padSize piece.length < 2 ^ 64 ∧
        p.mDataPos + padSize piece.length ≤ p.mDataSize) ∧
      load p.mData p.mDataPos piece.length = piece ∧
      (p.advance (padSize piece.length)).Ahead rest := by
  have ends := ahead.ends
  have bound := ahead.bounded
  have maximum : int32Max < 2 ^ 64 := by decide
  rcases ahead.advance with ⟨first, later⟩
  rw [length_padded] at first later
  rw [length_append, length_padded] at ends
  have cov : piece.length + (padSize piece.length - piece.length) = padSize piece.length := by
    unfold padSize
    omega
  refine ⟨⟨by omega, by omega, by omega⟩, ?_, later⟩
  rw [← cov, load_add, padded] at first
  exact (append_inj first (by simp)).1

lemma Ahead.readInplace (started : 0 < p.mDataSize) : p.readInplace piece.length =
      (some p.mDataPos, p.advance (padSize piece.length)) := by
  rcases ahead.paddedPiece.1 with ⟨short, noWrap, mem⟩
  rw [readInplace_tableless ahead.tableless, if_neg (Nat.not_lt.2 short),
    if_pos ⟨noWrap, mem⟩, if_pos (ahead.allocated started)]

lemma Ahead.read : p.read piece.length = (.ok piece, p.advance (padSize piece.length)) := by
  rcases ahead.paddedPiece with ⟨⟨short, noWrap, mem⟩, data, _⟩
  rw [read_tableless ahead.tableless, if_neg (Nat.not_lt.2 short), if_pos ⟨noWrap, mem⟩, data]

end

/-! ## Numbers of characters -/

lemma toNat_ofNat_length (short : len < int32Max) : (BitVec.ofNat 32 len).toNat = len := by
  rw [BitVec.toNat_ofNat]
  exact Nat.mod_eq_of_lt (Nat.lt_trans short (by decide))

lemma toInt_ofNat_length (short : len < int32Max) : (BitVec.ofNat 32 len).toInt = len := by
  have v := toNat_ofNat_length short
  have half : 2 * (BitVec.ofNat 32 len).toNat < 2 ^ 32 := by
    unfold int32Max at short
    omega
  rw [BitVec.toInt_eq_toNat_of_lt half, v]

lemma Ahead.readTextInplace (short : len < int32Max) {str : List UInt8}
    (length : str.length = len * width) (ahead : p.Ahead (encode 4 (BitVec.ofNat 32 len).toNat ++
      (padded (str ++ replicate width 0) ++ rest))) :
    ∃ next, p.readTextInplace width = (some (p.mDataPos + 4, len), next) ∧
      next.Ahead rest ∧ load next.mData (p.mDataPos + 4) (len * width) = str ∧
      next.mDataPos = p.mDataPos + 4 + padSize (str.length + width) := by
  have first := ahead.readInt32
  have later := ahead.advance.2
  rw [length_encode] at later
  have started : 0 < (p.advance 4).mDataSize := by
    have ends := later.ends
    rw [← ends]
    simp only [Parcel.advance]
    omega
  have text := later.readInplace started
  rcases later.paddedPiece with ⟨_, data, final⟩
  rw [length_append, length_replicate] at text data final
  have both : (len + 1) * width = str.length + width := by rw [length, Nat.add_mul, Nat.one_mul]
  rw [load_add] at data
  rcases append_inj data (by simp) with ⟨characters, term⟩
  rw [length] at characters term
  have ended : decode (load (p.advance 4).mData
      ((p.advance 4).mDataPos + len * width) width) = 0 := by
    rw [term, decode_replicate_zero]
  refine ⟨_, ?_, final, characters, rfl⟩
  unfold Parcel.readTextInplace readInt32OrZero
  rw [first]
  dsimp only
  rw [toInt_ofNat_length short, toNat_ofNat_length short, if_pos (by omega), both, text]
  exact if_pos ended

/-! ## The readers -/

def Reads {Result : Type} (parcel : Parcel) (result : Except ParcelStatus Result × Parcel)
    (value : Result) (count : Nat) (rest : List UInt8) : Prop :=
  ∃ next, result = (.ok value, next) ∧ next.Ahead rest ∧ next.mDataPos = parcel.mDataPos + count

lemma Reads.map {v : Result} {count : Nat} (reads : p.Reads res v count rest)
    (converted : convert v = other) : p.Reads (res.1.map convert, res.2) other count rest := by
  rcases reads with ⟨next, rfl, later, pos⟩
  exact ⟨next, by rw [← converted]; rfl, later, pos⟩

lemma length_charBytes (str : List (BitVec 16)) : (charBytes str).length = str.length * 2 := by
  induction str with
  | nil => rfl
  | cons char rest ih =>
    rw [charBytes, flatMap_cons, length_append, length_encode]
    rw [charBytes] at ih
    rw [ih, length_cons]
    omega

lemma loadWords_charBytes (held : load memory addr (str.length * 2) = charBytes str) :
    (loadWords memory addr 2 str.length).map (BitVec.ofNat 16) = str := by
  have words : loadWords memory addr 2 (str.map BitVec.toNat).length = str.map BitVec.toNat := by
    apply loadWords_encode
    · intro v mem
      rcases mem_map.1 mem with ⟨char, _, rfl⟩
      exact char.isLt
    · rw [length_map, Nat.mul_comm, held, charBytes, flatMap_map]
  rw [length_map] at words
  rw [words, map_map]
  simp [Function.comp_def]

lemma Ahead.readString16 (short : str.length < int32Max)
    (ahead : p.Ahead (encode 4 (BitVec.ofNat 32 str.length).toNat ++
      (padded (charBytes str ++ [0, 0]) ++ rest))) :
    p.Reads p.readString16 str (4 + padSize (charBytes str ++ [0, 0]).length) rest := by
  rcases ahead.readTextInplace short (length_charBytes str) with
    ⟨next, read, final, characters, pos⟩
  refine ⟨next, ?_, final, by simpa [Nat.add_assoc] using pos⟩
  rw [Parcel.readString16, read]
  simp only [loadWords_charBytes characters]

lemma Ahead.number (ahead : p.Ahead (encode 4 word.toNat ++ rest)) :
    p.Reads p.readInt32 word 4 rest := by
  have later := ahead.advance.2
  rw [length_encode] at later
  exact ⟨_, ahead.readInt32, later, rfl⟩

lemma Ahead.readByteVector (short : val.length < int32Max)
    (ahead : p.Ahead (encode 4 (BitVec.ofNat 32 val.length).toNat ++ (padded val ++ rest))) :
    p.Reads p.readByteVector val (4 + padSize val.length) rest := by
  have first := ahead.readInt32
  have later := ahead.advance.2
  rw [length_encode] at later
  rcases later.paddedPiece with ⟨⟨_, _, mem⟩, data, final⟩
  have met : 4 ≤ (p.advance 4).mDataPos := Nat.le_add_left 4 _
  have vector := later.readInplace (by omega)
  have available : ¬ val.length > (p.advance 4).dataAvail := by
    have cov : val.length ≤ padSize val.length := by
      unfold padSize
      omega
    unfold dataAvail dataSize
    split_ifs <;> omega
  refine ⟨_, ?_, final, Nat.add_assoc _ _ _⟩
  rw [Parcel.readByteVector, first]
  dsimp only
  rw [toInt_ofNat_length short, toNat_ofNat_length short, if_neg (by omega), if_neg available,
    vector]
  exact congrArg (fun bytes => (Except.ok bytes, _)) data

lemma Ahead.readValue (short : v.length < int32Max)
    (ahead : p.Ahead (v.pieces.flatten ++ rest)) :
    p.Reads (p.readValue v.type) v v.pieces.flatten.length rest := by
  cases v with simp only [Value.pieces, flatten_cons, flatten_nil, append_nil, append_assoc]
    at ahead
  | int32 val => exact ahead.number.map rfl
  | uint32 val =>
    have read : p.Reads p.readUint32 val 4 rest := ahead.number
    exact read.map rfl
  | int64 val =>
    have read : p.Reads (p.readAligned 8) (encode 8 val.toNat) 8 rest :=
      ⟨_, ahead.readAligned, ahead.advance.2, rfl⟩
    exact (read.map (ofNat_decode_encode (by decide) val)).map rfl
  | bool val => cases val <;> exact (ahead.number.map rfl).map rfl
  | byte val =>
    have same : (val.signExtend 32).setWidth 8 = val := by
      ext i bound
      have small : i < 32 := by omega
      simp [BitVec.getElem_signExtend, bound, small]
    exact (ahead.number.map same).map rfl
  | char val =>
    have same : (val.setWidth 32).setWidth 16 = val := by
      rw [BitVec.setWidth_setWidth_of_le _ (by decide), BitVec.setWidth_eq]
    exact (ahead.number.map same).map rfl
  | string8 str =>
    rcases ahead.readTextInplace short (Nat.mul_one _).symm with
      ⟨next, read, later, characters, pos⟩
    rw [Nat.mul_one] at characters
    refine ⟨next, ?_, later, ?_⟩
    · simp only [Parcel.readValue, Value.type, readString8, read, characters, Except.map]
    · simp [Value.pieces, pos, Nat.add_assoc]
  | string16 str =>
    have count : (Value.string16 str).pieces.flatten.length =
        4 + padSize (charBytes str ++ [0, 0]).length := by simp [Value.pieces]
    rw [count]
    exact (ahead.readString16 short).map rfl
  | nullableString16 str =>
    cases str with simp only [flatten_cons, flatten_nil, append_nil, append_assoc] at ahead
    | none =>
      rcases ahead.number with ⟨next, read, later⟩
      refine ⟨next, ?_, later⟩
      simp [Parcel.readValue, Value.type, readNullableString16, read, Except.map]
    | some str =>
      have notNull : BitVec.ofNat 32 str.length ≠ kNullVectorSize := by
        intro same
        have v : (BitVec.ofNat 32 str.length).toNat = str.length := toNat_ofNat_length short
        have null : kNullVectorSize.toNat = 2 ^ 32 - 1 := by decide
        have bound : str.length < int32Max := short
        rw [same, null] at v
        unfold int32Max at bound
        omega
      -- The reader goes back to the length after it has seen that there is a string.
      have back : ((p.advance 4).setDataPosition p.mDataPos).Ahead
          (encode 4 (BitVec.ofNat 32 str.length).toNat ++
            (padded (charBytes str ++ [0, 0]) ++ rest)) :=
        { ahead with }
      rcases back.readString16 short with ⟨next, read, later, pos⟩
      refine ⟨next, ?_, later, ?_⟩
      · simp only [Parcel.readValue, Value.type, readNullableString16, ahead.readInt32,
          if_neg notNull, read, Except.map]
      · simp [Value.pieces, pos, setDataPosition]
  | byteVector val =>
    have count : (Value.byteVector val).pieces.flatten.length = 4 + padSize val.length := by
      simp [Value.pieces]
    rw [count]
    exact (ahead.readByteVector short).map rfl
  | buffer data =>
    have read : p.Reads (p.read data.length) data (padSize data.length) rest :=
      ⟨_, ahead.read, ahead.paddedPiece.2.2, rfl⟩
    have count : (Value.buffer data).pieces.flatten.length = padSize data.length := by
      simp [Value.pieces]
    rw [count]
    exact read.map rfl

lemma Value.length_pieces (v : Value) : v.pieces.flatten.length % 4 = 0 := by
  have algn : ∀ size, padSize size % 4 = 0 := fun size => Nat.mul_mod_left _ _
  cases v with
  | nullableString16 str => cases str <;> simp [Value.pieces, algn]
  | _ => simp [Value.pieces, algn]

lemma Ahead.readsBack (short : ∀ v ∈ values, v.length < int32Max)
    (algn : p.mDataPos % 4 = 0)
    (ahead : p.Ahead (values.flatMap fun v => v.pieces.flatten)) : p.ReadsBack values := by
  induction values generalizing p with
  | nil =>
    have ends : p.mDataPos = p.mDataSize := ahead.ends
    simp [ReadsBack, dataSize, ends]
  | cons v rest ih =>
    rw [flatMap_cons] at ahead
    rcases ahead.readValue (short v (mem_cons_self ..)) with
      ⟨next, read, later, pos⟩
    have still : next.mDataPos % 4 = 0 := by
      have length := v.length_pieces
      omega
    rw [ReadsBack, read]
    exact ⟨rfl, still, ih (fun other mem => short other (mem_cons_of_mem _ mem)) still later⟩

/-! ## What a successful read has read -/

structure Consumed (parcel next : Parcel) (count : Nat) : Prop where
  position : next.mDataPos = parcel.mDataPos + count
  inside : next.mDataPos ≤ parcel.mDataSize
  size : next.mDataSize = parcel.mDataSize
  tableless : next.mObjects = []

lemma Consumed.trans {count : Nat} (first : p.Consumed mid count)
    (second : mid.Consumed next more) : p.Consumed next (count + more) := by
  refine ⟨?_, first.size ▸ second.inside, second.size.trans first.size, second.tableless⟩
  rw [second.position, first.position, Nat.add_assoc]

section

variable (noTab : p.mObjects = [])
include noTab

lemma consumed_advance (mem : p.mDataPos + len ≤ p.mDataSize) : p.Consumed (p.advance len) len :=
  ⟨rfl, mem, rfl, noTab⟩

lemma readAligned_consumed (read : p.readAligned size = (.ok bytes, next)) :
    p.Consumed next size := by
  rw [readAligned_tableless noTab] at read
  split_ifs at read with mem
  · cases read
    exact consumed_advance noTab mem
  · cases read

lemma readInt32_consumed (read : p.readInt32 = (.ok v, next)) : p.Consumed next 4 := by
  rw [readInt32_tableless noTab] at read
  split_ifs at read with mem
  · cases read
    exact consumed_advance noTab mem
  · cases read

lemma readInplace_consumed (read : p.readInplace len = (some off, next)) :
    p.Consumed next (padSize len) := by
  rw [readInplace_tableless noTab] at read
  split_ifs at read with long mem given
  all_goals cases read
  exact consumed_advance noTab mem.2

lemma read_consumed (read : p.read len = (.ok bytes, next)) : p.Consumed next (padSize len) := by
  rw [read_tableless noTab] at read
  split_ifs at read with long mem
  all_goals cases read
  exact consumed_advance noTab mem.2

def readCharacters (start : Parcel) (size width : Nat) : Option (Nat × Nat) × Parcel :=
  match start.readInplace ((size + 1) * width) with
  | (some str, after) =>
    if decode (load after.mData (str + size * width) width) = 0 then (some (str, size), after)
    else (none, after)
  | (none, after) => (none, after)

lemma readTextInplace_consumed {count : Nat} (pos : 0 < width)
    (read : p.readTextInplace width = (some (off, count), next)) :
    p.Consumed next (4 + padSize ((count + 1) * width)) := by
  have body : ∀ (low : Parcel) (size : Nat), low.mObjects = [] →
      low.readCharacters size width = (some (off, count), next) →
      count = size ∧ low.Consumed next (padSize ((size + 1) * width)) := by
    intro low size startTableless hit
    unfold readCharacters at hit
    rcases res : low.readInplace ((size + 1) * width) with ⟨_ | str, after⟩
    all_goals rw [res] at hit
    · cases hit
    · dsimp only at hit
      split_ifs at hit
      · cases hit
        exact ⟨rfl, readInplace_consumed startTableless res⟩
      · cases hit
  unfold Parcel.readTextInplace readInt32OrZero at read
  rw [readInt32_tableless noTab] at read
  by_cases suff : p.mDataPos + 4 ≤ p.mDataSize
  · rw [if_pos suff] at read
    dsimp only at read
    split_ifs at read
    · rcases body (p.advance 4) _ noTab read with ⟨rfl, text⟩
      exact (consumed_advance noTab suff).trans text
    · cases read
  · rw [if_neg suff] at read
    dsimp only at read
    split_ifs at read
    · rcases body p _ noTab read with ⟨rfl, text⟩
      have position := text.position
      have mem := text.inside
      have padding : 4 ≤ padSize (((0 : BitVec 32).toNat + 1) * width) := by
        have zero : (0 : BitVec 32).toNat = 0 := rfl
        rw [zero, padSize]
        omega
      omega
    · cases read

end

lemma map_ok (res : Except ParcelStatus α × Parcel)
    (mapped : (res.1.map convert, res.2) = (.ok v, next)) :
    ∃ inner, res = (.ok inner, next) ∧ convert inner = v := by
  rcases res with ⟨_ | inner, after⟩
  · cases mapped
  · cases mapped
    exact ⟨inner, rfl, rfl⟩

lemma mapped_consumed {count : Nat} (res : Except ParcelStatus α × Parcel)
    (mapped : (res.1.map convert, res.2) = (.ok v, next))
    (used : ∀ {inner}, res = (.ok inner, next) → p.Consumed next count) :
    p.Consumed next count := by
  rcases map_ok res mapped with ⟨_, hit, _⟩
  exact used hit

lemma readString16_consumed (noTab : p.mObjects = []) (read : p.readString16 = (.ok str, next)) :
    p.Consumed next (4 + padSize (str.length * 2 + 2)) := by
  unfold Parcel.readString16 at read
  rcases res : p.readTextInplace 2 with ⟨_ | text, after⟩
  all_goals
    rw [res] at read
    cases read
  have used := readTextInplace_consumed noTab (by decide) res
  simpa [Nat.add_mul] using used

lemma readValue_consumed (noTab : p.mObjects = [])
    (read : p.readValue v.type = (.ok v, next)) :
    p.Consumed next v.pieces.flatten.length := by
  have word {α : Type} {convert : BitVec 32 → α} {v : α}
      (read : (p.readInt32.1.map convert, p.readInt32.2) = (.ok v, next)) :
      p.Consumed next 4 :=
    mapped_consumed p.readInt32 read (readInt32_consumed noTab)
  cases v with
  | int32 val => exact word read
  | uint32 val =>
    apply mapped_consumed p.readUint32 read
    exact fun n => mapped_consumed _ n (readAligned_consumed noTab)
  | int64 val =>
    apply mapped_consumed p.readInt64 read
    exact fun n => mapped_consumed _ n (readAligned_consumed noTab)
  | bool val => exact mapped_consumed p.readBool read word
  | byte val => exact mapped_consumed p.readByte read word
  | char val => exact mapped_consumed p.readChar read word
  | string8 str =>
    rcases map_ok p.readString8 read with ⟨_, text, same⟩
    cases same
    unfold readString8 at text
    rcases res : p.readTextInplace 1 with ⟨_ | hit, after⟩
    all_goals
      rw [res] at text
      cases text
    have used := readTextInplace_consumed noTab (by decide) res
    simpa [Value.pieces] using used
  | string16 str =>
    rcases map_ok p.readString16 read with ⟨_, text, same⟩
    cases same
    have used := readString16_consumed noTab text
    simpa [Value.pieces, length_charBytes] using used
  | nullableString16 str =>
    rcases map_ok p.readNullableString16 read with ⟨_, text, same⟩
    cases same
    unfold readNullableString16 at text
    rcases peeked : p.readInt32 with ⟨_ | peek, after⟩
    all_goals rw [peeked] at text
    · cases text
    · have n := readInt32_consumed noTab peeked
      dsimp only at text
      split_ifs at text
      · cases text
        exact n
      · rcases map_ok (after.setDataPosition p.mDataPos).readString16 text with
          ⟨inner, hit, same⟩
        cases same
        have again : (after.setDataPosition p.mDataPos).mObjects = [] := n.tableless
        have used := readString16_consumed again hit
        have back : p.Consumed next (4 + padSize (inner.length * 2 + 2)) :=
          ⟨used.position, n.size ▸ used.inside, used.size.trans n.size, used.tableless⟩
        simpa [Value.pieces, length_charBytes] using back
  | byteVector val =>
    rcases map_ok p.readByteVector read with ⟨_, vector, same⟩
    cases same
    unfold readByteVector at vector
    rcases sized : p.readInt32 with ⟨_ | size, after⟩
    all_goals rw [sized] at vector
    · cases vector
    · have n := readInt32_consumed noTab sized
      dsimp only at vector
      split_ifs at vector
      · cases vector
      · cases vector
      · rcases hit : after.readInplace size.toNat with ⟨_ | off, final⟩
        all_goals
          rw [hit] at vector
          cases vector
        have used := n.trans (readInplace_consumed n.tableless hit)
        simpa [Value.pieces] using used
  | buffer data =>
    rcases map_ok (p.read data.length) read with ⟨_, hit, same⟩
    cases same
    simpa [Value.pieces] using read_consumed noTab hit

lemma ReadsBack.inside (readsBack : p.ReadsBack values) (noTab : p.mObjects = [])
    (win : p.mDataPos ≤ p.mDataSize) :
    p.mDataPos + (values.flatMap fun v => v.pieces.flatten).length ≤ p.mDataSize := by
  induction values generalizing p with
  | nil => simpa using win
  | cons v rest ih =>
    rcases readsBack with ⟨read, _, later⟩
    have used := readValue_consumed noTab (Prod.ext read rfl)
    have further := ih later used.tableless (used.size ▸ used.inside)
    rw [used.position, used.size] at further
    rw [flatMap_cons, length_append]
    omega

/-! ## Writing and reading -/

def Value.sizes : Value → List Nat
  | .int64 _ => [8]
  | .string8 str => [4, padSize (str.length + 1)]
  | .string16 str => [4, padSize (2 * (str.length + 1))]
  | .nullableString16 (some str) => [4, padSize (2 * (str.length + 1))]
  | .byteVector val => [4, padSize val.length]
  | .buffer data => [padSize data.length]
  | _ => [4]

lemma Value.map_length_pieces (v : Value) : v.pieces.map List.length = v.sizes := by
  have doubled : ∀ count : Nat, count * 2 + 2 = 2 * (count + 1) := fun count => by omega
  cases v with
  | nullableString16 str => cases str <;> simp [pieces, sizes, length_charBytes, doubled]
  | _ => simp [pieces, sizes, length_charBytes, doubled]

def HasBuffers (values : List Value) : Prop :=
  (bufferAfter 0 0 (values.flatMap Value.sizes)).isSome = true

instance (values : List Value) : Decidable (HasBuffers values) :=
  inferInstanceAs (Decidable (_ = true))

/-- Values of any types that are written to a fresh parcel are read back from its beginning
exactly if there was a buffer for every piece of them. -/
theorem readsBack_iff_hasBuffers (writes : List ValueWrite)
    (short : ∀ write ∈ writes, write.value.length < int32Max)
    (memory : ∀ write ∈ writes, write.heap.data = true ∧ write.more.data = true) :
    ((initState.writeValues writes).setDataPosition 0).ReadsBack (writes.map (·.value)) ↔
      HasBuffers (writes.map (·.value)) := by
  have notLong : ∀ write ∈ writes, write.value.length ≤ int32Max :=
    fun write mem => Nat.le_of_lt (short write mem)
  rcases holds_initState.writeValues memory notLong with ⟨written, wrote⟩
  have pieces : (writes.flatMap fun write => write.value.pieces).flatten =
      (writes.map (·.value)).flatMap fun value => value.pieces.flatten := by
    simp only [flatMap_def, map_map, flatten_flatten, Function.comp_def]
  have lengths : (writes.flatMap fun write => write.value.pieces).map length =
      (writes.map (·.value)).flatMap Value.sizes := by
    simp only [map_flatMap, flatMap_map, Value.map_length_pieces]
  generalize initState.writeValues writes = parcel at wrote ⊢
  rcases wrote with ⟨holds, stored, refused⟩
  rw [lengths] at stored refused
  rw [pieces] at stored refused
  constructor
  · intro readsBack
    have inside : 0 + _ ≤ parcel.mDataSize := readsBack.inside holds.tableless (Nat.zero_le _)
    cases buffer : bufferAfter 0 0 ((writes.map (·.value)).flatMap Value.sizes) with
    | none =>
      have less := refused buffer
      rw [holds.size] at inside
      exact absurd inside (Nat.not_le.2 less)
    | some cap => simp [HasBuffers, buffer]
  · intro buffers
    rcases Option.isSome_iff_exists.1 buffers with ⟨cap, buffer⟩
    rcases stored cap buffer with ⟨rfl, _⟩
    have ahead : (parcel.setDataPosition 0).Ahead
        ((writes.map (·.value)).flatMap fun value => value.pieces.flatten) := by
      refine ⟨holds.tableless, ?_, holds.data, ?_, fun pos => ?_⟩
      · rw [Nat.add_comm]
        exact holds.size.symm
      · have size : (parcel.setDataPosition 0).mDataSize = _ := holds.size
        rw [size]
        exact Nat.le_trans holds.fits holds.bounded
      · cases given : parcel.allocated with
        | true => exact given
        | false =>
          have none := holds.empty given
          have fits := holds.fits
          rw [none, ← holds.size] at fits
          exact absurd pos (Nat.not_lt.2 fits)
    apply ahead.readsBack
    · intro value mem
      rcases mem_map.1 mem with ⟨write, inside, rfl⟩
      exact short write inside
    · rfl

def mixedWrites : List ValueWrite :=
  [⟨.int32 (-5), plentiful, plentiful⟩, ⟨.nullableString16 none, plentiful, plentiful⟩,
    ⟨.string16 [0x61], plentiful, plentiful⟩, ⟨.byteVector [1, 2, 3], plentiful, plentiful⟩]

theorem readsBack_mixedWrites : ((initState.writeValues mixedWrites).setDataPosition 0).ReadsBack
      (mixedWrites.map (·.value)) :=
  (readsBack_iff_hasBuffers mixedWrites (by decide) (by decide)).2 (by decide)

lemma buffer_lost (short : data.length ≤ int32Max)
    (noBuffer : bufferFor 0 0 (padSize data.length) = none) (heap more : Heap)
    (memory : heap.data = true) :
    initState.writeValue ⟨.buffer data, heap, more⟩ = (.noError, initState) ∧
      ((initState.writeValues [⟨.buffer data, heap, more⟩]).setDataPosition 0).readValue
        (Value.buffer data).type = (.error .notEnoughData, initState.setDataPosition 0) := by
  have no : initState.writeInplace data.length heap = (none, initState) := by
    rcases holds_initState.writeInplace memory data with ⟨_, res⟩ | ⟨claimed, _, stored⟩
    · exact res
    · have buffer := stored.buffer
      rw [length_padded] at buffer
      cases noBuffer.symm.trans buffer
  have lost : initState.writeValue ⟨.buffer data, heap, more⟩ = (.noError, initState) := by
    simp only [writeValue, Parcel.write, if_neg (Nat.not_lt.2 short), no]
    rfl
  have positive := length_pos_of_bufferFor (Nat.le_refl 0) noBuffer
  have missing : ¬ ((initState.setDataPosition 0).mDataPos + padSize data.length < 2 ^ 64 ∧
      (initState.setDataPosition 0).mDataPos + padSize data.length ≤
        (initState.setDataPosition 0).mDataSize) := by
    simp only [setDataPosition, initState]
    omega
  have noTab : (initState.setDataPosition 0).mObjects = [] := rfl
  refine ⟨lost, ?_⟩
  simp only [writeValues, lost, readValue, Value.type, read_tableless noTab,
    if_neg (Nat.not_lt.2 short), if_neg missing, Except.map]

def clearedBuffer (count : Nat) : List UInt8 := replicate count 0

lemma length_clearedBuffer (count : Nat) : (clearedBuffer count).length = count :=
  length_replicate

/-- The size of this buffer is below the largest one, and one and a half times its size is
not. -/
theorem largeBuffer_lost :
    initState.writeValue ⟨.buffer (clearedBuffer 1500000000), plentiful, plentiful⟩ =
        (.noError, initState) ∧
      ((initState.writeValues [⟨.buffer (clearedBuffer 1500000000), plentiful,
        plentiful⟩]).setDataPosition 0).readValue (Value.buffer (clearedBuffer 1500000000)).type =
            (.error .notEnoughData, initState.setDataPosition 0) := by
  apply buffer_lost
  · rw [length_clearedBuffer]
    decide
  · rw [length_clearedBuffer]
    decide
  · rfl

end Parcel

end NativeLibs.Binder
