import NativeLibs.Binder.ParcelCalls

/-! # Writing values to the end of a parcel

A parcel that has only been written holds the bytes of its values, one piece after the other,
as long as there is a buffer for each piece. -/

namespace NativeLibs.Binder

open Bytes (Memory store load)
open List Bytes

namespace Parcel

variable {p next : Parcel} {heap more : Heap} {bytes piece : List UInt8} {len : Nat}

/-! ## Buffers -/

def bufferFor (size capacity len : Nat) : Option Nat :=
  if size + len ≤ capacity then some capacity
  else if max ((size + len) * 3 / 2) 128 ≤ int32Max then some (max ((size + len) * 3 / 2) 128)
  else none

def bufferAfter (size capacity : Nat) : List Nat → Option Nat
  | [] => some capacity
  | len :: rest => (bufferFor size capacity len).bind fun larger =>
    bufferAfter (size + len) larger rest

lemma bufferAfter_append (size cap : Nat) (lengths rest : List Nat) :
    bufferAfter size cap (lengths ++ rest) =
      (bufferAfter size cap lengths).bind fun larger =>
        bufferAfter (size + lengths.sum) larger rest := by
  induction lengths generalizing size cap with
  | nil => simp [bufferAfter]
  | cons len lengths ih =>
    simp only [cons_append, bufferAfter, Option.bind_assoc, ih, sum_cons, Nat.add_assoc]

lemma length_pos_of_bufferFor (mem : size ≤ cap)
    (refused : bufferFor size cap len = none) : 0 < len := by
  rcases Nat.eq_zero_or_pos len with rfl | pos
  · rw [bufferFor, if_pos (by omega)] at refused
    cases refused
  · exact pos

/-! ## The data of a parcel -/

/-- The bytes are the data of the parcel, and its position is at their end. -/
structure Holds (parcel : Parcel) (bytes : List UInt8) : Prop where
  unowned : parcel.hasOwner = false
  tableless : parcel.mObjects = []
  position : parcel.mDataPos = bytes.length
  size : parcel.mDataSize = bytes.length
  data : load parcel.mData 0 bytes.length = bytes
  fits : bytes.length ≤ parcel.mDataCapacity
  bounded : parcel.mDataCapacity ≤ int32Max
  empty : parcel.allocated = false → parcel.mDataCapacity = 0

lemma holds_initState : initState.Holds [] :=
  ⟨rfl, rfl, rfl, rfl, rfl, Nat.le_refl 0, by decide, fun _ => rfl⟩

/-- A piece of data has been written behind the other data. -/
structure Stored (parcel : Parcel) (bytes piece : List UInt8) (next : Parcel) : Prop where
  buffer : bufferFor bytes.length parcel.mDataCapacity piece.length = some next.mDataCapacity
  holds : next.Holds (bytes ++ piece)

section

variable (holds : p.Holds bytes)
include holds

lemma Holds.grown (past : p.mDataCapacity < desired) (small : desired ≤ int32Max)
    (grown : p.Grown desired next) : next.Holds bytes ∧ next.mDataCapacity = desired := by
  have win : bytes.length ≤ desired := Nat.le_trans holds.fits (Nat.le_of_lt past)
  cases grown with
  | takenOver owned => exact absurd owned (by simp [holds.unowned])
  | reallocated unowned given larger garbage =>
    refine ⟨⟨unowned, holds.tableless, holds.position, holds.size, ?_, win, small, ?_⟩, rfl⟩
    · have same : load (copied p.mDataCapacity p.mData garbage) 0 bytes.length =
          load p.mData 0 bytes.length := by
        apply load_congr
        intro i _ before
        have fits := holds.fits
        rw [copied, if_pos (by omega)]
      exact same.trans holds.data
    · exact fun free => Bool.noConfusion (given.symm.trans free)
  | kept _ _ suff => exact absurd suff (Nat.not_le.2 past)
  | first unowned free garbage =>
    have none : bytes = [] := by
      have fits := holds.fits
      rw [holds.empty free] at fits
      exact eq_nil_of_length_eq_zero (Nat.le_zero.1 fits)
    subst none
    exact ⟨⟨unowned, holds.tableless, rfl, rfl, rfl, win, small, nofun⟩, rfl⟩

lemma Holds.wantedSize (len : Nat) :
    p.wantedSize len = max ((bytes.length + len) * 3 / 2) 128 := by
  rw [Parcel.wantedSize, grownSize, holds.size]

lemma Holds.roomless (memory : heap.data = true) (full : p.Roomless len heap next) :
    bufferFor bytes.length p.mDataCapacity len = none ∧ next = p := by
  cases full with
  | refused past cannot =>
    rw [holds.position] at past
    have big : ¬ max ((bytes.length + len) * 3 / 2) 128 ≤ int32Max := by
      intro small
      apply cannot
      refine ⟨?_, holds.wantedSize len ▸ small⟩
      have fits := holds.fits
      rw [grownSize, holds.size]
      omega
    exact ⟨by rw [bufferFor, if_neg (Nat.not_le.2 past), if_neg big], rfl⟩
  | outOfMemory cause => exact absurd cause (by simp [memory, holds.unowned])

lemma Holds.roomy (roomy : p.Roomy len ready) :
    bufferFor bytes.length p.mDataCapacity len = some ready.mDataCapacity ∧
      ready.Holds bytes ∧ bytes.length + len ≤ ready.mDataCapacity := by
  cases roomy with
  | before fits =>
    rw [holds.position] at fits
    exact ⟨by rw [bufferFor, if_pos fits], holds, fits⟩
  | grown past can grown =>
    have small := can.2
    rw [holds.position] at past
    rw [holds.wantedSize] at grown small
    have larger : bytes.length + len ≤ max ((bytes.length + len) * 3 / 2) 128 := by omega
    rcases holds.grown (Nat.lt_of_lt_of_le past larger) small grown with ⟨still, cap⟩
    refine ⟨?_, still, cap ▸ larger⟩
    rw [bufferFor, if_neg (Nat.not_le.2 past), if_pos small, cap]

lemma Holds.stored (fits : bytes.length + piece.length ≤ p.mDataCapacity) : { p with
      mData := store p.mData bytes.length piece
      mDataPos := p.mDataPos + piece.length
      mDataSize := max p.mDataSize (p.mDataPos + piece.length) }.Holds
        (bytes ++ piece) := by
  refine ⟨holds.unowned, holds.tableless, ?_, ?_, ?_, ?_, holds.bounded, holds.empty⟩
  · simp [holds.position]
  · simp [holds.position, holds.size]
  · rw [length_append, load_add, Nat.zero_add,
      load_store_apart (.inl (by omega)), holds.data, load_store]
  · simpa using fits

lemma Holds.writeAligned (memory : heap.data = true) (v : Aligned) :
    (bufferFor bytes.length p.mDataCapacity v.bytes.length = none ∧
        ∃ stat, stat ≠ .noError ∧ p.writeAligned v heap = (stat, p)) ∨
      ∃ next, p.writeAligned v heap = (.noError, next) ∧ p.Stored bytes v.bytes next := by
  rw [writeAligned_eq]
  rcases p.afterRoom_next v.bytes.length heap fun ready => ready.put v.bytes with
    ⟨bad, full⟩ | ⟨ready, roomy, done⟩
  · rcases holds.roomless memory full with ⟨refused, same⟩
    exact .inl ⟨refused, _, bad, Prod.ext rfl same⟩
  · rcases holds.roomy roomy with ⟨buffer, readyHolds, fits⟩
    have short : v.bytes.length ≤ int32Max := by
      have bound := readyHolds.bounded
      omega
    have still := readyHolds.stored fits
    rw [← readyHolds.position] at still
    rw [done, put, finishWrite_eq _ short]
    exact .inr ⟨_, rfl, buffer, still⟩

end

/-! ## Padded pieces -/

def padded (bytes : List UInt8) : List UInt8 :=
  bytes ++ replicate (padSize bytes.length - bytes.length) 0

@[simp] lemma length_padded (bytes : List UInt8) :
    (padded bytes).length = padSize bytes.length := by
  have cov : bytes.length ≤ padSize bytes.length := by
    unfold padSize
    omega
  simp [padded, Nat.add_sub_cancel' cov]

lemma Holds.writeInplace (holds : p.Holds bytes) (memory : heap.data = true) (body : List UInt8) :
    (bufferFor bytes.length p.mDataCapacity (padSize body.length) = none ∧
        p.writeInplace body.length heap = (none, p)) ∨
      ∃ claimed, (p.writeInplace body.length heap = (some bytes.length, claimed) ∨
          body = [] ∧ p.writeInplace body.length heap = (none, claimed)) ∧
        p.Stored bytes (padded body)
          { claimed with mData := store claimed.mData bytes.length body } := by
  rcases p.writeInplace_next body.length heap with
    ⟨outside, res⟩ | ⟨next, full, res⟩ | ⟨_, ready, roomy, res⟩
  · refine .inl ⟨?_, res⟩
    have bound := holds.bounded
    have fits := holds.fits
    have maximum : int32Max < 2 ^ 63 := by decide
    have tooLong : int32Max < padSize body.length := by
      rw [holds.position] at outside
      unfold padSize at outside ⊢
      omega
    rw [bufferFor, if_neg (by omega), if_neg (by omega)]
  · rcases holds.roomless memory full with ⟨refused, rfl⟩
    exact .inl ⟨refused, res⟩
  · rcases holds.roomy roomy with ⟨buffer, readyHolds, fits⟩
    have short : padSize body.length ≤ int32Max := by
      have bound := readyHolds.bounded
      omega
    have claim := ready.claim_eq short
    refine .inr ⟨(ready.claim body.length).2, ?_, ?_⟩
    · rw [res, readyHolds.position]
      cases given : ready.allocated with
      | true => exact .inl rfl
      | false =>
        have none : body.length = 0 := by
          have empty := readyHolds.empty given
          unfold padSize at fits
          omega
        exact .inr ⟨eq_nil_of_length_eq_zero none, rfl⟩
    · rw [← length_padded] at buffer fits
      have still := readyHolds.stored fits
      rw [length_padded, padded, ← store_append, ← store_comm (Nat.le_refl _),
        readyHolds.position] at still
      rw [claim, readyHolds.position]
      exact ⟨buffer, still⟩

/-! ## Sequences of pieces -/

/-- Pieces of data have been written one after the other: all of them, or, if there is no
buffer for one of them, less. -/
structure Wrote (parcel : Parcel) (bytes : List UInt8) (pieces : List (List UInt8))
    (next : Parcel) (written : List UInt8) : Prop where
  holds : next.Holds written
  stored : ∀ capacity,
    bufferAfter bytes.length parcel.mDataCapacity (pieces.map length) = some capacity →
      written = bytes ++ pieces.flatten ∧ next.mDataCapacity = capacity
  refused : bufferAfter bytes.length parcel.mDataCapacity (pieces.map length) = none →
    written.length < bytes.length + pieces.flatten.length

section Sequences

variable {pieces rest : List (List UInt8)} {written : List UInt8}

lemma Wrote.length_le (wrote : p.Wrote bytes pieces next written) :
    written.length ≤ bytes.length + pieces.flatten.length := by
  cases buffer : bufferAfter bytes.length p.mDataCapacity (pieces.map length) with
  | none => exact Nat.le_of_lt (wrote.refused buffer)
  | some cap => simp [(wrote.stored cap buffer).1]

lemma Wrote.append {some : List UInt8} (first : p.Wrote bytes pieces mid some)
    (second : mid.Wrote some rest next written) : p.Wrote bytes (pieces ++ rest) next written := by
  have bufs := bufferAfter_append bytes.length p.mDataCapacity (pieces.map List.length)
    (rest.map List.length)
  rw [← List.map_append] at bufs
  have length := second.length_le
  cases met : bufferAfter bytes.length p.mDataCapacity (pieces.map List.length) with
  | none =>
    rw [met, Option.bind_none] at bufs
    have less := first.refused met
    refine ⟨second.holds, fun cap all => ?_, fun _ => ?_⟩
    · rw [bufs] at all
      cases all
    · rw [List.flatten_append, List.length_append]
      omega
  | some cap =>
    rcases first.stored cap met with ⟨rfl, rfl⟩
    have same : bytes.length + (pieces.map List.length).sum = (bytes ++ pieces.flatten).length := by
      rw [List.length_append, List.length_flatten]
    rw [met, Option.bind_some, same] at bufs
    rw [List.length_append] at length
    refine ⟨second.holds, fun larger all => ?_, fun none => ?_⟩
    · rw [bufs] at all
      rw [List.flatten_append, ← List.append_assoc]
      exact second.stored larger all
    · rw [bufs] at none
      have less := second.refused none
      rw [List.length_append] at less
      rw [List.flatten_append, List.length_append]
      omega

lemma Stored.wrote (stored : p.Stored bytes piece next) :
    p.Wrote bytes [piece] next (bytes ++ piece) := by
  have buffer : bufferAfter bytes.length p.mDataCapacity [piece.length] =
      some next.mDataCapacity := by
    rw [bufferAfter, stored.buffer]
    rfl
  refine ⟨stored.holds, fun cap all => ?_, fun none => ?_⟩
  · rw [map_singleton, buffer] at all
    cases all
    exact ⟨by simp, rfl⟩
  · rw [map_singleton, buffer] at none
    cases none

lemma Holds.refused (holds : p.Holds bytes)
    (refused : bufferFor bytes.length p.mDataCapacity piece.length = none) :
    p.Wrote bytes (piece :: rest) p bytes := by
  have buffer : bufferAfter bytes.length p.mDataCapacity
      ((piece :: rest).map length) = none := by
    rw [map_cons, bufferAfter, refused]
    rfl
  refine ⟨holds, fun cap all => ?_, fun _ => ?_⟩
  · rw [buffer] at all
    cases all
  · have positive := length_pos_of_bufferFor holds.fits refused
    rw [flatten_cons, length_append]
    omega

end Sequences

/-! ## The writers -/

def Value.pieces : Value → List (List UInt8)
  | .int32 val => [encode 4 val.toNat]
  | .uint32 val => [encode 4 val.toNat]
  | .int64 val => [encode 8 val.toNat]
  | .bool val => [encode 4 (if val then 1 else 0 : BitVec 32).toNat]
  | .byte val => [encode 4 (val.signExtend 32).toNat]
  | .char val => [encode 4 (val.setWidth 32).toNat]
  | .string8 str => [encode 4 (BitVec.ofNat 32 str.length).toNat, padded (str ++ [0])]
  | .string16 str =>
    [encode 4 (BitVec.ofNat 32 str.length).toNat, padded (charBytes str ++ [0, 0])]
  | .nullableString16 none => [encode 4 kNullVectorSize.toNat]
  | .nullableString16 (some str) =>
    [encode 4 (BitVec.ofNat 32 str.length).toNat, padded (charBytes str ++ [0, 0])]
  | .byteVector val => [encode 4 (BitVec.ofNat 32 val.length).toNat, padded val]
  | .buffer data => [padded data]

section

variable (holds : p.Holds bytes)
include holds

lemma Holds.aligned_wrote (memory : heap.data = true) (v : Aligned) :
    ∃ written, p.Wrote bytes [v.bytes] (p.writeAligned v heap).2 written := by
  rcases holds.writeAligned memory v with ⟨refused, stat, _, res⟩ | ⟨next, res, stored⟩
  · rw [res]
    exact ⟨bytes, holds.refused refused⟩
  · rw [res]
    exact ⟨_, stored.wrote⟩

lemma Holds.write_wrote (memory : heap.data = true) {data : List UInt8}
    (short : data.length ≤ int32Max) :
    ∃ written, p.Wrote bytes [padded data] (p.write data heap).2 written := by
  rw [Parcel.write, if_neg (Nat.not_lt.2 short)]
  rcases holds.writeInplace memory data with ⟨refused, res⟩ | ⟨claimed, res, stored⟩
  · rw [res]
    rw [← length_padded] at refused
    exact ⟨bytes, holds.refused refused⟩
  · rcases res with res | ⟨rfl, res⟩
    · rw [res]
      exact ⟨_, stored.wrote⟩
    · rw [res]
      rw [store_nil] at stored
      exact ⟨_, stored.wrote⟩

lemma Holds.text_wrote (memory : heap.data = true) (moreMemory : more.data = true) (len : Nat)
    (str term : List UInt8) (terminated : term ≠ []) : ∃ written, p.Wrote bytes
      [encode 4 (BitVec.ofNat 32 len).toNat, padded (str ++ term)]
      (p.writeText len str term heap more).2 written := by
  unfold writeText writeInt32
  rcases holds.writeAligned memory (.word (.ofNat 32 len)) with
    ⟨refused, stat, bad, res⟩ | ⟨sized, res, stored⟩
  · rw [res]
    have wrote : p.Wrote bytes
        [encode 4 (BitVec.ofNat 32 len).toNat, padded (str ++ term)] p bytes :=
      holds.refused refused
    cases stat with
    | noError => exact absurd rfl bad
    | _ => exact ⟨bytes, wrote⟩
  · rw [res]
    have first := stored.wrote
    dsimp only
    rw [← length_append]
    rcases stored.holds.writeInplace moreMemory (str ++ term) with
      ⟨refused, claim⟩ | ⟨claimed, claim, both⟩
    · rw [claim]
      rw [← length_padded] at refused
      exact ⟨_, first.append (stored.holds.refused refused)⟩
    · rcases claim with claim | ⟨none, _⟩
      · rw [claim]
        dsimp only
        rw [store_append]
        exact ⟨_, first.append both.wrote⟩
      · exact absurd none (by simp [terminated])

lemma Holds.writeValue {write : ValueWrite} (memory : write.heap.data = true)
    (moreMemory : write.more.data = true) (short : write.value.length ≤ int32Max) :
    ∃ written, p.Wrote bytes write.value.pieces (p.writeValue write).2 written := by
  rcases write with ⟨v, heap, more⟩
  cases v with
  | int32 val => exact holds.aligned_wrote memory (.word val)
  | uint32 val => exact holds.aligned_wrote memory (.word val)
  | int64 val => exact holds.aligned_wrote memory (.long val)
  | bool val => exact holds.aligned_wrote memory (.word (if val then 1 else 0))
  | byte val => exact holds.aligned_wrote memory (.word (val.signExtend 32))
  | char val => exact holds.aligned_wrote memory (.word (val.setWidth 32))
  | string8 str => exact holds.text_wrote memory moreMemory str.length str [0] (by simp)
  | string16 str => exact holds.text_wrote memory moreMemory str.length (charBytes str) [0, 0] (by simp)
  | nullableString16 str =>
    cases str with
    | none => exact holds.aligned_wrote memory (.word kNullVectorSize)
    | some str =>
      exact holds.text_wrote memory moreMemory str.length (charBytes str) [0, 0] (by simp)
  | byteVector val =>
    rcases holds.aligned_wrote memory (.word (.ofNat 32 val.length)) with ⟨sized, first⟩
    rcases first.holds.write_wrote moreMemory short with ⟨written, second⟩
    have taken : ¬ val.length > int32Max := Nat.not_lt.2 short
    simp only [Parcel.writeValue, writeByteVector, if_neg taken]
    exact ⟨written, first.append second⟩
  | buffer data => exact holds.write_wrote memory short

lemma Holds.writeValues
    (memory : ∀ write ∈ writes, write.heap.data = true ∧ write.more.data = true)
    (short : ∀ write ∈ writes, write.value.length ≤ int32Max) :
    ∃ written, p.Wrote bytes (writes.flatMap fun write => write.value.pieces)
      (p.writeValues writes) written := by
  induction writes generalizing p bytes with
  | nil =>
    refine ⟨bytes, holds, fun cap all => ?_, nofun⟩
    cases all
    exact ⟨by simp, rfl⟩
  | cons write rest ih =>
    have available := memory write (mem_cons_self ..)
    rcases holds.writeValue available.1 available.2 (short write (mem_cons_self ..)) with
      ⟨some, first⟩
    rcases ih first.holds (fun later mem => memory later (mem_cons_of_mem _ mem))
      (fun later mem => short later (mem_cons_of_mem _ mem)) with ⟨written, second⟩
    rw [flatMap_cons]
    exact ⟨written, first.append second⟩

end

end Parcel

end NativeLibs.Binder
