import NativeLibs.Foundation.Machine
import Mathlib.Data.Nat.Bitwise
import Mathlib.Algebra.Order.Ring.Int

/-! # Broadcast rings

A ring of records in shared memory, with one writer and any number of readers. A reader
checks the header of the ring once, when it imports it; afterwards it trusts only its own
copy of the record size and the record count. -/

namespace NativeLibs.Vr

/-- The widths of `size_t` and of `long`, the word that records are stored in. -/
inductive Platform where
  | ilp32
  | lp64

namespace Platform

def sizeTBits : Platform → Nat
  | ilp32 => 32
  | lp64 => 64

def sizeofLong : Platform → Nat
  | ilp32 => 4
  | lp64 => 8

end Platform

/-- What is known of a ring when it is compiled, as its static assertions admit it: the words
of a record and the traits. A static record count of zero means a dynamic one. -/
structure RingTraits where
  platform : Platform
  recordWords : Nat
  kUseStaticRecordSize : Bool
  kStaticRecordCount : BitVec 32
  kMinRecordCount : Nat
  recordWords_pos : 0 < recordWords
  kMinRecordCount_pos : 1 ≤ kMinRecordCount

def RingTraits.sizeofRecord (traits : RingTraits) : Nat :=
  traits.recordWords * traits.platform.sizeofLong

def sizeofHeader : Nat := 16

def headOffset : Nat := 8

def tailOffset : Nat := 12

def kRecordAlignment : Nat := 8

/-- A ring, with the copies of the record size and the record count that `data_` holds. -/
structure BroadcastRing where
  traits : RingTraits
  dataRecordSize : BitVec 32
  dataRecordCount : BitVec 32

namespace BroadcastRing

variable (ring : BroadcastRing)

def recordSize : BitVec 32 :=
  if ring.traits.kUseStaticRecordSize then BitVec.ofNat 32 ring.traits.sizeofRecord
  else ring.dataRecordSize

def recordCount : BitVec 32 :=
  if ring.traits.kStaticRecordCount ≠ 0 then ring.traits.kStaticRecordCount
  else ring.dataRecordCount

def isPowerOfTwo (size : BitVec 32) : Bool := size &&& (size - 1) == 0

def memorySize : Nat := (ring.recordCount * ring.recordSize).toNat

def geometryFits (mmapSize : Nat) (headerRecordSize headerRecordCount : BitVec 32) : Bool :=
  let wholeSize := (ring.memorySize + sizeofHeader) % 2 ^ ring.traits.platform.sizeTBits
  ring.recordSize == headerRecordSize && ring.recordCount == headerRecordCount &&
    ring.traits.kMinRecordCount ≤ ring.recordCount.toNat &&
    ring.traits.sizeofRecord ≤ ring.recordSize.toNat &&
    ring.recordSize.toNat % kRecordAlignment == 0 && isPowerOfTwo ring.recordCount &&
    ring.memorySize / ring.recordSize.toNat == ring.recordCount.toNat &&
    ring.memorySize ≤ wholeSize && wholeSize ≤ mmapSize

variable (traits : RingTraits) (mmapSize : Nat) (headerRecordSize headerRecordCount : BitVec 32)

/-- `ValidateGeometry`: the ring with the values of the header, and whether they are
sensible. -/
def validateGeometry : BroadcastRing × Bool :=
  let ring := ⟨traits, headerRecordSize, headerRecordCount⟩
  (ring, ring.geometryFits mmapSize headerRecordSize headerRecordCount)

def importAt : BroadcastRing × Bool :=
  if sizeofHeader ≤ mmapSize then
    validateGeometry traits mmapSize headerRecordSize headerRecordCount
  else validateGeometry traits mmapSize 0 0

variable (sequence : BitVec 32)

def sequenceToIndex : BitVec 32 := sequence &&& (ring.recordCount - 1)

variable (index : BitVec 32)

def recordMmapWriter : Nat :=
  sizeofHeader + index.toNat * ring.traits.sizeofRecord

def recordMmapReader : Nat :=
  if ring.traits.kUseStaticRecordSize then ring.recordMmapWriter index
  else sizeofHeader + (index * ring.recordSize).toNat

def wordOffset (word : Nat) : Nat :=
  ring.recordMmapReader (ring.sequenceToIndex sequence) + word * ring.traits.platform.sizeofLong

end BroadcastRing

/-- What the shared memory holds at some time: the counters of the header, and the words of
the records by their offset. -/
structure Memory (Word : Type) where
  head : BitVec 32
  tail : BitVec 32
  word : Nat → Word

inductive Phase (Word : Type) where
  | loadTail
  | loadHead (tail : BitVec 32)
  | copy (head : BitVec 32) (data : List Word)
  | nothing
  | found (data : List Word)
  deriving DecidableEq

structure Reader (Word : Type) where
  sequence : BitVec 32
  phase : Phase Word

namespace Reader

variable {Word : Type} (ring : BroadcastRing) (reader : Reader Word)

/-- The offset and the number of the bytes that are loaded next. After the words of the record
this is `head` again. -/
def access : Option (Nat × Nat) :=
  match reader.phase with
  | .loadTail => some (tailOffset, 4)
  | .loadHead _ => some (headOffset, 4)
  | .copy _ data =>
    if data.length < ring.traits.recordWords then
      some (ring.wordOffset reader.sequence data.length, ring.traits.platform.sizeofLong)
    else some (headOffset, 4)
  | _ => none

/-- `head` has been loaded: the call starts again, ends, or copies a record. -/
def loadedHead (tail head : BitVec 32) : Reader Word :=
  if ring.recordCount < tail - head then { reader with phase := .loadTail }
  else
    let sequence := if tail - head < reader.sequence - head then head else reader.sequence
    if sequence = tail then ⟨sequence, .nothing⟩ else ⟨sequence, .copy head []⟩

def step (memory : Memory Word) : Reader Word :=
  match reader.phase with
  | .loadTail => { reader with phase := .loadHead memory.tail }
  | .loadHead tail => reader.loadedHead ring tail memory.head
  | .copy head data =>
    if data.length < ring.traits.recordWords then
      let value := memory.word (ring.wordOffset reader.sequence data.length)
      { reader with phase := .copy head (data ++ [value]) }
    else if reader.sequence - head < memory.head - head then { reader with phase := .loadTail }
    else { reader with phase := .found data }
  | _ => reader

end Reader

namespace BroadcastRing

variable {ring : BroadcastRing}

/-- What the checks establish, without any wrapping. -/
structure Fits (ring : BroadcastRing) (mmapSize : Nat) : Prop where
  count : 1 ≤ ring.recordCount.toNat
  size : ring.traits.sizeofRecord ≤ ring.recordSize.toNat
  power : ∃ bits, ring.recordCount.toNat = 2 ^ bits
  exact : ring.recordCount.toNat * ring.recordSize.toNat < 2 ^ 32
  inside : sizeofHeader + ring.recordCount.toNat * ring.recordSize.toNat ≤ mmapSize

lemma fits_of_geometryFits
    (fits : ring.geometryFits mmapSize headerRecordSize headerRecordCount = true) :
    ring.Fits mmapSize := by
  simp only [geometryFits, Bool.and_eq_true, decide_eq_true_eq, beq_iff_eq] at fits
  rcases fits with ⟨⟨⟨⟨⟨⟨⟨⟨_, _⟩, atLeast⟩, large⟩, _⟩, power⟩, divides⟩, noWrap⟩, whole⟩
  have count : 1 ≤ ring.recordCount.toNat := ring.traits.kMinRecordCount_pos.trans atLeast
  -- The product divided by the size is the count only if it has not wrapped.
  have product : ring.memorySize = ring.recordCount.toNat * ring.recordSize.toNat := by
    have below : ring.memorySize ≤ ring.recordCount.toNat * ring.recordSize.toNat := by
      rw [memorySize, BitVec.toNat_mul]
      exact Nat.mod_le _ _
    have above := Nat.div_mul_le_self ring.memorySize ring.recordSize.toNat
    rw [divides] at above
    omega
  have small : ring.memorySize < 2 ^ 32 := BitVec.isLt _
  refine ⟨count, large, ?_, product ▸ small, ?_⟩
  · have nonzero : ring.recordCount.toNat ≠ 0 := by omega
    apply (Nat.and_sub_one_eq_zero_iff_isPowerOfTwo nonzero).1
    have bits := congrArg BitVec.toNat (beq_iff_eq.1 power)
    rw [BitVec.toNat_and] at bits
    have old : (ring.recordCount - 1).toNat = ring.recordCount.toNat - 1 := by bv_omega
    rwa [old] at bits
  · rw [← product]
    have wide : 2 ^ 32 ≤ 2 ^ ring.traits.platform.sizeTBits := by
      cases ring.traits.platform <;> decide
    rcases Nat.lt_or_ge (ring.memorySize + sizeofHeader) (2 ^ ring.traits.platform.sizeTBits)
      with fitting | wrapped
    · rw [Nat.mod_eq_of_lt fitting] at whole
      omega
    · rw [Nat.mod_eq_sub_mod wrapped, Nat.mod_eq_of_lt (by simp only [sizeofHeader]; omega)] at noWrap
      simp only [sizeofHeader] at noWrap wrapped
      omega

lemma Fits.index_lt (fits : ring.Fits mmapSize) (sequence : BitVec 32) :
    (ring.sequenceToIndex sequence).toNat < ring.recordCount.toNat := by
  have count := fits.count
  have old : (ring.recordCount - 1).toNat = ring.recordCount.toNat - 1 := by bv_omega
  have bound : (ring.sequenceToIndex sequence).toNat ≤ (ring.recordCount - 1).toNat := by
    rw [sequenceToIndex, BitVec.toNat_and]
    exact Nat.and_le_right
  omega

lemma Fits.recordMmapReader_eq (fits : ring.Fits mmapSize) (sequence : BitVec 32) :
    ring.recordMmapReader (ring.sequenceToIndex sequence) =
      sizeofHeader + (ring.sequenceToIndex sequence).toNat * ring.recordSize.toNat := by
  have below : (ring.sequenceToIndex sequence).toNat * ring.recordSize.toNat < 2 ^ 32 :=
    Nat.lt_of_le_of_lt (Nat.mul_le_mul_right _ (fits.index_lt sequence).le) fits.exact
  unfold recordMmapReader recordMmapWriter
  split_ifs with static
  · have size := fits.size
    have same : ring.recordSize = .ofNat 32 ring.traits.sizeofRecord := by
      simp [recordSize, static]
    rw [same, BitVec.toNat_ofNat] at size ⊢
    rw [Nat.mod_eq_of_lt (by omega)]
  · rw [BitVec.toNat_mul, Nat.mod_eq_of_lt below]

lemma Fits.access_inside (fits : ring.Fits mmapSize) (reader : Reader Word)
    (accessed : reader.access ring = some (off, length)) : off + length ≤ mmapSize := by
  have mem := fits.inside
  have header : ∀ field, field + 4 ≤ sizeofHeader → field + 4 ≤ mmapSize := by
    intro field bound
    omega
  unfold Reader.access at accessed
  split at accessed
  · cases accessed
    exact header _ (by decide)
  · cases accessed
    exact header _ (by decide)
  · rename_i data phase
    split_ifs at accessed with more
    · cases accessed
      -- The word ends inside its record, and the record before the end of the ring.
      have word : data.length * ring.traits.platform.sizeofLong +
          ring.traits.platform.sizeofLong ≤ ring.recordSize.toNat := by
        rw [← Nat.succ_mul]
        exact (Nat.mul_le_mul_right _ more).trans fits.size
      have record := Nat.mul_le_mul_right ring.recordSize.toNat (fits.index_lt reader.sequence)
      rw [Nat.succ_mul] at record
      rw [wordOffset, fits.recordMmapReader_eq]
      omega
    · cases accessed
      exact header _ (by decide)
  · cases accessed

/-- Every byte that a reader of an imported ring accesses lies in the mapping, whatever the
shared memory holds at each of its loads. -/
theorem import_reads_inside {Word : Type} (traits : RingTraits) (mmapSize : Nat)
    (headerRecordSize headerRecordCount : BitVec 32)
    (accepted : (importAt traits mmapSize headerRecordSize headerRecordCount).2 = true)
    (sequence : BitVec 32) (memories : List (Memory Word)) (offset length : Nat)
    (accessed : (Machine.run
      (Reader.step (importAt traits mmapSize headerRecordSize headerRecordCount).1)
      ⟨sequence, .loadTail⟩ memories).access
        (importAt traits mmapSize headerRecordSize headerRecordCount).1 = some (offset, length)) :
    offset + length ≤ mmapSize := by
  have fits : (importAt traits mmapSize headerRecordSize headerRecordCount).1.Fits mmapSize := by
    unfold importAt at accepted ⊢
    split_ifs at accepted ⊢ <;> exact fits_of_geometryFits accepted
  exact fits.access_inside _ accessed

def pairTraits : RingTraits where
  platform := .lp64
  recordWords := 2
  kUseStaticRecordSize := false
  kStaticRecordCount := 0
  kMinRecordCount := 2
  recordWords_pos := by decide
  kMinRecordCount_pos := by decide

/-- Four records of three words each, of which the reader knows two, in a mapping without a
byte to spare; the counters have wrapped. -/
theorem import_reads_inside_wider : (importAt pairTraits 112 24 4).2 = true ∧ 96 + 8 ≤ 112 :=
  ⟨by decide, import_reads_inside pairTraits 112 24 4 (by decide) 7
    [⟨4, 8, fun _ => ()⟩, ⟨4, 8, fun _ => ()⟩, ⟨0, 0, fun _ => ()⟩] 96 8 (by decide)⟩

end BroadcastRing

end NativeLibs.Vr
