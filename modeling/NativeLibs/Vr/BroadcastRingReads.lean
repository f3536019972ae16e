import NativeLibs.Vr.BroadcastRing
import Mathlib.Data.Nat.ModEq

/-! # Reads of a broadcast ring are never torn

The writer moves `head` past a record before it writes over it, and `tail` behind a record
after it has been written. The counters have 32 bits; the proof counts records without a
bound, and the counters are those numbers wrapped. -/

namespace NativeLibs.Vr

open BroadcastRing (validateGeometry fits_of_geometryFits recordSize wordOffset sequenceToIndex pairTraits)
open Function

/-- A call of `Get`, with the number of records whose `Put` had ended when it began, and of
those whose `Put` had begun at its last load. -/
structure GetCall (Word : Type) where
  reader : Reader Word
  began : Nat
  ended : Nat

/-- A ring with its writer and its readers. The writer has these words of the current record
left to store. -/
structure Broadcast (Id Word : Type) where
  memory : Memory Word
  writing : Option (List Word)
  put : List (List Word)
  gets : Id → GetCall Word

namespace Broadcast

variable {Id Word : Type}

/-- The single stores of the writer and the single loads of the readers. Only the writer
changes the counters, so its own loads of them are part of its stores. -/
inductive Label (Id Word : Type) where
  | reserve (record : List Word)
  | store
  | publish
  | get (id : Id) (sequence : BitVec 32)
  | load (id : Id)

variable (ring : BroadcastRing) (state : Broadcast Id Word)

def completed : Nat := state.put.length - (if state.writing.isSome then 1 else 0)

def kInitialSequence : BitVec 32 := -256

def initial (word : Nat → Word) : Broadcast Id Word where
  memory := ⟨kInitialSequence, kInitialSequence, word⟩
  writing := none
  put := []
  gets := fun _ => ⟨⟨0, .nothing⟩, 0, 0⟩

def reserve (record : List Word) : Broadcast Id Word :=
  let space := ring.recordCount - (state.memory.tail - state.memory.head)
  let needed := if 1 ≤ space then 0 else 1 - space
  { state with
    memory := { state.memory with head := state.memory.head + needed }
    writing := some record
    put := state.put ++ [record] }

def store (value : Word) (rest : List Word) : Broadcast Id Word :=
  let word := ring.traits.recordWords - (rest.length + 1)
  let offset := ring.recordMmapWriter (ring.sequenceToIndex state.memory.tail) +
    word * ring.traits.platform.sizeofLong
  { state with
    memory := { state.memory with word := update state.memory.word offset value }
    writing := some rest }

def publish : Broadcast Id Word :=
  { state with memory := { state.memory with tail := state.memory.tail + 1 }, writing := none }

def setGet [DecidableEq Id] (id : Id) (call : GetCall Word) : Broadcast Id Word :=
  { state with gets := update state.gets id call }

def step [DecidableEq Id] (ring : BroadcastRing) (state : Broadcast Id Word) :
    Label Id Word → Broadcast Id Word
  | .reserve record =>
    if state.writing.isNone ∧ record.length = ring.traits.recordWords then state.reserve ring record
    else state
  | .store =>
    match state.writing with
    | some (value :: rest) => state.store ring value rest
    | _ => state
  | .publish =>
    match state.writing with
    | some [] => state.publish
    | _ => state
  | .get id sequence =>
    match (state.gets id).reader.phase with
    | .nothing | .found _ =>
      state.setGet id ⟨⟨sequence, .loadTail⟩, state.completed, state.put.length⟩
    | _ => state
  | .load id =>
    let call := state.gets id
    match call.reader.phase with
    | .nothing | .found _ => state
    | _ => state.setGet id ⟨call.reader.step ring state.memory, call.began, state.put.length⟩

/-! ## Sequence numbers and slots -/

def sequenceOf (number : Nat) : BitVec 32 := kInitialSequence + BitVec.ofNat 32 number

lemma toNat_sequenceOf_sub (order : prior ≤ later) (near : later < prior + 2 ^ 32) :
    (sequenceOf later - sequenceOf prior).toNat = later - prior := by
  unfold sequenceOf
  bv_omega

lemma toNat_sequenceOf_sub_of_lt (order : prior < later) (near : later < prior + 2 ^ 32) :
    (sequenceOf prior - sequenceOf later).toNat = 2 ^ 32 - (later - prior) := by
  unfold sequenceOf
  bv_omega

lemma exists_sequenceOf (seq : BitVec 32) (first : Nat) :
    seq = sequenceOf (first + (seq - sequenceOf first).toNat) := by
  unfold sequenceOf
  bv_omega

/-- A ring as `Create` makes it: the records lie next to each other. -/
structure Created (ring : BroadcastRing) (mmapSize : Nat) : Prop extends ring.Fits mmapSize where
  packed : ring.recordSize.toNat = ring.traits.sizeofRecord

variable {ring} {state}

lemma created_of_validateGeometry
    (valid : (validateGeometry traits mmapSize
      (BitVec.ofNat 32 traits.sizeofRecord) count).2 = true) :
    Created (validateGeometry traits mmapSize
      (BitVec.ofNat 32 traits.sizeofRecord) count).1 mmapSize := by
  have fits := fits_of_geometryFits valid
  have copied : (validateGeometry traits mmapSize
      (.ofNat 32 traits.sizeofRecord) count).1.recordSize =
        .ofNat 32 traits.sizeofRecord := by
    unfold recordSize
    split <;> rfl
  refine ⟨fits, le_antisymm ?_ fits.size⟩
  rw [copied, BitVec.toNat_ofNat]
  exact Nat.mod_le _ _

lemma Created.wordOffset_eq (made : Created ring mmapSize) (seq : BitVec 32)
    (word : Nat) :
    ring.wordOffset seq word = sizeofHeader +
      ((ring.sequenceToIndex seq).toNat * ring.traits.recordWords + word) *
        ring.traits.platform.sizeofLong := by
  rw [wordOffset, made.recordMmapReader_eq, made.packed,
    RingTraits.sizeofRecord, Nat.add_mul, Nat.mul_assoc, Nat.add_assoc]

lemma Created.writer_eq (made : Created ring mmapSize) (seq : BitVec 32) :
    ring.recordMmapWriter (ring.sequenceToIndex seq) =
      ring.recordMmapReader (ring.sequenceToIndex seq) := by
  rw [made.recordMmapReader_eq, made.packed]
  rfl

/-- Words have different offsets if they are different words of a record, or if the records
have different numbers that are less than a ring apart. -/
lemma Created.wordOffset_inj (made : Created ring mmapSize)
    (inFirst : first < ring.traits.recordWords) (inSecond : second < ring.traits.recordWords)
    (order : prior ≤ later) (near : later < prior + ring.recordCount.toNat)
    (same : ring.wordOffset (sequenceOf prior) first = ring.wordOffset (sequenceOf later) second) :
    prior = later ∧ first = second := by
  have pos : 0 < ring.traits.platform.sizeofLong := by cases ring.traits.platform <;> decide
  rw [made.wordOffset_eq, made.wordOffset_eq, Nat.add_left_cancel_iff,
    Nat.mul_left_inj pos.ne'] at same
  -- The word numbers are quotient and remainder by the words of a record.
  have i := congrArg (· / ring.traits.recordWords) same
  have word := congrArg (· % ring.traits.recordWords) same
  simp only [Nat.mul_add_mod_self_right, Nat.mod_eq_of_lt inFirst, Nat.mod_eq_of_lt inSecond] at word
  simp only [Nat.add_comm (_ * _), Nat.add_mul_div_right _ _ ring.traits.recordWords_pos,
    Nat.div_eq_of_lt inFirst, Nat.div_eq_of_lt inSecond, Nat.zero_add] at i
  refine ⟨?_, word⟩
  rcases made.power with ⟨bits, count⟩
  have small : ring.recordCount.toNat < 2 ^ 32 := ring.recordCount.isLt
  have old : (ring.recordCount - 1).toNat = 2 ^ bits - 1 := by
    have atLeast := made.count
    bv_omega
  have divides : 2 ^ bits ∣ 2 ^ 32 := by
    apply Nat.pow_dvd_pow
    rw [count] at small
    exact ((Nat.pow_lt_pow_iff_right (by decide)).1 small).le
  have slot : ∀ n, (ring.sequenceToIndex (sequenceOf n)).toNat =
      (kInitialSequence.toNat + n) % 2 ^ bits := by
    intro n
    rw [sequenceToIndex, BitVec.toNat_and, old, Nat.and_two_pow_sub_one_eq_mod,
      sequenceOf, BitVec.toNat_add, BitVec.toNat_ofNat, Nat.add_mod_mod,
      Nat.mod_mod_of_dvd _ divides]
  rw [slot, slot] at i
  have congruent : Nat.ModEq (2 ^ bits) prior later := Nat.ModEq.add_left_cancel' _ i
  rw [count] at near
  by_contra ne
  have apart := Nat.le_of_dvd (by omega) ((Nat.modEq_iff_dvd' order).1 congruent)
  omega

/-! ## The writer -/

def Stored (ring : BroadcastRing) (memory : Memory Word) (number : Nat) (record : List Word) :
    Prop :=
  ∀ word value, record[word]? = some value →
    memory.word (ring.wordOffset (sequenceOf number) word) = value

/-- What holds between the stores of the writer, where `head` stands for this number. -/
structure Written (ring : BroadcastRing) (state : Broadcast Id Word) (head : Nat) : Prop where
  headAt : state.memory.head = sequenceOf head
  tailAt : state.memory.tail = sequenceOf state.completed
  order : head ≤ state.completed
  window : state.put.length ≤ head + ring.recordCount.toNat
  full : head = 0 ∨ head + ring.recordCount.toNat ≤ state.put.length
  lengths : ∀ record ∈ state.put, record.length = ring.traits.recordWords
  stored : ∀ number record, head ≤ number → number < state.completed →
    state.put[number]? = some record → Stored ring state.memory number record
  current : ∀ rest, state.writing = some rest → ∃ done,
    state.put[state.completed]? = some (done ++ rest) ∧
      state.put.length = state.completed + 1 ∧ Stored ring state.memory state.completed done

lemma completed_of_none (idle : state.writing = none) : state.completed = state.put.length := by
  simp [completed, idle]

lemma completed_le : state.completed ≤ state.put.length := Nat.sub_le _ _

lemma Written.reserve (wrote : Written ring state head) (made : Created ring mmapSize)
    (idle : state.writing = none) (length : record.length = ring.traits.recordWords) :
    ∃ next, head ≤ next ∧ Written ring (state.reserve ring record) next := by
  have total := completed_of_none idle
  have order := wrote.order
  have window := wrote.window
  have count := made.count
  have small : ring.recordCount.toNat < 2 ^ 32 := ring.recordCount.isLt
  have used : (state.memory.tail - state.memory.head).toNat = state.completed - head := by
    rw [wrote.headAt, wrote.tailAt]
    exact toNat_sequenceOf_sub order (by omega)
  have same : (state.reserve ring record).completed = state.completed := by
    simp [completed, Broadcast.reserve, idle]
  have grown : (state.reserve ring record).put = state.put ++ [record] := rfl
  have moved : ∃ next, head ≤ next ∧ (state.reserve ring record).memory.head = sequenceOf next ∧
      next ≤ state.completed ∧ state.put.length + 1 ≤ next + ring.recordCount.toNat ∧
      (next = 0 ∨ next + ring.recordCount.toNat ≤ state.put.length + 1) := by
    have full := wrote.full
    simp only [Broadcast.reserve]
    generalize state.memory.tail - state.memory.head = gap at used ⊢
    rw [wrote.headAt]
    split_ifs with space
    · refine ⟨head, le_refl _, by simp, order, ?_, by omega⟩
      bv_omega
    · have none : ring.recordCount - gap = 0 := by bv_omega
      refine ⟨head + 1, by omega, ?_, ?_, ?_, ?_⟩
      · rw [none]
        unfold sequenceOf
        bv_omega
      all_goals bv_omega
  rcases moved with ⟨next, later, headAt, inOrder, fits, full⟩
  refine ⟨next, later, {
    headAt := headAt
    tailAt := by rw [same]; exact wrote.tailAt
    order := by rw [same]; exact inOrder
    window := by simpa [grown] using fits
    full := by simpa [grown] using full
    lengths := ?_
    stored := ?_
    current := ?_ }⟩
  · exact List.forall_mem_append.2 ⟨wrote.lengths, List.forall_mem_singleton.2 length⟩
  · intro n other from_ below found
    rw [same] at below
    rw [grown, List.getElem?_append_left (by omega)] at found
    exact wrote.stored n other (by omega) below found
  · intro rest isRest
    cases isRest
    refine ⟨[], by simp [same, grown, total], by simp [same, grown, total], ?_⟩
    intro word value found
    simp at found

lemma Written.store (wrote : Written ring state head) (made : Created ring mmapSize)
    (left : state.writing = some (value :: rest)) :
    Written ring (state.store ring value rest) head := by
  rcases wrote.current _ left with ⟨done, atTail, total, stored⟩
  have same : (state.store ring value rest).completed = state.completed := by
    simp [completed, Broadcast.store, left]
  have window := wrote.window
  have length := wrote.lengths _ (List.mem_of_getElem? atTail)
  simp only [List.length_append, List.length_cons] at length
  -- The word goes behind those that are stored already.
  have memory : (state.store ring value rest).memory.word = update state.memory.word
        (ring.wordOffset (sequenceOf state.completed) done.length) value := by
    have pos : ring.traits.recordWords - (rest.length + 1) = done.length := by omega
    simp only [Broadcast.store, pos, wrote.tailAt, made.writer_eq]
    rfl
  have others : ∀ n word, n ≤ state.completed → head ≤ n →
      word < ring.traits.recordWords → (n, word) ≠ (state.completed, done.length) →
      (state.store ring value rest).memory.word (ring.wordOffset (sequenceOf n) word) =
        state.memory.word (ring.wordOffset (sequenceOf n) word) := by
    intro n word below from_ inWord ne
    rw [memory]
    apply update_of_ne
    intro eq
    rcases made.wordOffset_inj inWord (by omega) below (by omega) eq with ⟨rfl, rfl⟩
    exact ne rfl
  refine { wrote with
    tailAt := same ▸ wrote.tailAt, order := same ▸ wrote.order, stored := ?_, current := ?_ }
  · intro n record from_ below found word stays mem
    rw [same] at below
    have inRecord := (List.getElem?_eq_some_iff.1 mem).1
    rw [wrote.lengths _ (List.mem_of_getElem? found)] at inRecord
    rw [others n word below.le from_ inRecord (by simp; omega)]
    exact wrote.stored n record from_ below found word stays mem
  · intro later isLater
    cases isLater
    refine ⟨done ++ [value], ?_, ?_, ?_⟩
    · rw [same]
      change state.put[state.completed]? = _
      simpa using atTail
    · rw [same]
      exact total
    · intro word stays mem
      rw [same]
      rcases Nat.lt_or_ge word done.length with old | new
      · rw [List.getElem?_append_left old] at mem
        rw [others _ word (le_refl _) wrote.order (by omega) (by simp; omega)]
        exact stored word stays mem
      · have bound := (List.getElem?_eq_some_iff.1 mem).1
        simp only [List.length_append, List.length_singleton] at bound
        have last : word = done.length := by omega
        subst last
        simp only [List.getElem?_concat_length, Option.some.injEq] at mem
        rw [memory, update_self, mem]

lemma Written.publish (wrote : Written ring state head) (done : state.writing = some []) :
    Written ring state.publish head := by
  rcases wrote.current _ done with ⟨record, atTail, total, stored⟩
  have next : state.publish.completed = state.completed + 1 := total
  have order := wrote.order
  refine { wrote with tailAt := ?_, order := ?_, stored := ?_, current := ?_ }
  · rw [next]
    simp only [Broadcast.publish, wrote.tailAt, sequenceOf]
    bv_omega
  · rw [next]
    omega
  · intro n other from_ below found
    rw [next] at below
    rcases Nat.lt_or_ge n state.completed with old | new
    · exact wrote.stored n other from_ old found
    · have last : n = state.completed := by omega
      subst last
      rw [List.append_nil] at atTail
      have equal := Option.some.inj (atTail.symm.trans found)
      rw [← equal]
      exact stored
  · intro rest isRest
    cases isRest

/-! ## The readers -/

/-- What a call of `Get` knows about the record it copies, or has returned. -/
structure Copies (ring : BroadcastRing) (state : Broadcast Id Word) (began : Nat)
    (sequence : BitVec 32) (number : Nat) : Prop where
  sequence : sequence = sequenceOf number
  published : number < state.completed
  recent : began ≤ number + ring.recordCount.toNat

/-- What is known about a call, as long as fewer than 2^32 records have been written during
it. A record that `head` has not passed yet has been copied as it was put. -/
def Knows (ring : BroadcastRing) (state : Broadcast Id Word) (head : Nat) (call : GetCall Word) :
    Prop :=
  match call.reader.phase with
  | .loadHead tail => ∃ seen, tail = sequenceOf seen ∧ call.began ≤ seen ∧ seen ≤ state.completed
  | .copy loaded data => ∃ first number, loaded = sequenceOf first ∧
      Copies ring state call.began call.reader.sequence number ∧
      first ≤ number ∧ number < first + ring.recordCount.toNat ∧ first ≤ head ∧
      call.began ≤ first + ring.recordCount.toNat ∧ data.length ≤ ring.traits.recordWords ∧
      (head ≤ number → ∀ record, state.put[number]? = some record → data = record.take data.length)
  | .found data => ∃ number, Copies ring state call.began call.reader.sequence number ∧
      state.put[number]? = some data
  | _ => True

/-- How many records count as written during a call: those until now, or until it ended. -/
def writtenUntil (state : Broadcast Id Word) (call : GetCall Word) : Nat :=
  match call.reader.phase with
  | .nothing | .found _ => call.ended
  | _ => state.put.length

structure Sound (ring : BroadcastRing) (state : Broadcast Id Word) (head : Nat) : Prop where
  written : Written ring state head
  began : ∀ id, (state.gets id).began ≤ state.completed
  knows : ∀ id, writtenUntil state (state.gets id) < (state.gets id).began + 2 ^ 32 →
    Knows ring state head (state.gets id)

lemma Copies.mono {seq : BitVec 32} (copies : Copies ring state began seq n)
    (more : state.completed ≤ later.completed) : Copies ring later began seq n :=
  ⟨copies.sequence, Nat.lt_of_lt_of_le copies.published more, copies.recent⟩

lemma Knows.mono (knows : Knows ring state head call) (ahead : head ≤ next)
    (more : state.completed ≤ later.completed) (grown : state.put <+: later.put) :
    Knows ring later next call := by
  have kept : ∀ {n}, n < state.completed →
      later.put[n]? = state.put[n]? := by
    intro n below
    rcases grown with ⟨new, same⟩
    rw [← same, List.getElem?_append_left (Nat.lt_of_lt_of_le below completed_le)]
  unfold Knows at knows ⊢
  split at knows
  · rcases knows with ⟨seen, isSeen, began, below⟩
    exact ⟨seen, isSeen, began, below.trans more⟩
  · rcases knows with ⟨first, n, loaded, copies, order, near, passed, recent, length, same⟩
    refine ⟨first, n, loaded, copies.mono more, order, near, passed.trans ahead, recent,
      length, ?_⟩
    intro unpassed
    rw [kept copies.published]
    exact same (ahead.trans unpassed)
  · rcases knows with ⟨n, copies, record⟩
    exact ⟨n, copies.mono more, (kept copies.published).trans record⟩
  · trivial

lemma Sound.write (sound : Sound ring state head) (wrote : Written ring later next)
    (ahead : head ≤ next) (more : state.completed ≤ later.completed)
    (grown : state.put <+: later.put) (gets : later.gets = state.gets) :
    Sound ring later next := by
  refine ⟨wrote, fun id => ?_, fun id few => ?_⟩
  · rw [gets]
    exact (sound.began id).trans more
  · rw [gets] at few ⊢
    have fewer : writtenUntil state (state.gets id) ≤ writtenUntil later (state.gets id) := by
      unfold writtenUntil
      split
      · exact le_refl _
      · exact le_refl _
      · exact grown.length_le
    exact (sound.knows id (by omega)).mono ahead more grown

/-- `head` has been loaded after `tail`. Records put in between can make the two cross, but
fewer than 2^32 of them cannot make that look like a ring in order. -/
lemma Knows.loadedHead (wrote : Written ring state head) (reader : Reader Word)
    (isSeen : seen ≤ state.completed) (since : began ≤ seen)
    (few : state.put.length < began + 2 ^ 32) :
    Knows ring state head
      ⟨reader.loadedHead ring (sequenceOf seen) state.memory.head, began, state.put.length⟩ := by
  have total : state.completed ≤ state.put.length := completed_le
  have window := wrote.window
  have small : ring.recordCount.toNat < 2 ^ 32 := ring.recordCount.isLt
  rw [wrote.headAt]
  unfold Reader.loadedHead
  by_cases crossed : ring.recordCount < sequenceOf seen - sequenceOf head
  · rw [if_pos crossed]
    trivial
  rw [if_neg crossed]
  rw [BitVec.lt_def, Nat.not_lt] at crossed
  have order : head ≤ seen := by
    by_contra behind
    have full := wrote.full
    rw [toNat_sequenceOf_sub_of_lt (by omega) (by omega)] at crossed
    omega
  have between := toNat_sequenceOf_sub order (by omega)
  rw [between] at crossed
  -- The sequence number lies in the window from `head` to `tail`.
  have inWindow : ((if sequenceOf seen - sequenceOf head < reader.sequence - sequenceOf head
      then sequenceOf head else reader.sequence) - sequenceOf head).toNat ≤ seen - head := by
    split_ifs with outside
    · rw [BitVec.sub_self]
      exact Nat.zero_le _
    · rwa [BitVec.lt_def, between, Nat.not_lt] at outside
  dsimp only
  generalize (if sequenceOf seen - sequenceOf head < reader.sequence - sequenceOf head
    then sequenceOf head else reader.sequence) = seq at inWindow ⊢
  split_ifs with atTail
  · trivial
  · have n := exists_sequenceOf seq head
    have old : head + (seq - sequenceOf head).toNat ≠ seen := by
      intro same
      rw [same] at n
      exact atTail n
    refine ⟨head, _, rfl, ⟨n, ?_, ?_⟩, ?_, ?_, le_refl _, ?_, by simp, by simp⟩
    all_goals try dsimp only
    all_goals omega

lemma Written.copyWord {seq : BitVec 32} (wrote : Written ring state head)
    (isNumber : seq = sequenceOf n) (sent : n < state.completed)
    (unpassed : head ≤ n) (found : state.put[n]? = some record)
    (more : data.length < ring.traits.recordWords) (same : data = record.take data.length) :
    data ++ [state.memory.word (ring.wordOffset seq data.length)] =
      record.take (data.length + 1) := by
  have length := wrote.lengths _ (List.mem_of_getElem? found)
  have below : data.length < record.length := by omega
  have mem : record[data.length]? = some record[data.length] := List.getElem?_eq_getElem below
  rw [isNumber, wrote.stored n record unpassed sent found _ _ mem,
    List.take_add_one, mem, ← same]
  rfl

lemma Knows.load (wrote : Written ring state head)
    (knows : Knows ring state head call) (since : call.began ≤ state.completed)
    (few : state.put.length < call.began + 2 ^ 32) :
    Knows ring state head ⟨call.reader.step ring state.memory, call.began, state.put.length⟩ := by
  have total : state.completed ≤ state.put.length := completed_le
  rcases call with ⟨⟨seq, phase⟩, began, ended⟩
  cases phase with
  | loadTail => exact ⟨state.completed, wrote.tailAt, since, le_refl _⟩
  | loadHead tail =>
    rcases knows with ⟨seen, rfl, after, below⟩
    exact .loadedHead wrote _ below after few
  | copy loaded data =>
    rcases knows with ⟨first, n, rfl, copies, order, near, passed, recent, length, same⟩
    simp only [Reader.step]
    split_ifs with more again
    · refine ⟨first, n, rfl, copies, order, near, passed, recent,
        by simpa using Nat.succ_le_of_lt more, ?_⟩
      intro unpassed record found
      simpa using wrote.copyWord copies.sequence copies.published unpassed found more
        (same unpassed record found)
    · trivial
    · -- `head` has not passed the record, so what was copied is the record.
      have unpassed : head ≤ n := by
        have full := wrote.full
        have numberAt : seq = sequenceOf n := copies.sequence
        rw [BitVec.lt_def, numberAt, wrote.headAt, toNat_sequenceOf_sub passed (by omega),
          toNat_sequenceOf_sub order (by omega)] at again
        omega
      have bound : n < state.put.length := Nat.lt_of_lt_of_le copies.published total
      have found := List.getElem?_eq_getElem bound
      refine ⟨n, copies, ?_⟩
      have whole := wrote.lengths _ (List.mem_of_getElem? found)
      have equal := same unpassed _ found
      rw [List.take_of_length_le (by omega)] at equal
      rw [found, ← equal]
  | nothing => trivial
  | found data => exact knows

variable [DecidableEq Id]

lemma Sound.setGet (sound : Sound ring state head) {id : Id}
    (since : call.began ≤ state.completed)
    (knows : writtenUntil state call < call.began + 2 ^ 32 → Knows ring state head call) :
    Sound ring (state.setGet id call) head := by
  refine ⟨{ sound.written with }, ?_, ?_⟩
  · exact (forall_update_iff state.gets fun _ call => call.began ≤ state.completed).2
      ⟨since, fun other _ => sound.began other⟩
  · have known := (forall_update_iff state.gets (a := id) fun _ call =>
      writtenUntil state call < call.began + 2 ^ 32 → Knows ring state head call).2
      ⟨knows, fun other _ => sound.knows other⟩
    intro other few
    exact (known other few).mono (le_refl head) (le_refl state.completed) (List.prefix_refl _)

lemma Sound.step (sound : Sound ring state head) (made : Created ring mmapSize)
    (label : Label Id Word) : ∃ next, Sound ring (state.step ring label) next := by
  cases label with
  | reserve record =>
    simp only [Broadcast.step]
    split_ifs with may
    · have idle : state.writing = none := by simpa using may.1
      rcases sound.written.reserve made idle may.2 with ⟨next, ahead, wrote⟩
      have same : state.completed ≤ (state.reserve ring record).completed := by
        simp [completed, Broadcast.reserve, idle]
      exact ⟨next, sound.write wrote ahead same ⟨[record], rfl⟩ rfl⟩
    · exact ⟨head, sound⟩
  | store =>
    simp only [Broadcast.step]
    split
    · rename_i value rest left
      have same : state.completed ≤ (state.store ring value rest).completed := by
        simp [completed, Broadcast.store, left]
      exact ⟨head, sound.write (sound.written.store made left) (le_refl _) same
        (List.prefix_refl _) rfl⟩
    · exact ⟨head, sound⟩
  | publish =>
    simp only [Broadcast.step]
    split
    · rename_i left
      exact ⟨head, sound.write (sound.written.publish left) (le_refl _) completed_le
        (List.prefix_refl _) rfl⟩
    · exact ⟨head, sound⟩
  | get id seq =>
    simp only [Broadcast.step]
    split
    · exact ⟨head, sound.setGet (le_refl _) fun _ => trivial⟩
    · exact ⟨head, sound.setGet (le_refl _) fun _ => trivial⟩
    · exact ⟨head, sound⟩
  | load id =>
    simp only [Broadcast.step]
    split
    · exact ⟨head, sound⟩
    · exact ⟨head, sound⟩
    · rename_i notNothing notFound
      have until_ : writtenUntil state (state.gets id) = state.put.length := by
        unfold writtenUntil
        split <;> simp_all
      refine ⟨head, sound.setGet (sound.began id) fun few => ?_⟩
      have now : state.put.length < (state.gets id).began + 2 ^ 32 := by
        unfold writtenUntil at few
        split at few <;> exact few
      exact .load sound.written (sound.knows id (until_ ▸ now)) (sound.began id) now

/-- A `Get` that returns true has copied a record exactly as it was put, and its sequence
number is the one of that record, if fewer than 2^32 records were written during the call:
the record had been published, and it was not older than the ring when the call began. -/
theorem get_returns_record (traits : RingTraits) (mmapSize : Nat) (count : BitVec 32)
    (valid : (validateGeometry traits mmapSize
      (BitVec.ofNat 32 traits.sizeofRecord) count).2 = true)
    (word : Nat → Word) (labels : List (Label Id Word)) (id : Id) (data : List Word) :
    let ring := (validateGeometry traits mmapSize
      (BitVec.ofNat 32 traits.sizeofRecord) count).1
    let state := Machine.run (step ring) (initial word) labels
    let call := state.gets id
    call.reader.phase = .found data → call.ended < call.began + 2 ^ 32 →
      ∃ number, call.reader.sequence = kInitialSequence + BitVec.ofNat 32 number ∧
        state.put[number]? = some data ∧ number < state.completed ∧
          call.began ≤ number + ring.recordCount.toNat := by
  intro ring state call got few
  have created : Created ring mmapSize := created_of_validateGeometry valid
  have init : ∃ head, Sound ring (initial word : Broadcast Id Word) head := by
    refine ⟨0, ⟨rfl, rfl, le_refl _, Nat.zero_le _, .inl rfl, ?_, ?_, ?_⟩, fun _ => le_refl _,
      fun _ _ => trivial⟩
    · intro record mem
      cases mem
    · intro number record _ _ found
      cases found
    · intro rest writing
      cases writing
  have kept : ∀ (state : Broadcast Id Word) label, (∃ head, Sound ring state head) →
      ∃ head, Sound ring (step ring state label) head :=
    fun _ label holds => holds.elim fun _ sound => sound.step created label
  rcases Machine.run_always kept init labels with ⟨head, sound⟩
  have knows := sound.knows id (by
    unfold writtenUntil
    rw [got]
    exact few)
  unfold Knows at knows
  rw [got] at knows
  rcases knows with ⟨number, copies, record⟩
  exact ⟨number, copies.sequence, record, copies.published, copies.recent⟩

/-- The second record is put while the first is read. -/
def putDuringGet : List (Label Unit Nat) :=
  [.reserve [5, 7], .store, .store, .publish, .get () 0, .load (), .reserve [6, 8], .load (),
    .store, .load (), .load (), .store, .publish, .load ()]

theorem get_returns_record_once :
    let ring := (validateGeometry pairTraits 48 16 2).1
    let state := Machine.run (step ring) (initial fun _ => 0) putDuringGet
    ∃ n, (state.gets ()).reader.sequence = kInitialSequence + BitVec.ofNat 32 n ∧
      state.put[n]? = some [5, 7] ∧ n < state.completed ∧
        (state.gets ()).began ≤ n + ring.recordCount.toNat :=
  get_returns_record pairTraits 48 2 (by decide) (fun _ => 0) putDuringGet () [5, 7]
    (by decide +kernel) (by decide +kernel)

end Broadcast

end NativeLibs.Vr
