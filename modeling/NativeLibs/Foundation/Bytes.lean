import Mathlib.Data.List.Basic
import Mathlib.Data.List.GetD
import Mathlib.Algebra.Order.Ring.Int

/-! # Bytes

Numbers as bytes, the lowest one first, and memory that is read and written in
ranges. -/

namespace NativeLibs.Bytes

open List

/-! ## Numbers -/

def encode : Nat → Nat → List UInt8
  | 0, _ => []
  | count + 1, value => UInt8.ofNat value :: encode count (value / 256)

def decode : List UInt8 → Nat
  | [] => 0
  | byte :: rest => byte.toNat + 256 * decode rest

variable (count value : Nat)

@[simp] lemma length_encode : (encode count value).length = count := by
  induction count generalizing value with
  | zero => rfl
  | succ count ih => simp [encode, ih]

lemma decode_encode : decode (encode count value) = value % 256 ^ count := by
  induction count generalizing value with
  | zero => simp [encode, decode, Nat.mod_one]
  | succ count ih =>
    rw [encode, decode, ih, Nat.pow_succ', Nat.mod_mul]
    simp

@[simp] lemma decode_replicate_zero : decode (replicate count 0) = 0 := by
  induction count with
  | zero => rfl
  | succ count ih => simp [replicate_succ, decode, ih]

lemma ofNat_decode_encode {width count : Nat} (whole : 2 ^ width = 256 ^ count)
    (word : BitVec width) : BitVec.ofNat width (decode (encode count word.toNat)) = word := by
  rw [decode_encode, ← whole, Nat.mod_eq_of_lt word.isLt, BitVec.ofNat_toNat, BitVec.setWidth_eq]

/-! ## Memory -/

abbrev Memory := Nat → UInt8

def store (memory : Memory) (address : Nat) (bytes : List UInt8) : Memory :=
  fun index => if address ≤ index then bytes.getD (index - address) (memory index)
    else memory index

def load (memory : Memory) (address count : Nat) : List UInt8 :=
  (range count).map fun index => memory (address + index)

variable {count : Nat}

@[simp] lemma length_load : (load memory addr count).length = count := by simp [load]

lemma load_congr (same : ∀ i, addr ≤ i → i < addr + count → other i = memory i) :
    load other addr count = load memory addr count := by
  apply map_congr_left
  intro i mem
  exact same _ (Nat.le_add_right _ _) (Nat.add_lt_add_left (mem_range.1 mem) _)

lemma load_store : load (store memory addr bytes) addr bytes.length = bytes := by
  apply ext_getElem
  · simp
  · intro i bound _
    have mem : i < bytes.length := by simpa using bound
    simp [load, store, mem]

lemma store_outside (outside : i < addr ∨ addr + bytes.length ≤ i) :
    store memory addr bytes i = memory i := by
  unfold store
  split_ifs with after
  · have past : bytes.length ≤ i - addr := by omega
    rw [getD_eq_default _ _ past]
  · rfl

lemma load_store_apart (apart : low + count ≤ addr ∨ addr + bytes.length ≤ low) :
    load (store memory addr bytes) low count = load memory low count := by
  apply load_congr
  intro i after old
  exact store_outside (by omega)

@[simp] lemma store_nil (memory : Memory) (addr : Nat) : store memory addr [] = memory := by
  funext i
  simp [store]

lemma store_append (memory : Memory) (addr : Nat) (bytes more : List UInt8) :
    store (store memory addr bytes) (addr + bytes.length) more =
      store memory addr (bytes ++ more) := by
  funext i
  by_cases mem : addr ≤ i ∧ i < addr + bytes.length
  · have off : i - addr < bytes.length := by omega
    rw [store_outside (.inl mem.2)]
    simp only [store, if_pos mem.1]
    rw [getD_append _ _ _ _ off]
  · by_cases old : i < addr
    · rw [store_outside (.inl (by omega)), store_outside (.inl old),
        store_outside (.inl old)]
    · have after : addr + bytes.length ≤ i := by omega
      have further : bytes.length ≤ i - addr := by omega
      have outside : store memory addr bytes i = memory i := store_outside (.inr after)
      have met : addr ≤ i := by omega
      simp only [store, if_pos after, if_pos met] at outside ⊢
      rw [outside, getD_append_right _ _ _ _ further, Nat.sub_add_eq]

lemma store_inside (after : addr ≤ i) (old : i < addr + bytes.length) :
    store memory addr bytes i = store other addr bytes i := by
  have mem : i - addr < bytes.length := by omega
  simp only [store, if_pos after]
  rw [getD_eq_getElem _ _ mem, getD_eq_getElem _ _ mem]

lemma store_comm (apart : addr + bytes.length ≤ low) :
    store (store memory low more) addr bytes = store (store memory addr bytes) low more := by
  funext i
  by_cases mem : addr ≤ i ∧ i < addr + bytes.length
  · rw [store_outside (.inl (Nat.lt_of_lt_of_le mem.2 apart)), store_inside mem.1 mem.2]
  · have outside : i < addr ∨ addr + bytes.length ≤ i := by omega
    have same : store memory addr bytes i = memory i := store_outside outside
    rw [store_outside outside]
    simp only [store] at same ⊢
    rw [same]

lemma load_add (memory : Memory) (addr count more : Nat) : load memory addr (count + more) =
      load memory addr count ++ load memory (addr + count) more := by
  simp [load, range_add, Function.comp_def, Nat.add_assoc]

/-! ## Words in memory -/

def loadWords (memory : Memory) (address size count : Nat) : List Nat :=
  (range count).map fun index => decode (load memory (address + size * index) size)

@[simp] lemma length_loadWords {size : Nat} :
    (loadWords memory addr size count).length = count := by
  simp [loadWords]

lemma loadWords_succ (memory : Memory) (addr size count : Nat) :
    loadWords memory addr size (count + 1) =
      decode (load memory addr size) :: loadWords memory (addr + size) size count := by
  simp [loadWords, range_succ_eq_map, Function.comp_def, Nat.mul_add, Nat.add_assoc,
    Nat.add_comm size]

lemma loadWords_encode (small : ∀ value ∈ values, value < 256 ^ size)
    (held : load memory addr (size * values.length) = values.flatMap (encode size)) :
    loadWords memory addr size values.length = values := by
  induction values generalizing addr with
  | nil => rfl
  | cons value rest ih =>
    rw [length_cons, Nat.mul_add, Nat.mul_one, Nat.add_comm, load_add, flatMap_cons] at held
    rcases append_inj held (by simp) with ⟨first, later⟩
    have tail : ∀ value ∈ rest, value < 256 ^ size :=
      fun value mem => small value (mem_cons_of_mem _ mem)
    rw [length_cons, loadWords_succ, first, decode_encode, ih tail later,
      Nat.mod_eq_of_lt (small value (mem_cons_self ..))]

end NativeLibs.Bytes
