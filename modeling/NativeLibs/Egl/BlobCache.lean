import NativeLibs.Foundation.Bytes
import NativeLibs.Foundation.Machine
import Mathlib.Data.List.Perm.Basic

/-! # The blob cache

`BlobCache` keeps blobs under keys that are blobs, sorted by key, and the sum of all their
sizes. Sizes are `size_t` of 64 bits. -/

namespace NativeLibs.Egl

open Bytes (Memory store load encode decode)
open List Machine

abbrev Blob := List UInt8

def Blob.less (lhs rhs : Blob) : Bool :=
  if lhs.length = rhs.length then lhs.lex rhs else lhs.length < rhs.length

structure CacheEntry where
  key : Blob
  value : Blob

def CacheEntry.size (entry : CacheEntry) : Nat := entry.key.length + entry.value.length

structure Limits where
  mMaxKeySize : Nat
  mMaxValueSize : Nat
  mMaxTotalSize : Nat

def Limits.Fit (limits : Limits) : Prop :=
  limits.mMaxKeySize + limits.mMaxValueSize + limits.mMaxTotalSize < 2 ^ 64

structure BlobCache where
  mTotalSize : Nat
  mCacheEntries : List CacheEntry

/-- Why a call does not return: `clean` takes a remainder by zero, or the loop of `set` has
not ended. -/
inductive Fault
  | divisionByZero
  | running

def sizeT (value : Nat) : Nat := value % 2 ^ 64

def align4 (size : Nat) : Nat := sizeT (size + 3) / 4 * 4

def blobCacheMagic : Nat := 0x5f426224

def blobCacheVersion : Nat := 3

def blobCacheDeviceVersion : Nat := 1

def headerSize : Nat := 32

def entryHeaderSize : Nat := 16

def invalid : Int := -22

namespace BlobCache

def create : BlobCache := ⟨0, []⟩

/-- `clear` leaves the total size as it is. -/
def clear (cache : BlobCache) : BlobCache := { cache with mCacheEntries := [] }

section

variable (limits : Limits) (random : Nat → Nat) (cache : BlobCache)

def isCleanable : Bool := limits.mMaxTotalSize / 2 < cache.mTotalSize

def evict (index : Nat) : BlobCache where
  mTotalSize := sizeT (cache.mTotalSize + 2 ^ 64 -
    sizeT ((cache.mCacheEntries[index]?.map CacheEntry.size).getD 0))
  mCacheEntries := cache.mCacheEntries.eraseIdx index

/-- The loop of `clean`, by `mCacheEntries.size()`. `random` is what `blob_random` returns at
each size. -/
def clean : Nat → BlobCache → Except Fault BlobCache
  | 0, cache => if cache.isCleanable limits then .error .divisionByZero else .ok cache
  | left + 1, cache =>
    if cache.isCleanable limits then clean left (cache.evict (random (left + 1) % (left + 1)))
    else .ok cache

/-- The entries with a pair at its `lower_bound`: as a new entry, or with the value of an entry
replaced, which is returned. -/
def withPair (key value : Blob) : List CacheEntry → List CacheEntry × Option Blob
  | [] => ([⟨key, value⟩], none)
  | entry :: rest =>
    if entry.key.less key then (entry :: (withPair key value rest).1, (withPair key value rest).2)
    else if key.less entry.key then (⟨key, value⟩ :: entry :: rest, none)
    else ({ entry with value := value } :: rest, some entry.value)

def newTotalSize (key value : Blob) : Option Blob → Nat
  | none => sizeT (cache.mTotalSize + key.length + value.length)
  | some oldValue => sizeT (cache.mTotalSize + value.length + 2 ^ 64 - oldValue.length)

def setLoop (key value : Blob) : Nat → BlobCache → Except Fault BlobCache
  | 0, _ => .error .running
  | rounds + 1, cache =>
    let entries := withPair key value cache.mCacheEntries
    let total := cache.newTotalSize key value entries.2
    if limits.mMaxTotalSize < total then
      if cache.isCleanable limits then
        (cache.clean limits random cache.mCacheEntries.length).bind (setLoop key value rounds)
      else .ok cache
    else .ok ⟨total, entries.1⟩

/-- `set`. A round that cleans is followed by one that does not. -/
def set (key value : Blob) : Except Fault BlobCache :=
  if limits.mMaxKeySize < key.length ∨ limits.mMaxValueSize < value.length ∨
      limits.mMaxTotalSize < sizeT (key.length + value.length) ∨ key.length = 0 ∨
      value.length = 0 then .ok cache
  else setLoop limits random key value 2 cache

def get (key : Blob) (valueSize : Nat) : Nat × Option Blob :=
  if limits.mMaxKeySize < key.length then (0, none)
  else
    match cache.mCacheEntries.find? fun entry => !entry.key.less key with
    | none => (0, none)
    | some entry =>
      if key.less entry.key then (0, none)
      else (entry.value.length, if entry.value.length ≤ valueSize then some entry.value else none)

end

/-! ## Unflattening -/

variable (buildId : Blob)

def entriesAt (buffer : Memory) (size : Nat) : Nat → Nat → Int × List CacheEntry
  | 0, _ => (0, [])
  | count + 1, offset =>
    if size < sizeT (offset + entryHeaderSize) then (invalid, [])
    else
      let keySize := decode (load buffer offset 8)
      let valueSize := decode (load buffer (offset + 8) 8)
      let totalSize := align4 (sizeT (entryHeaderSize + keySize + valueSize))
      if size < sizeT (offset + totalSize) then (invalid, [])
      else
        let data := offset + entryHeaderSize
        let later := entriesAt buffer size count (sizeT (offset + totalSize))
        (later.1, ⟨load buffer data keySize, load buffer (data + keySize) valueSize⟩ :: later.2)

def contents (buffer : Memory) (size : Nat) : Int × List CacheEntry :=
  if size < headerSize ∨ decode (load buffer 0 4) ≠ blobCacheMagic then (invalid, [])
  else if decode (load buffer 4 4) ≠ blobCacheVersion ∨
      decode (load buffer 8 4) ≠ blobCacheDeviceVersion ∨
      decode (load buffer 24 4) ≠ buildId.length ∨ load buffer 28 buildId.length ≠ buildId then
    (0, [])
  else entriesAt buffer size (decode (load buffer 16 8)) (align4 (headerSize + buildId.length))

def setAll (limits : Limits) (random : Nat → Nat → Nat) :
    List CacheEntry → BlobCache → Except Fault BlobCache
  | [], cache => .ok cache
  | entry :: rest, cache =>
    (cache.set limits (random rest.length) entry.key entry.value).bind (setAll limits random rest)

/-- `unflatten`. An error behind the header clears the entries again. -/
def unflatten (limits : Limits) (random : Nat → Nat → Nat) (cache : BlobCache) (buffer : Memory)
    (size : Nat) : Except Fault (Int × BlobCache) :=
  let read := contents buildId buffer size
  (setAll limits random read.2 cache.clear).map fun next =>
    (read.1, if read.1 = 0 then next else next.clear)

/-! ## Calls -/

inductive Call
  | set (random : Nat → Nat) (key value : Blob)
  | get (key : Blob) (valueSize : Nat)
  | flatten (buffer : Memory) (size : Nat)
  | unflatten (random : Nat → Nat → Nat) (buffer : Memory) (size : Nat)
  | clear

def step (limits : Limits) : Except Fault BlobCache → Call → Except Fault BlobCache
  | .error fault, _ => .error fault
  | .ok cache, .set random key value => cache.set limits random key value
  | .ok cache, .get _ _ => .ok cache
  -- `flatten` only writes to its buffer.
  | .ok cache, .flatten _ _ => .ok cache
  | .ok cache, .unflatten random buffer size =>
    (cache.unflatten buildId limits random buffer size).map Prod.snd
  | .ok cache, .clear => .ok cache.clear

/-! ## The books of the cache -/

/-- The entries are sorted, and the total size is theirs. -/
structure Sound (limits : Limits) (cache : BlobCache) : Prop where
  sorted : cache.mCacheEntries.Pairwise fun earlier later => earlier.key.less later.key
  total : cache.mTotalSize = (cache.mCacheEntries.map CacheEntry.size).sum
  bounded : cache.mTotalSize ≤ limits.mMaxTotalSize

variable {cache : BlobCache}

lemma less_trans {first : Blob} (old : first.less second) (after : second.less third) :
    first.less third := by
  simp only [Blob.less] at *
  split_ifs at * with one two three <;> simp only [decide_eq_true_eq, List.lex_eq_true_iff_lt] at * <;>
    try omega
  exact List.lt_trans old after

lemma Sound.evict (sound : cache.Sound limits) (fits : limits.mMaxTotalSize < 2 ^ 64)
    (mem : i < cache.mCacheEntries.length) : (cache.evict i).Sound limits := by
  rcases sound with ⟨sorted, total, bound⟩
  have split := ((getElem_cons_eraseIdx_perm mem).map CacheEntry.size).sum_nat
  rw [map_cons, sum_cons, ← total] at split
  have left : (cache.evict i).mTotalSize =
      ((cache.mCacheEntries.eraseIdx i).map CacheEntry.size).sum := by
    simp only [BlobCache.evict, getElem?_eq_getElem mem, Option.map_some, Option.getD_some, sizeT]
    omega
  exact ⟨sorted.sublist (eraseIdx_sublist _ _), left, by omega⟩

lemma Sound.clean (sound : cache.Sound limits) (fits : limits.mMaxTotalSize < 2 ^ 64)
    (size : cache.mCacheEntries.length = left) :
    ∃ next, cache.clean limits random left = .ok next ∧ next.Sound limits ∧
      next.isCleanable limits = false := by
  induction left generalizing cache with
  | zero =>
    have none : cache.mTotalSize = 0 := by
      rw [sound.total, length_eq_zero_iff.1 size]
      rfl
    have kept : cache.isCleanable limits = false := by simp [isCleanable, none]
    exact ⟨cache, by simp [BlobCache.clean, kept], sound, kept⟩
  | succ left ih =>
    cases full : cache.isCleanable limits with
    | false => exact ⟨cache, by simp [BlobCache.clean, full], sound, full⟩
    | true =>
      have mem : random (left + 1) % (left + 1) < cache.mCacheEntries.length := by
        rw [size]
        exact Nat.mod_lt _ (Nat.succ_pos left)
      have less : (cache.evict (random (left + 1) % (left + 1))).mCacheEntries.length = left := by
        rw [BlobCache.evict, length_eraseIdx_of_lt mem, size]
        rfl
      rw [BlobCache.clean, if_pos full]
      exact ih (sound.evict fits mem) less

lemma mem_withPair (mem : e ∈ (withPair key v es).1) :
    e.key = key ∨ ∃ old ∈ es, old.key = e.key := by
  fun_induction withPair key v es with
  | case1 => exact .inl (by rw [mem_singleton.1 mem])
  | case2 first rest pre ih =>
    rcases mem_cons.1 mem with rfl | later
    · exact .inr ⟨e, mem_cons_self, rfl⟩
    · rcases ih later with same | ⟨old, inT, same⟩
      · exact .inl same
      · exact .inr ⟨old, mem_cons_of_mem _ inT, same⟩
  | case3 first rest late after =>
    rcases mem_cons.1 mem with rfl | old
    · exact .inl rfl
    · exact .inr ⟨e, old, rfl⟩
  | case4 first rest late early =>
    rcases mem_cons.1 mem with rfl | old
    · exact .inr ⟨first, mem_cons_self, rfl⟩
    · exact .inr ⟨e, mem_cons_of_mem _ old, rfl⟩

lemma sorted_withPair (key v : Blob)
    (sorted : es.Pairwise fun prior later => prior.key.less later.key) :
    (withPair key v es).1.Pairwise fun prior later => prior.key.less later.key := by
  fun_induction withPair key v es with
  | case1 => exact pairwise_singleton _ _
  | case2 first rest pre ih =>
    rcases pairwise_cons.1 sorted with ⟨least, later⟩
    refine pairwise_cons.2 ⟨fun e mem => ?_, ih later⟩
    rcases mem_withPair mem with same | ⟨old, inT, same⟩
    · rw [same]
      exact pre
    · rw [← same]
      exact least old inT
  | case3 first rest late after =>
    refine pairwise_cons.2 ⟨fun e mem => ?_, sorted⟩
    rcases mem_cons.1 mem with rfl | later
    · exact after
    · exact less_trans after ((pairwise_cons.1 sorted).1 e later)
  | case4 first rest late early => exact pairwise_cons.2 (pairwise_cons.1 sorted)

lemma sum_withPair (key v : Blob) (es : List CacheEntry) :
    ((withPair key v es).1.map CacheEntry.size).sum + (withPair key v es).2.elim 0 length =
      (es.map CacheEntry.size).sum + v.length +
        (withPair key v es).2.elim key.length fun _ => 0 := by
  fun_induction withPair key v es with
  | case1 => simp [CacheEntry.size, Nat.add_comm]
  | case2 first rest old ih =>
    simp only [map_cons, sum_cons]
    omega
  | case3 first rest late after =>
    simp only [map_cons, sum_cons, CacheEntry.size, Option.elim_none]
    omega
  | case4 first rest late early =>
    simp only [map_cons, sum_cons, CacheEntry.size, Option.elim_some]
    omega

lemma Sound.newTotalSize (sound : cache.Sound limits)
    (fits : cache.mTotalSize + key.length + v.length < 2 ^ 64) :
    cache.newTotalSize key v (withPair key v cache.mCacheEntries).2 =
      ((withPair key v cache.mCacheEntries).1.map CacheEntry.size).sum := by
  have sum := sum_withPair key v cache.mCacheEntries
  rw [← sound.total] at sum
  cases hit : (withPair key v cache.mCacheEntries).2 with
  | none =>
    simp only [hit, Option.elim_none] at sum
    simp only [BlobCache.newTotalSize, sizeT]
    omega
  | some oldValue =>
    simp only [hit, Option.elim_some] at sum
    simp only [BlobCache.newTotalSize, sizeT]
    omega

/-! ## Calls keep the books -/

section

variable (sound : cache.Sound limits) (fit : limits.Fit)
include sound fit

lemma Sound.setLoop (shortKey : key.length ≤ limits.mMaxKeySize)
    (shortValue : v.length ≤ limits.mMaxValueSize) (rounds : Nat)
    (suff : (if cache.isCleanable limits then 1 else 0) < rounds) :
    ∃ next, BlobCache.setLoop limits random key v rounds cache = .ok next ∧
      next.Sound limits := by
  induction rounds generalizing cache with
  | zero => simp at suff
  | succ rounds ih =>
    have bound := sound.bounded
    simp only [Limits.Fit] at fit
    have total := sound.newTotalSize (by omega : cache.mTotalSize + key.length + v.length < _)
    simp only [BlobCache.setLoop]
    split_ifs with exceeds full
    · rcases sound.clean (by omega) rfl with ⟨cleaned, cleans, cleanedSound, clean⟩
      rw [cleans]
      rw [if_pos full] at suff
      apply ih cleanedSound
      simp only [clean, Bool.false_eq_true, if_false]
      omega
    · exact ⟨cache, rfl, sound⟩
    · exact ⟨_, rfl, sorted_withPair key v sound.sorted, total, by simpa using exceeds⟩

lemma Sound.set : ∃ next, cache.set limits random key v = .ok next ∧ next.Sound limits := by
  simp only [BlobCache.set]
  split_ifs with no
  · exact ⟨cache, rfl, sound⟩
  · simp only [not_or, not_lt] at no
    exact sound.setLoop fit no.1 no.2.1 2 (by split_ifs <;> omega)

lemma Sound.setAll (random : Nat → Nat → Nat) (es : List CacheEntry) :
    ∃ next, BlobCache.setAll limits random es cache = .ok next ∧ next.Sound limits := by
  induction es generalizing cache with
  | nil => exact ⟨cache, rfl, sound⟩
  | cons e rest ih =>
    rcases sound.set fit with ⟨next, sets, nextSound⟩
    rw [BlobCache.setAll, sets]
    exact ih nextSound

end

/-- The cache is emptied only where it has no entries: `clear` and `unflatten` are called on an
empty cache, and a buffer for `unflatten` that has entries has all of them. -/
def EmptiesEmpty : Except Fault BlobCache → Call → Prop
  | .ok cache, .clear => cache.mCacheEntries = []
  | .ok cache, .unflatten _ buffer size => cache.mCacheEntries = [] ∧
      ((contents buildId buffer size).1 = 0 ∨ (contents buildId buffer size).2 = [])
  | _, _ => True

lemma clear_eq (empty : cache.mCacheEntries = []) : cache.clear = cache := by
  cases cache
  cases empty
  rfl

lemma Sound.step (sound : cache.Sound limits) (fit : limits.Fit)
    (cond : EmptiesEmpty buildId (.ok cache) call) :
    ∃ next, BlobCache.step buildId limits (.ok cache) call = .ok next ∧ next.Sound limits := by
  cases call with
  | set random key v => exact sound.set fit
  | get key valueSize => exact ⟨cache, rfl, sound⟩
  | flatten buf size => exact ⟨cache, rfl, sound⟩
  | clear => exact ⟨cache, by rw [BlobCache.step, clear_eq cond], sound⟩
  | unflatten random buf size =>
    rcases cond with ⟨empty, whole⟩
    simp only [BlobCache.step, BlobCache.unflatten, clear_eq empty]
    rcases whole with noError | none
    · rcases sound.setAll fit random (contents buildId buf size).2 with ⟨next, sets, nextSound⟩
      exact ⟨next, by simp [sets, noError, Except.map], nextSound⟩
    · refine ⟨cache, ?_, sound⟩
      rw [none]
      simp [BlobCache.setAll, Except.map, clear_eq empty]

lemma sound_run (fit : limits.Fit)
    (along : Machine.Along (step buildId limits) (EmptiesEmpty buildId) (.ok create) calls) :
    ∃ cache, run (step buildId limits) (.ok create) calls = .ok cache ∧
      cache.Sound limits := by
  have kept : ∀ (oc : Except Fault BlobCache) (call : Call),
      (∃ cache, oc = .ok cache ∧ cache.Sound limits) → EmptiesEmpty buildId oc call →
        ∃ next, step buildId limits oc call = .ok next ∧ next.Sound limits := by
    rintro _ call ⟨cache, rfl, sound⟩ cond
    exact sound.step buildId fit cond
  have init : ∃ cache, (.ok create : Except Fault BlobCache) = .ok cache ∧
      cache.Sound limits := ⟨create, rfl, List.Pairwise.nil, rfl, Nat.zero_le _⟩
  exact run_invariant kept init along

/-- In every run that empties only an empty cache, no call fails, the entries are strictly
sorted, and the recorded size is the sum of their sizes and not above the maximum. -/
theorem run_accounted (limits : Limits) (fit : limits.Fit) (calls : List Call)
    (along : Machine.Along (step buildId limits) (EmptiesEmpty buildId) (.ok create) calls) :
    ∃ cache, run (step buildId limits) (.ok create) calls = .ok cache ∧
      cache.mCacheEntries.Pairwise (fun earlier later => earlier.key.less later.key) ∧
      cache.mTotalSize = (cache.mCacheEntries.map CacheEntry.size).sum ∧
      cache.mTotalSize ≤ limits.mMaxTotalSize := by
  rcases sound_run buildId fit along with ⟨cache, ends, sound⟩
  exact ⟨cache, ends, sound.sorted, sound.total, sound.bounded⟩

def smallLimits : Limits := ⟨4, 4, 4⟩

def threePairs : List Call := [.clear, .set id [1] [5], .set id [2] [6], .set id [3] [7]]

theorem run_accounted_threePairs :
    (run (step [] smallLimits) (.ok create) threePairs).toOption.map mTotalSize = some 4 ∧
    ∃ cache, run (step [] smallLimits) (.ok create) threePairs = .ok cache ∧
      cache.mCacheEntries.Pairwise (fun earlier later => earlier.key.less later.key) ∧
      cache.mTotalSize = (cache.mCacheEntries.map CacheEntry.size).sum ∧
      cache.mTotalSize ≤ smallLimits.mMaxTotalSize :=
  ⟨rfl, run_accounted [] smallLimits (by simp [Limits.Fit, smallLimits]) threePairs
    ⟨rfl, trivial, trivial, trivial, trivial⟩⟩

/-- The size of a pair stays in the books when the cache is cleared, and the next `set` has to
choose a victim among no entries. -/
theorem clear_keeps_total :
    run (step [] smallLimits) (.ok create) [.set id [1] [5, 6], .clear] = .ok ⟨3, []⟩ ∧
    run (step [] smallLimits) (.ok create)
      [.set id [1] [5, 6], .clear, .set id [1] [5, 6]] = .error .divisionByZero :=
  ⟨rfl, rfl⟩

/-! ## What was just stored -/

def Fits (limits : Limits) (key value : Blob) (cache : BlobCache) : Prop :=
  cache.newTotalSize key value (withPair key value cache.mCacheEntries).2 ≤ limits.mMaxTotalSize

lemma get_withPair (short : key.length ≤ limits.mMaxKeySize) :
    get limits ⟨total, (withPair key v es).1⟩ key v.length =
      (v.length, some v) := by
  have irrefl : key.less key = false := by simp [Blob.less]
  simp only [get, Nat.not_lt.2 short, if_false]
  fun_induction withPair key v es with
  | case1 => simp [irrefl]
  | case2 first rest old ih => simpa [old] using ih
  | case3 first rest late after => simp [irrefl]
  | case4 first rest late early => simp [late, early]

lemma fits_of_get (sound : cache.Sound limits) (fits : limits.mMaxTotalSize < 2 ^ 64)
    (hit : cache.get limits key v.length = (v.length, some v)) :
    cache.Fits limits key v := by
  have repl : (withPair key v cache.mCacheEntries).2 = some v := by
    simp only [get] at hit
    split_ifs at hit
    · simp at hit
    · generalize cache.mCacheEntries = es at hit
      fun_induction withPair key v es with
      | case1 => simp at hit
      | case2 first rest old ih => exact ih (by simpa [old] using hit)
      | case3 first rest late after => simp [late, after] at hit
      | case4 first rest late early =>
        simp only [late, early, find?_cons_of_pos, Bool.not_false, Bool.false_eq_true,
          if_false, Prod.mk.injEq] at hit
        simpa [hit.1.le] using hit.2
  have bound := sound.bounded
  simp only [Fits, repl, newTotalSize, sizeT]
  omega

lemma get_setLoop (sound : cache.Sound limits) (fits : limits.mMaxTotalSize < 2 ^ 64)
    (short : key.length ≤ limits.mMaxKeySize) (clean : cache.isCleanable limits = false) :
    (∃ next, setLoop limits random key v (rounds + 1) cache = .ok next ∧
        next.get limits key v.length = (v.length, some v)) ↔
      cache.Fits limits key v := by
  by_cases room : cache.Fits limits key v
  · simp only [setLoop, if_neg (Nat.not_lt.2 room)]
    exact iff_of_true ⟨_, rfl, get_withPair short⟩ room
  · simp only [setLoop, if_pos (Nat.not_le.1 room), clean, Bool.false_eq_true, if_false]
    refine iff_of_false ?_ room
    rintro ⟨_, ⟨⟩, hit⟩
    exact room (fits_of_get sound fits hit)

/-- After a `set` in a run, `get` returns the value exactly if the pair fits, either at once or
beside what `clean` leaves of a cache that is more than half full. -/
theorem get_set_iff (limits : Limits) (fit : limits.Fit) (calls : List Call)
    (along : Machine.Along (step buildId limits) (EmptiesEmpty buildId) (.ok create) calls)
    (reached : run (step buildId limits) (.ok create) calls = .ok cache)
    (random : Nat → Nat) {key value : Blob} (nonempty : key.length ≠ 0 ∧ value.length ≠ 0)
    (within : key.length ≤ limits.mMaxKeySize ∧ value.length ≤ limits.mMaxValueSize ∧
      key.length + value.length ≤ limits.mMaxTotalSize) :
    (∃ next, cache.set limits random key value = .ok next ∧
        next.get limits key value.length = (value.length, some value)) ↔
      cache.Fits limits key value ∨ cache.isCleanable limits = true ∧
        ∃ cleaned, cache.clean limits random cache.mCacheEntries.length = .ok cleaned ∧
          cleaned.Fits limits key value := by
  rcases sound_run buildId fit along with ⟨_, ends, sound⟩
  cases reached.symm.trans ends
  have fits : limits.mMaxTotalSize < 2 ^ 64 := by
    simp only [Limits.Fit] at fit
    omega
  have taken : cache.set limits random key value = setLoop limits random key value 2 cache := by
    rw [set, if_neg]
    simp only [sizeT]
    omega
  rw [taken]
  cases full : cache.isCleanable limits with
  | false => simp [get_setLoop sound fits within.1 full]
  | true =>
    by_cases room : cache.Fits limits key value
    · simp only [setLoop, if_neg (Nat.not_lt.2 room)]
      exact iff_of_true ⟨_, rfl, get_withPair within.1⟩ (.inl room)
    · have ends : ∃ cleaned, cache.clean limits random cache.mCacheEntries.length = .ok cleaned ∧ _ :=
        sound.clean fits rfl
      rcases ends with ⟨cleaned, cleans, cleanedSound, clean⟩
      have again : setLoop limits random key value 2 cache =
          setLoop limits random key value 1 cleaned := by
        rw [setLoop]
        simp only [if_pos (Nat.not_le.1 room), full, if_true, cleans]
        rfl
      rw [again, get_setLoop cleanedSound fits within.1 clean]
      simp [room, cleans]

theorem get_set_iff_onePair : ∃ next, set smallLimits id ⟨2, [⟨[1], [5]⟩]⟩ [2] [6] = .ok next ∧
      next.get smallLimits [2] 1 = (1, some [6]) :=
  (get_set_iff [] smallLimits (by simp [Limits.Fit, smallLimits]) [.set id [1] [5]]
    ⟨trivial, trivial⟩ rfl id (by decide) (by decide)).2 (.inl (Nat.le_refl 4))

/-- The cache is half full, so nothing is evicted for a pair that is larger than the rest. -/
theorem set_refused_halfFull :
    run (step [] smallLimits) (.ok create) [.set id [1] [5], .set id [2] [6, 7]] =
      .ok ⟨2, [⟨[1], [5]⟩]⟩ ∧ get smallLimits ⟨2, [⟨[1], [5]⟩]⟩ [2] 2 = (0, none) :=
  ⟨rfl, rfl⟩

end BlobCache

end NativeLibs.Egl
