import Mathlib.Data.List.Basic
import Mathlib.Order.Basic

/-! # Key character maps

A map is sent in a parcel, whose words may be anything when it is read. -/

namespace NativeLibs.Input

open List

abbrev Word := BitVec 32

structure Behavior where
  metaState : Word
  character : BitVec 16
  fallbackKeyCode : Word
  replacementKeyCode : Word

structure Key where
  label : BitVec 16
  number : BitVec 16
  behaviors : List Behavior

abbrev Ascending (keys : List (Word × Key)) : Prop :=
  keys.Pairwise fun first second => first.1.toInt < second.1.toInt

structure KeyCharacterMap where
  mType : Word
  mKeys : List (Word × Key)
  sorted : Ascending mKeys

namespace KeyCharacterMap

def MAX_KEYS : Nat := 8192

/-! ## Questions -/

section

variable (map : KeyCharacterMap) (keyCode metaState : Word)

def getKey : Option Key := map.mKeys.lookup keyCode

def getDisplayLabel : BitVec 16 := (map.getKey keyCode).elim 0 Key.label

def getNumber : BitVec 16 := (map.getKey keyCode).elim 0 Key.number

def matchIn (chars : List (BitVec 16)) (result : BitVec 16) : List Behavior → BitVec 16
  | [] => result
  | behavior :: rest =>
    if behavior.character ≠ 0 ∧ behavior.character ∈ chars then
      if behavior.metaState &&& metaState = behavior.metaState then behavior.character
      else matchIn chars behavior.character rest
    else matchIn chars result rest

def getMatch (chars : List (BitVec 16)) : BitVec 16 :=
  (map.getKey keyCode).elim 0 fun key => matchIn metaState chars 0 key.behaviors

/-- The last behaviour of the first key that has one for the character. -/
def findKey (ch : BitVec 16) : Option (Word × Word) :=
  if ch = 0 then none
  else map.mKeys.findSome? fun entry =>
    (entry.2.behaviors.reverse.find? fun behavior => behavior.character == ch).map fun found =>
      (entry.1, found.metaState)

-- What the meta states are compared with and become, and the events of one character, do not
-- depend on the map.
variable (matchesMetaState : Word → Word → Bool) (newMetaState : Word → Word → Word)
  (charEvents : Word → Word → List α)

def getKeyBehavior : Option Behavior :=
  (map.getKey keyCode).bind fun key =>
    key.behaviors.find? fun behavior => matchesMetaState metaState behavior.metaState

def getCharacter : BitVec 16 :=
  (map.getKeyBehavior keyCode metaState matchesMetaState).elim 0 Behavior.character

def getFallbackAction : Option (Word × Word) :=
  ((map.getKeyBehavior keyCode metaState matchesMetaState).filter (·.fallbackKeyCode ≠ 0)).map
    fun behavior => (behavior.fallbackKeyCode, metaState &&& ~~~behavior.metaState)

def tryRemapKey : Word × Word :=
  ((map.getKeyBehavior keyCode metaState matchesMetaState).filter (·.replacementKeyCode ≠ 0)).elim
    (keyCode, metaState)
    fun behavior => (behavior.replacementKeyCode, newMetaState metaState behavior.metaState)

/-- The events of the characters before one that no key has are still added. -/
def getEvents : List (BitVec 16) → Bool × List α
  | [] => (true, [])
  | ch :: rest =>
    match map.findKey ch with
    | none => (false, [])
    | some (keyCode, metaState) =>
      let later := getEvents rest
      (later.1, charEvents keyCode metaState ++ later.2)

end

/-! ## Parcels -/

def writeBehavior (behavior : Behavior) : List Word :=
  [1, behavior.metaState, behavior.character.setWidth 32, behavior.fallbackKeyCode,
    behavior.replacementKeyCode]

def writeKey (entry : Word × Key) : List Word :=
  [entry.1, entry.2.label.setWidth 32, entry.2.number.setWidth 32] ++
    entry.2.behaviors.flatMap writeBehavior ++ [0]

def writeToParcel (map : KeyCharacterMap) : List Word :=
  [map.mType, BitVec.ofNat 32 map.mKeys.length] ++ map.mKeys.flatMap writeKey

/-- Behind the end of the parcel there is 0, and `mError` is not set. -/
def readInt32 (words : List Word) (i : Nat) : Word := words.getD i 0

def readBehaviors (words : List Word) : List Behavior × List Word :=
  match words with
  | [] => ([], [])
  | more :: rest =>
    if more = 0 then ([], rest)
    else
      let later := readBehaviors (rest.drop 4)
      (⟨readInt32 rest 0, (readInt32 rest 1).setWidth 16, readInt32 rest 2, readInt32 rest 3⟩ ::
        later.1, later.2)
termination_by words.length

/-- The key takes its place, or that of the one which has its key code. -/
def addKey (keyCode : Word) (key : Key) (keys : List (Word × Key)) : List (Word × Key) :=
  keys.filter (·.1.toInt < keyCode.toInt) ++
    (keyCode, key) :: keys.filter (keyCode.toInt < ·.1.toInt)

def readKeys : Nat → List (Word × Key) → List Word → List (Word × Key)
  | 0, keys, _ => keys
  | numKeys + 1, keys, words =>
    let behaviors := readBehaviors (words.drop 3)
    readKeys numKeys (addKey (readInt32 words 0) ⟨(readInt32 words 1).setWidth 16,
      (readInt32 words 2).setWidth 16, behaviors.1⟩ keys) behaviors.2

variable {keys : List (Word × Key)}

lemma sorted_addKey (sorted : Ascending keys) : Ascending (addKey keyCode key keys) := by
  refine pairwise_append.2 ⟨sorted.filter _, pairwise_cons.2 ⟨by simp, sorted.filter _⟩, ?_⟩
  simp only [mem_filter, decide_eq_true_eq, forall_mem_cons]
  exact fun first below => ⟨below.2, fun second above => Int.lt_trans below.2 above.2⟩

lemma sorted_readKeys (numKeys : Nat) (sorted : Ascending keys) (words : List Word) :
    Ascending (readKeys numKeys keys words) := by
  induction numKeys generalizing keys words with
  | zero => exact sorted
  | succ numKeys ih => exact ih (sorted_addKey sorted) _

def readFromParcel (mError : Bool) (words : List Word) : Option KeyCharacterMap :=
  -- a negative number of keys is too large as well
  if mError = true ∨ MAX_KEYS < (readInt32 words 1).toNat then none
  else some ⟨readInt32 words 0, readKeys (readInt32 words 1).toNat [] (words.drop 2),
    sorted_readKeys _ .nil _⟩

lemma length_addKey_le (keyCode : Word) (key : Key) (keys : List (Word × Key)) :
    (addKey keyCode key keys).length ≤ keys.length + 1 := by
  induction keys with
  | nil => simp [addKey]
  | cons first rest ih =>
    simp only [addKey, filter_cons, length_append, length_cons, decide_eq_true_eq] at ih ⊢
    split_ifs <;> grind

lemma length_readKeys_le (numKeys : Nat) (keys : List (Word × Key)) (words : List Word) :
    (readKeys numKeys keys words).length ≤ keys.length + numKeys := by
  induction numKeys generalizing keys words with
  | zero => exact Nat.le_refl _
  | succ numKeys ih =>
    rw [readKeys]
    refine Nat.le_trans (ih _ _) ?_
    grind [length_addKey_le]

lemma readBehaviors_write (behaviors : List Behavior) (rest : List Word) :
    readBehaviors (behaviors.flatMap writeBehavior ++ 0 :: rest) = (behaviors, rest) := by
  induction behaviors with
  | nil => simp [readBehaviors]
  | cons behavior later ih =>
    rw [flatMap_cons, writeBehavior, append_assoc, cons_append, readBehaviors]
    simpa [readInt32] using Prod.ext_iff.1 ih

lemma addKey_last (below : ∀ e ∈ keys, e.1.toInt < keyCode.toInt) :
    addKey keyCode key keys = keys ++ [(keyCode, key)] := by
  have above : keys.filter (keyCode.toInt < ·.1.toInt) = [] := by
    simpa using fun code key mem => Int.le_of_lt (below (code, key) mem)
  rw [addKey, above, filter_eq_self.2 (by simpa using below)]

lemma readKeys_write (done keys : List (Word × Key)) (sorted : Ascending (done ++ keys))
    (rest : List Word) :
    readKeys keys.length done (keys.flatMap writeKey ++ rest) = done ++ keys := by
  induction keys generalizing done with
  | nil => simp [readKeys]
  | cons e later ih =>
    have below : ∀ other ∈ done, other.1.toInt < e.1.toInt := fun other mem =>
      (pairwise_append.1 sorted).2.2 other mem e mem_cons_self
    have behaviors := readBehaviors_write e.2.behaviors (later.flatMap writeKey ++ rest)
    have next : readKeys _ (done ++ [e]) _ = _ := ih _ (by simpa using sorted)
    rw [BitVec.ofNat_eq_ofNat] at behaviors
    simpa [readKeys, writeKey, readInt32, behaviors, addKey_last below] using next

/-- A map that is read back answers every question as the map that was written, and whatever a
parcel holds, reading ends with no map or one of at most `MAX_KEYS` keys. -/
theorem readFromParcel_writeToParcel :
    (∀ (map : KeyCharacterMap) (rest : List Word), map.mKeys.length ≤ MAX_KEYS →
      ∃ back, readFromParcel false (map.writeToParcel ++ rest) = some back ∧
        back.getDisplayLabel = map.getDisplayLabel ∧ back.getNumber = map.getNumber ∧
        back.getCharacter = map.getCharacter ∧ back.getFallbackAction = map.getFallbackAction ∧
        back.getMatch = map.getMatch ∧ back.getEvents (α := α) = map.getEvents ∧
        back.tryRemapKey = map.tryRemapKey) ∧
    ∀ mError words, ∀ back ∈ readFromParcel mError words, back.mKeys.length ≤ MAX_KEYS := by
  constructor
  · intro map rest fits
    refine ⟨map, ?_, rfl, rfl, rfl, rfl, rfl, rfl, rfl⟩
    have count : (readInt32 (map.writeToParcel ++ rest) 1).toNat = map.mKeys.length :=
      (BitVec.toNat_ofNat _ 32).trans (Nat.mod_eq_of_lt (Nat.lt_of_le_of_lt fits (by decide)))
    have keys : readKeys map.mKeys.length [] ((map.writeToParcel ++ rest).drop 2) = map.mKeys :=
      readKeys_write [] map.mKeys map.sorted rest
    simp only [readFromParcel, count, keys, Nat.not_lt.2 fits, Bool.false_eq_true, or_self,
      if_false]
    rfl
  · intro mError words back isBack
    rcases Option.ite_none_left_eq_some.1 isBack with ⟨fits, isMap⟩
    cases isMap
    have short := length_readKeys_le (readInt32 words 1).toNat [] (words.drop 2)
    rw [length_nil, Nat.zero_add] at short
    exact Nat.le_trans short (Nat.not_lt.1 (not_or.1 fits).2)

end KeyCharacterMap

end NativeLibs.Input
