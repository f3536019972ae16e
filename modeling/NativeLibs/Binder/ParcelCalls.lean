import NativeLibs.Binder.Parcel
import NativeLibs.Foundation.Machine

/-! # Calls on a parcel

A run of a parcel is a sequence of calls. Here is what the calls do to the buffer: which of
them only read, when a buffer grows, and how a write makes room for its bytes. -/

namespace NativeLibs.Binder

open Bytes (Memory store load)
open List Parcel

namespace Parcel

/-- The calls that are `const`. A position above `INT32_MAX` is fatal. -/
inductive ReadCall where
  | read (len : Nat)
  | readInplace (len : Nat)
  | readAligned (size : Nat)
  | readObject (nullMetaData : Bool)
  | setDataPosition (position : Fin (2 ^ 31))

inductive Call where
  | reading (call : ReadCall)
  | write (bytes : List UInt8) (heap : Heap)
  | writeInplace (len : Nat) (heap : Heap)
  | writeAligned (value : Aligned) (heap : Heap)
  | writeUnpadded (bytes : List UInt8) (heap : Heap)
  | writeObject (object : FlatBinderObject) (nullMetaData : Bool) (heap : Heap)
  | appendFrom (source : Parcel) (offset len : Nat) (dup : Nat → BitVec 32) (heap : Heap)
  | setDataSize (size : Nat) (heap : Heap)
  | setDataCapacity (size : Nat) (heap : Heap)

variable (parcel : Parcel)

def performRead : ReadCall → Bool × Parcel
  | .read len => let (bytes, next) := parcel.read len; (bytes.isOk, next)
  | .readInplace len => let (offset, next) := parcel.readInplace len; (offset.isSome, next)
  | .readAligned size => let (bytes, next) := parcel.readAligned size; (bytes.isOk, next)
  | .readObject nullMetaData =>
    let (offset, next) := parcel.readObject nullMetaData; (offset.isSome, next)
  | .setDataPosition position => (true, parcel.setDataPosition position)

def reported (result : ParcelStatus × Parcel) : Bool × Parcel :=
  (result.1 = .noError, result.2)

def perform : Call → Bool × Parcel
  | .reading call => parcel.performRead call
  | .write bytes heap => reported (parcel.write bytes heap)
  | .writeInplace len heap =>
    let (offset, next) := parcel.writeInplace len heap; (offset.isSome, next)
  | .writeAligned value heap => reported (parcel.writeAligned value heap)
  | .writeUnpadded bytes heap => reported (parcel.writeUnpadded bytes heap)
  | .writeObject object nullMetaData heap => reported (parcel.writeObject object nullMetaData heap)
  | .appendFrom source offset len dup heap => reported (parcel.appendFrom source offset len dup heap)
  | .setDataSize size heap => reported (parcel.setDataSize size heap)
  | .setDataCapacity size heap => reported (parcel.setDataCapacity size heap)

def step (call : Call) : Parcel := (parcel.perform call).2

variable {parcel next : Parcel}

/-! ## Reading -/

inductive ReadStep (parcel : Parcel) : Parcel → Prop where
  | refused : ReadStep parcel parcel
  | ranged (padded : Nat) : ReadStep parcel (parcel.readRange padded).2
  /-- An object that is null or that is not in the table. -/
  | unlisted : ReadStep parcel { parcel with mDataPos := parcel.mDataPos + flatSize }
  | listed (index : Nat) (bound : index < parcel.mObjects.length)
      (offset : parcel.mObjects.getD index 0 = parcel.mDataPos) :
      ReadStep parcel
        { parcel with mDataPos := parcel.mDataPos + flatSize, mNextObjectHint := index + 1 }
  | positioned (position : Nat) : ReadStep parcel (parcel.setDataPosition position)

lemma searchForward_lt (fuel : Nat) (bound : i < objs.length) :
    searchForward objs pos fuel i < objs.length := by
  induction fuel generalizing i with
  | zero => exact bound
  | succ fuel ih =>
    rw [searchForward]
    split_ifs with more
    · exact ih (by omega)
    · exact bound

lemma searchBackward_le (objs : List Nat) (pos i : Nat) : searchBackward objs pos i ≤ i := by
  induction i with
  | zero => exact Nat.le_refl 0
  | succ i ih =>
    rw [searchBackward]
    split_ifs
    · exact Nat.le_succ_of_le ih
    · exact Nat.le_refl _

lemma findObject_some (hit : findObject objs pos hint = some i) :
    i < objs.length ∧ objs.getD i 0 = pos := by
  unfold findObject at hit
  by_cases empty : objs.length = 0
  · simp [empty] at hit
  · rw [if_neg empty] at hit
    generalize met : (if hint < objs.length then
      searchForward objs pos objs.length hint else objs.length - 1) = forward
      at hit
    have forwardBound : forward < objs.length := by
      rw [← met]
      split_ifs with mem
      · exact searchForward_lt _ mem
      · omega
    dsimp only at hit
    split_ifs at hit with atForward atBackward
    · cases hit
      exact ⟨forwardBound, atForward⟩
    · cases hit
      exact ⟨Nat.lt_of_le_of_lt (searchBackward_le _ _ _) forwardBound, atBackward⟩

section

variable (parcel)

lemma read_next (len : Nat) : ReadStep parcel (parcel.read len).2 := by
  have moved : ReadStep parcel (parcel.readRange (padSize len)).2 := .ranged _
  unfold read
  split_ifs
  · exact .refused
  · generalize parcel.readRange (padSize len) = res at moved ⊢
    rcases res with ⟨_ | _, _⟩ <;> exact moved
  · exact .refused

lemma readInplace_next (len : Nat) : ReadStep parcel (parcel.readInplace len).2 := by
  have moved : ReadStep parcel (parcel.readRange (padSize len)).2 := .ranged _
  unfold readInplace
  by_cases long : len > int32Max
  · rw [if_pos long]
    exact .refused
  · rw [if_neg long]
    split
    · generalize parcel.readRange (padSize len) = res at moved ⊢
      rcases res with ⟨_ | _, _⟩ <;> exact moved
    · exact .refused

lemma readAligned_next (size : Nat) : ReadStep parcel (parcel.readAligned size).2 := by
  have moved : ReadStep parcel (parcel.readRange size).2 := .ranged _
  unfold readAligned
  split
  · generalize parcel.readRange size = res at moved ⊢
    rcases res with ⟨_ | _, _⟩ <;> exact moved
  · exact .refused

lemma readObject_next (nullMetaData : Bool) :
    ReadStep parcel (parcel.readObject nullMetaData).2 := by
  unfold readObject
  dsimp only
  split_ifs
  · exact .unlisted
  · cases hit : findObject parcel.mObjects parcel.mDataPos parcel.mNextObjectHint with
    | none => exact .unlisted
    | some i =>
      rcases findObject_some hit with ⟨bound, off⟩
      exact .listed i bound off
  · exact .refused

lemma performRead_next (call : ReadCall) : ReadStep parcel (parcel.performRead call).2 := by
  cases call with
  | read len => exact parcel.read_next len
  | readInplace len => exact parcel.readInplace_next len
  | readAligned size => exact parcel.readAligned_next size
  | readObject nullMetaData => exact parcel.readObject_next nullMetaData
  | setDataPosition pos => exact .positioned pos

lemma passObjects_le {count : Nat} (passed : passObjects pos upper objs = some count) :
    count ≤ objs.length := by
  induction objs generalizing count with
  | nil => simp_all [passObjects]
  | cons obj rest ih =>
    rw [passObjects] at passed
    split_ifs at passed
    · rcases Option.map_eq_some_iff.1 passed with ⟨later, hit, rfl⟩
      exact Nat.succ_le_succ (ih hit)
    · cases passed
      exact Nat.zero_le _

lemma validateReadData_next (upper : Nat) : ∃ objs hint, ∃ sorted : Bool, objs.Perm parcel.mObjects ∧
      (parcel.mNextObjectHint ≤ parcel.mObjects.length → hint ≤ parcel.mObjects.length) ∧
      (parcel.validateReadData upper).2 =
        { parcel with mObjects := objs, mNextObjectHint := hint, mObjectsSorted := sorted } := by
  have check : ∀ low : Parcel, ∃ hint,
      (low.mNextObjectHint ≤ low.mObjects.length → hint ≤ low.mObjects.length) ∧
      (low.checkObjects upper).2 = { low with mNextObjectHint := hint } := by
    intro low
    unfold checkObjects
    cases passed : passObjects low.mDataPos upper
        (low.mObjects.drop low.mNextObjectHint) with
    | none => exact ⟨low.mNextObjectHint, id, rfl⟩
    | some count =>
      have bound := passObjects_le passed
      rw [length_drop] at bound
      exact ⟨low.mNextObjectHint + count, fun mem => by omega, rfl⟩
  unfold validateReadData
  split_ifs
  · rcases check parcel with ⟨hint, bound, same⟩
    exact ⟨_, hint, _, .refl _, bound, same⟩
  · rcases check { parcel with mObjectsSorted := true } with ⟨hint, bound, same⟩
    exact ⟨_, hint, _, .refl _, bound, same⟩
  · have permuted := perm_insertionSort (· ≤ ·) parcel.mObjects
    rcases check { parcel with
      mObjects := parcel.mObjects.insertionSort (· ≤ ·)
      mNextObjectHint := 0
      mObjectsSorted := true } with ⟨hint, bound, same⟩
    refine ⟨_, hint, _, permuted, fun _ => ?_, same⟩
    rw [← permuted.length_eq]
    exact bound (Nat.zero_le _)

lemma readRange_next (padded : Nat) : ∃ objs hint, ∃ sorted : Bool, objs.Perm parcel.mObjects ∧
      (parcel.mNextObjectHint ≤ parcel.mObjects.length → hint ≤ parcel.mObjects.length) ∧
      (parcel.readRange padded).2 = { parcel with
        mDataPos := parcel.mDataPos + padded
        mObjects := objs
        mNextObjectHint := hint
        mObjectsSorted := sorted } := by
  unfold readRange
  by_cases some : parcel.mObjects.length > 0
  · rcases parcel.validateReadData_next (parcel.mDataPos + padded) with
      ⟨objs, hint, sorted, permuted, bound, same⟩
    refine ⟨objs, hint, sorted, permuted, bound, ?_⟩
    simp only [if_pos some, apply_ite Prod.snd, ite_self, same]
  · refine ⟨_, _, parcel.mObjectsSorted, .refl _, id, ?_⟩
    simp only [if_neg some, apply_ite Prod.snd, ite_self]

end

structure SameBuffer (parcel next : Parcel) : Prop where
  allocated : next.allocated = parcel.allocated
  size : next.mDataSize = parcel.mDataSize
  capacity : next.mDataCapacity = parcel.mDataCapacity
  owner : next.hasOwner = parcel.hasOwner

lemma ReadStep.sameBuffer (step : ReadStep parcel next) : parcel.SameBuffer next := by
  cases step with
  | ranged padded =>
    rcases parcel.readRange_next padded with ⟨objs, hint, sorted, _, _, same⟩
    rw [same]
    exact ⟨rfl, rfl, rfl, rfl⟩
  | refused | unlisted | listed | positioned => exact ⟨rfl, rfl, rfl, rfl⟩

/-! ## Growing -/

def wantedSize (parcel : Parcel) (len : Nat) : Nat := max (parcel.grownSize len) 128

def CanGrow (parcel : Parcel) (len : Nat) : Prop :=
  parcel.mDataSize < parcel.grownSize len ∧ parcel.wantedSize len ≤ int32Max

instance : Decidable (parcel.CanGrow len) := inferInstanceAs (Decidable (_ ∧ _))

inductive Grown (parcel : Parcel) (desired : Nat) : Parcel → Prop where
  | takenOver (owned : parcel.hasOwner = true) (garbage : Memory) : Grown parcel desired
      { parcel with
        allocated := true
        mData := copied parcel.mDataSize parcel.mData garbage
        mDataCapacity := desired
        mObjectsCapacity := parcel.mObjects.length
        mNextObjectHint := 0
        mObjectsSorted := false
        hasOwner := false }
  | reallocated (owned : parcel.hasOwner = false) (allocated : parcel.allocated = true)
      (larger : parcel.mDataCapacity < desired) (garbage : Memory) : Grown parcel desired
      { parcel with
        mData := copied parcel.mDataCapacity parcel.mData garbage
        mDataCapacity := desired }
  /-- There was enough already, and the position may have been beyond it. -/
  | kept (owned : parcel.hasOwner = false) (allocated : parcel.allocated = true)
      (enough : desired ≤ parcel.mDataCapacity) : Grown parcel desired
      { parcel with mDataPos := min parcel.mDataPos desired }
  | first (owned : parcel.hasOwner = false) (allocated : parcel.allocated = false)
      (garbage : Memory) : Grown parcel desired
      { parcel with
        allocated := true
        mData := garbage
        mDataSize := 0
        mDataPos := 0
        mDataCapacity := desired }

lemma Grown.allocated (grown : parcel.Grown desired next) : next.allocated = true := by
  cases grown with
  | takenOver => rfl
  | reallocated _ given => exact given
  | kept _ given => exact given
  | first => rfl

lemma continueWrite_next (parcel : Parcel) (heap : Heap) (fits : desired ≤ int32Max)
    (larger : parcel.mDataSize ≤ desired) (pos : 0 < desired) :
    (heap.data = false ∨ parcel.hasOwner = true) ∧
        parcel.continueWrite desired heap = parcel.outOfMemory ∨
      (parcel.continueWrite desired heap).1 = .noError ∧
        parcel.Grown desired (parcel.continueWrite desired heap).2 := by
  have count : parcel.objectsSize desired = parcel.mObjects.length := by
    rw [objectsSize, if_neg (Nat.not_lt.2 larger)]
  have notDropped : parcel.dropObjects parcel.mObjects.length heap = parcel := by
    rw [dropObjects, if_neg (Nat.lt_irrefl _)]
  have same : min parcel.mDataSize desired = parcel.mDataSize := Nat.min_eq_left larger
  unfold continueWrite
  rw [if_neg (Nat.not_lt.2 fits)]
  dsimp only
  rw [count, notDropped]
  split_ifs with owned given
  · unfold takeOver
    rw [if_neg (Nat.ne_of_gt pos)]
    split_ifs
    · exact .inl ⟨.inr owned, rfl⟩
    · exact .inl ⟨.inr owned, rfl⟩
    · refine .inr ⟨rfl, ?_⟩
      simp only [same, take_length]
      exact .takenOver owned heap.garbage
  · unfold resize
    split_ifs with more memory
    · exact .inr ⟨rfl, .reallocated (by simpa using owned) given more _⟩
    · exact .inl ⟨.inl (by simpa using memory), rfl⟩
    · refine .inr ⟨rfl, ?_⟩
      simp only [same]
      exact .kept (by simpa using owned) given (Nat.not_lt.1 more)
  · unfold firstData
    split_ifs with memory
    · exact .inr ⟨rfl, .first (by simpa using owned) (by simpa using given) _⟩
    · exact .inl ⟨.inl (by simpa using memory), rfl⟩

lemma growData_next (parcel : Parcel) (len : Nat) (heap : Heap) :
    (¬ parcel.CanGrow len ∧ (parcel.growData len heap).1 ≠ .noError ∧
        (parcel.growData len heap).2 = parcel) ∨
      (heap.data = false ∨ parcel.hasOwner = true) ∧ parcel.growData len heap = parcel.outOfMemory ∨
      parcel.CanGrow len ∧ (parcel.growData len heap).1 = .noError ∧
        parcel.Grown (parcel.wantedSize len) (parcel.growData len heap).2 := by
  by_cases can : parcel.CanGrow len
  · have wanted := can.2
    rw [wantedSize, Nat.max_le] at wanted
    have box : len ≤ int32Max ∧ parcel.mDataSize + len ≤ int32Max := by
      unfold grownSize at wanted
      omega
    have taken : parcel.growData len heap =
        parcel.continueWrite (parcel.wantedSize len) heap := by
      have maximum : int32Max < sizeMax / 3 := by decide
      unfold growData
      rw [if_neg (by omega), if_neg (by omega), if_neg (by omega),
        if_neg (Nat.not_le.2 can.1), wantedSize]
    rw [taken]
    have larger : parcel.mDataSize ≤ parcel.wantedSize len :=
      Nat.le_trans (Nat.le_of_lt can.1) (Nat.le_max_left _ _)
    have pos : 0 < parcel.wantedSize len :=
      Nat.lt_of_lt_of_le (by decide) (Nat.le_max_right _ 128)
    rcases parcel.continueWrite_next heap can.2 larger pos with bad | ⟨done, grown⟩
    · exact .inr (.inl bad)
    · exact .inr (.inr ⟨can, done, grown⟩)
  · refine .inl ⟨can, ?_⟩
    unfold growData
    split_ifs with _ _ _ small
    · exact ⟨nofun, rfl⟩
    · exact ⟨nofun, rfl⟩
    · exact ⟨nofun, rfl⟩
    · exact ⟨nofun, rfl⟩
    · have big : max (parcel.grownSize len) 128 > int32Max := by
        by_contra fits
        exact can ⟨Nat.not_le.1 small, Nat.not_lt.1 fits⟩
      rw [continueWrite, if_pos big]
      exact ⟨nofun, rfl⟩

/-! ## Room for a write -/

def makeRoom (parcel : Parcel) (len : Nat) (heap : Heap) : ParcelStatus × Parcel :=
  if parcel.mDataPos + len ≤ parcel.mDataCapacity then (.noError, parcel)
  else parcel.growData len heap

inductive Roomy (parcel : Parcel) (len : Nat) : Parcel → Prop where
  | before (fits : parcel.mDataPos + len ≤ parcel.mDataCapacity) : Roomy parcel len parcel
  | grown {ready : Parcel} (beyond : parcel.mDataCapacity < parcel.mDataPos + len)
      (can : parcel.CanGrow len) (grown : parcel.Grown (parcel.wantedSize len) ready) :
      Roomy parcel len ready

inductive Roomless (parcel : Parcel) (len : Nat) (heap : Heap) : Parcel → Prop where
  | refused (beyond : parcel.mDataCapacity < parcel.mDataPos + len)
      (cannot : ¬ parcel.CanGrow len) : Roomless parcel len heap parcel
  | outOfMemory (cause : heap.data = false ∨ parcel.hasOwner = true) :
      Roomless parcel len heap { parcel with mError := .noMemory }

section

variable (parcel)

lemma makeRoom_next (len : Nat) (heap : Heap) : ((parcel.makeRoom len heap).1 ≠ .noError ∧
        parcel.Roomless len heap (parcel.makeRoom len heap).2) ∨
      ∃ ready, parcel.makeRoom len heap = (.noError, ready) ∧ parcel.Roomy len ready := by
  unfold makeRoom
  split_ifs with fits
  · exact .inr ⟨parcel, rfl, .before fits⟩
  · have past := Nat.not_le.1 fits
    rcases parcel.growData_next len heap with ⟨cannot, bad, same⟩ | ⟨cause, bad⟩ | ⟨can, done, grown⟩
    · refine .inl ⟨bad, ?_⟩
      rw [same]
      exact .refused past cannot
    · rw [bad]
      exact .inl ⟨nofun, .outOfMemory cause⟩
    · refine .inr ⟨_, ?_, .grown past can grown⟩
      rw [← done]

def afterRoom (len : Nat) (heap : Heap) (finish : Parcel → ParcelStatus × Parcel) :
    ParcelStatus × Parcel :=
  match parcel.makeRoom len heap with
  | (.noError, ready) => finish ready
  | failed => failed

lemma afterRoom_next (len : Nat) (heap : Heap) (finish : Parcel → ParcelStatus × Parcel) :
    ((parcel.afterRoom len heap finish).1 ≠ .noError ∧
        parcel.Roomless len heap (parcel.afterRoom len heap finish).2) ∨
      ∃ ready, parcel.Roomy len ready ∧ parcel.afterRoom len heap finish = finish ready := by
  unfold afterRoom
  rcases parcel.makeRoom_next len heap with ⟨bad, full⟩ | ⟨ready, made, roomy⟩
  · generalize parcel.makeRoom len heap = res at bad full ⊢
    rcases res with ⟨stat, next⟩
    cases stat with
    | noError => exact absurd rfl bad
    | _ => exact .inl ⟨bad, full⟩
  · rw [made]
    exact .inr ⟨ready, roomy, rfl⟩

lemma writeAligned_eq (v : Aligned) (heap : Heap) : parcel.writeAligned v heap =
      parcel.afterRoom v.bytes.length heap fun ready => ready.put v.bytes := by
  unfold writeAligned afterRoom makeRoom
  split_ifs <;> rfl

lemma writeUnpadded_next (bytes : List UInt8) (heap : Heap) :
    parcel.writeUnpadded bytes heap = (.badValue, parcel) ∨ parcel.writeUnpadded bytes heap =
        parcel.afterRoom bytes.length heap fun ready => ready.put bytes := by
  unfold writeUnpadded
  by_cases long : bytes.length > int32Max
  · exact .inl (by rw [if_pos long])
  rw [if_neg long]
  by_cases wraps : parcel.mDataPos + bytes.length ≥ 2 ^ 64
  · exact .inl (by rw [if_pos wraps])
  · rw [if_neg wraps, afterRoom, makeRoom]
    exact .inr (by split_ifs <;> rfl)

def finishObject (tabled : Prop) [Decidable tabled] (object : FlatBinderObject)
    (nullMetaData : Bool) (heap : Heap) (ready : Parcel) : ParcelStatus × Parcel :=
  match if tabled then (.noError, ready) else ready.growObjects 2 heap with
  | (.noError, ready) => ready.putObject object nullMetaData
  | failed => failed

variable (obj : FlatBinderObject) (nullMetaData : Bool)

lemma writeObject_eq (heap : Heap) :
    parcel.writeObject obj nullMetaData heap = parcel.afterRoom flatSize heap
      (finishObject (parcel.mObjects.length < parcel.mObjectsCapacity) obj nullMetaData heap) :=
  rfl

lemma writeInplace_next (len : Nat) (heap : Heap) :
    (int32Max < len ∨ 2 ^ 64 ≤ parcel.mDataPos + padSize len) ∧
        parcel.writeInplace len heap = (none, parcel) ∨
      (∃ next, parcel.Roomless (padSize len) heap next ∧
        parcel.writeInplace len heap = (none, next)) ∨
      len ≤ int32Max ∧ ∃ ready, parcel.Roomy (padSize len) ready ∧ parcel.writeInplace len heap =
          (if ready.allocated then some ready.mDataPos else none, (ready.claim len).2) := by
  have room := parcel.makeRoom_next (padSize len) heap
  unfold makeRoom at room
  unfold writeInplace
  by_cases long : len > int32Max
  · exact .inl ⟨.inl long, by rw [if_pos long]⟩
  rw [if_neg long]
  dsimp only
  by_cases wraps : parcel.mDataPos + padSize len ≥ 2 ^ 64
  · exact .inl ⟨.inr wraps, by rw [if_pos wraps]⟩
  rw [if_neg wraps]
  by_cases fits : parcel.mDataPos + padSize len ≤ parcel.mDataCapacity
  · rw [if_pos fits]
    exact .inr (.inr ⟨Nat.not_lt.1 long, parcel, .before fits, rfl⟩)
  · rw [if_neg fits] at room ⊢
    rcases room with ⟨bad, full⟩ | ⟨ready, made, roomy⟩
    · generalize parcel.growData (padSize len) heap = res at bad full ⊢
      rcases res with ⟨stat, next⟩
      cases stat with
      | noError => exact absurd rfl bad
      | _ => exact .inr (.inl ⟨next, full, rfl⟩)
    · have given : ready.allocated = true := by
        cases roomy with
        | before suff => exact absurd suff fits
        | grown _ _ grown => exact grown.allocated
      refine .inr (.inr ⟨Nat.not_lt.1 long, ready, roomy, ?_⟩)
      rw [made, if_pos given]
      rfl

lemma finishWrite_eq (short : len ≤ int32Max) : parcel.finishWrite len = (.noError, { parcel with
      mDataPos := parcel.mDataPos + len
      mDataSize := max parcel.mDataSize (parcel.mDataPos + len) }) := by
  rw [finishWrite, if_neg (Nat.not_lt.2 short)]

lemma claim_eq (short : padSize len ≤ int32Max) :
    parcel.claim len = (parcel.mDataPos, { parcel with
      mData := store parcel.mData (parcel.mDataPos + len) (replicate (padSize len - len) 0)
      mDataPos := parcel.mDataPos + padSize len
      mDataSize := max parcel.mDataSize (parcel.mDataPos + padSize len) }) := by
  simp only [claim, finishWrite_eq _ short]

/-! ## Objects -/

lemma growObjects_next (needed : Nat) (heap : Heap) :
    ∃ cap, (parcel.growObjects needed heap).2 = { parcel with mObjectsCapacity := cap } := by
  unfold growObjects
  dsimp only
  split_ifs <;> exact ⟨_, rfl⟩

lemma putObject_next : parcel.putObject obj nullMetaData = (.fdsNotAllowed,
        { parcel with mData := store parcel.mData parcel.mDataPos obj.bytes }) ∨
      ∃ objs, (objs = parcel.mObjects ∨ objs = parcel.mObjects ++ [parcel.mDataPos]) ∧
        parcel.putObject obj nullMetaData = (.noError, { parcel with
          mData := store parcel.mData parcel.mDataPos obj.bytes
          mObjects := objs
          mDataPos := parcel.mDataPos + flatSize
          mDataSize := max parcel.mDataSize (parcel.mDataPos + flatSize) }) := by
  have short : flatSize ≤ int32Max := by decide
  unfold putObject
  by_cases forbidden : obj.type = binderTypeFd ∧ parcel.mAllowFds = false
  · exact .inl (by simp only [if_pos forbidden])
  · simp only [if_neg forbidden]
    right
    split_ifs
    · exact ⟨_, .inr rfl, finishWrite_eq _ short⟩
    · exact ⟨_, .inl rfl, finishWrite_eq _ short⟩

end

/-! ## What a write does -/

inductive WriteStep (parcel : Parcel) : Parcel → Prop where
  | refused : WriteStep parcel parcel
  | roomless {len : Nat} {heap : Heap} {next : Parcel} (roomless : parcel.Roomless len heap next) :
      WriteStep parcel next
  /-- Bytes may have been stored, and the position has not moved. -/
  | stopped {len : Nat} {ready : Parcel} (roomy : parcel.Roomy len ready) (data : Memory)
      (capacity : Nat) :
      WriteStep parcel { ready with mData := data, mObjectsCapacity := capacity }
  | finished {len : Nat} {ready : Parcel} (roomy : parcel.Roomy len ready) (data : Memory)
      (capacity : Nat) (objects : List Nat)
      (listed : objects = ready.mObjects ∨
        objects = ready.mObjects ++ [ready.mDataPos] ∧ len = flatSize) :
      WriteStep parcel { ready with
        mData := data
        mDataPos := ready.mDataPos + len
        mDataSize := max ready.mDataSize (ready.mDataPos + len)
        mObjects := objects
        mObjectsCapacity := capacity }

lemma afterRoom_writeStep
    (fin : ∀ ready, parcel.Roomy len ready → parcel.WriteStep (finish ready).2) :
    parcel.WriteStep (parcel.afterRoom len heap finish).2 := by
  rcases parcel.afterRoom_next len heap finish with ⟨_, full⟩ | ⟨ready, roomy, done⟩
  · exact .roomless full
  · rw [done]
    exact fin ready roomy

lemma put_writeStep (roomy : parcel.Roomy bytes.length ready) :
    parcel.WriteStep (ready.put bytes).2 := by
  unfold put
  by_cases short : bytes.length ≤ int32Max
  · rw [finishWrite_eq _ short]
    exact .finished roomy _ _ _ (.inl rfl)
  · rw [finishWrite, if_pos (Nat.not_le.1 short)]
    exact .stopped roomy _ _

lemma claim_writeStep (roomy : parcel.Roomy (padSize len) ready) :
    parcel.WriteStep (ready.claim len).2 := by
  by_cases short : padSize len ≤ int32Max
  · rw [claim_eq _ short]
    exact .finished roomy _ _ _ (.inl rfl)
  · simp only [claim, finishWrite, if_pos (Nat.not_le.1 short)]
    exact .stopped roomy _ _

section

variable (parcel)

lemma writeInplace_writeStep (len : Nat) (heap : Heap) :
    parcel.WriteStep (parcel.writeInplace len heap).2 := by
  rcases parcel.writeInplace_next len heap with
    ⟨_, res⟩ | ⟨next, full, res⟩ | ⟨_, ready, roomy, res⟩
  · rw [res]
    exact .refused
  · rw [res]
    exact .roomless full
  · rw [res]
    exact claim_writeStep roomy

variable (bytes : List UInt8)

lemma write_writeStep (heap : Heap) : parcel.WriteStep (parcel.write bytes heap).2 := by
  unfold write
  split_ifs
  · exact .refused
  · rcases parcel.writeInplace_next bytes.length heap with
      ⟨_, res⟩ | ⟨next, full, res⟩ | ⟨_, ready, roomy, res⟩
    · rw [res]
      exact .refused
    · rw [res]
      exact .roomless full
    · rw [res]
      cases ready.allocated with
      | false => exact claim_writeStep roomy
      | true =>
        by_cases short : padSize bytes.length ≤ int32Max
        · simp only [if_true, claim_eq _ short]
          exact .finished roomy _ _ _ (.inl rfl)
        · simp only [if_true, claim, finishWrite, if_pos (Nat.not_le.1 short)]
          exact .stopped roomy _ _

lemma writeObject_writeStep (obj : FlatBinderObject) (nullMetaData : Bool) (heap : Heap) :
    parcel.WriteStep (parcel.writeObject obj nullMetaData heap).2 := by
  have fin : ∀ ready : Parcel, parcel.Roomy flatSize ready → ∀ cap, parcel.WriteStep
      ({ ready with mObjectsCapacity := cap }.putObject obj nullMetaData).2 := by
    intro ready roomy cap
    rcases putObject_next { ready with mObjectsCapacity := cap } obj nullMetaData with
      refused | ⟨objs, listed, done⟩
    · rw [refused]
      exact .stopped roomy _ _
    · rw [done]
      exact .finished roomy _ _ _ (listed.imp_right fun same => ⟨same, rfl⟩)
  rw [writeObject_eq]
  apply afterRoom_writeStep
  intro ready roomy
  unfold finishObject
  split_ifs with room
  · exact fin ready roomy ready.mObjectsCapacity
  · rcases ready.growObjects_next 2 heap with ⟨cap, same⟩
    generalize ready.growObjects 2 heap = res at same ⊢
    rcases res with ⟨stat, next⟩
    cases same
    cases stat with
    | noError => exact fin ready roomy cap
    | _ => exact .stopped roomy ready.mData cap

lemma writeAligned_writeStep (v : Aligned) (heap : Heap) :
    parcel.WriteStep (parcel.writeAligned v heap).2 := by
  rw [writeAligned_eq]
  exact afterRoom_writeStep fun ready roomy => put_writeStep roomy

lemma writeUnpadded_writeStep (heap : Heap) :
    parcel.WriteStep (parcel.writeUnpadded bytes heap).2 := by
  rcases parcel.writeUnpadded_next bytes heap with refused | done
  · rw [refused]
    exact .refused
  · rw [done]
    exact afterRoom_writeStep fun ready roomy => put_writeStep roomy

end

/-! ## What an append does -/

lemma objectRange_some (found : objectRange objs off len = some (firstIndex, lastIndex)) :
    (firstIndex < objs.length ∧ inRange off len (objs.getD firstIndex 0) = true) ∧
      lastIndex < objs.length ∧ inRange off len (objs.getD lastIndex 0) = true := by
  let box (range : Option (Nat × Nat)) : Prop := ∀ pair ∈ range,
    (pair.1 < objs.length ∧ inRange off len (objs.getD pair.1 0) = true) ∧
      pair.2 < objs.length ∧ inRange off len (objs.getD pair.2 0) = true
  suffices box (objectRange objs off len) from this (firstIndex, lastIndex) found
  unfold objectRange
  refine List.foldlRecOn (motive := box) _ _ nofun ?_
  intro range ins e mem
  have listed := List.mem_zipIdx_iff_getElem?.1 mem
  rcases List.getElem?_eq_some_iff.1 listed with ⟨bound, v⟩
  have entryValue : objs.getD e.2 0 = e.1 := by
    rw [List.getD_eq_getElem _ _ bound, v]
  by_cases hit : inRange off len e.1 = true
  · rw [if_pos hit]
    rw [← entryValue] at hit
    cases range with
    | none =>
      rintro pair ⟨⟩
      exact ⟨⟨bound, hit⟩, bound, hit⟩
    | some prior =>
      rintro pair ⟨⟩
      exact ⟨(ins prior rfl).1, bound, hit⟩
  · rw [if_neg hit]
    exact ins

def appendedOffset (offset startPos object : Nat) : Nat :=
  (2 ^ 64 + object - offset + startPos) % 2 ^ 64

def IsFd (data : Memory) (offset : Nat) : Prop :=
  Bytes.decode (load data offset 4) = binderTypeFd.toNat

lemma foldl_appendObject (dup : Nat → BitVec 32) (off startPos : Nat) (objs : List Nat)
    (res : ParcelStatus × Parcel) :
    ∃ data, (objs.foldl (appendObject dup off startPos) res).2 = { res.2 with
        mData := data
        mObjects := res.2.mObjects ++ objs.map (appendedOffset off startPos) } ∧
      ((∀ obj ∈ objs, ¬ IsFd res.2.mData (appendedOffset off startPos obj)) →
        data = res.2.mData) := by
  induction objs generalizing res with
  | nil => exact ⟨res.2.mData, by simp, fun _ => rfl⟩
  | cons obj rest ih =>
    have once : ∃ data, (appendObject dup off startPos res obj).2 = { res.2 with
          mData := data
          mObjects := res.2.mObjects ++ [appendedOffset off startPos obj] } ∧
        (¬ IsFd res.2.mData (appendedOffset off startPos obj) → data = res.2.mData) := by
      unfold appendObject
      dsimp only
      split_ifs with isFd
      · exact ⟨_, rfl, fun other => absurd isFd other⟩
      · exact ⟨_, rfl, fun other => absurd isFd other⟩
      · exact ⟨_, rfl, fun _ => rfl⟩
    rcases once with ⟨new, first, kept⟩
    rcases ih (appendObject dup off startPos res obj) with ⟨data, same, allKept⟩
    rw [first] at same allKept
    refine ⟨data, by rw [foldl_cons, same]; simp, fun none => ?_⟩
    have unchanged := kept (none obj (by simp))
    rw [unchanged] at allKept
    exact allKept fun other mem => none other (mem_cons_of_mem _ mem)

/-- The objects that `appendFrom` takes, which need not all be in the range. -/
def taken (source : Parcel) (offset len : Nat) : List Nat :=
  (objectRange source.mObjects offset len).elim [] fun range =>
    (source.mObjects.take (range.2 + 1)).drop range.1

lemma appendObjects_next (parcel src : Parcel) (off len startPos : Nat)
    (dup : Nat → BitVec 32) (heap : Heap) : ∃ data appended cap,
      (parcel.appendObjects src off len startPos dup heap).2 = { parcel with
        mData := data
        mObjects := parcel.mObjects ++ appended
        mObjectsCapacity := cap } ∧
      ((parcel.appendObjects src off len startPos dup heap).1 ≠ .noError ∧ appended = [] ∨
        appended = (src.taken off len).map (appendedOffset off startPos) ∧
        ((∀ e ∈ appended, ¬ IsFd parcel.mData e) → data = parcel.mData)) := by
  unfold appendObjects taken
  cases objectRange src.mObjects off len with
  | none =>
    exact ⟨parcel.mData, [], parcel.mObjectsCapacity, by simp, .inr ⟨rfl, fun _ => rfl⟩⟩
  | some range =>
    simp only [Option.elim_some]
    generalize (src.mObjects.take (range.2 + 1)).drop range.1 = objs
    split_ifs
    · rcases parcel.growObjects_next objs.length heap with ⟨cap, same⟩
      generalize parcel.growObjects objs.length heap = res at same ⊢
      rcases res with ⟨stat, grown⟩
      cases same
      cases stat with
      | noError =>
        rcases foldl_appendObject dup off startPos objs
          (.noError, { parcel with mObjectsCapacity := cap }) with ⟨data, done, kept⟩
        exact ⟨data, _, cap, done, .inr ⟨rfl, fun other =>
          kept fun _ mem => other _ (mem_map_of_mem mem)⟩⟩
      | _ => exact ⟨parcel.mData, [], cap, by simp, .inl ⟨by simp, rfl⟩⟩
    · rcases foldl_appendObject dup off startPos objs (.noError, parcel) with
        ⟨data, done, kept⟩
      exact ⟨data, _, parcel.mObjectsCapacity, done, .inr ⟨rfl, fun other =>
        kept fun _ mem => other _ (mem_map_of_mem mem)⟩⟩

def copyFrom (ready source : Parcel) (offset len : Nat) : Parcel :=
  { ready with
    mData := store ready.mData ready.mDataPos (load source.mData offset len)
    mDataPos := ready.mDataPos + len
    mDataSize := ready.mDataSize + len }

lemma appendFrom_next (parcel src : Parcel) (off len : Nat) (dup : Nat → BitVec 32)
    (heap : Heap) : ((parcel.appendFrom src off len dup heap).1 = .noError → len = 0) ∧
        (parcel.appendFrom src off len dup heap).2 = parcel ∨
      parcel.appendFrom src off len dup heap = parcel.outOfMemory ∨
      ∃ ready, 0 < len ∧ (parcel.mDataSize + len ≤ parcel.mDataCapacity ∧ ready = parcel ∨
          parcel.mDataCapacity < parcel.mDataSize + len ∧ parcel.CanGrow len ∧
            parcel.Grown (parcel.wantedSize len) ready) ∧ parcel.appendFrom src off len dup heap =
          (ready.copyFrom src off len).appendObjects src off len parcel.mDataPos dup heap := by
  unfold appendFrom
  by_cases wrongKind : src.isForRpc ≠ parcel.isForRpc
  · exact .inl (by rw [if_pos wrongKind]; simp)
  rw [if_neg wrongKind]
  by_cases nothing : len = 0
  · exact .inl (by rw [if_pos nothing]; simp [nothing])
  rw [if_neg nothing]
  by_cases long : len > int32Max
  · exact .inl (by rw [if_pos long]; simp)
  rw [if_neg long]
  by_cases outside : off > src.mDataSize ∨ len > src.mDataSize ∨
      off + len > src.mDataSize
  · exact .inl (by rw [if_pos outside]; simp)
  rw [if_neg outside]
  have positive := Nat.pos_of_ne_zero nothing
  dsimp only
  by_cases past : parcel.mDataSize + len > parcel.mDataCapacity
  · rw [if_pos past]
    rcases parcel.growData_next len heap with
      ⟨_, bad, same⟩ | ⟨_, bad⟩ | ⟨can, done, grown⟩
    · generalize parcel.growData len heap = res at bad same ⊢
      rcases res with ⟨stat, next⟩
      cases stat with
      | noError => exact absurd rfl bad
      | _ => exact .inl ⟨by simp, same⟩
    · rw [bad]
      exact .inr (.inl rfl)
    · generalize parcel.growData len heap = res at done grown ⊢
      rcases res with ⟨stat, ready⟩
      cases done
      exact .inr (.inr ⟨ready, positive, .inr ⟨past, can, grown⟩, rfl⟩)
  · rw [if_neg past]
    exact .inr (.inr ⟨parcel, positive, .inl ⟨Nat.not_lt.1 past, rfl⟩, rfl⟩)

end Parcel

end NativeLibs.Binder
