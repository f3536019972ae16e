import NativeLibs.Binder.ParcelCalls

/-! # The capacity of a parcel

`growData` asks for a buffer that is larger than the data, and the bytes are then stored at
the position. Where the position is beyond the data, they need not be in the buffer. -/

namespace NativeLibs.Binder

open Bytes (Memory store load)
open Machine (run)

namespace Parcel

variable {parcel : Parcel}

/-- What every parcel that began empty keeps: it owns its buffer, and without a buffer there
is no data. -/
structure Plain (parcel : Parcel) : Prop where
  unowned : parcel.hasOwner = false
  empty : parcel.allocated = false → parcel.mDataCapacity = 0 ∧ parcel.mDataSize = 0
  bounded : parcel.mDataCapacity ≤ int32Max

lemma plain_initState : Plain initState := ⟨rfl, fun _ => ⟨rfl, rfl⟩, by decide⟩

lemma Plain.sameBuffer (plain : parcel.Plain) (same : parcel.SameBuffer next) : next.Plain := by
  refine ⟨?_, ?_, ?_⟩
  · rw [same.owner]
    exact plain.unowned
  · intro free
    rw [same.allocated] at free
    rw [same.capacity, same.size]
    exact plain.empty free
  · rw [same.capacity]
    exact plain.bounded

/-! ## Room for bytes -/

/-- There is room for bytes at the position, or the buffer grows so far. The first buffer
puts the position back to its beginning. -/
def HasRoom (parcel : Parcel) (len : Nat) : Prop :=
  parcel.mDataPos + len ≤ parcel.mDataCapacity ∨ parcel.CanGrow len ∧
      if parcel.allocated then parcel.mDataPos + len ≤ parcel.wantedSize len
      else parcel.mDataPos = 0

instance : Decidable (parcel.HasRoom len) := inferInstanceAs (Decidable (_ ∨ _))

lemma size_add_le_wantedSize (parcel : Parcel) (len : Nat) :
    parcel.mDataSize + len ≤ parcel.wantedSize len := by
  unfold wantedSize grownSize
  omega

lemma le_wantedSize (parcel : Parcel) (len : Nat) : len ≤ parcel.wantedSize len :=
  Nat.le_of_add_left_le (parcel.size_add_le_wantedSize len)

section

variable (plain : parcel.Plain)
include plain

lemma Plain.grown (can : parcel.CanGrow len) (grown : parcel.Grown (parcel.wantedSize len) next) :
    next.Plain := by
  have never : next.allocated = false → False := fun free =>
    Bool.noConfusion (grown.allocated.symm.trans free)
  cases grown with
  | takenOver owned => exact absurd owned (by simp [plain.unowned])
  | reallocated | first =>
    exact ⟨plain.unowned, fun free => (never free).elim, can.2⟩
  | kept => exact ⟨plain.unowned, fun free => (never free).elim, plain.bounded⟩

lemma Plain.roomy (roomy : parcel.Roomy len ready) : ready.Plain := by
  cases roomy with
  | before => exact plain
  | grown _ can grown => exact plain.grown can grown

lemma Plain.roomless (roomless : parcel.Roomless len heap next) : next.Plain := by
  cases roomless with
  | refused => exact plain
  | outOfMemory => exact plain.sameBuffer ⟨rfl, rfl, rfl, rfl⟩

lemma Plain.length_le (roomy : parcel.Roomy len ready) : len ≤ int32Max := by
  cases roomy with
  | before fits =>
    have bound := plain.bounded
    omega
  | grown _ can _ => exact Nat.le_trans (parcel.le_wantedSize len) can.2

lemma Plain.roomy_iff (roomy : parcel.Roomy len ready) :
    parcel.mDataPos + len ≤ ready.mDataCapacity ∧ ready.mDataPos = parcel.mDataPos ↔
      parcel.HasRoom len := by
  cases roomy with
  | before fits => simp [HasRoom, fits]
  | grown past can grown =>
    have late : ¬ parcel.mDataPos + len ≤ parcel.mDataCapacity := Nat.not_le.2 past
    simp only [HasRoom, late, can, false_or, true_and]
    have length := parcel.le_wantedSize len
    cases grown with
    | takenOver owned => exact absurd owned (by simp [plain.unowned])
    | reallocated _ given => simp [given]
    | kept _ given enough =>
      simp only [given, if_true]
      omega
    | first _ free =>
      simp only [free, Bool.false_eq_true, if_false]
      omega

end

lemma Roomless.not_hasRoom (roomless : parcel.Roomless len heap next)
    (noError : next.mError = .noError) : next = parcel ∧ ¬ parcel.HasRoom len := by
  cases roomless with
  | refused past cannot =>
    refine ⟨rfl, ?_⟩
    rintro (fits | ⟨can, _⟩)
    · exact absurd fits (Nat.not_le.2 past)
    · exact cannot can
  | outOfMemory => exact absurd noError (by simp)

/-! ## The calls that store bytes -/

def Call.storedLength : Call → Option Nat
  | .write bytes _ => some (padSize bytes.length)
  | .writeInplace len _ => some (padSize len)
  | .writeAligned value _ => some value.bytes.length
  | _ => none

def StoresInside (parcel next : Parcel) (len : Nat) : Prop :=
  parcel.mDataPos + len ≤ next.mDataCapacity ∧ next.mDataPos = parcel.mDataPos + len

instance : Decidable (parcel.StoresInside next len) := inferInstanceAs (Decidable (_ ∧ _))

lemma Plain.storesInside_iff (plain : parcel.Plain) (roomy : parcel.Roomy len ready)
    (cap : next.mDataCapacity = ready.mDataCapacity)
    (pos : next.mDataPos = ready.mDataPos + len) :
    parcel.StoresInside next len ↔ parcel.HasRoom len := by
  rw [StoresInside, cap, pos, Nat.add_right_cancel_iff]
  exact plain.roomy_iff roomy

lemma Plain.put_iff (plain : parcel.Plain) (roomy : parcel.Roomy bytes.length ready) :
    parcel.StoresInside (ready.put bytes).2 bytes.length ↔ parcel.HasRoom bytes.length := by
  have stored := finishWrite_eq { ready with mData := store ready.mData ready.mDataPos bytes }
    (plain.length_le roomy)
  apply plain.storesInside_iff roomy
  · rw [put, stored]
  · rw [put, stored]

lemma Plain.claim_iff (plain : parcel.Plain) (roomy : parcel.Roomy (padSize len) ready)
    (cap : next.mDataCapacity = (ready.claim len).2.mDataCapacity)
    (pos : next.mDataPos = (ready.claim len).2.mDataPos) :
    parcel.StoresInside next (padSize len) ↔ parcel.HasRoom (padSize len) := by
  have claimed := ready.claim_eq (plain.length_le roomy)
  rw [claimed] at cap pos
  exact plain.storesInside_iff roomy cap pos

lemma refused_iff (noRoom : ¬ parcel.HasRoom len) :
    parcel.StoresInside parcel len ↔ parcel.HasRoom len := by
  constructor
  · intro mem
    exact .inl mem.1
  · intro room
    exact absurd room noRoom

section

variable (plain : parcel.Plain)
include plain

lemma Plain.not_hasRoom_of_wraps (wraps : 2 ^ 64 ≤ parcel.mDataPos + len) :
    ¬ parcel.HasRoom len := by
  have bound := plain.bounded
  have maximum : int32Max < 2 ^ 64 := by decide
  rintro (fits | ⟨can, reaches⟩)
  · omega
  · have wanted := can.2
    have length := parcel.le_wantedSize len
    split_ifs at reaches <;> omega

lemma writeAligned_iff (ok : (parcel.writeAligned v heap).1 = .noError) :
    parcel.StoresInside (parcel.writeAligned v heap).2 v.bytes.length ↔
      parcel.HasRoom v.bytes.length := by
  rw [writeAligned_eq] at ok ⊢
  rcases parcel.afterRoom_next v.bytes.length heap fun ready => ready.put v.bytes with
    ⟨bad, _⟩ | ⟨ready, roomy, done⟩
  · exact absurd ok bad
  · rw [done]
    exact plain.put_iff roomy

lemma writeInplace_iff (ok : (parcel.writeInplace len heap).1.isSome) :
    parcel.StoresInside (parcel.writeInplace len heap).2 (padSize len) ↔
      parcel.HasRoom (padSize len) := by
  rcases parcel.writeInplace_next len heap with
    ⟨_, res⟩ | ⟨next, _, res⟩ | ⟨_, ready, roomy, res⟩
  · simp [res] at ok
  · simp [res] at ok
  · rw [res]
    exact plain.claim_iff roomy rfl rfl

lemma write_iff (ok : (parcel.write bytes heap).1 = .noError) :
    parcel.StoresInside (parcel.write bytes heap).2 (padSize bytes.length) ↔
      parcel.HasRoom (padSize bytes.length) := by
  unfold Parcel.write at ok ⊢
  by_cases long : bytes.length > int32Max
  · rw [if_pos long] at ok
    cases ok
  · rw [if_neg long] at ok ⊢
    rcases parcel.writeInplace_next bytes.length heap with
      ⟨outside, res⟩ | ⟨next, roomless, res⟩ | ⟨_, ready, roomy, res⟩
    · rw [res] at ok ⊢
      exact refused_iff (plain.not_hasRoom_of_wraps (outside.resolve_left long))
    · rw [res] at ok ⊢
      rcases roomless.not_hasRoom ok with ⟨rfl, noRoom⟩
      exact refused_iff noRoom
    · rw [res]
      cases given : ready.allocated with
      | true =>
        simp only [if_true]
        exact plain.claim_iff roomy rfl rfl
      | false =>
        simp only [Bool.false_eq_true, if_false]
        exact plain.claim_iff roomy rfl rfl

/-! ## Runs -/

lemma Plain.write (step : parcel.WriteStep next) : next.Plain := by
  cases step with
  | refused => exact plain
  | roomless roomless => exact plain.roomless roomless
  | stopped roomy data cap => exact { plain.roomy roomy with }
  | finished roomy data cap objs listed =>
    have readyPlain := plain.roomy roomy
    refine ⟨readyPlain.unowned, fun free => ?_, readyPlain.bounded⟩
    have empty := readyPlain.empty free
    cases roomy with
    | before fits =>
      dsimp only
      omega
    | grown _ _ grown => exact Bool.noConfusion (grown.allocated.symm.trans free)

end

lemma dropObjects_sameBuffer (parcel : Parcel) (count : Nat) (heap : Heap) :
    parcel.SameBuffer (parcel.dropObjects count heap) := by
  unfold dropObjects
  split_ifs <;> exact ⟨rfl, rfl, rfl, rfl⟩

section

variable (plain : parcel.Plain)
include plain

lemma Plain.continueWrite (desired : Nat) (heap : Heap) :
    (parcel.continueWrite desired heap).2.Plain ∧
      ((parcel.continueWrite desired heap).1 = .noError →
        (parcel.continueWrite desired heap).2.allocated = true) := by
  have outOfMemory : ∀ low : Parcel, low.Plain → low.outOfMemory.2.Plain ∧
      (low.outOfMemory.1 = .noError → low.outOfMemory.2.allocated = true) :=
    fun low startPlain => ⟨startPlain.sameBuffer ⟨rfl, rfl, rfl, rfl⟩, nofun⟩
  unfold Parcel.continueWrite
  by_cases big : desired > int32Max
  · rw [if_pos big]
    exact ⟨plain, nofun⟩
  rw [if_neg big]
  have fits : desired ≤ int32Max := Nat.not_lt.1 big
  simp only [plain.unowned, Bool.false_eq_true, if_false]
  have same := parcel.dropObjects_sameBuffer (parcel.objectsSize desired) heap
  have drops := plain.sameBuffer same
  cases given : parcel.allocated with
  | true =>
    generalize parcel.dropObjects (parcel.objectsSize desired) heap = low at same drops
    have isAllocated : low.allocated = true := same.allocated.trans given
    have never : ∀ {P : Prop}, low.allocated = false → P :=
      fun free => Bool.noConfusion (isAllocated.symm.trans free)
    simp only [if_true]
    unfold resize
    split_ifs
    · exact ⟨⟨drops.unowned, never, fits⟩, fun _ => isAllocated⟩
    · exact outOfMemory low drops
    · exact ⟨⟨drops.unowned, never, drops.bounded⟩, fun _ => isAllocated⟩
  | false =>
    simp only [Bool.false_eq_true, if_false]
    unfold firstData
    split_ifs
    · exact ⟨⟨plain.unowned, fun free => absurd free (by simp), fits⟩, fun _ => rfl⟩
    · exact outOfMemory parcel plain

lemma Plain.setDataSize (size : Nat) (heap : Heap) : (parcel.setDataSize size heap).2.Plain := by
  have continued := plain.continueWrite size heap
  unfold Parcel.setDataSize
  split_ifs
  · exact plain
  · generalize parcel.continueWrite size heap = res at continued ⊢
    rcases res with ⟨stat, next⟩
    rcases continued with ⟨nextPlain, given⟩
    cases stat with
    | noError =>
      refine ⟨nextPlain.unowned, fun free => ?_, nextPlain.bounded⟩
      exact Bool.noConfusion ((given rfl).symm.trans free)
    | _ => exact nextPlain

lemma Plain.setDataCapacity (size : Nat) (heap : Heap) :
    (parcel.setDataCapacity size heap).2.Plain := by
  unfold Parcel.setDataCapacity
  split_ifs
  · exact plain
  · exact (plain.continueWrite size heap).1
  · exact plain

lemma Plain.appendFrom (src : Parcel) (off len : Nat) (dup : Nat → BitVec 32)
    (heap : Heap) : (parcel.appendFrom src off len dup heap).2.Plain := by
  rcases parcel.appendFrom_next src off len dup heap with
    ⟨_, same⟩ | bad | ⟨ready, pos, room, appended⟩
  · rw [same]
    exact plain
  · rw [bad]
    exact plain.sameBuffer ⟨rfl, rfl, rfl, rfl⟩
  · have readyPlain : ready.Plain ∧ ready.allocated = true := by
      rcases room with ⟨fits, rfl⟩ | ⟨_, can, grown⟩
      · refine ⟨plain, ?_⟩
        cases given : ready.allocated with
        | true => rfl
        | false =>
          have empty := plain.empty given
          omega
      · exact ⟨plain.grown can grown, grown.allocated⟩
    rw [appended]
    rcases appendObjects_next (ready.copyFrom src off len) src off len
      parcel.mDataPos dup heap with ⟨_, _, _, same, _⟩
    rw [same]
    refine ⟨readyPlain.1.unowned, fun free => ?_, readyPlain.1.bounded⟩
    exact Bool.noConfusion (readyPlain.2.symm.trans free)

lemma Plain.step (call : Call) : (parcel.step call).Plain := by
  cases call with
  | reading call => exact plain.sameBuffer (parcel.performRead_next call).sameBuffer
  | write bytes heap => exact plain.write (parcel.write_writeStep bytes heap)
  | writeInplace len heap => exact plain.write (parcel.writeInplace_writeStep len heap)
  | writeAligned v heap => exact plain.write (parcel.writeAligned_writeStep v heap)
  | writeUnpadded bytes heap => exact plain.write (parcel.writeUnpadded_writeStep bytes heap)
  | writeObject obj nullMetaData heap =>
    exact plain.write (parcel.writeObject_writeStep obj nullMetaData heap)
  | appendFrom src off len dup heap => exact plain.appendFrom src off len dup heap
  | setDataSize size heap => exact plain.setDataSize size heap
  | setDataCapacity size heap => exact plain.setDataCapacity size heap

end

lemma plain_run (calls : List Call) : (run step initState calls).Plain := by
  have always : Machine.Along step (fun _ _ => True) initState calls :=
    Machine.along_of_forall (fun _ _ (_ : True) => trivial) initState fun _ _ => trivial
  exact Machine.run_invariant (fun parcel call plain _ => plain.step call) plain_initState always

/-- After any calls on a fresh parcel, the bytes that `write`, `writeInplace` or
`writeAligned` stores are in the buffer, and the position is behind them, exactly if there
was room. -/
theorem stored_inside_iff_hasRoom (calls : List Call) (call : Call) (padded : Nat)
    (stores : call.storedLength = some padded)
    (succeeds : ((run step initState calls).perform call).1 = true) :
    (run step initState calls).StoresInside ((run step initState calls).perform call).2 padded ↔
      (run step initState calls).HasRoom padded := by
  have plain := plain_run calls
  generalize run step initState calls = parcel at succeeds plain ⊢
  cases call with
  | write bytes heap =>
    cases stores
    exact write_iff plain (of_decide_eq_true succeeds)
  | writeInplace len heap =>
    cases stores
    exact writeInplace_iff plain succeeds
  | writeAligned value heap =>
    cases stores
    exact writeAligned_iff plain (of_decide_eq_true succeeds)
  | _ => cases stores

def plentiful : Heap := ⟨true, true, fun _ => 0⟩

def wordThenPosition (position : Fin (2 ^ 31)) : List Call :=
  [.writeAligned (.word 1) plentiful, .reading (.setDataPosition position)]

/-- A position in the buffer and beyond the data. -/
theorem stored_inside_after_position : (run step initState (wordThenPosition 100)).StoresInside
      ((run step initState (wordThenPosition 100)).perform
        (.writeAligned (.word 2) plentiful)).2 4 :=
  (stored_inside_iff_hasRoom (wordThenPosition 100) (.writeAligned (.word 2) plentiful) 4 rfl
    (by decide)).2 (by decide)

/-- From a position beyond the buffer, of 128 bytes, the position is put to 128 and the value
is stored there, in no memory of the parcel. -/
theorem stored_outside_after_position : ((run step initState (wordThenPosition 1000)).perform
        (.writeAligned (.word 2) plentiful)).1 = true ∧
      ((run step initState (wordThenPosition 1000)).perform
        (.writeAligned (.word 2) plentiful)).2.mDataPos = 132 ∧
      ((run step initState (wordThenPosition 1000)).perform
        (.writeAligned (.word 2) plentiful)).2.mDataCapacity = 128 ∧
      ¬ (run step initState (wordThenPosition 1000)).StoresInside
        ((run step initState (wordThenPosition 1000)).perform
          (.writeAligned (.word 2) plentiful)).2 4 := by
  decide

end Parcel

end NativeLibs.Binder
