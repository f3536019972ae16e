import NativeLibs.Foundation.KeyedList
import NativeLibs.Foundation.Machine
import NativeLibs.Input.InputState

/-! # Mementos are distinct

A key or a motion has one memento at most, in every state that the calls on any number of
connections reach. -/

namespace NativeLibs.Input

open MotionMemento EventEntry Machine KeyedList

variable {Value : Type}

/-! ## Identities -/

structure KeyIdentity where
  deviceId : Int
  source : BitVec 32
  displayId : Int
  keyCode : Int
  scanCode : Int
  deriving DecidableEq

structure MotionIdentity where
  deviceId : Int
  source : BitVec 32
  displayId : Int
  hovering : Bool
  deriving DecidableEq

def KeyMemento.identity (memento : KeyMemento) : KeyIdentity :=
  ⟨memento.deviceId, memento.source, memento.displayId, memento.keyCode, memento.scanCode⟩

def KeyEntry.identity (entry : KeyEntry) : KeyIdentity :=
  ⟨entry.deviceId, entry.source, entry.displayId, entry.keyCode, entry.scanCode⟩

def MotionMemento.identity (memento : MotionMemento Value) : MotionIdentity :=
  ⟨memento.deviceId, memento.source, memento.displayId, memento.hovering⟩

def MotionEntry.identity (entry : MotionEntry Value) (hovering : Bool) : MotionIdentity :=
  ⟨entry.deviceId, entry.source, entry.displayId, hovering⟩

namespace InputState

open KeyedList

variable (state : InputState Value) (entry : MotionEntry Value)

def withoutKey (target : KeyIdentity) : Option (List KeyMemento) :=
  remove KeyMemento.identity target state.mKeyMementos

def withoutMotion (target : MotionIdentity) : Option (List (MotionMemento Value)) :=
  remove identity target state.mMotionMementos

lemma withoutKey_eq (entry : KeyEntry) : state.withoutKey entry.identity =
      (state.findKeyMemento entry).map state.mKeyMementos.eraseIdx := by
  simp [withoutKey, remove_eq_eraseIdx, findKeyMemento, KeyMemento.identity,
    KeyEntry.identity, Bool.decide_and, Bool.and_assoc]

lemma withoutMotion_eq (hov : Bool) : state.withoutMotion (entry.identity hov) =
      (state.findMotionMemento entry hov).map state.mMotionMementos.eraseIdx := by
  simp [withoutMotion, remove_eq_eraseIdx, findMotionMemento, identity,
    MotionEntry.identity, Bool.decide_and, Bool.and_assoc]

/-! ## What the calls do -/

/-- The key and motion mementos change in ways that keep them distinct. -/
structure Changed (state after : InputState Value) : Prop where
  keys : Change KeyMemento.identity state.mKeyMementos after.mKeyMementos
  motions : Change identity state.mMotionMementos after.mMotionMementos

variable {state}

lemma releaseFallback_mementos (entry : KeyEntry) :
    (state.releaseFallback entry).mKeyMementos = state.mKeyMementos ∧
      (state.releaseFallback entry).mMotionMementos = state.mMotionMementos := by
  unfold releaseFallback
  split <;> exact ⟨rfl, rfl⟩

variable (state)

lemma trackKey_up (entry : KeyEntry) (flags : BitVec 32) :
    state.trackKey entry keyActionUp flags = (true, { state.releaseFallback entry with
        mKeyMementos := (state.withoutKey entry.identity).getD state.mKeyMementos }) := by
  have same := (state.releaseFallback_mementos entry).1
  rw [withoutKey_eq]
  simp only [trackKey, if_true, findKeyMemento, same]
  cases state.mKeyMementos.findIdx? _ with
  | none => simp [← same]
  | some i => simp [eraseKeyMemento, same]

lemma trackKey_changed (entry : KeyEntry) (action flags : BitVec 32) :
    Changed state (state.trackKey entry action flags).2 := by
  have without := state.withoutKey_eq entry
  by_cases up : action = keyActionUp
  · subst up
    rw [trackKey_up]
    refine ⟨?_, .rewritten (by rw [(state.releaseFallback_mementos entry).2])⟩
    cases gone : state.withoutKey entry.identity with
    | none => exact .rewritten rfl
    | some rest => exact .removed gone
  · unfold trackKey
    rw [if_neg up]
    split
    · refine ⟨?_, ?_⟩
      · cases hit : state.findKeyMemento entry with
        | none => exact .added (without.trans (by rw [hit]; rfl))
        | some i => exact .replaced (without.trans (by rw [hit]; rfl))
      · cases state.findKeyMemento entry <;> exact .rewritten rfl
    · exact ⟨.rewritten rfl, .rewritten rfl⟩

lemma endMotion_eq (hov : Bool) : state.endMotion entry hov =
      match state.withoutMotion (entry.identity hov) with
      | some rest => (true, { state with mMotionMementos := rest })
      | none => (false, state) := by
  rw [withoutMotion_eq, endMotion]
  cases state.findMotionMemento entry hov <;> rfl

lemma endMotion_changed (hov : Bool) : Changed state (state.endMotion entry hov).2 := by
  rw [endMotion_eq]
  cases gone : state.withoutMotion (entry.identity hov) with
  | none => exact ⟨.rewritten rfl, .rewritten rfl⟩
  | some rest => exact ⟨.rewritten rfl, .removed gone⟩

variable (flags : BitVec 32)

lemma beginMotion_changed (hov : Bool) :
    Changed state (state.beginMotion entry flags hov).2 := by
  have without := state.withoutMotion_eq entry hov
  unfold beginMotion
  cases hit : state.findMotionMemento entry hov with
  | none => exact ⟨.rewritten rfl, .added (without.trans (by rw [hit]; rfl))⟩
  | some i => exact ⟨.rewritten rfl, .replaced (without.trans (by rw [hit]; rfl))⟩

lemma setMementoPointers_changed (i : Nat) (entry : MotionEntry Value) :
    Changed state (state.setMementoPointers i entry) := by
  have keeps : ∀ memo : MotionMemento Value,
      (memo.setPointers entry).identity = memo.identity := fun _ => rfl
  exact ⟨.rewritten rfl, .rewritten (map_modify keeps _ _)⟩

lemma continueMotion_changed : Changed state (state.continueMotion entry flags).2 := by
  have without := state.withoutMotion_eq entry false
  have same : Changed state state := ⟨.rewritten rfl, .rewritten rfl⟩
  unfold continueMotion
  split
  · exact same
  dsimp only
  split
  · cases hit : state.findMotionMemento entry false with
    | none =>
      dsimp only
      split
      · exact same
      · exact ⟨.rewritten rfl, .added (without.trans (by rw [hit]; rfl))⟩
    | some i =>
      dsimp only
      split
      · exact ⟨.rewritten rfl, .removed (without.trans (by rw [hit]; rfl))⟩
      · exact state.setMementoPointers_changed i entry
  · cases state.findMotionMemento entry false with
    | none => exact same
    | some i =>
      dsimp only
      split
      · exact state.setMementoPointers_changed i entry
      · exact same

lemma trackMotion_changed (action flags : BitVec 32) :
    Changed state (state.trackMotion entry action flags).2 := by
  unfold trackMotion
  dsimp only
  split
  · exact state.endMotion_changed entry false
  split
  · exact state.beginMotion_changed entry flags false
  split
  · exact state.continueMotion_changed entry flags
  split
  · exact state.endMotion_changed entry true
  split
  · exact state.beginMotion_changed entry flags true
  · exact ⟨.rewritten rfl, .rewritten rfl⟩

lemma synthesizePointerDownEvents_changed (now : Int) :
    Changed state (state.synthesizePointerDownEvents now).2 := by
  refine ⟨.rewritten rfl, .rewritten ?_⟩
  simp only [synthesizePointerDownEvents, List.map_map]
  apply List.map_congr_left
  intro memo _
  dsimp only [Function.comp]
  split <;> rfl

/-! ## Merging -/

def joined (other memento : MotionMemento Value) : MotionMemento Value :=
  { other with
    pointers := other.pointers ++ memento.pointers
    firstNewPointerIdx := if memento.pointers = [] then other.firstNewPointerIdx
      else some (other.firstNewPointerIdx.getD other.pointers.length) }

lemma mergePointerStateTo_eq_joined (done : memo.mergePointerStateTo other = some merge) :
    merge = joined other memo := by
  rw [MotionMemento.mergePointerStateTo] at done
  rw [joined]
  generalize memo.pointers = pointers at done
  induction pointers generalizing other with
  | nil =>
    cases done
    simp
  | cons ptr pointers ih =>
    rw [List.foldlM_cons, MotionMemento.addNewPointer] at done
    split at done
    · rw [ih done]
      cases other.firstNewPointerIdx <;> simp
    · cases done

def marked (memento : MotionMemento Value) : MotionMemento Value :=
  { memento with firstNewPointerIdx := some 0 }

lemma mergeMemento_cases (done : mergeMemento memo rest = some (merge, after)) :
    (isPointerSource memo.source = true ∧ ∃ i other,
        rest.findIdx? (sameStream memo) = some i ∧ rest[i]? = some other ∧
        merge = memo ∧ after = rest.set i (joined other memo)) ∨
      (isPointerSource memo.source = true ∧ rest.findIdx? (sameStream memo) = none ∧
        merge = marked memo ∧ after = rest ++ [marked memo]) ∨
      isPointerSource memo.source = false ∧ merge = memo ∧ after = rest := by
  rw [mergeMemento] at done
  split at done
  · rename_i src
    split at done
    · rename_i i hit
      cases mem : rest[i]? with
      | none => simp [mem] at done
      | some other =>
        cases joins : memo.mergePointerStateTo other with
        | none => simp [mem, joins] at done
        | some both =>
          simp only [mem, joins, Option.bind_eq_bind, Option.bind_some] at done
          cases done
          rw [mergePointerStateTo_eq_joined joins]
          exact .inl ⟨src, i, other, hit, mem, rfl, rfl⟩
    · rename_i miss
      cases done
      exact .inr (.inl ⟨src, miss, rfl, rfl⟩)
  · rename_i src
    cases done
    exact .inr (.inr ⟨by simpa using src, rfl, rfl⟩)

lemma mergeMementos_cons (done : mergeMementos (memo :: rest) others = some (after, last)) :
    ∃ own mid later, mergeMemento memo others = some (own, mid) ∧
      mergeMementos rest mid = some (later, last) ∧ after = own :: later := by
  rw [mergeMementos] at done
  cases first : mergeMemento memo others with
  | none => simp [first] at done
  | some oc =>
    rcases oc with ⟨own, mid⟩
    cases second : mergeMementos rest mid with
    | none => simp [first, second] at done
    | some oc =>
      rcases oc with ⟨later, last⟩
      simp only [first, second, Option.bind_eq_bind, Option.bind_some] at done
      cases done
      exact ⟨own, mid, later, rfl, second, rfl⟩

lemma mergeMemento_changed (done : mergeMemento memo rest = some (merge, after)) :
    merge.identity = memo.identity ∧ Change identity rest after := by
  rcases mergeMemento_cases done with
    ⟨_, i, other, _, ins, rfl, rfl⟩ | ⟨_, miss, rfl, rfl⟩ | ⟨_, rfl, rfl⟩
  · exact ⟨rfl, .rewritten (map_set ins rfl)⟩
  · refine ⟨rfl, .added (remove_eq_none_iff.mpr ?_)⟩
    intro mem
    obtain ⟨other, ins, same⟩ := List.mem_map.mp mem
    have apart := List.findIdx?_eq_none_iff.mp miss other ins
    simp only [identity, marked, MotionIdentity.mk.injEq] at same
    simp [sameStream, same] at apart
  · exact ⟨rfl, .rewritten rfl⟩

lemma mergeMementos_distinct (merge : mergeMementos memos others = some (after, othersAfter)) :
    after.map identity = memos.map identity ∧ ((others.map identity).Nodup →
        (othersAfter.map identity).Nodup) := by
  induction memos generalizing others after with
  | nil =>
    cases merge
    exact ⟨rfl, id⟩
  | cons memo rest ih =>
    rcases mergeMementos_cons merge with ⟨own, mid, later, first, second, rfl⟩
    obtain ⟨identity, change⟩ := mergeMemento_changed first
    obtain ⟨identities, nodup⟩ := ih second
    exact ⟨by simp [identity, identities], fun old => nodup (change.nodup old)⟩

end InputState

/-! ## Connections -/

abbrev World (Value : Type) := Nat → InputState Value

inductive InputStateCall (Value : Type) where
  | trackKey (connection : Nat) (entry : KeyEntry) (action flags : BitVec 32)
  | trackMotion (connection : Nat) (entry : MotionEntry Value) (action flags : BitVec 32)
  | synthesizePointerDownEvents (connection : Nat) (currentTime : Int)
  | clear (connection : Nat)
  | setFallbackKey (connection : Nat) (originalKeyCode fallbackKeyCode : Int)
  | removeFallbackKey (connection : Nat) (originalKeyCode : Int)
  | mergePointerStateTo (connection other : Nat)

namespace World

def create : World Value := fun _ => InputState.create

variable (world : World Value)

def set (connection : Nat) (state : InputState Value) : World Value :=
  fun index => if index = connection then state else world index

def perform : InputStateCall Value → Option (World Value)
  | .trackKey connection entry action flags =>
    some (world.set connection ((world connection).trackKey entry action flags).2)
  | .trackMotion connection entry action flags =>
    some (world.set connection ((world connection).trackMotion entry action flags).2)
  | .synthesizePointerDownEvents connection currentTime =>
    some (world.set connection ((world connection).synthesizePointerDownEvents currentTime).2)
  | .clear connection => some (world.set connection (world connection).clear)
  | .setFallbackKey connection originalKeyCode fallbackKeyCode =>
    some (world.set connection ((world connection).setFallbackKey originalKeyCode fallbackKeyCode))
  | .removeFallbackKey connection originalKeyCode =>
    some (world.set connection ((world connection).removeFallbackKey originalKeyCode))
  | .mergePointerStateTo connection other =>
    if connection = other then none
    else do
      let (state, merged) ← (world connection).mergePointerStateTo (world other)
      some ((world.set connection state).set other merged)

def step (world : Option (World Value)) (call : InputStateCall Value) : Option (World Value) :=
  world.bind (·.perform call)

end World

namespace InputState

structure Distinct (state : InputState Value) : Prop where
  keys : (state.mKeyMementos.map KeyMemento.identity).Nodup
  motions : (state.mMotionMementos.map identity).Nodup

lemma Distinct.changed (nodup : Distinct state) (new : Changed state after) :
    Distinct after :=
  ⟨new.keys.nodup nodup.keys, new.motions.nodup nodup.motions⟩

end InputState

namespace World

open InputState

variable {world : World Value}

lemma distinct_set (nodup : ∀ conn, Distinct (world conn))
    (itsState : Distinct state) (i : Nat) : Distinct (world.set conn state i) := by
  unfold set
  split
  · exact itsState
  · exact nodup i

lemma distinct_perform (nodup : ∀ conn, Distinct (world conn))
    (ran : world.perform call = some after) (i : Nat) : Distinct (after i) := by
  cases call with
  | trackKey conn entry action flags =>
    cases ran
    exact distinct_set nodup
      ((nodup conn).changed (trackKey_changed _ entry action flags)) i
  | trackMotion conn entry action flags =>
    cases ran
    exact distinct_set nodup
      ((nodup conn).changed (trackMotion_changed _ entry action flags)) i
  | synthesizePointerDownEvents conn now =>
    cases ran
    exact distinct_set nodup
      ((nodup conn).changed (synthesizePointerDownEvents_changed _ now)) i
  | clear conn =>
    cases ran
    have cleared : Distinct (world conn).clear := ⟨List.nodup_nil, List.nodup_nil⟩
    exact distinct_set nodup cleared i
  | setFallbackKey conn originalKeyCode fallback =>
    cases ran
    have same : Distinct ((world conn).setFallbackKey originalKeyCode fallback) :=
      ⟨(nodup conn).keys, (nodup conn).motions⟩
    exact distinct_set nodup same i
  | removeFallbackKey conn originalKeyCode =>
    cases ran
    have same : Distinct ((world conn).removeFallbackKey originalKeyCode) :=
      ⟨(nodup conn).keys, (nodup conn).motions⟩
    exact distinct_set nodup same i
  | mergePointerStateTo conn other =>
    rw [perform] at ran
    split at ran
    · cases ran
    · cases merge : mergeMementos (world conn).mMotionMementos
          (world other).mMotionMementos with
      | none => simp [InputState.mergePointerStateTo, merge] at ran
      | some oc =>
        obtain ⟨memos, rest⟩ := oc
        simp only [InputState.mergePointerStateTo, merge, Option.bind_eq_bind,
          Option.bind_some] at ran
        cases ran
        obtain ⟨same, othersDistinct⟩ := mergeMementos_distinct merge
        have marked : Distinct { world conn with mMotionMementos := memos } :=
          ⟨(nodup conn).keys, same ▸ (nodup conn).motions⟩
        have joined : Distinct { world other with mMotionMementos := rest } :=
          ⟨(nodup other).keys, othersDistinct (nodup other).motions⟩
        exact distinct_set (distinct_set nodup marked) joined i

def AllDistinct (world : Option (World Value)) : Prop :=
  ∀ reached, world = some reached → ∀ connection, Distinct (reached connection)

lemma distinct_run (met : run step (some create) calls = some world)
    (conn : Nat) : Distinct (world conn) := by
  have init : AllDistinct (some (create : World Value)) := by
    rintro _ ⟨⟩ _
    exact ⟨List.nodup_nil, List.nodup_nil⟩
  have always : AllDistinct (run step (some create) calls) := by
    refine run_always ?_ init calls
    intro state call nodup after stepped
    obtain ⟨old, rfl, ran⟩ := Option.bind_eq_some_iff.mp stepped
    exact distinct_perform (nodup old rfl) ran
  exact always world met conn

end World

/-! ## Cancelation is complete

The events that cancel a state are accepted by it, one for each memento, and leave it neutral. -/

open KeyedList List

namespace InputState

variable {state : InputState Value}

/-! ## Feeding events back -/

def feed (state : InputState Value) : EventEntry Value → Bool × InputState Value
  | .key entry => state.trackKey entry entry.action entry.flags
  | .motion entry => state.trackMotion entry entry.action entry.flags

def feedAll (state : InputState Value) : List (EventEntry Value) → Bool × InputState Value
  | [] => (true, state)
  | event :: rest =>
    let (accepted, state) := state.feed event
    let (others, state) := state.feedAll rest
    (accepted && others, state)

lemma feedAll_append (state : InputState Value) (events more : List (EventEntry Value)) :
    state.feedAll (events ++ more) =
      ((state.feedAll events).1 && ((state.feedAll events).2.feedAll more).1,
        ((state.feedAll events).2.feedAll more).2) := by
  induction events generalizing state with
  | nil => simp [feedAll]
  | cons event rest ih => simp [feedAll, ih, Bool.and_assoc]

variable (currentTime : Int)

def fallbackKeysAfter (fallbackKeys : List (Int × Int)) (memento : KeyMemento) : List (Int × Int) :=
  if (cancelKey currentTime memento).flags &&& keyFlagFallback != 0 then
    fallbackKeys.filter (·.2 != memento.keyCode)
  else fallbackKeys

lemma feed_cancelKey {rest : List KeyMemento}
    (gone : state.withoutKey memo.identity = some rest) :
    state.feed (.key (cancelKey currentTime memo)) = (true, ⟨rest, state.mMotionMementos,
        fallbackKeysAfter currentTime state.mFallbackKeys memo⟩) := by
  have tracked := state.trackKey_up (cancelKey currentTime memo)
    (cancelKey currentTime memo).flags
  have same : (cancelKey currentTime memo).identity = memo.identity := rfl
  rw [same, gone] at tracked
  refine tracked.trans ?_
  simp only [releaseFallback, fallbackKeysAfter, Option.getD_some]
  split <;> rfl

lemma feedAll_cancelKey {memos rest : List KeyMemento} (gone : removeAll KeyMemento.identity
      (memos.map KeyMemento.identity) state.mKeyMementos = some rest) :
    state.feedAll (memos.map fun memo => .key (cancelKey currentTime memo)) =
      (true, ⟨rest, state.mMotionMementos,
        memos.foldl (fallbackKeysAfter currentTime) state.mFallbackKeys⟩) := by
  induction memos generalizing state with
  | nil =>
    cases gone
    rfl
  | cons memo memos ih =>
    obtain ⟨shorter, first, later⟩ := removeAll_cons_eq_some gone
    let next : InputState Value := ⟨shorter, state.mMotionMementos,
      fallbackKeysAfter currentTime state.mFallbackKeys memo⟩
    have others := ih (show removeAll _ _ next.mKeyMementos = some rest from later)
    rw [map_cons, feedAll, feed_cancelKey currentTime first]
    dsimp only
    rw [others]
    rfl

lemma trackMotion_cancel (state : InputState Value) (e : MotionEntry Value)
    (flags : BitVec 32) : state.trackMotion e actionCancel flags = state.endMotion e false := by
  unfold trackMotion
  dsimp only
  rw [if_pos (by decide)]

lemma trackMotion_hoverExit (state : InputState Value) (e : MotionEntry Value)
    (flags : BitVec 32) :
    state.trackMotion e actionHoverExit flags = state.endMotion e true := by
  unfold trackMotion
  dsimp only
  rw [if_neg (by decide), if_neg (by decide), if_neg (by decide), if_pos (by decide)]

lemma feed_cancelMotion (gone : state.withoutMotion memo.identity = some rest) :
    state.feed (.motion (cancelMotion currentTime memo)) =
      (true, { state with mMotionMementos := rest }) := by
  have ended : state.feed (.motion (cancelMotion currentTime memo)) =
      state.endMotion (cancelMotion currentTime memo) memo.hovering := by
    cases hov : memo.hovering with
    | true =>
      have action : (cancelMotion currentTime memo).action = actionHoverExit := by
        simp [cancelMotion, motionEvent, hov]
      rw [feed, action, trackMotion_hoverExit]
    | false =>
      have action : (cancelMotion currentTime memo).action = actionCancel := by
        simp [cancelMotion, motionEvent, hov]
      rw [feed, action, trackMotion_cancel]
  have same : (cancelMotion currentTime memo).identity memo.hovering = memo.identity := rfl
  rw [ended, endMotion_eq, same, gone]

lemma feedAll_cancelMotion {memos : List (MotionMemento Value)}
    (gone : removeAll MotionMemento.identity
      (memos.map MotionMemento.identity) state.mMotionMementos = some rest) :
    state.feedAll (memos.map fun memo => .motion (cancelMotion currentTime memo)) =
      (true, { state with mMotionMementos := rest }) := by
  induction memos generalizing state with
  | nil =>
    cases gone
    rfl
  | cons memo memos ih =>
    obtain ⟨shorter, first, later⟩ := removeAll_cons_eq_some gone
    let next : InputState Value := { state with mMotionMementos := shorter }
    have others := ih (show removeAll _ _ next.mMotionMementos = some rest from later)
    rw [map_cons, feedAll, feed_cancelMotion currentTime first]
    dsimp only
    rw [others]
    rfl

/-! ## The events of each mode -/

def cancelationEvents (state : InputState Value) (currentTime : Int) (mode : CancelationMode) :
    List (EventEntry Value) :=
  state.synthesizeCancelationEvents currentTime { mode := mode }

variable (state : InputState Value) (currentTime : Int)

lemma cancelationEvents_all : state.cancelationEvents currentTime .cancelAllEvents =
      (state.mKeyMementos.map fun memo => .key (cancelKey currentTime memo)) ++
        state.mMotionMementos.map fun memo => .motion (cancelMotion currentTime memo) := by
  simp [cancelationEvents, synthesizeCancelationEvents, shouldCancelKey, shouldCancelMotion]

lemma cancelationEvents_pointer : state.cancelationEvents currentTime .cancelPointerEvents =
      (state.mMotionMementos.filter fun memo => isPointerSource memo.source).map
        fun memo => .motion (cancelMotion currentTime memo) := by
  simp [cancelationEvents, synthesizeCancelationEvents, shouldCancelKey, shouldCancelMotion]

lemma cancelationEvents_nonPointer : state.cancelationEvents currentTime .cancelNonPointerEvents =
      (state.mKeyMementos.map fun memo => .key (cancelKey currentTime memo)) ++
        (state.mMotionMementos.filter fun memo => !isPointerSource memo.source).map
          fun memo => .motion (cancelMotion currentTime memo) := by
  simp [cancelationEvents, synthesizeCancelationEvents, shouldCancelKey, shouldCancelMotion]

def canceled : InputState Value :=
  ⟨[], [], state.mKeyMementos.foldl (fallbackKeysAfter currentTime) state.mFallbackKeys⟩

lemma feedAll_all : state.feedAll (state.cancelationEvents currentTime .cancelAllEvents) =
      (true, state.canceled currentTime) := by
  rw [cancelationEvents_all, feedAll_append, feedAll_cancelKey currentTime (removeAll_self _)]
  dsimp only
  rw [feedAll_cancelMotion currentTime (removeAll_self _)]
  rfl

lemma feedAll_pointer :
    state.feedAll (state.cancelationEvents currentTime .cancelPointerEvents) = (true, { state with
        mMotionMementos := state.mMotionMementos.filter
          fun memo => !isPointerSource memo.source }) := by
  rw [cancelationEvents_pointer]
  exact feedAll_cancelMotion currentTime
    (removeAll_filter (fun identity : MotionIdentity => isPointerSource identity.source) _)

lemma cancelationEvents_nonPointer_after :
    (state.feedAll (state.cancelationEvents currentTime .cancelPointerEvents)).2.cancelationEvents
        currentTime .cancelNonPointerEvents =
      state.cancelationEvents currentTime .cancelNonPointerEvents := by
  rw [feedAll_pointer]
  simp [cancelationEvents_nonPointer]

lemma feedAll_pointer_nonPointer :
    state.feedAll (state.cancelationEvents currentTime .cancelPointerEvents ++
        state.cancelationEvents currentTime .cancelNonPointerEvents) =
      (true, state.canceled currentTime) := by
  rw [feedAll_append, feedAll_pointer, cancelationEvents_nonPointer]
  dsimp only
  rw [feedAll_append, feedAll_cancelKey currentTime (removeAll_self _)]
  dsimp only
  rw [feedAll_cancelMotion currentTime (removeAll_self _)]
  rfl

end InputState

/-! ## Exactly once -/

def EventEntry.cancelsKey (memento : KeyMemento) : EventEntry Value → Bool
  | .key entry => entry.action = keyActionUp ∧ entry.identity = memento.identity
  | .motion _ => false

def EventEntry.cancelsMotion (memento : MotionMemento Value) : EventEntry Value → Bool
  | .key _ => false
  | .motion entry =>
    entry.action = (if memento.hovering then actionHoverExit else actionCancel) ∧
      entry.identity memento.hovering = memento.identity

namespace InputState

variable {state : InputState Value}

lemma cancelsKey_cancelKey (memo other : KeyMemento) :
    (key (cancelKey currentTime other) : EventEntry Value).cancelsKey memo =
      decide (other.identity = memo.identity) := by
  have same : (cancelKey currentTime other).identity = other.identity := rfl
  have up : (cancelKey currentTime other).action = keyActionUp := rfl
  simp [cancelsKey, same, up]

lemma cancelsMotion_cancelMotion (memo other : MotionMemento Value) :
    (motion (cancelMotion currentTime other)).cancelsMotion memo =
      decide (other.identity = memo.identity) := by
  have actions : actionHoverExit ≠ actionCancel := by decide
  simp only [cancelsMotion, cancelMotion, motionEvent, MotionEntry.identity,
    MotionMemento.identity, MotionIdentity.mk.injEq]
  cases memo.hovering <;> cases other.hovering <;> simp [actions, actions.symm]

lemma countP_cancelsKey (nodup : Distinct state) (mem : memo ∈ state.mKeyMementos) :
    (state.cancelationEvents currentTime .cancelPointerEvents ++
      state.cancelationEvents currentTime .cancelNonPointerEvents).countP
        (·.cancelsKey memo) = 1 := by
  have motions : ∀ memos : List (MotionMemento Value),
      (memos.map fun memo => motion (cancelMotion currentTime memo)).countP
        (·.cancelsKey memo) = 0 := by
    intro memos
    simp [countP_eq_zero, cancelsKey]
  rw [cancelationEvents_pointer, cancelationEvents_nonPointer, countP_append,
    countP_append, motions, motions, countP_map]
  simpa [Function.comp_def, cancelsKey_cancelKey] using countP_key nodup.keys mem

lemma countP_cancelsMotion (nodup : Distinct state) (mem : memo ∈ state.mMotionMementos) :
    (state.cancelationEvents currentTime .cancelPointerEvents ++
      state.cancelationEvents currentTime .cancelNonPointerEvents).countP
        (·.cancelsMotion memo) = 1 := by
  have keys : ∀ memos : List KeyMemento,
      (memos.map fun memo => key (cancelKey currentTime memo)).countP
        (·.cancelsMotion memo) = 0 := by
    intro memos
    simp [countP_eq_zero, cancelsMotion]
  have once := countP_key nodup.motions mem
  rw [countP_eq_countP_filter_add _ _ fun memo : MotionMemento Value =>
    isPointerSource memo.source] at once
  rw [cancelationEvents_pointer, cancelationEvents_nonPointer, countP_append,
    countP_append, keys, countP_map, countP_map]
  simpa [Function.comp_def, cancelsMotion_cancelMotion] using once

end InputState

/-- In every state that the calls reach, the canceling events of all kinds are accepted and leave
the state neutral. The pointer events followed by the non-pointer events, which the pointer events
do not change, leave the same state, and each memento is canceled by one of them. -/
theorem cancelation_complete (calls : List (InputStateCall Value)) (world : World Value)
    (reached : run World.step (some World.create) calls = some world) (connection : Nat)
    (currentTime : Int) :
    let state := world connection
    let events := fun mode => state.synthesizeCancelationEvents currentTime { mode := mode }
    let pointer := events .cancelPointerEvents
    let nonPointer := events .cancelNonPointerEvents
    ∃ after, after.isNeutral = true ∧ state.feedAll (events .cancelAllEvents) = (true, after) ∧
      state.feedAll (pointer ++ nonPointer) = (true, after) ∧
      (state.feedAll pointer).2.synthesizeCancelationEvents currentTime
        { mode := .cancelNonPointerEvents } = nonPointer ∧
      (∀ memento ∈ state.mKeyMementos, (pointer ++ nonPointer).countP (·.cancelsKey memento) = 1) ∧
      ∀ memento ∈ state.mMotionMementos,
        (pointer ++ nonPointer).countP (·.cancelsMotion memento) = 1 := by
  intro state events pointer nonPointer
  have nodup : state.Distinct := World.distinct_run reached connection
  exact ⟨state.canceled currentTime, rfl, state.feedAll_all currentTime,
    state.feedAll_pointer_nonPointer currentTime,
    state.cancelationEvents_nonPointer_after currentTime,
    fun memento => InputState.countP_cancelsKey nodup,
    fun memento => InputState.countP_cancelsMotion nodup⟩

/-! ## A transferred touch -/

def touch : MotionEntry Nat where
  eventTime := 1
  deviceId := 1
  source := 0x1002
  displayId := 0
  policyFlags := 0
  action := actionDown
  actionButton := 0
  flags := 0
  metaState := 0
  buttonState := 0
  classification := .none
  edgeFlags := 0
  xPrecision := 1
  yPrecision := 1
  xCursorPosition := 0
  yCursorPosition := 0
  downTime := 1
  pointers := [⟨⟨0, 1⟩, ⟨3, [10, 20]⟩⟩]

def press : KeyEntry where
  eventTime := 2
  deviceId := 2
  source := 0x101
  displayId := 0
  policyFlags := 0
  action := keyActionDown
  flags := 8
  keyCode := 29
  scanCode := 30
  metaState := 0
  repeatCount := 0
  downTime := 2

def transferCalls : List (InputStateCall Nat) :=
  [.trackMotion 0 touch actionDown 0, .trackMotion 1 touch actionHoverEnter 0,
    .trackKey 1 press keyActionDown 8, .mergePointerStateTo 0 1,
    .synthesizePointerDownEvents 1 3, .trackMotion 1 touch actionDown 0]

def transferred : World Nat :=
  (run World.step (some World.create) transferCalls).getD World.create

theorem cancelation_complete_transferred : (transferred 1).mMotionMementos.length = 2 ∧
      ∃ after, after.isNeutral = true ∧
        (transferred 1).feedAll ((transferred 1).synthesizeCancelationEvents 9
          { mode := .cancelAllEvents }) = (true, after) := by
  obtain ⟨after, neutral, taken, -⟩ := cancelation_complete transferCalls transferred rfl 1 9
  exact ⟨rfl, after, neutral, taken⟩

/-- No calls make two mementos of one key, or of one touch or hover of a source. -/
theorem mementos_distinct (calls : List (InputStateCall Value)) (world : World Value)
    (reached : run World.step (some World.create) calls = some world) (connection : Nat) :
    ((world connection).mKeyMementos.map KeyMemento.identity).Nodup ∧
      ((world connection).mMotionMementos.map MotionMemento.identity).Nodup :=
  have distinct := World.distinct_run reached connection
  ⟨distinct.keys, distinct.motions⟩

theorem mementos_distinct_transferred :
    ((transferred 1).mMotionMementos.map MotionMemento.identity).Nodup :=
  (mementos_distinct transferCalls transferred rfl 1).2

end NativeLibs.Input
