import NativeLibs.Foundation.Machine
import Mathlib.Data.List.AList

/-! # Keys of a keyboard

`processKey` remembers the key code of each scan code that is down, and one down time. -/

namespace NativeLibs.Input.Keyboard

/-- A raw event. The key code is that of the key map and the orientation at the time; the policy
may drop a virtual key. -/
structure RawKey where
  when : Int
  down : Bool
  scanCode : Int
  keyCode : Int
  dropped : Bool := false

structure KeyArgs where
  down : Bool
  scanCode : Int
  keyCode : Int
  downTime : Int
  deriving DecidableEq

structure KeyboardInputMapper where
  mKeyDowns : AList fun _ : Int => Int := ∅
  mDownTime : Int := 0

def processKey (mapper : KeyboardInputMapper) (raw : RawKey) :
    KeyboardInputMapper × Option KeyArgs :=
  let known := mapper.mKeyDowns.lookup raw.scanCode
  let keyCode := known.getD raw.keyCode
  if raw.down = true then
    if known = none ∧ raw.dropped = true then (mapper, none)
    else (⟨mapper.mKeyDowns.insert raw.scanCode keyCode, raw.when⟩,
      some ⟨true, raw.scanCode, keyCode, raw.when⟩)
  else if known = none then (mapper, none)
  else (⟨mapper.mKeyDowns.erase raw.scanCode, mapper.mDownTime⟩,
    some ⟨false, raw.scanCode, keyCode, mapper.mDownTime⟩)

/-- The mapper, the latest key-down of each scan code since its last key-up, and the latest
key-down of all. -/
structure History where
  mapper : KeyboardInputMapper := {}
  held : Int → Option KeyArgs := fun _ => none
  latest : Option KeyArgs := none

def step (history : History) (raw : RawKey) : History :=
  match processKey history.mapper raw with
  | (mapper, none) => { history with mapper := mapper }
  | (mapper, some args) =>
    if args.down = true then
      ⟨mapper, Function.update history.held args.scanCode (some args), some args⟩
    else { history with
      mapper := mapper, held := Function.update history.held args.scanCode none }

structure Remembers (history : History) : Prop where
  keyCodes : ∀ scanCode, history.mapper.mKeyDowns.lookup scanCode =
    (history.held scanCode).map (·.keyCode)
  downTime : ∀ last ∈ history.latest, last.downTime = history.mapper.mDownTime
  started : ∀ scanCode, ∀ down ∈ history.held scanCode, history.latest ≠ none

lemma remembers_step (hist : History) (raw : RawKey) (remembers : Remembers hist) :
    Remembers (step hist raw) := by
  by_cases down : raw.down = true
  · by_cases drops : hist.mapper.mKeyDowns.lookup raw.scanCode = none ∧ raw.dropped = true
    · simpa [step, processKey, down, drops] using remembers
    · simp only [step, processKey, down, drops, if_true, if_false]
      refine ⟨fun scanCode => ?_, by simp, by simp⟩
      by_cases same : scanCode = raw.scanCode
      · subst same
        simp
      · simp [same, remembers.keyCodes scanCode]
  · by_cases isUp : hist.mapper.mKeyDowns.lookup raw.scanCode = none
    · simpa [step, processKey, down, isUp] using remembers
    · simp only [step, processKey, down, isUp, if_false]
      refine ⟨fun scanCode => ?_, remembers.downTime, fun scanCode args held => ?_⟩
      · by_cases same : scanCode = raw.scanCode
        · subst same
          simp
        · simp [same, remembers.keyCodes scanCode]
      · by_cases same : scanCode = raw.scanCode
        · simp [same] at held
        · exact remembers.started scanCode args (by simpa [same] using held)

/-- In every run, a key-up that is emitted follows a key-down of its scan code and has its key
code. Its down time is that of the latest key-down of all. -/
theorem keyUp_matches_keyDown (labels : List RawKey) (raw : RawKey) (up : raw.down = false) :
    let history := Machine.run step {} labels
    ∀ args ∈ (processKey history.mapper raw).2, ∃ down ∈ history.held raw.scanCode,
      args.keyCode = down.keyCode ∧ ∃ last ∈ history.latest, args.downTime = last.downTime := by
  intro history args emitted
  have remembers : Remembers history :=
    Machine.run_always remembers_step ⟨fun _ => rfl, by simp, by simp⟩ labels
  by_cases isUp : history.mapper.mKeyDowns.lookup raw.scanCode = none
  · simp [processKey, up, isUp] at emitted
  · simp only [processKey, up, isUp, Bool.false_eq_true, if_false, Option.mem_some_iff] at emitted
    rw [remembers.keyCodes] at isUp emitted
    rcases Option.ne_none_iff_exists'.1 (Option.map_eq_none_iff.not.1 isUp) with ⟨down, isDown⟩
    rcases Option.ne_none_iff_exists'.1 (remembers.started _ down isDown) with ⟨last, isLast⟩
    refine ⟨down, isDown, by simp [← emitted, isDown], last, isLast, ?_⟩
    simp [← emitted, remembers.downTime last isLast]

def twoKeys : List RawKey := [⟨1, true, 30, 29, false⟩, ⟨2, true, 31, 47, false⟩]

theorem second_downTime_reported :
    (processKey (Machine.run step {} twoKeys).mapper ⟨3, false, 30, 29, false⟩).2 =
      some ⟨false, 30, 29, 2⟩ ∧
    (Machine.run step {} twoKeys).held 30 = some ⟨true, 30, 29, 1⟩ := ⟨rfl, rfl⟩

theorem keyUp_matches_keyDown_chord :
    ∃ down ∈ (Machine.run step {} twoKeys).held 30, 29 = down.keyCode ∧
      ∃ last ∈ (Machine.run step {} twoKeys).latest, 2 = last.downTime :=
  keyUp_matches_keyDown twoKeys ⟨3, false, 30, 0, false⟩ rfl ⟨false, 30, 29, 2⟩ rfl

end NativeLibs.Input.Keyboard
