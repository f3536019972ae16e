import NativeLibs.Flinger.TransactionQueues

/-! # What a caller without privilege reaches

The changes of input windows and of frame rate priorities are refused where they would be made.
The explicit early wakeup flags are cleared after the start of the transaction was computed from
them, so they reach the modulator. -/

namespace NativeLibs.Flinger

open Composer Scheduler SurfaceFlinger Scene VSyncModulator

variable {Token World Value : Type} (ls : Layers World Value) (s : LayerState Value)

def withoutPrivilegedChanges : LayerState Value :=
  (s.forget .inputInfo).forget .frameRateSelectionPriority

def Application.withoutPrivileged (application : Application Value) : Application Value :=
  { application with
    flags := application.flags &&& ~~~ (eExplicitEarlyWakeupStart ||| eExplicitEarlyWakeupEnd)
    states := application.states.map withoutPrivilegedChanges }

structure SamePrivileged (layers : Layers World Value)
    (first second : SurfaceFlinger Token World Value) : Prop where
  wakeup : first.mVSyncModulator.mExplicitEarlyWakeup = second.mVSyncModulator.mExplicitEarlyWakeup
  inputInfo : ∀ handle,
    layers.inputInfo first.scene.world handle = layers.inputInfo second.scene.world handle
  priority : ∀ handle, layers.frameRateSelectionPriority first.scene.world handle =
    layers.frameRateSelectionPriority second.scene.world handle

/-! ## Layers -/

lemma branches_closed : ∀ branch ∈ branches ls false s,
      branch.change = .inputInfo ∨ branch.change = .frameRateSelectionPriority →
        branch.condition = false := by
  simp [branches]

lemma withoutPrivilegedChanges_what (notInput : change ≠ .inputInfo)
    (notPriority : change ≠ .frameRateSelectionPriority) :
    (withoutPrivilegedChanges s).what change = s.what change := by
  simp [withoutPrivilegedChanges, LayerState.forget, notInput, notPriority]

lemma takeBranch_withoutPrivileged (handle : Nat) (s : LayerState Value)
    (res : Scene World × BitVec 32) (mem : branch ∈ branches ls false s) :
    takeBranch ls handle (withoutPrivilegedChanges s) res branch =
      takeBranch ls handle s res branch := by
  unfold takeBranch
  by_cases needs : branch.change = .inputInfo ∨ branch.change = .frameRateSelectionPriority
  · rw [branches_closed ls s branch mem needs, Bool.and_false, Bool.and_false]
  · rw [not_or] at needs
    rw [withoutPrivilegedChanges_what s needs.1 needs.2]

lemma setClientStateLocked_withoutPrivileged (scene : Scene World) (s : LayerState Value)
    (desiredPresentTime postTime : Int) :
    scene.setClientStateLocked ls (withoutPrivilegedChanges s) desiredPresentTime postTime false =
      scene.setClientStateLocked ls s desiredPresentTime postTime false := by
  have surface : (withoutPrivilegedChanges s).surface = s.surface := rfl
  have listeners : (withoutPrivilegedChanges s).listeners = s.listeners := rfl
  have sameBranches : branches ls false (withoutPrivilegedChanges s) =
      branches ls false s := rfl
  have calls : (withoutPrivilegedChanges s).what .hasListenerCallbacks =
      s.what .hasListenerCallbacks := rfl
  have buf : ∀ handle, setBuffer ls handle (withoutPrivilegedChanges s) postTime
      desiredPresentTime = setBuffer ls handle s postTime desiredPresentTime :=
    fun _ => rfl
  have folded : ∀ handle (res : Scene World × BitVec 32), (branches ls false s).foldl
          (takeBranch ls handle (withoutPrivilegedChanges s)) res =
        (branches ls false s).foldl (takeBranch ls handle s) res :=
    fun handle res => List.foldl_ext _ _ _ fun old branch mem =>
      takeBranch_withoutPrivileged ls handle s old mem
  simp only [setClientStateLocked, surface, listeners, sameBranches, calls, buf, folded]

/-! ## Transactions -/

variable (flags mask bit : BitVec 32)

lemma has_and_not (apart : ~~~ mask &&& bit = bit) :
    has (flags &&& ~~~ mask) bit = has flags bit := by
  unfold has
  rw [BitVec.and_assoc, apart]

lemma has_and_not_of_le (win : ~~~ mask &&& bit = 0) : has (flags &&& ~~~ mask) bit = false := by
  have zero : flags &&& 0 = 0 := BitVec.and_zero
  unfold has
  rw [BitVec.and_assoc, win, zero]
  rfl

namespace Application

variable (app : Application Value)

lemma withoutPrivileged_has_eAnimation :
    has app.withoutPrivileged.flags eAnimation = has app.flags eAnimation :=
  has_and_not _ _ _ (by decide)

lemma withoutPrivileged_transactionStart : transactionStart app.withoutPrivileged.flags =
      if has app.flags eEarlyWakeup then .early else .normal := by
  have early : has app.withoutPrivileged.flags eEarlyWakeup =
      has app.flags eEarlyWakeup := has_and_not _ _ _ (by decide)
  have noEnd : has app.withoutPrivileged.flags eExplicitEarlyWakeupEnd = false :=
    has_and_not_of_le _ _ _ (by decide)
  have noStart : has app.withoutPrivileged.flags eExplicitEarlyWakeupStart = false :=
    has_and_not_of_le _ _ _ (by decide)
  unfold transactionStart
  rw [early, noEnd, noStart]
  rfl

end Application

namespace SurfaceFlinger

variable (ls : Layers World Value)

lemma applyState_withoutPrivileged (unpriv : app.privileged = false)
    (res : SurfaceFlinger Token World Value × BitVec 32) (s : LayerState Value) :
    applyState ls app.withoutPrivileged res (withoutPrivilegedChanges s) =
      applyState ls app res s := by
  have privilege : app.withoutPrivileged.privileged = false := unpriv
  have want : app.withoutPrivileged.desiredPresentTime =
    app.desiredPresentTime := rfl
  have posted : app.withoutPrivileged.postTime = app.postTime := rfl
  have surface : (withoutPrivilegedChanges s).surface = s.surface := rfl
  simp only [applyState, privilege, unpriv, want, posted, surface,
    setClientStateLocked_withoutPrivileged, app.withoutPrivileged_has_eAnimation]

lemma applyClientStates_withoutPrivileged (unpriv : app.privileged = false)
    (sf : SurfaceFlinger Token World Value) : sf.applyClientStates ls app.withoutPrivileged =
      sf.applyClientStates ls app := by
  have states : app.withoutPrivileged.states =
    app.states.map withoutPrivilegedChanges := rfl
  have listeners : (app.states.map withoutPrivilegedChanges).flatMap (·.listeners) =
      app.states.flatMap (·.listeners) := by
    rw [List.flatMap_map]
    rfl
  have calls : app.withoutPrivileged.hasListenerCallbacks =
    app.hasListenerCallbacks := rfl
  simp only [applyClientStates, states, listeners, calls, List.foldl_map,
    applyState_withoutPrivileged ls unpriv]

/-! ## The modulator -/

variable (sf : SurfaceFlinger Token World Value)

lemma commit_scene (app : Application Value) (main : Bool) (transactionFlags : BitVec 32) :
    (sf.commit app main transactionFlags).scene = sf.scene := by
  unfold commit
  extract_lets
  split
  · rfl
  · split <;> rfl

lemma commit_mExplicitEarlyWakeup (app : Application Value) (main : Bool)
    (transactionFlags : BitVec 32) : (sf.commit app main
        transactionFlags).mVSyncModulator.mExplicitEarlyWakeup =
      (sf.mVSyncModulator.setExplicitEarlyWakeup
        (transactionStart app.flags)).mExplicitEarlyWakeup := by
  unfold commit
  extract_lets flags forced left forcing low cleared raised
  split
  · exact setTransactionStart_mExplicitEarlyWakeup _ _ _
  · split
    · exact setTransactionStart_mExplicitEarlyWakeup _ _ _
    · rename_i notExplicit
      have same : sf.mVSyncModulator.setExplicitEarlyWakeup low =
          sf.mVSyncModulator := by
        cases kind : low with
        | early => rfl
        | normal => rfl
        | earlyStart => exact absurd (.inl kind) notExplicit
        | earlyEnd => exact absurd (.inr kind) notExplicit
      rw [same]

variable [DecidableEq Value]

lemma applyStates_withoutPrivileged (unpriv : app.privileged = false)
    (sf : SurfaceFlinger Token World Value) (main : Bool) :
    sf.applyStates ls app.withoutPrivileged main = sf.applyStates ls app main := by
  have awaits : sf.awaitAnimation app.withoutPrivileged main =
      sf.awaitAnimation app main := by
    unfold awaitAnimation
    rw [app.withoutPrivileged_has_eAnimation]
  have displays : ∀ old : SurfaceFlinger Token World Value,
      old.applyDisplays app.withoutPrivileged = old.applyDisplays app :=
    fun _ => rfl
  have commands : app.withoutPrivileged.inputWindowCommands =
    app.inputWindowCommands := rfl
  have cold : app.withoutPrivileged.uncacheBuffer = app.uncacheBuffer := rfl
  simp only [applyStates, awaits, displays, commands, cold,
    applyClientStates_withoutPrivileged ls unpriv]

lemma applyTransactionState_mExplicitEarlyWakeup (app : Application Value)
    (main : Bool) : (sf.applyTransactionState ls app main).mVSyncModulator.mExplicitEarlyWakeup =
      (sf.mVSyncModulator.setExplicitEarlyWakeup
        (transactionStart app.flags)).mExplicitEarlyWakeup := by
  obtain ⟨displays, scene, waits, set⟩ := sf.applyStates_spec ls app main
  unfold applyTransactionState
  dsimp only
  rw [commit_mExplicitEarlyWakeup, set]

/-- When the explicit flags of a caller without privilege have no effect: the deprecated flag takes
precedence over them, there are none, or the state is already the one that they ask for. -/
def Harmless (explicitEarlyWakeup : Bool) (flags : BitVec 32) : Prop :=
  has flags eEarlyWakeup = true ∨
    has flags eExplicitEarlyWakeupStart = false ∧ has flags eExplicitEarlyWakeupEnd = false ∨
    has flags eExplicitEarlyWakeupEnd = true ∧ explicitEarlyWakeup = false ∨
    has flags eExplicitEarlyWakeupStart = true ∧ has flags eExplicitEarlyWakeupEnd = false ∧
      explicitEarlyWakeup = true

lemma samePrivileged_iff (unpriv : app.privileged = false)
    (sf : SurfaceFlinger Token World Value) (main : Bool) :
    SamePrivileged ls (sf.applyTransactionState ls app main)
        (sf.applyTransactionState ls app.withoutPrivileged main) ↔
      Harmless sf.mVSyncModulator.mExplicitEarlyWakeup app.flags := by
  have scenes : (sf.applyTransactionState ls app main).scene =
      (sf.applyTransactionState ls app.withoutPrivileged main).scene := by
    unfold applyTransactionState
    dsimp only
    rw [commit_scene, commit_scene, applyStates_withoutPrivileged ls unpriv]
  have wakeups : SamePrivileged ls
        (sf.applyTransactionState ls app main)
        (sf.applyTransactionState ls app.withoutPrivileged main) ↔
      (sf.applyTransactionState ls app main).mVSyncModulator.mExplicitEarlyWakeup =
        (sf.applyTransactionState ls app.withoutPrivileged
          main).mVSyncModulator.mExplicitEarlyWakeup :=
    ⟨fun same => same.wakeup, fun wakeup => ⟨wakeup, fun _ => by rw [scenes], fun _ => by rw [scenes]⟩⟩
  rw [wakeups, applyTransactionState_mExplicitEarlyWakeup,
    applyTransactionState_mExplicitEarlyWakeup, app.withoutPrivileged_transactionStart]
  unfold Harmless transactionStart
  cases early : has app.flags eEarlyWakeup <;>
    cases ends : has app.flags eExplicitEarlyWakeupEnd <;>
    cases starts : has app.flags eExplicitEarlyWakeupStart <;>
    cases explicit : sf.mVSyncModulator.mExplicitEarlyWakeup <;>
    simp [setExplicitEarlyWakeup, explicit]

end SurfaceFlinger

/-- A caller without privilege reaches nothing that needs it, at once or from the queue, exactly if
its explicit flags have no effect. -/
theorem unprivileged_contained [DecidableEq Value] (layers : Layers World Value)
    (flinger : SurfaceFlinger Token World Value) (application : Application Value)
    (unprivileged : application.privileged = false) (ticket : Nat) :
    (SamePrivileged layers (flinger.applyTransactionState layers application false)
        (flinger.applyTransactionState layers application.withoutPrivileged false) ↔
      SurfaceFlinger.Harmless flinger.mVSyncModulator.mExplicitEarlyWakeup application.flags) ∧
    (SamePrivileged layers (flinger.applyTransactionState layers
          ((application.enqueue ticket).application flinger.mPendingInputWindowCommands) true)
        (flinger.applyTransactionState layers
          ((application.withoutPrivileged.enqueue ticket).application
            flinger.mPendingInputWindowCommands) true) ↔
      SurfaceFlinger.Harmless flinger.mVSyncModulator.mExplicitEarlyWakeup application.flags) := by
  have queued : ((application.enqueue ticket).application
      flinger.mPendingInputWindowCommands).privileged = false := unprivileged
  exact ⟨samePrivileged_iff layers unprivileged flinger false,
    samePrivileged_iff layers queued flinger true⟩

def earlyStart : Application Nat where
  states := []
  displays := []
  flags := flags
  inputWindowCommands := ⟨false⟩
  desiredPresentTime := -1
  uncacheBuffer := ⟨none, 0⟩
  postTime := 0
  privileged := false
  hasListenerCallbacks := false
  listenerCallbacks := []

/-- With the deprecated flag, it has no effect. -/
theorem unprivileged_contained_early : SamePrivileged noLayers
      (applyTransactionState noLayers
        (create sampleConfig ∅ () : SurfaceFlinger Nat Unit Nat)
        (earlyStart (eEarlyWakeup ||| eExplicitEarlyWakeupStart)) false)
      (applyTransactionState noLayers (create sampleConfig ∅ ())
        (earlyStart (eEarlyWakeup ||| eExplicitEarlyWakeupStart)).withoutPrivileged false) :=
  (unprivileged_contained noLayers _ (earlyStart (eEarlyWakeup ||| eExplicitEarlyWakeupStart))
    rfl 0).1.mpr (.inl rfl)

/-- Without it, the explicit early wakeup is on. -/
theorem unprivileged_starts_early_wakeup : ¬ SamePrivileged noLayers
      (applyTransactionState noLayers
        (create sampleConfig ∅ () : SurfaceFlinger Nat Unit Nat)
        (earlyStart eExplicitEarlyWakeupStart) false)
      (applyTransactionState noLayers (create sampleConfig ∅ ())
        (earlyStart eExplicitEarlyWakeupStart).withoutPrivileged false) := by
  intro same
  cases same.wakeup

end NativeLibs.Flinger
