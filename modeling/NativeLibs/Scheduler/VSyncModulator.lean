import NativeLibs.Foundation.Machine
import Mathlib.Data.Int.Notation

/-! # The modulator of the vsync offsets

`VSyncModulator`: which offsets the event threads get, depending on transactions, refresh rate
changes and the use of the render engine. -/

namespace NativeLibs.Scheduler

inductive TransactionStart where
  | early
  | earlyStart
  | earlyEnd
  | normal
  deriving DecidableEq, Repr

structure Offsets where
  sf : Int
  app : Int
  deriving DecidableEq, Repr

structure OffsetsConfig where
  early : Offsets
  earlyGl : Offsets
  late : Offsets
  deriving DecidableEq, Repr

/-- `VSyncModulator`. `applied` is what the phase offset control was told last, if anything. -/
structure VSyncModulator where
  mOffsetsConfig : OffsetsConfig
  mOffsets : Offsets
  mTransactionStart : TransactionStart
  mRefreshRateChangePending : Bool
  mExplicitEarlyWakeup : Bool
  mRemainingEarlyFrameCount : Int
  mRemainingRenderEngineUsageCount : Int
  mEarlyTxnStartTime : Int
  mTxnAppliedTime : Int
  applied : Option Offsets
  deriving DecidableEq, Repr

namespace VSyncModulator

def minEarlyFrameCountTransaction : Int := 2

def minEarlyGlFrameCountTransaction : Int := 2

def marginForTxApply : Int := 1000000

def create (config : OffsetsConfig) : VSyncModulator where
  mOffsetsConfig := config
  mOffsets := config.late
  mTransactionStart := .normal
  mRefreshRateChangePending := false
  mExplicitEarlyWakeup := false
  mRemainingEarlyFrameCount := 0
  mRemainingRenderEngineUsageCount := 0
  mEarlyTxnStartTime := 0
  mTxnAppliedTime := 0
  applied := none

variable (modulator : VSyncModulator)

def getNextOffsets : Offsets :=
  if modulator.mExplicitEarlyWakeup || modulator.mTransactionStart = .earlyEnd ||
      0 < modulator.mRemainingEarlyFrameCount || modulator.mRefreshRateChangePending then
    modulator.mOffsetsConfig.early
  else if 0 < modulator.mRemainingRenderEngineUsageCount then modulator.mOffsetsConfig.earlyGl
  else modulator.mOffsetsConfig.late

def updateOffsets : VSyncModulator :=
  { modulator with
    mOffsets := modulator.getNextOffsets
    applied := some modulator.getNextOffsets }

def setPhaseOffsets (config : OffsetsConfig) : VSyncModulator :=
  { modulator with mOffsetsConfig := config }.updateOffsets

def setExplicitEarlyWakeup : TransactionStart → VSyncModulator
  | .earlyStart => { modulator with mExplicitEarlyWakeup := true }
  | .earlyEnd => { modulator with mExplicitEarlyWakeup := false }
  | .normal | .early => modulator

variable (now : Int) (transactionStart : TransactionStart)

def setTransactionStart : VSyncModulator :=
  let modulator := modulator.setExplicitEarlyWakeup transactionStart
  let modulator :=
    if !modulator.mExplicitEarlyWakeup &&
        (transactionStart = .early || transactionStart = .earlyEnd) then
      { modulator with
        mRemainingEarlyFrameCount := minEarlyFrameCountTransaction
        mEarlyTxnStartTime := now }
    else modulator
  -- An early transaction stays an early transaction.
  if transactionStart = modulator.mTransactionStart ∨ modulator.mTransactionStart = .earlyEnd then
    modulator
  else { modulator with mTransactionStart := transactionStart }.updateOffsets

def onTransactionHandled : VSyncModulator :=
  let modulator := { modulator with mTxnAppliedTime := now }
  if modulator.mTransactionStart = .normal then modulator
  else { modulator with mTransactionStart := .normal }.updateOffsets

def onRefreshRateChangeInitiated : VSyncModulator :=
  if modulator.mRefreshRateChangePending then modulator
  else { modulator with mRefreshRateChangePending := true }.updateOffsets

def onRefreshRateChangeCompleted : VSyncModulator :=
  if modulator.mRefreshRateChangePending then
    { modulator with mRefreshRateChangePending := false }.updateOffsets
  else modulator

def onRefreshed (usedRenderEngine : Bool) : VSyncModulator :=
  let earlyFrame : Bool :=
    modulator.mEarlyTxnStartTime + marginForTxApply < modulator.mTxnAppliedTime &&
      0 < modulator.mRemainingEarlyFrameCount
  let modulator := if earlyFrame then
      { modulator with mRemainingEarlyFrameCount := modulator.mRemainingEarlyFrameCount - 1 }
    else modulator
  if usedRenderEngine then
    { modulator with
      mRemainingRenderEngineUsageCount := minEarlyGlFrameCountTransaction }.updateOffsets
  else if 0 < modulator.mRemainingRenderEngineUsageCount then
    { modulator with
      mRemainingRenderEngineUsageCount :=
        modulator.mRemainingRenderEngineUsageCount - 1 }.updateOffsets
  else if earlyFrame then modulator.updateOffsets
  else modulator

lemma setTransactionStart_mExplicitEarlyWakeup :
    (modulator.setTransactionStart now transactionStart).mExplicitEarlyWakeup =
      (modulator.setExplicitEarlyWakeup transactionStart).mExplicitEarlyWakeup := by
  unfold setTransactionStart
  dsimp only
  split <;> split <;> rfl

/-! ## The offsets in use are current -/

inductive Operation where
  | setPhaseOffsets (config : OffsetsConfig)
  | setTransactionStart (transactionStart : TransactionStart)
  | onTransactionHandled
  | onRefreshRateChangeInitiated
  | onRefreshRateChangeCompleted
  | onRefreshed (usedRenderEngine : Bool)
  deriving DecidableEq, Repr

def apply : Operation → VSyncModulator
  | .setPhaseOffsets config => modulator.setPhaseOffsets config
  | .setTransactionStart transactionStart => modulator.setTransactionStart now transactionStart
  | .onTransactionHandled => modulator.onTransactionHandled now
  | .onRefreshRateChangeInitiated => modulator.onRefreshRateChangeInitiated
  | .onRefreshRateChangeCompleted => modulator.onRefreshRateChangeCompleted
  | .onRefreshed usedRenderEngine => modulator.onRefreshed usedRenderEngine

structure Timed where
  modulator : VSyncModulator
  clock : Int

def Timed.step (timed : Timed) (call : Int × Operation) : Timed :=
  ⟨timed.modulator.apply call.1 call.2, call.1⟩

def Timed.Later (timed : Timed) (call : Int × Operation) : Prop :=
  timed.clock ≤ call.1

/-- What the operations that skip the update rely on. -/
structure Consistent (modulator : VSyncModulator) (clock : Int) : Prop where
  handled : modulator.mTxnAppliedTime ≤ clock
  wakeup : modulator.mTransactionStart = .earlyStart → modulator.mExplicitEarlyWakeup = true
  /-- An early transaction has not been applied yet, so its frames are still counted. -/
  early : modulator.mTransactionStart = .early → modulator.mExplicitEarlyWakeup = false →
    0 < modulator.mRemainingEarlyFrameCount ∧
      modulator.mTxnAppliedTime ≤ modulator.mEarlyTxnStartTime

structure Current (modulator : VSyncModulator) (clock : Int) : Prop
    extends Consistent modulator clock where
  offsets : modulator.mOffsets = modulator.getNextOffsets
  applied : ∀ offsets, modulator.applied = some offsets → offsets = modulator.getNextOffsets

lemma Consistent.updateOffsets {modulator : VSyncModulator}
    (consistent : modulator.Consistent clock) : modulator.updateOffsets.Current clock where
  handled := consistent.handled
  wakeup := consistent.wakeup
  early := consistent.early
  offsets := rfl
  applied _ told := (Option.some.inj told).symm

namespace Current

variable {modulator : VSyncModulator} {now : Int}

section

variable (cur : modulator.Current clock)
include cur

lemma skip {next : VSyncModulator} (consistent : next.Consistent now)
    (offsets : next.mOffsets = modulator.mOffsets) (applied : next.applied = modulator.applied)
    (same : next.getNextOffsets = modulator.getNextOffsets) : next.Current now where
  toConsistent := consistent
  offsets := by rw [offsets, same, cur.offsets]
  applied := by
    rw [applied, same]
    exact cur.applied

lemma later (later : clock ≤ now) : modulator.Current now :=
  { cur with handled := Int.le_trans cur.handled later }

lemma setTransactionStart (later : clock ≤ now) (transactionStart : TransactionStart) :
    (modulator.setTransactionStart now transactionStart).Current now := by
  have handled := Int.le_trans cur.handled later
  have wakeup := cur.wakeup
  have early := cur.early
  have pos : 0 < minEarlyFrameCountTransaction := by decide
  unfold VSyncModulator.setTransactionStart
  dsimp only
  split_ifs with counts stays stays
  · -- the transaction is as early as it was, or an early one has ended
    have stays := stays.imp_left Eq.symm
    apply cur.skip
    · rcases stays with stays | stays <;> constructor <;> cases transactionStart <;>
        simp_all [setExplicitEarlyWakeup]
    · cases transactionStart <;> rfl
    · cases transactionStart <;> rfl
    · rcases stays with stays | stays <;> cases transactionStart <;>
        simp_all [setExplicitEarlyWakeup, getNextOffsets]
  · apply Consistent.updateOffsets
    constructor <;> cases transactionStart <;> simp_all [setExplicitEarlyWakeup]
  · have stays := stays.imp_left Eq.symm
    apply cur.skip
    · rcases stays with stays | stays <;> constructor <;> cases transactionStart <;>
        simp_all [setExplicitEarlyWakeup]
    · cases transactionStart <;> rfl
    · cases transactionStart <;> rfl
    · rcases stays with stays | stays <;> cases transactionStart <;>
        first | rfl | simp_all [setExplicitEarlyWakeup, getNextOffsets]
  · apply Consistent.updateOffsets
    constructor <;> cases transactionStart <;> simp_all [setExplicitEarlyWakeup]

lemma onTransactionHandled (now : Int) : (modulator.onTransactionHandled now).Current now := by
  unfold VSyncModulator.onTransactionHandled
  dsimp only
  split
  · rename_i normal
    apply cur.skip
    · constructor <;> simp [normal]
    · rfl
    · rfl
    · rfl
  · apply Consistent.updateOffsets
    constructor <;> simp

lemma onRefreshed (usedRenderEngine : Bool) :
    (modulator.onRefreshed usedRenderEngine).Current clock := by
  have handled := cur.handled
  have wakeup := cur.wakeup
  have early := cur.early
  have margin : 0 < marginForTxApply := by decide
  -- a frame is only counted for a transaction that has been applied
  have counts : ∀ next : VSyncModulator, next.mTxnAppliedTime = modulator.mTxnAppliedTime →
      next.mTransactionStart = modulator.mTransactionStart →
      next.mExplicitEarlyWakeup = modulator.mExplicitEarlyWakeup →
      next.mEarlyTxnStartTime = modulator.mEarlyTxnStartTime →
      (next.mRemainingEarlyFrameCount = modulator.mRemainingEarlyFrameCount ∨
        modulator.mEarlyTxnStartTime + marginForTxApply < modulator.mTxnAppliedTime) →
      next.Consistent clock := by
    intro next applied low explicit startTime count
    constructor <;> grind
  unfold VSyncModulator.onRefreshed
  dsimp only
  split_ifs
  all_goals first
    | exact cur
    | (apply Consistent.updateOffsets; apply counts <;> grind)

lemma apply (later : clock ≤ now) (op : Operation) :
    (modulator.apply now op).Current now := by
  have current' := cur.later later
  cases op with
  | setPhaseOffsets config =>
    exact Consistent.updateOffsets ⟨current'.handled, cur.wakeup, cur.early⟩
  | setTransactionStart transactionStart => exact cur.setTransactionStart later transactionStart
  | onTransactionHandled => exact cur.onTransactionHandled now
  | onRefreshRateChangeInitiated =>
    simp only [VSyncModulator.apply, onRefreshRateChangeInitiated]
    split
    · exact current'
    · exact Consistent.updateOffsets ⟨current'.handled, cur.wakeup, cur.early⟩
  | onRefreshRateChangeCompleted =>
    simp only [VSyncModulator.apply, onRefreshRateChangeCompleted]
    split
    · exact Consistent.updateOffsets ⟨current'.handled, cur.wakeup, cur.early⟩
    · exact current'
  | onRefreshed usedRenderEngine => exact current'.onRefreshed usedRenderEngine

end

end Current

def Timed.Current (timed : Timed) : Prop :=
  timed.modulator.Current timed.clock

lemma Timed.Current.step (timed : Timed) (call : Int × Operation) (cur : timed.Current)
    (later : timed.Later call) : (timed.step call).Current :=
  .apply cur later call.2

variable (config : OffsetsConfig)

def Timed.create : Timed :=
  ⟨VSyncModulator.create config, 0⟩

lemma Timed.Current.create : (Timed.create config).Current where
  handled := Int.le_refl 0
  wakeup := by simp [Timed.create, VSyncModulator.create]
  early := by simp [Timed.create, VSyncModulator.create]
  offsets := rfl
  applied := by simp [Timed.create, VSyncModulator.create]

/-- While the clock does not go back, the offsets in use after every operation, and those the
event threads were told last, are the ones that `getNextOffsets` selects. -/
theorem offsets_current (config : OffsetsConfig) (calls : List (Int × Operation))
    (later : Machine.Along Timed.step Timed.Later (Timed.create config) calls) :
    let modulator := (Machine.run Timed.step (Timed.create config) calls).modulator
    modulator.mOffsets = modulator.getNextOffsets ∧
      ∀ offsets, modulator.applied = some offsets → offsets = modulator.getNextOffsets := by
  have current : (Machine.run Timed.step (Timed.create config) calls).Current :=
    Machine.run_invariant Timed.Current.step (Timed.Current.create config) later
  exact ⟨current.offsets, current.applied⟩

def announcedTwice : List (Int × Operation) :=
  [(5, .setTransactionStart .early), (6, .setTransactionStart .early), (9, .onTransactionHandled),
    (2000000, .onTransactionHandled), (2000001, .onRefreshed false)]

theorem offsets_current_announcedTwice :
    let modulator := (Machine.run Timed.step (Timed.create ⟨⟨1, 1⟩, ⟨2, 2⟩, ⟨3, 3⟩⟩)
      announcedTwice).modulator
    modulator.mRemainingEarlyFrameCount = 1 ∧ modulator.applied = some ⟨1, 1⟩ ∧
      modulator.mOffsets = modulator.getNextOffsets := by
  refine ⟨by decide, by decide, ?_⟩
  exact (offsets_current ⟨⟨1, 1⟩, ⟨2, 2⟩, ⟨3, 3⟩⟩ announcedTwice
    (by simp [announcedTwice, Machine.Along, Timed.Later, Timed.step, Timed.create])).1

end VSyncModulator

end NativeLibs.Scheduler
