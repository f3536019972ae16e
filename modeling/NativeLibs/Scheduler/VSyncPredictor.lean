import Mathlib.Data.List.AList
import Mathlib.Algebra.Order.Ring.Int
import NativeLibs.Foundation.Machine

/-! # The vsync predictor

A ring of vsync timestamps is fitted by a linear regression in integers; the slope is the period
and the fit predicts the next vsyncs. Times are exact integers and `/` and `%` truncate. `none`
stands for what the code must not do: read a map entry or an element that is not there, or fail
its own check. -/

namespace NativeLibs.Scheduler

def kMaxPercent : Int := 100

def kScalingFactor : Int := 1000

def kSizeLimit : Nat := 30

def calculateMean (values : List Int) : Int := values.sum.tdiv values.length

structure PredictionModel where
  slope : Int
  intercept : Int
  deriving DecidableEq, Repr

/-- `mLastTimestampIndex` is zero or set by `next`, so it is never negative. -/
structure VSyncPredictor where
  kHistorySize : Nat
  kMinimumSamplesForPrediction : Nat
  kOutlierTolerancePercent : Nat
  mIdealPeriod : Int
  mKnownTimestamp : Option Int
  mRateMap : AList fun _ : Int => PredictionModel
  mLastTimestampIndex : Nat
  mTimestamps : List Int

namespace VSyncPredictor

variable (predictor : VSyncPredictor)

def next (size i : Nat) : Nat := (i + 1) % size

def clearTimestamps : VSyncPredictor :=
  match predictor.mTimestamps.max? with
  | none => predictor
  | some maxRb => { predictor with
      mKnownTimestamp := some ((predictor.mKnownTimestamp.map (max · maxRb)).getD maxRb)
      mTimestamps := []
      mLastTimestampIndex := 0 }

def setModel (slope intercept : Int) : VSyncPredictor :=
  { predictor with
    mRateMap := predictor.mRateMap.insert predictor.mIdealPeriod ⟨slope, intercept⟩ }

def resetModel : VSyncPredictor :=
  (predictor.setModel predictor.mIdealPeriod 0).clearTimestamps

def create (idealPeriod : Int) (historySize minimumSamplesForPrediction : Nat)
    (outlierTolerancePercent : Nat) : VSyncPredictor :=
  resetModel
    { kHistorySize := historySize
      kMinimumSamplesForPrediction := minimumSamplesForPrediction
      kOutlierTolerancePercent := min outlierTolerancePercent 100
      mIdealPeriod := idealPeriod
      mKnownTimestamp := none
      mRateMap := ∅
      mLastTimestampIndex := 0
      mTimestamps := [] }

def getVSyncPredictionModel : Option PredictionModel :=
  predictor.mRateMap.lookup predictor.mIdealPeriod

def currentPeriod : Option Int :=
  predictor.getVSyncPredictionModel.map (·.slope)

def needsMoreSamples : Bool :=
  predictor.mTimestamps.length < predictor.kMinimumSamplesForPrediction

/-- `begin` is the place of the entry that the hash table lists first. -/
def setPeriod (period : Int) (begin : Nat) : VSyncPredictor :=
  let rateMap :=
    if predictor.mRateMap.keys.length = kSizeLimit then
      match predictor.mRateMap.keys[begin % kSizeLimit]? with
      | some evicted => predictor.mRateMap.erase evicted
      | none => predictor.mRateMap
    else predictor.mRateMap
  let rateMap := if period ∈ rateMap then rateMap else rateMap.insert period ⟨period, 0⟩
  { predictor with mIdealPeriod := period, mRateMap := rateMap }.clearTimestamps

/-- A value compared with a `size_t` is taken as unsigned, so a negative one is a large one. -/
def asUnsigned (value : Int) : Int := value % 2 ^ 64

variable (timestamp : Int)

def validate : Option Bool :=
  if predictor.mTimestamps.isEmpty then some true
  else do
    let aValidTimestamp ← predictor.mTimestamps[predictor.mLastTimestampIndex]?
    let percent := ((timestamp - aValidTimestamp).tmod predictor.mIdealPeriod * kMaxPercent).tdiv
      predictor.mIdealPeriod
    some (asUnsigned percent < predictor.kOutlierTolerancePercent ||
      asUnsigned percent > kMaxPercent - predictor.kOutlierTolerancePercent)

def refuse : VSyncPredictor :=
  if predictor.mTimestamps.length < predictor.kMinimumSamplesForPrediction then
    predictor.clearTimestamps
  else
    match predictor.mTimestamps.max? with
    | some latest => { predictor with mKnownTimestamp := some (max timestamp latest) }
    | none => { predictor with mKnownTimestamp := some timestamp }

def record : VSyncPredictor :=
  let size := predictor.mTimestamps.length
  if size ≠ predictor.kHistorySize then
    { predictor with
      mTimestamps := predictor.mTimestamps ++ [timestamp]
      mLastTimestampIndex := next (size + 1) predictor.mLastTimestampIndex }
  else
    let index := next size predictor.mLastTimestampIndex
    { predictor with
      mTimestamps := predictor.mTimestamps.set index timestamp
      mLastTimestampIndex := index }

/-- The simple linear regression of the timestamps over their snapped ordinals, or nothing where
the ordinals are all equal. -/
def regression (timestamps : List Int) (oldest currentPeriod : Int) : Option PredictionModel :=
  let vsyncTS := timestamps.map (· - oldest)
  let ordinals := vsyncTS.map fun vsync =>
    (vsync + currentPeriod.tdiv 2).tdiv currentPeriod * kScalingFactor
  let meanTS := calculateMean vsyncTS
  let meanOrdinal := calculateMean ordinals
  let top := (List.zipWith (fun vsync ordinal => (vsync - meanTS) * (ordinal - meanOrdinal))
    vsyncTS ordinals).sum
  let bottom := (ordinals.map fun ordinal => (ordinal - meanOrdinal) * (ordinal - meanOrdinal)).sum
  if bottom = 0 then none
  else
    let anticipatedPeriod := (top * kScalingFactor).tdiv bottom
    some ⟨anticipatedPeriod, meanTS - (anticipatedPeriod * meanOrdinal).tdiv kScalingFactor⟩

def percentOff (anticipatedPeriod : Int) : Int :=
  ((anticipatedPeriod - predictor.mIdealPeriod).natAbs * kMaxPercent).tdiv predictor.mIdealPeriod

def fit : Option (Bool × VSyncPredictor) := do
  let oldest ← predictor.mTimestamps.min?
  let currentPeriod ← predictor.currentPeriod
  match regression predictor.mTimestamps oldest currentPeriod with
  | none => some (false, predictor.resetModel)
  | some model =>
    if predictor.percentOff model.slope ≥ predictor.kOutlierTolerancePercent then
      some (false, predictor.resetModel)
    else some (true, predictor.setModel model.slope model.intercept)

def addVsyncTimestamp : Option (Bool × VSyncPredictor) := do
  let valid ← predictor.validate timestamp
  if !valid then some (false, predictor.refuse timestamp)
  else
    let predictor := predictor.record timestamp
    if predictor.needsMoreSamples then some (true, predictor.setModel predictor.mIdealPeriod 0)
    else predictor.fit

/-- The prediction, unless `LOG_ALWAYS_FATAL_IF(prediction < timePoint)` fires. -/
def nextAnticipatedVSyncTimeFrom (timePoint : Int) : Option Int := do
  let model ← predictor.getVSyncPredictionModel
  match predictor.mTimestamps.min? with
  | none =>
    let knownTimestamp := predictor.mKnownTimestamp.getD timePoint
    let numPeriodsOut := (timePoint - knownTimestamp).tdiv predictor.mIdealPeriod + 1
    some (knownTimestamp + numPeriodsOut * predictor.mIdealPeriod)
  | some oldest =>
    let zeroPoint := oldest + model.intercept
    let ordinalRequest := (timePoint - zeroPoint + model.slope).tdiv model.slope
    let prediction := ordinalRequest * model.slope + model.intercept + oldest
    if prediction < timePoint then none else some prediction

end VSyncPredictor

/-! ## What the vsync predictor predicts

Whatever the timestamps, the slope stays near the ideal period and the prediction stays near the
time it is asked for. -/

namespace VSyncPredictor

variable {per : Int}

/-! ## The next multiple -/

def following (time zero period : Int) : Int := zero + ((time - zero).tdiv period + 1) * period

/-- Truncation is towards the zero point: before it, a multiple may be skipped. -/
lemma following_bounds (time zero : Int) (pos : 0 < per) :
    time < following time zero per ∧ following time zero per < time + 2 * per := by
  have split := Int.tdiv_mul_add_tmod (time - zero) per
  have above := Int.tmod_lt_of_pos (time - zero) pos
  have below := Int.lt_tmod_of_pos (time - zero) pos
  have distributed : following time zero per =
      zero + ((time - zero).tdiv per * per + per) := by
    rw [following, Int.add_mul, Int.one_mul]
  omega

lemma following_le (zero : Int) (pos : 0 < per) (ord : prior ≤ later) :
    following prior zero per ≤ following later zero per := by
  have quotients := Int.tdiv_le_tdiv pos (show prior - zero ≤ later - zero by omega)
  have multiples := Int.mul_le_mul_of_nonneg_right
    (show (prior - zero).tdiv per + 1 ≤ (later - zero).tdiv per + 1 by omega)
    (Int.le_of_lt pos)
  unfold following
  omega

/-! ## The invariant -/

structure Near (model : PredictionModel) (period : Int) : Prop where
  positive : 0 < model.slope
  below : model.slope < 2 * period

lemma Near.ideal (pos : 0 < per) : Near ⟨per, 0⟩ per :=
  ⟨pos, by dsimp only; omega⟩

def AllNear (rateMap : AList fun _ : Int => PredictionModel) : Prop :=
  ∀ period model, rateMap.lookup period = some model → Near model period

lemma AllNear.insert (all : AllNear rateMap) (near : Near model per) :
    AllNear (rateMap.insert per model) := by
  intro key v hit
  by_cases cur : key = per
  · subst cur
    have same : model = v := by simpa using hit
    exact same ▸ near
  · rw [AList.lookup_insert_ne cur] at hit
    exact all key v hit

lemma AllNear.erase (all : AllNear rateMap) (per : Int) : AllNear (rateMap.erase per) := by
  intro key v hit
  by_cases gone : key = per
  · rw [gone, AList.lookup_erase] at hit
    cases hit
  · rw [AList.lookup_erase_ne gone] at hit
    exact all key v hit

/-- Every period the map knows has a model near it, and the current one is known. -/
structure Sound (predictor : VSyncPredictor) : Prop where
  historySize : 0 < predictor.kHistorySize
  tolerance : predictor.kOutlierTolerancePercent ≤ 100
  period : 0 < predictor.mIdealPeriod
  known : predictor.mIdealPeriod ∈ predictor.mRateMap
  near : AllNear predictor.mRateMap
  index : predictor.mTimestamps ≠ [] → predictor.mLastTimestampIndex < predictor.mTimestamps.length

namespace Sound

lemma clearTimestamps (sound : Sound predictor) : Sound predictor.clearTimestamps := by
  unfold VSyncPredictor.clearTimestamps
  split
  · exact sound
  · exact { sound with index := fun ne => absurd rfl ne }

lemma setModel {slope : Int} (sound : Sound predictor) (near : Near ⟨slope, intercept⟩ predictor.mIdealPeriod) :
    Sound (predictor.setModel slope intercept) :=
  { sound with
    known := AList.mem_insert _ |>.mpr (.inl rfl)
    near := sound.near.insert near }

lemma resetModel (sound : Sound predictor) : Sound predictor.resetModel :=
  (sound.setModel (.ideal sound.period)).clearTimestamps

lemma create {historySize : Nat} (idealPositive : 0 < idealPeriod)
    (historyPositive : 0 < historySize) (minimumSamples tolerance : Nat) :
    Sound (VSyncPredictor.create idealPeriod historySize minimumSamples tolerance) := by
  have noModels : AllNear ∅ := by
    intro per model hit
    simp at hit
  unfold VSyncPredictor.create VSyncPredictor.resetModel
  exact clearTimestamps
    { historySize := historyPositive, tolerance := Nat.min_le_right _ _, period := idealPositive
      known := AList.mem_insert _ |>.mpr (.inl rfl)
      near := noModels.insert (.ideal idealPositive)
      index := fun ne => absurd rfl ne }

variable (sound : Sound predictor)
include sound

lemma setPeriod (pos : 0 < per) (begin : Nat) : Sound (predictor.setPeriod per begin) := by
  unfold VSyncPredictor.setPeriod
  extract_lets left rateMap
  have remainingNear : AllNear left := by
    dsimp only [left]
    split
    · split
      · exact sound.near.erase _
      · exact sound.near
    · exact sound.near
  refine clearTimestamps { sound with period := pos, known := ?_, near := ?_ }
  · dsimp only [rateMap]
    split
    · assumption
    · exact AList.mem_insert _ |>.mpr (.inl rfl)
  · dsimp only [rateMap]
    split
    · exact remainingNear
    · exact remainingNear.insert (.ideal pos)

lemma refuse (time : Int) : Sound (predictor.refuse time) := by
  unfold VSyncPredictor.refuse
  split
  · exact sound.clearTimestamps
  · split
    · exact { sound with }
    · exact { sound with }

lemma record (time : Int) : Sound (predictor.record time) := by
  unfold VSyncPredictor.record
  extract_lets size i
  split
  · refine { sound with index := ?_ }
    intro _
    have inRange : next (size + 1) predictor.mLastTimestampIndex < size + 1 :=
      Nat.mod_lt _ (Nat.succ_pos size)
    simpa [size] using inRange
  · rename_i full
    refine { sound with index := ?_ }
    intro _
    have pos : 0 < size := by
      have := sound.historySize
      omega
    have inRange : i < size := Nat.mod_lt _ pos
    simpa [size] using inRange

end Sound

section

variable (sound : Sound predictor)
include sound

variable (time : Int)

lemma record_ne_nil : (predictor.record time).mTimestamps ≠ [] := by
  unfold record
  extract_lets size i
  split
  · simp
  · intro empty
    have none_left : size = 0 := by simpa [size] using empty
    have := sound.historySize
    omega

/-! ## One call -/

lemma near_of_percentOff
    (inlier : predictor.percentOff model.slope < predictor.kOutlierTolerancePercent) :
    Near model predictor.mIdealPeriod := by
  have tolerance := sound.tolerance
  have positive := sound.period
  have off : ((model.slope - predictor.mIdealPeriod).natAbs : Int) * 100 <
      100 * predictor.mIdealPeriod := by
    have percent : predictor.percentOff model.slope < 100 := by omega
    exact Int.lt_mul_of_tdiv_lt positive percent
  exact ⟨by omega, by omega⟩

lemma fit_sound (ne : predictor.mTimestamps ≠ []) :
    ∃ kept after, predictor.fit = some (kept, after) ∧ Sound after := by
  obtain ⟨oldest, oldestIs⟩ : ∃ oldest, predictor.mTimestamps.min? = some oldest :=
    Option.ne_none_iff_exists'.mp (by simpa using ne)
  obtain ⟨model, modelIs⟩ : ∃ model, predictor.getVSyncPredictionModel = some model :=
    Option.isSome_iff_exists.mp (AList.lookup_isSome.mpr sound.known)
  simp only [fit, oldestIs, currentPeriod, modelIs, Option.map_some, Option.bind_eq_bind,
    Option.bind_some]
  split
  · exact ⟨_, _, rfl, sound.resetModel⟩
  · split
    · exact ⟨_, _, rfl, sound.resetModel⟩
    · rename_i inlier
      have near := near_of_percentOff sound (Int.not_le.mp inlier)
      exact ⟨_, _, rfl, sound.setModel near⟩

lemma addVsyncTimestamp_sound :
    ∃ kept after, predictor.addVsyncTimestamp time = some (kept, after) ∧ Sound after := by
  obtain ⟨valid, validIs⟩ : ∃ valid, predictor.validate time = some valid := by
    unfold validate
    split
    · exact ⟨true, rfl⟩
    · rename_i ne
      have inRange := sound.index (by simpa using ne)
      rw [List.getElem?_eq_getElem inRange]
      exact ⟨_, rfl⟩
  have noted := sound.record time
  simp only [addVsyncTimestamp, validIs, Option.bind_eq_bind, Option.bind_some]
  split
  · exact ⟨_, _, rfl, sound.refuse time⟩
  · split
    · exact ⟨_, _, rfl, noted.setModel (.ideal noted.period)⟩
    · exact fit_sound noted (record_ne_nil sound time)

/-! ## Runs -/

inductive Call where
  | setPeriod (period : Int) (begin : Nat)
  | resetModel
  | addVsyncTimestamp (timestamp : Int)

def Call.Positive : Call → Prop
  | .setPeriod period _ => 0 < period
  | .resetModel | .addVsyncTimestamp _ => True

def perform (predictor : VSyncPredictor) : Call → Option VSyncPredictor
  | .setPeriod period begin => some (predictor.setPeriod period begin)
  | .resetModel => some predictor.resetModel
  | .addVsyncTimestamp timestamp => (predictor.addVsyncTimestamp timestamp).map (·.2)

variable (state : Option VSyncPredictor)

def step (call : Call) : Option VSyncPredictor :=
  state.bind (·.perform call)

lemma perform_sound (pos : call.Positive) :
    ∃ after, predictor.perform call = some after ∧ Sound after := by
  cases call with
  | setPeriod per begin => exact ⟨_, rfl, sound.setPeriod pos begin⟩
  | resetModel => exact ⟨_, rfl, sound.resetModel⟩
  | addVsyncTimestamp time =>
    obtain ⟨kept, after, added, sound⟩ := addVsyncTimestamp_sound sound time
    exact ⟨after, by rw [perform, added]; rfl, sound⟩

def Running : Prop :=
  ∃ predictor, state = some predictor ∧ Sound predictor

lemma running_run (pos : ∀ call ∈ calls, call.Positive) :
    Running (Machine.run step (some predictor) calls) := by
  have along : Machine.Along step (fun _ call => call.Positive) (some predictor) calls :=
    Machine.along_of_forall (fun _ _ cond => cond) _ pos
  have init : Running (some predictor) := ⟨predictor, rfl, sound⟩
  refine Machine.run_invariant ?_ init along
  rintro state call ⟨cur, rfl, sound⟩ cond
  exact perform_sound sound cond

/-! ## The prediction -/

/-- The modes of the prediction: nothing is known, multiples of the ideal period from a known
timestamp, and multiples of the slope from the point before the fit's zero point. -/
lemma nextAnticipatedVSyncTimeFrom_eq (modelIs : predictor.getVSyncPredictionModel = some model) :
    ∃ per, (per = predictor.mIdealPeriod ∨ per = model.slope) ∧
      ((∀ time, predictor.nextAnticipatedVSyncTimeFrom time = some (time + per)) ∨ ∃ zero, ∀ time,
          predictor.nextAnticipatedVSyncTimeFrom time = some (following time zero per)) := by
  have near := sound.near _ _ modelIs
  unfold nextAnticipatedVSyncTimeFrom
  simp only [modelIs, Option.bind_eq_bind, Option.bind_some]
  cases predictor.mTimestamps.min? with
  | none =>
    refine ⟨_, .inl rfl, ?_⟩
    cases predictor.mKnownTimestamp with
    | none => exact .inl fun time => by simp
    | some known => exact .inr ⟨known, fun time => rfl⟩
  | some oldest =>
    refine ⟨_, .inr rfl, .inr ⟨oldest + model.intercept - model.slope, fun time => ?_⟩⟩
    have box := following_bounds time (oldest + model.intercept - model.slope) near.positive
    have prediction : (time - (oldest + model.intercept) + model.slope).tdiv model.slope *
        model.slope + model.intercept + oldest =
        following time (oldest + model.intercept - model.slope) model.slope := by
      have req : time - (oldest + model.intercept - model.slope) =
          time - (oldest + model.intercept) + model.slope := by omega
      rw [following, req, Int.add_mul, Int.one_mul]
      omega
    dsimp only
    rw [prediction, if_neg (by omega)]

end

/-- In every state that calls with positive periods reach, the model of the ideal period has a
slope near it, and the prediction is not before the time asked for, at most two periods after it,
and monotone. It is always `some`: the fatal check does not fire. -/
theorem prediction_near (idealPeriod : Int) (historySize minimumSamples tolerance : Nat)
    (idealPositive : 0 < idealPeriod) (historyPositive : 0 < historySize) (calls : List Call)
    (positive : ∀ call ∈ calls, call.Positive) : ∃ predictor, Machine.run step
        (some (create idealPeriod historySize minimumSamples tolerance)) calls = some predictor ∧
      ∃ model, predictor.mRateMap.lookup predictor.mIdealPeriod = some model ∧
        0 < model.slope ∧ model.slope < 2 * predictor.mIdealPeriod ∧ ∃ prediction : Int → Int,
          (∀ time, predictor.nextAnticipatedVSyncTimeFrom time = some (prediction time)) ∧
          (∀ time, time ≤ prediction time ∧
            prediction time ≤ time + 2 * max model.slope predictor.mIdealPeriod) ∧
          ∀ earlier later, earlier ≤ later → prediction earlier ≤ prediction later := by
  obtain ⟨predictor, reached, sound⟩ :=
    running_run (.create idealPositive historyPositive minimumSamples tolerance) positive
  obtain ⟨model, modelIs⟩ : ∃ model, predictor.getVSyncPredictionModel = some model :=
    Option.isSome_iff_exists.mp (AList.lookup_isSome.mpr sound.known)
  have near := sound.near _ _ modelIs
  have idealPositive := sound.period
  refine ⟨predictor, reached, model, modelIs, near.positive, near.below, ?_⟩
  obtain ⟨period, which, modes⟩ := nextAnticipatedVSyncTimeFrom_eq sound modelIs
  have periodPositive : 0 < period := by
    rcases which with rfl | rfl
    · exact idealPositive
    · exact near.positive
  have periodBelow : period ≤ max model.slope predictor.mIdealPeriod := by omega
  rcases modes with unknown | ⟨zero, multiples⟩
  · refine ⟨fun time => time + period, unknown, ?_, ?_⟩
    · intro time
      constructor <;> dsimp only <;> omega
    · intro earlier later ordered
      dsimp only
      omega
  · refine ⟨fun time => following time zero period, multiples, ?_, ?_⟩
    · intro time
      have bounds := following_bounds time zero periodPositive
      constructor <;> dsimp only <;> omega
    · intro earlier later ordered
      exact following_le zero periodPositive ordered

/-- A ring of three timestamps is fitted, the period changes, and a sample is taken again. -/
theorem prediction_near_changed : ∃ predictor, Machine.run step (some (create 10 3 2 20))
        [.addVsyncTimestamp 100, .addVsyncTimestamp 111, .addVsyncTimestamp 121,
          .setPeriod 16 0, .addVsyncTimestamp (-7)] = some predictor ∧
      ∃ model, predictor.mRateMap.lookup predictor.mIdealPeriod = some model ∧
        0 < model.slope ∧ model.slope < 2 * predictor.mIdealPeriod ∧ ∃ prediction : Int → Int,
          (∀ time, predictor.nextAnticipatedVSyncTimeFrom time = some (prediction time)) ∧
          (∀ time, time ≤ prediction time ∧
            prediction time ≤ time + 2 * max model.slope predictor.mIdealPeriod) ∧
          ∀ earlier later, earlier ≤ later → prediction earlier ≤ prediction later :=
  prediction_near 10 3 2 20 (by decide) (by decide) _ (by simp [Call.Positive])

/-! ## What the outlier check lets through -/

/-- The time is off a whole number of ideal periods from the reference by no more than the
tolerance. -/
def OnBeat (predictor : VSyncPredictor) (reference timestamp : Int) : Prop :=
  ∃ periods : Int, (timestamp - reference - periods * predictor.mIdealPeriod).natAbs * 100 ≤
    predictor.kOutlierTolerancePercent * predictor.mIdealPeriod.natAbs

/-- By how many percent of the period a difference exceeds whole periods. -/
def excess (difference period : Int) : Nat :=
  (difference.tmod period).natAbs * 100 / period.natAbs

lemma percent_eq (diff per : Int) : (diff.tmod per * kMaxPercent).tdiv per =
      if 0 ≤ diff * per then (excess diff per : Int) else -(excess diff per : Int) := by
  have natural (n p : Nat) : ((n : Int).tmod p * 100).tdiv p = (n % p * 100 / p : Nat) := rfl
  have zero (n p : Nat) (product : (n * p : Int) ≤ 0) : n % p * 100 / p = 0 := by
    rcases Nat.mul_eq_zero.1 (show n * p = 0 by omega) with rfl | rfl <;> simp
  rcases diff.eq_nat_or_neg with ⟨n, rfl | rfl⟩ <;>
    rcases per.eq_nat_or_neg with ⟨p, rfl | rfl⟩ <;>
    simp only [excess, kMaxPercent, Int.tmod_neg, Int.neg_tmod, Int.tdiv_neg, Int.neg_tdiv,
      Int.neg_mul, Int.mul_neg, Int.neg_neg, Int.natAbs_neg, Int.natAbs_tmod, Int.natAbs_natCast,
      natural]
  · exact (if_pos (Int.natCast_nonneg _)).symm
  · split_ifs with product
    · rw [zero n p (by omega)]
      rfl
    · rfl
  · split_ifs with product
    · rw [zero n p (by omega)]
      rfl
    · rfl
  · exact (if_pos (Int.natCast_nonneg _)).symm

lemma excess_lt (diff : Int) (nonzero : per ≠ 0) : excess diff per < 100 := by
  unfold excess
  rw [Nat.div_lt_iff_lt_mul (by omega), Int.natAbs_tmod]
  have := Nat.mod_lt diff.natAbs (Int.natAbs_pos.2 nonzero)
  omega

lemma exists_multiple_near (nonzero : per ≠ 0)
    (near : excess diff per < tolerance ∨ 100 < excess diff per + tolerance) :
    ∃ periods : Int, (diff - periods * per).natAbs * 100 ≤ tolerance * per.natAbs := by
  have positive := Int.natAbs_pos.2 nonzero
  have split := Int.tdiv_mul_add_tmod diff per
  have bound := Nat.mod_lt diff.natAbs positive
  rw [← Int.natAbs_tmod] at bound
  unfold excess at near
  rcases near with below | above
  · rw [Nat.div_lt_iff_lt_mul positive] at below
    exact ⟨diff.tdiv per, by omega⟩
  · have reaches : (101 - tolerance) * per.natAbs ≤ (diff.tmod per).natAbs * 100 :=
      (Nat.le_div_iff_mul_le positive).1 (Nat.sub_le_iff_le_add.2 above)
    rw [Nat.sub_mul] at reaches
    obtain ⟨side, next⟩ : ∃ side, side * per =
        if 0 ≤ diff.tmod per then (per.natAbs : Int) else -(per.natAbs : Int) := by
      rcases per.natAbs_eq with same | negated <;> split_ifs
      · exact ⟨1, by omega⟩
      · exact ⟨-1, by omega⟩
      · exact ⟨-1, by omega⟩
      · exact ⟨1, by omega⟩
    refine ⟨diff.tdiv per + side, ?_⟩
    rw [Int.add_mul, next]
    split_ifs <;> omega

variable {predictor : VSyncPredictor} {reference time : Int}

lemma validate_iff (hit : predictor.mTimestamps[predictor.mLastTimestampIndex]? = some reference)
    (nonzero : predictor.mIdealPeriod ≠ 0) (tolerance : predictor.kOutlierTolerancePercent ≤ 100) :
    predictor.validate time = some true ↔ if 0 ≤ (time - reference) * predictor.mIdealPeriod then
        excess (time - reference) predictor.mIdealPeriod < predictor.kOutlierTolerancePercent ∨
          100 < excess (time - reference) predictor.mIdealPeriod +
            predictor.kOutlierTolerancePercent
      else 0 < excess (time - reference) predictor.mIdealPeriod +
        predictor.kOutlierTolerancePercent := by
  have ne : predictor.mTimestamps.isEmpty = false := by
    cases list : predictor.mTimestamps with
    | nil => simp [list] at hit
    | cons => rfl
  have below := excess_lt (time - reference) nonzero
  simp only [validate, ne, hit, percent_eq, Option.bind_eq_bind, Option.bind_some,
    Bool.false_eq_true, if_false, Option.some.injEq, Bool.or_eq_true, decide_eq_true_eq]
  unfold asUnsigned kMaxPercent
  split_ifs <;> omega

/-- A timestamp that is accepted is on the beat exactly if it is not before the reference, or
on the beat anyway, or less than a percent of the period before it. -/
theorem validate_onBeat_iff
    (found : predictor.mTimestamps[predictor.mLastTimestampIndex]? = some reference)
    (nonzero : predictor.mIdealPeriod ≠ 0) (tolerance : predictor.kOutlierTolerancePercent ≤ 100) :
    (predictor.validate timestamp = some true → predictor.OnBeat reference timestamp) ↔
      0 ≤ (timestamp - reference) * predictor.mIdealPeriod ∨ predictor.OnBeat reference timestamp ∨
        excess (timestamp - reference) predictor.mIdealPeriod = 0 := by
  rw [validate_iff found nonzero tolerance]
  by_cases sign : 0 ≤ (timestamp - reference) * predictor.mIdealPeriod
  · rw [if_pos sign]
    exact iff_of_true (exists_multiple_near nonzero) (.inl sign)
  · rw [if_neg sign]
    constructor
    · intro beat
      rcases Nat.eq_zero_or_pos (excess (timestamp - reference) predictor.mIdealPeriod)
        with none | some
      · exact .inr (.inr none)
      · exact .inr (.inl (beat (by omega)))
    · rintro (same | beat | none) taken
      · exact absurd same sign
      · exact beat
      · exact exists_multiple_near nonzero (.inl (by omega))

/-- A time in the middle between two beats, before the reference. -/
theorem validate_between_beats : ((create 10 3 2 20).record 100).validate 95 = some true ∧
      ¬ ((create 10 3 2 20).record 100).OnBeat 100 95 := by
  refine ⟨by decide, ?_⟩
  rintro ⟨periods, near⟩
  have bound : (95 - 100 - periods * 10 : Int).natAbs * 100 ≤ 20 * (10 : Int).natAbs := near
  omega

theorem validate_onBeat_iff_late : ((create 10 3 2 20).record 100).validate 111 = some true ∧
    ((create 10 3 2 20).record 100).OnBeat 100 111 := by
  refine ⟨by decide, ?_⟩
  exact (validate_onBeat_iff rfl (by decide) (by decide)).2 (.inl (by decide)) (by decide)

end VSyncPredictor

end NativeLibs.Scheduler
