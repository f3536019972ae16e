import NativeLibs.Gui.BufferQueueInvariant
import Mathlib.Data.Fintype.Card

/-! # How many slots are in use

The slots outside of `mUnusedSlots` should be as many as `getMaxBufferCountLocked()`
says. Most setters adjust the lists by the difference of the two totals, but
`setMaxDequeuedBufferCount` and `setMaxAcquiredBufferCount` adjust them by the
difference of their own counts, which is the same only while `mMaxBufferCount` does
not cut the total down. -/

namespace NativeLibs.Gui

open List Finset SlotPool

namespace SlotPool

variable {pool : SlotPool}

/-! ## Adjusting -/

lemma takeUnusedSlots_length {count : Nat} (enough : count ≤ pool.mUnusedSlots.length) :
    (pool.takeUnusedSlots count).1 = true ∧
      (pool.takeUnusedSlots count).2.mUnusedSlots.length + count = pool.mUnusedSlots.length := by
  induction count generalizing pool with
  | zero => exact ⟨rfl, rfl⟩
  | succ count ih =>
    cases last : pool.mUnusedSlots.getLast? with
    | none =>
      rw [getLast?_eq_none_iff] at last
      simp [last] at enough
    | some slot =>
      have shorter : (pool.takeUnused slot).mUnusedSlots.length + 1 = pool.mUnusedSlots.length := by
        simp only [takeUnused, length_dropLast]
        omega
      have left : count ≤ (pool.takeUnused slot).mUnusedSlots.length := by omega
      have taken := ih left
      simp only [takeUnusedSlots, last]
      exact ⟨taken.1, by omega⟩

lemma retireSlots_length {count : Nat}
    (enough : count ≤ pool.mFreeSlots.card + pool.mFreeBuffers.length) :
    (pool.retireSlots count).1 = true ∧
      (pool.retireSlots count).2.mUnusedSlots.length = pool.mUnusedSlots.length + count := by
  induction count generalizing pool with
  | zero => exact ⟨rfl, rfl⟩
  | succ count ih =>
    cases first : pool.mFreeSlots.min with
    | coe slot =>
      have mem := mem_of_min first
      have fewer := card_erase_add_one mem
      have left : count ≤
          ({ pool with mFreeSlots := pool.mFreeSlots.erase slot }.retire slot).mFreeSlots.card +
          ({ pool with mFreeSlots := pool.mFreeSlots.erase slot }.retire
            slot).mFreeBuffers.length := by
        simp only [retire, clearBufferSlotLocked, updateSlot]
        omega
      have retired := ih left
      simp only [retireSlots, first]
      refine ⟨retired.1, retired.2.trans ?_⟩
      simp only [retire, length_append, length_singleton]
      omega
    | top =>
      have none : pool.mFreeSlots.card = 0 := by
        rw [card_eq_zero]
        exact min_eq_top.1 first
      cases last : pool.mFreeBuffers.getLast? with
      | none =>
        rw [getLast?_eq_none_iff] at last
        simp [last, none] at enough
      | some slot =>
        have left : count ≤ ({ pool with
              mFreeBuffers := pool.mFreeBuffers.dropLast }.retire slot).mFreeSlots.card +
            ({ pool with mFreeBuffers := pool.mFreeBuffers.dropLast }.retire
              slot).mFreeBuffers.length := by
          simp only [retire, clearBufferSlotLocked, updateSlot, length_dropLast]
          omega
        have retired := ih left
        simp only [retireSlots, first, last]
        refine ⟨retired.1, retired.2.trans ?_⟩
        simp only [retire, length_append, length_singleton]
        omega

lemma adjustAvailableSlotsLocked_length (pool : SlotPool) (delta : Int) :
    pool.adjustAvailableSlotsLocked delta = (false, pool) ∨
      (pool.adjustAvailableSlotsLocked delta).1 = true ∧
        ((pool.adjustAvailableSlotsLocked delta).2.mUnusedSlots.length : Int) =
          pool.mUnusedSlots.length - delta := by
  rw [adjustAvailableSlotsLocked]
  split_ifs with grows tooMany tooFew
  · exact .inl rfl
  · have enough : delta.toNat ≤ pool.mUnusedSlots.length := by omega
    have taken := takeUnusedSlots_length enough
    exact .inr ⟨taken.1, by omega⟩
  · exact .inl rfl
  · have enough : (-delta).toNat ≤ pool.mFreeSlots.card + pool.mFreeBuffers.length := by omega
    have retired := retireSlots_length enough
    exact .inr ⟨retired.1, by omega⟩

def slotsInUse (pool : SlotPool) : Nat :=
  (univ.filter fun slot => slot ∉ pool.mUnusedSlots).card

lemma Sound.nodup_unused (sound : pool.Sound items) : pool.mUnusedSlots.Nodup := by
  rw [nodup_iff_count_le_one]
  intro slot
  rcases sound.placed slot with ⟨place, lies, _⟩
  have counts := lies.once
  simp only [occurrences] at counts
  omega

lemma Sound.slotsInUse_add (sound : pool.Sound items) :
    pool.slotsInUse + pool.mUnusedSlots.length = numBufferSlots := by
  have unused : (univ.filter fun slot => slot ∈ pool.mUnusedSlots) =
      pool.mUnusedSlots.toFinset := by
    ext slot
    simp
  have split := card_filter_add_card_filter_not (s := univ)
    fun slot => slot ∈ pool.mUnusedSlots
  rw [unused, toFinset_card_of_nodup sound.nodup_unused, card_univ,
    Fintype.card_fin] at split
  rw [slotsInUse]
  omega

end SlotPool

def Call.AdjustsByOwnCount : Call → Prop
  | .setMaxDequeuedBufferCount _ => True
  | .setMaxAcquiredBufferCount _ => True
  | _ => False

namespace BufferQueue

variable {queue : BufferQueue} {set : BufferQueue → BufferQueue}

/-! ## One call -/

/-- The unused slots and the total are all the slots there are. -/
def InBudget (queue : BufferQueue) : Prop :=
  (queue.pool.mUnusedSlots.length : Int) + queue.getMaxBufferCountLocked = numBufferSlots

section

variable (inBudget : queue.InBudget)
include inBudget

lemma adjustThen_inBudget (pools : ∀ queue, (set queue).pool = queue.pool)
    (total : ∀ pool, (set { queue with pool := pool }).getMaxBufferCountLocked =
      queue.getMaxBufferCountLocked + delta) : (queue.adjustThen delta set).2.InBudget := by
  rw [adjustThen]
  rcases queue.pool.adjustAvailableSlotsLocked_length delta with same | ⟨success, length⟩
  · rw [same]
    exact inBudget
  · cases res : queue.pool.adjustAvailableSlotsLocked delta with
    | mk succeeded left =>
      rw [res] at success length
      subst success
      simp only [InBudget, pools, total] at inBudget ⊢
      simp only at length
      omega

lemma setMaxDequeuedBufferCount_inBudget (count : Int)
    (fits : queue.bufferDemand queue.mAsyncMode queue.mDequeueBufferCannotBlock ≤
      queue.mMaxBufferCount) : (queue.setMaxDequeuedBufferCount count).2.InBudget := by
  rw [setMaxDequeuedBufferCount]
  split_ifs with abandoned same exceeded tooMany tooFew big
  any_goals exact inBudget
  · refine adjustThen_inBudget inBudget (fun _ => rfl) fun pool => ?_
    simp only [getMaxBufferCountLocked, bufferDemand, getMinUndequeuedBufferCountLocked] at *
    split_ifs at * <;> omega

lemma setMaxAcquiredBufferCount_inBudget (count : Int)
    (fits : queue.bufferDemand queue.mAsyncMode queue.mDequeueBufferCannotBlock ≤
      queue.mMaxBufferCount) : (queue.setMaxAcquiredBufferCount count).2.InBudget := by
  rw [setMaxAcquiredBufferCount]
  split_ifs with outOfRange abandoned same exceeded big
  any_goals exact inBudget
  · refine adjustThen_inBudget inBudget (fun _ => rfl) fun pool => ?_
    simp only [getMaxBufferCountLocked, bufferDemand] at *
    omega

lemma adjustTotal_inBudget (pools : ∀ queue, (set queue).pool = queue.pool)
    (met : ∀ pool, (set { queue with pool := pool }).getMaxBufferCountLocked = total) :
    (queue.adjustThen (total - queue.getMaxBufferCountLocked) set).2.InBudget := by
  apply adjustThen_inBudget inBudget pools
  intro pool
  rw [met]
  omega

lemma step_adjusting_inBudget (adjusts : call.AdjustsSlots) (fits : call.AdjustsByOwnCount →
      queue.bufferDemand queue.mAsyncMode queue.mDequeueBufferCannotBlock ≤
        queue.mMaxBufferCount) : (queue.step call).InBudget := by
  cases call with
  | setMaxDequeuedBufferCount count =>
    exact setMaxDequeuedBufferCount_inBudget inBudget count (fits trivial)
  | setMaxAcquiredBufferCount count =>
    exact setMaxAcquiredBufferCount_inBudget inBudget count (fits trivial)
  | setAsyncMode async =>
    simp only [step, setAsyncMode]
    split_ifs
    any_goals exact inBudget
    · exact adjustTotal_inBudget inBudget (fun _ => rfl) fun _ => rfl
  | connect api byApp pid linkStatus out =>
    rcases connect_state queue api byApp pid linkStatus out with same | adj
    · rw [step, same]
      exact inBudget
    · rw [step, adj]
      refine adjustTotal_inBudget inBudget (fun _ => rfl) fun pool => ?_
      by_cases negative : queue.mDequeueTimeout < 0 <;>
        simp [getMaxBufferCountLocked, getMaxBufferCountFor, connectedSettings, bufferDemand,
          negative]
  | setDequeueTimeout timeout => exact adjustTotal_inBudget inBudget (fun _ => rfl) fun _ => rfl
  | setMaxBufferCount count =>
    simp only [step, setMaxBufferCount]
    split_ifs
    any_goals exact inBudget
    · exact adjustTotal_inBudget inBudget (fun _ => rfl) fun _ => rfl
  | _ => exact adjusts.elim

end

/-! ## The calls that leave the total alone -/

structure SameBudget (queue after : BufferQueue) : Prop where
  unused : after.pool.mUnusedSlots = queue.pool.mUnusedSlots
  total : after.getMaxBufferCountLocked = queue.getMaxBufferCountLocked

section

variable (queue)

lemma SameBudget.refl : SameBudget queue queue := ⟨rfl, rfl⟩

lemma queuedPool_unused (pool : SlotPool) (item : BufferItem) :
    (queuedPool pool item).mUnusedSlots = pool.mUnusedSlots := by
  rw [queuedPool, enqueue]
  cases (queuedSlot pool item).mQueue.getLast? with
  | none => rfl
  | some last =>
    simp only
    split_ifs
    · exact (still_dropItem (queuedSlot pool item) last).unused
    · rfl

lemma queueBuffer_sameBudget (slot : Int) (input : QueueBufferInput)
    (out : QueueBufferOutput) : SameBudget queue (queue.queueBuffer slot input out).2.2 := by
  rcases queueBuffer_cases queue slot input out with
    ⟨_, same⟩ | ⟨i, _, ⟨_, adopts⟩ | ⟨fence, accepts⟩⟩
  · rw [same]
    exact .refl queue
  · rw [adopts]
    exact ⟨(still_adoptShared queue.pool i).unused, rfl⟩
  · rw [accepts]
    exact ⟨(queuedPool_unused _ _).trans (still_adoptShared queue.pool i).unused, rfl⟩

lemma acquireBuffer_sameBudget (item : BufferItem) (pres : Int)
    (maxF : Nat) :
    SameBudget queue (queue.acquireBuffer item pres maxF).2.2 := by
  have left := (still_dropItems (queue.dropped pres maxF).1
    queue.pool).unused
  rcases acquireBuffer_cases queue item pres maxF with
    ⟨_, same⟩ | ⟨slot, _, _, _, shared⟩ | ⟨front, rest, _, _, _, taken⟩
  · rw [same]
    exact .refl queue
  · rw [shared]
    exact ⟨rfl, rfl⟩
  · rw [taken]
    split_ifs <;> exact ⟨left, rfl⟩

lemma step_sameBudget (fixed : ¬call.AdjustsSlots) : SameBudget queue (queue.step call) := by
  by_cases leaves : call.LeavesQueue
  · have still := step_tidy queue leaves fixed
    exact ⟨still.pool.unused, still.total⟩
  · cases call with
    | queueBuffer slot input out => exact queueBuffer_sameBudget queue slot input out
    | acquireBuffer item pres maxF =>
      exact acquireBuffer_sameBudget queue item pres maxF
    | disconnect api mode pid =>
      rcases disconnect_state queue api mode pid with same | ⟨_, freed⟩
      · rw [step, same]
        exact .refl queue
      · rw [step, freed]
        exact ⟨rfl, rfl⟩
    | consumerDisconnect =>
      simp only [step, consumerDisconnect]
      split_ifs
      · exact .refl queue
      · exact ⟨rfl, rfl⟩
    | setSharedBufferMode mode => exact ⟨rfl, rfl⟩
    | _ => exact absurd trivial leaves

/-! ## Runs -/

/-- The two setters that adjust by their own counts are called only while
`mMaxBufferCount` does not cut the total down. -/
def FitsBudget (call : Call) : Prop :=
  call.AdjustsByOwnCount →
    queue.bufferDemand queue.mAsyncMode queue.mDequeueBufferCannotBlock ≤ queue.mMaxBufferCount

end

lemma step_inBudget (inBudget : queue.InBudget) (fits : queue.FitsBudget call) :
    (queue.step call).InBudget := by
  by_cases adjusts : call.AdjustsSlots
  · exact step_adjusting_inBudget inBudget adjusts fits
  · have same := step_sameBudget queue adjusts
    rw [InBudget, same.unused, same.total]
    exact inBudget

variable (isFlinger : Bool)

lemma initial_inBudget : (initial isFlinger).InBudget := by
  rw [InBudget]
  cases isFlinger <;> decide

lemma slotsInUse_eq_of_inBudget (sound : queue.Sound) (inBudget : queue.InBudget) :
    (queue.pool.slotsInUse : Int) = queue.getMaxBufferCountLocked := by
  have all := SlotPool.Sound.slotsInUse_add sound
  rw [InBudget] at inBudget
  omega

lemma runFromInitial_inBudget
    (fits : Machine.Along step FitsBudget (initial isFlinger) calls) :
    (runFromInitial isFlinger calls).InBudget := by
  have kept : ∀ (queue : BufferQueue) (call : Call), queue.InBudget →
      queue.FitsBudget call → (queue.step call).InBudget :=
    fun _ _ inBudget fits => step_inBudget inBudget fits
  exact Machine.run_invariant kept (initial_inBudget isFlinger) fits

end BufferQueue

def Call.Configures : Call → Prop
  | .setMaxDequeuedBufferCount _ => True
  | .setMaxAcquiredBufferCount _ => True
  | .setMaxBufferCount _ => True
  | .setAsyncMode _ => True
  | .setDequeueTimeout _ => True
  | .connect .. => True
  | .disconnect .. => True
  | .consumerConnect .. => True
  | .consumerDisconnect => True
  | _ => False

lemma Call.Configures.keepsSlots {call : Call} (configures : call.Configures)
    (queue : BufferQueue) : call.KeepsSlots queue ∧ call.AllocationsSucceed := by
  cases call with
  | setSharedBufferMode | detachBuffer | consumerDetachBuffer | dequeueBuffer | dequeueResume
  | allocateBuffers => exact configures.elim
  | _ => exact ⟨trivial, trivial⟩

namespace BufferQueue

/-- After any sequence of configuration and lifecycle calls the slots in use are as
many as `getMaxBufferCountLocked()` says, if neither of the two counts is set while
their sum exceeds `mMaxBufferCount`. -/
theorem slotsInUse_eq_of_fitsBudget (consumerIsSurfaceFlinger : Bool) (calls : List Call)
    (configures : ∀ call ∈ calls, call.Configures)
    (fits : Machine.Along step FitsBudget (initial consumerIsSurfaceFlinger) calls) :
    ((runFromInitial consumerIsSurfaceFlinger calls).pool.slotsInUse : Int) =
      (runFromInitial consumerIsSurfaceFlinger calls).getMaxBufferCountLocked := by
  have sound : (runFromInitial consumerIsSurfaceFlinger calls).Sound := by
    have kept : ∀ (queue : BufferQueue) (call : Call), queue.Sound →
        (call.KeepsSlots queue ∧ call.AllocationsSucceed) → (queue.step call).Sound :=
      fun _ _ sound cond => step_sound sound cond.1 cond.2
    apply Machine.run_invariant kept (initial_sound _)
    exact Machine.along_of_forall (fun queue _ configures => configures.keepsSlots queue) _
      configures
  exact slotsInUse_eq_of_inBudget sound (runFromInitial_inBudget _ fits)

theorem slotsInUse_eq_of_fitsBudget_connected :
    (runFromInitial false [.consumerConnect true true, .setMaxDequeuedBufferCount 3,
      .connect 1 true 7 .noError blankOutput]).pool.slotsInUse = 5 ∧
    ((runFromInitial false [.consumerConnect true true, .setMaxDequeuedBufferCount 3,
      .connect 1 true 7 .noError blankOutput]).pool.slotsInUse : Int) =
    (runFromInitial false [.consumerConnect true true, .setMaxDequeuedBufferCount 3,
      .connect 1 true 7 .noError blankOutput]).getMaxBufferCountLocked := by
  refine ⟨by decide, slotsInUse_eq_of_fitsBudget false _ ?_ ?_⟩
  · simp [Call.Configures]
  · exact ⟨fun own => own.elim, fun _ => by decide, fun own => own.elim, trivial⟩

/-- Five dequeued buffers, a maximum of four in all, then two dequeued buffers again:
three slots too many are taken out of use. -/
theorem setMaxDequeuedBufferCount_overshoots :
    let shrunk := runFromInitial false [.setMaxDequeuedBufferCount 5, .setMaxBufferCount 4]
    let after := shrunk.setMaxDequeuedBufferCount 2
    shrunk.pool.slotsInUse = 4 ∧ shrunk.getMaxBufferCountLocked = 4 ∧ after.1 = .noError ∧
      after.2.pool.slotsInUse = 1 ∧ after.2.getMaxBufferCountLocked = 3 := by
  decide +kernel

end BufferQueue

end NativeLibs.Gui
