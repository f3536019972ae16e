import NativeLibs.Gui.SlotSupply

/-! # Which calls leave the queue alone

Only queueing, acquiring and the two ways to disconnect touch the waiting items. -/

namespace NativeLibs.Gui

open SlotPool SlotPool BufferState

/-- The call is none of those that touch the waiting items, and does not switch
shared buffer mode on. -/
def Call.LeavesQueue : Call → Prop
  | .queueBuffer .. => False
  | .acquireBuffer .. => False
  | .disconnect .. => False
  | .consumerDisconnect => False
  | .setSharedBufferMode mode => mode = false
  | _ => True

def Call.AdjustsSlots : Call → Prop
  | .setMaxDequeuedBufferCount _ => True
  | .setAsyncMode _ => True
  | .connect .. => True
  | .setDequeueTimeout _ => True
  | .setMaxBufferCount _ => True
  | .setMaxAcquiredBufferCount _ => True
  | _ => False

namespace BufferQueue

variable {q : BufferQueue} {pool : SlotPool}

/-- The call leaves the waiting items and the frame counter alone, and no slot
becomes shared. -/
structure Quiet (queue after : BufferQueue) : Prop where
  pool : SlotPool.Quiet queue.pool after.pool
  frames : after.mFrameCounter = queue.mFrameCounter

lemma Quiet.refl (q : BufferQueue) : Quiet q q := ⟨.refl _, rfl⟩

/-- In addition the slots in use, and how many there should be, stay. -/
structure Still (queue after : BufferQueue) : Prop where
  pool : SlotPool.Still queue.pool after.pool
  frames : after.mFrameCounter = queue.mFrameCounter
  total : after.getMaxBufferCountLocked = queue.getMaxBufferCountLocked

lemma Still.refl (q : BufferQueue) : Still q q := ⟨.refl _, rfl, rfl⟩

lemma Still.quiet (still : Still q after) : Quiet q after :=
  ⟨still.pool.toQuiet, still.frames⟩

def Sound (queue : BufferQueue) : Prop := queue.pool.Sound queue.pool.mQueue

/-- In addition the slots stay in order, on a condition. -/
structure Tidy (condition : Prop) (queue after : BufferQueue) : Prop extends Still queue after where
  ordered : condition → queue.Sound → after.pool.Sound queue.pool.mQueue

lemma Tidy.refl (q : BufferQueue) : Tidy condition q q :=
  ⟨.refl q, fun _ sound => sound⟩

lemma Tidy.sound (tidy : Tidy condition q after) (given : condition) (sound : q.Sound) :
    after.Sound := by
  rw [Sound, tidy.pool.queue]
  exact tidy.ordered given sound

/-! ## Free slots -/

lemma findFreeSlot_frame {allowAllocation : Bool}
    (taken : pool.findFreeSlot caller allowAllocation = some (hit, left)) :
    ∃ slots bufs, left = { pool with mFreeSlots := slots, mFreeBuffers := bufs } := by
  rcases findFreeSlot_cases taken with ⟨rfl, _, _⟩ | ⟨free, _⟩
  · exact ⟨_, _, rfl⟩
  · rcases takeFreeSlot_cases free with buf | ⟨slot, _⟩
    · rw [getFreeBufferLocked] at buf
      cases listed : pool.mFreeBuffers with
      | nil => simp [listed] at buf
      | cons front rest =>
        simp only [listed] at buf
        cases buf
        exact ⟨_, _, rfl⟩
    · cases first : pool.mFreeSlots.min with
      | top => simp [getFreeSlotLocked, first] at slot
      | coe i =>
        simp only [getFreeSlotLocked, first] at slot
        cases slot
        exact ⟨_, _, rfl⟩

lemma waitForFreeSlotThenRelock_ok
    (ok : q.waitForFreeSlotThenRelock pool caller late = .ok (hit, left)) :
    q.mIsAbandoned = false ∧
      pool.findFreeSlot caller q.mAllowAllocation = some (hit, left) := by
  rw [waitForFreeSlotThenRelock] at ok
  by_cases abandoned : q.mIsAbandoned = true
  · simp [abandoned] at ok
  · rw [if_neg abandoned] at ok
    split_ifs at ok with exceeded
    cases choice : q.chooseSlot pool caller with
    | none => simp [choice] at ok
    | some pair =>
      simp only [choice, Except.ok.injEq] at ok
      rw [ok, chooseSlot] at choice
      split_ifs at choice
      exact ⟨by simpa using abandoned, choice⟩

section

variable (q)

lemma connect_state (api : Int) (byApp : Bool) (pid : Int) (linkStatus : Status)
    (out : QueueBufferOutput) : (q.connect api byApp pid linkStatus out).2.2 = q ∨
      (q.connect api byApp pid linkStatus out).2.2 =
        (q.connectAdjusted api byApp pid).2 := by
  simp only [connect]
  split_ifs <;> simp

lemma isKnownApi_ne_none (known : isKnownApi api = true) : api ≠ noConnectedApi := by
  intro none
  subst none
  exact absurd known (by decide)

lemma disconnect_state (api : Int) (mode : DisconnectMode) (pid : Int) :
    (q.disconnect api mode pid).2 = q ∨ q.mConnectedApi ≠ noConnectedApi ∧
        (q.disconnect api mode pid).2 = q.disconnected := by
  simp only [disconnect]
  by_cases foreign : mode = .allLocal ∧ pid ≠ q.mConnectedPid
  · rw [if_pos foreign]
    exact .inl rfl
  · rw [if_neg foreign]
    generalize (if mode = .allLocal ∨ api = currentlyConnectedApi then q.mConnectedApi
      else api) = cur
    split_ifs with abandoned idle unk connected
    any_goals exact .inl rfl
    · have known := isKnownApi_ne_none (by simpa using unk : isKnownApi cur = true)
      exact .inr ⟨by rw [connected]; exact known, rfl⟩

/-! ## Adjusting -/

lemma step_adjusts (adjusts : call.AdjustsSlots) : q.step call = q ∨
      ∃ delta set, q.step call = (q.adjustThen delta set).2 ∧
        (∀ q, (set q).pool = q.pool) ∧
        ∀ q, (set q).mFrameCounter = q.mFrameCounter := by
  cases call with
  | setMaxDequeuedBufferCount count =>
    simp only [step, setMaxDequeuedBufferCount]
    split_ifs
    any_goals exact .inl rfl
    · exact .inr ⟨_, _, rfl, fun _ => rfl, fun _ => rfl⟩
  | setAsyncMode async =>
    simp only [step, setAsyncMode]
    split_ifs
    any_goals exact .inl rfl
    · exact .inr ⟨_, _, rfl, fun _ => rfl, fun _ => rfl⟩
  | connect api byApp pid linkStatus out =>
    rcases connect_state q api byApp pid linkStatus out with same | adj
    · exact .inl same
    · exact .inr ⟨_, _, adj, fun _ => rfl, fun _ => rfl⟩
  | setDequeueTimeout timeout => exact .inr ⟨_, _, rfl, fun _ => rfl, fun _ => rfl⟩
  | setMaxBufferCount count =>
    simp only [step, setMaxBufferCount]
    split_ifs
    any_goals exact .inl rfl
    · exact .inr ⟨_, _, rfl, fun _ => rfl, fun _ => rfl⟩
  | setMaxAcquiredBufferCount count =>
    simp only [step, setMaxAcquiredBufferCount]
    split_ifs
    any_goals exact .inl rfl
    · exact .inr ⟨_, _, rfl, fun _ => rfl, fun _ => rfl⟩
  | _ => exact adjusts.elim

lemma quiet_adjustThen (delta : Int) {set : BufferQueue → BufferQueue}
    (pools : ∀ q, (set q).pool = q.pool)
    (frames : ∀ q, (set q).mFrameCounter = q.mFrameCounter) :
    Quiet q (q.adjustThen delta set).2 := by
  have adj := quiet_adjustAvailableSlotsLocked q.pool delta
  rw [adjustThen]
  cases res : q.pool.adjustAvailableSlotsLocked delta with
  | mk success left =>
    rw [res] at adj
    cases success with
    | false => exact ⟨adj, rfl⟩
    | true => exact ⟨by rw [pools]; exact adj, by rw [frames]⟩

/-! ## Queueing and acquiring -/

lemma queueBuffer_cases (slot : Int) (input : QueueBufferInput) (out : QueueBufferOutput) :
    (q.queueBuffer slot input out).1 ≠ .noError ∧
        (q.queueBuffer slot input out).2.2 = q ∨
      ∃ i, (q.pool.state i).isDequeued = true ∧
        ((q.queueBuffer slot input out).1 ≠ .noError ∧ (q.queueBuffer slot input out).2.2 =
              { q with pool := q.pool.adoptShared i } ∨
          ∃ fence, q.queueBuffer slot input out =
            { q with pool := q.pool.adoptShared i }.queueAccepted i input fence
              out) := by
  rw [queueBuffer]
  cases input.fence with
  | none => exact .inl ⟨by simp, rfl⟩
  | some fence =>
    simp only
    split_ifs
    any_goals exact .inl ⟨by simp, rfl⟩
    · cases Slot.ofInt slot with
      | none => exact .inl ⟨by simp, rfl⟩
      | some i =>
        simp only
        split_ifs with miss
        any_goals exact .inl ⟨by simp, rfl⟩
        · refine .inr ⟨i, by simpa using miss, ?_⟩
          cases ((q.pool.adoptShared i).mSlots i).mGraphicBuffer with
          | none => exact .inl ⟨by simp, rfl⟩
          | some buf =>
            simp only
            split_ifs
            · exact .inl ⟨by simp, rfl⟩
            · exact .inr ⟨fence, rfl⟩

end

lemma dropLoop_append (pres : Int) (maxF : Nat) (items : List BufferItem) :
    (dropLoop pres maxF items).1 ++ (dropLoop pres maxF items).2 = items := by
  fun_induction dropLoop pres maxF items with
  | case1 => rfl
  | case2 front next rest _ later ih => simpa using ih
  | case3 => rfl

lemma dropped_append (q : BufferQueue) (pres : Int) (maxF : Nat) :
    (q.dropped pres maxF).1 ++ (q.dropped pres maxF).2 = q.pool.mQueue := by
  rw [dropped]
  split_ifs
  · rfl
  · exact dropLoop_append ..

lemma dropLoop_front (pres : Int) (maxF : Nat) (items : List BufferItem) :
    (dropLoop pres maxF items).1 = [] ∨ ∃ front rest, (dropLoop pres maxF items).2 = front :: rest ∧
        keepsFront pres maxF front = false := by
  fun_induction dropLoop pres maxF items with
  | case1 => exact .inl rfl
  | case2 front next rest drops later ih =>
    rcases ih with last | hit
    · have kept := dropLoop_append pres maxF (next :: rest)
      rw [last, List.nil_append] at kept
      simp only [Bool.or_eq_true, not_or, Bool.not_eq_true] at drops
      exact .inr ⟨next, rest, kept, drops.2⟩
    · exact .inr hit
  | case3 => exact .inl rfl

lemma dropped_front (q : BufferQueue) (pres : Int) (maxF : Nat) :
    (q.dropped pres maxF).1 = [] ∨ ∃ front rest, (q.dropped pres maxF).2 = front :: rest ∧
        front.mTimestamp ≤ pres ∧ isDeferred pres maxF front = false := by
  rw [dropped]
  split_ifs
  · exact .inl rfl
  · rcases dropLoop_front pres maxF q.pool.mQueue with
      none | ⟨front, rest, kept, timely⟩
    · exact .inl none
    · simp only [keepsFront, Bool.or_eq_false_iff, decide_eq_false_iff_not, Int.not_lt] at timely
      refine .inr ⟨front, rest, kept, timely.2, ?_⟩
      have ready : 0 < maxF → front.mFrameNumber ≤ maxF := by
        intro limited
        simpa [Nat.ne_of_gt limited] using timely.1.1
      simp [isDeferred, timely.2]
      exact fun _ => ready

/-- `acquireBuffer` does nothing, takes the shared slot, or drops items and takes the next
one. It never drops an item and then puts the next one off. -/
lemma acquireBuffer_cases (q : BufferQueue) (item : BufferItem) (pres : Int) (maxF : Nat) :
    let res := q.acquireBuffer item pres maxF
    let items := q.dropped pres maxF
    let pool := droppedPool q.pool items.1 items.2
    res.1 ≠ .noError ∧ res.2.2 = q ∨
      (∃ slot, q.sharedBufferAvailable = some slot ∧ items.2 = [] ∧
        res.1 = .noError ∧ res.2.2 = { q with
        pool := acquiredSlot q.pool slot .acquireNotInQueue }) ∨
      ∃ front rest, items.2 = front :: rest ∧ res.1 = .noError ∧
        res.2.1 = sentItem front ∧ res.2.2 = { q with
          pool := { (if front.mIsStale then pool
            else acquiredSlot pool front.mSlot .acquire) with mQueue := rest } } := by
  simp only [acquireBuffer]
  split_ifs
  · exact .inl ⟨by simp, rfl⟩
  · cases kept : (q.dropped pres maxF).2 with
    | nil =>
      cases available : q.sharedBufferAvailable with
      | none => exact .inl ⟨by simp, rfl⟩
      | some slot => exact .inr (.inl ⟨slot, rfl, rfl, rfl, rfl⟩)
    | cons front rest =>
      dsimp only
      by_cases later : isDeferred pres maxF front = true
      · -- Nothing was dropped then.
        have split := dropped_append q pres maxF
        rcases dropped_front q pres maxF with none | ⟨other, _, same, _, due⟩
        · rw [none, List.nil_append, kept] at split
          rw [if_pos later, none, split]
          exact .inl ⟨by simp, rfl⟩
        · rw [kept] at same
          cases same
          rw [later] at due
          cases due
      · rw [if_neg later]
        exact .inr (.inr ⟨front, rest, rfl, rfl, rfl, rfl⟩)

/-- A call of `acquireBuffer` that fails changes nothing. One that succeeds takes the shared
buffer off an empty queue, or an item of the queue; the items before it are dropped, and when
there are any it is due. -/
theorem acquireBuffer_all_or_nothing (queue : BufferQueue) (outBuffer : BufferItem)
    (expectedPresent : Int) (maxFrameNumber : Nat) :
    let result := queue.acquireBuffer outBuffer expectedPresent maxFrameNumber
    result.1 ≠ .noError ∧ result.2.2 = queue ∨ result.1 = .noError ∧
        (queue.pool.mQueue = [] ∧ queue.sharedBufferAvailable ≠ none ∨
          ∃ gone front rest, queue.pool.mQueue = gone ++ front :: rest ∧
            result.2.1 = sentItem front ∧ result.2.2.pool.mQueue = rest ∧
            (gone = [] ∨ front.mTimestamp ≤ expectedPresent ∧
              isDeferred expectedPresent maxFrameNumber front = false)) := by
  intro result
  have split := dropped_append queue expectedPresent maxFrameNumber
  have due := dropped_front queue expectedPresent maxFrameNumber
  rcases acquireBuffer_cases queue outBuffer expectedPresent maxFrameNumber with
    refused | ⟨slot, available, kept, success, _⟩ | ⟨front, rest, kept, success, item, taken⟩
  · exact .inl refused
  · rw [kept] at split due
    rcases due with none | ⟨_, _, absurd, _⟩
    · rw [none] at split
      exact .inr ⟨success, .inl ⟨split.symm, by simp [available]⟩⟩
    · cases absurd
  · rw [kept] at split due
    refine .inr ⟨success, .inr ⟨_, front, rest, split.symm, item, ?_, ?_⟩⟩
    · change (queue.acquireBuffer outBuffer expectedPresent maxFrameNumber).2.2.pool.mQueue = rest
      rw [taken]
    · rcases due with none | ⟨_, _, same, due⟩
      · exact .inl none
      · cases same
        exact .inr due

lemma queueBuffer_unshared (solo : q.pool.Unshared) (slot : Int)
    (input : QueueBufferInput) (out : QueueBufferOutput) :
    (q.queueBuffer slot input out).2.2.pool.Unshared := by
  rcases queueBuffer_cases q slot input out with
    ⟨_, same⟩ | ⟨i, _, ⟨_, adopts⟩ | ⟨fence, accepts⟩⟩
  · rw [same]
    exact solo
  · rw [adopts]
    exact (still_adoptShared q.pool i).unshared solo
  · rw [accepts]
    exact ((still_adoptShared q.pool i).unshared solo).queuedPool _

lemma acquireBuffer_unshared (solo : q.pool.Unshared) (item : BufferItem)
    (pres : Int) (maxF : Nat) : (q.acquireBuffer item pres maxF).2.2.pool.Unshared := by
  have dropped := solo.droppedPool (q.dropped pres maxF).1
    (q.dropped pres maxF).2
  rcases acquireBuffer_cases q item pres maxF with
    ⟨_, same⟩ | ⟨slot, _, _, _, shared⟩ | ⟨front, rest, _, _, _, taken⟩
  · rw [same]
    exact solo
  · rw [shared]
    exact solo.acquiredSlot slot _ fun _ => rfl
  · rw [taken]
    split_ifs
    · exact dropped.congr rfl rfl
    · exact (dropped.acquiredSlot front.mSlot .acquire fun _ => rfl).congr rfl rfl

end BufferQueue

/-! ## Dequeueing and attaching keep the slots in order

The calls that look for a free slot. A slot that is found is claimable; what happens
to it afterwards gives it one more holder and a buffer. -/

open SlotPool.Still (refl of_slots)

namespace BufferQueue

variable {queue : BufferQueue} {pool : SlotPool} {req : BufferRequest}

/-! ## Finding a slot -/

lemma waitForFreeSlotThenRelock_error
    (stop : queue.waitForFreeSlotThenRelock pool caller late = .error stat) (error : Int) :
    stat ≠ .allocationFailed error := by
  rw [waitForFreeSlotThenRelock] at stop
  split_ifs at stop
  · cases stop
    simp
  · cases stop
    simp
  · cases choice : queue.chooseSlot pool caller with
    | some pair => simp [choice] at stop
    | none =>
      simp only [choice, Except.error.injEq] at stop
      rw [← stop, waitStatus]
      split_ifs <;> simp

def Searched (queue : BufferQueue) (items : List BufferItem)
    (result : Except Status Slot × SlotPool) : Prop :=
  match result.1 with
  | .error _ => result.2.Sound items
  | .ok found => result.2.Claimable items found ∧ queue.mIsAbandoned = false

/-- The loop takes slots out of the lists and clears them, and allocates nothing. -/
structure Search (queue : BufferQueue) (pool : SlotPool)
    (result : Except Status Slot × SlotPool) : Prop where
  still : SlotPool.Still pool result.2
  sharing : result.2.mSharedBufferMode = pool.mSharedBufferMode ∧
    result.2.mSharedBufferSlot = pool.mSharedBufferSlot
  stopped : ∀ status error, result.1 = .error status → status ≠ .allocationFailed error
  searched : ∀ {items}, pool.Sound items → Searched queue items result

lemma findBuffer_search (queue : BufferQueue) (req : BufferRequest) (late : Bool)
    (budget : Nat) (pool : SlotPool) :
    Search queue pool (queue.findBuffer req late budget pool) := by
  induction budget generalizing pool with
  | zero =>
    refine ⟨refl pool, ⟨rfl, rfl⟩, fun stat error stop => ?_, fun sound => sound⟩
    cases stop
    simp
  | succ budget ih =>
    rw [findBuffer]
    cases wait : queue.waitForFreeSlotThenRelock pool .dequeue late with
    | error stat =>
      refine ⟨refl pool, ⟨rfl, rfl⟩, fun stat error stop => ?_, fun sound => sound⟩
      cases stop
      exact waitForFreeSlotThenRelock_error wait error
    | ok pair =>
      rcases pair with ⟨hit, after⟩
      rcases waitForFreeSlotThenRelock_ok wait with ⟨live, taken⟩
      rcases findFreeSlot_frame taken with ⟨slots, bufs, frame⟩
      have still : SlotPool.Still pool after := by
        rw [frame]
        exact of_slots rfl rfl rfl rfl
      have sharing : after.mSharedBufferMode = pool.mSharedBufferMode ∧
          after.mSharedBufferSlot = pool.mSharedBufferSlot := by
        rw [frame]
        exact ⟨rfl, rfl⟩
      have ends : Search queue pool (.ok hit, after) :=
        ⟨still, sharing, fun _ _ stop => (by cases stop),
          fun sound => ⟨sound.findFreeSlot taken, live⟩⟩
      by_cases allowed : queue.mAllowAllocation = true
      · simpa only [if_pos allowed] using ends
      · have no : queue.mAllowAllocation = false := by simpa using allowed
        simp only [if_neg allowed]
        cases holds : (after.mSlots hit).mGraphicBuffer with
        | none =>
          refine ⟨still, sharing, fun stat error stop => ?_, fun sound => ?_⟩
          · cases stop
            simp
          · exact absurd holds (sound.findFreeSlot_buffer (no ▸ taken))
        | some buf =>
          simp only
          split_ifs with missed shared
          · refine ⟨still, sharing, fun stat error stop => ?_, fun sound => ?_⟩
            · cases stop
              simp
            · exact (sound.findFreeSlot taken).sound shared
          · -- The slot is cleared, and the loop goes on.
            have later := ih (after.freeSlot hit)
            refine ⟨still.trans ((still_freeSlot after hit).trans later.still),
              ⟨later.sharing.1.trans sharing.1, later.sharing.2.trans sharing.2⟩,
              later.stopped, fun sound => later.searched ?_⟩
            exact ((sound.findFreeSlot taken).loose shared).freeSlot
          · exact ends

/-! ## Dequeueing and attaching -/

lemma dequeuedSlot_mShared (slot : BufferSlot) (req : BufferRequest) :
    (dequeuedSlot slot req).mBufferState.mShared = slot.mBufferState.mShared := by
  simp only [dequeuedSlot]
  split_ifs <;> rfl

lemma still_dequeuedPool (pool : SlotPool) (hit : Slot) (req : BufferRequest) :
    SlotPool.Still pool (dequeuedPool pool hit req) := by
  have deq : SlotPool.Still pool
      (pool.updateSlot hit fun slot => dequeuedSlot slot req) := by
    apply still_updateSlot
    intro slot solo
    rw [dequeuedSlot_mShared]
    exact solo
  simp only [dequeuedPool]
  split_ifs
  · have act : SlotPool.Still pool
        { pool.updateSlot hit fun slot => dequeuedSlot slot req with
          mActiveBuffers := insert hit pool.mActiveBuffers } :=
      deq.trans (of_slots rfl rfl rfl rfl)
    exact act.trans (still_adoptShared _ hit)
  · exact deq.trans (still_adoptShared _ hit)

lemma still_allocateDequeued (queue : BufferQueue) (pool : SlotPool) (hit : Slot)
    (req : BufferRequest) (alloc : Allocation) :
    SlotPool.Still pool (queue.allocateDequeued pool hit req alloc).2 := by
  cases alloc with
  | error error => exact still_freeSlot pool hit
  | ok id =>
    simp only [allocateDequeued]
    split_ifs
    · exact still_freeSlot pool hit
    · dsimp only
      apply still_updateSlot
      exact fun _ solo => solo

lemma still_dequeueFound (queue : BufferQueue) (pool : SlotPool) (hit : Slot)
    (req : BufferRequest) (alloc : Allocation) :
    SlotPool.Still pool (queue.dequeueFound pool hit req alloc).2.2.pool := by
  have taken := still_dequeuedPool pool hit req
  simp only [dequeueFound]
  split_ifs
  · exact taken.trans (still_allocateDequeued queue _ hit req alloc)
  · exact taken

/-- A change of a slot that has nothing to do with its being shared may be made
before or after the slot becomes the shared one. -/
lemma adoptShared_updateSlot (pool : SlotPool) (slot : Slot) (change : BufferSlot → BufferSlot)
    (independent : ∀ s : BufferSlot,
      change { s with mBufferState := { s.mBufferState with mShared := true } } =
        { change s with mBufferState := { (change s).mBufferState with mShared := true } }) :
    (pool.adoptShared slot).updateSlot slot change =
      (pool.updateSlot slot change).adoptShared slot := by
  by_cases adopts : pool.mSharedBufferMode = true ∧ pool.mSharedBufferSlot = none
  · have adoptsAfter : (pool.updateSlot slot change).mSharedBufferMode = true ∧
        (pool.updateSlot slot change).mSharedBufferSlot = none := adopts
    rw [adoptShared, adoptShared, if_pos adopts, if_pos adoptsAfter]
    simp [updateState, updateSlot, independent]
  · have keepsAfter : ¬((pool.updateSlot slot change).mSharedBufferMode = true ∧
        (pool.updateSlot slot change).mSharedBufferSlot = none) := adopts
    rw [adoptShared, adoptShared, if_neg adopts, if_neg keepsAfter]

lemma dequeuedPool_eq (claim : pool.Claimable items hit) : dequeuedPool pool hit req =
      (pool.hold hit fun slot => dequeuedSlot slot req).adoptShared hit := by
  by_cases shared : pool.mSharedBufferSlot = some hit
  · have mem := ((claim.sound shared).shared hit shared).2.1
    simp only [dequeuedPool, shared, ne_eq, not_true_eq_false, if_false, hold,
      Finset.insert_eq_of_mem mem]
    rfl
  · simp only [dequeuedPool, shared, ne_eq, not_false_eq_true, if_true]
    rfl

lemma gains_dequeuedSlot (serves : mustAllocate slot req = false) :
    Gains slot (dequeuedSlot slot req) := by
  have deq : dequeuedSlot slot req = { slot with
        mNeedsReallocation := false
        mBufferState := slot.mBufferState.dequeue
        mFence := .noFence } := by
    simp [dequeuedSlot, serves]
  rw [deq]
  refine ⟨?_, rfl, rfl, ?_⟩
  · intro empty
    simp only at empty
    simp [mustAllocate, empty] at serves
  · simp only [dequeue, holders]
    omega

lemma gains_allocatedSlot (buf : GraphicBuffer) (allocates : mustAllocate slot req = true) :
    Gains slot { dequeuedSlot slot req with mGraphicBuffer := some buf } := by
  simp only [dequeuedSlot, allocates, if_true]
  refine ⟨by simp, rfl, rfl, ?_⟩
  simp only [dequeue, holders]
  omega

lemma dequeuedPool_setBuffer (claim : pool.Claimable items hit) (buf : GraphicBuffer) :
    ((dequeuedPool pool hit req).updateSlot hit fun slot =>
        { slot with mGraphicBuffer := some buf }) =
      (pool.hold hit fun slot =>
        { dequeuedSlot slot req with mGraphicBuffer := some buf }).adoptShared hit := by
  rw [dequeuedPool_eq claim, adoptShared_updateSlot _ _ _ fun _ => rfl]
  simp [hold, updateSlot]

lemma dequeueFound_sound (claim : pool.Claimable items hit) (req : BufferRequest)
    (id : Nat) (live : queue.mIsAbandoned = false) :
    (queue.dequeueFound pool hit req (.ok id)).2.2.pool.Sound items := by
  cases allocates : mustAllocate (pool.mSlots hit) req with
  | false =>
    have held := claim.hold (fun slot => dequeuedSlot slot req)
      (gains_dequeuedSlot allocates)
    simp only [dequeueFound, allocates, Bool.false_eq_true, if_false, dequeuedPool_eq claim]
    exact held.1.adoptShared held.2
  | true =>
    let buf := req.create id queue.mGenerationNumber
    have held := claim.hold
      (fun slot => { dequeuedSlot slot req with mGraphicBuffer := some buf })
      (gains_allocatedSlot buf allocates)
    simp only [dequeueFound, allocates, if_true, allocateDequeued, live, Bool.false_eq_true,
      if_false, dequeuedPool_setBuffer claim]
    exact held.1.adoptShared held.2

variable (queue) (req) (alloc)

lemma tidy_dequeueResume (late : Bool) (succeeds : condition → ∃ id, alloc = .ok id) :
    Tidy condition queue (queue.dequeueResume req alloc late).2.2 := by
  have search := findBuffer_search queue req late (queue.pool.mFreeBuffers.length + 1)
    queue.pool
  rw [dequeueResume]
  cases res : queue.findBuffer req late (queue.pool.mFreeBuffers.length + 1)
      queue.pool with
  | mk oc after =>
    rw [res] at search
    cases oc with
    | error stat => exact ⟨⟨search.still, rfl, rfl⟩, fun _ => search.searched⟩
    | ok hit =>
      have taken : Tidy condition queue
          (queue.dequeueFound after hit req alloc).2.2 := by
        refine ⟨⟨search.still.trans (still_dequeueFound queue after hit req alloc),
          rfl, rfl⟩, fun given sound => ?_⟩
        rcases succeeds given with ⟨id, rfl⟩
        exact dequeueFound_sound (search.searched sound).1 req id (search.searched sound).2
      by_cases shared : after.mSharedBufferSlot = some hit
      · have same : Tidy condition queue { queue with pool := after } :=
          ⟨⟨search.still, rfl, rfl⟩, fun _ sound => (search.searched sound).1.sound shared⟩
        simp only [if_pos shared]
        cases (after.mSlots hit).mGraphicBuffer with
        | none => exact same
        | some buf =>
          simp only
          split_ifs
          · exact same
          · exact taken
      · simpa only [if_neg shared] using taken

lemma tidy_dequeueBuffer (late : Bool) (ok : condition → ∃ id, alloc = .ok id) :
    Tidy condition queue (queue.dequeueBuffer req alloc late).2.2 := by
  rw [dequeueBuffer]
  split_ifs
  any_goals exact .refl queue
  · exact tidy_dequeueResume queue _ alloc late ok

variable (buf : GraphicBuffer)

lemma gains_attachedSlot (slot : BufferSlot) : Gains slot (attachedSlot buf slot) := by
  refine ⟨by simp [attachedSlot], rfl, rfl, ?_⟩
  simp only [attachedSlot, attachProducer, holders]
  omega

lemma tidy_attachResume (late : Bool) :
    Tidy condition queue (queue.attachResume buf late).2.2 := by
  rw [attachResume]
  cases wait : queue.waitForFreeSlotThenRelock queue.pool .attach late with
  | error stat => exact .refl queue
  | ok pair =>
    rcases pair with ⟨hit, after⟩
    rcases waitForFreeSlotThenRelock_ok wait with ⟨_, taken⟩
    rcases findFreeSlot_frame taken with ⟨slots, bufs, frame⟩
    have still : SlotPool.Still queue.pool after := by
      rw [frame]
      exact of_slots rfl rfl rfl rfl
    have attached : SlotPool.Still after (after.updateSlot hit (attachedSlot buf)) :=
      still_updateSlot after hit fun _ solo => solo
    refine ⟨⟨still.trans (attached.trans (of_slots rfl rfl rfl rfl)), rfl, rfl⟩, fun _ sound => ?_⟩
    have claim := SlotPool.Sound.findFreeSlot sound taken
    exact (claim.hold (attachedSlot buf) (gains_attachedSlot buf _)).1

lemma tidy_attachBuffer (buf : Option GraphicBuffer) (late : Bool) :
    Tidy condition queue (queue.attachBuffer buf late).2.2 := by
  cases buf with
  | none => exact .refl queue
  | some buf =>
    simp only [attachBuffer]
    split_ifs
    any_goals exact .refl queue
    · exact tidy_attachResume queue buf late

end BufferQueue

/-! ## A dequeue whose allocation fails

By the time `dequeueBuffer` learns that there is no buffer, its slot is in
`mActiveBuffers`. The way out puts the slot into `mFreeSlots` and clears it, but takes
nothing back: the slot stays in `mActiveBuffers`, and in shared buffer mode it stays
the shared one. -/

namespace BufferQueue

variable {queue : BufferQueue} {pool : SlotPool}

/-- What a dequeue that failed should leave: each slot in one list, the slot it had
chosen back among the free ones, and no shared slot without a buffer. -/
structure RolledBack (queue : BufferQueue) (chosen : Slot) : Prop where
  once : ∀ slot, queue.pool.mUnusedSlots.count slot +
    (if slot ∈ queue.pool.mFreeSlots then 1 else 0) + queue.pool.mFreeBuffers.count slot +
    (if slot ∈ queue.pool.mActiveBuffers then 1 else 0) = 1
  free : (queue.pool.state chosen).isFree = true
  empty : (queue.pool.mSlots chosen).mGraphicBuffer = none
  listed : chosen ∈ queue.pool.mFreeSlots
  shared : ∀ slot, queue.pool.mSharedBufferSlot = some slot →
    (queue.pool.mSlots slot).mGraphicBuffer ≠ none

/-- What it does leave. `adopts` says that the call was to choose the shared slot. -/
structure LeftOver (queue : BufferQueue) (chosen : Slot) (adopts : Prop) : Prop where
  listed : chosen ∈ queue.pool.mFreeSlots
  active : chosen ∈ queue.pool.mActiveBuffers
  empty : (queue.pool.mSlots chosen).mGraphicBuffer = none
  shared : adopts → queue.pool.mSharedBufferSlot = some chosen

lemma LeftOver.not_rolledBack (left : queue.LeftOver chosen adopts) (slot : Slot) :
    ¬queue.RolledBack slot := by
  intro rolledBack
  have once := rolledBack.once chosen
  rw [if_pos left.listed, if_pos left.active] at once
  omega

lemma adoptShared_mActiveBuffers (pool : SlotPool) (slot : Slot) :
    (pool.adoptShared slot).mActiveBuffers = pool.mActiveBuffers := by
  rw [adoptShared]
  split_ifs <;> rfl

lemma dequeuedPool_active (solo : pool.mSharedBufferSlot ≠ some hit) :
    hit ∈ (dequeuedPool pool hit req).mActiveBuffers := by
  simp [dequeuedPool, adoptShared_mActiveBuffers, solo]

lemma dequeuedPool_shared (on : pool.mSharedBufferMode = true)
    (none : pool.mSharedBufferSlot = none) :
    (dequeuedPool pool hit req).mSharedBufferSlot = some hit := by
  simp [dequeuedPool, adoptShared, updateSlot, on, none]

lemma allocateDequeued_failed
    (bad : (queue.allocateDequeued pool hit req alloc).1 = .allocationFailed error) :
    (queue.allocateDequeued pool hit req alloc).2 = pool.freeSlot hit := by
  cases alloc with
  | error error => rfl
  | ok id =>
    simp only [allocateDequeued] at bad
    split_ifs at bad

lemma dequeueFound_failed (solo : pool.mSharedBufferSlot ≠ some hit)
    (bad : (queue.dequeueFound pool hit req alloc).1 = .allocationFailed error) :
    (queue.dequeueFound pool hit req alloc).2.2.LeftOver hit
      (pool.mSharedBufferMode = true ∧ pool.mSharedBufferSlot = none) := by
  simp only [dequeueFound] at bad ⊢
  split_ifs at bad ⊢
  have freed := allocateDequeued_failed bad
  rw [freed]
  exact {
    listed := by simp [freeSlot, clearBufferSlotLocked, updateSlot]
    active := dequeuedPool_active solo
    empty := by
      simp [freeSlot, clearBufferSlotLocked, updateSlot,
        BufferSlot.cleared, BufferSlot.initial]
    shared := fun adopts => dequeuedPool_shared adopts.1 adopts.2 }

lemma dequeueResume_failed
    (bad : (queue.dequeueResume req alloc late).1 = .allocationFailed error) :
    ∃ chosen, (queue.dequeueResume req alloc late).2.2.LeftOver chosen
      (queue.pool.mSharedBufferMode = true ∧ queue.pool.mSharedBufferSlot = none) := by
  have search := findBuffer_search queue req late (queue.pool.mFreeBuffers.length + 1)
    queue.pool
  rw [dequeueResume] at bad ⊢
  cases res : queue.findBuffer req late (queue.pool.mFreeBuffers.length + 1)
      queue.pool with
  | mk oc left =>
    rw [res] at search
    cases oc with
    | error stat =>
      simp only [res] at bad
      exact absurd bad (search.stopped stat error rfl)
    | ok hit =>
      simp only [res] at bad ⊢
      by_cases shared : left.mSharedBufferSlot = some hit
      · -- The shared slot is used again as it is, or not at all.
        rw [if_pos shared] at bad ⊢
        cases held : (left.mSlots hit).mGraphicBuffer with
        | none => simp [held] at bad
        | some buf =>
          simp only [held] at bad
          split_ifs at bad with misses
          simp [dequeueFound, mustAllocate, held, misses] at bad
      · rw [if_neg shared] at bad ⊢
        have leftOver := dequeueFound_failed shared bad
        rw [search.sharing.1, search.sharing.2] at leftOver
        exact ⟨hit, leftOver⟩

/-- Whatever state it was made in, a dequeue whose allocation fails is not rolled
back. -/
theorem dequeueBuffer_failed_not_rolledBack (queue : BufferQueue) (request : BufferRequest)
    (allocation : Allocation) (timesOut : Bool) (error : Int)
    (failed : (queue.dequeueBuffer request allocation timesOut).1 = .allocationFailed error)
    (chosen : Slot) :
    ¬(queue.dequeueBuffer request allocation timesOut).2.2.RolledBack chosen := by
  rw [dequeueBuffer] at failed ⊢
  split_ifs at failed ⊢
  rcases dequeueResume_failed failed with ⟨slot, left⟩
  exact left.not_rolledBack chosen

theorem dequeueBuffer_failed_not_rolledBack_first :
    ((runFromInitial false openingCalls).dequeueBuffer ⟨0, 0, 0, 0⟩ (.error (-12)) false).1 =
        .allocationFailed (-12) ∧
      ¬((runFromInitial false openingCalls).dequeueBuffer ⟨0, 0, 0, 0⟩
        (.error (-12)) false).2.2.RolledBack 0 := by
  refine ⟨by decide, ?_⟩
  exact dequeueBuffer_failed_not_rolledBack _ _ _ _ (-12) (by decide) 0

/-- The first dequeue of a new queue, in shared buffer mode: slot 0 ends up in two
lists, and as the shared slot although it has no buffer. -/
theorem dequeueBuffer_failed_shares_empty_slot :
    let queue := runFromInitial false (openingCalls ++ [.setSharedBufferMode true])
    let after := (queue.dequeueBuffer ⟨0, 0, 0, 0⟩ (.error (-12)) false).2.2
    (queue.dequeueBuffer ⟨0, 0, 0, 0⟩ (.error (-12)) false).1 = .allocationFailed (-12) ∧
      0 ∈ after.pool.mFreeSlots ∧ 0 ∈ after.pool.mActiveBuffers ∧
      after.pool.mSharedBufferSlot = some 0 ∧ (after.pool.mSlots 0).mGraphicBuffer = none := by
  decide

end BufferQueue

end NativeLibs.Gui
