import NativeLibs.Gui.BufferQueueInvariant

/-! # What a call does to the waiting items

Items leave the queue at its front, where the consumer takes one and may drop those
before it, and at its back, where a new item may replace the last one. Outside of
shared buffer mode this is all that happens to them, short of a disconnect. -/

namespace NativeLibs.Gui

open SlotPool List Machine

def frames (items : List BufferItem) : List Nat := items.map BufferItem.mFrameNumber

@[simp] lemma frames_nil : frames [] = [] := rfl

@[simp] lemma frames_cons (item : BufferItem) (items : List BufferItem) :
    frames (item :: items) = item.mFrameNumber :: frames items := rfl

@[simp] lemma frames_append (items more : List BufferItem) :
    frames (items ++ more) = frames items ++ frames more :=
  map_append ..

lemma mem_frames (mem : item ∈ items) : item.mFrameNumber ∈ frames items :=
  mem_map_of_mem mem

/-! ## Dropped items -/

def SlotPool.GivenBack (pool : SlotPool) (slot : Slot) : Prop :=
  slot ∈ pool.mFreeBuffers ∧ slot ∉ pool.mActiveBuffers

instance (pool : SlotPool) (slot : Slot) : Decidable (pool.GivenBack slot) :=
  inferInstanceAs (Decidable (_ ∧ _))

namespace BufferQueue

variable {pool : SlotPool}

lemma dropItem_lists (solo : pool.Unshared) (live : item.mIsStale = false) :
    (dropItem pool item).mFreeBuffers = pool.mFreeBuffers ++ [item.mSlot] ∧
      (dropItem pool item).mActiveBuffers = pool.mActiveBuffers.erase item.mSlot := by
  have freed : ((pool.updateState item.mSlot .freeQueued).state item.mSlot).mShared = false := by
    simpa [SlotPool.state, updateState, BufferState.freeQueued] using solo.slots item.mSlot
  simp only [dropItem, live, Bool.false_eq_true, if_false]
  rw [recycle_of_freed (.inl freed)]
  exact ⟨rfl, rfl⟩

lemma givenBack_dropItem (solo : pool.Unshared) (live : item.mIsStale = false) :
    (dropItem pool item).GivenBack item.mSlot := by
  have lists := dropItem_lists solo live
  rw [GivenBack, lists.1, lists.2]
  simp

lemma GivenBack.dropItem (solo : pool.Unshared) (givenBack : pool.GivenBack slot)
    (item : BufferItem) : (BufferQueue.dropItem pool item).GivenBack slot := by
  cases live : item.mIsStale with
  | true =>
    rw [BufferQueue.dropItem, if_pos live]
    exact givenBack
  | false =>
    have lists := dropItem_lists solo live
    rw [GivenBack, lists.1, lists.2]
    simp [givenBack.1, givenBack.2]

variable (items : List BufferItem)

lemma givenBack_dropItems_of_givenBack (solo : pool.Unshared)
    (givenBack : pool.GivenBack slot) : (items.foldl BufferQueue.dropItem pool).GivenBack slot := by
  induction items generalizing pool with
  | nil => exact givenBack
  | cons item rest ih =>
    have later := (still_dropItem pool item).unshared solo
    exact ih later (GivenBack.dropItem solo givenBack item)

lemma givenBack_dropItems (solo : pool.Unshared) : ∀ item ∈ items, item.mIsStale = true ∨
      (items.foldl BufferQueue.dropItem pool).GivenBack item.mSlot := by
  induction items generalizing pool with
  | nil => simp
  | cons item rest ih =>
    have later := (still_dropItem pool item).unshared solo
    intro cut mem
    rcases mem_cons.1 mem with rfl | mem
    · cases live : cut.mIsStale with
      | true => exact .inl rfl
      | false =>
        exact .inr (givenBack_dropItems_of_givenBack rest later (givenBack_dropItem solo live))
    · exact ih later cut mem

/-! ## What a call reports -/

def acceptedFrames (queue : BufferQueue) : Call → List Nat
  | .queueBuffer slot input output =>
    let result := queue.queueBuffer slot input output
    if result.1 = .noError then [result.2.2.mFrameCounter] else []
  | _ => []

def acquiredFrames (queue : BufferQueue) : Call → List Nat
  | .acquireBuffer outBuffer expectedPresent maxFrameNumber =>
    let result := queue.acquireBuffer outBuffer expectedPresent maxFrameNumber
    if result.1 = .noError then [result.2.1.mFrameNumber] else []
  | _ => []

def freesAllBuffers (queue : BufferQueue) : Call → Bool
  | .disconnect api mode pid =>
    queue.mConnectedApi ≠ noConnectedApi &&
      (queue.disconnect api mode pid).2.mConnectedApi = noConnectedApi
  | .consumerDisconnect => queue.consumerDisconnect.1 = .noError
  | _ => false

/-- How a call moves the items: some are dropped from the front, one may be taken,
the last may be replaced, and one may come in behind those that are kept. -/
structure Flow (queue : BufferQueue) (call : Call)
    (dropped taken kept replaced : List BufferItem) : Prop where
  before : queue.pool.mQueue = dropped ++ taken ++ kept ++ replaced
  after : frames (queue.step call).pool.mQueue = frames kept ++ queue.acceptedFrames call
  acquired : queue.acquiredFrames call = frames taken
  counted : queue.acceptedFrames call = [] ∧ (queue.step call).mFrameCounter = queue.mFrameCounter ∨
    queue.acceptedFrames call = [queue.mFrameCounter + 1] ∧
      (queue.step call).mFrameCounter = queue.mFrameCounter + 1
  gone : ∀ item ∈ dropped ++ replaced, queue.freesAllBuffers call = true ∨
    item.mIsStale = true ∨ (queue.step call).pool.GivenBack item.mSlot
  stale : ∀ item ∈ (queue.step call).pool.mQueue, item.mIsStale = true →
    queue.freesAllBuffers call = true ∨ ∃ earlier ∈ queue.pool.mQueue, earlier.mIsStale = true ∧
        earlier.mFrameNumber = item.mFrameNumber

lemma Flow.of_same (taken : q.acceptedFrames call = [])
    (acq : q.acquiredFrames call = [])
    (items : (q.step call).pool.mQueue = q.pool.mQueue)
    (counter : (q.step call).mFrameCounter = q.mFrameCounter) :
    Flow q call [] [] q.pool.mQueue [] where
  before := by simp
  after := by rw [taken, items, append_nil]
  acquired := acq
  counted := .inl ⟨taken, counter⟩
  gone := by simp
  stale := by
    intro item mem stale
    rw [items] at mem
    exact .inr ⟨item, mem, stale, rfl⟩

lemma flow_of_leavesQueue (q : BufferQueue) (leaves : call.LeavesQueue) :
    Flow q call [] [] q.pool.mQueue [] := by
  have quiet := step_quiet q leaves
  apply Flow.of_same
  · cases call with
    | queueBuffer slot input out => exact leaves.elim
    | _ => rfl
  · cases call with
    | acquireBuffer item pres maxF => exact leaves.elim
    | _ => rfl
  · exact quiet.pool.queue
  · exact quiet.frames

/-! ## Queueing -/

lemma enqueue_flow (solo : pool.Unshared) (item : BufferItem) :
    ∃ kept repl, pool.mQueue = kept ++ repl ∧
      (∃ damage, (enqueue pool item).mQueue = kept ++ [{ item with mSurfaceDamage := damage }]) ∧
      ∀ gone ∈ repl, gone.mIsStale = true ∨ (enqueue pool item).GivenBack gone.mSlot := by
  cases last : pool.mQueue.getLast? with
  | none =>
    rw [getLast?_eq_none_iff] at last
    refine ⟨[], [], by simp [last], ⟨item.mSurfaceDamage, ?_⟩, by simp⟩
    simp [enqueue, last]
  | some back =>
    rw [enqueue]
    simp only [last]
    by_cases droppable : back.mIsDroppable = true
    · simp only [if_pos droppable]
      refine ⟨pool.mQueue.dropLast, [back], ?_, ⟨_, rfl⟩, ?_⟩
      · exact (dropLast_append_getLast? back last).symm
      · intro gone mem
        rw [mem_singleton.1 mem]
        cases live : back.mIsStale with
        | true => exact .inl rfl
        | false => exact .inr (givenBack_dropItem solo live)
    · simp only [if_neg droppable]
      exact ⟨pool.mQueue, [], by simp, ⟨item.mSurfaceDamage, rfl⟩, by simp⟩

lemma flow_queueBuffer (solo : q.pool.Unshared) (slot : Int)
    (input : QueueBufferInput) (out : QueueBufferOutput) :
    ∃ kept repl, Flow q (.queueBuffer slot input out) [] [] kept repl := by
  have refuses : (q.queueBuffer slot input out).1 ≠ .noError →
      (q.queueBuffer slot input out).2.2 = q →
      Flow q (.queueBuffer slot input out) [] [] q.pool.mQueue [] := by
    intro no same
    apply Flow.of_same _ rfl
    · rw [step, same]
    · rw [step, same]
    · simp [acceptedFrames, no]
  rcases queueBuffer_cases q slot input out with ⟨no, same⟩ | ⟨i, _, oc⟩
  · exact ⟨_, _, refuses no same⟩
  have alone : ({ q with pool := q.pool.adoptShared i } : BufferQueue) = q := by
    simp [adoptShared, solo.mode]
  rw [alone] at oc
  rcases oc with ⟨no, same⟩ | ⟨fence, taken⟩
  · exact ⟨_, _, refuses no same⟩
  · have queued : (queuedSlot q.pool (q.queuedItem i input fence)).Unshared :=
      solo.updateSlot _ (solo.slots _)
    rcases enqueue_flow queued (q.queuedItem i input fence) with
      ⟨kept, repl, split, ⟨damage, after⟩, gone⟩
    have old : q.pool.mQueue = kept ++ repl := split
    have frame : q.acceptedFrames (.queueBuffer slot input out) =
        [q.mFrameCounter + 1] := by
      simp [acceptedFrames, taken, queueAccepted]
    have wait : (q.step (.queueBuffer slot input out)).pool.mQueue =
        kept ++ [{ q.queuedItem i input fence with mSurfaceDamage := damage }] := by
      rw [step, taken]
      exact after
    refine ⟨kept, repl, ⟨?_, ?_, rfl, .inr ⟨frame, ?_⟩, ?_, ?_⟩⟩
    · simpa using old
    · rw [frame, wait, frames_append]
      rfl
    · rw [step, taken]
      rfl
    · intro item mem
      have acc := gone item (by simpa using mem)
      rw [step, taken]
      exact .inr acc
    · intro item mem stale
      rw [wait] at mem
      rcases mem_append.1 mem with prior | new
      · exact .inr ⟨item, by simp [old, prior], stale, rfl⟩
      · rw [mem_singleton.1 new] at stale
        simp [queuedItem] at stale

/-! ## Acquiring -/

lemma flow_acquireBuffer (solo : q.pool.Unshared) (buffer : BufferItem)
    (pres : Int) (maxF : Nat) :
    ∃ cut taken kept,
      Flow q (.acquireBuffer buffer pres maxF) cut taken kept
        [] := by
  have split := dropped_append q pres maxF
  have gone := givenBack_dropItems (q.dropped pres maxF).1 solo
  rcases acquireBuffer_cases q buffer pres maxF with
    ⟨no, same⟩ | ⟨slot, available, _⟩ | ⟨front, rest, kept, success, frame, taken⟩
  · refine ⟨[], [], q.pool.mQueue, .of_same rfl ?_ ?_ ?_⟩
    · simp [acquiredFrames, no]
    · rw [step, same]
    · rw [step, same]
  · simp [sharedBufferAvailable, solo.mode] at available
  · rw [kept] at split
    have wait : (q.step
        (.acquireBuffer buffer pres maxF)).pool.mQueue = rest := by
      rw [step, taken]
    refine ⟨(q.dropped pres maxF).1, [front], rest,
      ⟨?_, ?_, ?_, .inl ⟨rfl, ?_⟩, ?_, ?_⟩⟩
    · simpa using split.symm
    · rw [wait]
      simp [acceptedFrames]
    · simp [acquiredFrames, success, frame, sentItem]
    · rw [step, taken]
    · intro item mem
      have acc := gone item (by simpa using mem)
      rw [step, taken]
      split_ifs <;> exact .inr acc
    · intro item mem stale
      rw [wait] at mem
      exact .inr ⟨item, by simp [← split, mem], stale, rfl⟩

/-! ## Disconnecting -/

lemma flow_disconnect (q : BufferQueue) (api : Int) (mode : DisconnectMode) (pid : Int) :
    Flow q (.disconnect api mode pid) [] [] q.pool.mQueue [] := by
  rcases disconnect_state q api mode pid with same | ⟨connected, freed⟩
  · apply Flow.of_same rfl rfl
    · rw [step, same]
    · rw [step, same]
  · have all : q.freesAllBuffers (.disconnect api mode pid) = true := by
      simp [freesAllBuffers, freed, connected, disconnected]
    refine ⟨by simp, ?_, rfl, .inl ⟨rfl, ?_⟩, by simp, fun _ _ _ => .inl all⟩
    · rw [step, freed]
      simp [disconnected, freeAllBuffersLocked, frames, acceptedFrames]
    · rw [step, freed]
      rfl

lemma flow_consumerDisconnect (q : BufferQueue) :
    ∃ cut kept, Flow q .consumerDisconnect cut [] kept [] := by
  cases listening : q.mConsumerListener with
  | false =>
    have same : q.consumerDisconnect.2 = q := by simp [consumerDisconnect, listening]
    refine ⟨[], q.pool.mQueue, .of_same rfl rfl ?_ ?_⟩
    · rw [step, same]
    · rw [step, same]
  | true =>
    have all : q.freesAllBuffers .consumerDisconnect = true := by
      simp [freesAllBuffers, consumerDisconnect, listening]
    refine ⟨q.pool.mQueue, [], ⟨by simp, ?_, rfl, .inl ⟨rfl, ?_⟩, fun _ _ => .inl all,
      fun _ _ _ => .inl all⟩⟩
    · simp [step, consumerDisconnect, listening, freeAllBuffersLocked, acceptedFrames]
    · simp [step, consumerDisconnect, listening]

lemma step_flow (solo : q.pool.Unshared) (lone : ¬call.EnablesSharing) :
    ∃ cut taken kept repl, Flow q call cut taken kept repl := by
  by_cases leaves : call.LeavesQueue
  · exact ⟨_, _, _, _, flow_of_leavesQueue q leaves⟩
  · cases call with
    | queueBuffer slot input out =>
      rcases flow_queueBuffer solo slot input out with ⟨kept, repl, flow⟩
      exact ⟨_, _, _, _, flow⟩
    | acquireBuffer item pres maxF =>
      rcases flow_acquireBuffer solo item pres maxF with
        ⟨cut, taken, kept, flow⟩
      exact ⟨_, _, _, _, flow⟩
    | disconnect api mode pid => exact ⟨_, _, _, _, flow_disconnect q api mode pid⟩
    | consumerDisconnect =>
      rcases flow_consumerDisconnect q with ⟨cut, kept, flow⟩
      exact ⟨_, _, _, _, flow⟩
    | setSharedBufferMode mode => exact absurd (Bool.eq_false_of_not_eq_true lone) leaves
    | _ => exact absurd trivial leaves

end BufferQueue

/-! ## The frames of a run

A ledger is kept beside the queue from what can be seen from outside: the frames that
`queueBuffer` accepts, those that `acquireBuffer` hands out, and those that leave the
queue in any other way. -/

structure FrameLedger where
  accepted : List Nat
  acquired : List Nat
  /-- Dropped or replaced, with the slot given back to `mFreeBuffers`. -/
  freed : List Nat
  /-- Discarded together with the slot by a disconnect that freed all buffers. -/
  discarded : List Nat
  /-- Still waiting when a disconnect freed all buffers. -/
  orphaned : List Nat

def FrameLedger.empty : FrameLedger := ⟨[], [], [], [], []⟩

namespace FrameLedger

variable {ledger : FrameLedger}

def goneItems (queue : BufferQueue) (call : Call) : List BufferItem :=
  queue.pool.mQueue.filter fun item =>
    item.mFrameNumber ∉ frames (queue.step call).pool.mQueue &&
      item.mFrameNumber ∉ queue.acquiredFrames call

variable (ledger)

def isDiscarded (queue : BufferQueue) (call : Call) (item : BufferItem) : Bool :=
  queue.freesAllBuffers call || item.mFrameNumber ∈ ledger.orphaned

def isFreed (queue : BufferQueue) (call : Call) (item : BufferItem) : Bool :=
  !ledger.isDiscarded queue call item && (queue.step call).pool.GivenBack item.mSlot

def record (queue : BufferQueue) (call : Call) : FrameLedger where
  accepted := ledger.accepted ++ queue.acceptedFrames call
  acquired := ledger.acquired ++ queue.acquiredFrames call
  freed := ledger.freed ++ frames ((goneItems queue call).filter (ledger.isFreed queue call))
  discarded := ledger.discarded ++
    frames ((goneItems queue call).filter (ledger.isDiscarded queue call))
  orphaned :=
    if queue.freesAllBuffers call then ledger.orphaned ++ frames (queue.step call).pool.mQueue
    else ledger.orphaned

end FrameLedger

structure RecordedQueue where
  queue : BufferQueue
  ledger : FrameLedger

namespace RecordedQueue

def step (recorded : RecordedQueue) (call : Call) : RecordedQueue where
  queue := recorded.queue.step call
  ledger := recorded.ledger.record recorded.queue call

def runFromInitial (consumerIsSurfaceFlinger : Bool) (calls : List Call) : RecordedQueue :=
  run step ⟨BufferQueue.initial consumerIsSurfaceFlinger, FrameLedger.empty⟩ calls

end RecordedQueue

/-! ## One call -/

namespace BufferQueue.Flow

variable {cut : List BufferItem}

variable (flow : Flow queue call cut taken kept repl)
include flow

lemma accepted_fresh : ∀ frame ∈ queue.acceptedFrames call, queue.mFrameCounter < frame := by
  rcases flow.counted with ⟨none, _⟩ | ⟨one, _⟩
  · simp [none]
  · simp [one]

lemma goneItems_eq (wait : (frames queue.pool.mQueue).Pairwise (· < ·))
    (bound : ∀ frame ∈ frames queue.pool.mQueue, frame ≤ queue.mFrameCounter) :
    FrameLedger.goneItems queue call = cut ++ repl := by
  have fresh : ∀ item ∈ queue.pool.mQueue, item.mFrameNumber ∉ queue.acceptedFrames call := by
    intro item mem acc
    have old := bound _ (mem_frames mem)
    have new := flow.accepted_fresh _ acc
    omega
  rw [flow.before] at wait fresh
  simp only [frames_append, pairwise_append, mem_append] at wait fresh
  rcases wait with ⟨⟨⟨_, _, droppedTaken⟩, _, keptLater⟩, _, replacedLater⟩
  have drops : ∀ item ∈ cut ++ repl,
      item.mFrameNumber ∉ frames kept ++ queue.acceptedFrames call ∧
        item.mFrameNumber ∉ frames taken := by
    intro item mem
    rw [mem_append]
    rcases mem_append.1 mem with front | back
    · have frame := mem_frames front
      refine ⟨?_, fun other => lt_irrefl _ (droppedTaken _ frame _ other)⟩
      rintro (other | acc)
      · exact lt_irrefl _ (keptLater _ (.inl frame) _ other)
      · exact fresh item (.inl (.inl (.inl front))) acc
    · have frame := mem_frames back
      refine ⟨?_, fun other => lt_irrefl _ (replacedLater _ (.inl (.inr other)) _ frame)⟩
      rintro (other | acc)
      · exact lt_irrefl _ (replacedLater _ (.inr other) _ frame)
      · exact fresh item (.inr back) acc
  rw [FrameLedger.goneItems, flow.before, flow.after, flow.acquired]
  simp only [filter_append]
  rw [filter_eq_self.2, filter_eq_nil_iff.2, filter_eq_nil_iff.2,
    filter_eq_self.2, append_nil, append_nil]
  · intro item mem
    simpa using drops item (mem_append_right _ mem)
  · intro item mem
    simp [mem_frames mem]
  · intro item mem
    simp [mem_frames mem]
  · intro item mem
    simpa using drops item (mem_append_left _ mem)

end BufferQueue.Flow

/-! ## The accounts -/

structure RecordedQueue.Accounted (recorded : RecordedQueue) : Prop where
  unshared : recorded.queue.pool.Unshared
  waiting : (frames recorded.queue.pool.mQueue).Pairwise (· < ·)
  acquired : recorded.ledger.acquired.Pairwise (· < ·)
  behind : ∀ frame ∈ recorded.ledger.acquired,
    ∀ later ∈ frames recorded.queue.pool.mQueue, frame < later
  bounded : ∀ frame ∈ recorded.ledger.accepted, frame ≤ recorded.queue.mFrameCounter
  distinct : recorded.ledger.accepted.Nodup
  stale : ∀ item ∈ recorded.queue.pool.mQueue, item.mIsStale = true →
    item.mFrameNumber ∈ recorded.ledger.orphaned
  accounts : (frames recorded.queue.pool.mQueue ++ recorded.ledger.acquired ++
    recorded.ledger.freed ++ recorded.ledger.discarded).Perm recorded.ledger.accepted

namespace RecordedQueue.Accounted

open BufferQueue

variable {noted : RecordedQueue} {cut : List BufferItem}

section

variable (acc : noted.Accounted)
include acc

lemma bounded_of_listed
    (listed : frame ∈ frames noted.queue.pool.mQueue ∨ frame ∈ noted.ledger.acquired) :
    frame ≤ noted.queue.mFrameCounter := by
  apply acc.bounded
  rw [← acc.accounts.mem_iff]
  simp only [mem_append]
  exact .inl (.inl listed)

section

variable (flow : Flow noted.queue call cut taken kept repl)
include flow

lemma shared_out : (frames ((FrameLedger.goneItems noted.queue call).filter
        (noted.ledger.isFreed noted.queue call)) ++
      frames ((FrameLedger.goneItems noted.queue call).filter
        (noted.ledger.isDiscarded noted.queue call))).Perm
      (frames cut ++ frames repl) := by
  have gone := flow.goneItems_eq acc.waiting fun frame mem =>
    acc.bounded_of_listed (.inl mem)
  have freed : ∀ item ∈ cut ++ repl, noted.ledger.isFreed noted.queue call item =
        !noted.ledger.isDiscarded noted.queue call item := by
    intro item mem
    have old : item ∈ noted.queue.pool.mQueue := by
      rw [flow.before]
      simp only [mem_append] at mem ⊢
      tauto
    rcases flow.gone item mem with all | stale | givenBack
    · simp [FrameLedger.isFreed, FrameLedger.isDiscarded, all]
    · have orphaned := acc.stale item old stale
      simp [FrameLedger.isFreed, FrameLedger.isDiscarded, orphaned]
    · simp [FrameLedger.isFreed, givenBack]
  rw [gone, filter_congr freed, ← frames_append, ← frames_append]
  have split := filter_append_perm (noted.ledger.isDiscarded noted.queue call)
    (cut ++ repl)
  exact (perm_append_comm.trans split).map _

lemma step_accounts :
    (frames (noted.step call).queue.pool.mQueue ++ (noted.step call).ledger.acquired ++
      (noted.step call).ledger.freed ++ (noted.step call).ledger.discarded).Perm
      (noted.step call).ledger.accepted := by
  have old := acc.accounts
  have gone := acc.shared_out flow
  rw [flow.before] at old
  simp only [RecordedQueue.step, FrameLedger.record, flow.after, flow.acquired]
  simp only [perm_iff_count, count_append, frames_append] at old gone ⊢
  intro frame
  have counts := old frame
  have share := gone frame
  omega

lemma step_ordered : (frames (noted.step call).queue.pool.mQueue).Pairwise (· < ·) ∧
      (noted.step call).ledger.acquired.Pairwise (· < ·) ∧
      ∀ frame ∈ (noted.step call).ledger.acquired,
        ∀ later ∈ frames (noted.step call).queue.pool.mQueue, frame < later := by
  have fresh := flow.accepted_fresh
  have listed : ∀ {frame : Nat}, frame ∈ frames noted.queue.pool.mQueue ∨
      frame ∈ noted.ledger.acquired → frame ≤ noted.queue.mFrameCounter :=
    fun mem => acc.bounded_of_listed mem
  have behind := acc.behind
  have wait := acc.waiting
  rw [flow.before] at listed behind wait
  simp only [frames_append, pairwise_append, mem_append] at listed behind wait
  rcases wait with ⟨⟨⟨_, takenOrdered, _⟩, keptOrdered, keptLater⟩, _, _⟩
  simp only [RecordedQueue.step, FrameLedger.record, flow.after, flow.acquired]
  have single : (noted.queue.acceptedFrames call).Pairwise (· < ·) := by
    rcases flow.counted with ⟨none, _⟩ | ⟨one, _⟩
    · simp [none]
    · simp [one]
  refine ⟨pairwise_append.2 ⟨keptOrdered, single, ?_⟩,
    pairwise_append.2 ⟨acc.acquired, takenOrdered, ?_⟩, ?_⟩
  · intro frame mem later accepted
    have old := listed (.inl (.inl (.inr mem)))
    have new := fresh later accepted
    omega
  · intro frame mem later taken
    exact behind frame mem later (.inl (.inl (.inr taken)))
  · intro frame mem later waits
    rcases mem_append.1 mem with acq | taken
    · rcases mem_append.1 waits with kept | accepted
      · exact behind frame acq later (.inl (.inr kept))
      · have old := listed (.inr acq)
        have new := fresh later accepted
        omega
    · rcases mem_append.1 waits with kept | accepted
      · exact keptLater frame (.inr taken) later kept
      · have old := listed (.inl (.inl (.inl (.inr taken))))
        have new := fresh later accepted
        omega

lemma step_accepted : (∀ frame ∈ (noted.step call).ledger.accepted,
        frame ≤ (noted.step call).queue.mFrameCounter) ∧
      (noted.step call).ledger.accepted.Nodup := by
  have nodup := acc.distinct
  have bound := acc.bounded
  simp only [RecordedQueue.step, FrameLedger.record]
  rcases flow.counted with ⟨none, same⟩ | ⟨one, next⟩
  · rw [none, same, append_nil]
    exact ⟨bound, nodup⟩
  · rw [one, next]
    refine ⟨?_, ?_⟩
    · intro frame mem
      rcases mem_append.1 mem with old | new
      · have limit := bound frame old
        omega
      · simp only [mem_singleton] at new
        omega
    · rw [nodup_append]
      refine ⟨nodup, nodup_singleton _, ?_⟩
      intro frame old other new
      have limit := bound frame old
      simp only [mem_singleton] at new
      omega

lemma step_stale : ∀ item ∈ (noted.step call).queue.pool.mQueue, item.mIsStale = true →
      item.mFrameNumber ∈ (noted.step call).ledger.orphaned := by
  intro item mem stale
  simp only [RecordedQueue.step, FrameLedger.record]
  by_cases all : noted.queue.freesAllBuffers call = true
  · rw [if_pos all]
    exact mem_append_right _ (mem_frames mem)
  · rw [if_neg all]
    rcases flow.stale item mem stale with freed | ⟨prior, old, wasStale, same⟩
    · exact absurd freed all
    · rw [← same]
      exact acc.stale prior old wasStale

end

lemma step (lone : ¬call.EnablesSharing) : (noted.step call).Accounted := by
  rcases step_flow acc.unshared lone with ⟨cut, taken, kept, repl, flow⟩
  have ord := acc.step_ordered flow
  have accepted := acc.step_accepted flow
  exact {
    unshared := step_unshared acc.unshared lone
    waiting := ord.1
    acquired := ord.2.1
    behind := ord.2.2
    bounded := accepted.1
    distinct := accepted.2
    stale := acc.step_stale flow
    accounts := acc.step_accounts flow }

end

end RecordedQueue.Accounted

/-! ## Runs -/

namespace RecordedQueue

lemma runFromInitial_accounted (isFlinger : Bool)
    (lone : ∀ call ∈ calls, ¬call.EnablesSharing) :
    (runFromInitial isFlinger calls).Accounted := by
  have kept : ∀ (noted : RecordedQueue) (call : Call), noted.Accounted →
      ¬call.EnablesSharing → (noted.step call).Accounted :=
    fun _ _ acc lone => acc.step lone
  have init : (⟨.initial isFlinger, .empty⟩ : RecordedQueue).Accounted := by
    refine ⟨BufferQueue.initial_unshared _, ?_, ?_, ?_, ?_, ?_, ?_, ?_⟩ <;>
      simp [BufferQueue.initial, SlotPool.initial, FrameLedger.empty]
  apply run_invariant kept init
  exact along_of_forall (fun _ _ cond => cond) _ lone

lemma run_queue (noted : RecordedQueue) (calls : List Call) :
    (run step noted calls).queue =
      run BufferQueue.step noted.queue calls := by
  induction calls generalizing noted with
  | nil => rfl
  | cons call rest ih => exact ih (noted.step call)

/-- Outside of shared buffer mode frames wait in order, are handed out in order, and
every frame that was accepted is in one account, once. -/
theorem frames_accounted (consumerIsSurfaceFlinger : Bool) (calls : List Call)
    (unsharing : ∀ call ∈ calls, ¬call.EnablesSharing) :
    let queue := BufferQueue.runFromInitial consumerIsSurfaceFlinger calls
    let ledger := (runFromInitial consumerIsSurfaceFlinger calls).ledger
    (frames queue.pool.mQueue).Pairwise (· < ·) ∧ ledger.acquired.Pairwise (· < ·) ∧
      ledger.accepted.Nodup ∧
      (frames queue.pool.mQueue ++ ledger.acquired ++ ledger.freed ++ ledger.discarded).Perm
        ledger.accepted := by
  have accounted := runFromInitial_accounted consumerIsSurfaceFlinger unsharing
  have same : (runFromInitial consumerIsSurfaceFlinger calls).queue =
      BufferQueue.runFromInitial consumerIsSurfaceFlinger calls :=
    run_queue _ calls
  have waiting := accounted.waiting
  have accounts := accounted.accounts
  rw [same] at waiting accounts
  exact ⟨waiting, accounted.acquired, accounted.distinct, accounts⟩

def replacingCalls : List Call :=
  openingCalls ++ [.setAsyncMode true] ++ produceCalls ++
    [.dequeueBuffer ⟨0, 0, 0, 0⟩ (.ok 6) false, .requestBuffer 1,
      .queueBuffer 1 pixelInput blankOutput, .acquireBuffer blankItem 0 0]

theorem frames_accounted_replacing :
    let queue := BufferQueue.runFromInitial false replacingCalls
    let ledger := (runFromInitial false replacingCalls).ledger
    (ledger.acquired = [2] ∧ ledger.freed = [1]) ∧
      (frames queue.pool.mQueue).Pairwise (· < ·) ∧ ledger.acquired.Pairwise (· < ·) ∧
      ledger.accepted.Nodup ∧
      (frames queue.pool.mQueue ++ ledger.acquired ++ ledger.freed ++ ledger.discarded).Perm
        ledger.accepted := by
  refine ⟨by decide +kernel, frames_accounted false replacingCalls ?_⟩
  simp [replacingCalls, openingCalls, produceCalls, Call.EnablesSharing]

end RecordedQueue

end NativeLibs.Gui
