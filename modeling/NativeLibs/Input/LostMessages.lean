import NativeLibs.Input.Acknowledgement

/-! # Messages that are lost

A cancel discards the samples of a batch whether or not their finished signals can be sent. An
event factory that fails makes `consume` forget messages that it has received. -/

namespace NativeLibs.Input

open Transport InputConsumer List Machine

variable {Coords Other : Type}

namespace InputConsumer

/-! ## Signals that the channel does not take -/

def known (consumer : InputConsumer Coords Other) : List UInt32 :=
  (held consumer).map (·.seq) ++ consumer.mSeqChains.flatMap fun record => [record.seq, record.chain]

variable {consumer : InputConsumer Coords Other} {outbox : Outbox} {msg : Motion Coords Other}
  {before after : List (List (Motion Coords Other))} {batch : List (Motion Coords Other)}

/-- A pointer cancel leaves no number of a discarded sample that was neither sent nor is still
known, exactly if the channel takes every signal at once. -/
theorem discarded_signals_kept_iff (arith : CoordArithmetic Coords)
    (factory : Option (MotionEvent Coords Other))
    (found : consumer.findBatch msg.deviceId msg.source = some before.length)
    (split : consumer.mBatches = before ++ batch :: after)
    (full : canAddSample batch msg = false)
    (cancel : isPointerEvent msg.source = true ∧ msg.action = actionCancel)
    (distinct : ((held consumer).map (·.seq)).Nodup)
    (fresh : ∀ sample ∈ batch, sample.seq ≠ 0 ∧ sample.seq ∉ outbox.sentSeqs ∧
      sample.seq ∉ consumer.mSeqChains.flatMap fun record => [record.seq, record.chain]) :
    ∃ consumed, handle arith factory consumer outbox (.motion msg) = .leave consumed ∧
      ((∀ sample ∈ batch, sample.seq ∈ consumed.outbox.sentSeqs ∨
          sample.seq ∈ known consumed.consumer) ↔
        ∀ status ∈ outbox.results.take batch.length, status = .ok) := by
  have unchained : ∀ sample ∈ batch,
      sample.seq ≠ 0 ∧ sample.seq ∉ consumer.mSeqChains.map (·.seq) := by
    intro sample mem
    rcases fresh sample mem with ⟨nonzero, _, absent⟩
    refine ⟨nonzero, fun inTable => absent ?_⟩
    rcases mem_map.1 inTable with ⟨record, recordIn, same⟩
    exact mem_flatMap.2 ⟨record, recordIn, by simp [same]⟩
  rcases discard_unchained outbox unchained with ⟨same, sent, sublist, sentSeqs, all⟩
  rcases batch_at split with ⟨isBatch, removed, _⟩
  have noMove : ¬(msg.action = actionMove ∨ msg.action = actionHoverMove) := by
    rw [cancel.2]
    decide
  have handled : ∃ consumed, handle arith factory consumer outbox (.motion msg) = .leave consumed ∧
      consumed.outbox = (InputConsumer.discard outbox consumer batch).2 ∧
      known consumed.consumer = known { consumer with mBatches := before ++ after } := by
    simp only [handle, handleMotion, found, isBatch, full, Bool.false_eq_true, if_false,
      if_pos cancel, startMotion, if_neg noMove, same, removed]
    cases factory with
    | none => exact ⟨_, rfl, rfl, rfl⟩
    | some blank => exact ⟨_, rfl, rfl, rfl⟩
  have moved : ((held consumer).map (·.seq)).Perm (batch.map (·.seq) ++
      (held { consumer with mBatches := before ++ after }).map (·.seq)) := by
    rw [perm_iff_count]
    intro seq
    simp only [held, split, flatten_append, flatten_cons, map_append, map_seq_motion, count_append]
    omega
  have apart := nodup_append.1 (moved.nodup_iff.1 distinct)
  rcases handled with ⟨consumed, handled, outboxIs, knownIs⟩
  refine ⟨consumed, handled, ?_⟩
  rw [outboxIs, knownIs, sentSeqs, ← all]
  constructor
  · intro kept
    -- A sample that is not sent is not known any more.
    have unsent : ∀ seq ∈ batch.map (·.seq), seq ∈ sent := by
      intro seq mem
      rcases mem_map.1 mem with ⟨sample, sampleIn, rfl⟩
      rcases fresh sample sampleIn with ⟨_, notSent, notChained⟩
      have gone : sample.seq ∉ (held { consumer with mBatches := before ++ after }).map (·.seq) :=
        fun isHeld => apart.2.2 _ mem _ isHeld rfl
      rcases kept sample sampleIn with isSent | isKnown
      · exact (mem_append.1 isSent).resolve_left notSent
      · rcases mem_append.1 isKnown with isHeld | isChained
        · exact absurd isHeld gone
        · exact absurd isChained notChained
    exact sublist.eq_of_length_le (apart.1.subperm unsent).length_le
  · rintro rfl sample mem
    exact .inl (mem_append_right _ (mem_map_of_mem mem))

def cancelMessage (seq : UInt32) : Motion Unit Unit :=
  ⟨seq, 0, 1, 2, actionCancel, 0, [⟨⟨0, 1⟩, ()⟩], ()⟩

def blankEvent : MotionEvent Unit Unit := ⟨0, 0, 0, 0, [], (), []⟩

/-- The channel is full for the first of two samples. -/
theorem discarded_signal_lost :
    let state := run (step noCoordinates) (start false)
      [.publish (moveMessage 1), .publish (moveMessage 2), .publish (.motion (cancelMessage 3)),
        .consume ⟨true, -1, 3, .wouldBlock, some blankEvent⟩ [.wouldBlock], .finish 3 true [],
        .consume ⟨true, -1, 0, .wouldBlock, some blankEvent⟩ []]
    state.sentSeqs = [2, 3] ∧ known state.consumer = [] ∧ state.incoming = [] ∧
      state.outstanding.map (·.seqs) = [] := by
  decide +kernel

def twoMoves : List (Motion Unit Unit) :=
  [⟨1, 0, 1, 2, actionMove, 0, [⟨⟨0, 1⟩, ()⟩], ()⟩, ⟨2, 0, 1, 2, actionMove, 0, [⟨⟨0, 1⟩, ()⟩], ()⟩]

theorem discarded_signals_kept_iff_twoMoves : ∃ consumed, handle noCoordinates (some blankEvent)
        { create false with mBatches := [twoMoves] } ⟨[.wouldBlock], []⟩
        (.motion (cancelMessage 3)) = .leave consumed ∧
      ((∀ sample ∈ twoMoves, sample.seq ∈ consumed.outbox.sentSeqs ∨
          sample.seq ∈ known consumed.consumer) ↔
        ∀ status ∈ [Status.wouldBlock].take twoMoves.length, status = .ok) := by
  have split : [twoMoves] = [] ++ twoMoves :: [] := rfl
  exact discarded_signals_kept_iff noCoordinates (some blankEvent) (by decide) split (by decide)
    (by decide) (by decide) (by decide)

/-! ## Events that the factory does not make -/

lemma consumeBatch_none (arith : CoordArithmetic Coords) (timed : 0 ≤ frameTime) (i : Nat) :
    ∃ stat,
      consumeBatch arith none frameTime consumer outbox i = noEvent stat consumer outbox := by
  induction i with
  | zero => exact ⟨_, rfl⟩
  | succ i ih =>
    simp only [consumeBatch, if_neg (Int.not_lt.2 timed)]
    generalize samplesNoLaterThan _ _ = count
    split
    · exact ih
    · exact ⟨_, rfl⟩

end InputConsumer

namespace Transport

/-- A call for which the factory fails finds no message, and is given a frame time. -/
def FailsIdle (state : Transport Coords Other) : Label Coords Other → Prop
  | .consume call _ => call.factory = none ∧ state.consumer.deferred = none ∧
      state.incoming.take call.available = [] ∧ 0 ≤ call.frameTime
  | _ => False

lemma step_failsIdle (arith : CoordArithmetic Coords) {st : Transport Coords Other}
    (idle : st.FailsIdle label) : st.step arith label = st := by
  cases label with
  | consume call sends =>
    rcases idle with ⟨factory, prompt, empty, timed⟩
    have kept := take_append_drop call.available st.incoming
    rw [empty, nil_append] at kept
    have nothing : ∃ stat, noMessage arith call st.consumer ⟨sends, st.sent⟩ =
        noEvent stat st.consumer ⟨sends, st.sent⟩ := by
      unfold noMessage
      split
      · rw [factory]
        exact consumeBatch_none arith timed _
      · exact ⟨_, rfl⟩
    rcases nothing with ⟨stat, nothing⟩
    simp [step, consume, prompt, empty, consumeLoop, nothing, afterConsume, received, noEvent,
      kept]
  | _ => cases idle

end Transport

/-- In every run whose calls either have a factory that makes events and a channel that takes
signals, or find no message, each published number is waiting, or belongs to an event that is
not finished, or was sent. -/
theorem received_not_forgotten (arith : CoordArithmetic Coords) (resampleTouch : Bool)
    (labels : List (Transport.Label Coords Other))
    (along : Machine.Along (step arith)
      (fun state label => state.Permitted label ∨ state.FailsIdle label) (start resampleTouch)
      labels) :
    let state := run (step arith) (start resampleTouch) labels
    ∀ seq ∈ state.publishedSeqs, seq ∈ state.waitingSeqs ∨
      (∃ delivered ∈ state.outstanding, seq ∈ delivered.seqs) ∨ seq ∈ state.sentSeqs := by
  intro state seq sent
  have accounted : Accounted state := by
    refine run_invariant ?_ (Accounted.start resampleTouch) along
    rintro state label accounted (permitted | idle)
    · exact accounted_step arith state label accounted permitted
    · rw [step_failsIdle arith idle]
      exact accounted
  exact accounted.whereabouts sent

/-- A key message that the consumer has read when the factory fails. -/
theorem received_forgotten :
    let state := run (step noCoordinates) (start false)
      [.publish (.key 1 ()), .consume ⟨true, -1, 1, .wouldBlock, none⟩ [],
        .consume ⟨true, -1, 0, .wouldBlock, some blankEvent⟩ []]
    state.publishedSeqs = [1] ∧ state.waitingSeqs = [] ∧ state.events.map (·.seqs) = [] ∧
      state.sentSeqs = [] := by
  decide +kernel

/-- The batch is kept over a call whose factory fails. -/
theorem received_not_forgotten_batch :
    let state := run (step noCoordinates) (start false)
      [.publish (moveMessage 1), .consume ⟨false, 0, 1, .wouldBlock, some blankEvent⟩ [],
        .consume ⟨true, 0, 0, .wouldBlock, none⟩ []]
    1 ∈ state.publishedSeqs ∧ (1 ∈ state.waitingSeqs ∨
      (∃ delivered ∈ state.outstanding, 1 ∈ delivered.seqs) ∨ 1 ∈ state.sentSeqs) := by
  refine ⟨by decide +kernel, ?_⟩
  apply received_not_forgotten noCoordinates false _ ?_ 1 (by decide +kernel)
  exact ⟨.inl (by decide), .inl (by decide +kernel),
    Or.inr ⟨rfl, by decide +kernel, rfl, Int.le_refl 0⟩, trivial⟩

end NativeLibs.Input
