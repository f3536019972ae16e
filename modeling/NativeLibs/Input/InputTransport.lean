import NativeLibs.Input.InputConsumer
import NativeLibs.Foundation.Machine

/-! # Turns of the consumer

What `consume` can do with a message or without one, as long as the event factory does not fail.
The batches of a consumer have distinct streams and uniform samples. -/

namespace NativeLibs.Input

open List InputConsumer

variable {Coords Other : Type}

def Motion.stream (msg : Motion Coords Other) : Int × BitVec 32 := (msg.deviceId, msg.source)

lemma updateTouchState_seq (arith : CoordArithmetic Coords) (resample : Bool)
    (states : List (TouchState Coords)) (msg : Motion Coords Other) :
    (updateTouchState arith resample states msg).2.seq = msg.seq := by
  unfold updateTouchState
  split
  · rfl
  dsimp only
  split
  · split <;> rfl
  split
  · rfl
  repeat' split
  all_goals rfl

namespace InputConsumer

variable {con : InputConsumer Coords Other}

/-! ## Samples -/

lemma chainSamples_frame (arith : CoordArithmetic Coords) (con : InputConsumer Coords Other)
    (event : MotionEvent Coords Other) (chain : UInt32) (samples : List (Motion Coords Other)) :
    (chainSamples arith con event chain samples).1 = { con with
        mTouchStates := (chainSamples arith con event chain samples).1.mTouchStates
        mSeqChains := con.mSeqChains ++ links (chain :: samples.map (·.seq)) } ∧
      (chainSamples arith con event chain samples).2.2 =
        (samples.map (·.seq)).getLastD chain := by
  induction samples generalizing con event chain with
  | nil => simp [chainSamples, links]
  | cons msg rest ih =>
    simp only [chainSamples, updateTouchState_seq]
    constructor
    · rw [(ih _ _ _).1]
      simp [links]
    · rw [(ih _ _ _).2, map_cons, getLastD_cons]

lemma consumeSamples_frame (arith : CoordArithmetic Coords)
    (con : InputConsumer Coords Other) (event : MotionEvent Coords Other) (ne : samples ≠ []) :
    (consumeSamples arith con event samples).1 = { con with
        mTouchStates := (consumeSamples arith con event samples).1.mTouchStates
        mSeqChains := con.mSeqChains ++ links (samples.map (·.seq)) } ∧
      (samples.map (·.seq)).getLast? = some (consumeSamples arith con event samples).2.2 := by
  cases samples with
  | nil => exact absurd rfl ne
  | cons msg rest =>
    simp only [consumeSamples, updateTouchState_seq]
    constructor
    · rw [(chainSamples_frame _ _ _ _ _).1, map_cons]
    · rw [(chainSamples_frame _ _ _ _ _).2, map_cons, getLast?_cons, getLastD_eq_getLast?]

/-! ## Batches -/

structure SameKind (first msg : Motion Coords Other) : Prop where
  stream : first.stream = msg.stream
  action : first.action = msg.action
  properties : first.pointers.map (·.properties) = msg.pointers.map (·.properties)

structure WellBatched (batches : List (List (Motion Coords Other))) : Prop where
  nonempty : ∀ batch ∈ batches, batch ≠ []
  uniform : ∀ batch ∈ batches, ∀ first ∈ batch, ∀ msg ∈ batch, SameKind first msg
  distinct : (batches.map fun batch => batch.head?.map Motion.stream).Nodup

lemma findBatch_some (found : con.findBatch deviceId src = some i) :
    ∃ pre batch after head, con.mBatches = pre ++ batch :: after ∧
      i = pre.length ∧ batch.head? = some head ∧ head.stream = (deviceId, src) := by
  unfold findBatch at found
  obtain ⟨mem, matching, _⟩ := findIdx?_eq_some_iff_getElem.mp found
  obtain ⟨head, isHead, eqStrm⟩ : ∃ head, (con.mBatches[i]).head? = some head ∧
      head.deviceId = deviceId ∧ head.source = src := by
    cases isHead : (con.mBatches[i]).head? with
    | none => simp [isHead] at matching
    | some head => exact ⟨head, rfl, by simpa [isHead] using matching⟩
  refine ⟨con.mBatches.take i, con.mBatches[i],
    con.mBatches.drop (i + 1), head, ?_, ?_, isHead, Prod.ext eqStrm.1 eqStrm.2⟩
  · simp
  · rw [length_take, Nat.min_eq_left (Nat.le_of_lt mem)]

lemma batch_at {after : List (List (Motion Coords Other))}
    (split : bats = pre ++ batch :: after) :
    bats.getD pre.length [] = batch ∧ bats.eraseIdx pre.length = pre ++ after ∧
      ∀ samples, bats.set pre.length samples = pre ++ samples :: after := by
  subst split
  refine ⟨by simp, ?_, by simp⟩
  rw [eraseIdx_append_of_length_le (Nat.le_refl _)]
  simp

lemma findBatch_none (miss : con.findBatch deviceId src = none) :
    some (deviceId, src) ∉ con.mBatches.map fun batch => batch.head?.map Motion.stream := by
  unfold findBatch at miss
  rw [findIdx?_eq_none_iff] at miss
  intro mem
  obtain ⟨batch, batchMember, eqStrm⟩ := mem_map.mp mem
  obtain ⟨head, isHead, streams⟩ := Option.map_eq_some_iff.mp eqStrm
  have ne := miss batch batchMember
  rw [isHead] at ne
  simp only [Option.any_some, decide_eq_false_iff_not] at ne
  exact ne ⟨congrArg Prod.fst streams, congrArg Prod.snd streams⟩

lemma sameKind_of_canAddSample {head : Motion Coords Other} (isHead : batch.head? = some head)
    (eqStrm : head.stream = msg.stream) (canAdd : canAddSample batch msg = true) :
    SameKind head msg := by
  unfold canAddSample at canAdd
  rw [isHead] at canAdd
  simp only [Option.any_some, decide_eq_true_eq] at canAdd
  exact ⟨eqStrm, canAdd.2.1, canAdd.2.2⟩

lemma discard_frame (box : Outbox) (con : InputConsumer Coords Other)
    (samples : List (Motion Coords Other)) : (discard box con samples).1 =
      { con with mSeqChains := (discard box con samples).1.mSeqChains } := by
  induction samples generalizing box con with
  | nil => rfl
  | cons msg rest ih =>
    have frame := con.sendFinishedSignal_frame box msg.seq false
    unfold discard
    generalize con.sendFinishedSignal box msg.seq false = res at frame
    obtain ⟨stat, next, outbox⟩ := res
    simp only at frame ⊢
    rw [ih outbox next, frame]

/-! ## What a message can lead to -/

def deliver (arith : CoordArithmetic Coords) (blank : MotionEvent Coords Other)
    (consumer : InputConsumer Coords Other) (outbox : Outbox) (msg : Motion Coords Other) :
    Consumed Coords Other :=
  let updated := updateTouchState arith consumer.mResampleTouch consumer.mTouchStates msg
  ⟨.ok, msg.seq, some (.motion (initializeMotionEvent blank updated.2)), [.motion msg],
    { consumer with mTouchStates := updated.1 }, outbox⟩

/-- What handling a message can lead to, if the factory makes an event. -/
inductive Handled (arith : CoordArithmetic Coords) (blank : MotionEvent Coords Other)
    (consumer : InputConsumer Coords Other) (outbox : Outbox) :
    InputMessage Coords Other → Iteration Coords Other → Prop
  | other {msg : InputMessage Coords Other} {event : InputEvent Coords Other}
      (noMotion : ∀ body, msg ≠ .motion body) (noMotionEvent : ∀ body, event ≠ .motion body) :
      Handled arith blank consumer outbox msg
        (.leave ⟨.ok, msg.seq, some event, [msg], consumer, outbox⟩)
  | started {msg : Motion Coords Other}
      (absent : consumer.findBatch msg.deviceId msg.source = none) :
      Handled arith blank consumer outbox (.motion msg)
        (.goOn { consumer with mBatches := consumer.mBatches ++ [[msg]] } outbox)
  | single {msg : Motion Coords Other}
      (absent : consumer.findBatch msg.deviceId msg.source = none) :
      Handled arith blank consumer outbox (.motion msg)
        (.leave (deliver arith blank consumer outbox msg))
  | appended {msg head : Motion Coords Other} {before after : List (List (Motion Coords Other))}
      {batch : List (Motion Coords Other)} (split : consumer.mBatches = before ++ batch :: after)
      (isHead : batch.head? = some head) (sameKind : SameKind head msg) :
      Handled arith blank consumer outbox (.motion msg)
        (.goOn { consumer with mBatches := before ++ (batch ++ [msg]) :: after } outbox)
  | cancelled {msg head : Motion Coords Other} {before after : List (List (Motion Coords Other))}
      {batch : List (Motion Coords Other)} (split : consumer.mBatches = before ++ batch :: after)
      (isHead : batch.head? = some head) (sameStream : head.stream = msg.stream)
      (pointer : isPointerEvent msg.source = true) (isCancel : msg.action = actionCancel) :
      Handled arith blank consumer outbox (.motion msg) (.leave (deliver arith blank
          { (discard outbox consumer batch).1 with mBatches := before ++ after }
          (discard outbox consumer batch).2 msg))
  | deferred {msg head : Motion Coords Other} {before after : List (List (Motion Coords Other))}
      {batch : List (Motion Coords Other)} (split : consumer.mBatches = before ++ batch :: after)
      (isHead : batch.head? = some head) (sameStream : head.stream = msg.stream) :
      Handled arith blank consumer outbox (.motion msg)
        (.leave ⟨.ok, (consumeSamples arith consumer blank batch).2.2,
          some (.motion (consumeSamples arith consumer blank batch).2.1), batch.map .motion,
          { (consumeSamples arith consumer blank batch).1 with
            deferred := some (.motion msg)
            mBatches := before ++ after }, outbox⟩)

section

variable (arith : CoordArithmetic Coords)
include arith

lemma startMotion_event (blank : MotionEvent Coords Other) (con : InputConsumer Coords Other)
    (box : Outbox) (noMove : ¬(msg.action = actionMove ∨ msg.action = actionHoverMove)) :
    startMotion arith (some blank) con box msg = .leave (deliver arith blank con box msg) := by
  have sameSeq := updateTouchState_seq arith con.mResampleTouch con.mTouchStates msg
  unfold startMotion deliver
  rw [if_neg noMove]
  simp only [sameSeq]

lemma handleMotion_next (blank : MotionEvent Coords Other) (con : InputConsumer Coords Other)
    (box : Outbox) (msg : Motion Coords Other) : Handled arith blank con box (.motion msg)
      (handleMotion arith (some blank) con box msg) := by
  unfold handleMotion
  split
  · rename_i miss
    by_cases isMove : msg.action = actionMove ∨ msg.action = actionHoverMove
    · rw [startMotion, if_pos isMove]
      exact .started miss
    · rw [startMotion_event arith blank con box isMove]
      exact .single miss
  · rename_i i found
    obtain ⟨pre, batch, after, head, split, rfl, isHead, eqStrm⟩ := findBatch_some found
    rcases batch_at split with ⟨isBatch, gone, repl⟩
    simp only [isBatch]
    by_cases canAdd : canAddSample batch msg
    · rw [if_pos canAdd, repl]
      exact .appended split isHead (sameKind_of_canAddSample isHead eqStrm canAdd)
    · rw [if_neg canAdd]
      by_cases isCancel : isPointerEvent msg.source ∧ msg.action = actionCancel
      · have noMove : ¬(msg.action = actionMove ∨ msg.action = actionHoverMove) := by
          rw [isCancel.2]
          decide
        have sameBatches : (discard box con batch).1.mBatches = con.mBatches := by
          rw [discard_frame]
        rw [if_pos isCancel, startMotion_event arith blank _ _ noMove, sameBatches, gone]
        exact .cancelled split isHead eqStrm isCancel.1 isCancel.2
      · rw [if_neg isCancel, gone]
        exact .deferred split isHead eqStrm

lemma handle_next (blank : MotionEvent Coords Other) (con : InputConsumer Coords Other)
    (box : Outbox) (msg : InputMessage Coords Other) :
    Handled arith blank con box msg (handle arith (some blank) con box msg) := by
  cases msg with
  | key seq body => exact .other nofun nofun
  | motion body => exact handleMotion_next arith blank con box body
  | focus seq hasFocus inTouchMode => exact .other nofun nofun

/-! ## What the end of the messages can lead to -/

def remaining (later : List (Motion Coords Other)) : List (List (Motion Coords Other)) :=
  if later.isEmpty then [] else [later]

/-- What `consume` can do without a message, if the factory makes an event. -/
inductive Idled (arith : CoordArithmetic Coords) (blank : MotionEvent Coords Other)
    (consumer : InputConsumer Coords Other) (outbox : Outbox) : Consumed Coords Other → Prop
  | nothing (status : Status) : Idled arith blank consumer outbox (noEvent status consumer outbox)
  | taken {before after : List (List (Motion Coords Other))}
      {samples later : List (Motion Coords Other)} {event : MotionEvent Coords Other}
      (states : List (TouchState Coords))
      (split : consumer.mBatches = before ++ (samples ++ later) :: after)
      (nonempty : samples ≠ [])
      (unsampled : consumer.mResampleTouch = false →
        event = (consumeSamples arith consumer blank samples).2.1) :
      Idled arith blank consumer outbox
        ⟨.ok, (consumeSamples arith consumer blank samples).2.2, some (.motion event),
          samples.map .motion,
          { (consumeSamples arith consumer blank samples).1 with
            mBatches := before ++ (remaining later ++ after)
            mTouchStates := states }, outbox⟩

lemma consumeBatch_next (blank : MotionEvent Coords Other) (frameTime : Int) (box : Outbox)
    (ne : ∀ batch ∈ con.mBatches, batch ≠ []) (bound : i ≤ con.mBatches.length) :
    Idled arith blank con box (consumeBatch arith (some blank) frameTime con box i) := by
  induction i with
  | zero => exact .nothing .wouldBlock
  | succ i ih =>
    have mem : i < con.mBatches.length := bound
    obtain ⟨pre, batch, after, split, rfl⟩ : ∃ pre batch after,
        con.mBatches = pre ++ batch :: after ∧ i = pre.length :=
      ⟨con.mBatches.take i, con.mBatches[i], con.mBatches.drop (i + 1),
        by simp, by rw [length_take, Nat.min_eq_left (Nat.le_of_lt mem)]⟩
    rcases batch_at split with ⟨isBatch, gone, repl⟩
    have batchNonempty : batch ≠ [] := ne batch (by simp [split])
    unfold consumeBatch
    simp only [isBatch]
    by_cases all : frameTime < 0
    · have whole : con.mBatches = pre ++ (batch ++ []) :: after := by simpa using split
      rw [if_pos all, gone]
      exact .taken (consumeSamples arith con blank batch).1.mTouchStates whole batchNonempty
        (fun _ => rfl)
    · rw [if_neg all]
      generalize (if con.mResampleTouch then frameTime - resampleLatency else frameTime) =
        sampleTime
      generalize samplesNoLaterThan batch sampleTime = count
      by_cases none : count = 0
      · rw [if_pos none]
        exact ih (Nat.le_of_lt mem)
      · have parts : con.mBatches =
            pre ++ (batch.take count ++ batch.drop count) :: after := by
          rw [take_append_drop]
          exact split
        have taken : batch.take count ≠ [] := by simp [none, batchNonempty]
        have frame := (consumeSamples_frame arith con blank taken).1
        have sameBatches := congrArg mBatches frame
        have sameResample := congrArg mResampleTouch frame
        have bats : (if (batch.drop count).isEmpty then con.mBatches.eraseIdx pre.length
            else con.mBatches.set pre.length (batch.drop count)) =
            pre ++ (remaining (batch.drop count) ++ after) := by
          rw [gone, repl, remaining]
          split <;> rfl
        rw [if_neg none]
        simp only [sameBatches, bats]
        refine .taken _ parts taken ?_
        intro off
        simp [resampleTouchState, sameResample, off]

lemma noMessage_next (fac : call.factory = some blank) (box : Outbox)
    (ne : ∀ batch ∈ con.mBatches, batch ≠ []) :
    Idled arith blank con box (noMessage arith call con box) := by
  unfold noMessage
  split
  · rw [fac]
    exact consumeBatch_next arith blank call.frameTime box ne (Nat.le_refl _)
  · exact .nothing call.failure

end

/-! ## Rules for the loop -/

section Loop

variable (inLoop : InputConsumer Coords Other → Outbox → List (InputMessage Coords Other) → Prop)
  (after : Consumed Coords Other → List (InputMessage Coords Other) → Prop)

lemma consumeLoop_rule (fac : call.factory = some blank) (ne : ∀ con box msgs, inLoop con box msgs →
      ∀ batch ∈ con.mBatches, batch ≠ [])
    (goesOn : ∀ con box msg rest next outbox, inLoop con box (msg :: rest) →
      Handled arith blank con box msg (.goOn next outbox) → inLoop next outbox rest)
    (leaves : ∀ con box msg rest used, inLoop con box (msg :: rest) →
      Handled arith blank con box msg (.leave used) → after used rest)
    (ends : ∀ con box used, inLoop con box [] → Idled arith blank con box used → after used [])
    (init : inLoop con box msgs) : after (consumeLoop arith call con box msgs).1
      (consumeLoop arith call con box msgs).2 := by
  induction msgs generalizing con box with
  | nil =>
    apply ends con box _ init
    exact noMessage_next arith fac box (ne _ _ _ init)
  | cons msg rest ih =>
    have took := handle_next arith blank con box msg
    unfold consumeLoop
    rw [fac]
    cases turn : handle arith (some blank) con box msg with
    | goOn next outbox =>
      rw [turn] at took
      exact ih (goesOn _ _ _ _ _ _ init took)
    | leave used =>
      rw [turn] at took
      exact leaves _ _ _ _ _ init took

end Loop

lemma consume_eq (arith : CoordArithmetic Coords) (call : ConsumeCall Coords Other)
    (con : InputConsumer Coords Other) (box : Outbox) (inc : List (InputMessage Coords Other)) :
    consume arith call con box inc = consumeLoop arith call { con with deferred := none } box
        (con.deferred.toList ++ inc) := by
  obtain ⟨resample, later, bats, states, chains⟩ := con
  cases later <;> rfl

/-! ## The batches stay well formed -/

namespace WellBatched

variable {pre after : List (List (Motion Coords Other))} {batch : List (Motion Coords Other)}
  {head msg : Motion Coords Other}

lemma sublist (well : WellBatched bats) (part : fewer.Sublist bats) :
    WellBatched fewer where
  nonempty := fun batch mem => well.nonempty batch (part.subset mem)
  uniform := fun batch mem => well.uniform batch (part.subset mem)
  distinct := well.distinct.sublist (part.map _)

section

variable (well : WellBatched (pre ++ batch :: after))
include well

lemma remove : WellBatched (pre ++ after) :=
  well.sublist ((List.Sublist.refl pre).append (sublist_cons_self batch after))

lemma replace (eqStrm : samples.head?.map Motion.stream = batch.head?.map Motion.stream)
    (uniform : ∀ first ∈ samples, ∀ msg ∈ samples, SameKind first msg) :
    WellBatched (pre ++ samples :: after) where
  nonempty := by
    intro other mem
    rw [mem_append, mem_cons] at mem
    rcases mem with inBefore | rfl | inAfter
    · exact well.nonempty other (by simp [inBefore])
    · intro empty
      have batchNonempty := well.nonempty batch (by simp)
      cases batch with
      | nil => exact batchNonempty rfl
      | cons head rest => simp [empty] at eqStrm
    · exact well.nonempty other (by simp [inAfter])
  uniform := by
    intro other mem
    rw [mem_append, mem_cons] at mem
    rcases mem with inBefore | rfl | inAfter
    · exact well.uniform other (by simp [inBefore])
    · exact uniform
    · exact well.uniform other (by simp [inAfter])
  distinct := by
    have nodup := well.distinct
    rw [map_append, map_cons] at nodup ⊢
    rw [eqStrm]
    exact nodup

lemma append (isHead : batch.head? = some head) (sameKind : SameKind head msg) :
    WellBatched (pre ++ (batch ++ [msg]) :: after) := by
  obtain ⟨rest, rfl⟩ := head?_eq_some_iff.mp isHead
  have uniform := well.uniform (head :: rest) (by simp)
  have likeHead : ∀ sample ∈ (head :: rest) ++ [msg], SameKind head sample := by
    exact forall_mem_append.2 ⟨fun sample inBatch => uniform head (by simp) sample inBatch,
      forall_mem_singleton.2 sameKind⟩
  apply well.replace
  · rfl
  · intro first firstMember sample sampleMember
    have firstKind := likeHead first firstMember
    have sampleKind := likeHead sample sampleMember
    exact ⟨firstKind.stream.symm.trans sampleKind.stream,
      firstKind.action.symm.trans sampleKind.action,
      firstKind.properties.symm.trans sampleKind.properties⟩

end

lemma start (well : WellBatched bats)
    (miss : some msg.stream ∉ bats.map fun batch => batch.head?.map Motion.stream) :
    WellBatched (bats ++ [[msg]]) where
  nonempty := by
    intro batch mem
    rcases mem_append.mp mem with old | new
    · exact well.nonempty batch old
    · simp_all
  uniform := by
    intro batch mem
    rcases mem_append.mp mem with old | new
    · exact well.uniform batch old
    · intro first firstMember sample sampleMember
      rw [mem_singleton.mp new, mem_singleton] at firstMember sampleMember
      rw [firstMember, sampleMember]
      exact ⟨rfl, rfl, rfl⟩
  distinct := by
    rw [map_append, nodup_append]
    refine ⟨well.distinct, nodup_singleton _, ?_⟩
    intro stream mem other isNew same
    rw [map_singleton, mem_singleton] at isNew
    subst isNew same
    exact miss mem

lemma take (well : WellBatched (pre ++ (samples ++ later) :: after)) (ne : samples ≠ []) :
    WellBatched (pre ++ (remaining later ++ after)) := by
  cases later with
  | nil => exact well.remove
  | cons next rest =>
    obtain ⟨first, others, rfl⟩ := exists_cons_of_ne_nil ne
    have uniform := well.uniform (first :: others ++ next :: rest) (by simp)
    apply well.replace
    · have sameKind := uniform first (by simp) next (by simp)
      simp [sameKind.stream]
    · intro sample sampleMember other also
      exact uniform sample (by simp at sampleMember ⊢; tauto) other
        (by simp at also ⊢; tauto)

end WellBatched

lemma Handled.wellBatched_goOn {next : InputConsumer Coords Other} {msg : InputMessage Coords Other}
    (took : Handled arith blank con box msg (.goOn next outbox))
    (well : WellBatched con.mBatches) : WellBatched next.mBatches := by
  cases took with
  | started miss => exact well.start (findBatch_none miss)
  | appended split head sameKind =>
    rw [split] at well
    exact well.append head sameKind

end InputConsumer

/-! ## Runs of an input channel

A publisher sends messages, a consumer makes events of them, and a client finishes the events.
What was published, delivered and sent is recorded. -/

structure Delivered (Coords Other : Type) where
  outSeq : UInt32
  event : InputEvent Coords Other
  messages : List (InputMessage Coords Other)

def Delivered.seqs (delivered : Delivered Coords Other) : List UInt32 :=
  delivered.messages.map (·.seq)

structure Transport (Coords Other : Type) where
  consumer : InputConsumer Coords Other
  incoming : List (InputMessage Coords Other)
  sent : List Finished
  published : List (InputMessage Coords Other)
  events : List (Delivered Coords Other)
  /-- The events for which no finished signal has succeeded yet. -/
  outstanding : List (Delivered Coords Other)

namespace Transport

variable (state : Transport Coords Other)

/-- Steps of the publisher and of the client. The results of the sends that a step makes are
part of it. -/
inductive Label (Coords Other : Type) where
  | publish (msg : InputMessage Coords Other)
  | consume (call : InputConsumer.ConsumeCall Coords Other) (sends : List Status)
  | finish (seq : UInt32) (handled : Bool) (sends : List Status)

def start (resampleTouch : Bool) : Transport Coords Other :=
  ⟨create resampleTouch, [], [], [], [], []⟩

variable (consumed : InputConsumer.Consumed Coords Other)

def received : List (Delivered Coords Other) :=
  match consumed.outEvent with
  | none => []
  | some event => [⟨consumed.outSeq, event, consumed.messages⟩]

def afterConsume (incoming : List (InputMessage Coords Other)) : Transport Coords Other :=
  { state with
    consumer := consumed.consumer
    incoming := incoming
    sent := consumed.outbox.sent
    events := state.events ++ received consumed
    outstanding := state.outstanding ++ received consumed }

def step (arith : CoordArithmetic Coords) (state : Transport Coords Other) :
    Label Coords Other → Transport Coords Other
  | .publish msg =>
    { state with
      incoming := state.incoming ++ [msg]
      published := state.published ++ [msg] }
  | .consume call sends =>
    let (consumed, rest) := state.consumer.consume arith call ⟨sends, state.sent⟩
      (state.incoming.take call.available)
    state.afterConsume consumed (rest ++ state.incoming.drop call.available)
  | .finish seq handled sends =>
    let (status, consumer, outbox) :=
      state.consumer.sendFinishedSignal ⟨sends, state.sent⟩ seq handled
    { state with
      consumer := consumer
      sent := outbox.sent
      outstanding :=
        if status = .ok then state.outstanding.eraseP (·.outSeq = seq) else state.outstanding }

def sentSeqs : List UInt32 := state.sent.map (·.seq)

def publishedSeqs : List UInt32 := state.published.map (·.seq)

variable (consumer : InputConsumer Coords Other)

def held : List (InputMessage Coords Other) :=
  consumer.mBatches.flatten.map .motion ++ consumer.deferred.toList

def waitingSeqs : List UInt32 :=
  (held state.consumer ++ state.incoming).map (·.seq)

lemma map_seq_motion (samples : List (Motion Coords Other)) :
    (samples.map InputMessage.motion).map (·.seq) = samples.map (·.seq) := by
  rw [List.map_map]
  rfl

lemma held_seqs (inc : List (InputMessage Coords Other)) :
    (held consumer ++ inc).map (·.seq) = consumer.mBatches.flatten.map (·.seq) ++
      (consumer.deferred.toList ++ inc).map (·.seq) := by
  rw [held, List.append_assoc, List.map_append, map_seq_motion]

/-- What holds of every call of `consume` whose factory makes an event, and of what it leaves,
if it holds in the loop and when the loop is left. -/
lemma consume_rule {arith : CoordArithmetic Coords} {call : InputConsumer.ConsumeCall Coords Other}
    {blank : MotionEvent Coords Other} {state : Transport Coords Other} {sends : List Status}
    (inLoop : InputConsumer Coords Other → Outbox → List (InputMessage Coords Other) → Prop)
    (inv : Transport Coords Other → Prop) (fac : call.factory = some blank)
    (ne : ∀ consumer box msgs, inLoop consumer box msgs → ∀ batch ∈ consumer.mBatches, batch ≠ [])
    (init : inLoop { state.consumer with deferred := none } ⟨sends, state.sent⟩
      (state.consumer.deferred.toList ++ state.incoming))
    (goesOn : ∀ consumer box msg rest next outbox, inLoop consumer box (msg :: rest) →
      InputConsumer.Handled arith blank consumer box msg (.goOn next outbox) → inLoop next outbox rest)
    (leaves : ∀ consumer box msg rest consumed, inLoop consumer box (msg :: rest) →
      InputConsumer.Handled arith blank consumer box msg (.leave consumed) →
      inv (state.afterConsume consumed rest))
    (ends : ∀ consumer box msgs consumed, inLoop consumer box msgs →
      InputConsumer.Idled arith blank consumer box consumed →
      inv (state.afterConsume consumed msgs)) :
    inv (state.step arith (.consume call sends)) := by
  -- In the loop the messages that the channel does not yield come behind the others.
  let unyielded := state.incoming.drop call.available
  have looped : inv (state.afterConsume
        (consumeLoop arith call { state.consumer with deferred := none }
          ⟨sends, state.sent⟩
          (state.consumer.deferred.toList ++ state.incoming.take call.available)).1
        ((consumeLoop arith call { state.consumer with deferred := none }
          ⟨sends, state.sent⟩
          (state.consumer.deferred.toList ++ state.incoming.take call.available)).2 ++
            unyielded)) := by
    apply consumeLoop_rule
      (fun consumer box msgs => inLoop consumer box (msgs ++ unyielded))
      (fun consumed rest => inv (state.afterConsume consumed (rest ++ unyielded)))
      fac
    · intro consumer box msgs holds
      exact ne consumer box _ holds
    · intro consumer box msg rest next outbox holds took
      exact goesOn _ _ _ _ _ _ holds took
    · intro consumer box msg rest consumed holds took
      exact leaves _ _ _ _ _ holds took
    · intro consumer box consumed holds idled
      exact ends _ _ _ _ holds idled
    · rw [List.append_assoc, List.take_append_drop]
      exact init
  rw [← consume_eq] at looped
  exact looped

end Transport

end NativeLibs.Input
