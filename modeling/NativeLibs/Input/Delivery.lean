import NativeLibs.Foundation.Superseded
import NativeLibs.Input.InputTransport

/-! # Delivery

Without resampling, the samples of the delivered events are those of the published messages, in
order for each device and source, without the batched ones and those that a cancel discards. -/

namespace NativeLibs.Input

open Transport InputConsumer Superseded List Motion

variable {Coords Other : Type} {msg : Motion Coords Other}

/-! ## Samples -/

/-- A sample of a motion event, with what the event says of all its samples. These fields of a
message are its content; sequence number, flags and the like are not. -/
structure Sample (Coords : Type) where
  deviceId : Int
  source : BitVec 32
  action : BitVec 32
  properties : List PointerProperties
  eventTime : Int
  coords : List Coords

def Sample.stream (sample : Sample Coords) : Int × BitVec 32 := (sample.deviceId, sample.source)

def Sample.CancelsPointer (sample : Sample Coords) : Prop :=
  isPointerEvent sample.source = true ∧ sample.action = actionCancel

def Motion.sample (msg : Motion Coords Other) : Sample Coords where
  deviceId := msg.deviceId
  source := msg.source
  action := msg.action
  properties := msg.pointers.map (·.properties)
  eventTime := msg.eventTime
  coords := msg.pointers.map (·.coords)

def InputMessage.samples : InputMessage Coords Other → List (Sample Coords)
  | .motion body => [body.sample]
  | _ => []

def MotionEvent.reports (event : MotionEvent Coords Other) : List (Sample Coords) :=
  event.samples.map fun (eventTime, coords) =>
    ⟨event.deviceId, event.source, event.action, event.properties, eventTime, coords⟩

def Delivered.samples (delivered : Delivered Coords Other) : List (Sample Coords) :=
  match delivered.event with
  | .motion event => event.reports
  | _ => []

variable (stream : Int × BitVec 32)

def ofStream (samples : List (Sample Coords)) : List (Sample Coords) :=
  samples.filter (·.stream = stream)

lemma ofStream_append (samples rest : List (Sample Coords)) :
    ofStream stream (samples ++ rest) = ofStream stream samples ++ ofStream stream rest :=
  filter_append ..

variable {stream : Int × BitVec 32}

lemma ofStream_self {samples : List (Sample Coords)}
    (all : ∀ sample ∈ samples, sample.stream = stream) : ofStream stream samples = samples := by
  apply filter_eq_self.mpr
  intro sample mem
  exact decide_eq_true (all sample mem)

lemma ofStream_none {samples : List (Sample Coords)}
    (none : ∀ sample ∈ samples, sample.stream ≠ stream) : ofStream stream samples = [] := by
  apply filter_eq_nil_iff.mpr
  intro sample mem isStream
  exact none sample mem (of_decide_eq_true isStream)

lemma ofStream_own (msg : Motion Coords Other) :
    ofStream msg.stream [msg.sample] = [msg.sample] := by
  apply ofStream_self
  intro sample mem
  rw [mem_singleton.mp mem]
  rfl

lemma ofStream_foreign (ne : stream ≠ msg.stream) : ofStream stream [msg.sample] = [] := by
  apply ofStream_none
  intro sample mem
  rw [mem_singleton.mp mem]
  exact .symm ne

/-! ## The samples of an event -/

lemma reports_addSample {head : Motion Coords Other} (sameKind : InputConsumer.SameKind head msg)
    (deviceId : event.deviceId = head.deviceId) (src : event.source = head.source)
    (action : event.action = head.action)
    (properties : event.properties = head.pointers.map (·.properties)) :
    (addSample event msg).reports = event.reports ++ [msg.sample] := by
  have sameDevice : head.deviceId = msg.deviceId := congrArg Prod.fst sameKind.stream
  have sameSource : head.source = msg.source := congrArg Prod.snd sameKind.stream
  simp [MotionEvent.reports, addSample, sample, deviceId, src, action, properties,
    sameDevice, sameSource, sameKind.action, sameKind.properties]

namespace InputConsumer

variable {con : InputConsumer Coords Other} {head : Motion Coords Other}
  (arith : CoordArithmetic Coords)

lemma chainSamples_reports (uniform : ∀ msg ∈ samples, SameKind head msg)
    (off : con.mResampleTouch = false) (chain : UInt32)
    (deviceId : event.deviceId = head.deviceId) (src : event.source = head.source)
    (action : event.action = head.action)
    (properties : event.properties = head.pointers.map (·.properties)) :
    (chainSamples arith con event chain samples).2.1.reports =
      event.reports ++ samples.map sample := by
  induction samples generalizing con event chain with
  | nil => simp [chainSamples]
  | cons msg rest ih =>
    have added := reports_addSample (uniform msg (mem_cons_self ..)) deviceId src action
      properties
    have same : updateTouchState arith con.mResampleTouch con.mTouchStates msg =
        (con.mTouchStates, msg) := by
      simp [updateTouchState, off]
    unfold chainSamples
    rw [same]
    dsimp only
    rw [ih (fun other mem => uniform other (mem_cons_of_mem _ mem)) (by exact off) _
      (by exact deviceId) (by exact src) (by exact action) (by exact properties), added]
    simp

lemma consumeSamples_reports (blank : MotionEvent Coords Other) (ne : samples ≠ [])
    (uniform : ∀ first ∈ samples, ∀ msg ∈ samples, SameKind first msg)
    (off : con.mResampleTouch = false) :
    (consumeSamples arith con blank samples).2.1.reports = samples.map sample := by
  cases samples with
  | nil => exact absurd rfl ne
  | cons msg rest =>
    have same : updateTouchState arith con.mResampleTouch con.mTouchStates msg =
        (con.mTouchStates, msg) := by
      simp [updateTouchState, off]
    have likeFirst : ∀ other ∈ rest, SameKind msg other := by
      intro other mem
      exact uniform msg (mem_cons_self ..) other (mem_cons_of_mem _ mem)
    unfold consumeSamples
    dsimp only
    rw [same]
    dsimp only
    rw [chainSamples_reports arith likeFirst (by exact off) _ rfl rfl rfl rfl]
    simp [MotionEvent.reports, initializeMotionEvent, sample]

/-! ## The samples of a batch -/

def batchedSamples (batches : List (List (Motion Coords Other))) : List (Sample Coords) :=
  batches.flatten.map sample

lemma WellBatched.apart {after : List (List (Motion Coords Other))}
    (well : WellBatched (old ++ batch :: after)) (isHead : batch.head? = some head) :
    ∀ sample ∈ batchedSamples (old ++ after), sample.stream ≠ head.stream := by
  intro sample mem eqStrm
  obtain ⟨msg, inFlatten, rfl⟩ := mem_map.mp mem
  obtain ⟨other, also, inO⟩ := mem_flatten.mp inFlatten
  have inAll : other ∈ old ++ batch :: after := by
    rw [mem_append] at also
    rw [mem_append, mem_cons]
    tauto
  obtain ⟨first, rest, rfl⟩ := exists_cons_of_ne_nil (well.nonempty other inAll)
  have firstStream := (well.uniform _ inAll first (mem_cons_self ..) msg inO).stream
  have moved : (old ++ batch :: after).Perm (batch :: (old ++ after)) := perm_middle
  have nodup := (moved.map _).nodup_iff.mp well.distinct
  rw [map_cons, nodup_cons, isHead] at nodup
  apply nodup.1
  refine mem_map.mpr ⟨first :: rest, also, ?_⟩
  exact congrArg some (firstStream.trans eqStrm)

lemma batchedSamples_absent (well : WellBatched con.mBatches)
    (miss : con.findBatch msg.deviceId msg.source = none) :
    ofStream msg.stream (batchedSamples con.mBatches) = [] := by
  apply ofStream_none
  intro sample mem eqStrm
  obtain ⟨batched, inFlatten, rfl⟩ := mem_map.mp mem
  obtain ⟨batch, batchMember, inBatch⟩ := mem_flatten.mp inFlatten
  obtain ⟨head, rest, rfl⟩ := exists_cons_of_ne_nil (well.nonempty batch batchMember)
  have headStream := (well.uniform _ batchMember head (mem_cons_self ..) batched inBatch).stream
  apply findBatch_none miss
  refine mem_map.mpr ⟨head :: rest, batchMember, ?_⟩
  exact congrArg some (headStream.trans eqStrm)

variable {after : List (List (Motion Coords Other))}

lemma batchedSamples_same (apart : ∀ sample ∈ batchedSamples (old ++ after), sample.stream ≠ stream)
    (all : ∀ msg ∈ batch, msg.stream = stream) :
    ofStream stream (batchedSamples (old ++ batch :: after)) = batch.map sample := by
  have inBatch : ofStream stream (batch.map sample) = batch.map sample := by
    apply ofStream_self
    intro sample mem
    obtain ⟨msg, msgMember, rfl⟩ := mem_map.mp mem
    exact all msg msgMember
  have away := ofStream_none apart
  unfold batchedSamples at away ⊢
  rw [flatten_append, map_append, ofStream_append, append_eq_nil_iff] at away
  simp only [flatten_append, flatten_cons, map_append, ofStream_append, inBatch,
    away.1, away.2, nil_append, append_nil]

lemma batchedSamples_other {head : Int × BitVec 32} (ne : stream ≠ head)
    (all : ∀ msg ∈ batch, msg.stream = head) :
    ofStream stream (batchedSamples (old ++ batch :: after)) =
      ofStream stream (batchedSamples (old ++ after)) := by
  have inBatch : ofStream stream (batch.map sample) = [] := by
    apply ofStream_none
    intro sample mem
    obtain ⟨msg, msgMember, rfl⟩ := mem_map.mp mem
    intro same
    exact ne (same.symm.trans (all msg msgMember))
  simp [batchedSamples, ofStream_append, inBatch]

end InputConsumer

/-! ## Runs -/

def Transport.deliveredSamples (state : Transport Coords Other) : List (Sample Coords) :=
  state.events.flatMap Delivered.samples

/-- The invariant of runs without resampling. The messages that were processed are the published
ones without the deferred one and those in the channel. -/
structure Lined (state : Transport Coords Other) (processed : List (InputMessage Coords Other)) :
    Prop where
  off : state.consumer.mResampleTouch = false
  well : InputConsumer.WellBatched state.consumer.mBatches
  published : state.published = processed ++ (state.consumer.deferred.toList ++ state.incoming)
  kept : ∀ stream, Kept Sample.CancelsPointer
    (ofStream stream (processed.flatMap InputMessage.samples))
    (ofStream stream state.deliveredSamples ++
      ofStream stream (batchedSamples state.consumer.mBatches))

namespace Lined

variable {state : Transport Coords Other} {proc : List (InputMessage Coords Other)}
  {msg : InputMessage Coords Other} {after : List (List (Motion Coords Other))}

section

variable (lined : Lined state proc)
include lined

lemma batch_stream {head : Motion Coords Other}
    (split : state.consumer.mBatches = old ++ batch :: after) (isHead : batch.head? = some head) :
    ∀ msg ∈ batch, msg.stream = head.stream := by
  intro msg mem
  have batchMember : batch ∈ state.consumer.mBatches := by simp [split]
  exact (lined.well.uniform batch batchMember msg mem head (mem_of_head? isHead)).stream

lemma deliverSamples (split : state.consumer.mBatches = old ++ (samples ++ later) :: after)
    (ne : samples ≠ []) (given : Delivered Coords Other)
    (body : given.samples = samples.map sample) (off : res.consumer.mResampleTouch = false)
    (bats : res.consumer.mBatches = old ++ (remaining later ++ after))
    (sent : res.published = state.published)
    (unprocessed : res.consumer.deferred.toList ++ res.incoming =
      state.consumer.deferred.toList ++ state.incoming)
    (evs : res.events = state.events ++ [given]) : Lined res proc where
  off := off
  well := by
    have well := lined.well
    rw [split] at well
    rw [bats]
    exact well.take ne
  published := by rw [sent, unprocessed, lined.published]
  kept := by
    intro stream
    obtain ⟨head, rest, rfl⟩ := exists_cons_of_ne_nil ne
    have added : res.deliveredSamples =
        state.deliveredSamples ++ (head :: rest).map sample := by
      rw [deliveredSamples, evs, flatMap_append, flatMap_singleton, body]
      rfl
    have left : batchedSamples res.consumer.mBatches =
        batchedSamples (old ++ later :: after) := by
      rw [bats]
      cases later <;> simp [batchedSamples, remaining]
    have allBatch := lined.batch_stream split rfl
    have allLater : ∀ msg ∈ later, msg.stream = head.stream := by
      intro msg mem
      exact allBatch msg (mem_append_right _ mem)
    have keeps := lined.kept stream
    rw [split] at keeps
    rw [added, ofStream_append, left]
    by_cases isStream : stream = head.stream
    · subst isStream
      have well := lined.well
      rw [split] at well
      have apart := well.apart rfl
      have own : ofStream head.stream ((head :: rest).map sample) =
          (head :: rest).map sample := by
        apply ofStream_self
        intro sample mem
        obtain ⟨msg, msgMember, rfl⟩ := mem_map.mp mem
        exact allBatch msg (mem_append_left _ msgMember)
      rw [batchedSamples_same apart allBatch, map_append] at keeps
      rw [own, batchedSamples_same apart allLater, append_assoc]
      exact keeps
    · have foreign : ofStream stream ((head :: rest).map sample) = [] := by
        apply ofStream_none
        intro sample mem
        obtain ⟨msg, msgMember, rfl⟩ := mem_map.mp mem
        intro same
        exact isStream (same.symm.trans (allBatch msg (mem_append_left _ msgMember)))
      rw [batchedSamples_other isStream allBatch] at keeps
      rw [foreign, append_nil, batchedSamples_other isStream allLater]
      exact keeps

section

variable (prompt : state.consumer.deferred = none)
include prompt

lemma process (first : state.incoming = .motion motion :: rest) {after : Transport Coords Other}
    (off : after.consumer.mResampleTouch = false)
    (well : InputConsumer.WellBatched after.consumer.mBatches)
    (sent : after.published = state.published)
    (stillUndeferred : after.consumer.deferred = none) (inc : after.incoming = rest)
    (same : Kept Sample.CancelsPointer
      (ofStream motion.stream (proc.flatMap InputMessage.samples) ++ [motion.sample])
      (ofStream motion.stream after.deliveredSamples ++
        ofStream motion.stream (batchedSamples after.consumer.mBatches)))
    (others : ∀ stream, stream ≠ motion.stream → ofStream stream after.deliveredSamples ++
          ofStream stream (batchedSamples after.consumer.mBatches) =
        ofStream stream state.deliveredSamples ++
          ofStream stream (batchedSamples state.consumer.mBatches)) :
    Lined after (proc ++ [.motion motion]) where
  off := off
  well := well
  published := by
    rw [sent, lined.published, prompt, stillUndeferred, first, inc]
    simp
  kept := by
    intro stream
    have samples : (proc ++ [InputMessage.motion motion]).flatMap InputMessage.samples =
        proc.flatMap InputMessage.samples ++ [motion.sample] := flatMap_append ..
    rw [samples, ofStream_append]
    by_cases isStream : stream = motion.stream
    · rw [isStream, ofStream_own]
      exact same
    · rw [ofStream_foreign isStream, append_nil, others stream isStream]
      exact lined.kept stream

lemma goOn {next : InputConsumer Coords Other} (first : state.incoming = msg :: rest)
    (took : InputConsumer.Handled arith blank state.consumer box msg (.goOn next outbox)) :
    Lined { state with consumer := next, incoming := rest } (proc ++ [msg]) := by
  have well := took.wellBatched_goOn lined.well
  cases took with
  | @started motion miss =>
    have added : ∀ stream, ofStream stream
        (batchedSamples (state.consumer.mBatches ++ [[motion]])) =
        ofStream stream (batchedSamples state.consumer.mBatches) ++
          ofStream stream [motion.sample] := by
      intro stream
      simp [batchedSamples, ofStream_append]
    refine lined.process prompt first lined.off well rfl prompt rfl ?_ ?_
    · rw [added, ofStream_own, ← append_assoc]
      exact (lined.kept motion.stream).concat motion.sample
    · intro stream ne
      rw [added, ofStream_foreign ne, append_nil]
      rfl
  | @appended motion head old after batch split isHead sameKind =>
    have allOld := lined.batch_stream split isHead
    have allNew : ∀ sample ∈ batch ++ [motion], sample.stream = head.stream := by
      exact forall_mem_append.2 ⟨allOld, forall_mem_singleton.2 sameKind.stream.symm⟩
    have oldWell := lined.well
    rw [split] at oldWell
    have apart := oldWell.apart isHead
    have keeps := lined.kept head.stream
    rw [split, batchedSamples_same apart allOld] at keeps
    refine lined.process prompt first lined.off well rfl prompt rfl ?_ ?_
    · rw [← sameKind.stream, batchedSamples_same apart allNew, map_append, ← append_assoc]
      exact keeps.concat motion.sample
    · intro stream ne
      rw [← sameKind.stream] at ne
      rw [batchedSamples_other ne allNew, split, batchedSamples_other ne allOld]
      rfl

lemma deliverFirst (first : state.incoming = .motion motion :: rest)
    (well : InputConsumer.WellBatched bats) (same : Kept Sample.CancelsPointer
      (ofStream motion.stream (proc.flatMap InputMessage.samples) ++ [motion.sample])
      ((ofStream motion.stream state.deliveredSamples ++ [motion.sample]) ++
        ofStream motion.stream (batchedSamples bats)))
    (others : ∀ stream, stream ≠ motion.stream → ofStream stream (batchedSamples bats) =
        ofStream stream (batchedSamples state.consumer.mBatches))
    (chains : List SeqChain) (box : Outbox) : Lined (state.afterConsume (deliver arith blank
        { state.consumer with mBatches := bats, mSeqChains := chains } box motion) rest)
      (proc ++ [.motion motion]) := by
  have unchanged : updateTouchState arith state.consumer.mResampleTouch
      state.consumer.mTouchStates motion = (state.consumer.mTouchStates, motion) := by
    simp [updateTouchState, lined.off]
  have added : (state.afterConsume (deliver arith blank
      { state.consumer with mBatches := bats, mSeqChains := chains } box motion)
        rest).deliveredSamples = state.deliveredSamples ++ [motion.sample] := by
    simp [deliveredSamples, afterConsume, deliver,
      received, unchanged, Delivered.samples, MotionEvent.reports, initializeMotionEvent,
      sample]
  refine lined.process prompt first lined.off well rfl prompt rfl ?_ ?_
  · rw [added, ofStream_append, ofStream_own]
    exact same
  · intro stream ne
    rw [added, ofStream_append, ofStream_foreign ne, append_nil]
    exact congrArg _ (others stream ne)

lemma leave (first : state.incoming = msg :: rest)
    (took : InputConsumer.Handled arith blank state.consumer box msg (.leave used)) :
    ∃ proc, Lined (state.afterConsume used rest) proc := by
  cases took with
  | @other msg event noMotion noMotionEvent =>
    have noSamples : msg.samples = [] := by
      cases msg with
      | motion body => exact absurd rfl (noMotion body)
      | _ => rfl
    have nothing : ∀ seq msgs,
        (Delivered.samples ⟨seq, event, msgs⟩ : List (Sample Coords)) = [] := by
      intro seq msgs
      cases event with
      | motion body => exact absurd rfl (noMotionEvent body)
      | _ => rfl
    refine ⟨proc ++ [msg], lined.off, lined.well, ?_, ?_⟩
    · simp [afterConsume, lined.published, prompt, first]
    · intro stream
      have keeps := lined.kept stream
      simpa [afterConsume, received, deliveredSamples, nothing, noSamples] using keeps
  | @single motion miss =>
    have none := batchedSamples_absent lined.well miss
    have keeps := lined.kept motion.stream
    rw [none, append_nil] at keeps
    refine ⟨_, lined.deliverFirst prompt first lined.well ?_ (fun _ _ => rfl)
      state.consumer.mSeqChains box⟩
    rw [none, append_nil]
    exact keeps.concat motion.sample
  | @cancelled motion head old after batch split isHead eqStrm ptr isCancel =>
    have well := lined.well
    rw [split] at well
    have apart := well.apart isHead
    have all := lined.batch_stream split isHead
    have keeps := lined.kept head.stream
    rw [split, batchedSamples_same apart all] at keeps
    rw [discard_frame]
    refine ⟨_, lined.deliverFirst prompt first well.remove ?_ ?_ _ _⟩
    · rw [← eqStrm, ofStream_none apart, append_nil]
      have cancels : motion.sample.CancelsPointer := ⟨ptr, isCancel⟩
      exact keeps.supersede cancels
    · intro stream ne
      rw [← eqStrm] at ne
      rw [split, batchedSamples_other ne all]
  | @deferred motion head old after batch split isHead eqStrm =>
    have whole : state.consumer.mBatches = old ++ (batch ++ []) :: after := by
      rw [append_nil]
      exact split
    have mem : batch ∈ state.consumer.mBatches := by simp [split]
    have nonempty := lined.well.nonempty batch mem
    have content := consumeSamples_reports arith blank nonempty
      (lined.well.uniform batch mem) lined.off
    have frame := (consumeSamples_frame arith state.consumer blank nonempty).1
    have off := (congrArg mResampleTouch frame).trans lined.off
    refine ⟨proc, lined.deliverSamples whole nonempty _ ?_ off rfl rfl ?_ rfl⟩
    · exact content
    · rw [prompt, first]
      rfl

end

lemma idle (idled : InputConsumer.Idled arith blank state.consumer box used) :
    Lined (state.afterConsume used state.incoming) proc := by
  cases idled with
  | nothing stat =>
    refine ⟨lined.off, lined.well, lined.published, ?_⟩
    intro stream
    have keeps := lined.kept stream
    simpa [afterConsume, received, noEvent, deliveredSamples] using keeps
  | @taken old after samples later event states split ne unsampled =>
    have mem : samples ++ later ∈ state.consumer.mBatches := by simp [split]
    have uniform : ∀ first ∈ samples, ∀ msg ∈ samples, InputConsumer.SameKind first msg := by
      intro first firstMember msg msgMember
      exact lined.well.uniform _ mem first (mem_append_left _ firstMember) msg
        (mem_append_left _ msgMember)
    have body := consumeSamples_reports arith blank ne uniform lined.off
    rw [← unsampled lined.off] at body
    have frame := (consumeSamples_frame arith state.consumer blank ne).1
    have off := (congrArg mResampleTouch frame).trans lined.off
    have sameDeferred : (consumeSamples arith state.consumer blank samples).1.deferred =
          state.consumer.deferred := by
      rw [frame]
    refine lined.deliverSamples split ne _ ?_ off rfl rfl ?_ rfl
    · exact body
    · exact congrArg (fun deferred => Option.toList deferred ++ state.incoming) sameDeferred

lemma consume (fac : call.factory = some blank) (sends : List Status) :
    ∃ proc, Lined (state.step arith (.consume call sends)) proc := by
  -- In the loop the state is that of a client that has received no event yet.
  apply consume_rule (fun con box msgs => con.deferred = none ∧ ∃ proc,
      Lined { state with consumer := con, incoming := msgs, sent := box.sent } proc)
    (fun state => ∃ proc, Lined state proc) fac
  · rintro con box msgs ⟨_, proc, inLoop⟩
    exact inLoop.well.nonempty
  · exact ⟨rfl, proc, lined.off, lined.well, lined.published, lined.kept⟩
  · rintro con box msg rest next outbox ⟨prompt, proc, inLoop⟩ took
    have goesOn := inLoop.goOn prompt rfl took
    cases took <;> exact ⟨prompt, _, goesOn⟩
  · rintro con box msg rest used ⟨prompt, proc, inLoop⟩ took
    exact inLoop.leave prompt rfl took
  · rintro con box msgs used ⟨prompt, proc, inLoop⟩ idled
    exact ⟨proc, inLoop.idle idled⟩

end

end Lined

def Transport.FactoryWorks (_ : Transport Coords Other) : Transport.Label Coords Other → Prop
  | .consume call _ => call.factory.isSome
  | _ => True

instance (state : Transport Coords Other) :
    (label : Transport.Label Coords Other) → Decidable (state.FactoryWorks label)
  | .publish _ => inferInstanceAs (Decidable True)
  | .consume call _ => inferInstanceAs (Decidable (call.factory.isSome = true))
  | .finish _ _ _ => inferInstanceAs (Decidable True)

lemma Lined.step (arith : CoordArithmetic Coords) (state : Transport Coords Other)
    (label : Transport.Label Coords Other) (lined : ∃ proc, Lined state proc)
    (works : state.FactoryWorks label) : ∃ proc, Lined (state.step arith label) proc := by
  obtain ⟨proc, lined⟩ := lined
  cases label with
  | publish msg =>
    refine ⟨proc, lined.off, lined.well, ?_, lined.kept⟩
    simp [Transport.step, lined.published]
  | consume call sends =>
    obtain ⟨blank, fac⟩ := Option.isSome_iff_exists.mp works
    exact lined.consume fac sends
  | finish seq took sends =>
    have frame := state.consumer.sendFinishedSignal_frame ⟨sends, state.sent⟩ seq took
    unfold Transport.step
    dsimp only
    generalize state.consumer.sendFinishedSignal ⟨sends, state.sent⟩ seq took = res
      at frame ⊢
    obtain ⟨stat, next, box⟩ := res
    dsimp only at frame ⊢
    generalize next.mSeqChains = chains at frame
    subst frame
    exact ⟨proc, lined.off, lined.well, lined.published, lined.kept⟩

/-- In every run without resampling and with a working factory, the published messages are those
that were processed, the deferred one and those in the channel. For each device and source the
samples that were delivered, followed by the batched ones, are those of the processed messages,
in order, without samples that a later cancel of that pointer source discards. -/
theorem delivered_in_order (arith : CoordArithmetic Coords)
    (labels : List (Transport.Label Coords Other))
    (along : Machine.Along (step arith) Transport.FactoryWorks (start false) labels) :
    let state := Machine.run (step arith) (start false) labels
    ∃ processed, state.published = processed ++ (state.consumer.deferred.toList ++ state.incoming) ∧
      ∀ stream, Kept Sample.CancelsPointer
        (ofStream stream (processed.flatMap InputMessage.samples))
        (ofStream stream state.deliveredSamples ++
          ofStream stream (batchedSamples state.consumer.mBatches)) := by
  intro state
  have init : ∃ processed, Lined (start false : Transport Coords Other) processed := by
    refine ⟨[], rfl, ⟨?_, ?_, ?_⟩, rfl, fun stream => .nil⟩
    · simp [start, create]
    · simp [start, create]
    · simp [start, create]
  obtain ⟨processed, lined⟩ : ∃ processed, Lined state processed :=
    Machine.run_invariant (Lined.step arith) init along
  exact ⟨processed, lined.published, lined.kept⟩

def plainCoordinates : CoordArithmetic Nat := ⟨fun _ _ => false, fun _ new => new, fun old _ _ _ => old⟩

def touchMessage (seq : UInt32) (action : BitVec 32) (position : Nat) : InputMessage Nat Unit :=
  .motion ⟨seq, 0, 1, 2, action, 0, [⟨⟨0, 1⟩, position⟩], ()⟩

def cancelledTouch : List (Transport.Label Nat Unit) :=
  let call := .consume ⟨false, -1, 3, .wouldBlock, some ⟨0, 0, 0, 0, [], (), []⟩⟩ []
  [.publish (touchMessage 1 actionDown 4), .publish (touchMessage 2 actionMove 5),
    .publish (touchMessage 3 actionCancel 6), call, call]

theorem delivered_in_order_cancelled :
    let state := Machine.run (step plainCoordinates) (start false) cancelledTouch
    Machine.Along (step plainCoordinates) Transport.FactoryWorks (start false) cancelledTouch ∧
      state.deliveredSamples.map (·.coords) = [[4], [6]] ∧
      ∃ processed, state.published =
          processed ++ (state.consumer.deferred.toList ++ state.incoming) ∧
        ∀ stream, Kept Sample.CancelsPointer
          (ofStream stream (processed.flatMap InputMessage.samples))
          (ofStream stream state.deliveredSamples ++
            ofStream stream (batchedSamples state.consumer.mBatches)) :=
  ⟨by decide +kernel, by decide +kernel,
    delivered_in_order plainCoordinates cancelledTouch (by decide +kernel)⟩

end NativeLibs.Input
