import NativeLibs.Input.TouchState
import Mathlib.Data.List.Nodup
import Mathlib.Data.List.Perm.Subperm

/-! # The input consumer

A consumer reads the messages of a channel, batches moves, makes events of them and sends
finished signals. What the channel and the event factory do in a call are arguments. -/

namespace NativeLibs.Input

inductive Status where
  | ok
  | wouldBlock
  | deadObject
  | badValue
  | noMemory
  /-- The negative of an `errno`. -/
  | error (code : Nat)
  deriving DecidableEq, Repr

/-- A record that associates a sequence number with the one before it in its event. -/
structure SeqChain where
  seq : UInt32
  chain : UInt32
  deriving DecidableEq, Repr

structure Finished where
  seq : UInt32
  handled : Bool
  deriving DecidableEq, Repr

/-- What a consumer sends: the results of the sends to come, where a send without a result
succeeds, and the messages that were sent. -/
structure Outbox where
  results : List Status
  sent : List Finished
  deriving DecidableEq, Repr

def Outbox.send (outbox : Outbox) (seq : UInt32) (handled : Bool) : Status × Outbox :=
  match outbox.results with
  | [] => (.ok, { outbox with sent := outbox.sent ++ [⟨seq, handled⟩] })
  | .ok :: rest => (.ok, ⟨rest, outbox.sent ++ [⟨seq, handled⟩]⟩)
  | failure :: rest => (failure, ⟨rest, outbox.sent⟩)

structure InputConsumer (Coords Other : Type) where
  mResampleTouch : Bool
  /-- `mMsg`, if `mMsgDeferred`. -/
  deferred : Option (InputMessage Coords Other)
  mBatches : List (List (Motion Coords Other))
  mTouchStates : List (TouchState Coords)
  mSeqChains : List SeqChain
  deriving DecidableEq, Repr

inductive InputEvent (Coords Other : Type) where
  | key (body : Other)
  | motion (event : MotionEvent Coords Other)
  | focus (hasFocus inTouchMode : Bool)
  deriving DecidableEq, Repr

variable {Coords Other : Type}

namespace InputConsumer

/-! ## Finished signals -/

/-- The first loop of `sendFinishedSignal`, from the last record on: `chainSeqs`, and the
records that are left. -/
def collectChain (currentSeq : UInt32) : List SeqChain → List UInt32 × List SeqChain
  | [] => ([], [])
  | record :: rest =>
    if record.seq = currentSeq then
      let (chainSeqs, left) := collectChain record.chain rest
      (record.chain :: chainSeqs, left)
    else
      let (chainSeqs, left) := collectChain currentSeq rest
      (chainSeqs, record :: left)

/-- The second loop, over the numbers in the order in which they are sent: the status, and the
numbers that were not sent. -/
def sendChain (handled : Bool) : Outbox → List UInt32 → Status × List UInt32 × Outbox
  | outbox, [] => (.ok, [], outbox)
  | outbox, seq :: rest =>
    match outbox.send seq handled with
    | (.ok, outbox) => sendChain handled outbox rest
    | (failure, outbox) => (failure, seq :: rest, outbox)

def reconstruct (seq : UInt32) : List UInt32 → List SeqChain
  | [] => []
  | [chain] => [⟨seq, chain⟩]
  | chain :: next :: rest => ⟨next, chain⟩ :: reconstruct seq (next :: rest)

variable (consumer : InputConsumer Coords Other)

def sendFinishedSignal (outbox : Outbox) (seq : UInt32) (handled : Bool) :
    Status × InputConsumer Coords Other × Outbox :=
  if seq = 0 then (.badValue, consumer, outbox)
  else
    let (chainSeqs, left) := collectChain seq consumer.mSeqChains.reverse
    match sendChain handled outbox chainSeqs.reverse with
    | (.ok, _, outbox) =>
      let (status, outbox) := outbox.send seq handled
      (status, { consumer with mSeqChains := left.reverse }, outbox)
    | (failure, unsent, outbox) =>
      (failure, { consumer with mSeqChains := left.reverse ++ reconstruct seq unsent }, outbox)

/-! ## Batches -/

def findBatch (deviceId : Int) (source : BitVec 32) : Option Nat :=
  consumer.mBatches.findIdx? fun batch =>
    batch.head?.any fun head => head.deviceId = deviceId ∧ head.source = source

variable (batch : List (Motion Coords Other))

def canAddSample (msg : Motion Coords Other) : Bool :=
  batch.head?.any fun head =>
    head.pointers.length = msg.pointers.length ∧ head.action = msg.action ∧
      head.pointers.map (·.properties) = msg.pointers.map (·.properties)

def samplesNoLaterThan (time : Int) : Nat :=
  (batch.takeWhile fun msg => msg.eventTime ≤ time).length

/-- The loop of `consumeSamples` behind the first sample. -/
def chainSamples (arith : CoordArithmetic Coords) (consumer : InputConsumer Coords Other)
    (event : MotionEvent Coords Other) (chain : UInt32) :
    List (Motion Coords Other) → InputConsumer Coords Other × MotionEvent Coords Other × UInt32
  | [] => (consumer, event, chain)
  | msg :: rest =>
    let (states, msg) := updateTouchState arith consumer.mResampleTouch consumer.mTouchStates msg
    chainSamples arith { consumer with
        mTouchStates := states
        mSeqChains := consumer.mSeqChains ++ [⟨msg.seq, chain⟩] }
      (addSample event msg) msg.seq rest

/-- `consumeSamples` of a number of samples of a batch, once the factory has made an event. The
caller removes the samples from the batch. -/
def consumeSamples (arith : CoordArithmetic Coords) (consumer : InputConsumer Coords Other)
    (motionEvent : MotionEvent Coords Other) (samples : List (Motion Coords Other)) :
    InputConsumer Coords Other × MotionEvent Coords Other × UInt32 :=
  match samples with
  | [] => (consumer, motionEvent, 0)
  | msg :: rest =>
    let (states, msg) := updateTouchState arith consumer.mResampleTouch consumer.mTouchStates msg
    chainSamples arith { consumer with mTouchStates := states }
      (initializeMotionEvent motionEvent msg) msg.seq rest

/-! ## Consuming -/

/-- What a call of `consume` returns. The messages are those that the event was made of. -/
structure Consumed (Coords Other : Type) where
  status : Status
  outSeq : UInt32
  outEvent : Option (InputEvent Coords Other)
  messages : List (InputMessage Coords Other)
  consumer : InputConsumer Coords Other
  outbox : Outbox

def noEvent (status : Status) (consumer : InputConsumer Coords Other) (outbox : Outbox) :
    Consumed Coords Other :=
  ⟨status, 0, none, [], consumer, outbox⟩

/-- `consumeBatch`, for the batches before an index. The factory may make no event. -/
def consumeBatch (arith : CoordArithmetic Coords) (factory : Option (MotionEvent Coords Other))
    (frameTime : Int) (consumer : InputConsumer Coords Other) (outbox : Outbox) :
    Nat → Consumed Coords Other
  | 0 => noEvent .wouldBlock consumer outbox
  | index + 1 =>
    let batch := consumer.mBatches.getD index []
    if frameTime < 0 then
      let removed := consumer.mBatches.eraseIdx index
      match factory with
      | none => noEvent .noMemory { consumer with mBatches := removed } outbox
      | some event =>
        let (consumer, event, seq) := consumeSamples arith consumer event batch
        ⟨.ok, seq, some (.motion event), batch.map .motion,
          { consumer with mBatches := removed }, outbox⟩
    else
      let sampleTime := if consumer.mResampleTouch then frameTime - resampleLatency else frameTime
      let count := samplesNoLaterThan batch sampleTime
      if count = 0 then consumeBatch arith factory frameTime consumer outbox index
      else match factory with
      | none => noEvent .noMemory consumer outbox
      | some event =>
        let (consumer, event, seq) := consumeSamples arith consumer event (batch.take count)
        let later := batch.drop count
        let batches :=
          if later.isEmpty then consumer.mBatches.eraseIdx index
          else consumer.mBatches.set index later
        let (states, event) := resampleTouchState arith consumer.mResampleTouch
          consumer.mTouchStates sampleTime event later.head?
        ⟨.ok, seq, some (.motion event), (batch.take count).map .motion,
          { consumer with mBatches := batches, mTouchStates := states }, outbox⟩

/-- How an iteration of the loop of `consume` ends. -/
inductive Iteration (Coords Other : Type) where
  | goOn (consumer : InputConsumer Coords Other) (outbox : Outbox)
  | leave (consumed : Consumed Coords Other)

/-- The finished signals for the samples that a cancel discards. What they report is not
looked at. -/
def discard (outbox : Outbox) :
    InputConsumer Coords Other → List (Motion Coords Other) → InputConsumer Coords Other × Outbox
  | consumer, [] => (consumer, outbox)
  | consumer, msg :: rest =>
    let (_, consumer, outbox) := consumer.sendFinishedSignal outbox msg.seq false
    discard outbox consumer rest

variable (arith : CoordArithmetic Coords) (factory : Option (MotionEvent Coords Other))
  (consumer : InputConsumer Coords Other) (outbox : Outbox) (msg : Motion Coords Other)

def startMotion : Iteration Coords Other :=
  if msg.action = actionMove ∨ msg.action = actionHoverMove then
    .goOn { consumer with mBatches := consumer.mBatches ++ [[msg]] } outbox
  else match factory with
  | none => .leave (noEvent .noMemory consumer outbox)
  | some event =>
    let (states, updated) :=
      updateTouchState arith consumer.mResampleTouch consumer.mTouchStates msg
    .leave ⟨.ok, updated.seq, some (.motion (initializeMotionEvent event updated)),
      [.motion msg], { consumer with mTouchStates := states }, outbox⟩

def handleMotion : Iteration Coords Other :=
  match consumer.findBatch msg.deviceId msg.source with
  | none => startMotion arith factory consumer outbox msg
  | some index =>
    let batch := consumer.mBatches.getD index []
    if canAddSample batch msg then
      .goOn { consumer with mBatches := consumer.mBatches.set index (batch ++ [msg]) } outbox
    else if isPointerEvent msg.source ∧ msg.action = actionCancel then
      let (consumer, outbox) := discard outbox consumer batch
      startMotion arith factory { consumer with mBatches := consumer.mBatches.eraseIdx index }
        outbox msg
    else
      -- The batch is removed even if there is no event for it.
      let removed := consumer.mBatches.eraseIdx index
      match factory with
      | none =>
        .leave (noEvent .noMemory
          { consumer with deferred := some (.motion msg), mBatches := removed } outbox)
      | some event =>
        let (consumer, event, seq) := consumeSamples arith consumer event batch
        .leave ⟨.ok, seq, some (.motion event), batch.map .motion,
          { consumer with deferred := some (.motion msg), mBatches := removed }, outbox⟩

def handle (msg : InputMessage Coords Other) : Iteration Coords Other :=
  match msg with
  | .key seq body =>
    match factory with
    | none => .leave (noEvent .noMemory consumer outbox)
    | some _ => .leave ⟨.ok, seq, some (.key body), [.key seq body], consumer, outbox⟩
  | .motion body => handleMotion arith factory consumer outbox body
  | .focus seq hasFocus inTouchMode =>
    match factory with
    | none => .leave (noEvent .noMemory consumer outbox)
    | some _ => .leave ⟨.ok, seq, some (.focus hasFocus inTouchMode),
        [.focus seq hasFocus inTouchMode], consumer, outbox⟩

/-- What a call of `consume` is given, and what it meets. -/
structure ConsumeCall (Coords Other : Type) where
  consumeBatches : Bool
  frameTime : Int
  /-- How many messages the channel yields. -/
  available : Nat
  failure : Status
  factory : Option (MotionEvent Coords Other)

def noMessage (call : ConsumeCall Coords Other) (consumer : InputConsumer Coords Other)
    (outbox : Outbox) : Consumed Coords Other :=
  if call.consumeBatches ∨ call.failure ≠ .wouldBlock then
    consumeBatch arith call.factory call.frameTime consumer outbox consumer.mBatches.length
  else noEvent call.failure consumer outbox

/-- The loop of `consume` over the messages that the channel yields. The messages that are not
received are returned too. -/
def consumeLoop (arith : CoordArithmetic Coords) (call : ConsumeCall Coords Other) :
    InputConsumer Coords Other → Outbox → List (InputMessage Coords Other) →
      Consumed Coords Other × List (InputMessage Coords Other)
  | consumer, outbox, [] => (noMessage arith call consumer outbox, [])
  | consumer, outbox, msg :: rest =>
    match handle arith call.factory consumer outbox msg with
    | .goOn consumer outbox => consumeLoop arith call consumer outbox rest
    | .leave consumed => (consumed, rest)

def consume (arith : CoordArithmetic Coords) (call : ConsumeCall Coords Other)
    (consumer : InputConsumer Coords Other) (outbox : Outbox)
    (incoming : List (InputMessage Coords Other)) :
    Consumed Coords Other × List (InputMessage Coords Other) :=
  match consumer.deferred with
  | none => consumeLoop arith call consumer outbox incoming
  | some msg => consumeLoop arith call { consumer with deferred := none } outbox (msg :: incoming)

def create (resampleTouch : Bool) : InputConsumer Coords Other := ⟨resampleTouch, none, [], [], []⟩

end InputConsumer

end NativeLibs.Input

/-! ## Sequence chains

The table `mSeqChains` holds the chains of several events, with their records interleaved. It is
related here to the chains themselves, and a finished signal is shown to send one of them. -/

namespace NativeLibs.Input

open InputConsumer List

def links : List UInt32 → List SeqChain
  | first :: second :: rest => ⟨second, first⟩ :: links (second :: rest)
  | _ => []

lemma links_keys (chain : List UInt32) : (links chain).map (·.seq) = chain.tail := by
  induction chain with
  | nil => rfl
  | cons first rest ih =>
    cases rest with
    | nil => rfl
    | cons second rest => simpa [links] using ih

lemma mem_of_mem_links (mem : record ∈ links chain) : record.seq ∈ chain := by
  apply mem_of_mem_tail
  rw [← links_keys]
  exact mem_map_of_mem mem

lemma links_concat (chain : List UInt32) (previous seq : UInt32) :
    links (chain ++ [previous, seq]) = links (chain ++ [previous]) ++ [⟨seq, previous⟩] := by
  induction chain with
  | nil => rfl
  | cons first rest ih =>
    cases rest with
    | nil => rfl
    | cons second rest =>
      simp only [cons_append, links] at ih ⊢
      rw [ih]

lemma reconstruct_eq_links (seq : UInt32) (chain : List UInt32) :
    reconstruct seq chain = links (chain ++ [seq]) := by
  fun_induction reconstruct seq chain with
  | case1 => rfl
  | case2 chain => rfl
  | case3 chain next rest ih =>
    rw [ih]
    rfl

/-! ## The table of several chains -/

structure Represents (table : List SeqChain) (chains : List (List UInt32)) : Prop where
  distinct : chains.flatten.Nodup
  records : table.Perm (chains.flatMap links)
  ordered : ∀ chain ∈ chains, (links chain).Sublist table

namespace Represents

section

variable {chains : List (List UInt32)} (reps : Represents table chains)
include reps

lemma perm (same : chains.Perm rest) : Represents table rest where
  distinct := (same.flatten.nodup_iff).mp reps.distinct
  records := reps.records.trans (same.flatMap_right links)
  ordered := fun chain mem => reps.ordered chain (same.mem_iff.mpr mem)

lemma push (chain : List UInt32) (distinct : (chain ++ chains.flatten).Nodup) :
    Represents (table ++ links chain) (chain :: chains) where
  distinct := by simpa using distinct
  records := by
    rw [flatMap_cons]
    exact (reps.records.append_right _).trans perm_append_comm
  ordered :=
    forall_mem_cons.2 ⟨sublist_append_right _ _, fun other mem => (reps.ordered
      other mem).trans (sublist_append_left _ _)⟩

lemma key_mem (mem : record ∈ table) : ∃ chain ∈ chains, record.seq ∈ chain.tail := by
  have inChains := reps.records.mem_iff.mp mem
  obtain ⟨chain, chainMember, inLinks⟩ := mem_flatMap.mp inChains
  refine ⟨chain, chainMember, ?_⟩
  rw [← links_keys]
  exact mem_map_of_mem inLinks

lemma key_mem_flatten (mem : record ∈ table) : record.seq ∈ chains.flatten := by
  obtain ⟨chain, chainMember, inTail⟩ := reps.key_mem mem
  exact mem_flatten.mpr ⟨chain, chainMember, mem_of_mem_tail inTail⟩

lemma keys_nodup : (table.map (·.seq)).Nodup := by
  have keys : (chains.flatMap links).map (·.seq) = chains.flatMap tail := by
    rw [map_flatMap]
    simp only [links_keys]
  have tails : (chains.flatMap tail).Sublist chains.flatten := by
    clear reps keys
    induction chains with
    | nil => exact .refl _
    | cons chain rest ih => exact (tail_sublist chain).append ih
  rw [(reps.records.map (·.seq)).nodup_iff, keys]
  exact reps.distinct.sublist tails

end

lemma head_not_key (reps : Represents table (chain :: others))
    (head : chain.head? = some first) : first ∉ table.map (·.seq) := by
  intro mem
  obtain ⟨record, recordMember, rfl⟩ := mem_map.mp mem
  obtain ⟨other, also, inTail⟩ := reps.key_mem recordMember
  have distinct := reps.distinct
  rw [flatten_cons, nodup_append] at distinct
  obtain ⟨rest, rfl⟩ := head?_eq_some_iff.mp head
  rcases mem_cons.mp also with rfl | also
  · exact (nodup_cons.mp distinct.1).1 inTail
  · have inOthers := mem_flatten.mpr ⟨other, also, mem_of_mem_tail inTail⟩
    exact distinct.2.2 _ (mem_cons_self ..) _ inOthers rfl

end Represents

/-! ## Collecting a chain -/

lemma links_sublist_of_ne (ne : record.seq ≠ seq)
    (ord : (links (chain ++ [seq])).reverse.Sublist (record :: rest)) :
    (links (chain ++ [seq])).reverse.Sublist rest := by
  rcases eq_nil_or_concat chain with rfl | ⟨prior, previous, rfl⟩
  · exact nil_sublist _
  · rw [concat_eq_append, append_assoc, cons_append, nil_append,
      links_concat, reverse_append, reverse_singleton, singleton_append] at *
    rcases sublist_cons_iff.mp ord with skips | ⟨tail, isTail, _⟩
    · exact skips
    · rw [cons.injEq] at isTail
      exact absurd (congrArg SeqChain.seq isTail.1).symm ne

lemma links_sublist_of_eq (same : record.seq = seq) (nodup : record.seq ∉ rest.map (·.seq))
    (ord : (links (chain ++ [previous, seq])).reverse.Sublist (record :: rest)) :
    record.chain = previous ∧ (links (chain ++ [previous])).reverse.Sublist rest := by
  rw [links_concat, reverse_append, reverse_singleton, singleton_append] at ord
  rcases sublist_cons_iff.mp ord with skips | ⟨tail, isTail, subl⟩
  · have mem := skips.subset (mem_cons_self ..)
    exact absurd (mem_map_of_mem mem) (same ▸ nodup)
  · rw [cons.injEq] at isTail
    exact ⟨congrArg SeqChain.chain isTail.1.symm, isTail.2 ▸ subl⟩

lemma mem_links_or_head (mem : seq ∈ chain) :
    chain.head? = some seq ∨ seq ∈ (links chain).map (·.seq) := by
  rw [links_keys]
  cases chain with
  | nil => exact absurd mem not_mem_nil
  | cons first rest =>
    rcases mem_cons.mp mem with rfl | inT
    · exact .inl rfl
    · exact .inr inT

/-- The first loop of `sendFinishedSignal`, on the reversed table, finds the whole chain that
ends with the number, and leaves the other records. -/
lemma collectChain_eq (nodup : (reversed.map (·.seq)).Nodup)
    (ord : (links (chain ++ [seq])).reverse.Sublist reversed)
    (headFree : ∀ first ∈ (chain ++ [seq]).head?, first ∉ reversed.map (·.seq)) :
    collectChain seq reversed =
      (chain.reverse, reversed.filter fun record => record.seq ∉ chain ++ [seq]) := by
  -- The induction follows the loop; the chain loses its last number at each hit.
  induction reversed generalizing chain seq with
  | nil =>
    have empty : (links (chain ++ [seq])).map (·.seq) = [] := by simpa using ord
    rw [links_keys] at empty
    cases chain with
    | nil => rfl
    | cons first others => simp at empty
  | cons record rest ih =>
    rw [map_cons, nodup_cons] at nodup
    rw [map_cons] at headFree
    unfold collectChain
    by_cases same : record.seq = seq
    · rcases eq_nil_or_concat chain with rfl | ⟨prior, previous, rfl⟩
      · exact absurd (same ▸ mem_cons_self ..) (headFree seq rfl)
      rw [concat_eq_append] at *
      simp only [append_assoc, cons_append, nil_append] at *
      obtain ⟨next, subl⟩ := links_sublist_of_eq same nodup.1 ord
      have headLater : ∀ first ∈ (prior ++ [previous]).head?, first ∉ rest.map (·.seq) := by
        intro first isFirst mem
        refine headFree first ?_ (mem_cons_of_mem _ mem)
        cases prior <;> simpa using isFirst
      have kept : rest.filter (fun record => record.seq ∉ prior ++ [previous]) =
          rest.filter (fun record => record.seq ∉ prior ++ [previous, seq]) := by
        apply filter_congr
        intro other mem
        have ne : other.seq ≠ seq := by
          intro sameSeq
          apply nodup.1
          rw [same, ← sameSeq]
          exact mem_map_of_mem mem
        simp [ne]
      rw [if_pos same, next, ih nodup.2 subl headLater, kept]
      simp [same]
    · have subl := links_sublist_of_ne same ord
      have later := ih nodup.2 subl (by
        intro first isFirst mem
        exact headFree first isFirst (mem_cons_of_mem _ mem))
      have outside : record.seq ∉ chain ++ [seq] := by
        intro mem
        rcases mem_links_or_head mem with head | inLinks
        · exact headFree _ head (mem_cons_self ..)
        · obtain ⟨other, also, sameSeq⟩ := mem_map.mp inLinks
          have inT := subl.subset (mem_reverse.mpr also)
          exact nodup.1 (sameSeq ▸ mem_map_of_mem inT)
      rw [if_neg same, later, filter_cons_of_pos (by simpa using outside)]

lemma collectChain_absent (miss : seq ∉ reversed.map (·.seq)) :
    collectChain seq reversed = ([], reversed) := by
  induction reversed with
  | nil => rfl
  | cons record rest ih =>
    rw [map_cons, mem_cons, not_or] at miss
    unfold collectChain
    rw [if_neg (Ne.symm miss.1), ih miss.2]

lemma Represents.collect (reps : Represents table ((chain ++ [seq]) :: rest)) :
    ∃ left, collectChain seq table.reverse = (chain.reverse, left.reverse) ∧
      Represents left rest := by
  have ord := reps.ordered _ (mem_cons_self ..)
  have distinct := reps.distinct
  rw [flatten_cons, nodup_append] at distinct
  have outside : ∀ other ∈ rest, ∀ record ∈ links other, record.seq ∉ chain ++ [seq] := by
    intro other mem record inLinks inChain
    have inOthers := mem_flatten.mpr ⟨other, mem, mem_of_mem_links inLinks⟩
    exact distinct.2.2 _ inChain _ inOthers rfl
  refine ⟨table.filter fun record => record.seq ∉ chain ++ [seq], ?_, distinct.2.1, ?_, ?_⟩
  · rw [collectChain_eq, filter_reverse]
    · rw [map_reverse, nodup_reverse]
      exact reps.keys_nodup
    · exact ord.reverse
    · intro first isFirst
      rw [map_reverse, mem_reverse]
      exact reps.head_not_key isFirst
  · have left := reps.records.filter fun record => decide (record.seq ∉ chain ++ [seq])
    have gone : (links (chain ++ [seq])).filter
        (fun record => decide (record.seq ∉ chain ++ [seq])) = [] := by
      apply filter_eq_nil_iff.mpr
      intro record mem
      rw [decide_eq_true_iff, not_not]
      exact mem_of_mem_links mem
    have kept : (rest.flatMap links).filter
        (fun record => decide (record.seq ∉ chain ++ [seq])) = rest.flatMap links := by
      apply filter_eq_self.mpr
      intro record mem
      obtain ⟨other, also, inLinks⟩ := mem_flatMap.mp mem
      exact decide_eq_true (outside other also record inLinks)
    rwa [flatMap_cons, filter_append, gone, kept, nil_append] at left
  · intro other mem
    have kept : (links other).filter (fun record => decide (record.seq ∉ chain ++ [seq])) =
        links other := by
      apply filter_eq_self.mpr
      intro record inLinks
      exact decide_eq_true (outside other mem record inLinks)
    have subl := reps.ordered other (mem_cons_of_mem _ mem)
    exact kept ▸ subl.filter _

/-! ## Sending -/

variable (outbox : Outbox)

def Outbox.sentSeqs : List UInt32 := outbox.sent.map (·.seq)

def Outbox.Reliable : Prop := ∀ status ∈ outbox.results, status = .ok

lemma Outbox.send_next (seq : UInt32) (took : Bool) :
    (∃ next, outbox.send seq took = (.ok, next) ∧ next.sentSeqs = outbox.sentSeqs ++ [seq] ∧
      (outbox.Reliable → next.Reliable)) ∨
    ∃ failure next, outbox.send seq took = (failure, next) ∧ failure ≠ .ok ∧
      next.sentSeqs = outbox.sentSeqs ∧ ¬ outbox.Reliable := by
  rcases outbox with ⟨_ | ⟨stat, rest⟩, sent⟩
  · exact .inl ⟨_, rfl, by simp [Outbox.sentSeqs], by simp [Outbox.Reliable]⟩
  · cases stat with
    | ok => exact .inl ⟨_, rfl, by simp [Outbox.sentSeqs], by simp [Outbox.Reliable]⟩
    | _ => exact .inr ⟨_, _, rfl, by simp, rfl, by simp [Outbox.Reliable]⟩

lemma sendChain_next (took : Bool) (outbox : Outbox) (seqs : List UInt32) :
    ∃ stat sent uns next, sendChain took outbox seqs = (stat, uns, next) ∧
      seqs = sent ++ uns ∧ next.sentSeqs = outbox.sentSeqs ++ sent ∧
      (stat = .ok ↔ uns = []) ∧ (outbox.Reliable → stat = .ok ∧ next.Reliable) := by
  induction seqs generalizing outbox with
  | nil => exact ⟨.ok, [], [], outbox, rfl, rfl, by simp, by simp, fun reliable => ⟨rfl, reliable⟩⟩
  | cons seq rest ih =>
    unfold sendChain
    rcases outbox.send_next seq took with
      ⟨next, sends, sentSeqs, reliable⟩ | ⟨failure, next, sends, notOk, sentSeqs, unreliable⟩
    · rcases ih next with ⟨stat, sent, uns, later, sendsLater, rfl, sentLater, rest⟩
      rw [sends]
      exact ⟨stat, seq :: sent, uns, later, sendsLater, rfl, by simp [sentLater, sentSeqs],
        rest.1, rest.2 ∘ reliable⟩
    · rw [sends]
      refine ⟨failure, [], seq :: rest, next, ?_, rfl, by simp [sentSeqs], by simp [notOk],
        fun reliable => absurd reliable unreliable⟩
      cases failure <;> first | rfl | exact absurd rfl notOk

namespace InputConsumer

variable {Coords Other : Type} {con : InputConsumer Coords Other} {outbox : Outbox}

lemma sendFinishedSignal_frame (con : InputConsumer Coords Other) (outbox : Outbox)
    (seq : UInt32) (took : Bool) :
    (con.sendFinishedSignal outbox seq took).2.1 = { con with
      mSeqChains := (con.sendFinishedSignal outbox seq took).2.1.mSeqChains } := by
  unfold sendFinishedSignal
  split
  · rfl
  · split
    split <;> rfl

lemma sendFinishedSignal_unchained (nonzero : seq ≠ 0)
    (miss : seq ∉ con.mSeqChains.map (·.seq)) (took : Bool) :
    con.sendFinishedSignal outbox seq took =
      ((outbox.send seq took).1, con, (outbox.send seq took).2) := by
  have coll : collectChain seq con.mSeqChains.reverse =
      ([], con.mSeqChains.reverse) := by
    apply collectChain_absent
    rwa [map_reverse, mem_reverse]
  unfold sendFinishedSignal
  rw [if_neg nonzero, coll]
  simp [sendChain]

/-- A finished signal for the last number of a chain sends the numbers of the chain in order, up
to a failure. The table then holds what is left of the chain. -/
lemma sendFinishedSignal_next
    (reps : Represents con.mSeqChains ((chain ++ [seq]) :: rest)) (nonzero : seq ≠ 0)
    (outbox : Outbox) (took : Bool) :
    ∃ sent uns, chain ++ [seq] = sent ++ uns ∧
      (con.sendFinishedSignal outbox seq took).2.2.sentSeqs = outbox.sentSeqs ++ sent ∧
      (((con.sendFinishedSignal outbox seq took).1 = .ok ∧ uns = [] ∧
          Represents (con.sendFinishedSignal outbox seq took).2.1.mSeqChains rest) ∨
        ((con.sendFinishedSignal outbox seq took).1 ≠ .ok ∧ uns ≠ [] ∧
          Represents (con.sendFinishedSignal outbox seq took).2.1.mSeqChains
            (uns :: rest))) := by
  obtain ⟨left, coll, leftRepresents⟩ := reps.collect
  have distinct := reps.distinct
  rw [flatten_cons] at distinct
  rcases sendChain_next took outbox chain with
    ⟨stat, sent, uns, next, sends, split, seqs, done, _⟩
  unfold sendFinishedSignal
  rw [if_neg nonzero, coll]
  simp only [reverse_reverse, sends]
  by_cases isOk : stat = .ok
  · have none : uns = [] := done.mp isOk
    subst isOk none
    rw [append_nil] at split
    subst split
    rcases next.send_next seq took with
      ⟨last, lastSends, lastSent, _⟩ | ⟨failure, last, lastSends, lastFails, lastSent, _⟩ <;>
      simp only [lastSends]
    · exact ⟨chain ++ [seq], [], by simp, by simp [lastSent, seqs],
        .inl ⟨trivial, rfl, leftRepresents⟩⟩
    · have pushed := leftRepresents.push [seq]
        (distinct.sublist ((sublist_append_right chain _).append_right _))
      rw [show links [seq] = [] from rfl, append_nil] at pushed
      exact ⟨chain, [seq], rfl, by simp [lastSent, seqs], .inr ⟨lastFails, by simp, pushed⟩⟩
  · subst split
    rw [append_assoc sent uns] at distinct
    have pushed := leftRepresents.push (uns ++ [seq])
      (distinct.sublist ((sublist_append_right sent _).append_right _))
    rw [← reconstruct_eq_links] at pushed
    refine ⟨sent, uns ++ [seq], by simp, ?_⟩
    cases stat with
    | ok => exact absurd rfl isOk
    | _ => exact ⟨seqs, .inr ⟨isOk, by simp, pushed⟩⟩

lemma sendFinishedSignal_reliable (nonzero : seq ≠ 0) (took : Bool)
    (reliable : outbox.Reliable) : (con.sendFinishedSignal outbox seq took).1 = .ok := by
  unfold sendFinishedSignal
  rw [if_neg nonzero]
  rcases sendChain_next took outbox (collectChain seq con.mSeqChains.reverse).1.reverse with
    ⟨stat, _, uns, next, sends, _, _, _, ok⟩
  rcases ok reliable with ⟨rfl, reliableNext⟩
  simp only [sends]
  rcases next.send_next seq took with ⟨last, lastSends, _⟩ | ⟨_, _, _, _, _, unreliable⟩
  · rw [lastSends]
  · exact absurd reliableNext unreliable

end InputConsumer

end NativeLibs.Input
