import Mathlib.Data.List.Count
import NativeLibs.Input.InputTransport

/-! # Books of sequence numbers

The books say of each event that the client has not finished which of its numbers were sent. -/

namespace NativeLibs.Input

open List

variable {Coords Other : Type}

/-- An event that is not finished, with the numbers that were sent for it and those that were
not. -/
structure Entry (Coords Other : Type) where
  delivered : Delivered Coords Other
  sent : List UInt32
  unsent : List UInt32

/-- The numbers of a run: what was published, what is not consumed yet, what was sent, and the
open events. -/
structure Books (published waiting : List UInt32) (table : List SeqChain) (sent : List UInt32)
    (opened : List (Entry Coords Other)) : Prop where
  distinct : published.Nodup
  nonzero : 0 ∉ published
  numbers : published.Perm (sent ++ ((opened.map (·.unsent)).flatten ++ waiting))
  chains : Represents table (opened.map (·.unsent))
  parts : ∀ entry ∈ opened, entry.delivered.seqs = entry.sent ++ entry.unsent
  last : ∀ entry ∈ opened, entry.unsent.getLast? = some entry.delivered.outSeq
  begun : ∀ entry ∈ opened, entry.sent.Sublist sent

namespace Books

variable {opened : List (Entry Coords Other)}

section

variable (books : Books published wait table sent opened)
include books

lemma sent_nodup : sent.Nodup :=
  (books.numbers.nodup_iff.mp books.distinct).sublist (sublist_append_left _ _)

lemma mem_published (mem : seq ∈ sent) : seq ∈ published :=
  books.numbers.mem_iff.mpr (mem_append_left _ mem)

lemma waiting_unchained (mem : seq ∈ wait) : seq ≠ 0 ∧ seq ∉ table.map (·.seq) := by
  constructor
  · intro isZero
    apply books.nonzero
    rw [← isZero]
    exact books.numbers.mem_iff.mpr (by simp [mem])
  · intro inTable
    obtain ⟨record, recordMember, rfl⟩ := mem_map.mp inTable
    have chained := books.chains.key_mem_flatten recordMember
    have nodup := (books.numbers.nodup_iff.mp books.distinct).sublist
      (sublist_append_right _ _)
    exact (nodup_append.mp nodup).2.2 _ chained _ mem rfl

lemma rearranged (same : wait.Perm rest) : Books published rest table sent opened :=
  { books with numbers := books.numbers.trans ((same.append_left _).append_left _) }

lemma publish (fresh : seq ∉ published) (pos : seq ≠ 0) :
    Books (published ++ [seq]) (wait ++ [seq]) table sent opened :=
  { books with
    distinct := by
      rw [nodup_append]
      refine ⟨books.distinct, nodup_singleton seq, ?_⟩
      intro other mem new isNew same
      rw [mem_singleton] at isNew
      exact fresh (isNew ▸ same ▸ mem)
    nonzero := by
      rw [mem_append, mem_singleton, not_or]
      exact ⟨books.nonzero, Ne.symm pos⟩
    numbers := by
      have nums := books.numbers.append_right [seq]
      simpa only [append_assoc] using nums }

end

lemma discard (books : Books published (seqs ++ wait) table sent opened) :
    Books published wait table (sent ++ seqs) opened :=
  { books with
    numbers := by
      apply books.numbers.trans
      rw [append_assoc]
      apply List.Perm.append_left
      rw [← append_assoc, ← append_assoc]
      exact perm_append_comm.append_right wait
    begun := fun e mem => (books.begun e mem).trans (sublist_append_left _ _) }

lemma deliver (books : Books published (given.seqs ++ wait) table sent opened)
    (last : given.seqs.getLast? = some given.outSeq) :
    Books published wait (table ++ links given.seqs) sent
      (⟨given, [], given.seqs⟩ :: opened) := by
  have moved : (sent ++ ((opened.map (·.unsent)).flatten ++ (given.seqs ++ wait))).Perm
      (sent ++ ((given.seqs ++ (opened.map (·.unsent)).flatten) ++ wait)) := by
    apply List.Perm.append_left
    rw [← append_assoc]
    exact perm_append_comm.append_right wait
  have nums := books.numbers.trans moved
  have nodup := ((nums.nodup_iff.mp books.distinct).sublist
    (sublist_append_right _ _)).sublist (sublist_append_left _ _)
  exact {
    distinct := books.distinct
    nonzero := books.nonzero
    numbers := by simpa using nums
    chains := books.chains.push given.seqs nodup
    parts := forall_mem_cons.2 ⟨rfl, books.parts⟩
    last := forall_mem_cons.2 ⟨last, books.last⟩
    begun := by
      intro e mem
      rcases mem_cons.mp mem with rfl | old
      · exact nil_sublist _
      · exact books.begun e old }

lemma advance (books : Books published wait table sent (e :: opened))
    (unsent : e.unsent = newly ++ left) (ne : left ≠ [])
    (chains : Represents nextTable (left :: opened.map (·.unsent))) :
    Books published wait nextTable (sent ++ newly)
      (⟨e.delivered, e.sent ++ newly, left⟩ :: opened) where
  __ := books
  numbers := by
    have nums := books.numbers
    simpa [unsent, append_assoc] using nums
  chains := chains
  parts := by
    refine forall_mem_cons.2 ⟨?_, fun other old => books.parts other (mem_cons_of_mem _
      old)⟩
    rw [books.parts e (mem_cons_self ..), unsent, append_assoc]
  last := by
    refine forall_mem_cons.2 ⟨?_, fun other old => books.last other (mem_cons_of_mem _
      old)⟩
    have last := books.last e (mem_cons_self ..)
    rw [unsent, getLast?_append_of_ne_nil _ ne] at last
    exact last
  begun :=
    forall_mem_cons.2 ⟨(books.begun e (mem_cons_self ..)).append_right newly, fun
      other old => (books.begun other (mem_cons_of_mem _ old)).trans (sublist_append_left
      _ _)⟩

lemma close (books : Books published wait table sent (e :: opened))
    (chains : Represents nextTable (opened.map (·.unsent))) :
    Books published wait nextTable (sent ++ e.unsent) opened where
  __ := books
  numbers := by simpa [append_assoc] using books.numbers
  chains := chains
  parts := fun other mem => books.parts other (mem_cons_of_mem _ mem)
  last := fun other mem => books.last other (mem_cons_of_mem _ mem)
  begun := fun other mem =>
    (books.begun other (mem_cons_of_mem _ mem)).trans (sublist_append_left _ _)

lemma perm (books : Books published wait table sent opened) (same : opened.Perm reopened) :
    Books published wait table sent reopened where
  __ := books
  numbers := books.numbers.trans (((same.map _).flatten.append_right _).append_left _)
  chains := books.chains.perm (same.map _)
  parts := fun e mem => books.parts e (same.mem_iff.mpr mem)
  last := fun e mem => books.last e (same.mem_iff.mpr mem)
  begun := fun e mem => books.begun e (same.mem_iff.mpr mem)

end Books

end NativeLibs.Input

/-! ## Acknowledgement

Every number that was consumed gets one finished message, once the client has finished the event
that it belongs to. -/

namespace NativeLibs.Input

open Transport InputConsumer List

variable {Coords Other : Type} {con : InputConsumer Coords Other}

lemma discard_unchained (box : Outbox)
    (unchained : ∀ msg ∈ samples, msg.seq ≠ 0 ∧ msg.seq ∉ con.mSeqChains.map (·.seq)) :
    (InputConsumer.discard box con samples).1 = con ∧ ∃ sent, sent.Sublist (samples.map (·.seq)) ∧
        (InputConsumer.discard box con samples).2.sentSeqs = box.sentSeqs ++ sent ∧
        (sent = samples.map (·.seq) ↔ ∀ stat ∈ box.results.take samples.length, stat = .ok) := by
  induction samples generalizing box with
  | nil => exact ⟨rfl, [], nil_sublist _, by simp [InputConsumer.discard], by simp⟩
  | cons msg rest ih =>
    rcases forall_mem_cons.1 unchained with ⟨⟨nonzero, miss⟩, unchained⟩
    unfold InputConsumer.discard
    rw [sendFinishedSignal_unchained nonzero miss]
    rcases box with ⟨_ | ⟨stat, later⟩, done⟩
    · rcases ih ⟨[], done ++ [⟨msg.seq, false⟩]⟩ unchained with
        ⟨same, sent, subl, sentSeqs, all⟩
      refine ⟨same, msg.seq :: sent, subl.cons_cons _, ?_, by simpa using all⟩
      simpa [Outbox.sentSeqs, Outbox.send] using sentSeqs
    · cases stat with
      | ok =>
        rcases ih ⟨later, done ++ [⟨msg.seq, false⟩]⟩ unchained with
          ⟨same, sent, subl, sentSeqs, all⟩
        refine ⟨same, msg.seq :: sent, subl.cons_cons _, ?_, by simpa using all⟩
        simpa [Outbox.sentSeqs, Outbox.send] using sentSeqs
      | _ =>
        rcases ih ⟨later, done⟩ unchained with ⟨same, sent, subl, sentSeqs, all⟩
        refine ⟨same, sent, subl.cons _, sentSeqs, ?_⟩
        refine iff_of_false ?_ (by simp)
        rintro rfl
        exact absurd subl.length_le (by simp)

/-! ## Every state of a run is accounted for -/

def InOrder (published : List (InputMessage Coords Other)) (consumer : InputConsumer Coords Other)
    (incoming : List (InputMessage Coords Other)) : Prop :=
  ∀ batch ∈ [] :: consumer.mBatches,
    (batch.map InputMessage.motion ++ (consumer.deferred.toList ++ incoming)).Sublist published

structure Accounted (state : Transport Coords Other) : Prop where
  books : ∃ opened, Books state.publishedSeqs state.waitingSeqs state.consumer.mSeqChains
    state.sentSeqs opened ∧ state.outstanding.Perm (opened.map (·.delivered))
  well : InputConsumer.WellBatched state.consumer.mBatches
  drawn : ∀ delivered ∈ state.events, delivered.messages.Sublist state.published
  finished : ∀ delivered ∈ state.events,
    delivered.seqs.Sublist state.sentSeqs ∨ delivered ∈ state.outstanding
  inOrder : InOrder state.published state.consumer state.incoming

namespace Accounted

variable {state : Transport Coords Other} {next : InputConsumer Coords Other}
  {inc : List (InputMessage Coords Other)}

lemma start (resample : Bool) :
    Accounted (Transport.start resample : Transport Coords Other) where
  books := by
    refine ⟨[], ?_, .refl _⟩
    constructor <;> simp [Transport.start, Transport.publishedSeqs, Transport.waitingSeqs,
      Transport.held, Transport.sentSeqs, create]
    exact ⟨by simp, by simp, by simp⟩
  well := ⟨by simp [Transport.start, create],
    by simp [Transport.start, create], by simp [Transport.start, create]⟩
  drawn := by simp [Transport.start]
  finished := by simp [Transport.start]
  inOrder := by simp [InOrder, Transport.start, create]

lemma rearrange (acc : Accounted state) (wait : state.waitingSeqs.Perm
      ((held next ++ inc).map (·.seq))) (chains : next.mSeqChains = state.consumer.mSeqChains)
    (well : InputConsumer.WellBatched next.mBatches) (ord : InOrder state.published next inc) :
    Accounted { state with consumer := next, incoming := inc } where
  __ := acc
  books := by
    obtain ⟨opened, books, clients⟩ := acc.books
    refine ⟨opened, ?_, clients⟩
    have rearranged := books.rearranged wait
    rw [← chains] at rearranged
    exact rearranged
  well := well
  inOrder := ord

lemma deliver (acc : Accounted state)
    (wait : state.waitingSeqs.Perm (given.seqs ++ (held next ++ inc).map (·.seq)))
    (last : given.seqs.getLast? = some given.outSeq)
    (chains : next.mSeqChains = state.consumer.mSeqChains ++ links given.seqs)
    (well : InputConsumer.WellBatched next.mBatches)
    (drawn : given.messages.Sublist state.published) (ord : InOrder state.published next inc) :
    Accounted { state with
      consumer := next
      incoming := inc
      events := state.events ++ [given]
      outstanding := state.outstanding ++ [given] } where
  books := by
    obtain ⟨opened, books, clients⟩ := acc.books
    refine ⟨⟨given, [], given.seqs⟩ :: opened, ?_, ?_⟩
    · have opens := (books.rearranged wait).deliver last
      rw [← chains] at opens
      exact opens
    · exact perm_append_comm.trans (clients.cons given)
  well := well
  drawn := forall_mem_append.2 ⟨acc.drawn, forall_mem_singleton.2 drawn⟩
  finished := by
    intro other mem
    rcases mem_append.mp mem with old | new
    · rcases acc.finished other old with fin | due
      · exact .inl fin
      · exact .inr (mem_append_left _ due)
    · exact .inr (mem_append_right _ new)
  inOrder := ord

/-! ### Messages that go on -/

section Loop

variable {arith : CoordArithmetic Coords} {blank : MotionEvent Coords Other}
  {box outbox : Outbox} {msg : InputMessage Coords Other}
  {rest : List (InputMessage Coords Other)} {used : InputConsumer.Consumed Coords Other}
  {pre after : List (List (Motion Coords Other))} {batch : List (Motion Coords Other)}

section

variable (acc : Accounted state)
include acc

section

variable (prompt : state.consumer.deferred = none) (first : state.incoming = msg :: rest)
include prompt first

lemma takes (mem : batch ∈ [] :: state.consumer.mBatches) :
    (batch.map InputMessage.motion ++ msg :: rest).Sublist state.published := by
  have ord := acc.inOrder batch mem
  rwa [prompt, first] at ord

lemma goOn (took : InputConsumer.Handled arith blank state.consumer box msg
      (.goOn next outbox)) : Accounted { state with consumer := next, incoming := rest } := by
  have well := took.wellBatched_goOn acc.well
  have skips : ∀ batch ∈ [] :: state.consumer.mBatches,
      (batch.map InputMessage.motion ++ rest).Sublist state.published := by
    intro batch mem
    exact ((sublist_cons_self msg rest).append_left _).trans (acc.takes prompt first mem)
  cases took with
  | @started mot miss =>
    refine acc.rearrange ?_ rfl well ?_
    · rw [waitingSeqs, held_seqs, held_seqs]
      simp [prompt, first, InputMessage.seq]
    · intro batch mem
      simp only [prompt, Option.toList_none, nil_append]
      rw [← cons_append, mem_append, mem_singleton] at mem
      rcases mem with old | rfl
      · exact skips batch old
      · exact acc.takes prompt first (mem_cons_self ..)
  | @appended mot head pre after batch split isHead sameKind =>
    refine acc.rearrange ?_ rfl well ?_
    · rw [waitingSeqs, held_seqs, held_seqs, perm_iff_count]
      intro seq
      simp [prompt, first, split, InputMessage.seq, count_cons]
      omega
    · intro other mem
      simp only [prompt, Option.toList_none, nil_append]
      have old : batch ∈ [] :: state.consumer.mBatches := by simp [split]
      rcases mem_cons.mp mem with rfl | mem
      · exact skips [] (mem_cons_self ..)
      rcases mem_append.mp mem with inBefore | mem
      · exact skips other (by simp [split, inBefore])
      rcases mem_cons.mp mem with rfl | inAfter
      · simpa using acc.takes prompt first old
      · exact skips other (by simp [split, inAfter])

/-! ### Messages that become events -/

lemma deliverFirst (event : InputEvent Coords Other) (states : List (TouchState Coords)) :
    Accounted { state with
      consumer := { state.consumer with mTouchStates := states }
      incoming := rest
      events := state.events ++ [⟨msg.seq, event, [msg]⟩]
      outstanding := state.outstanding ++ [⟨msg.seq, event, [msg]⟩] } := by
  have foll := acc.takes prompt first (mem_cons_self ..)
  refine acc.deliver ?_ rfl (append_nil _).symm acc.well ?_ ?_
  · rw [waitingSeqs, held_seqs, held_seqs, perm_iff_count]
    intro seq
    simp [prompt, first, Delivered.seqs, count_cons]
    omega
  · exact (cons_sublist_cons.mpr (nil_sublist rest)).trans foll
  · intro batch mem
    simp only [prompt, Option.toList_none, nil_append]
    exact ((sublist_cons_self msg rest).append_left _).trans (acc.takes prompt first mem)

end

lemma discardBatch (split : state.consumer.mBatches = pre ++ batch :: after)
    {sent : List Finished} (sends : sent.map (·.seq) = state.sentSeqs ++ batch.map (·.seq)) :
    Accounted { state with
      consumer := { state.consumer with mBatches := pre ++ after }
      sent := sent } where
  __ := acc
  books := by
    obtain ⟨opened, books, clients⟩ := acc.books
    refine ⟨opened, ?_, clients⟩
    have moved : state.waitingSeqs.Perm (batch.map (·.seq) ++
        (held { state.consumer with mBatches := pre ++ after } ++
          state.incoming).map (·.seq)) := by
      rw [waitingSeqs, held_seqs, held_seqs, perm_iff_count]
      intro seq
      simp only [split, flatten_append, flatten_cons, map_append, count_append]
      omega
    have discarded := (books.rearranged moved).discard
    rw [← sends] at discarded
    exact discarded
  well := by
    have well := acc.well
    rw [split] at well
    exact well.remove
  finished := by
    intro given mem
    rcases acc.finished given mem with fin | due
    · left
      unfold sentSeqs
      rw [sends]
      exact fin.trans (sublist_append_left _ _)
    · exact .inr due
  inOrder := by
    intro other mem
    apply acc.inOrder other
    rw [split]
    simp only [mem_cons, mem_append] at mem ⊢
    tauto

lemma deliverSamples (deferred : List (InputMessage Coords Other))
    (split : state.consumer.mBatches = pre ++ (samples ++ later) :: after)
    (ne : samples ≠ []) (prompt : state.consumer.deferred = none)
    (yielded : state.incoming = deferred ++ inc) (isDeferred : con.deferred.toList = deferred)
    (bats : con.mBatches = pre ++ (remaining later ++ after))
    (chains : con.mSeqChains = state.consumer.mSeqChains ++ links (samples.map (·.seq)))
    (last : (samples.map (·.seq)).getLast? = some seq) (event : InputEvent Coords Other) :
    Accounted { state with
      consumer := con
      incoming := inc
      events := state.events ++ [⟨seq, event, samples.map .motion⟩]
      outstanding := state.outstanding ++ [⟨seq, event, samples.map .motion⟩] } := by
  have flattened : (remaining later).flatten = later := by cases later <;> simp [remaining]
  have inBatch := acc.inOrder (samples ++ later) (by simp [split])
  rw [map_append, append_assoc] at inBatch
  refine acc.deliver ?_ ?_ ?_ ?_ ?_ ?_
  · rw [waitingSeqs, held_seqs, held_seqs, perm_iff_count]
    intro n
    simp only [Delivered.seqs, map_seq_motion, split, prompt, yielded, isDeferred,
      bats, flatten_append, flatten_cons, flattened, map_append,
      Option.toList_none, nil_append, count_append]
    omega
  · rw [Delivered.seqs, map_seq_motion]
    exact last
  · rw [Delivered.seqs, map_seq_motion]
    exact chains
  · have well := acc.well
    rw [split] at well
    rw [bats]
    exact well.take ne
  · exact (sublist_append_left _ _).trans inBatch
  · intro other mem
    rw [isDeferred, ← yielded]
    have same : ∀ batch ∈ [] :: state.consumer.mBatches,
        (batch.map InputMessage.motion ++ state.incoming).Sublist state.published := by
      intro batch old
      have ord := acc.inOrder batch old
      rwa [prompt] at ord
    rw [bats, mem_cons, mem_append, mem_append] at mem
    rcases mem with rfl | inBefore | isLater | inAfter
    · exact same [] (mem_cons_self ..)
    · exact same other (by simp [split, inBefore])
    · have isLater : other = later := by
        cases later <;> simp_all [remaining]
      subst isLater
      rw [prompt] at inBatch
      exact (sublist_append_right _ _).trans inBatch
    · exact same other (by simp [split, inAfter])

variable (prompt : state.consumer.deferred = none)
include prompt

lemma leave (first : state.incoming = msg :: rest)
    (reliable : Outbox.Reliable ⟨results, state.sent⟩)
    (took : InputConsumer.Handled arith blank state.consumer ⟨results, state.sent⟩ msg
      (.leave used)) : Accounted (state.afterConsume used rest) := by
  cases took with
  | other noMotion noMotionEvent =>
    exact acc.deliverFirst prompt first _ state.consumer.mTouchStates
  | single miss => exact acc.deliverFirst prompt first _ _
  | @cancelled mot head pre after batch split isHead eqStrm ptr isCancel =>
    obtain ⟨opened, books, clients⟩ := acc.books
    have unchained : ∀ sample ∈ batch, sample.seq ≠ 0 ∧
        sample.seq ∉ state.consumer.mSeqChains.map (·.seq) := by
      intro sample mem
      apply books.waiting_unchained
      rw [waitingSeqs, held_seqs, split]
      apply mem_append_left
      exact mem_map_of_mem (by simp [mem])
    rcases discard_unchained ⟨results, state.sent⟩ unchained with ⟨same, sent, _, sends, all⟩
    rw [all.2 fun stat mem => reliable stat (mem_of_mem_take mem)] at sends
    have discarded := acc.discardBatch split sends
    rw [same]
    exact discarded.deliverFirst prompt first _ _
  | @deferred mot head pre after batch split isHead eqStrm =>
    have whole : state.consumer.mBatches = pre ++ (batch ++ []) :: after := by
      rw [append_nil]
      exact split
    have ne : batch ≠ [] := acc.well.nonempty batch (by simp [split])
    obtain ⟨frame, last⟩ := consumeSamples_frame arith state.consumer blank ne
    refine acc.deliverSamples [.motion mot] whole ne prompt first rfl rfl ?_
      last _
    exact congrArg mSeqChains frame

lemma idle (idled : InputConsumer.Idled arith blank state.consumer ⟨results, state.sent⟩ used) :
    Accounted (state.afterConsume used state.incoming) := by
  cases idled with
  | nothing stat => simpa [afterConsume, received, noEvent] using acc
  | @taken pre after samples later event states split ne unsampled =>
    obtain ⟨frame, last⟩ := consumeSamples_frame arith state.consumer blank ne
    have stillUndeferred : (consumeSamples arith state.consumer blank samples).1.deferred = none :=
      (congrArg deferred frame).trans prompt
    refine acc.deliverSamples [] split ne prompt rfl ?_ rfl ?_ last _
    · exact congrArg Option.toList stillUndeferred
    · exact congrArg mSeqChains frame

end

end Loop

/-! ### Steps -/

section

variable (acc : Accounted state)
include acc

lemma publish (fresh : msg.seq ∉ state.publishedSeqs) (nonzero : msg.seq ≠ 0)
    (arith : CoordArithmetic Coords) : Accounted (state.step arith (.publish msg)) where
  __ := acc
  books := by
    obtain ⟨opened, books, clients⟩ := acc.books
    refine ⟨opened, ?_, clients⟩
    have sent := books.publish fresh nonzero
    simpa [step, publishedSeqs, waitingSeqs, sentSeqs]
      using sent
  drawn := fun given mem =>
    (acc.drawn given mem).trans (sublist_append_left _ _)
  inOrder := by
    intro batch mem
    have ord := (acc.inOrder batch mem).append_right [msg]
    simpa [step] using ord

lemma consume (fac : call.factory = some blank) (reliable : ∀ stat ∈ sends, stat = .ok) :
    Accounted (state.step arith (.consume call sends)) := by
  -- In the loop the state is that of a client that has received no event yet.
  apply consume_rule (fun con box msgs =>
      Accounted { state with consumer := con, incoming := msgs, sent := box.sent } ∧
        con.deferred = none ∧ box.Reliable)
    Accounted fac
  · intro con box msgs inLoop
    exact inLoop.1.well.nonempty
  · refine ⟨?_, rfl, reliable⟩
    refine acc.rearrange ?_ rfl acc.well acc.inOrder
    rw [waitingSeqs, held_seqs, held_seqs]
    exact .refl _
  · intro con box msg rest next outbox inLoop took
    have goesOn := inLoop.1.goOn inLoop.2.1 rfl took
    cases took <;> exact ⟨goesOn, inLoop.2⟩
  · intro con box msg rest used inLoop took
    exact inLoop.1.leave inLoop.2.1 rfl inLoop.2.2 took
  · intro con box msgs used inLoop idled
    exact inLoop.1.idle inLoop.2.1 idled

lemma signal (frame : con = { state.consumer with mSeqChains := con.mSeqChains })
    {sent : List Finished} {due : List (Delivered Coords Other)}
    (books : ∃ opened, Books state.publishedSeqs state.waitingSeqs con.mSeqChains
      (sent.map (·.seq)) opened ∧ due.Perm (opened.map (·.delivered)))
    (fin : ∀ given ∈ state.events, given.seqs.Sublist (sent.map (·.seq)) ∨ given ∈ due) :
    Accounted { state with consumer := con, sent := sent, outstanding := due } := by
  generalize con.mSeqChains = chains at frame books
  subst frame
  exact ⟨books, acc.well, acc.drawn, fin, acc.inOrder⟩

lemma entry (owed : ∃ given ∈ state.outstanding, given.outSeq = seq) :
    ∃ entry rest, Books state.publishedSeqs state.waitingSeqs state.consumer.mSeqChains
        state.sentSeqs (entry :: rest) ∧ entry.delivered.outSeq = seq ∧
      state.outstanding.Perm (entry.delivered :: rest.map (·.delivered)) ∧
      (state.outstanding.eraseP (·.outSeq = seq)).Perm (rest.map (·.delivered)) := by
  obtain ⟨opened, books, clients⟩ := acc.books
  obtain ⟨mem, memberIn, isSeq⟩ := owed
  obtain ⟨given, pre, after, _, sameSeq, split, ers⟩ :=
    exists_of_eraseP (p := fun given => given.outSeq = seq) memberIn
      (decide_eq_true isSeq)
  obtain ⟨entry, entryIn, rfl⟩ : ∃ entry ∈ opened, entry.delivered = given := by
    apply mem_map.mp
    exact clients.mem_iff.mp (by simp [split])
  obtain ⟨front, back, rfl⟩ := append_of_mem entryIn
  have reordered : (front ++ entry :: back).Perm (entry :: (front ++ back)) := perm_middle
  have due := clients.trans (reordered.map (·.delivered))
  refine ⟨entry, front ++ back, books.perm reordered, of_decide_eq_true sameSeq, due, ?_⟩
  rw [ers]
  rw [split] at due
  exact (perm_middle.symm.trans due).cons_inv

lemma finish {seq : UInt32} (owed : ∃ given ∈ state.outstanding, given.outSeq = seq)
    (took : Bool) (sends : List Status) (arith : CoordArithmetic Coords) :
    Accounted (state.step arith (.finish seq took sends)) := by
  obtain ⟨entry, rest, books, rfl, due, ers⟩ := acc.entry owed
  obtain ⟨chain, isChain⟩ := getLast?_eq_some_iff.mp (books.last entry (mem_cons_self ..))
  have nonzero : entry.delivered.outSeq ≠ 0 := by
    intro isZero
    apply books.nonzero
    exact books.numbers.mem_iff.mpr (by simp [isChain, isZero])
  have chains := books.chains
  rw [map_cons, isChain] at chains
  obtain ⟨newly, left, parts, sent, res⟩ :=
    state.consumer.sendFinishedSignal_next chains nonzero ⟨sends, state.sent⟩ took
  have frame := state.consumer.sendFinishedSignal_frame ⟨sends, state.sent⟩
    entry.delivered.outSeq took
  unfold step
  dsimp only
  generalize state.consumer.sendFinishedSignal ⟨sends, state.sent⟩ entry.delivered.outSeq took =
    oc at sent res frame ⊢
  obtain ⟨stat, next, box⟩ := oc
  have sentSeqs : box.sent.map (·.seq) = state.sentSeqs ++ newly := sent
  have fin : ∀ given ∈ state.events, given.seqs.Sublist (state.sentSeqs ++ newly) ∨
      given ∈ state.outstanding := by
    intro given mem
    rcases acc.finished given mem with fin | unfin
    · exact .inl (fin.trans (sublist_append_left _ _))
    · exact .inr unfin
  refine acc.signal frame ?_ ?_
  · rw [sentSeqs]
    rcases res with ⟨ok, rfl, leftChains⟩ | ⟨fails, ne, leftChains⟩
    · rw [append_nil] at parts
      have closed := books.close leftChains
      rw [isChain, parts] at closed
      rw [if_pos ok]
      exact ⟨rest, closed, ers⟩
    · rw [if_neg fails]
      exact ⟨_, books.advance (isChain.trans parts) ne leftChains, due⟩
  · rw [sentSeqs]
    rcases res with ⟨ok, rfl, _⟩ | ⟨fails, _, _⟩
    · rw [append_nil] at parts
      rw [if_pos ok]
      intro given mem
      rcases fin given mem with fin | unfin
      · exact .inl fin
      rcases mem_cons.mp (due.mem_iff.mp unfin) with rfl | other
      · left
        rw [books.parts entry (mem_cons_self ..), isChain, parts]
        exact (books.begun entry (mem_cons_self ..)).append_right newly
      · exact .inr (ers.mem_iff.mpr other)
    · rw [if_neg fails]
      exact fin

end

end Accounted

/-! ## Every run is accounted for -/

namespace Transport

/-- Published numbers are distinct and not zero, the factory does not fail, sends inside of
`consume` succeed, and the client finishes the events that it has received. -/
def Permitted (state : Transport Coords Other) : Label Coords Other → Prop
  | .publish msg => msg.seq ≠ 0 ∧ msg.seq ∉ state.publishedSeqs
  | .consume call sends => call.factory.isSome ∧ ∀ status ∈ sends, status = .ok
  | .finish seq _ _ => ∃ delivered ∈ state.outstanding, delivered.outSeq = seq

instance (state : Transport Coords Other) :
    (label : Label Coords Other) → Decidable (state.Permitted label)
  | .publish _ => inferInstanceAs (Decidable (_ ∧ _))
  | .consume _ _ => inferInstanceAs (Decidable (_ ∧ _))
  | .finish seq _ _ =>
    inferInstanceAs (Decidable (∃ delivered ∈ state.outstanding, delivered.outSeq = seq))

lemma accounted_step (arith : CoordArithmetic Coords) (state : Transport Coords Other)
    (label : Label Coords Other) (acc : Accounted state) (permitted : state.Permitted label) :
    Accounted (state.step arith label) := by
  cases label with
  | publish msg => exact acc.publish permitted.2 permitted.1 arith
  | consume call sends =>
    obtain ⟨blank, fac⟩ := Option.isSome_iff_exists.mp permitted.1
    exact acc.consume fac permitted.2
  | finish seq took sends => exact acc.finish permitted took sends arith

end Transport

lemma Accounted.whereabouts (acc : Accounted state) (published : seq ∈ state.publishedSeqs) :
    seq ∈ state.waitingSeqs ∨ (∃ given ∈ state.outstanding, seq ∈ given.seqs) ∨
      seq ∈ state.sentSeqs := by
  rcases acc.books with ⟨opened, books, clients⟩
  rcases mem_append.mp (books.numbers.mem_iff.mp published) with sent | uns
  · exact .inr (.inr sent)
  rcases mem_append.mp uns with inOpened | wait
  · rcases mem_flatten.mp inOpened with ⟨nums, numbersIn, inNumbers⟩
    rcases mem_map.mp numbersIn with ⟨entry, entryIn, rfl⟩
    refine .inr (.inl ⟨_, clients.mem_iff.mpr (mem_map_of_mem entryIn), ?_⟩)
    rw [books.parts entry entryIn]
    exact mem_append_right _ inNumbers
  · exact .inl wait

lemma Accounted.sent_in_order (acc : Accounted state) (mem : given ∈ state.events)
    (ord : [prior, later].Sublist given.seqs) (sent : later ∈ state.sentSeqs) :
    [prior, later].Sublist state.sentSeqs := by
  rcases acc.finished given mem with fin | due
  · exact ord.trans fin
  obtain ⟨opened, books, clients⟩ := acc.books
  obtain ⟨entry, entryIn, rfl⟩ := mem_map.mp (clients.mem_iff.mp due)
  rw [books.parts entry entryIn] at ord
  have notUnsent : later ∉ entry.unsent := by
    intro inUnsent
    have nodup := books.numbers.nodup_iff.mp books.distinct
    apply (nodup_append.mp nodup).2.2 later sent later ?_ rfl
    apply mem_append_left
    exact mem_flatten.mpr ⟨entry.unsent, mem_map_of_mem entryIn, inUnsent⟩
  -- The later number is not in the unsent part, so neither is the earlier one.
  obtain ⟨front, back, parts, frontSent, backUnsent⟩ := sublist_append_iff.mp ord
  have noBack : back = [] := by
    rcases eq_nil_or_concat back with none | ⟨rest, last, rfl⟩
    · exact none
    · rw [concat_eq_append, ← append_assoc] at parts
      have isLast : later = last := by
        have lasts := congrArg getLast? parts
        simpa using lasts
      exact absurd (backUnsent.subset (by simp [isLast])) notUnsent
  rw [noBack, append_nil] at parts
  rw [parts]
  exact frontSent.trans (books.begun entry entryIn)

/-- In every permitted run, a number is sent at most once and only if it was published and
consumed; a consumed number has been sent unless it belongs to an event that the client has
not finished; the numbers of an event are sent in publication order; and every event can be
finished once sends succeed. -/
theorem consumed_finished_once (arith : CoordArithmetic Coords) (resampleTouch : Bool)
    (labels : List (Transport.Label Coords Other))
    (along : Machine.Along (step arith) Transport.Permitted (start resampleTouch) labels) :
    let state := Machine.run (step arith) (start resampleTouch) labels
    state.sentSeqs.Nodup ∧
      (∀ seq ∈ state.sentSeqs, seq ∈ state.publishedSeqs ∧ seq ∉ state.waitingSeqs) ∧
      (∀ seq ∈ state.publishedSeqs, seq ∉ state.waitingSeqs →
        (∀ delivered ∈ state.outstanding, seq ∉ delivered.seqs) → state.sentSeqs.count seq = 1) ∧
      (∀ delivered ∈ state.events, delivered.messages.Sublist state.published ∧
        ∀ earlier later, [earlier, later].Sublist delivered.seqs → later ∈ state.sentSeqs →
          [earlier, later].Sublist state.sentSeqs) ∧
      ∀ delivered ∈ state.outstanding, ∀ handled,
        (state.consumer.sendFinishedSignal ⟨[], state.sent⟩ delivered.outSeq handled).1 = .ok := by
  intro state
  have accounted : Accounted state :=
    Machine.run_invariant (accounted_step arith) (Accounted.start resampleTouch) along
  obtain ⟨opened, books, clients⟩ := accounted.books
  have nodup := books.numbers.nodup_iff.mp books.distinct
  refine ⟨books.sent_nodup, ?_, ?_, ?_, ?_⟩
  · intro seq sent
    refine ⟨books.mem_published sent, ?_⟩
    intro waiting
    exact (nodup_append.mp nodup).2.2 seq sent seq (mem_append_right _ waiting) rfl
  · intro seq published notWaiting notOutstanding
    apply count_eq_one_of_mem books.sent_nodup
    rcases accounted.whereabouts published with waiting | ⟨delivered, mem, inside⟩ | sent
    · exact absurd waiting notWaiting
    · exact absurd inside (notOutstanding delivered mem)
    · exact sent
  · intro delivered mem
    exact ⟨accounted.drawn delivered mem, fun earlier later ordered sent =>
      accounted.sent_in_order mem ordered sent⟩
  · intro delivered mem handled
    apply sendFinishedSignal_reliable
    · obtain ⟨entry, entryIn, rfl⟩ := mem_map.mp (clients.mem_iff.mp mem)
      intro isZero
      apply books.nonzero
      have last := mem_of_getLast? (books.last entry entryIn)
      rw [isZero] at last
      apply books.numbers.mem_iff.mpr
      apply mem_append_right
      apply mem_append_left
      exact mem_flatten.mpr ⟨_, mem_map_of_mem entryIn, last⟩
    · simp [Outbox.Reliable]

def moveMessage (seq : UInt32) : InputMessage Unit Unit :=
  .motion ⟨seq, 0, 1, 2, actionMove, 0, [⟨⟨0, 1⟩, ()⟩], ()⟩

def noCoordinates : CoordArithmetic Unit := ⟨fun _ _ => true, fun _ _ => (), fun _ _ _ _ => ()⟩

def retriedFinish : List (Transport.Label Unit Unit) :=
  [.publish (moveMessage 1), .publish (moveMessage 2),
    .consume ⟨true, -1, 2, .wouldBlock, some ⟨0, 0, 0, 0, [], (), []⟩⟩ [],
    .finish 2 true [.ok, .wouldBlock], .finish 2 true []]

theorem consumed_finished_once_retried :
    Machine.Along (step noCoordinates) Transport.Permitted (start false) retriedFinish ∧
      (Machine.run (step noCoordinates) (start false) retriedFinish).sentSeqs = [1, 2] ∧
      (Machine.run (step noCoordinates) (start false) retriedFinish).sentSeqs.Nodup :=
  ⟨by decide +kernel, by decide +kernel,
    (consumed_finished_once noCoordinates false retriedFinish (by decide +kernel)).1⟩

end NativeLibs.Input
