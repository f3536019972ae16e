import NativeLibs.Flinger.SurfaceFlinger

/-! # The discipline of the transaction queues

For each token, the transactions that were applied and then those in its queue are the ones that
were submitted, in their order. That one is applied once, in order and not lost follows from it.
What the flush applies is what was submitted, except for the input window commands: a queue entry
has none, and the flush passes the pending ones. -/

namespace NativeLibs.Flinger

open SurfaceFlinger Composer Scheduler List AList Machine

variable {Token World Value : Type} {submitted : List (Submission Token Value)}

/-! ## The books -/

def Genuine (submitted : List (Submission Token Value)) (ticket : Nat)
    (application : Application Value) : Prop :=
  ∃ submission, submitted[ticket]? = some submission ∧
    application = { submission.application with
      inputWindowCommands := application.inputWindowCommands }

lemma Genuine.lt (genuine : Genuine submitted ticket app) : ticket < submitted.length := by
  obtain ⟨sub, hit, -⟩ := genuine
  exact (List.getElem?_eq_some_iff.mp hit).1

lemma Genuine.append (genuine : Genuine submitted ticket app)
    (more : List (Submission Token Value)) : Genuine (submitted ++ more) ticket app := by
  obtain ⟨sub, hit, same⟩ := genuine
  exact ⟨sub, List.getElem?_append_left (List.getElem?_eq_some_iff.mp hit).1 ▸ hit, same⟩

def Queued (submitted : List (Submission Token Value)) (token : Token)
    (transaction : TransactionState Value) : Prop :=
  ∃ submission, submitted[transaction.ticket]? = some submission ∧
    submission.applyToken = token ∧ transaction = submission.application.enqueue transaction.ticket

lemma Queued.append (queued : Queued submitted token tx)
    (more : List (Submission Token Value)) : Queued (submitted ++ more) token tx := by
  obtain ⟨sub, hit, itsToken, same⟩ := queued
  exact ⟨sub, List.getElem?_append_left (List.getElem?_eq_some_iff.mp hit).1 ▸ hit,
    itsToken, same⟩

lemma Queued.genuine (queued : Queued submitted token tx) (pend : InputWindowCommands) :
    Genuine submitted tx.ticket (tx.application pend) := by
  obtain ⟨sub, hit, -, same⟩ := queued
  refine ⟨sub, hit, ?_⟩
  rw [same]
  rfl

section Books

variable [DecidableEq Token] {flinger noted : SurfaceFlinger Token World Value}
  {done : List (TransactionState Value)}

def IsFor (submitted : List (Submission Token Value)) (token : Token) (ticket : Nat) : Bool :=
  submitted[ticket]?.any (·.applyToken = token)

section

variable (flinger) (token)

def ticketsOf : List Nat :=
  (range flinger.submitted.length).filter (IsFor flinger.submitted token)

def appliedOf : List Nat :=
  (flinger.applied.map (·.ticket)).filter (IsFor flinger.submitted token)

def queuedOf : List Nat :=
  ((flinger.mTransactionQueues.lookup token).getD []).map (·.ticket)

end

structure Booked (flinger : SurfaceFlinger Token World Value) : Prop where
  conserved : ∀ token, appliedOf flinger token ++ queuedOf flinger token = ticketsOf flinger token
  ready : ∀ applied ∈ flinger.applied, applied.ready = true
  genuine : ∀ applied ∈ flinger.applied,
    Genuine flinger.submitted applied.ticket applied.application
  queued : ∀ token queue, flinger.mTransactionQueues.lookup token = some queue →
    queue ≠ [] ∧ ∀ transaction ∈ queue, Queued flinger.submitted token transaction
  raised : ∀ token, token ∈ flinger.mTransactionQueues →
    has flinger.mTransactionFlags eTransactionFlushNeeded = true

lemma booked_create (config : OffsetsConfig) (displays : Displays Value) (world : World) :
    Booked (create config displays world : SurfaceFlinger Token World Value) where
  conserved _ := rfl
  ready := nofun
  genuine := nofun
  queued := nofun
  raised token mem := absurd mem (notMem_empty token)

lemma Booked.congr {after : SurfaceFlinger Token World Value} (filed : Booked old)
    (queues : after.mTransactionQueues = old.mTransactionQueues)
    (submitted : after.submitted = old.submitted) (appl : after.applied = old.applied)
    (raised : ∀ token, token ∈ old.mTransactionQueues →
      has after.mTransactionFlags eTransactionFlushNeeded = true) : Booked after where
  conserved token := by
    unfold appliedOf queuedOf ticketsOf
    rw [queues, submitted, appl]
    exact filed.conserved token
  ready := appl ▸ filed.ready
  genuine := by
    rw [appl, submitted]
    exact filed.genuine
  queued := by
    rw [queues, submitted]
    exact filed.queued
  raised := by
    rw [queues]
    exact raised

/-! ### A new submission -/

lemma isFor_append (submitted more : List (Submission Token Value)) (token : Token)
    (old : ticket < submitted.length) :
    IsFor (submitted ++ more) token ticket = IsFor submitted token ticket := by
  unfold IsFor
  rw [getElem?_append_left old]

lemma isFor_last (submitted : List (Submission Token Value))
    (sub : Submission Token Value) (token : Token) :
    IsFor (submitted ++ [sub]) token submitted.length = decide (sub.applyToken = token) := by
  simp [IsFor]

lemma tickets_append (submitted : List (Submission Token Value))
    (sub : Submission Token Value) (token : Token) : (range (submitted ++ [sub]).length).filter
        (IsFor (submitted ++ [sub]) token) =
      (range submitted.length).filter (IsFor submitted token) ++
        if sub.applyToken = token then [submitted.length] else [] := by
  rw [length_append, length_singleton, range_succ, filter_append]
  congr 1
  · refine filter_congr fun ticket mem => ?_
    rw [isFor_append _ _ _ (mem_range.mp mem)]
  · simp [filter_cons, isFor_last]

lemma applied_append {appl : List (Applied Value)}
    (genuine : ∀ e ∈ appl, Genuine submitted e.ticket e.application)
    (more : List (Submission Token Value)) (token : Token) :
    (appl.map (·.ticket)).filter (IsFor (submitted ++ more) token) =
      (appl.map (·.ticket)).filter (IsFor submitted token) := by
  refine filter_congr fun ticket mem => ?_
  obtain ⟨e, isEntry, rfl⟩ := mem_map.mp mem
  exact isFor_append _ _ _ (genuine e isEntry).lt

lemma Booked.enqueue (filed : Booked flinger)
    (queues : noted.mTransactionQueues = flinger.mTransactionQueues.insert
      sub.applyToken ((flinger.mTransactionQueues.lookup sub.applyToken).getD [] ++
        [sub.application.enqueue flinger.submitted.length]))
    (submitted : noted.submitted = flinger.submitted ++ [sub])
    (appl : noted.applied = flinger.applied)
    (raised : has noted.mTransactionFlags eTransactionFlushNeeded = true) :
    Booked noted where
  conserved token := by
    unfold appliedOf queuedOf ticketsOf
    rw [submitted, appl, tickets_append, applied_append filed.genuine, queues]
    have conserved := filed.conserved token
    unfold appliedOf queuedOf ticketsOf at conserved
    rw [← conserved, append_assoc]
    congr 1
    by_cases same : sub.applyToken = token
    · subst same
      rw [lookup_insert, if_pos rfl, Option.getD_some, map_append]
      rfl
    · rw [lookup_insert_ne (Ne.symm same), if_neg same, append_nil]
  ready := appl ▸ filed.ready
  genuine e mem := by
    rw [submitted]
    exact (filed.genuine e (appl ▸ mem)).append [sub]
  queued token q hit := by
    have keeps : ∀ old, flinger.mTransactionQueues.lookup token = some old →
        ∀ tx ∈ old, Queued noted.submitted token tx := by
      intro old isOld tx mem
      rw [submitted]
      exact ((filed.queued token old isOld).2 tx mem).append [sub]
    rw [queues] at hit
    by_cases same : token = sub.applyToken
    · subst same
      rw [lookup_insert, Option.some.injEq] at hit
      subst hit
      refine ⟨by simp, fun tx mem => ?_⟩
      rcases mem_append.mp mem with old | new
      · cases pend : flinger.mTransactionQueues.lookup sub.applyToken with
        | none =>
          rw [pend] at old
          cases old
        | some q =>
          rw [pend] at old
          exact keeps q pend tx old
      · cases mem_singleton.mp new
        refine ⟨sub, ?_, rfl, rfl⟩
        rw [submitted]
        exact getElem?_concat_length
    · rw [lookup_insert_ne same] at hit
      exact ⟨(filed.queued token q hit).1, keeps q hit⟩
  raised _ _ := raised

lemma Booked.apply (filed : Booked flinger)
    (queues : noted.mTransactionQueues = flinger.mTransactionQueues)
    (idle : flinger.mTransactionQueues.lookup sub.applyToken = none)
    (submitted : noted.submitted = flinger.submitted ++ [sub])
    (appl : noted.applied = flinger.applied ++ [⟨flinger.submitted.length, sub.application, true⟩])
    (flags : ∀ bit, has flinger.mTransactionFlags bit = true →
      has noted.mTransactionFlags bit = true) : Booked noted where
  conserved token := by
    unfold appliedOf queuedOf ticketsOf
    rw [submitted, appl, tickets_append, queues, map_append, filter_append,
      applied_append filed.genuine]
    have conserved := filed.conserved token
    unfold appliedOf queuedOf ticketsOf at conserved
    rw [← conserved, map_singleton, filter_singleton, isFor_last]
    by_cases same : sub.applyToken = token
    · subst same
      simp [idle]
    · simp [same]
  ready e mem := by
    rw [appl, mem_append, mem_singleton] at mem
    rcases mem with old | rfl
    · exact filed.ready e old
    · rfl
  genuine e mem := by
    rw [appl, mem_append, mem_singleton] at mem
    rw [submitted]
    rcases mem with old | rfl
    · exact (filed.genuine e old).append [sub]
    · exact ⟨sub, getElem?_concat_length, rfl⟩
  queued token q hit := by
    rw [queues] at hit
    refine ⟨(filed.queued token q hit).1, fun tx mem => ?_⟩
    rw [submitted]
    exact ((filed.queued token q hit).2 tx mem).append [sub]
  raised token mem := flags _ (filed.raised token (queues ▸ mem))

/-! ### The flush of a token -/

lemma Queued.isFor (queued : Queued submitted token tx) :
    IsFor submitted other tx.ticket = decide (token = other) := by
  obtain ⟨sub, hit, rfl, -⟩ := queued
  simp [IsFor, hit]

lemma filter_tickets (queued : ∀ tx ∈ done, Queued submitted token tx) (other : Token) :
    (done.map (·.ticket)).filter (IsFor submitted other) =
      if token = other then done.map (·.ticket) else [] := by
  split
  · rename_i same
    refine filter_eq_self.mpr fun ticket mem => ?_
    obtain ⟨tx, isDone, rfl⟩ := mem_map.mp mem
    rw [(queued tx isDone).isFor, decide_eq_true_iff]
    exact same
  · rename_i ne
    refine filter_eq_nil_iff.mpr fun ticket mem => ?_
    obtain ⟨tx, isDone, rfl⟩ := mem_map.mp mem
    rw [(queued tx isDone).isFor, decide_eq_true_iff]
    exact ne

lemma Booked.flush (filed : Booked flinger)
    (hit : flinger.mTransactionQueues.lookup token = some q) (split : q = done ++ rest)
    (now : noted.mTransactionQueues.lookup token = if rest = [] then none else some rest)
    (others : ∀ other, other ≠ token → noted.mTransactionQueues.lookup other =
      flinger.mTransactionQueues.lookup other) (submitted : noted.submitted = flinger.submitted)
    (appl : noted.applied = flinger.applied ++
      done.map (flushed flinger.mPendingInputWindowCommands))
    (flags : ∀ bit, has flinger.mTransactionFlags bit = true →
      has noted.mTransactionFlags bit = true) : Booked noted := by
  have queued := (filed.queued token q hit).2
  have doneQueued : ∀ tx ∈ done, Queued flinger.submitted token tx :=
    fun tx mem => queued tx (split ▸ mem_append_left _ mem)
  have tickets : (done.map (flushed flinger.mPendingInputWindowCommands)).map
      (·.ticket) = done.map (·.ticket) := by
    rw [map_map]
    rfl
  refine ⟨fun other => ?_, ?_, ?_, ?_, ?_⟩
  · have conserved := filed.conserved other
    unfold appliedOf queuedOf ticketsOf at conserved ⊢
    rw [submitted, ← conserved, appl, map_append, filter_append, tickets,
      filter_tickets doneQueued, append_assoc]
    congr 1
    by_cases same : token = other
    · subst same
      rw [if_pos rfl, now, hit, split, Option.getD_some, map_append]
      congr 1
      split <;> simp [*]
    · rw [if_neg same, others other (Ne.symm same), nil_append]
  · rw [appl]
    intro e mem
    rcases mem_append.mp mem with old | new
    · exact filed.ready e old
    · obtain ⟨tx, -, rfl⟩ := mem_map.mp new
      rfl
  · rw [appl, submitted]
    intro e mem
    rcases mem_append.mp mem with old | new
    · exact filed.genuine e old
    · obtain ⟨tx, isDone, rfl⟩ := mem_map.mp new
      exact (doneQueued tx isDone).genuine _
  · intro other left isLeft
    by_cases same : other = token
    · subst same
      rw [now] at isLeft
      split at isLeft
      · cases isLeft
      · rename_i notEmpty
        cases isLeft
        refine ⟨notEmpty, fun tx mem => ?_⟩
        rw [submitted]
        exact queued tx (split ▸ mem_append_right _ mem)
    · rw [submitted]
      exact filed.queued other left ((others other same).symm.trans isLeft)
  · intro other _
    exact flags _ (filed.raised token (lookup_isSome.mp (Option.isSome_of_mem hit)))

/-! ### The discipline -/

/-- Each transaction is applied at most once, those of one token in the order in which they were
submitted and each only when it is ready; one that was not applied is in the queue of its token,
and the flush is asked for. -/
structure QueueDiscipline (flinger : SurfaceFlinger Token World Value) : Prop where
  genuine : ∀ applied ∈ flinger.applied,
    Genuine flinger.submitted applied.ticket applied.application
  once : (flinger.applied.map (·.ticket)).Nodup
  ordered : ∀ token, (appliedOf flinger token).Pairwise (· < ·)
  ready : ∀ applied ∈ flinger.applied, applied.ready = true
  pending : ∀ ticket submission, flinger.submitted[ticket]? = some submission →
    ticket ∉ flinger.applied.map (·.ticket) →
      (∃ queue, flinger.mTransactionQueues.lookup submission.applyToken = some queue ∧
        submission.application.enqueue ticket ∈ queue) ∧
      has flinger.mTransactionFlags eTransactionFlushNeeded = true

lemma Booked.discipline (filed : Booked flinger) : QueueDiscipline flinger := by
  have sorted : ∀ token, (appliedOf flinger token).Pairwise (· < ·) := by
    intro token
    have tickets : (ticketsOf flinger token).Pairwise (· < ·) := List.pairwise_lt_range.filter _
    rw [← filed.conserved token] at tickets
    exact (List.pairwise_append.mp tickets).1
  refine ⟨filed.genuine, ?_, sorted, filed.ready, ?_⟩
  · refine List.nodup_iff_count_le_one.mpr fun ticket => ?_
    by_cases wasApplied : ticket ∈ flinger.applied.map (·.ticket)
    · obtain ⟨e, isEntry, rfl⟩ := List.mem_map.mp wasApplied
      obtain ⟨sub, hit, -⟩ := filed.genuine e isEntry
      have isFor : IsFor flinger.submitted sub.applyToken e.ticket = true := by
        simp [IsFor, hit]
      have nodup : (appliedOf flinger sub.applyToken).Nodup :=
        (sorted sub.applyToken).imp fun less => less.ne
      rw [← List.count_filter isFor]
      exact List.nodup_iff_count_le_one.mp nodup e.ticket
    · rw [List.count_eq_zero_of_not_mem wasApplied]
      exact Nat.zero_le 1
  · intro ticket sub hit notApplied
    have isFor : IsFor flinger.submitted sub.applyToken ticket = true := by
      simp [IsFor, hit]
    have isTicket : ticket ∈ ticketsOf flinger sub.applyToken :=
      List.mem_filter.mpr ⟨List.mem_range.mpr (List.getElem?_eq_some_iff.mp hit).1, isFor⟩
    rw [← filed.conserved, List.mem_append] at isTicket
    have isQueued := isTicket.resolve_left fun appl => notApplied (List.mem_filter.mp appl).1
    unfold queuedOf at isQueued
    cases lookup : flinger.mTransactionQueues.lookup sub.applyToken with
    | none =>
      rw [lookup] at isQueued
      cases isQueued
    | some q =>
      rw [lookup] at isQueued
      obtain ⟨tx, mem, rfl⟩ := List.mem_map.mp isQueued
      obtain ⟨same, isSame, -, e⟩ := (filed.queued _ q lookup).2 tx mem
      cases hit.symm.trans isSame
      exact ⟨⟨q, rfl, e ▸ mem⟩,
        filed.raised _ (lookup_isSome.mp (Option.isSome_of_mem lookup))⟩

/-! ### Steps -/

variable [DecidableEq Value]

section

variable (filed : Booked flinger)
include filed

variable (layers : Layers World Value)

lemma Booked.setTransactionState (sub : Submission Token Value) (expectedPresentTime : Int) :
    Booked (flinger.setTransactionState layers sub expectedPresentTime) := by
  unfold SurfaceFlinger.setTransactionState
  extract_lets ticket noted app pendingTransactions timed
  have same : timed.mTransactionQueues = flinger.mTransactionQueues ∧
      timed.submitted = flinger.submitted ++ [sub] ∧ timed.applied = flinger.applied ∧
      timed.mTransactionFlags = flinger.mTransactionFlags := by
    unfold timed
    split <;> exact ⟨rfl, rfl, rfl, rfl⟩
  obtain ⟨queues, submitted, appl, flags⟩ := same
  split
  · refine filed.enqueue ?_ submitted appl (SurfaceFlinger.setTransactionFlags_raises _ _)
    exact congrArg (fun map => insert sub.applyToken
      (pendingTransactions.getD [] ++ [app.enqueue ticket]) map) queues
  · rename_i goesOn
    rw [Bool.or_eq_true, Bool.not_eq_true', not_or, Bool.not_eq_true, Bool.not_eq_false] at goesOn
    obtain ⟨idle, isReady⟩ := goesOn
    obtain ⟨kept, appliedNow, -⟩ := timed.applyTicket_spec layers ticket app false
    rw [appl, isReady] at appliedNow
    refine filed.apply (kept.queues.trans queues) ?_ (kept.submitted.trans submitted) appliedNow
      (fun bit raised => kept.flags bit (flags ▸ raised))
    exact Option.isSome_eq_false_iff.mp idle |> Option.isNone_iff_eq_none.mp

lemma Booked.flushToken (flushed : Bool) (token : Token) :
    Booked (SurfaceFlinger.flushToken layers (flinger, flushed) token).1 := by
  unfold SurfaceFlinger.flushToken
  cases hit : flinger.mTransactionQueues.lookup token with
  | none => exact filed
  | some q =>
    have spec := flinger.flushQueue_spec layers q
    obtain ⟨done, split, appl⟩ := spec.applied
    refine filed.flush hit split ?_ ?_ spec.kept.submitted appl spec.kept.flags
    · dsimp only
      rw [spec.kept.queues]
      by_cases empty : (flinger.flushQueue layers q).2 = []
      · rw [if_pos empty, if_pos (List.isEmpty_iff.mpr empty), lookup_erase]
      · rw [if_neg empty, if_neg (mt List.isEmpty_iff.mp empty), lookup_insert]
    · intro other ne
      dsimp only
      rw [spec.kept.queues]
      split
      · exact lookup_erase_ne ne
      · exact lookup_insert_ne ne

variable (order : List Token)

lemma Booked.flushTransactionQueues : Booked (flinger.flushTransactionQueues layers order).1 := by
  have walk : ∀ (tokens : List Token) (res : SurfaceFlinger Token World Value × Bool),
      Booked res.1 → Booked (tokens.foldl (SurfaceFlinger.flushToken layers) res).1 := by
    intro tokens
    induction tokens with
    | nil => exact fun _ filed => filed
    | cons token rest ih =>
      exact fun res filed => ih _ (filed.flushToken layers res.2 token)
  unfold SurfaceFlinger.flushTransactionQueues
  split
  · exact walk order _ filed
  · exact filed

lemma Booked.handleMessageTransaction (world : World) :
    Booked (flinger.handleMessageTransaction layers order world) := by
  have flushed := filed.flushTransactionQueues layers order
  unfold SurfaceFlinger.handleMessageTransaction
  extract_lets transactionFlags res runs took
  have same : took.mTransactionQueues = res.1.mTransactionQueues ∧
      took.submitted = res.1.submitted ∧ took.applied = res.1.applied := by
    unfold took
    split <;> exact ⟨rfl, rfl, rfl⟩
  obtain ⟨queues, submitted, appl⟩ := same
  split
  · exact flushed.congr queues submitted appl
      fun _ _ => took.setTransactionFlags_raises .normal
  · rename_i idle
    -- No queue is left, so nothing asks for the flag.
    refine flushed.congr queues submitted appl fun token mem => absurd ?_ idle
    unfold SurfaceFlinger.transactionFlushNeeded
    rw [queues, Bool.not_eq_true', isEmpty_eq_false_iff]
    exact ne_nil_of_mem (mem_keys.mp mem)

lemma Booked.step (call : SurfaceFlinger.Call Token World Value) :
    Booked (flinger.step layers call) := by
  cases call with
  | setTransactionState sub expectedPresentTime =>
    exact filed.setTransactionState layers sub expectedPresentTime
  | flushTransactionQueues order => exact filed.flushTransactionQueues layers order
  | handleMessageTransaction order world => exact filed.handleMessageTransaction layers order world
  | setExpectedPresentTime | setClock | signal => exact filed.congr rfl rfl rfl filed.raised

end

lemma booked_run (layers : Layers World Value) (config : OffsetsConfig)
    (displays : Displays Value) (world : World)
    (calls : List (SurfaceFlinger.Call Token World Value)) :
    Booked (run (step layers) (create config displays world) calls) :=
  run_always (fun _ call filed => filed.step layers call)
    (booked_create config displays world) calls

section Runs

variable (layers : Layers World Value) (config : OffsetsConfig) (displays : Displays Value)
  (world : World)

/-- The discipline holds in every state of every run. -/
theorem queue_discipline (calls : List (SurfaceFlinger.Call Token World Value)) :
    QueueDiscipline (run (step layers) (create config displays world) calls) :=
  (booked_run layers config displays world calls).discipline

/-- A transaction that the flush applies is the one that was submitted exactly if its input window
commands are the pending ones. -/
theorem flush_applies_submitted (calls : List (SurfaceFlinger.Call Token World Value))
    (order : List Token) :
    let flinger := run (step layers) (create config displays world) calls
    ∀ applied ∈ (flinger.flushTransactionQueues layers order).1.applied.drop
        flinger.applied.length,
      ∃ submission, flinger.submitted[applied.ticket]? = some submission ∧
        (applied.application = submission.application ↔ submission.application.inputWindowCommands =
            flinger.mPendingInputWindowCommands) := by
  intro flinger applied mem
  have booked := booked_run layers config displays world calls
  have since := flinger.flushTransactionQueues_since layers order
  obtain ⟨more, appliedMore, commands⟩ := since.applied
  rw [appliedMore, drop_left] at mem
  have genuine := (booked.flushTransactionQueues layers order).genuine applied
    (appliedMore ▸ mem_append_right _ mem)
  rw [since.submitted] at genuine
  obtain ⟨submission, found, same⟩ := genuine
  refine ⟨submission, found, ?_⟩
  rw [commands applied mem] at same
  constructor
  · intro whole
    rw [whole] at same
    exact congrArg Application.inputWindowCommands same
  · intro sameCommands
    rw [same, ← sameCommands]

end Runs

end Books

/-! ## A transaction that is queued -/

def noLayers : Layers Unit Nat :=
  ⟨fun _ _ => false, fun world _ _ => (world, false), fun _ _ => 0, fun _ _ => 0,
    fun _ _ => true, false⟩

def sampleConfig : OffsetsConfig := ⟨⟨1, 1⟩, ⟨2, 2⟩, ⟨3, 3⟩⟩

def syncInput : Submission Nat Nat where
  applyToken := 0
  application :=
    { states := [], displays := [], flags := 0, inputWindowCommands := ⟨true⟩
      desiredPresentTime := 5, uncacheBuffer := ⟨none, 0⟩, postTime := 0, privileged := true
      hasListenerCallbacks := false, listenerCallbacks := [] }

theorem flush_applies_submitted_syncInput :
    ∃ submission, (run (step noLayers) (create sampleConfig ∅ ())
        [.setTransactionState syncInput 0, .setExpectedPresentTime 10]).submitted[0]? =
          some submission ∧
      ({ syncInput.application with inputWindowCommands := ⟨false⟩ } = submission.application ↔
        submission.application.inputWindowCommands = ⟨false⟩) :=
  flush_applies_submitted noLayers sampleConfig ∅ ()
    [.setTransactionState syncInput 0, .setExpectedPresentTime 10] [0]
    ⟨0, { syncInput.application with inputWindowCommands := ⟨false⟩ }, true⟩ (List.Mem.head _)

/-- It is queued, and at time 10 the flush applies it without its command. -/
theorem flush_loses_input_commands :
    let flinger := run (step noLayers) (create sampleConfig ∅ ())
      [.setTransactionState syncInput 0, .setExpectedPresentTime 10]
    ∃ applied ∈ (flinger.flushTransactionQueues noLayers [0]).1.applied.drop
        flinger.applied.length,
      flinger.submitted[applied.ticket]? = some syncInput ∧
        applied.application ≠ syncInput.application := by
  refine ⟨⟨0, { syncInput.application with inputWindowCommands := ⟨false⟩ }, true⟩, ?_, rfl, ?_⟩
  · exact List.Mem.head _
  · intro same
    cases congrArg Application.inputWindowCommands same

end NativeLibs.Flinger
