import NativeLibs.Foundation.Machine
import NativeLibs.Flinger.FaithfulEntries

/-! # Coherence of the two buffer caches

The server resolves the buffer that was set last for a layer as long as a cache id in a pending
transaction stays true: no other buffer is set or merged over it, it is not evicted, and a buffer
is not taken for known before the transaction that brings it was sent. The code ensures none of
these. -/

namespace NativeLibs.Flinger

open Composer Composer.Transaction
open ClientCache (serveAll)
open List KeyedList Function Machine AList LayerState

variable {Value : Type} {user : Client Value}

def server (client : Client Value) : ClientCache := serveAll client.sent

def Correct (sent : List (Message Value)) : Prop :=
  ∀ before message after, sent = before ++ message :: after →
    ∀ entry buffer, (entry, buffer) ∈ ((serveAll before).serve message).1 →
      entry.state.what .buffer = true ∨ entry.state.what .cachedBuffer = true →
        entry.latest = some buffer

/-! ## When a step keeps the caches coherent -/

/-- A transaction may be cached if its cached buffers have reached the server, and if no layer
names an id that is evicted. -/
structure MayCache (client : Client Value) (index : Nat) : Prop where
  known : ∀ entry ∈ (client.transactions index).mComposerStates, ∀ buffer,
    uncachedBuffer entry.state = some buffer → buffer.id ∈ client.cache.mBuffers →
      buffer.id ∈ (server client).processBuffers
  transactions :
    ∀ id ∈ ((client.transactions index).cacheBuffers client.token client.cache).evicted,
      ∀ other, ∀ entry ∈ (client.transactions other).mComposerStates, ¬ Named entry id
  parcels : ∀ id ∈ ((client.transactions index).cacheBuffers client.token client.cache).evicted,
      ∀ other, ∀ entry ∈ (client.parcels other).mComposerStates, ¬ Named entry id

/-- A buffer is not null and is not set over a cache id; merging replaces both or none; caching is
as above, and what is written to a parcel has each uncached buffer once. -/
def Careful (client : Client Value) : ClientCall → Prop
  | .setBuffer index handle buffer =>
    buffer.isSome = true ∧ ∀ entry ∈ (client.transactions index).mComposerStates,
      entry.handle = handle → entry.state.what .cachedBuffer = false
  | .merge index other =>
    ∀ entry ∈ (client.transactions index).mComposerStates,
      ∀ merged ∈ (client.transactions other).mComposerStates,
        entry.handle = merged.handle → Faithful.Overrides merged entry
  | .writeToParcel index _ =>
    MayCache client index ∧
      ((client.transactions index).mComposerStates.filterMap (uncachedBuffer ·.state)).Nodup
  | .apply index _ => MayCache client index
  | .readFromParcel _ _ _ | .rehash _ _ => True

/-! ## The invariant -/

structure FaithfulAll (token : Nat) (cached known : Nat → Prop)
    (entries : List (LayerEntry Value)) : Prop where
  distinct : (entries.map (·.handle)).Nodup
  faithful : ∀ entry ∈ entries, Faithful token cached known entry

structure Coherent (client : Client Value) : Prop where
  correct : Correct client.sent
  recent : BufferCache.Recent client.cache.counter [] client.cache
  stores : Stores client.cache (server client)
  transactions : ∀ index, FaithfulAll client.token (· ∈ client.cache.mBuffers)
    (· ∈ (server client).processBuffers) (client.transactions index).mComposerStates
  parcels : ∀ index, FaithfulAll client.token (· ∈ client.cache.mBuffers)
    (· ∈ (server client).processBuffers) (client.parcels index).mComposerStates

/-- The layers are faithful to the caches of a client and its server. -/
abbrev Trusted (token : Nat) (client : Client Value) : List (LayerEntry Value) → Prop :=
  FaithfulAll token (· ∈ client.cache.mBuffers) (· ∈ (server client).processBuffers)

lemma Coherent.setTransaction (coh : Coherent user) (i : Nat) (tx : Transaction Value)
    (faithful : Trusted user.token user tx.mComposerStates) :
    Coherent (user.setTransaction i tx) where
  __ := coh
  transactions := (forall_update_iff user.transactions fun _ tx =>
    Trusted user.token user tx.mComposerStates).mpr
      ⟨faithful, fun other _ => coh.transactions other⟩

/-! ## Layers -/

section Layers

variable {es : List (LayerEntry Value)}

lemma FaithfulAll.setBuffer (all : FaithfulAll token cached known es)
    (values : (field : Field) → field.Payload Value) (handle : Nat) (buf : GraphicBuffer)
    (unnamed : ∀ e ∈ es, e.handle = handle → e.state.what .cachedBuffer = false) :
    FaithfulAll token cached known (editLayerState values handle (fun e =>
      { e with
        state := e.state.set (.setBuffer (some buf)), latest := some (some buf) })
      es) where
  distinct := nodup_upsert all.distinct (fun _ same => same) rfl
  faithful e mem := by
    rcases mem_upsert mem with kept | ⟨old, isOld, same, rfl⟩ | rfl
    · exact all.faithful e kept
    · exact .setBuffer buf (unnamed old isOld same)
    · exact .setBuffer buf rfl

lemma FaithfulAll.mergeEntry (all : FaithfulAll token cached known es)
    (faithful : Faithful token cached known other)
    (overrides : ∀ e ∈ es, e.handle = other.handle → Faithful.Overrides other e) :
    FaithfulAll token cached known (mergeEntry es other) where
  distinct := nodup_upsert all.distinct (fun _ same => same) rfl
  faithful e mem := by
    rcases mem_upsert mem with kept | ⟨old, isOld, same, rfl⟩ | rfl
    · exact all.faithful e kept
    · exact faithful.merge (all.faithful old isOld) (overrides old isOld same)
    · exact faithful

lemma FaithfulAll.merge (others : List (LayerEntry Value)) :
    ∀ es : List (LayerEntry Value), FaithfulAll token cached known es →
      FaithfulAll token cached known others →
      (∀ e ∈ es, ∀ other ∈ others, e.handle = other.handle → Faithful.Overrides other e) →
      FaithfulAll token cached known (others.foldl Transaction.mergeEntry es) := by
  induction others with
  | nil => exact fun es all _ _ => all
  | cons other rest ih =>
    intro es all othersAll overrides
    have distinct := nodup_cons.mp othersAll.distinct
    obtain ⟨faithful, restFaithful⟩ := forall_mem_cons.mp othersAll.faithful
    refine ih _ (all.mergeEntry faithful ?_) ⟨distinct.2, restFaithful⟩ ?_
    · exact fun e mem => overrides e mem other mem_cons_self
    · intro e mem later isLater same
      rcases mem_upsert mem with kept | ⟨old, -, sameHandle, rfl⟩ | rfl
      · exact overrides e kept later (mem_cons_of_mem _ isLater) same
      · have merge : later.handle = other.handle := same.symm.trans sameHandle
        exact absurd (mem_map.mpr ⟨later, isLater, merge⟩) distinct.1
      · exact absurd (mem_map.mpr ⟨later, isLater, same.symm⟩) distinct.1

lemma filterMap_range (es : List (LayerEntry Value)) :
    (range es.length).filterMap (es[·]?) = es := by
  induction es with
  | nil => rfl
  | cons e rest ih =>
    rw [length_cons, range_succ_eq_map, filterMap_cons, filterMap_map]
    exact congrArg (e :: ·) ih

section

variable (all : FaithfulAll token cached known es)
include all

lemma FaithfulAll.readEntries (empty : Nat → GraphicBuffer) :
    FaithfulAll token cached known (readEntries empty es) where
  distinct := by
    unfold Transaction.readEntries
    rw [map_map]
    exact all.distinct
  faithful e mem := by
    obtain ⟨old, isOld, rfl⟩ := mem_map.mp mem
    exact (all.faithful old isOld).readState _

lemma FaithfulAll.rehash {order : List Nat} (permutes : order.Perm (range es.length)) :
    FaithfulAll token cached known (order.filterMap (es[·]?)) := by
  have same : (order.filterMap (es[·]?)).Perm es := by
    have permuted := permutes.filterMap (es[·]?)
    rwa [filterMap_range] at permuted
  exact ⟨(same.map _).nodup_iff.mpr all.distinct,
    fun e mem => all.faithful e (same.mem_iff.mp mem)⟩

lemma FaithfulAll.mono {lost : Nat → Prop} (keeps : ∀ id, ¬ lost id → cached id → cachedAfter id)
    (learns : ∀ id, ¬ lost id → known id → knownAfter id)
    (unnamed : ∀ id, lost id → ∀ e ∈ es, ¬ Named e id) :
    FaithfulAll token cachedAfter knownAfter es where
  distinct := all.distinct
  faithful e mem := by
    have stays : ∀ id, Named e id → ¬ lost id :=
      fun id named isLost => unnamed id isLost e mem named
    exact (all.faithful e mem).mono (fun id named => keeps id (stays id named))
      (fun id named => learns id (stays id named))

end

lemma Caching.handles {after : List (LayerEntry Value)}
    (caching : Caching token cached old seen es after) :
    after.map (·.handle) = es.map (·.handle) := by
  induction caching with
  | stop seen es => rfl
  | skip _ _ ih | hit _ _ _ _ ih | miss _ _ _ ih =>
    rw [map_cons, map_cons, ih]

end Layers

/-! ## Messages -/

lemma serveAll_append (sent : List (Message Value)) (msg : Message Value) :
    serveAll (sent ++ [msg]) = ((serveAll sent).serve msg).2 := by
  rw [serveAll, foldl_append]
  rfl

lemma Correct.append (correct : Correct sent)
    (last : ∀ e buf, (e, buf) ∈ ((serveAll sent).serve msg).1 →
      e.state.what .buffer = true ∨ e.state.what .cachedBuffer = true →
        e.latest = some buf) : Correct (sent ++ [msg]) := by
  intro old served after split
  rcases eq_nil_or_concat after with rfl | ⟨prior, final, rfl⟩
  · obtain ⟨rfl, same⟩ := append_inj' split rfl
    cases same
    exact last
  · rw [concat_eq_append, ← cons_append, ← append_assoc] at split
    exact correct old served prior (append_inj' split rfl).1

structure Uncached (evicted : List Nat) (sent after : List (Message Value)) : Prop where
  correct : Correct sent → Correct after
  lookup : ∀ id, id ∉ evicted → (serveAll after).processBuffers.lookup id =
      (serveAll sent).processBuffers.lookup id
  gone : ∀ id ∈ evicted, id ∉ (serveAll after).processBuffers

lemma uncached_map (token : Nat) (evicted : List Nat) : ∀ sent : List (Message Value),
    Uncached evicted sent (sent ++ evicted.map fun id => .uncacheBuffer ⟨some token, id⟩) := by
  induction evicted with
  | nil =>
    intro sent
    rw [map_nil, append_nil]
    exact ⟨fun correct => correct, fun _ _ => rfl, nofun⟩
  | cons first rest ih =>
    intro sent
    have others := ih (sent ++ [.uncacheBuffer ⟨some token, first⟩])
    have ers : serveAll (sent ++ [.uncacheBuffer ⟨some token, first⟩]) =
        ⟨(serveAll sent).processBuffers.erase first⟩ := serveAll_append _ _
    rw [append_assoc, singleton_append] at others
    rw [map_cons]
    refine ⟨fun correct => others.correct (correct.append nofun), ?_, ?_⟩
    · intro id kept
      rw [mem_cons, not_or] at kept
      rw [others.lookup id kept.2, ers, lookup_erase_ne kept.1]
    · intro id lost
      by_cases later : id ∈ rest
      · exact others.gone id later
      · cases (mem_cons.mp lost).resolve_right later
        rw [← lookup_eq_none, others.lookup first later, ers]
        exact lookup_erase _ _

/-! ## Caching -/

/-- What caching a transaction leaves: the caches are sound, the layers that were pending are still
faithful, and those of the transaction were cached. -/
structure CachedStep (client : Client Value) (index : Nat) (after : Client Value) : Prop where
  correct : Correct after.sent
  recent : BufferCache.Recent after.cache.counter [] after.cache
  stores : Stores after.cache (server after)
  transactions : ∀ other, FaithfulAll client.token (· ∈ after.cache.mBuffers)
    (· ∈ (server after).processBuffers) (client.transactions other).mComposerStates
  parcels : ∀ other, FaithfulAll client.token (· ∈ after.cache.mBuffers)
    (· ∈ (server after).processBuffers) (client.parcels other).mComposerStates
  cached : ∃ old : Nat → Prop, Caching client.token (· ∈ after.cache.mBuffers) old []
      (client.transactions index).mComposerStates (after.transactions index).mComposerStates ∧
    ∀ entry ∈ (client.transactions index).mComposerStates,
      Ready client.token (· ∈ after.cache.mBuffers) (· ∈ (server after).processBuffers) old entry

section

variable (coh : Coherent user)
include coh

lemma Coherent.cacheBuffers (may : MayCache user i) : CachedStep user i (user.cacheBuffers i) := by
  have looped := cacheBuffers_looped user.token coh.recent (user.transactions i)
  let evicted := ((user.transactions i).cacheBuffers user.token user.cache).evicted
  have cold := uncached_map user.token evicted user.sent
  have inTransaction : ((user.cacheBuffers i).transactions i).mComposerStates =
      ((user.transactions i).cacheBuffers user.token user.cache).entries := by
    simp [Client.cacheBuffers, Client.setTransaction]
  have learns : ∀ id, id ∉ evicted → id ∈ (server user).processBuffers →
      id ∈ (server (user.cacheBuffers i)).processBuffers := by
    intro id kept mem
    rw [← lookup_isSome] at mem ⊢
    exact (cold.lookup id kept).symm ▸ mem
  have pend {es : List (LayerEntry Value)} (trusted : Trusted user.token user es)
      (unnamed : ∀ id ∈ evicted, ∀ e ∈ es, ¬ Named e id) :
      Trusted user.token (user.cacheBuffers i) es :=
    trusted.mono (fun id kept mem => looped.remains id mem kept) learns unnamed
  have transactions (other : Nat) := pend (coh.transactions other) fun id lost =>
    may.transactions id lost other
  refine ⟨cold.correct coh.correct, ?_, ?_, transactions, fun other => ?_, ?_⟩
  · obtain ⟨used, recent⟩ := looped.recent
    exact recent.restart
  · intro id buf hit
    have kept : id ∉ evicted :=
      fun lost => cold.gone id lost (lookup_isSome.mp (Option.isSome_of_mem hit))
    obtain ⟨same, mem⟩ := coh.stores id buf ((cold.lookup id kept).symm.trans hit)
    exact ⟨same, looped.remains id mem kept⟩
  · exact pend (coh.parcels other) fun id lost => may.parcels id lost other
  · refine ⟨_, inTransaction ▸ looped.entries, fun e mem => ⟨?_, ?_⟩⟩
    · exact (transactions i).faithful e mem
    · rintro buf isUncached ⟨isCached, kept⟩
      exact learns buf.id kept (may.known e mem buf isUncached isCached)

lemma Coherent.writeToParcel (may : MayCache user i)
    (nodup : ((user.transactions i).mComposerStates.filterMap
      (uncachedBuffer ·.state)).Nodup) (p : Nat) :
    Coherent { user.cacheBuffers i with
      parcels := update (user.cacheBuffers i).parcels p
        ((user.cacheBuffers i).transactions i) } := by
  have step := coh.cacheBuffers may
  obtain ⟨old, caching, ready⟩ := step.cached
  have wrote : Trusted user.token (user.cacheBuffers i)
      ((user.cacheBuffers i).transactions i).mComposerStates := by
    refine ⟨?_, .of_caching caching ready nodup fun _ _ => not_mem_nil⟩
    rw [Caching.handles caching]
    exact (step.transactions i).distinct
  refine ⟨step.correct, step.recent, step.stores, fun other => ?_, ?_⟩
  · by_cases same : other = i
    · exact same ▸ wrote
    · have rest : (user.cacheBuffers i).transactions other = user.transactions other :=
        update_of_ne same _ _
      dsimp only
      rw [rest]
      exact step.transactions other
  · exact (forall_update_iff (user.cacheBuffers i).parcels fun _ tx =>
      Trusted user.token (user.cacheBuffers i) tx.mComposerStates).mpr
        ⟨wrote, fun other _ => step.parcels other⟩

lemma Coherent.apply (may : MayCache user i)
    (values : (field : Field) → field.Payload Value) (empty : Nat → GraphicBuffer) :
    Coherent (user.step values (.apply i empty)) := by
  have step := coh.cacheBuffers may
  obtain ⟨old, caching, ready⟩ := step.cached
  have chain := Chain.readEntries empty _ _ (Chain.of_caching caching _ ready nofun)
  obtain ⟨latest, stores, keeps⟩ := Chain.resolveAll step.recent.size _ _ step.stores chain
  have served : server (user.step values (.apply i empty)) =
      ((server (user.cacheBuffers i)).resolveAll (readEntries empty
        ((user.cacheBuffers i).transactions i).mComposerStates)).2 :=
    serveAll_append _ _
  have mono {es : List (LayerEntry Value)}
      (all : Trusted user.token (user.cacheBuffers i) es) :
      Trusted user.token (user.step values (.apply i empty)) es := by
    refine ⟨all.distinct, fun e mem => ?_⟩
    rw [served]
    exact (all.faithful e mem).mono (fun _ _ isCached => isCached) fun id _ => keeps id
  refine ⟨step.correct.append latest, step.recent, ?_, fun other => ?_, fun other => ?_⟩
  · rw [served]
    exact stores
  · by_cases same : other = i
    · have cleared : ((user.step values (.apply i empty)).transactions other).mComposerStates =
          [] := by
        simp [Client.step, Client.setTransaction, same]
      rw [cleared]
      exact ⟨nodup_nil, nofun⟩
    · have rest : (user.step values (.apply i empty)).transactions other =
          user.transactions other := by
        simp [Client.step, Client.cacheBuffers, Client.setTransaction, same]
      rw [rest]
      exact mono (step.transactions other)
  · exact mono (step.parcels other)

lemma Coherent.step (values : (field : Field) → field.Payload Value) (call : ClientCall)
    (careful : Careful user call) : Coherent (user.step values call) := by
  cases call with
  | setBuffer i handle buf =>
    obtain ⟨notNull, unnamed⟩ := careful
    obtain ⟨buf, rfl⟩ := Option.isSome_iff_exists.mp notNull
    exact coh.setTransaction i _
      ((coh.transactions i).setBuffer values handle buf unnamed)
  | merge i other =>
    refine .setTransaction (coh.setTransaction i _ ?_) other _ ?_
    · exact .merge _ _ (coh.transactions i) (coh.transactions other)
        careful
    · exact ⟨nodup_nil, nofun⟩
  | writeToParcel i p => exact coh.writeToParcel careful.1 careful.2 p
  | readFromParcel i p empty =>
    exact coh.setTransaction i _ ((coh.parcels p).readEntries empty)
  | apply i empty => exact coh.apply careful values empty
  | rehash i order =>
    unfold Client.step
    dsimp only
    split
    · rename_i permutes
      exact coh.setTransaction i _ ((coh.transactions i).rehash permutes)
    · exact coh

end

end NativeLibs.Flinger
