import NativeLibs.Composer.LayerStateMerge
import NativeLibs.Flinger.ClientState

/-! # Layers that say which buffer they mean

A layer of a pending transaction is faithful if the server can resolve the buffer that was set
last: the layer holds it, or it names an id that the server knows. -/

namespace NativeLibs.Flinger

open Composer Composer.Transaction LayerState List AList

variable {Value : Type}

/-- A layer whose cache ids are `cached` in the client and whose buffer, if it is only named, is
`known` to the server. -/
structure Faithful (token : Nat) (cached known : Nat → Prop) (entry : LayerEntry Value) : Prop where
  unset : entry.state.what .buffer = false → entry.state.what .cachedBuffer = false →
    entry.latest = none
  direct : entry.state.what .buffer = true →
    ∃ buffer, entry.state.get .buffer = some buffer ∧ entry.latest = some (some buffer)
  named : entry.state.what .cachedBuffer = true →
    ∃ id, entry.state.get .cachedBuffer = ⟨some token, id⟩ ∧ entry.latest = some (some ⟨id⟩) ∧
      cached id
  known : entry.state.what .cachedBuffer = true → entry.state.what .buffer = false →
    known (entry.state.get .cachedBuffer).id

variable (entry : LayerEntry Value) (id : Nat)

def Named : Prop :=
  entry.state.what .cachedBuffer = true ∧ (entry.state.get .cachedBuffer).id = id

def Provides : Prop :=
  entry.state.what .buffer = true ∧ Named entry id

variable {known : Nat → Prop} {entry : LayerEntry Value}

namespace Faithful

variable {cachedAfter : Nat → Prop}

lemma setBuffer (buf : GraphicBuffer) (unnamed : entry.state.what .cachedBuffer = false) :
    Faithful token cached known { entry with
      state := entry.state.set (.setBuffer (some buf)), latest := some (some buf) } where
  unset notSet := by simp [LayerState.set, LayerState.record, LayerState.write] at notSet
  direct _ := ⟨buf, by simp [LayerState.set, LayerState.write], rfl⟩
  named isNamed := by simp [LayerState.set, LayerState.record, LayerState.write, unnamed] at isNamed
  known isNamed := by simp [LayerState.set, LayerState.record, LayerState.write, unnamed] at isNamed

section

variable (ok : Faithful token cached known entry)
include ok

lemma mono (keeps : ∀ id, Named entry id → cached id → cachedAfter id)
    (learns : ∀ id, Named entry id → known id → knownAfter id) :
    Faithful token cachedAfter knownAfter entry where
  unset := ok.unset
  direct := ok.direct
  named isNamed := by
    obtain ⟨id, names, latest, isCached⟩ := ok.named isNamed
    exact ⟨id, names, latest, keeps id ⟨isNamed, congrArg ClientCacheId.id names⟩ isCached⟩
  known isNamed notSet := learns _ ⟨isNamed, rfl⟩ (ok.known isNamed notSet)

lemma congr {after : LayerEntry Value} (buf : after.state.what .buffer = entry.state.what .buffer)
    (cachedBuffer : after.state.what .cachedBuffer = entry.state.what .cachedBuffer)
    (latest : after.latest = entry.latest)
    (holds : entry.state.what .buffer = true → after.state.get .buffer = entry.state.get .buffer)
    (names : entry.state.what .cachedBuffer = true →
      after.state.get .cachedBuffer = entry.state.get .cachedBuffer) :
    Faithful token cached known after where
  unset notSet notNamed := by
    rw [latest]
    exact ok.unset (buf ▸ notSet) (cachedBuffer ▸ notNamed)
  direct isSet := by
    rw [buf] at isSet
    rw [latest, holds isSet]
    exact ok.direct isSet
  named isNamed := by
    rw [cachedBuffer] at isNamed
    rw [latest, names isNamed]
    exact ok.named isNamed
  known isNamed notSet := by
    rw [cachedBuffer] at isNamed
    rw [names isNamed]
    exact ok.known isNamed (buf ▸ notSet)

lemma readState (empty : GraphicBuffer) : Faithful token cached known
      { entry with state := Transaction.readState empty entry.state } := by
  refine ok.congr rfl rfl rfl ?_ ?_
  · intro isSet
    obtain ⟨buf, holds, -⟩ := ok.direct isSet
    simp [Transaction.readState, write, holds]
  · intro _
    simp [Transaction.readState, write]

end

/-- What merging asks for: a layer that changes the buffer replaces whatever of the buffer and the
id the other one has. -/
def Overrides (other entry : LayerEntry Value) : Prop :=
  other.state.what .buffer = true ∨ other.state.what .cachedBuffer = true →
    (entry.state.what .buffer = true → other.state.what .buffer = true) ∧
      (entry.state.what .cachedBuffer = true → other.state.what .cachedBuffer = true)

lemma merge_what_buffer (state other : LayerState Value) :
    (state.merge other).what .buffer = (state.what .buffer || other.what .buffer) := by
  rw [merge_what_lasting _ _ (by decide) (by decide)]
  simp [unmerged]

section

variable (state other : LayerState Value)

lemma merge_what_cachedBuffer : (state.merge other).what .cachedBuffer =
      (state.what .cachedBuffer || other.what .cachedBuffer) := by
  rw [merge_what_lasting _ _ (by decide) (by decide)]
  simp [unmerged]

lemma merge_get_buffer : (state.merge other).get .buffer =
      if other.what .buffer = true then other.get .buffer else state.get .buffer := by
  rw [merge_get]
  congr 1
  simp [mergeRules]

lemma merge_get_cachedBuffer : (state.merge other).get .cachedBuffer =
      if other.what .cachedBuffer = true then other.get .cachedBuffer
      else state.get .cachedBuffer := by
  rw [merge_get]
  congr 1
  simp [mergeRules]

end

lemma latest_isSome (ok : Faithful token cached known entry)
    (changes : entry.state.what .buffer = true ∨ entry.state.what .cachedBuffer = true) :
    ∃ buf, entry.latest = some buf := by
  rcases changes with isSet | named
  · obtain ⟨buf, -, latest⟩ := ok.direct isSet
    exact ⟨_, latest⟩
  · obtain ⟨id, -, latest, -⟩ := ok.named named
    exact ⟨_, latest⟩

lemma merge (otherFaithful : Faithful token cached known other)
    (ok : Faithful token cached known entry) (overrides : Overrides other entry) :
    Faithful token cached known { entry with
      state := entry.state.merge other.state, latest := other.latest.or entry.latest } := by
  by_cases changes : other.state.what .buffer = true ∨ other.state.what .cachedBuffer = true
  · obtain ⟨newest, latest⟩ := otherFaithful.latest_isSome changes
    obtain ⟨bufs, ids⟩ := overrides changes
    refine otherFaithful.congr ?_ ?_ ?_ ?_ ?_
    · rw [merge_what_buffer, Bool.or_eq_right_iff_imp]
      exact bufs
    · rw [merge_what_cachedBuffer, Bool.or_eq_right_iff_imp]
      exact ids
    · rw [latest, Option.some_or]
    · exact fun isSet => by rw [merge_get_buffer, if_pos isSet]
    · exact fun named => by rw [merge_get_cachedBuffer, if_pos named]
  · rw [not_or, Bool.not_eq_true, Bool.not_eq_true] at changes
    obtain ⟨notSet, notNamed⟩ := changes
    refine ok.congr ?_ ?_ ?_ ?_ ?_
    · rw [merge_what_buffer, notSet, Bool.or_false]
    · rw [merge_what_cachedBuffer, notNamed, Bool.or_false]
    · rw [otherFaithful.unset notSet notNamed, Option.none_or]
    · exact fun _ => by rw [merge_get_buffer, notSet, if_neg Bool.false_ne_true]
    · exact fun _ => by rw [merge_get_cachedBuffer, notNamed, if_neg Bool.false_ne_true]

/-! ## Caching -/

lemma of_uncachedBuffer (cold : uncachedBuffer state = some buf) :
    state.what .buffer = true ∧ state.what .cachedBuffer = false ∧
      state.get .buffer = some buf := by
  unfold uncachedBuffer at cold
  split at cold
  · rename_i isSet
    rw [Bool.and_eq_true, Bool.not_eq_true'] at isSet
    exact ⟨isSet.1, isSet.2, cold⟩
  · cases cold

variable (ok : Faithful token cached known entry)
  (cold : uncachedBuffer entry.state = some buf) (kept : cachedAfter buf.id)
include ok cold kept

lemma hit (isKnown : knownAfter buf.id) : Faithful token cachedAfter knownAfter { entry with
      state := setCacheId token ((entry.state.forget .buffer).write .buffer none) buf.id } := by
  obtain ⟨isSet, -, holds⟩ := of_uncachedBuffer cold
  obtain ⟨same, sameHolds, latest⟩ := ok.direct isSet
  cases holds.symm.trans sameHolds
  refine ⟨?_, ?_, ?_, ?_⟩
  · intro _ notNamed
    simp [setCacheId, record, write] at notNamed
  · intro set
    simp [setCacheId, record, write, forget] at set
  · intro _
    exact ⟨buf.id, by simp [setCacheId, write], latest, kept⟩
  · intro _ _
    simpa [setCacheId, write] using isKnown

lemma miss : Faithful token cachedAfter knownAfter
        { entry with state := setCacheId token entry.state buf.id } ∧
      Provides { entry with state := setCacheId token entry.state buf.id } buf.id := by
  obtain ⟨isSet, -, holds⟩ := of_uncachedBuffer cold
  obtain ⟨same, sameHolds, latest⟩ := ok.direct isSet
  cases holds.symm.trans sameHolds
  have stillSet : (setCacheId token entry.state buf.id).what .buffer = true := by
    simpa [setCacheId, record, write] using isSet
  refine ⟨⟨?_, ?_, ?_, ?_⟩, stillSet, ?_⟩
  · intro notSet
    cases stillSet.symm.trans notSet
  · intro _
    exact ⟨buf, by simpa [setCacheId, record, write] using holds, latest⟩
  · intro _
    exact ⟨buf.id, by simp [setCacheId, write], latest, kept⟩
  · intro _ notSet
    cases stillSet.symm.trans notSet
  · simp [Named, setCacheId, record, write]

end Faithful

/-! ## A transaction at the server -/

def Chain (token : Nat) (cached : Nat → Prop) : (Nat → Prop) → List (LayerEntry Value) → Prop
  | _, [] => True
  | known, entry :: rest =>
    Faithful token cached known entry ∧
      Chain token cached (fun id => known id ∨ Provides entry id) rest

/-- A layer before it is cached: a buffer of the client's cache is known to the server. -/
def Ready (token : Nat) (cached known old : Nat → Prop) (entry : LayerEntry Value) : Prop :=
  Faithful token cached known entry ∧
    ∀ buffer, uncachedBuffer entry.state = some buffer → old buffer.id → known buffer.id

lemma Ready.learn (ready : Ready token cached known old entry)
    (learns : ∀ id, known id → knownAfter id) : Ready token cached knownAfter old entry :=
  ⟨ready.1.mono (fun _ _ isCached => isCached) fun id _ => learns id,
    fun buf cold isOld => learns _ (ready.2 buf cold isOld)⟩

lemma fresh_tail {bufs : List GraphicBuffer} (nodup : (buf :: bufs).Nodup)
    (fresh : ∀ other ∈ buf :: bufs, other.id ∉ seen) :
    ∀ other ∈ bufs, other.id ∉ buf.id :: seen := by
  intro other mem
  rw [mem_cons, not_or]
  refine ⟨fun same => ?_, fresh other (mem_cons_of_mem _ mem)⟩
  have eq : other = buf := congrArg GraphicBuffer.mk same
  exact (nodup_cons.mp nodup).1 (eq ▸ mem)

namespace Chain

lemma of_forall (es : List (LayerEntry Value)) : ∀ known : Nat → Prop,
    (∀ entry ∈ es, Faithful token cached known entry) → Chain token cached known es := by
  induction es with
  | nil => exact fun _ _ => trivial
  | cons entry rest ih =>
    intro known ok
    refine ⟨ok entry mem_cons_self, ih _ fun other mem => ?_⟩
    exact (ok other (mem_cons_of_mem _ mem)).mono (fun _ _ => id) (fun _ _ => .inl)

lemma of_caching {after : List (LayerEntry Value)}
    (caching : Caching token cached old seen es after) : ∀ known : Nat → Prop,
    (∀ entry ∈ es, Ready token cached known old entry) → (∀ id ∈ seen, known id) →
      Chain token cached known after := by
  induction caching with
  | stop seen es =>
    exact fun known ready _ => of_forall es known fun entry mem => (ready entry mem).1
  | skip none _ ih =>
    intro known ready seens
    rw [forall_mem_cons] at ready
    refine ⟨ready.1.1, ih _ ?_ fun id isSeen => .inl (seens id isSeen)⟩
    exact fun other mem => (ready.2 other mem).learn fun _ => .inl
  | hit cold pres kept _ ih =>
    intro known ready seens
    rw [forall_mem_cons] at ready
    have isKnown := pres.elim (ready.1.2 _ cold) (seens _)
    refine ⟨ready.1.1.hit cold kept isKnown, ih _ ?_ ?_⟩
    · exact fun other mem => (ready.2 other mem).learn fun _ => .inl
    · rw [forall_mem_cons]
      exact ⟨.inl isKnown, fun id isSeen => .inl (seens id isSeen)⟩
  | miss cold kept _ ih =>
    intro known ready seens
    rw [forall_mem_cons] at ready
    obtain ⟨first, provides⟩ := ready.1.1.miss cold kept
    refine ⟨first, ih _ ?_ ?_⟩
    · exact fun other mem => (ready.2 other mem).learn fun _ => .inl
    · rw [forall_mem_cons]
      exact ⟨.inr provides, fun id isSeen => .inl (seens id isSeen)⟩

lemma readEntries (empty : Nat → GraphicBuffer) (es : List (LayerEntry Value)) :
    ∀ known : Nat → Prop, Chain token cached known es →
      Chain token cached known (Transaction.readEntries empty es) := by
  induction es with
  | nil => exact fun _ _ => trivial
  | cons entry rest ih =>
    rintro known ⟨ok, others⟩
    refine ⟨ok.readState (empty entry.handle), ?_⟩
    have sameIds : ∀ id, Provides { entry with
        state := readState (empty entry.handle) entry.state } id ↔ Provides entry id := by
      intro id
      simp [Provides, Named, readState, write]
    simp only [sameIds]
    exact ih _ others

end Chain

lemma Faithful.of_caching {after : List (LayerEntry Value)}
    (caching : Caching token cached old seen es after)
    (ready : ∀ entry ∈ es, Ready token cached known old entry)
    (nodup : (es.filterMap (uncachedBuffer ·.state)).Nodup)
    (fresh : ∀ buf ∈ es.filterMap (uncachedBuffer ·.state), buf.id ∉ seen) :
    ∀ entry ∈ after, Faithful token cached known entry := by
  induction caching with
  | stop seen es => exact fun entry mem => (ready entry mem).1
  | skip none _ ih =>
    rw [forall_mem_cons] at ready ⊢
    simp only [filterMap_cons, none] at nodup fresh
    exact ⟨ready.1.1, ih ready.2 nodup fresh⟩
  | hit cold pres kept _ ih =>
    rw [forall_mem_cons] at ready ⊢
    simp only [filterMap_cons, cold] at nodup fresh
    have isOld := pres.resolve_right (fresh _ mem_cons_self)
    refine ⟨ready.1.1.hit cold kept (ready.1.2 _ cold isOld), ?_⟩
    exact ih ready.2 (nodup_cons.mp nodup).2 (fresh_tail nodup fresh)
  | miss cold kept _ ih =>
    rw [forall_mem_cons] at ready ⊢
    simp only [filterMap_cons, cold] at nodup fresh
    refine ⟨(ready.1.1.miss cold kept).1, ?_⟩
    exact ih ready.2 (nodup_cons.mp nodup).2 (fresh_tail nodup fresh)

/-! ## The cache of the server -/

/-- Every buffer of the server is at its own id, and the client has it in its cache. -/
def Stores (cache : BufferCache) (server : ClientCache) : Prop :=
  ∀ id buffer, server.processBuffers.lookup id = some buffer → buffer = ⟨id⟩ ∧ id ∈ cache.mBuffers

lemma Stores.subset (stores : Stores cache server) {id : Nat}
    (mem : id ∈ server.processBuffers) : id ∈ cache.mBuffers := by
  obtain ⟨buf, hit⟩ := Option.isSome_iff_exists.mp (lookup_isSome.mpr mem)
  exact (stores id buf hit).2

lemma Stores.small (stores : Stores cache server)
    (size : cache.mBuffers.keys.length ≤ bufferCacheMaxSize) :
    server.processBuffers.keys.length ≤ bufferCacheMaxSize := by
  have subset : server.processBuffers.keys ⊆ cache.mBuffers.keys :=
    fun id mem => mem_keys.mp (stores.subset (mem_keys.mpr mem))
  exact (subperm_of_subset server.processBuffers.keys_nodup subset).length_le.trans size

structure Resolves (cache : BufferCache) (server : ClientCache) (entry : LayerEntry Value)
    (resolved : Option GraphicBuffer × ClientCache) : Prop where
  latest : entry.state.what .buffer = true ∨ entry.state.what .cachedBuffer = true →
    entry.latest = some resolved.1
  stores : Stores cache resolved.2
  members : ∀ id, id ∈ resolved.2.processBuffers ↔ id ∈ server.processBuffers ∨ Provides entry id

lemma Stores.insert (stores : Stores cache server) {id : Nat} (isCached : id ∈ cache.mBuffers) :
    Stores cache ⟨server.processBuffers.insert id ⟨id⟩⟩ := by
  intro other buf hit
  by_cases same : other = id
  · subst same
    rw [lookup_insert, Option.some.injEq] at hit
    exact ⟨hit.symm, isCached⟩
  · rw [lookup_insert_ne same] at hit
    exact stores other buf hit

lemma Faithful.resolve (stores : Stores cache server)
    (size : cache.mBuffers.keys.length ≤ bufferCacheMaxSize)
    (ok : Faithful token (· ∈ cache.mBuffers) (· ∈ server.processBuffers) entry) :
    Resolves cache server entry (server.resolve entry.state) := by
  unfold ClientCache.resolve
  cases isSet : entry.state.what .buffer with
  | true =>
    obtain ⟨buf, holds, latest⟩ := ok.direct isSet
    rw [holds]
    cases named : entry.state.what .cachedBuffer with
    | true =>
      obtain ⟨id, names, sameLatest, isCached⟩ := ok.named named
      cases latest.symm.trans sameLatest
      have added : server.add ⟨some token, id⟩ ⟨id⟩ = ⟨server.processBuffers.insert id ⟨id⟩⟩ := by
        simp [ClientCache.add, not_lt.mpr (stores.small size)]
      simp only [names, added]
      refine ⟨fun _ => latest, stores.insert isCached, fun other => ?_⟩
      rw [mem_insert, or_comm]
      simp [Provides, Named, isSet, named, names, eq_comm]
    | false =>
      refine ⟨fun _ => latest, stores, fun other => ?_⟩
      simp [Provides, Named, named]
  | false =>
    cases named : entry.state.what .cachedBuffer with
    | true =>
      obtain ⟨id, names, latest, isCached⟩ := ok.named named
      have isKnown := ok.known named isSet
      rw [names] at isKnown
      obtain ⟨buf, hit⟩ := Option.isSome_iff_exists.mp (lookup_isSome.mpr isKnown)
      obtain ⟨rfl, -⟩ := stores id buf hit
      have resolved : server.get (entry.state.get .cachedBuffer) = some ⟨id⟩ := by
        rw [names]
        exact hit
      refine ⟨fun _ => ?_, stores, fun other => ?_⟩
      · rw [latest, resolved]
      · simp [Provides, isSet]
    | false =>
      refine ⟨fun changes => ?_, stores, fun other => ?_⟩
      · simp [isSet, named] at changes
      · simp [Provides, isSet]

lemma Chain.resolveAll (size : cache.mBuffers.keys.length ≤ bufferCacheMaxSize)
    (es : List (LayerEntry Value)) : ∀ server : ClientCache, Stores cache server →
    Chain token (· ∈ cache.mBuffers) (· ∈ server.processBuffers) es →
      (∀ entry buf, (entry, buf) ∈ (server.resolveAll es).1 →
        entry.state.what .buffer = true ∨ entry.state.what .cachedBuffer = true →
          entry.latest = some buf) ∧ Stores cache (server.resolveAll es).2 ∧
      ∀ id ∈ server.processBuffers, id ∈ (server.resolveAll es).2.processBuffers := by
  induction es with
  | nil => exact fun server stores _ => ⟨nofun, stores, fun _ mem => mem⟩
  | cons entry rest ih =>
    rintro server stores ⟨ok, others⟩
    have resolves := ok.resolve stores size
    simp only [← resolves.members] at others
    obtain ⟨latest, storesAfter, keeps⟩ := ih _ resolves.stores others
    refine ⟨?_, storesAfter, fun id mem => keeps id ((resolves.members id).mpr (.inl mem))⟩
    intro other buf mem changes
    rcases mem_cons.mp mem with first | later
    · cases first
      exact resolves.latest changes
    · exact latest other buf later changes

end NativeLibs.Flinger
