import NativeLibs.Composer.LayerState
import NativeLibs.Foundation.KeyedList
import Mathlib.Data.List.AList
import Mathlib.Data.List.MinMax

/-! # Transactions and the buffer cache of a process

`SurfaceComposerClient::Transaction` and `BufferCache`, as far as they deal with buffers: a
transaction that leaves the process replaces the buffers that the server has by their ids. -/

namespace NativeLibs.Composer

variable {Value : Type}

/-! ## The cache of the client -/

def bufferCacheMaxSize : Nat := 64

/-- `BufferCache`: when each cached buffer was used last. -/
structure BufferCache where
  mBuffers : AList fun _ : Nat => Nat
  counter : Nat

namespace BufferCache

variable (cache : BufferCache)

def create : BufferCache := ⟨∅, 0⟩

def touch (id : Nat) : BufferCache :=
  ⟨cache.mBuffers.insert id cache.counter, cache.counter + 1⟩

variable (buffer : GraphicBuffer)

/-- The cache after a hit, and nothing on a miss. The cache id is the id of the buffer. -/
def getCacheId : Option BufferCache :=
  if buffer.id ∈ cache.mBuffers then some (cache.touch buffer.id) else none

def evictLeastRecentlyUsedBuffer : Option Nat × BufferCache :=
  match cache.mBuffers.entries.argmin (·.2) with
  | some entry => (some entry.1, { cache with mBuffers := cache.mBuffers.erase entry.1 })
  | none => (none, cache)

def cacheBuffer : Option Nat × BufferCache :=
  let (evicted, cache) :=
    if cache.mBuffers.keys.length ≥ bufferCacheMaxSize then cache.evictLeastRecentlyUsedBuffer
    else (none, cache)
  (evicted, cache.touch buffer.id)

end BufferCache

/-! ## Transactions -/

/-- A layer of a transaction. `latest` is a history variable: the buffer set last, if one was. -/
structure LayerEntry (Value : Type) where
  handle : Nat
  state : LayerState Value
  latest : Option (Option GraphicBuffer)

structure Transaction (Value : Type) where
  mContainsBuffer : Bool
  mComposerStates : List (LayerEntry Value)

inductive Message (Value : Type) where
  | transaction (composerStates : List (LayerEntry Value))
  | uncacheBuffer (cacheId : ClientCacheId)

namespace Transaction

def create : Transaction Value := ⟨false, []⟩

variable (values : (field : Field) → field.Payload Value)

def editLayerState (handle : Nat) (edit : LayerEntry Value → LayerEntry Value)
    (entries : List (LayerEntry Value)) : List (LayerEntry Value) :=
  KeyedList.upsert LayerEntry.handle handle edit
    (edit ⟨handle, LayerState.create (some handle) values, none⟩) entries

def setBuffer (transaction : Transaction Value) (handle : Nat) (buffer : Option GraphicBuffer) :
    Transaction Value where
  mContainsBuffer := true
  mComposerStates := editLayerState values handle
    (fun entry => { entry with state := entry.state.set (.setBuffer buffer), latest := some buffer })
    transaction.mComposerStates

def mergeEntry (entries : List (LayerEntry Value)) (other : LayerEntry Value) :
    List (LayerEntry Value) :=
  KeyedList.upsert LayerEntry.handle other.handle (fun entry =>
      { entry with
        state := entry.state.merge other.state
        latest := other.latest.or entry.latest })
    other entries

def merge (transaction other : Transaction Value) : Transaction Value where
  mContainsBuffer := transaction.mContainsBuffer || other.mContainsBuffer
  mComposerStates := other.mComposerStates.foldl mergeEntry transaction.mComposerStates

def clear (_ : Transaction Value) : Transaction Value := create

/-! ## Caching -/

structure Cached (Value : Type) where
  entries : List (LayerEntry Value)
  cache : BufferCache
  evicted : List Nat

/-- The buffer that `cacheBuffers` deals with: one that is set, not cached yet and not null. -/
def uncachedBuffer (state : LayerState Value) : Option GraphicBuffer :=
  if state.what .buffer && !state.what .cachedBuffer then state.get .buffer else none

def setCacheId (token : Nat) (state : LayerState Value) (id : Nat) : LayerState Value :=
  (state.record .cachedBuffer).write .cachedBuffer ⟨some token, id⟩

def cacheState (token : Nat) (cache : BufferCache) (state : LayerState Value)
    (buffer : GraphicBuffer) : LayerState Value × BufferCache × Option Nat :=
  match cache.getCacheId buffer with
  | some cache =>
    (setCacheId token ((state.forget .buffer).write .buffer none) buffer.id, cache, none)
  | none =>
    let (evicted, cache) := cache.cacheBuffer buffer
    (setCacheId token state buffer.id, cache, evicted)

def cacheLoop (token : Nat) : Nat → BufferCache → List (LayerEntry Value) → Cached Value
  | _, cache, [] => ⟨[], cache, []⟩
  | count, cache, entry :: rest =>
    match uncachedBuffer entry.state with
    | none =>
      let cached := cacheLoop token count cache rest
      { cached with entries := entry :: cached.entries }
    | some buffer =>
      let (state, cache, evicted) := cacheState token cache entry.state buffer
      let entry := { entry with state := state }
      if count + 1 ≥ bufferCacheMaxSize then ⟨entry :: rest, cache, evicted.toList⟩
      else
        let cached := cacheLoop token (count + 1) cache rest
        ⟨entry :: cached.entries, cached.cache, evicted.toList ++ cached.evicted⟩

def cacheBuffers (token : Nat) (cache : BufferCache) (transaction : Transaction Value) :
    Cached Value :=
  if transaction.mContainsBuffer then cacheLoop token 0 cache transaction.mComposerStates
  else ⟨transaction.mComposerStates, cache, []⟩

/-! ## Parcels -/

/-- `layer_state_t::read` after `write`: a null buffer is read as a new empty one. -/
def readState (empty : GraphicBuffer) (state : LayerState Value) : LayerState Value :=
  state.write .buffer (some ((state.get .buffer).getD empty))

def readEntries (empty : Nat → GraphicBuffer) (entries : List (LayerEntry Value)) :
    List (LayerEntry Value) :=
  entries.map fun entry => { entry with state := readState (empty entry.handle) entry.state }

end Transaction

/-! ## A process -/

/-- The transactions and parcels of a process, and what it has sent to the server. -/
structure Client (Value : Type) where
  token : Nat
  cache : BufferCache
  transactions : Nat → Transaction Value
  parcels : Nat → Transaction Value
  sent : List (Message Value)

/-- `rehash`: the order in which a transaction iterates over its layers may change. -/
inductive ClientCall where
  | setBuffer (transaction handle : Nat) (buffer : Option GraphicBuffer)
  | merge (transaction other : Nat)
  | writeToParcel (transaction parcel : Nat)
  | readFromParcel (transaction parcel : Nat) (empty : Nat → GraphicBuffer)
  | apply (transaction : Nat) (empty : Nat → GraphicBuffer)
  | rehash (transaction : Nat) (order : List Nat)

namespace Client

open Transaction

def create (token : Nat) : Client Value :=
  ⟨token, BufferCache.create, fun _ => Transaction.create, fun _ => Transaction.create, []⟩

variable (client : Client Value) (index : Nat)

def setTransaction (transaction : Transaction Value) : Client Value :=
  { client with transactions := Function.update client.transactions index transaction }

def cacheBuffers : Client Value :=
  let cached := (client.transactions index).cacheBuffers client.token client.cache
  { client.setTransaction index
      { client.transactions index with mComposerStates := cached.entries } with
    cache := cached.cache
    sent := client.sent ++
      cached.evicted.map fun id => .uncacheBuffer ⟨some client.token, id⟩ }

def step (values : (field : Field) → field.Payload Value) (client : Client Value) :
    ClientCall → Client Value
  | .setBuffer index handle buffer =>
    client.setTransaction index ((client.transactions index).setBuffer values handle buffer)
  | .merge index other =>
    (client.setTransaction index
      ((client.transactions index).merge (client.transactions other))).setTransaction other
        (client.transactions other).clear
  | .writeToParcel index parcel =>
    let client := client.cacheBuffers index
    { client with
      parcels := Function.update client.parcels parcel (client.transactions index) }
  | .readFromParcel index parcel empty =>
    client.setTransaction index { client.parcels parcel with
      mComposerStates := readEntries empty (client.parcels parcel).mComposerStates }
  | .apply index empty =>
    let client := client.cacheBuffers index
    let transaction := client.transactions index
    { client.setTransaction index { transaction with mComposerStates := [] } with
      sent := client.sent ++ [.transaction (readEntries empty transaction.mComposerStates)] }
  | .rehash index order =>
    let transaction := client.transactions index
    let entries := order.filterMap (transaction.mComposerStates[·]?)
    if order.Perm (List.range transaction.mComposerStates.length) then
      client.setTransaction index { transaction with mComposerStates := entries }
    else client

end Client

/-! ## What caching the buffers of a transaction does

A buffer that the loop used is more recent than any that it did not use, and it stops before it
has used as many as the cache holds. So it does not evict a buffer of its own transaction. -/

open List

namespace BufferCache

/-- The cache in a loop that began at `start` and used the buffers `seen`. -/
structure Recent (start : Nat) (seen : List Nat) (cache : BufferCache) : Prop where
  counters : ∀ id used, cache.mBuffers.lookup id = some used → used < cache.counter
  started : start ≤ cache.counter
  touched : ∀ id used, cache.mBuffers.lookup id = some used → start ≤ used → id ∈ seen
  kept : ∀ id ∈ seen, ∃ used, cache.mBuffers.lookup id = some used ∧ start ≤ used
  size : cache.mBuffers.keys.length ≤ bufferCacheMaxSize

/-- What using a buffer does: it may evict one that was not used in this loop. -/
structure Used (seen : List Nat) (cache : BufferCache) (id : Nat) (evicted : Option Nat)
    (after : BufferCache) : Prop where
  member : id ∈ after.mBuffers
  old : ∀ other, other ≠ id → (other ∈ after.mBuffers ↔ other ∈ cache.mBuffers ∧ evicted ≠ some other)
  unused : ∀ other, evicted = some other → other ∉ seen ∧ other ≠ id

variable {id : Nat}

section

variable (fresh : Recent start seen cache)
include fresh

lemma Recent.touch (room : (cache.mBuffers.keys.erase id).length < bufferCacheMaxSize) :
    Recent start (id :: seen) (cache.touch id) where
  counters other used hit := by
    by_cases same : other = id
    · subst same
      simp only [BufferCache.touch, AList.lookup_insert, Option.some.injEq] at hit ⊢
      omega
    · simp only [BufferCache.touch, AList.lookup_insert_ne same] at hit ⊢
      have := fresh.counters other used hit
      omega
  started := Nat.le_succ_of_le fresh.started
  touched other used hit late := by
    by_cases same : other = id
    · exact mem_cons.mpr (.inl same)
    · simp only [BufferCache.touch, AList.lookup_insert_ne same] at hit
      exact mem_cons_of_mem _ (fresh.touched other used hit late)
  kept other mem := by
    by_cases same : other = id
    · subst same
      exact ⟨cache.counter, AList.lookup_insert _, fresh.started⟩
    · obtain ⟨used, hit, late⟩ := fresh.kept other ((mem_cons.mp mem).resolve_left same)
      exact ⟨used, (AList.lookup_insert_ne same).trans hit, late⟩
  size := by
    simp only [BufferCache.touch, AList.keys_insert, length_cons]
    omega

lemma Recent.evict (short : seen.length < bufferCacheMaxSize)
    (full : cache.mBuffers.keys.length ≥ bufferCacheMaxSize) :
    ∃ victim, cache.evictLeastRecentlyUsedBuffer =
        (some victim, { cache with mBuffers := cache.mBuffers.erase victim }) ∧
      victim ∈ cache.mBuffers ∧ victim ∉ seen := by
  obtain ⟨idle, idleMember, notSeen⟩ : ∃ idle ∈ cache.mBuffers.keys, idle ∉ seen := by
    by_contra allSeen
    have subset : cache.mBuffers.keys ⊆ seen := by
      intro key mem
      by_contra notSeen
      exact allSeen ⟨key, mem, notSeen⟩
    have shorter := (subperm_of_subset cache.mBuffers.keys_nodup subset).length_le
    omega
  obtain ⟨idleUsed, idleFound⟩ := Option.isSome_iff_exists.mp
    (AList.lookup_isSome.mpr (AList.mem_keys.mpr idleMember))
  have idleEarly : idleUsed < start := by
    by_contra late
    exact notSeen (fresh.touched idle idleUsed idleFound (by omega))
  cases least : cache.mBuffers.entries.argmin (·.2) with
  | none =>
    have empty := argmin_eq_none.mp least
    have idleEntry := AList.mem_lookup_iff.mp idleFound
    rw [empty] at idleEntry
    cases idleEntry
  | some e =>
    obtain ⟨victim, used⟩ := e
    have victimFound := AList.mem_lookup_iff.mpr (argmin_mem least)
    have early := le_of_mem_argmin (AList.mem_lookup_iff.mp idleFound) least
    refine ⟨victim, ?_, AList.lookup_isSome.mp (Option.isSome_of_mem victimFound), ?_⟩
    · unfold evictLeastRecentlyUsedBuffer
      rw [least]
    · intro inSeen
      obtain ⟨again, foundAgain, late⟩ := fresh.kept victim inSeen
      have same : used = again := Option.some.inj (victimFound.symm.trans foundAgain)
      dsimp only at early
      omega

lemma Recent.getCacheId {after : BufferCache} (hit : cache.getCacheId buf = some after) :
    buf.id ∈ cache.mBuffers ∧ Recent start (buf.id :: seen) after ∧
      Used seen cache buf.id none after := by
  unfold BufferCache.getCacheId at hit
  split at hit
  · rename_i mem
    cases hit
    have inKeys := AList.mem_keys.mp mem
    have room : (cache.mBuffers.keys.erase buf.id).length < bufferCacheMaxSize := by
      rw [length_erase_of_mem inKeys]
      have := fresh.size
      have := length_pos_of_mem inKeys
      omega
    refine ⟨mem, fresh.touch room, AList.mem_insert _ |>.mpr (.inl rfl), ?_, nofun⟩
    intro other ne
    simp [BufferCache.touch, AList.mem_insert, ne]
  · cases hit

lemma Recent.erase (notSeen : victim ∉ seen) :
    Recent start seen { cache with mBuffers := cache.mBuffers.erase victim } where
  counters other used hit := by
    by_cases same : other = victim
    · subst same
      simp [AList.lookup_erase] at hit
    · exact fresh.counters other used ((AList.lookup_erase_ne same).symm.trans hit)
  started := fresh.started
  touched other used hit late := by
    by_cases same : other = victim
    · subst same
      simp [AList.lookup_erase] at hit
    · exact fresh.touched other used ((AList.lookup_erase_ne same).symm.trans hit) late
  kept other mem := by
    obtain ⟨used, hit, late⟩ := fresh.kept other mem
    have ne : other ≠ victim := fun same => notSeen (same ▸ mem)
    exact ⟨used, (AList.lookup_erase_ne ne).trans hit, late⟩
  size := by
    rw [AList.keys_erase]
    exact (erase_sublist.length_le).trans fresh.size

lemma Recent.cacheBuffer (short : seen.length < bufferCacheMaxSize)
    (miss : buf.id ∉ cache.mBuffers) :
    Recent start (buf.id :: seen) (cache.cacheBuffer buf).2 ∧
      Used seen cache buf.id (cache.cacheBuffer buf).1 (cache.cacheBuffer buf).2 := by
  unfold BufferCache.cacheBuffer
  by_cases full : cache.mBuffers.keys.length ≥ bufferCacheMaxSize
  · obtain ⟨victim, evicts, victimMember, notSeen⟩ := fresh.evict short full
    rw [if_pos full, evicts]
    have ne : victim ≠ buf.id := fun same => miss (same ▸ victimMember)
    have inKeys := AList.mem_keys.mp victimMember
    refine ⟨(fresh.erase notSeen).touch ?_, AList.mem_insert _ |>.mpr (.inl rfl), ?_, ?_⟩
    · have shorter : ((cache.mBuffers.keys.erase victim).erase buf.id).length ≤
          (cache.mBuffers.keys.erase victim).length := erase_sublist.length_le
      rw [length_erase_of_mem inKeys] at shorter
      rw [AList.keys_erase]
      have := fresh.size
      have := length_pos_of_mem inKeys
      omega
    · intro other notBuffer
      simp only [BufferCache.touch, AList.mem_insert, notBuffer, false_or, AList.mem_erase, ne_eq,
        Option.some.injEq]
      grind
    · rintro other ⟨⟩
      exact ⟨notSeen, ne⟩
  · rw [if_neg full]
    refine ⟨fresh.touch ?_, AList.mem_insert _ |>.mpr (.inl rfl), ?_, nofun⟩
    · exact (erase_sublist.length_le).trans_lt (not_le.mp full)
    · intro other notBuffer
      simp [BufferCache.touch, AList.mem_insert, notBuffer]

lemma Recent.restart : Recent cache.counter [] cache where
  counters := fresh.counters
  started := le_rfl
  touched other used hit late := absurd (fresh.counters other used hit) (by omega)
  kept := nofun
  size := fresh.size

end

end BufferCache

/-! ## The loop -/

namespace Transaction

variable {seen : List Nat}

/-- What the loop does to the layers. A hit is one of an `old` buffer or of one that the loop used
before; what is used is `cached` in the end. The loop may stop before the last layer. -/
inductive Caching (token : Nat) (cached old : Nat → Prop) :
    List Nat → List (LayerEntry Value) → List (LayerEntry Value) → Prop where
  | stop (seen : List Nat) (entries : List (LayerEntry Value)) :
      Caching token cached old seen entries entries
  | skip {seen : List Nat} {entry : LayerEntry Value} {rest after : List (LayerEntry Value)}
      (none : uncachedBuffer entry.state = none)
      (others : Caching token cached old seen rest after) :
      Caching token cached old seen (entry :: rest) (entry :: after)
  | hit {seen : List Nat} {entry : LayerEntry Value} {rest after : List (LayerEntry Value)}
      {buffer : GraphicBuffer} (uncached : uncachedBuffer entry.state = some buffer)
      (present : old buffer.id ∨ buffer.id ∈ seen) (kept : cached buffer.id)
      (others : Caching token cached old (buffer.id :: seen) rest after) :
      Caching token cached old seen (entry :: rest) ({ entry with
          state := setCacheId token ((entry.state.forget .buffer).write .buffer none) buffer.id } ::
            after)
  | miss {seen : List Nat} {entry : LayerEntry Value} {rest after : List (LayerEntry Value)}
      {buffer : GraphicBuffer} (uncached : uncachedBuffer entry.state = some buffer)
      (kept : cached buffer.id)
      (others : Caching token cached old (buffer.id :: seen) rest after) :
      Caching token cached old seen (entry :: rest)
        ({ entry with state := setCacheId token entry.state buffer.id } :: after)

lemma Caching.mono {after : List (LayerEntry Value)}
    (caching : Caching tok cached old seen entries after)
    (includes : ∀ id, old id → larger id ∨ id ∈ seen) :
    Caching tok cached larger seen entries after := by
  induction caching with
  | stop seen entries => exact .stop seen entries
  | skip none _ ih => exact .skip none (ih includes)
  | hit cold pres kept _ ih =>
    refine .hit cold ?_ kept (ih fun id isOld => ?_)
    · rcases pres with isOld | isSeen
      · exact includes _ isOld
      · exact .inr isSeen
    · exact (includes id isOld).imp_right (mem_cons_of_mem _)
  | miss cold kept _ ih =>
    refine .miss cold kept (ih fun id isOld => ?_)
    exact (includes id isOld).imp_right (mem_cons_of_mem _)

/-- What the loop leaves, from a cache in which the buffers `seen` were used. -/
structure Looped (token start : Nat) (seen : List Nat) (cache : BufferCache)
    (entries : List (LayerEntry Value)) (cached : Cached Value) : Prop where
  entries : Caching token (· ∈ cached.cache.mBuffers)
    (fun id => id ∈ cache.mBuffers ∧ id ∉ cached.evicted) seen entries cached.entries
  recent : ∃ used, BufferCache.Recent start used cached.cache
  unused : ∀ id ∈ cached.evicted, id ∉ seen
  seen : ∀ id ∈ seen, id ∈ cached.cache.mBuffers
  remains : ∀ id ∈ cache.mBuffers, id ∉ cached.evicted → id ∈ cached.cache.mBuffers

lemma Looped.stop (fresh : BufferCache.Recent start seen cache)
    (entries : List (LayerEntry Value)) :
    Looped tok start seen cache entries ⟨entries, cache, []⟩ where
  entries := .stop seen entries
  recent := ⟨seen, fresh⟩
  unused := nofun
  seen id mem := by
    obtain ⟨used, hit, _⟩ := fresh.kept id mem
    exact AList.lookup_isSome.mp (Option.isSome_of_mem hit)
  remains id mem _ := mem

lemma cacheState_spec {next : BufferCache} {after : LayerState Value} (fresh : BufferCache.Recent start seen cache)
    (short : seen.length < bufferCacheMaxSize)
    (step : cacheState tok cache st buf = (after, next, evicted)) :
    BufferCache.Recent start (buf.id :: seen) next ∧
      BufferCache.Used seen cache buf.id evicted next ∧
      (buf.id ∈ cache.mBuffers ∧ evicted = none ∧
          after = setCacheId tok ((st.forget .buffer).write .buffer none) buf.id ∨
        after = setCacheId tok st buf.id) := by
  unfold cacheState at step
  cases hit : cache.getCacheId buf with
  | some found =>
    rw [hit] at step
    cases step
    obtain ⟨mem, recentNext, used⟩ := fresh.getCacheId hit
    exact ⟨recentNext, used, .inl ⟨mem, rfl, rfl⟩⟩
  | none =>
    rw [hit] at step
    cases step
    have miss : buf.id ∉ cache.mBuffers := by
      intro mem
      simp [BufferCache.getCacheId, mem] at hit
    obtain ⟨recentNext, used⟩ := fresh.cacheBuffer short miss
    exact ⟨recentNext, used, .inr rfl⟩

lemma Looped.cons {next : BufferCache} (cold : uncachedBuffer e.state = some buf)
    (step : cacheState tok cache e.state buf = (st, next, evicted))
    (fresh : BufferCache.Recent start seen cache) (short : seen.length < bufferCacheMaxSize)
    (others : Looped tok start (buf.id :: seen) next rest cached) :
    Looped tok start seen cache (e :: rest)
      ⟨{ e with state := st } :: cached.entries, cached.cache,
        evicted.toList ++ cached.evicted⟩ := by
  obtain ⟨-, used, oc⟩ := cacheState_spec fresh short step
  have kept : buf.id ∈ cached.cache.mBuffers := others.seen _ mem_cons_self
  have tail : Caching tok (· ∈ cached.cache.mBuffers)
      (fun id => id ∈ cache.mBuffers ∧ id ∉ evicted.toList ++ cached.evicted) (buf.id :: seen)
      rest cached.entries := by
    refine others.entries.mono ?_
    rintro id ⟨mem, notLater⟩
    by_cases same : id = buf.id
    · exact .inr (mem_cons.mpr (.inl same))
    · obtain ⟨old, notNow⟩ := (used.old id same).mp mem
      refine .inl ⟨old, ?_⟩
      rw [mem_append, Option.mem_toList]
      exact not_or.mpr ⟨notNow, notLater⟩
  refine ⟨?_, others.recent, ?_, ?_, ?_⟩
  · rcases oc with ⟨mem, rfl, rfl⟩ | rfl
    · refine .hit cold (.inl ⟨mem, fun later => ?_⟩) kept tail
      exact others.unused _ later mem_cons_self
    · exact .miss cold kept tail
  · exact forall_mem_append.2 ⟨fun id now => (used.unused id (Option.mem_toList.mp now)).1,
      fun id later => fun isSeen => others.unused id later (mem_cons_of_mem _ isSeen)⟩
  · exact fun id isSeen => others.seen id (mem_cons_of_mem _ isSeen)
  · intro id mem stays
    rw [mem_append, Option.mem_toList, not_or] at stays
    by_cases same : id = buf.id
    · exact same ▸ kept
    · exact others.remains id ((used.old id same).mpr ⟨mem, stays.1⟩) stays.2

lemma cacheLoop_looped (tok start : Nat) (entries : List (LayerEntry Value)) :
    ∀ (seen : List Nat) (cache : BufferCache), BufferCache.Recent start seen cache →
      seen.length < bufferCacheMaxSize →
      Looped tok start seen cache entries (cacheLoop tok seen.length cache entries) := by
  induction entries with
  | nil => exact fun seen cache fresh _ => .stop fresh []
  | cons e rest ih =>
    intro seen cache fresh short
    unfold cacheLoop
    cases cold : uncachedBuffer e.state with
    | none =>
      have others := ih seen cache fresh short
      exact ⟨.skip cold others.entries, others.recent, others.unused, others.seen,
        others.remains⟩
    | some buf =>
      obtain ⟨st, next, evicted, step⟩ : ∃ st next evicted,
          cacheState tok cache e.state buf = (st, next, evicted) :=
        ⟨_, _, _, rfl⟩
      have recentNext := (cacheState_spec fresh short step).1
      dsimp only
      rw [step]
      dsimp only
      split
      · have first := (Looped.stop recentNext rest).cons cold step fresh short
        simpa using first
      · rename_i more
        have others := ih (buf.id :: seen) next recentNext (not_le.mp more)
        exact others.cons cold step fresh short

lemma cacheBuffers_looped (tok : Nat) (fresh : BufferCache.Recent cache.counter [] cache)
    (tx : Transaction Value) :
    Looped tok cache.counter [] cache tx.mComposerStates
      (tx.cacheBuffers tok cache) := by
  unfold cacheBuffers
  split
  · exact cacheLoop_looped tok cache.counter tx.mComposerStates [] cache fresh
      (by decide)
  · exact .stop fresh tx.mComposerStates

end Transaction

end NativeLibs.Composer
