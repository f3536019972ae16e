import NativeLibs.Binder.ChunkTiling
import Mathlib.Data.Nat.ModEq

/-! # Runs of a memory dealer

Over any sequence of allocations and deallocations the chunks tile the heap, and the chunks
in use are those of the live allocations. -/

namespace NativeLibs.Binder

open Allocation SimpleBestFitAllocator List

namespace SimpleBestFitAllocator

/-! ## Pages -/

lemma unitsPerPage (page : PageSize) : page.bytes / kMemoryAlign = 2 ^ (page.shift - 5) := by
  have split : page.bytes = 2 ^ (page.shift - 5) * kMemoryAlign := by
    have shift : page.shift = (page.shift - 5) + 5 := (Nat.sub_add_cancel page.holdsUnits).symm
    rw [PageSize.bytes, shift, Nat.pow_add]
    rfl
  rw [split, Nat.mul_div_cancel _ (by decide)]

lemma add_mod_le {start : Nat} (whole : unit ∣ top) (divides : unit ∣ pos)
    (below : start ≤ top) (after : start ≤ pos) : start + (top - start) % unit ≤ pos := by
  have congruent : (top - start) % unit = (pos - start) % unit := by
    apply Nat.ModEq.add_right_cancel' start
    rw [Nat.sub_add_cancel below, Nat.sub_add_cancel after]
    exact (Nat.modEq_zero_iff_dvd.2 whole).trans (Nat.modEq_zero_iff_dvd.2 divides).symm
  have bound := Nat.mod_le (pos - start) unit
  omega

lemma extraUnits_le {start : Nat} (small : start < 2 ^ 64) (after : start ≤ position)
    (algn : pageAligned = true → page.bytes / kMemoryAlign ∣ position) :
    start + extraUnits page pageAligned start ≤ position := by
  unfold extraUnits
  cases pageAligned with
  | false => simpa using after
  | true =>
    have divides := algn rfl
    have bound : page.shift - 5 ≤ 64 := by
      have isInt := page.isInt
      omega
    simp only [if_true]
    rw [unitsPerPage] at divides ⊢
    rw [Nat.and_two_pow_sub_one_eq_mod]
    rcases Nat.eq_zero_or_pos start with rfl | pos
    · simp [sizeT]
    · have value : sizeT (2 ^ 64 - sizeT start) = 2 ^ 64 - start := by
        simp only [sizeT]
        omega
      rw [value]
      exact add_mod_le (Nat.pow_dvd_pow 2 bound) divides (by omega) after

/-! ## Single calls -/

variable {allocator : SimpleBestFitAllocator}

structure Keeps (allocator : SimpleBestFitAllocator) (units : Nat) : Prop where
  holds : ∃ nodes, allocator.Holds nodes
  sound : Sound units allocator.chunkList
  nonempty : allocator.chunkList ≠ []

lemma Keeps.size_lt (keeps : allocator.Keeps units) (fits : units < 2 ^ 28) {chunk : Chunk}
    (mem : chunk ∈ allocator.chunkList) : chunk.start + chunk.size < 2 ^ 28 := by
  have box := keeps.sound.tiles.mem_bounds mem
  omega

lemma units_spec (noWrap : bytes + (kMemoryAlign - 1) < 2 ^ 64) :
    bytes ≤ sizeT (bytes + (kMemoryAlign - 1)) / kMemoryAlign * kMemoryAlign ∧
      (0 < bytes → 0 < sizeT (bytes + (kMemoryAlign - 1)) / kMemoryAlign) ∧
      ∀ room, bytes ≤ room * kMemoryAlign →
        sizeT (bytes + (kMemoryAlign - 1)) / kMemoryAlign ≤ room := by
  simp only [sizeT, kMemoryAlign] at noWrap ⊢
  rw [Nat.mod_eq_of_lt noWrap]
  refine ⟨by omega, fun pos => by omega, fun room suff => by omega⟩

lemma Keeps.alloc (keeps : allocator.Keeps units) (fits : units < 2 ^ 28)
    (pos : 0 < bytes) (noWrap : bytes + (kMemoryAlign - 1) < 2 ^ 64) (page : PageSize)
    (algn : Bool) :
    (allocator.alloc page bytes algn = (none, allocator) ∧
      ∀ chunk ∈ allocator.chunkList, canHold page algn
        (sizeT (bytes + (kMemoryAlign - 1)) / kMemoryAlign) chunk = false) ∨
    ∃ taken next, allocator.alloc page bytes algn =
        (some (taken.start * kMemoryAlign), next) ∧
      next.Keeps units ∧ bytes ≤ taken.size * kMemoryAlign ∧
      (allocated next.chunkList).Perm (taken :: allocated allocator.chunkList) := by
  rcases keeps.holds with ⟨nodes, holds⟩
  rcases units_spec noWrap with ⟨cov, positiveUnits, _⟩
  rw [SimpleBestFitAllocator.alloc, if_neg (Nat.ne_of_gt pos)]
  generalize sizeT (bytes + (kMemoryAlign - 1)) / kMemoryAlign = size at cov positiveUnits ⊢
  rcases allocator.search_spec page algn size allocator.made allocator.mList.first none with
    ⟨whenFound, whenNone⟩
  rw [holds.walk_eq] at whenFound whenNone
  cases res : allocator.search page algn size allocator.made allocator.mList.first
      none with
  | none =>
    refine .inl ⟨by simp only [res], ?_⟩
    rw [holds.chunkList_eq]
    intro chunk mem
    rcases mem_map.1 mem with ⟨node, ins, rfl⟩
    exact (whenNone res).2 node ins
  | some node =>
    rcases (whenFound node res).resolve_left (by simp) with ⟨mem, can⟩
    simp only [canHold, Bool.and_eq_true, decide_eq_true_eq] at can
    rcases holds.shows mem with ⟨left, right, old, after, shows⟩
    have list := shows.chunkList_eq
    have small := keeps.size_lt fits (by simp [list] : allocator.chunk node ∈ allocator.chunkList)
    rcases shows.take (by omega) rfl can.2 with ⟨left, right, taken⟩
    have nextList := taken.chunkList_eq
    refine .inr ⟨⟨(allocator.chunk node).start +
      extraUnits page algn (allocator.chunk node).start, size, false⟩,
      allocator.take page algn size node, ?_, ⟨⟨_, taken.holds⟩, ?_, ?_⟩, cov, ?_⟩
    · simp only [res, taken.here]
    · have sound := keeps.sound
      rw [list] at sound
      rw [nextList]
      exact sound.split can.1 can.2 (positiveUnits pos)
    · simp [nextList]
    · rw [nextList, list]
      exact allocated_split _ _ can.1 _ _ _ _ _ _

lemma allocated_filter_start {chunk : Chunk}
    (nodup : ((left ++ chunk :: right).map Chunk.start).Nodup) :
    allocated left ++ allocated right =
      (allocated (left ++ chunk :: right)).filter fun other => other.start ≠ chunk.start := by
  have apart : ∀ other ∈ left ++ right, other.start ≠ chunk.start := by
    have moved : ((chunk :: (left ++ right)).map Chunk.start).Nodup :=
      (perm_middle.map Chunk.start).nodup_iff.1 nodup
    intro other mem same
    exact (nodup_cons.1 moved).1 (mem_map.2 ⟨other, mem, same⟩)
  have keeps : ∀ {run : List Chunk}, (∀ other ∈ run, other ∈ left ++ right) →
      (allocated run).filter (fun other => other.start ≠ chunk.start) = allocated run := by
    intro run ins
    rw [filter_eq_self]
    intro other isAllocated
    simpa using apart other (ins other (mem_of_mem_filter isAllocated))
  have inLeft := keeps (fun other (mem : other ∈ left) => mem_append_left right mem)
  have inR := keeps (fun other (mem : other ∈ right) => mem_append_right left mem)
  simp only [allocated] at inLeft inR ⊢
  simp only [filter_append, inLeft, filter_cons]
  cases chunk.free with
  | true => simp only [Bool.not_true, Bool.false_eq_true, if_false, inR]
  | false =>
    simp only [Bool.not_false, if_true, filter_cons, ne_self_iff_false, decide_false,
      Bool.false_eq_true, if_false, inR]

lemma Keeps.dealloc (keeps : allocator.Keeps units) (fits : units < 2 ^ 28) (off : Nat) :
    (allocator.dealloc off).2.Keeps units ∧
      allocated (allocator.dealloc off).2.chunkList = (allocated allocator.chunkList).filter
          fun chunk => chunk.start ≠ off / kMemoryAlign := by
  rcases keeps.holds with ⟨nodes, holds⟩
  have finds := allocator.find_eq (off / kMemoryAlign) allocator.made allocator.mList.first
  rw [holds.walk_eq] at finds
  cases res : allocator.find (off / kMemoryAlign) allocator.made allocator.mList.first with
  | none =>
    have same : allocator.dealloc off = (false, allocator) := by
      simp only [SimpleBestFitAllocator.dealloc, res]
    rw [same]
    refine ⟨keeps, ?_⟩
    rw [eq_comm, filter_eq_self]
    intro chunk isAllocated
    have mem := mem_of_mem_filter isAllocated
    rw [holds.chunkList_eq] at mem
    rcases mem_map.1 mem with ⟨node, inNodes, rfl⟩
    simpa using find?_eq_none.1 (finds.symm.trans res) node inNodes
  | some node =>
    have found := finds.symm.trans res
    have starts : (allocator.chunk node).start = off / kMemoryAlign := by
      simpa using find?_some found
    rcases holds.shows (mem_of_find?_eq_some found) with ⟨left, right, old, after, shows⟩
    have list := shows.chunkList_eq
    have sound := keeps.sound
    rw [list] at sound
    have merges : allocator.dealloc off = (true, (allocator.setChunk node
        { allocator.chunk node with free := true }).merge allocator.made node) := by
      simp only [SimpleBestFitAllocator.dealloc, res]
    have fitsTotal : total (old ++ { allocator.chunk node with free := true } :: after) <
        2 ^ 28 := by
      have sum := total_of_tiles sound.tiles
      simp only [total_append, total_cons, Nat.zero_add] at sum ⊢
      omega
    have ne : old = [] ∨ (allocator.chunk node).size ≠ 0 := by
      rcases sound.positive with all | one
      · exact .inr (Nat.ne_of_gt (all _ (by simp)))
      · rcases append_eq_singleton_iff.1 one with ⟨none, _⟩ | ⟨_, none⟩
        · exact .inl none
        · cases none
    rcases (shows.setChunk { allocator.chunk node with free := true }).merge_coalesces rfl
      fitsTotal ne with ⟨_, _, _, front, joined, merge, back, next, coal⟩
    have nextList : (allocator.dealloc off).2.chunkList = front ++ merge :: back := by
      rw [merges]
      exact next.chunkList_eq
    refine ⟨⟨⟨_, by rw [merges]; exact next.holds⟩, ?_, ?_⟩, ?_⟩
    · rw [nextList]
      exact sound.coalesce coal
    · simp [nextList]
    · rw [nextList, allocated_coalesce coal, list, ← starts]
      exact allocated_filter_start sound.nodup_starts

lemma create_keeps (page : PageSize) (size : Nat) :
    (create page size).Keeps (chunkSize (roundToPage page size / kMemoryAlign)) ∧
      allocated (create page size).chunkList = [] := by
  have holds : (create page size).Holds [0] :=
    ⟨Links.represents_insertHead_empty 0, by simp [create]⟩
  have list : (create page size).chunkList =
      [⟨0, chunkSize (roundToPage page size / kMemoryAlign), true⟩] := by
    rw [holds.chunkList_eq]
    simp [create, Chunk.new]
  refine ⟨⟨⟨_, holds⟩, ?_, by simp [list]⟩, by simp [list, allocated]⟩
  rw [list]
  refine ⟨by simp [Tiles], isChain_singleton _, ?_⟩
  rcases Nat.eq_zero_or_pos (chunkSize (roundToPage page size / kMemoryAlign)) with zero | pos
  · exact .inr (by rw [zero])
  · exact .inl (by simpa using pos)

end SimpleBestFitAllocator

namespace MemoryDealer

variable {dealer : MemoryDealer}

/-- The chunks in use are those of the live allocations. -/
structure Sound (dealer : MemoryDealer) (units : Nat) : Prop where
  keeps : dealer.allocator.Keeps units
  starts : ((dealer.live.filter hasChunk).map start).Perm
    ((allocated dealer.allocator.chunkList).map Chunk.start)
  covered : ∀ allocation ∈ dealer.live, allocation.hasChunk = true →
    ∃ chunk ∈ allocated dealer.allocator.chunkList, allocation.offset = chunk.start * kMemoryAlign ∧
        allocation.size ≤ chunk.size * kMemoryAlign
  empty : ∀ allocation ∈ dealer.live, allocation.hasChunk = false → allocation.offset = 0

def Call.DoesNotWrap : Call → Prop
  | .allocate size _ => size + (kMemoryAlign - 1) < 2 ^ 64
  | .deallocate _ => True

/-! ## Steps -/

lemma Sound.allocate (sound : dealer.Sound units) (fits : units < 2 ^ 28)
    (noWrap : bytes + (kMemoryAlign - 1) < 2 ^ 64) (algn : Bool) :
    (dealer.step page (.allocate bytes algn)).Sound units := by
  rcases Nat.eq_zero_or_pos bytes with rfl | pos
  · have nothing : dealer.step page (.allocate 0 algn) =
        { dealer with live := dealer.live ++ [⟨0, 0⟩] } := by
      simp [step, alloc]
    rw [nothing]
    exact { sound with
      starts := by simpa [Allocation.hasChunk] using sound.starts
      covered := forall_mem_append.2 ⟨sound.covered, by simp [Allocation.hasChunk]⟩
      empty := forall_mem_append.2 ⟨sound.empty, by simp⟩ }
  · rcases sound.keeps.alloc fits pos noWrap page algn with
      ⟨bad, _⟩ | ⟨taken, next, done, keeps, cov, added⟩
    · have nothing : dealer.step page (.allocate bytes algn) = dealer := by
        simp [step, bad]
      rw [nothing]
      exact sound
    · have allocates : dealer.step page (.allocate bytes algn) =
          ⟨next, dealer.live ++ [⟨taken.start * kMemoryAlign, bytes⟩]⟩ := by
        simp [step, done]
      have chunked : (Allocation.mk (taken.start * kMemoryAlign) bytes).hasChunk = true := by
        simpa [Allocation.hasChunk] using pos
      rw [allocates]
      constructor
      · exact keeps
      · have start : (Allocation.mk (taken.start * kMemoryAlign) bytes).start = taken.start :=
          Nat.mul_div_cancel _ (by decide)
        rw [filter_append, map_append]
        have one : ([Allocation.mk (taken.start * kMemoryAlign) bytes].filter
            Allocation.hasChunk).map Allocation.start = [taken.start] := by
          simp [chunked, start]
        rw [one]
        exact (perm_append_singleton _ _).trans
          ((sound.starts.cons taken.start).trans (added.map Chunk.start).symm)
      · refine forall_mem_append.2 ⟨fun allocation old has => ?_, forall_mem_singleton.2 fun _ =>
          ⟨taken, added.mem_iff.2 (by simp), rfl, cov⟩⟩
        rcases sound.covered allocation old has with ⟨chunk, inUse, same⟩
        exact ⟨chunk, added.mem_iff.2 (by simp [inUse]), same⟩
      · exact forall_mem_append.2 ⟨sound.empty, by simp [chunked]⟩

lemma Sound.deallocate (sound : dealer.Sound units) (fits : units < 2 ^ 28) (off : Nat) :
    (dealer.step page (.deallocate off)).Sound units := by
  rcases sound.keeps.dealloc fits off with ⟨keeps, freed⟩
  constructor
  · exact keeps
  · have both := sound.starts.filter fun start => start ≠ off / kMemoryAlign
    rw [filter_map, filter_map] at both
    change (((dealer.live.filter _).filter hasChunk).map start).Perm
      ((allocated (dealer.allocator.dealloc off).2.chunkList).map Chunk.start)
    rw [freed]
    refine .trans (.of_eq ?_) both
    rw [filter_filter, filter_filter]
    congr 1
    apply filter_congr
    intro alloc _
    cases alloc.hasChunk <;> simp
  · intro alloc mem has
    rcases mem_filter.1 mem with ⟨old, kept⟩
    rcases sound.covered alloc old has with ⟨chunk, inUse, offsetEq, cov⟩
    refine ⟨chunk, ?_, offsetEq, cov⟩
    change chunk ∈ allocated (dealer.allocator.dealloc off).2.chunkList
    rw [freed, mem_filter]
    refine ⟨inUse, ?_⟩
    have start : alloc.start = chunk.start := by
      rw [start, offsetEq]
      exact Nat.mul_div_cancel _ (by decide)
    rw [← start]
    simpa [has] using kept
  · intro alloc mem has
    exact sound.empty alloc (mem_of_mem_filter mem) has

lemma Sound.step (sound : dealer.Sound units) (fits : units < 2 ^ 28) (noWrap : call.DoesNotWrap) :
    (dealer.step page call).Sound units := by
  cases call with
  | allocate size algn => exact sound.allocate fits noWrap algn
  | deallocate off => exact sound.deallocate fits off

lemma Sound.run (sound : dealer.Sound units) (fits : units < 2 ^ 28)
    (noWrap : ∀ call ∈ calls, call.DoesNotWrap) :
    (Machine.run (MemoryDealer.step page) dealer calls).Sound units := by
  have kept : ∀ (dealer : MemoryDealer) (call : Call), dealer.Sound units →
      call.DoesNotWrap → (dealer.step page call).Sound units :=
    fun _ _ sound noWrap => sound.step fits noWrap
  exact Machine.run_invariant kept sound
    (Machine.along_of_forall (fun _ _ holds => holds) _ noWrap)

lemma run_sound (page : PageSize) (size : Nat) (noWrap : ∀ call ∈ calls, call.DoesNotWrap) :
    (run page size calls).Sound (chunkSize (roundToPage page size / kMemoryAlign)) := by
  have fits : chunkSize (roundToPage page size / kMemoryAlign) < 2 ^ 28 :=
    Nat.mod_lt _ (by decide)
  generalize units : chunkSize (roundToPage page size / kMemoryAlign) = heap at fits ⊢
  have init : (create page size).Sound heap := by
    rcases create_keeps page size with ⟨keeps, unused⟩
    rw [units] at keeps
    refine ⟨keeps, ?_, by simp [create], by simp [create]⟩
    change List.Perm [] ((allocated (SimpleBestFitAllocator.create page size).chunkList).map _)
    rw [unused]
    exact .refl _
  exact init.run fits noWrap

/-! ## Live allocations -/

def Allocation.Disjoint (one other : Allocation) : Prop :=
  one.offset + one.size ≤ other.offset ∨ other.offset + other.size ≤ one.offset

lemma Sound.pairwise_disjoint (sound : dealer.Sound units) :
    dealer.live.Pairwise Allocation.Disjoint := by
  have tiles := sound.keeps.sound.tiles
  have nodup : ((dealer.live.filter hasChunk).map start).Nodup := by
    rw [sound.starts.nodup_iff]
    exact (filter_sublist.map Chunk.start).nodup sound.keeps.sound.nodup_starts
  have apart := pairwise_filter.1 (pairwise_map.1 nodup)
  apply apart.imp_of_mem
  intro one other inOne inO ne
  cases chunkedOne : one.hasChunk with
  | false =>
    have size : one.size = 0 := by simpa [hasChunk] using chunkedOne
    have off := sound.empty one inOne chunkedOne
    exact .inl (by omega)
  | true =>
    cases chunkedOther : other.hasChunk with
    | false =>
      have size : other.size = 0 := by simpa [hasChunk] using chunkedOther
      have off := sound.empty other inO chunkedOther
      exact .inr (by omega)
    | true =>
      rcases sound.covered one inOne chunkedOne with ⟨first, inFirst, firstAt, firstCovers⟩
      rcases sound.covered other inO chunkedOther with
        ⟨second, inSecond, secondAt, secondCovers⟩
      have starts : first.start ≠ second.start := by
        intro same
        apply ne chunkedOne chunkedOther
        rw [start, start, firstAt, secondAt, same]
      have either := tiles.disjoint_of_start_ne (mem_of_mem_filter inFirst)
        (mem_of_mem_filter inSecond) starts
      simp only [Allocation.Disjoint, kMemoryAlign] at *
      omega

lemma Sound.no_room (sound : dealer.Sound units) (fits : units < 2 ^ 28)
    (noWrap : bytes + (kMemoryAlign - 1) < 2 ^ 64)
    (bad : (dealer.allocator.alloc page bytes pageAligned).1 = none) {chunk : Chunk}
    (mem : chunk ∈ dealer.allocator.chunkList) (free : chunk.free = true)
    (ins : chunk.start ≤ position)
    (algn : pageAligned = true → page.bytes / kMemoryAlign ∣ position) :
    (chunk.start + chunk.size) * kMemoryAlign < position * kMemoryAlign + bytes := by
  rcases Nat.eq_zero_or_pos bytes with rfl | pos
  · simp [alloc] at bad
  · rcases sound.keeps.alloc fits pos noWrap page pageAligned with
      ⟨_, cannot⟩ | ⟨taken, next, done, _⟩
    · have start := sound.keeps.size_lt fits mem
      have gap := extraUnits_le (by omega : chunk.start < 2 ^ 64) ins algn
      have full := cannot chunk mem
      simp only [canHold, free, Bool.true_and, decide_eq_false_iff_not, Nat.not_le] at full
      by_contra suff
      simp only [kMemoryAlign] at suff
      -- Otherwise the units from the position on would be enough.
      have room := (units_spec noWrap).2.2 (chunk.start + chunk.size - position) (by
        simp only [kMemoryAlign]
        omega)
      omega
    · rw [done] at bad
      cases bad

lemma live_run_deallocate (dealer : MemoryDealer) (order : List Allocation) :
    (Machine.run (step page) dealer (order.map fun alloc => .deallocate alloc.offset)).live =
      dealer.live.filter fun alloc =>
        !(alloc.hasChunk && order.any fun freed => alloc.start = freed.start) := by
  induction order generalizing dealer with
  | nil => simp [Machine.run]
  | cons first rest ih =>
    rw [map_cons, Machine.run, ih]
    simp only [MemoryDealer.step, filter_filter]
    apply filter_congr
    intro alloc _
    simp only [any_cons, start]
    cases alloc.hasChunk with
    | false => rfl
    | true =>
      simp only [Bool.true_and, Bool.not_or]
      exact Bool.and_comm _ _

lemma Sound.free_all (sound : dealer.Sound units) (fits : units < 2 ^ 28)
    {order : List Allocation} (all : order.Perm (dealer.live.filter hasChunk)) :
    (Machine.run (MemoryDealer.step page) dealer
      (order.map fun alloc => Call.deallocate alloc.offset)).allocator.chunkList =
        [⟨0, units, true⟩] := by
  have noWrap : ∀ call ∈ order.map fun alloc => Call.deallocate alloc.offset,
      call.DoesNotWrap := forall_mem_map.2 fun _ _ => trivial
  have after : (Machine.run (MemoryDealer.step page) dealer _).Sound units := sound.run fits noWrap
  have none : (Machine.run (MemoryDealer.step page) dealer
      (order.map fun alloc => Call.deallocate alloc.offset)).live.filter
        hasChunk = [] := by
    rw [live_run_deallocate, filter_filter, filter_eq_nil_iff]
    intro alloc mem
    simp only [Bool.and_eq_true, Bool.not_eq_true', not_and, Bool.not_eq_false]
    intro chunked
    have freed : alloc ∈ order := all.mem_iff.2 (mem_filter.2 ⟨mem, chunked⟩)
    exact ⟨chunked, any_eq_true.2 ⟨alloc, freed, by simp⟩⟩
  have starts := after.starts
  rw [none, map_nil] at starts
  exact after.keeps.sound.eq_single after.keeps.nonempty (map_eq_nil_iff.1 starts.symm.eq_nil)

lemma roundToPage_eq (page : PageSize) (size : Nat) :
    roundToPage page size = roundToPage page size / kMemoryAlign * kMemoryAlign := by
  have units : kMemoryAlign ∣ page.bytes := Nat.pow_dvd_pow 2 page.holdsUnits
  have whole : page.bytes ∣ roundToPage page size := Nat.dvd_sub_mod _
  exact (Nat.div_mul_cancel (Nat.dvd_trans units whole)).symm

/-- The allocator over any sequence of calls: its chunks tile the heap, no two neighbours are
free, the live allocations are disjoint and lie in chunks of their own that are large enough,
an allocation fails only if no free chunk has room for it, and once all live allocations are
freed there is one free chunk. -/
theorem chunks_tile_heap (page : PageSize) (size : Nat) (calls : List Call)
    (fits : roundToPage page size / kMemoryAlign < 2 ^ 28)
    (noWrap : ∀ call ∈ calls, call.DoesNotWrap) :
    let dealer := run page size calls
    let units := roundToPage page size / kMemoryAlign
    let chunks := dealer.allocator.chunkList
    roundToPage page size = units * kMemoryAlign ∧ Tiles Chunk.start Chunk.size 0 chunks units ∧
      chunks.IsChain (fun earlier later => (earlier.free && later.free) = false) ∧
      dealer.live.Pairwise Allocation.Disjoint ∧
      (∀ allocation ∈ dealer.live, 0 < allocation.size → ∃ chunk ∈ chunks, chunk.free = false ∧
        allocation.offset = chunk.start * kMemoryAlign ∧
          allocation.size ≤ chunk.size * kMemoryAlign) ∧
      (∀ bytes pageAligned, bytes + (kMemoryAlign - 1) < 2 ^ 64 →
        (dealer.allocator.alloc page bytes pageAligned).1 = none →
          ∀ chunk ∈ chunks, chunk.free = true → ∀ position, chunk.start ≤ position →
            (pageAligned = true → page.bytes / kMemoryAlign ∣ position) →
              (chunk.start + chunk.size) * kMemoryAlign < position * kMemoryAlign + bytes) ∧
      ∀ order : List Allocation, order.Perm (dealer.live.filter hasChunk) →
        (Machine.run (step page) dealer
          (order.map fun allocation => .deallocate allocation.offset)).allocator.chunkList =
            [⟨0, units, true⟩] := by
  intro dealer units chunks
  have sound : dealer.Sound units := by
    have sound := run_sound page size noWrap
    rwa [chunkSize_of_lt fits] at sound
  refine ⟨roundToPage_eq page size, sound.keeps.sound.tiles, sound.keeps.sound.apart,
    sound.pairwise_disjoint, ?_, ?_, fun order all => sound.free_all fits all⟩
  · intro allocation mem pos
    rcases sound.covered allocation mem (by simpa [hasChunk] using pos) with
      ⟨chunk, inUse, offset, covers⟩
    rcases mem_filter.1 inUse with ⟨inside, used⟩
    exact ⟨chunk, inside, by simpa using used, offset, covers⟩
  · intro bytes pageAligned bytesFit failed chunk mem free position inside aligned
    exact sound.no_room fits bytesFit failed mem free inside aligned

def smallPage : PageSize := ⟨12, by decide, by decide⟩

/-- A small allocation, one on a page, and the first one is freed: the chunks before the page
are one again. -/
def pageAfterSmall : List Call := [.allocate 40 false, .allocate 100 true, .deallocate 0]

theorem chunks_tile_heap_pageAfterSmall : (run smallPage 8192 pageAfterSmall).allocator.chunkList =
      [⟨0, 128, true⟩, ⟨128, 4, false⟩, ⟨132, 124, true⟩] ∧
    (Machine.run (step smallPage) (run smallPage 8192 pageAfterSmall)
      [.deallocate 4096]).allocator.chunkList = [⟨0, 256, true⟩] := by
  refine ⟨by decide +kernel, ?_⟩
  exact (chunks_tile_heap smallPage 8192 pageAfterSmall (by decide +kernel)
    (by simp [pageAfterSmall, Call.DoesNotWrap, kMemoryAlign])).2.2.2.2.2.2 [⟨4096, 100⟩]
    (by decide +kernel)

/-- A returned block lies inside the heap exactly if the rounding of its size to units does not
wrap around; the heap itself may be of any size. -/
theorem returned_block_inside_heap (page : PageSize) (size : Nat) (calls : List Call)
    (noWrap : ∀ call ∈ calls, call.DoesNotWrap) (bytes : Nat) (pageAligned : Bool) (offset : Nat)
    (returned : ((run page size calls).allocator.alloc page bytes pageAligned).1 = some offset) :
    (offset + bytes < 2 ^ 64 ∧ offset + bytes ≤ roundToPage page size) ↔
      bytes + (kMemoryAlign - 1) < 2 ^ 64 := by
  have whole := roundToPage_eq page size
  have small : roundToPage page size < 2 ^ 64 :=
    Nat.lt_of_le_of_lt (Nat.sub_le _ _) (Nat.mod_lt _ (by decide))
  constructor
  · rintro ⟨_, mem⟩
    -- The heap ends a whole unit below the top.
    simp only [kMemoryAlign] at whole ⊢
    omega
  · intro fits
    rcases Nat.eq_zero_or_pos bytes with rfl | pos
    · simp only [alloc, if_true, Option.some.injEq] at returned
      omega
    · rcases (run_sound page size noWrap).keeps.alloc (Nat.mod_lt _ (by decide)) pos fits page
        pageAligned with ⟨failed, _⟩ | ⟨taken, next, done, keeps, covers, added⟩
      · rw [failed] at returned
        cases returned
      · rw [done] at returned
        have start : taken.start * kMemoryAlign = offset := Option.some.inj returned
        have inUse : taken ∈ allocated next.chunkList := added.mem_iff.2 (by simp)
        have bounds := keeps.sound.tiles.mem_bounds (mem_of_mem_filter inUse)
        have units : chunkSize (roundToPage page size / kMemoryAlign) ≤
            roundToPage page size / kMemoryAlign := Nat.mod_le _ _
        simp only [kMemoryAlign] at *
        omega

theorem returned_block_inside_heap_pageAfterSmall :
    4224 + 100 < 2 ^ 64 ∧ 4224 + 100 ≤ roundToPage smallPage 8192 :=
  (returned_block_inside_heap smallPage 8192 pageAfterSmall
    (by simp [pageAfterSmall, Call.DoesNotWrap, kMemoryAlign]) 100 false 4224
    (by decide +kernel)).2 (by decide)

/-- The largest request of all is rounded to no units at all, and gets an offset. -/
theorem largest_request_granted :
    ((run smallPage 8192 []).allocator.alloc smallPage (2 ^ 64 - 1) false).1 = some 0 ∧
      roundToPage smallPage 8192 < 0 + (2 ^ 64 - 1) := by
  decide +kernel

end MemoryDealer

end NativeLibs.Binder
