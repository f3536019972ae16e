import NativeLibs.Binder.MemoryDealer
import Mathlib.Data.List.Perm.Subperm
import Mathlib.Data.List.TakeWhile
import NativeLibs.Foundation.Tiling
import Mathlib.Data.List.Chain

/-! # The chunks that the links of an allocator stand for

What the loops and the operations of the allocator do to the list of its chunks. -/

namespace NativeLibs.Binder.SimpleBestFitAllocator

open List

variable {alloc : SimpleBestFitAllocator} {left right : List Nat} {chunk : Chunk}

/-- The list of an allocator has these nodes, and the next one to be made is not among
them. -/
structure Holds (allocator : SimpleBestFitAllocator) (nodes : List Nat) : Prop where
  links : allocator.mList.Represents nodes
  made : ∀ node ∈ nodes, node < allocator.made

def chunks (allocator : SimpleBestFitAllocator) (nodes : List Nat) : List Chunk :=
  nodes.map allocator.chunk

@[simp] lemma chunks_nil : alloc.chunks [] = [] := rfl

@[simp] lemma chunks_cons :
    alloc.chunks (node :: nodes) = alloc.chunk node :: alloc.chunks nodes := rfl

@[simp] lemma chunks_append :
    alloc.chunks (left ++ right) = alloc.chunks left ++ alloc.chunks right :=
  map_append

lemma chunks_congr {other : SimpleBestFitAllocator}
    (same : ∀ node ∈ nodes, other.chunk node = alloc.chunk node) :
    other.chunks nodes = alloc.chunks nodes :=
  map_congr_left same

lemma Holds.length_le (holds : alloc.Holds nodes) : nodes.length ≤ alloc.made := by
  have ins : nodes ⊆ range alloc.made :=
    fun node mem => mem_range.2 (holds.made node mem)
  simpa using (subperm_of_subset holds.links.nodup ins).length_le

lemma Holds.fresh (holds : alloc.Holds nodes) : alloc.made ∉ nodes :=
  fun mem => Nat.lt_irrefl _ (holds.made _ mem)

/-! ## The loops that walk the list -/

lemma search_spec (alloc : SimpleBestFitAllocator) (page : PageSize) (aligned : Bool)
    (size fuel : Nat) (cur best : Option Nat) :
    (∀ hit, alloc.search page aligned size fuel cur best = some hit →
      best = some hit ∨ hit ∈ alloc.walk fuel cur ∧
        canHold page aligned size (alloc.chunk hit) = true) ∧
    (alloc.search page aligned size fuel cur best = none → best = none ∧
      ∀ node ∈ alloc.walk fuel cur,
        canHold page aligned size (alloc.chunk node) = false) := by
  fun_induction alloc.search page aligned size fuel cur best with
  | case1 => simp [walk]
  | case2 => simp [walk]
  | case3 fuel cur best chunk holdsIt better fitsExactly =>
    have origin : best = some better ∨ better = cur := by grind
    refine ⟨fun hit same => ?_, by simp⟩
    rcases origin with prior | here
    · exact .inl (prior.trans same)
    · rw [← Option.some.inj same, here]
      exact .inr ⟨by simp [walk], holdsIt⟩
  | case4 fuel cur best chunk holdsIt better goesOn ih =>
    have origin : best = some better ∨ better = cur := by grind
    refine ⟨fun hit same => ?_, fun same => by cases (ih.2 same).1⟩
    rcases ih.1 hit same with chosen | ⟨mem, can⟩
    · rcases origin with prior | here
      · exact .inl (prior.trans chosen)
      · rw [← Option.some.inj chosen, here]
        exact .inr ⟨by simp [walk], holdsIt⟩
    · exact .inr ⟨by simp [walk, mem], can⟩
  | case5 fuel cur best chunk holdsIt ih =>
    have cannot : canHold page aligned size (alloc.chunk cur) = false := by
      simpa using holdsIt
    refine ⟨fun hit same => ?_, fun same => ⟨(ih.2 same).1, ?_⟩⟩
    · rcases ih.1 hit same with prior | ⟨mem, can⟩
      · exact .inl prior
      · exact .inr ⟨by simp [walk, mem], can⟩
    · simpa [walk, cannot] using (ih.2 same).2

lemma find_eq (alloc : SimpleBestFitAllocator) (low fuel : Nat) (cur : Option Nat) :
    alloc.find low fuel cur =
      (alloc.walk fuel cur).find? fun node => (alloc.chunk node).start = low := by
  fun_induction alloc.find low fuel cur with
  | case1 => rfl
  | case2 => rfl
  | case3 fuel cur here => simp [walk, here]
  | case4 fuel cur elsewhere ih => simp [walk, elsewhere, ih]

lemma walk_eq (holds : alloc.Holds (left ++ right)) (enough : right.length ≤ fuel) :
    alloc.walk fuel right.head? = right := by
  induction right generalizing left fuel with
  | nil => cases fuel <;> rfl
  | cons cur rest ih =>
    cases fuel with
    | zero => simp at enough
    | succ fuel =>
      have next := holds.links.next_eq
      have tail : alloc.Holds ((left ++ [cur]) ++ rest) := by simpa using holds
      simp [walk, next, ih tail (Nat.le_of_succ_le_succ enough)]

lemma Holds.walk_eq (holds : alloc.Holds nodes) :
    alloc.walk alloc.made alloc.mList.first = nodes := by
  have whole : alloc.Holds ([] ++ nodes) := holds
  rw [holds.links.first, SimpleBestFitAllocator.walk_eq whole holds.length_le]

lemma Holds.chunkList_eq (holds : alloc.Holds nodes) :
    alloc.chunkList = alloc.chunks nodes := by
  rw [chunkList, holds.walk_eq]
  rfl

/-! ## Single changes -/

@[simp] lemma setChunk_chunk_self : (alloc.setChunk node chunk).chunk node = chunk := by
  simp [setChunk]

lemma setChunk_chunk_of_ne (ne : other ≠ node) :
    (alloc.setChunk node chunk).chunk other = alloc.chunk other := by
  simp [setChunk, ne]

section

variable (holds : alloc.Holds (left ++ node :: right))
include holds

lemma Holds.insertBefore (chunk : Chunk) :
    (alloc.insertBefore node chunk).Holds (left ++ alloc.made :: node :: right) := by
  refine ⟨holds.links.insertBefore holds.fresh, fun other mem => ?_⟩
  change other < alloc.made + 1
  rcases mem_cons.1 (perm_middle.mem_iff.1 mem) with rfl | old
  · exact Nat.lt_succ_self _
  · exact Nat.lt_succ_of_lt (holds.made other old)

lemma Holds.insertAfter (chunk : Chunk) :
    (alloc.insertAfter node chunk).Holds (left ++ node :: alloc.made :: right) := by
  refine ⟨holds.links.insertAfter holds.fresh, fun other mem => ?_⟩
  change other < alloc.made + 1
  have either : other = alloc.made ∨ other ∈ left ++ node :: right := by
    simp only [mem_append, mem_cons] at mem ⊢
    tauto
  rcases either with rfl | old
  · exact Nat.lt_succ_self _
  · exact Nat.lt_succ_of_lt (holds.made other old)

lemma Holds.remove : (alloc.remove node).Holds (left ++ right) := by
  refine ⟨holds.links.remove, fun other mem => holds.made other ?_⟩
  rcases mem_append.1 mem with inLeft | inR
  · simp [inLeft]
  · simp [inR]

end

/-! ## The chunks around a node -/

/-- The list of an allocator around one of its nodes: the chunks before it, its own chunk and
the chunks after it. -/
structure Shows (allocator : SimpleBestFitAllocator) (left : List Nat) (node : Nat)
    (right : List Nat) (before : List Chunk) (chunk : Chunk) (after : List Chunk) : Prop where
  holds : allocator.Holds (left ++ node :: right)
  left : allocator.chunks left = before
  here : allocator.chunk node = chunk
  right : allocator.chunks right = after

lemma Holds.shows (holds : alloc.Holds nodes) (mem : node ∈ nodes) :
    ∃ left right pre after, alloc.Shows left node right pre (alloc.chunk node)
      after := by
  rcases append_of_mem mem with ⟨left, right, rfl⟩
  exact ⟨left, right, _, _, holds, rfl, rfl, rfl⟩

section

variable {after : List Chunk} (shows : alloc.Shows left node right pre chunk after)
include shows

lemma Shows.chunkList_eq : alloc.chunkList = pre ++ chunk :: after := by
  rw [shows.holds.chunkList_eq, chunks_append, chunks_cons, shows.left, shows.here, shows.right]

lemma Shows.setChunk (other : Chunk) :
    (alloc.setChunk node other).Shows left node right pre other after := by
  refine ⟨⟨shows.holds.links, shows.holds.made⟩, ?_, setChunk_chunk_self, ?_⟩
  · rw [← shows.left]
    exact chunks_congr fun id mem =>
      setChunk_chunk_of_ne (shows.holds.links.ne_of_mem (.inl mem))
  · rw [← shows.right]
    exact chunks_congr fun id mem =>
      setChunk_chunk_of_ne (shows.holds.links.ne_of_mem (.inr mem))

lemma Shows.of_made (next : SimpleBestFitAllocator)
    (made : next.chunk = Function.update alloc.chunk alloc.made other) :
    next.chunks left = pre ∧ next.chunk node = chunk ∧ next.chunks right = after := by
  have old : ∀ id ∈ left ++ node :: right, next.chunk id = alloc.chunk id := by
    intro id mem
    rw [made, Function.update_of_ne (Nat.ne_of_lt (shows.holds.made id mem))]
  refine ⟨?_, ?_, ?_⟩
  · rw [← shows.left]
    exact chunks_congr fun id mem => old id (by simp [mem])
  · rw [old node (by simp), shows.here]
  · rw [← shows.right]
    exact chunks_congr fun id mem => old id (by simp [mem])

end

end NativeLibs.Binder.SimpleBestFitAllocator

/-! ## Splitting and merging chunks

`alloc` puts up to three chunks in the place of one, and `dealloc` puts one in the place
of up to three. -/

namespace NativeLibs.Binder

open SimpleBestFitAllocator List

def Chunk.rest (start size : Nat) : List Chunk := if size = 0 then [] else [⟨start, size, true⟩]

namespace SimpleBestFitAllocator

variable {alloc : SimpleBestFitAllocator} {left right : List Nat} {chunk : Chunk}
  {after : List Chunk}

lemma chunkSize_of_lt (fits : v < 2 ^ 28) : chunkSize v = v :=
  Nat.mod_eq_of_lt fits

/-! ## Allocation -/

section

variable (shows : alloc.Shows left node right pre chunk after)
include shows

lemma Shows.splitBefore (small : extra < 2 ^ 28) :
    ∃ gap, (alloc.splitBefore node extra).Shows (left ++ gap) node right
      (pre ++ Chunk.rest chunk.start extra) { chunk with start := chunk.start + extra } after := by
  by_cases none : extra = 0
  · subst none
    exact ⟨[], by simpa [SimpleBestFitAllocator.splitBefore, Chunk.rest] using shows⟩
  · have shifted := shows.setChunk { chunk with start := chunk.start + extra }
    have splits : alloc.splitBefore node extra = (alloc.setChunk node
        { chunk with start := chunk.start + extra }).insertBefore node
          (.new chunk.start extra) := by
      simp [SimpleBestFitAllocator.splitBefore, none, shows.here]
    rcases shifted.of_made (alloc.splitBefore node extra) (by rw [splits]; rfl) with ⟨inLeft, here, inR⟩
    refine ⟨[alloc.made], ?_, ?_, here, inR⟩
    · rw [splits, append_assoc]
      exact shifted.holds.insertBefore _
    · rw [chunks_append, inLeft, splits]
      simp [SimpleBestFitAllocator.insertBefore, SimpleBestFitAllocator.setChunk, Chunk.new,
        chunkSize_of_lt small, Chunk.rest, none]

lemma Shows.splitAfter (small : tailFree < 2 ^ 28) :
    ∃ tail, (alloc.splitAfter node tailFree).Shows left node (tail ++ right) pre chunk
      (Chunk.rest (chunk.start + chunk.size) tailFree.toNat ++ after) := by
  by_cases pos : tailFree > 0
  · have splits : alloc.splitAfter node tailFree =
        alloc.insertAfter node (.new (chunk.start + chunk.size) tailFree.toNat) := by
      simp [SimpleBestFitAllocator.splitAfter, pos, shows.here]
    rcases shows.of_made (alloc.splitAfter node tailFree) (by rw [splits]; rfl) with ⟨inLeft, here, inR⟩
    refine ⟨[alloc.made], ?_, inLeft, here, ?_⟩
    · rw [splits]
      exact shows.holds.insertAfter _
    · have nonzero : tailFree.toNat ≠ 0 := by omega
      have fits : tailFree.toNat < 2 ^ 28 := by omega
      rw [chunks_append, inR, splits]
      simp [SimpleBestFitAllocator.insertAfter, SimpleBestFitAllocator.setChunk, Chunk.new,
        chunkSize_of_lt fits, Chunk.rest, nonzero]
  · have zero : tailFree.toNat = 0 := by omega
    refine ⟨[], ?_⟩
    simpa [SimpleBestFitAllocator.splitAfter, pos, Chunk.rest, zero] using shows

lemma Shows.take (small : chunk.size < 2 ^ 28)
    (gap : extraUnits page algn chunk.start = extra) (room : size + extra ≤ chunk.size) :
    ∃ left right, (alloc.take page algn size node).Shows left node right
      (pre ++ Chunk.rest chunk.start extra) ⟨chunk.start + extra, size, false⟩
      (Chunk.rest (chunk.start + extra + size) (chunk.size - (size + extra)) ++ after) := by
  have sizeFits : chunkSize size = size := chunkSize_of_lt (by omega)
  have taken := shows.setChunk ⟨chunk.start, size, false⟩
  by_cases larger : chunk.size > size
  · have splits : alloc.take page algn size node =
        ((alloc.setChunk node ⟨chunk.start, size, false⟩).splitBefore node
          extra).splitAfter node (chunk.size - (size + extra)) := by
      simp only [SimpleBestFitAllocator.take, shows.here, if_pos larger, gap, sizeFits]
    rcases taken.splitBefore (by omega : extra < 2 ^ 28) with ⟨gapNode, gapShows⟩
    rcases gapShows.splitAfter (by omega : (chunk.size : Int) - (size + extra) < 2 ^ 28) with
      ⟨tailNode, tailShows⟩
    have same : ((chunk.size : Int) - (size + extra)).toNat = chunk.size - (size + extra) := by
      omega
    rw [same] at tailShows
    rw [splits]
    exact ⟨_, _, tailShows⟩
  · have whole : alloc.take page algn size node =
        alloc.setChunk node ⟨chunk.start, size, false⟩ := by
      simp only [SimpleBestFitAllocator.take, shows.here, if_neg larger, sizeFits]
    have noGap : extra = 0 := by omega
    have noTail : chunk.size - (size + extra) = 0 := by omega
    rw [whole, noTail, noGap]
    exact ⟨left, right, by simpa [Chunk.rest] using taken⟩

end

/-! ## Deallocation -/

variable (chunks : List Chunk)

def total : Nat := (chunks.map Chunk.size).sum

@[simp] lemma total_nil : total [] = 0 := rfl

@[simp] lemma total_cons : total (chunk :: chunks) = chunk.size + total chunks := rfl

@[simp] lemma total_append (pre after : List Chunk) :
    total (pre ++ after) = total pre + total after := by
  simp [total]

lemma Shows.mergePrev {prev : Nat}
    (shows : alloc.Shows left prev (node :: right) pre first (second :: after))
    (free : first.free = true) (fits : first.size + second.size < 2 ^ 28) :
    (alloc.mergePrev node).Shows left prev right pre
      ⟨first.start, first.size + second.size, true⟩ after := by
  have around : alloc.Holds ((left ++ [prev]) ++ node :: right) := by simpa using shows.holds
  have link : alloc.mList.prev node = some prev := by simpa using around.links.prev_eq
  have here : alloc.chunk node = second := (cons.inj shows.right).1
  have merges : alloc.mergePrev node =
      (alloc.setChunk prev ⟨first.start, first.size + second.size, true⟩).remove node := by
    simp [SimpleBestFitAllocator.mergePrev, link, shows.here, here, free, chunkSize_of_lt fits]
  have new := shows.setChunk ⟨first.start, first.size + second.size, true⟩
  have apart : (alloc.setChunk prev ⟨first.start, first.size + second.size, true⟩).Holds
      ((left ++ [prev]) ++ node :: right) := by
    simpa using new.holds
  rw [merges]
  exact ⟨by simpa using apart.remove, new.left, new.here, (cons.inj new.right).2⟩

lemma Shows.merge {prev : Nat}
    (shows : alloc.Shows left prev (node :: right) pre first (second :: after))
    (free : first.free = true)
    (fits : first.size + total (second :: after.takeWhile Chunk.free) < 2 ^ 28)
    (suff : right.length < fuel) : ∃ rest, (alloc.merge fuel node).Shows left prev rest pre
      ⟨first.start, first.size + total (second :: after.takeWhile Chunk.free), true⟩
      (after.dropWhile Chunk.free) := by
  induction right generalizing alloc node first second after fuel with
  | nil =>
    cases fuel with
    | zero => cases suff
    | succ fuel =>
      have around : alloc.Holds ((left ++ [prev]) ++ [node]) := by simpa using shows.holds
      have link : alloc.mList.next node = none := by simpa using around.links.next_eq
      cases (cons.inj shows.right).2
      refine ⟨[], ?_⟩
      simpa [merge, link] using shows.mergePrev free (by simpa using fits)
  | cons next more ih =>
    cases fuel with
    | zero => cases suff
    | succ fuel =>
      have around : alloc.Holds ((left ++ [prev]) ++ node :: next :: more) := by
        simpa using shows.holds
      have link : alloc.mList.next node = some next := by simpa using around.links.next_eq
      cases after with
      | nil => cases (cons.inj shows.right).2
      | cons third rest =>
        rw [total_cons] at fits
        have merged := shows.mergePrev free (by omega)
        have kept : (alloc.mergePrev node).chunk next = third := (cons.inj merged.right).1
        cases isFree : third.free with
        | false =>
          -- The next chunk is not free, so the loop ends here.
          refine ⟨next :: more, ?_⟩
          simpa [merge, link, kept, isFree] using merged
        | true =>
          simp only [takeWhile_cons, isFree, if_true, total_cons] at fits
          rcases ih merged rfl (by simp only [total_cons]; omega)
            (Nat.lt_of_succ_lt_succ suff) with ⟨back, later⟩
          refine ⟨back, ?_⟩
          simpa [merge, link, kept, isFree, Nat.add_assoc] using later

lemma Shows.merge_alone (shows : alloc.Shows left node right pre chunk after)
    (alone : alloc.mergePrev node = alloc) (free : chunk.free = true)
    (fits : chunk.size + total (after.takeWhile Chunk.free) < 2 ^ 28) (suff : right.length < fuel) :
    ∃ rest, (alloc.merge fuel node).Shows left node rest pre
      ⟨chunk.start, chunk.size + total (after.takeWhile Chunk.free), true⟩
      (after.dropWhile Chunk.free) := by
  have whole : chunk = ⟨chunk.start, chunk.size, true⟩ := by rw [← free]
  cases fuel with
  | zero => cases suff
  | succ fuel =>
    have link := shows.holds.links.next_eq
    cases right with
    | nil =>
      cases shows.right
      rw [whole] at shows
      exact ⟨[], by simpa [SimpleBestFitAllocator.merge, link, alone] using shows⟩
    | cons next more =>
      cases after with
      | nil => cases shows.right
      | cons second rest =>
        have kept : alloc.chunk next = second := (cons.inj shows.right).1
        cases isFree : second.free with
        | false =>
          rw [whole] at shows
          refine ⟨next :: more, ?_⟩
          simpa [SimpleBestFitAllocator.merge, link, alone, kept, isFree] using shows
        | true =>
          simp only [takeWhile_cons, isFree, if_true] at fits
          rcases shows.merge free fits (Nat.lt_of_succ_lt_succ suff) with ⟨back, later⟩
          refine ⟨back, ?_⟩
          simpa [SimpleBestFitAllocator.merge, link, alone, kept, isFree] using later

structure Merged (chunks : List Chunk) (merged : Chunk) : Prop where
  free : merged.free = true
  start : chunks.head?.map Chunk.start = some merged.start
  size : merged.size = total chunks

/-- A free chunk between others has been merged with the free chunks next to it: with one
before it, and with all that follow it. -/
structure Coalesces (left right : List Chunk) (chunk : Chunk) (front before after back : List Chunk)
    (merged : Chunk) : Prop where
  left : left = front ++ before
  right : right = after ++ back
  free : ∀ other ∈ before ++ after, other.free = true
  merged : Merged (before ++ chunk :: after) merged
  atMostOne : before.length ≤ 1
  front : before = [] → ∀ other, front.getLast? = some other → other.free = false
  back : ∀ other, back.head? = some other → other.free = false

lemma free_of_mem_takeWhile {chunks : List Chunk} :
    ∀ other ∈ chunks.takeWhile Chunk.free, other.free = true :=
  fun _ mem => mem_takeWhile_imp mem

lemma used_of_head?_dropWhile {chunks : List Chunk} :
    ∀ other, (chunks.dropWhile Chunk.free).head? = some other → other.free = false := by
  intro other head
  have stops := head?_dropWhile_not Chunk.free chunks
  rw [head] at stops
  simpa using stops

variable (shows : alloc.Shows left node right pre chunk after)
include shows

lemma Shows.merges_or (ne : pre = [] ∨ chunk.size ≠ 0) : (alloc.mergePrev node = alloc ∧
      ∀ other, pre.getLast? = some other → other.free = false) ∨
    ∃ low prev front first, pre = front ++ [first] ∧ first.free = true ∧
      alloc.Shows low prev (node :: right) front first (chunk :: after) := by
  have link := shows.holds.links.prev_eq
  rcases eq_nil_or_concat left with rfl | ⟨low, prev, rfl⟩
  · cases shows.left
    exact .inl ⟨by simp [SimpleBestFitAllocator.mergePrev, link], by simp⟩
  · rw [concat_eq_append] at *
    have parts := shows.left
    rw [chunks_append] at parts
    cases free : (alloc.chunk prev).free with
    | false =>
      have size : (alloc.chunk node).size ≠ 0 := by
        rw [shows.here]
        exact ne.resolve_left (by simp [← parts])
      refine .inl ⟨?_, by simp [← parts, free]⟩
      simp [SimpleBestFitAllocator.mergePrev, link, free, size]
    | true =>
      refine .inr ⟨low, prev, _, _, parts.symm, free, ?_, rfl, rfl, ?_⟩
      · simpa using shows.holds
      · rw [chunks_cons, shows.here, shows.right]

lemma Shows.merge_coalesces (free : chunk.free = true)
    (fits : total (pre ++ chunk :: after) < 2 ^ 28) (ne : pre = [] ∨ chunk.size ≠ 0) :
    ∃ left joint right front joined fused back,
      (alloc.merge alloc.made node).Shows left joint right front fused back ∧
      Coalesces pre after chunk front joined (after.takeWhile Chunk.free) back fused := by
  have length := shows.holds.length_le
  have parts : total after = total (after.takeWhile Chunk.free) +
      total (after.dropWhile Chunk.free) := by
    rw [← total_append, takeWhile_append_dropWhile]
  simp only [length_append, length_cons] at length
  simp only [total_append, total_cons] at fits
  rcases shows.merges_or ne with ⟨alone, stops⟩ | ⟨low, prev, front, first, rfl, prevFree, around⟩
  · rcases shows.merge_alone alone free (by omega) (by omega : right.length < alloc.made) with
      ⟨rest, fused⟩
    refine ⟨left, node, rest, pre, [], _, _, fused, ?_⟩
    exact {
      left := (append_nil _).symm, right := takeWhile_append_dropWhile.symm
      free := free_of_mem_takeWhile
      merged := ⟨rfl, rfl, rfl⟩
      atMostOne := by simp
      front := fun _ => stops
      back := used_of_head?_dropWhile }
  · simp only [total_append, total_cons, total_nil] at fits
    rcases around.merge prevFree (by simp only [total_cons]; omega)
      (by omega : right.length < alloc.made) with ⟨rest, fused⟩
    refine ⟨low, prev, rest, front, [first], _, _, fused, ?_⟩
    exact {
      left := rfl, right := takeWhile_append_dropWhile.symm
      free := by simpa [prevFree] using free_of_mem_takeWhile
      merged := ⟨rfl, rfl, rfl⟩
      atMostOne := by simp
      front := by simp
      back := used_of_head?_dropWhile }

end SimpleBestFitAllocator

end NativeLibs.Binder

/-! ## The chunks tile the heap

The chunks of an allocator follow each other from the beginning of the heap to its end, and
no two neighbours are free. Splitting a free chunk and merging a freed one keep this. -/

namespace NativeLibs.Binder

open List

namespace SimpleBestFitAllocator

def Apart (chunks : List Chunk) : Prop :=
  chunks.IsChain fun earlier later => (earlier.free && later.free) = false

/-- The chunks of a heap of a number of units. Only the chunk of an empty heap is empty. -/
structure Sound (units : Nat) (chunks : List Chunk) : Prop where
  tiles : Tiles Chunk.start Chunk.size 0 chunks units
  apart : Apart chunks
  positive : (∀ chunk ∈ chunks, 0 < chunk.size) ∨ chunks = [⟨0, 0, true⟩]

def allocated (chunks : List Chunk) : List Chunk := chunks.filter fun chunk => !chunk.free

variable {chunks after : List Chunk} {chunk : Chunk}

/-! ## Tiles -/

lemma tiles_rest (low size : Nat) :
    Tiles Chunk.start Chunk.size low (Chunk.rest low size) (low + size) := by
  unfold Chunk.rest
  split_ifs with none
  · simp [Tiles, none]
  · simp [Tiles]

lemma total_of_tiles (tiles : Tiles Chunk.start Chunk.size first chunks last) :
    first + total chunks = last := by
  induction chunks generalizing first with
  | nil => simpa [Tiles] using tiles
  | cons chunk rest ih =>
    rw [total_cons, ← Nat.add_assoc]
    exact ih tiles.2

lemma Merged.tiles (isMerged : Merged chunks merged)
    (tiles : Tiles Chunk.start Chunk.size first chunks last) :
    Tiles Chunk.start Chunk.size first [merged] last := by
  refine ⟨?_, ?_⟩
  · cases chunks with
    | nil => cases isMerged.start
    | cons chunk rest =>
      rw [← Option.some.inj isMerged.start]
      exact tiles.1
  · rw [isMerged.size]
    exact total_of_tiles tiles

lemma Sound.nodup_starts (sound : Sound units chunks) : (chunks.map Chunk.start).Nodup := by
  rcases sound.positive with pos | one
  · exact sound.tiles.nodup_starts pos
  · simp [one]

/-! ## Neighbours -/

lemma Apart.around (apart : Apart (left ++ chunk :: right)) (free : chunk.free = true) :
    (∀ other, left.getLast? = some other → other.free = false) ∧
      ∀ other, right.head? = some other → other.free = false := by
  rcases isChain_append.1 apart with ⟨_, tail, link⟩
  constructor
  · intro other isLast
    simpa [free] using link other isLast chunk rfl
  · intro other head
    simpa [free] using (isChain_cons.1 tail).1 other head

lemma Apart.insert (inLeft : Apart left) (inR : Apart right)
    (last : ∀ other, left.getLast? = some other → other.free = false)
    (head : ∀ other, right.head? = some other → other.free = false) :
    Apart (left ++ chunk :: right) := by
  refine isChain_append.2 ⟨inLeft, isChain_cons.2 ⟨?_, inR⟩, ?_⟩
  · intro other isHead
    simp [head other isHead]
  · intro other isLast next _
    simp [last other isLast]

lemma Apart.insertRest (inLeft : Apart left) (inR : Apart right)
    (last : ∀ other, left.getLast? = some other → other.free = false)
    (head : ∀ other, right.head? = some other → other.free = false) (low size : Nat) :
    Apart (left ++ (Chunk.rest low size ++ right)) := by
  unfold Chunk.rest
  split_ifs
  · refine isChain_append.2 ⟨inLeft, inR, ?_⟩
    intro other isLast next _
    simp [last other isLast]
  · exact inLeft.insert inR last head

/-! ## Allocation -/

lemma Sound.split (sound : Sound units (left ++ chunk :: right)) (free : chunk.free = true)
    (room : size + extra ≤ chunk.size) (pos : 0 < size) :
    Sound units ((left ++ Chunk.rest chunk.start extra) ++ ⟨chunk.start + extra, size, false⟩ ::
      (Chunk.rest (chunk.start + extra + size) (chunk.size - (size + extra)) ++ right)) := by
  constructor
  · rcases Tiles.append_iff.1 sound.tiles with ⟨mid, inLeft, begins, inR⟩
    rw [← begins] at inLeft inR
    refine .append_iff.2 ⟨chunk.start + extra, ?_, rfl, ?_⟩
    · exact .append_iff.2 ⟨chunk.start, inLeft, tiles_rest _ _⟩
    · refine .append_iff.2 ⟨_, tiles_rest _ _, ?_⟩
      have ends : chunk.start + extra + size + (chunk.size - (size + extra)) =
          chunk.start + chunk.size := by omega
      rw [ends]
      exact inR
  · rcases sound.apart.around free with ⟨last, head⟩
    rcases isChain_append.1 sound.apart with ⟨inLeft, tail, _⟩
    have inR : Apart right := (isChain_cons.1 tail).2
    have taken : Apart (⟨chunk.start + extra, size, false⟩ ::
        (Chunk.rest (chunk.start + extra + size) (chunk.size - (size + extra)) ++ right)) := by
      have alone : Apart [⟨chunk.start + extra, size, false⟩] := isChain_singleton _
      exact alone.insertRest inR (by simp) head _ _
    rw [append_assoc]
    exact .insertRest inLeft taken last (by simp) _ _
  · refine .inl ?_
    have whole : ∀ other ∈ left ++ chunk :: right, 0 < other.size := by
      rcases sound.positive with all | one
      · exact all
      · rcases append_eq_singleton_iff.1 one with ⟨rfl, same⟩ | ⟨_, same⟩
        · rw [cons.injEq] at same
          rw [same.1] at room
          simp only [Nat.le_zero_eq] at room
          omega
        · cases same
    have rests : ∀ low size, ∀ other ∈ Chunk.rest low size, 0 < other.size := by
      intro low size other mem
      unfold Chunk.rest at mem
      split_ifs at mem with none
      · cases mem
      · rw [mem_singleton.1 mem]
        exact Nat.pos_of_ne_zero none
    intro other mem
    simp only [mem_append, mem_cons] at mem whole
    rcases mem with (inLeft | gap) | rfl | tail | inR
    · exact whole other (.inl inLeft)
    · exact rests _ _ other gap
    · exact pos
    · exact rests _ _ other tail
    · exact whole other (.inr (.inr inR))

lemma allocated_rest (low size : Nat) : allocated (Chunk.rest low size) = [] := by
  unfold Chunk.rest
  split_ifs <;> rfl

lemma allocated_split (left right : List Chunk) (free : chunk.free = true) (low size : Nat)
    (gap gapSize tail tailSize : Nat) :
    (allocated ((left ++ Chunk.rest gap gapSize) ++ ⟨low, size, false⟩ ::
      (Chunk.rest tail tailSize ++ right))).Perm
        (⟨low, size, false⟩ :: allocated (left ++ chunk :: right)) := by
  have gapFree := allocated_rest gap gapSize
  have tailFree := allocated_rest tail tailSize
  simp only [allocated] at gapFree tailFree ⊢
  simp only [filter_append, gapFree, append_nil, filter_cons, Bool.not_false,
    if_true, tailFree, nil_append, free, Bool.not_true, Bool.false_eq_true, if_false]
  exact perm_middle

/-! ## Deallocation -/

lemma Sound.coalesce (sound : Sound units (left ++ chunk :: right))
    (coal : Coalesces left right { chunk with free := true } front old after back merged) :
    Sound units (front ++ merged :: back) := by
  have sameLeft := coal.left
  have sameRight := coal.right
  subst sameLeft sameRight
  constructor
  · rcases Tiles.append_iff.1 sound.tiles with ⟨mid, low, begins, rest⟩
    rcases Tiles.append_iff.1 low with ⟨first, inFront, inBefore⟩
    rcases Tiles.append_iff.1 rest with ⟨last, inAfter, inBack⟩
    have run : Tiles Chunk.start Chunk.size first
        (old ++ { chunk with free := true } :: after) last :=
      .append_iff.2 ⟨mid, inBefore, begins, inAfter⟩
    rcases coal.merged.tiles run with ⟨starts, ends⟩
    refine .append_iff.2 ⟨first, inFront, starts, ?_⟩
    rw [show first + merged.size = last from ends]
    exact inBack
  · rcases isChain_append.1 sound.apart with ⟨low, tail, _⟩
    have inAfter : Apart (after ++ back) := (isChain_cons.1 tail).2
    have last : ∀ other, front.getLast? = some other → other.free = false := by
      intro other isLast
      cases old with
      | nil => exact coal.front rfl other isLast
      | cons prev more =>
        have free := coal.free prev (by simp)
        exact (Apart.around low free).1 other isLast
    exact .insert low.left_of_append inAfter.right_of_append last coal.back
  · rcases sound.positive with all | one
    · refine .inl fun other mem => ?_
      simp only [mem_append, mem_cons] at mem all
      rcases mem with inFront | rfl | inBack
      · exact all other (.inl (.inl inFront))
      · rw [coal.merged.size]
        have part := all chunk (.inr (.inl rfl))
        simp only [total_append, total_cons]
        omega
      · exact all other (.inr (.inr (.inr inBack)))
    · refine .inr ?_
      rcases append_eq_singleton_iff.1 one with ⟨none, same⟩ | ⟨_, same⟩
      · rw [append_eq_nil_iff] at none
        rw [cons.injEq, append_eq_nil_iff] at same
        rcases none with ⟨rfl, rfl⟩
        rcases same with ⟨rfl, rfl, rfl⟩
        have isMerged := coal.merged
        have low : merged.start = 0 := (Option.some.inj isMerged.start).symm
        have size : merged.size = 0 := isMerged.size
        have free := isMerged.free
        cases merged
        simp_all
      · cases same

lemma allocated_coalesce
    (coal : Coalesces left right { chunk with free := true } front old after back merged) :
    allocated (front ++ merged :: back) = allocated left ++ allocated right := by
  have frees : ∀ {run : List Chunk}, (∀ other ∈ run, other.free = true) → allocated run = [] := by
    intro run all
    exact filter_eq_nil_iff.2 fun other mem => by simp [all other mem]
  have inBefore : allocated old = [] := frees fun other mem =>
    coal.free other (mem_append_left _ mem)
  have inAfter : allocated after = [] := frees fun other mem =>
    coal.free other (mem_append_right _ mem)
  have free := coal.merged.free
  rw [coal.left, coal.right]
  simp only [allocated] at inBefore inAfter ⊢
  simp [filter_append, inBefore, inAfter, free]

lemma Sound.eq_single (sound : Sound units chunks) (ne : chunks ≠ [])
    (unused : allocated chunks = []) : chunks = [⟨0, units, true⟩] := by
  have allFree : ∀ chunk ∈ chunks, chunk.free = true := by
    intro chunk mem
    simpa using filter_eq_nil_iff.1 unused chunk mem
  match chunks, sound, allFree, ne with
  | [chunk], sound, allFree, _ =>
    have tiles := sound.tiles
    have free := allFree chunk (by simp)
    simp only [Tiles, Nat.zero_add] at tiles
    cases chunk
    simp_all
  | first :: second :: rest, sound, allFree, _ =>
    have apart := (isChain_cons_cons.1 sound.apart).1
    simp [allFree first (by simp), allFree second (by simp)] at apart

end SimpleBestFitAllocator

end NativeLibs.Binder
