import NativeLibs.Foundation.LinkedList
import NativeLibs.Foundation.Machine
import Mathlib.Algebra.Order.Ring.Int

/-! # The allocator of a memory dealer

`SimpleBestFitAllocator` keeps the chunks of a heap in a doubly linked list. Sizes and
starts are counted in units of `kMemoryAlign` bytes; a chunk is known by a number that
stands for its pointer. -/

namespace NativeLibs.Binder

/-- What `getpagesize()` returns: a power of two that is an `int`, and a whole number of
units. -/
structure PageSize where
  shift : Nat
  holdsUnits : 5 ≤ shift
  isInt : shift < 31

def PageSize.bytes (page : PageSize) : Nat := 2 ^ page.shift

structure Chunk where
  start : Nat
  size : Nat
  free : Bool
  deriving DecidableEq, Repr

def sizeT (value : Nat) : Nat := value % 2 ^ 64

def chunkSize (value : Nat) : Nat := value % 2 ^ 28

def Chunk.new (start size : Nat) : Chunk where
  start := start
  size := chunkSize size
  free := true

structure SimpleBestFitAllocator where
  mList : Links Nat
  chunk : Nat → Chunk
  made : Nat
  mHeapSize : Nat

namespace SimpleBestFitAllocator

variable (page : PageSize)

def kMemoryAlign : Nat := 32

/-- `& ~(pagesize-1)` clears the bits below the page size. -/
def roundToPage (size : Nat) : Nat :=
  let sum := sizeT (size + (page.bytes - 1))
  sum - sum % page.bytes

def create (size : Nat) : SimpleBestFitAllocator where
  mList := Links.empty.insertHead 0
  chunk := fun _ => Chunk.new 0 (roundToPage page size / kMemoryAlign)
  made := 1
  mHeapSize := roundToPage page size

variable (allocator : SimpleBestFitAllocator)

def setChunk (id : Nat) (chunk : Chunk) : SimpleBestFitAllocator :=
  { allocator with chunk := Function.update allocator.chunk id chunk }

variable (node : Nat) (chunk : Chunk)

def insertBefore : SimpleBestFitAllocator :=
  { allocator.setChunk allocator.made chunk with
    mList := allocator.mList.insertBefore node allocator.made
    made := allocator.made + 1 }

def insertAfter : SimpleBestFitAllocator :=
  { allocator.setChunk allocator.made chunk with
    mList := allocator.mList.insertAfter node allocator.made
    made := allocator.made + 1 }

def remove : SimpleBestFitAllocator :=
  { allocator with mList := allocator.mList.remove node }

def walk (allocator : SimpleBestFitAllocator) : Nat → Option Nat → List Nat
  | 0, _ => []
  | _ + 1, none => []
  | fuel + 1, some cur => cur :: allocator.walk fuel (allocator.mList.next cur)

def chunkList (allocator : SimpleBestFitAllocator) : List Chunk :=
  (allocator.walk allocator.made allocator.mList.first).map allocator.chunk

/-! ## Allocation -/

variable (pageAligned : Bool)

def extraUnits (start : Nat) : Nat :=
  if pageAligned then sizeT (2 ^ 64 - sizeT start) &&& (page.bytes / kMemoryAlign - 1) else 0

def canHold (size : Nat) (chunk : Chunk) : Bool :=
  chunk.free && size + extraUnits page pageAligned chunk.start ≤ chunk.size

/-- The loop of `alloc` from a chunk on, where the best one so far is known. The number of
chunks that were ever made bounds the number of its steps. -/
def search (allocator : SimpleBestFitAllocator) (page : PageSize) (pageAligned : Bool)
    (size : Nat) : Nat → Option Nat → Option Nat → Option Nat
  | 0, _, best => best
  | _ + 1, none, best => best
  | fuel + 1, some cur, best =>
    let chunk := allocator.chunk cur
    if canHold page pageAligned size chunk then
      let best := match best with
        | none => cur
        | some found => if chunk.size < (allocator.chunk found).size then cur else found
      if chunk.size = size then some best
      else allocator.search page pageAligned size fuel (allocator.mList.next cur) (some best)
    else allocator.search page pageAligned size fuel (allocator.mList.next cur) best

def splitBefore (node extra : Nat) : SimpleBestFitAllocator :=
  if extra ≠ 0 then
    let taken := allocator.chunk node
    (allocator.setChunk node { taken with start := taken.start + extra }).insertBefore node
      (Chunk.new taken.start extra)
  else allocator

def splitAfter (node : Nat) (tailFree : Int) : SimpleBestFitAllocator :=
  if tailFree > 0 then
    let taken := allocator.chunk node
    allocator.insertAfter node (Chunk.new (taken.start + taken.size) tailFree.toNat)
  else allocator

/-- A free chunk is allocated, and what is left of it before and after stays free. -/
def take (page : PageSize) (pageAligned : Bool) (size : Nat) (node : Nat) :
    SimpleBestFitAllocator :=
  let chunk := allocator.chunk node
  let allocator := allocator.setChunk node ⟨chunk.start, chunkSize size, false⟩
  if chunk.size > size then
    let extra := extraUnits page pageAligned chunk.start
    (allocator.splitBefore node extra).splitAfter node (chunk.size - (size + extra))
  else allocator

def alloc (page : PageSize) (size : Nat) (pageAligned : Bool) :
    Option Nat × SimpleBestFitAllocator :=
  if size = 0 then (some 0, allocator)
  else
    let size := sizeT (size + (kMemoryAlign - 1)) / kMemoryAlign
    match allocator.search page pageAligned size allocator.made allocator.mList.first none with
    | none => (none, allocator)
    | some node =>
      let allocator := allocator.take page pageAligned size node
      (some ((allocator.chunk node).start * kMemoryAlign), allocator)

/-! ## Deallocation -/

def find (allocator : SimpleBestFitAllocator) (start : Nat) : Nat → Option Nat → Option Nat
  | 0, _ => none
  | _ + 1, none => none
  | fuel + 1, some cur =>
    if (allocator.chunk cur).start = start then some cur
    else allocator.find start fuel (allocator.mList.next cur)

def mergePrev (cur : Nat) : SimpleBestFitAllocator :=
  match allocator.mList.prev cur with
  | none => allocator
  | some prev =>
    let before := allocator.chunk prev
    let chunk := allocator.chunk cur
    if before.free || chunk.size = 0 then
      (allocator.setChunk prev { before with size := chunkSize (before.size + chunk.size) }).remove
        cur
    else allocator

def merge (allocator : SimpleBestFitAllocator) : Nat → Nat → SimpleBestFitAllocator
  | 0, _ => allocator
  | fuel + 1, cur =>
    let next := allocator.mList.next cur
    let merged := allocator.mergePrev cur
    match next with
    | none => merged
    | some next => if (merged.chunk next).free then merged.merge fuel next else merged

/-- `dealloc`, and whether there was a chunk. A chunk that is free already is left as it is
unless the build is a debug build, which aborts. -/
def dealloc (offset : Nat) : Bool × SimpleBestFitAllocator :=
  match allocator.find (offset / kMemoryAlign) allocator.made allocator.mList.first with
  | none => (false, allocator)
  | some cur =>
    (true, (allocator.setChunk cur { allocator.chunk cur with free := true }).merge
      allocator.made cur)

end SimpleBestFitAllocator

/-! ## Allocations -/

structure Allocation where
  offset : Nat
  size : Nat
  deriving DecidableEq, Repr

variable (allocation : Allocation)

def Allocation.hasChunk : Bool := 0 < allocation.size

def Allocation.start : Nat :=
  allocation.offset / SimpleBestFitAllocator.kMemoryAlign

structure MemoryDealer where
  allocator : SimpleBestFitAllocator
  live : List Allocation

namespace MemoryDealer

inductive Call where
  | allocate (size : Nat) (pageAligned : Bool)
  | deallocate (offset : Nat)

variable (page : PageSize)

def create (size : Nat) : MemoryDealer where
  allocator := SimpleBestFitAllocator.create page size
  live := []

def step (dealer : MemoryDealer) : Call → MemoryDealer
  | .allocate size pageAligned =>
    match dealer.allocator.alloc page size pageAligned with
    | (none, allocator) => { dealer with allocator := allocator }
    | (some offset, allocator) =>
      { allocator := allocator, live := dealer.live ++ [⟨offset, size⟩] }
  | .deallocate offset =>
    { allocator := (dealer.allocator.dealloc offset).2
      live := dealer.live.filter fun allocation =>
        !(allocation.hasChunk && allocation.start = offset / SimpleBestFitAllocator.kMemoryAlign) }

def run (size : Nat) (calls : List Call) : MemoryDealer :=
  Machine.run (step page) (create page size) calls

end MemoryDealer

end NativeLibs.Binder
