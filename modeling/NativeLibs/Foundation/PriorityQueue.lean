import Mathlib.Data.List.Sort

/-! # Priority queues

A queue whose first element has the smallest key. It is kept as a list in order,
which the structure carries along. -/

namespace NativeLibs

structure PriorityQueue {Element : Type*} (key : Element → Nat) where
  items : List Element
  ordered : items.Pairwise (Order.Preimage key (· ≤ ·))

namespace PriorityQueue

variable {Element : Type*} {key : Element → Nat} {queue : PriorityQueue key}

def empty : PriorityQueue key := ⟨[], List.Pairwise.nil⟩

section

variable (queue) (element : Element)

def push : PriorityQueue key where
  items := queue.items.orderedInsert (Order.Preimage key (· ≤ ·)) element
  ordered := queue.ordered.orderedInsert element _

def top : Option Element := queue.items.head?

def pop : PriorityQueue key where
  items := queue.items.tail
  ordered := queue.ordered.tail

lemma push_perm : (queue.push element).items.Perm (element :: queue.items) :=
  List.perm_orderedInsert _ element queue.items

end

lemma items_eq_nil_of_top (none : queue.top = none) : queue.items = [] :=
  List.head?_eq_none_iff.1 none

lemma items_of_top (top : queue.top = some first) : queue.items = first :: queue.pop.items ∧
      ∀ element ∈ queue.pop.items, key first ≤ key element := by
  rcases queue with ⟨items, ord⟩
  cases items with
  | nil => simp [PriorityQueue.top] at top
  | cons head rest =>
    have same : head = first := by simpa [PriorityQueue.top] using top
    subst same
    exact ⟨rfl, fun element mem => List.rel_of_pairwise_cons ord mem⟩

end PriorityQueue

end NativeLibs
