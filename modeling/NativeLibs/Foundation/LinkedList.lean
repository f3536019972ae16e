import Mathlib.Data.List.Nodup

/-! # Doubly linked lists

The links of the nodes of a doubly linked list, with the operations that set them one by
one. `Represents` says which list the links stand for, and each operation is shown to do
to it what its name says. -/

namespace NativeLibs

open List Function

structure Links (Id : Type*) where
  first : Option Id
  last : Option Id
  prev : Id → Option Id
  next : Id → Option Id

namespace Links

variable {Id : Type*}

def empty : Links Id where
  first := none
  last := none
  prev := fun _ => none
  next := fun _ => none

section Operations

variable [DecidableEq Id] (links : Links Id) (node : Id) (target : Option Id)

def setPrev : Links Id :=
  { links with prev := update links.prev node target }

def setNext : Links Id :=
  { links with next := update links.next node target }

def insertAfter (node new : Id) : Links Id :=
  let links := links.setPrev new (some node)
  let links := links.setNext new (links.next node)
  let links := match links.next node with
    | none => { links with last := some new }
    | some after => links.setPrev after (some new)
  links.setNext node (some new)

def insertBefore (node new : Id) : Links Id :=
  let links := links.setPrev new (links.prev node)
  let links := links.setNext new (some node)
  let links := match links.prev node with
    | none => { links with first := some new }
    | some before => links.setNext before (some new)
  links.setPrev node (some new)

def insertHead (new : Id) : Links Id :=
  match links.first with
  | none => ({ links with first := some new, last := some new }.setPrev new none).setNext new none
  | some first =>
    let links := (links.setPrev new none).setNext new (some first)
    { links.setPrev first (some new) with first := some new }

def remove : Links Id :=
  let links := match links.prev node with
    | none => { links with first := links.next node }
    | some before => links.setNext before (links.next node)
  match links.next node with
  | none => { links with last := links.prev node }
  | some after => links.setPrev after (links.prev node)

end Operations

/-! ## The list that links stand for -/

def Segment (links : Links Id) : Option Id → List Id → Option Id → Prop
  | _, [], _ => True
  | before, node :: rest, after =>
    links.prev node = before ∧ links.next node = rest.head?.or after ∧
      links.Segment (some node) rest after

structure Represents (links : Links Id) (nodes : List Id) : Prop where
  nodup : nodes.Nodup
  first : links.first = nodes.head?
  last : links.last = nodes.getLast?
  segment : links.Segment none nodes none

variable {links changed : Links Id} {pre after : Option Id} {nodes left right : List Id}
  {node : Id}

lemma segment_append : links.Segment pre (left ++ right) after ↔
    links.Segment pre left (right.head?.or after) ∧
      links.Segment (left.getLast?.or pre) right after := by
  induction left generalizing pre with
  | nil => simp [Segment]
  | cons head rest ih =>
    have last : ((head :: rest).getLast?.or pre) = rest.getLast?.or (some head) := by
      cases rest with
      | nil => simp
      | cons second more => simp [getLast?_cons]
    simp only [cons_append, Segment, ih, head?_append, last, Option.or_assoc, and_assoc]

section

variable (segment : links.Segment pre nodes after)
include segment

lemma Segment.congr (same : ∀ node ∈ nodes, changed.prev node = links.prev node ∧
      changed.next node = links.next node) : changed.Segment pre nodes after := by
  induction nodes generalizing pre with
  | nil => trivial
  | cons head rest ih =>
    rcases segment with ⟨prev, next, tail⟩
    rcases same head (by simp) with ⟨samePrev, sameNext⟩
    refine ⟨samePrev.trans prev, sameNext.trans next, ?_⟩
    exact ih tail fun node mem => same node (by simp [mem])

lemma Segment.relinkPrev (first : ∀ node, nodes.head? = some node → changed.prev node = other)
    (prev : ∀ node ∈ nodes.tail, changed.prev node = links.prev node)
    (next : ∀ node ∈ nodes, changed.next node = links.next node) : changed.Segment other nodes after := by
  cases nodes with
  | nil => trivial
  | cons head rest =>
    rcases segment with ⟨_, nextHead, tail⟩
    refine ⟨first head rfl, (next head (by simp)).trans nextHead, tail.congr ?_⟩
    exact fun node mem => ⟨prev node mem, next node (by simp [mem])⟩

/-! ## The same list from its other end -/

def flip (links : Links Id) : Links Id := ⟨links.last, links.first, links.next, links.prev⟩

lemma Segment.flip : links.flip.Segment after nodes.reverse pre := by
  induction nodes generalizing pre with
  | nil => trivial
  | cons head rest ih =>
    rcases segment with ⟨prev, next, tail⟩
    rw [reverse_cons]
    refine segment_append.2 ⟨by simpa using ih tail, ?_, prev, trivial⟩
    rw [getLast?_reverse]
    exact next

end

lemma Represents.flip (reps : links.Represents nodes) :
    links.flip.Represents nodes.reverse where
  nodup := nodup_reverse.2 reps.nodup
  first := reps.last.trans head?_reverse.symm
  last := reps.first.trans getLast?_reverse.symm
  segment := reps.segment.flip

lemma Segment.relinkNext (segment : links.Segment pre nodes after)
    (last : ∀ node, nodes.getLast? = some node → changed.next node = other)
    (next : ∀ node ∈ nodes.dropLast, changed.next node = links.next node)
    (prev : ∀ node ∈ nodes, changed.prev node = links.prev node) : changed.Segment pre nodes other := by
  have relinked : changed.flip.Segment other nodes.reverse pre := by
    apply segment.flip.relinkPrev
    · simpa [Links.flip] using last
    · simpa [Links.flip] using next
    · simpa [Links.flip] using prev
  simpa [Links.flip] using relinked.flip

/-! ## A list around one of its nodes -/

section

variable (reps : links.Represents (left ++ node :: right))
include reps

lemma Represents.next_eq : links.next node = right.head? := by
  rcases segment_append.1 reps.segment with ⟨_, _, next, _⟩
  simpa using next

lemma Represents.prev_eq : links.prev node = left.getLast? := by
  rcases segment_append.1 reps.segment with ⟨_, prev, _⟩
  simpa using prev

lemma Represents.ne_of_mem (mem : other ∈ left ∨ other ∈ right) : other ≠ node := by
  have nodup := reps.nodup
  rw [nodup_append, nodup_cons] at nodup
  rintro rfl
  rcases mem with inLeft | inR
  · exact nodup.2.2 other inLeft other (by simp) rfl
  · exact nodup.2.1.1 inR

lemma Represents.apart (inLeft : other ∈ left) : other ∉ right := by
  have nodup := reps.nodup
  rw [nodup_append] at nodup
  exact fun inR => nodup.2.2 other inLeft other (by simp [inR]) rfl

end

lemma nodup_insert (nodup : (left ++ right).Nodup) (fresh : new ∉ left ++ right) :
    (left ++ new :: right).Nodup :=
  (perm_middle.nodup_iff).2 (nodup_cons.2 ⟨fresh, nodup⟩)

lemma head?_ne_of_mem_tail (nodup : nodes.Nodup) (mem : node ∈ nodes.tail) :
    nodes.head? ≠ some node := by
  cases nodes with
  | nil => cases mem
  | cons head rest =>
    intro same
    exact (nodup_cons.1 nodup).1 (Option.some.inj same ▸ mem)

lemma getLast?_ne_of_mem_dropLast (nodup : nodes.Nodup) (mem : node ∈ nodes.dropLast) :
    nodes.getLast? ≠ some node := by
  rw [← head?_reverse]
  apply head?_ne_of_mem_tail (nodup_reverse.2 nodup)
  simpa using mem

/-! ## The operations -/

variable [DecidableEq Id]

lemma represents_insertHead_empty (new : Id) : (empty.insertHead new).Represents [new] := by
  refine ⟨by simp, rfl, rfl, ?_, ?_, trivial⟩
  · simp [empty, insertHead, setPrev, setNext]
  · simp [empty, insertHead, setPrev, setNext]

lemma insertAfter_spec (links : Links Id) (ne : node ≠ new) :
    (links.insertAfter node new).first = links.first ∧
    (links.insertAfter node new).last = (if links.next node = none then some new else links.last) ∧
    (links.insertAfter node new).next =
      update (update links.next new (links.next node)) node (some new) ∧
    (∀ other, other ≠ new → links.next node ≠ some other →
      (links.insertAfter node new).prev other = links.prev other) ∧
    (∀ other, links.next node = some other → (links.insertAfter node new).prev other = some new) ∧
    (links.next node ≠ some new → (links.insertAfter node new).prev new = some node) := by
  cases next : links.next node with
  | none => simp +contextual [insertAfter, setPrev, setNext, ne, next]
  | some after =>
    refine ⟨?_, ?_, ?_, ?_, ?_, ?_⟩
    · simp [insertAfter, setPrev, setNext, ne, next]
    · simp [insertAfter, setPrev, setNext, ne, next]
    · simp [insertAfter, setPrev, setNext, ne, next]
    · intro other notNew early
      have apart : other ≠ after := fun same => early (by rw [same])
      simp [insertAfter, setPrev, setNext, ne, next, apart, notNew]
    · intro other same
      cases same
      simp [insertAfter, setPrev, setNext, ne, next]
    · intro early
      have apart : new ≠ after := fun same => early (by rw [same])
      simp [insertAfter, setPrev, setNext, ne, next, apart]

lemma flip_insertBefore (links : Links Id) (node new : Id) :
    (links.insertBefore node new).flip = links.flip.insertAfter node new := by
  simp only [insertBefore, insertAfter, setPrev, setNext, flip]
  split <;> rfl

lemma remove_spec (links : Links Id) (notPrev : links.prev node ≠ some node) :
    (links.remove node).first = (if links.prev node = none then links.next node else links.first) ∧
    (links.remove node).last = (if links.next node = none then links.prev node else links.last) ∧
    (∀ other, links.prev node ≠ some other → (links.remove node).next other = links.next other) ∧
    (∀ other, links.prev node = some other → (links.remove node).next other = links.next node) ∧
    (∀ other, links.next node ≠ some other → (links.remove node).prev other = links.prev other) ∧
    (∀ other, links.next node = some other → (links.remove node).prev other = links.prev node) := by
  cases prev : links.prev node with
  | none =>
    cases next : links.next node with
    | none => simp [remove, prev, next]
    | some after => simp +contextual [remove, setPrev, prev, next, eq_comm]
  | some pre =>
    have apart : node ≠ pre := fun same => notPrev (by rw [prev, same])
    cases next : links.next node with
    | none => simp +contextual [remove, setNext, prev, next, update_apply, apart, eq_comm]
    | some after =>
      simp +contextual [remove, setPrev, setNext, prev, next, update_apply, apart, eq_comm]

lemma Represents.insertAfter (reps : links.Represents (left ++ node :: right))
    (fresh : new ∉ left ++ node :: right) :
    (links.insertAfter node new).Represents (left ++ node :: new :: right) := by
  have newNode : node ≠ new := fun same => fresh (by simp [same])
  have next := reps.next_eq
  have isOld : ∀ {other}, other ∈ left ++ node :: right → other ≠ new :=
    fun mem same => fresh (same ▸ mem)
  have inR : ∀ {other}, links.next node = some other → other ∈ right := by
    intro other same
    exact mem_of_mem_head? (by rw [← next, same]; rfl)
  rcases insertAfter_spec links newNode with ⟨first, last, nexts, prevOther, prevAfter, prevNew⟩
  rcases segment_append.1 reps.segment with ⟨low, prevNode, nextNode, rest⟩
  constructor
  · have inserted : ((left ++ [node]) ++ new :: right).Nodup :=
      nodup_insert (by simpa using reps.nodup) (by simpa using fresh)
    simpa using inserted
  · rw [first, reps.first]
    simp
  · rw [last, reps.last, next]
    cases right with
    | nil => simp
    | cons after more => simp [getLast?_cons]
  · refine segment_append.2 ⟨?_, ?_, ?_, ?_, ?_, ?_⟩
    · apply low.congr
      intro other mem
      have notNode := reps.ne_of_mem (.inl mem)
      have notNew := isOld (mem_append_left _ mem)
      refine ⟨prevOther other notNew fun same => reps.apart mem (inR same), ?_⟩
      rw [nexts, update_of_ne notNode, update_of_ne notNew]
    · rw [prevOther node newNode fun same => reps.ne_of_mem (.inr (inR same)) rfl]
      exact prevNode
    · simp [nexts]
    · exact prevNew fun same => isOld (by simp [inR same]) rfl
    · rw [nexts, update_of_ne newNode.symm, update_self, next]
      simp
    · have nodup := (nodup_append.1 reps.nodup).2.1
      apply rest.relinkPrev
      · exact fun other head => prevAfter other (next.trans head)
      · intro other mem
        have old : other ∈ right := mem_of_mem_tail mem
        refine prevOther other (isOld (by simp [old])) ?_
        rw [next]
        exact head?_ne_of_mem_tail (nodup_cons.1 nodup).2 mem
      · intro other mem
        rw [nexts, update_of_ne (reps.ne_of_mem (.inr mem)),
          update_of_ne (isOld (by simp [mem]))]

variable (reps : links.Represents (left ++ node :: right))
include reps

lemma Represents.insertBefore (fresh : new ∉ left ++ node :: right) :
    (links.insertBefore node new).Represents (left ++ new :: node :: right) := by
  have flipped : links.flip.Represents (right.reverse ++ node :: left.reverse) := by
    simpa using reps.flip
  have miss : new ∉ right.reverse ++ node :: left.reverse := by
    simpa [and_comm, and_left_comm, and_assoc] using fresh
  have inserted := flipped.insertAfter miss
  rw [← flip_insertBefore] at inserted
  simpa [Links.flip] using inserted.flip

lemma Represents.remove : (links.remove node).Represents (left ++ right) := by
  have prev := reps.prev_eq
  have next := reps.next_eq
  have inLeft : ∀ {other}, links.prev node = some other → other ∈ left := by
    intro other same
    exact mem_of_mem_getLast? (by rw [← prev, same]; rfl)
  have inR : ∀ {other}, links.next node = some other → other ∈ right := by
    intro other same
    exact mem_of_mem_head? (by rw [← next, same]; rfl)
  rcases remove_spec links fun same => reps.ne_of_mem (.inl (inLeft same)) rfl with
    ⟨first, last, nextOther, nextBefore, prevOther, prevAfter⟩
  rcases segment_append.1 reps.segment with ⟨low, prevNode, nextNode, rest⟩
  have nodup : (left ++ right).Nodup :=
    (nodup_cons.1 (perm_middle.nodup_iff.1 reps.nodup)).2
  constructor
  · exact nodup
  · rw [first, reps.first, prev, next]
    cases left with
    | nil => simp
    | cons head more => simp [getLast?_cons]
  · rw [last, reps.last, prev, next]
    cases right with
    | nil => simp
    | cons after more => simp [getLast?_cons]
  · refine segment_append.2 ⟨?_, ?_⟩
    · apply low.relinkNext
      · exact fun other last => by simpa [next] using nextBefore other (prev.trans last)
      · intro other mem
        apply nextOther other
        rw [prev]
        exact getLast?_ne_of_mem_dropLast (nodup_append.1 nodup).1 mem
      · intro other mem
        exact prevOther other fun same => reps.apart mem (inR same)
    · apply rest.relinkPrev
      · exact fun other head => by simpa [prev] using prevAfter other (next.trans head)
      · intro other mem
        apply prevOther other
        rw [next]
        exact head?_ne_of_mem_tail (nodup_append.1 nodup).2.1 mem
      · intro other mem
        exact nextOther other fun same => reps.apart (inLeft same) mem

end Links

end NativeLibs
