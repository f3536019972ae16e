import NativeLibs.Input.Cancelation

/-! # Transferring touch

When a window hands its touch over, the pointers of its connection are merged into the state of
another, which then says of each pointer that it went down. The merge looks at the device, the
source and the screen of a memento, and not at whether it hovers. -/

namespace NativeLibs.Input

open List

variable {Value : Type}

structure Stream where
  deviceId : Int
  source : BitVec 32
  displayId : Int
  deriving DecidableEq

def MotionMemento.stream (memento : MotionMemento Value) : Stream :=
  ⟨memento.deviceId, memento.source, memento.displayId⟩

namespace InputState

variable {memo : MotionMemento Value} {memos after : List (MotionMemento Value)}

def inStream (stream : Stream) (mementos : List (MotionMemento Value)) :
    List (MotionMemento Value) :=
  mementos.filter (·.stream = stream)

def touches (memento : MotionMemento Value) : List (Pointer (PointerCoords Value)) :=
  if memento.hovering then [] else memento.pointers

def touching (stream : Stream) (state : InputState Value) :
    List (Pointer (PointerCoords Value)) :=
  (inStream stream state.mMotionMementos).flatMap touches

def downPointer (stream : Stream) : EventEntry Value → Option (Pointer (PointerCoords Value))
  | .motion entry =>
    if Stream.mk entry.deviceId entry.source entry.displayId = stream then entry.pointers.getLast?
    else none
  | .key _ => none

def unknown (memento : MotionMemento Value) : List (Pointer (PointerCoords Value)) :=
  match newPointers memento with
  | some first => memento.pointers.drop first
  | none => []

/-! ## The events -/

lemma mem_pointerDownEvents (now : Int) (first : Nat) (ptr : Pointer (PointerCoords Value)) :
    ptr ∈ (pointerDownEvents now memo first).filterMap (downPointer stream) ↔
      memo.stream = stream ∧ ptr ∈ memo.pointers.drop first := by
  rw [pointerDownEvents, List.filterMap_map, List.mem_filterMap, List.mem_iff_getElem?]
  constructor
  · rintro ⟨i, mem, named⟩
    rw [List.mem_range'_1] at mem
    dsimp only [Function.comp, downPointer, motionEvent] at named
    split at named
    · rename_i same
      rw [List.getLast?_take, if_neg (by omega), Nat.add_sub_cancel,
        List.getElem?_eq_getElem (by omega), Option.some_or] at named
      refine ⟨same, i - first, ?_⟩
      rw [List.getElem?_drop, Nat.add_sub_cancel' mem.1, ← named]
      exact List.getElem?_eq_getElem (by omega)
    · cases named
  · rintro ⟨same, i, mem⟩
    rw [List.getElem?_drop] at mem
    rcases List.getElem?_eq_some_iff.mp mem with ⟨bound, _⟩
    refine ⟨first + i, List.mem_range'_1.mpr ⟨by omega, by omega⟩, ?_⟩
    refine (if_pos same).trans ?_
    rw [motionEvent, List.getLast?_take, if_neg (by omega), Nat.add_sub_cancel, mem]
    rfl

lemma mem_downPointers (st : InputState Value) (now : Int)
    (ptr : Pointer (PointerCoords Value)) :
    ptr ∈ (st.synthesizePointerDownEvents now).1.filterMap (downPointer stream) ↔
      ptr ∈ (inStream stream st.mMotionMementos).flatMap unknown := by
  rw [synthesizePointerDownEvents, filterMap_flatMap, mem_flatMap, mem_flatMap]
  constructor
  · rintro ⟨memo, mem, named⟩
    cases new : newPointers memo with
    | none =>
      rw [new] at named
      cases named
    | some first =>
      rw [new] at named
      rcases (mem_pointerDownEvents ..).mp named with ⟨same, named⟩
      exact ⟨memo, by simp [inStream, mem, same], by simpa only [unknown, new] using named⟩
  · rintro ⟨memo, mem, named⟩
    simp only [inStream, mem_filter, decide_eq_true_eq] at mem
    refine ⟨memo, mem.1, ?_⟩
    cases new : newPointers memo with
    | none => simp [unknown, new] at named
    | some first =>
      simp only [unknown, new] at named
      exact (mem_pointerDownEvents ..).mpr ⟨mem.2, named⟩

/-! ## The merge in one stream -/

def mergeIn (others : List (MotionMemento Value)) (memento : MotionMemento Value) :
    List (MotionMemento Value) :=
  match others with
  | [] => [marked memento]
  | other :: rest => joined other memento :: rest

lemma sameStream_iff : sameStream memo other = true ↔ memo.stream = other.stream := by
  simp [sameStream, MotionMemento.stream, and_assoc]

lemma inStream_cons : inStream stream (memo :: rest) =
    if memo.stream = stream then memo :: inStream stream rest else inStream stream rest := by
  simp [inStream, filter_cons]

lemma inStream_append :
    inStream stream (memos ++ rest) = inStream stream memos ++ inStream stream rest :=
  filter_append ..

lemma pointer_stream (source : isPointerSource memo.source = true) :
    memo.stream = stream ↔ memo.stream = stream ∧ isPointerSource stream.source = true :=
  ⟨fun same => ⟨same, same ▸ source⟩, And.left⟩

lemma inStream_set (hit : others.findIdx? (sameStream memo) = some i)
    (mem : others[i]? = some other) : inStream stream (others.set i (joined other memo)) =
      if memo.stream = stream then mergeIn (inStream stream others) memo else inStream stream others := by
  induction others generalizing i with
  | nil => cases hit
  | cons first rest ih =>
    rw [findIdx?_cons] at hit
    split at hit
    · rename_i same
      have same := sameStream_iff.mp same
      cases hit
      cases mem
      have kept : (joined other memo).stream = other.stream := rfl
      rw [set_cons_zero, inStream_cons, inStream_cons, kept, same]
      split <;> rfl
    · rename_i apart
      rw [sameStream_iff] at apart
      rcases Option.map_eq_some_iff.mp hit with ⟨i, old, rfl⟩
      rw [set_cons_succ, inStream_cons, inStream_cons, ih old mem]
      split_ifs with own of of
      · exact absurd (of.trans own.symm) apart
      · rfl
      · rfl
      · rfl

lemma mergeMemento_inStream (done : mergeMemento memo rest = some (own, after)) :
    inStream stream after = if memo.stream = stream ∧ isPointerSource stream.source then
        mergeIn (inStream stream rest) memo else inStream stream rest := by
  rcases mergeMemento_cases done with
    ⟨source, i, other, hit, mem, _, rfl⟩ | ⟨source, miss, _, rfl⟩ | ⟨source, _, rfl⟩
  · rw [inStream_set hit mem]
    exact if_congr (pointer_stream source) rfl rfl
  · rw [← if_congr (pointer_stream source) rfl rfl, inStream_append, inStream_cons]
    by_cases same : memo.stream = stream
    · have empty : inStream stream rest = [] := by
        apply filter_eq_nil_iff.mpr
        intro other mem own
        have apart := findIdx?_eq_none_iff.mp miss other mem
        rw [sameStream_iff.mpr (same.trans (of_decide_eq_true own).symm)] at apart
        cases apart
      rw [if_pos same, empty]
      exact if_pos same
    · rw [if_neg same]
      exact (congrArg _ (if_neg same)).trans (append_nil _)
  · rw [if_neg]
    rintro ⟨rfl, ptr⟩
    exact absurd ptr (by simp [MotionMemento.stream, source])

lemma mergeMementos_inStream {marked : List (MotionMemento Value)} (stream : Stream)
    (done : mergeMementos memos others = some (marked, after)) : inStream stream after =
      if isPointerSource stream.source then (inStream stream memos).foldl mergeIn (inStream stream others)
      else inStream stream others := by
  induction memos generalizing others marked with
  | nil =>
    cases done
    exact (ite_self _).symm
  | cons memo rest ih =>
    rcases mergeMementos_cons done with ⟨own, mid, later, first, second, rfl⟩
    rw [ih second, mergeMemento_inStream first, inStream_cons]
    split_ifs <;> simp_all

lemma mergePointerStateTo_inStream {st other after : InputState Value} (stream : Stream)
    (merge : st.mergePointerStateTo other = some (left, after)) :
    inStream stream after.mMotionMementos = if isPointerSource stream.source then
        (inStream stream st.mMotionMementos).foldl mergeIn (inStream stream other.mMotionMementos)
      else inStream stream other.mMotionMementos := by
  rw [mergePointerStateTo] at merge
  cases done : mergeMementos st.mMotionMementos other.mMotionMementos with
  | none => simp [done] at merge
  | some oc =>
    simp only [done, Option.bind_eq_bind, Option.bind_some] at merge
    cases merge
    exact mergeMementos_inStream stream done

/-! ## What a stream gets -/

/-- A memento of a pointer source. `firstNewPointerIdx` is an index into its pointers. -/
structure Indexed (memento : MotionMemento Value) : Prop where
  source : isPointerSource memento.source = true
  fits : memento.firstNewPointerIdx.all (· ≤ memento.pointers.length) = true

lemma Indexed.marked (source : isPointerSource memo.source = true) :
    Indexed (marked memo) where
  source := source
  fits := by simp [InputState.marked]

lemma Indexed.joined (indexed : Indexed other) : Indexed (joined other memo) where
  source := indexed.source
  fits := by
    have fits := indexed.fits
    rw [InputState.joined]
    cases new : other.firstNewPointerIdx <;> rw [new] at fits <;> split <;> simp_all
    omega

lemma joined_unknown (indexed : Indexed other) :
    unknown (joined other memo) = unknown other ++ memo.pointers := by
  have fits := indexed.fits
  have same : (joined other memo).source = other.source := rfl
  simp only [unknown, newPointers, same, if_pos indexed.source]
  by_cases none : memo.pointers = []
  · simp [joined, none]
  · cases new : other.firstNewPointerIdx with
    | none => simp [joined, none, new]
    | some first =>
      rw [new] at fits
      simp [joined, none, new, drop_append_of_le_length (of_decide_eq_true fits)]

lemma foldl_joined_unknown (indexed : Indexed other) (memos : List (MotionMemento Value)) :
    unknown (memos.foldl joined other) = unknown other ++ memos.flatMap (·.pointers) := by
  induction memos generalizing other with
  | nil => exact (append_nil _).symm
  | cons memo rest ih =>
    rw [foldl_cons, ih indexed.joined, joined_unknown indexed, flatMap_cons, append_assoc]

lemma foldl_joined_touches (memos : List (MotionMemento Value)) :
    touches (memos.foldl joined other) =
      if other.hovering then [] else other.pointers ++ memos.flatMap (·.pointers) := by
  induction memos generalizing other with
  | nil => cases hover : other.hovering <;> simp [touches, hover]
  | cons memo rest ih => simp [ih, joined]

lemma foldl_mergeIn_cons (memos rest : List (MotionMemento Value)) :
    memos.foldl mergeIn (other :: rest) = memos.foldl joined other :: rest := by
  induction memos generalizing other with
  | nil => rfl
  | cons memo memos ih => exact ih

variable (ptr : Pointer (PointerCoords Value))

lemma mem_foldl_mergeIn_unknown (indexed : ∀ other ∈ others, Indexed other)
    (sources : ∀ memo ∈ memos, isPointerSource memo.source = true) :
    ptr ∈ (memos.foldl mergeIn others).flatMap unknown ↔
      ptr ∈ others.flatMap unknown ∨ ptr ∈ memos.flatMap (·.pointers) := by
  cases others with
  | cons other rest =>
    rw [foldl_mergeIn_cons, flatMap_cons, flatMap_cons,
      foldl_joined_unknown (indexed other mem_cons_self)]
    simp only [mem_append]
    tauto
  | nil =>
    cases memos with
    | nil => simp
    | cons memo rest =>
      have source := sources memo mem_cons_self
      have known : unknown (marked memo) = memo.pointers := by
        simp [unknown, newPointers, marked, source]
      rw [foldl_cons, mergeIn, foldl_mergeIn_cons, flatMap_cons,
        foldl_joined_unknown (.marked source), known]
      simp

lemma mem_foldl_mergeIn_touches : ptr ∈ (memos.foldl mergeIn others).flatMap touches ↔
      ptr ∈ others.flatMap touches ∨ (others ++ memos).head?.any (·.hovering) = false ∧
        ptr ∈ memos.flatMap (·.pointers) := by
  cases others with
  | cons other rest =>
    rw [foldl_mergeIn_cons, flatMap_cons, foldl_joined_touches, flatMap_cons]
    cases hover : other.hovering <;> simp [touches, hover, or_comm, or_left_comm]
  | nil =>
    cases memos with
    | nil => simp
    | cons memo rest =>
      rw [foldl_cons, mergeIn, foldl_mergeIn_cons, flatMap_cons, foldl_joined_touches]
      cases hover : memo.hovering <;> simp [marked, hover]

/-! ## Touches -/

/-- No touch is invented, and none is lost, when `state` is merged into `other`. -/
def TouchTransferred (state other after : InputState Value) (currentTime : Int) : Prop :=
  ∀ stream,
    (∀ pointer ∈ (after.synthesizePointerDownEvents currentTime).1.filterMap (downPointer stream),
      pointer ∈ state.touching stream) ∧
    ∀ pointer, pointer ∈ after.touching stream ↔
      pointer ∈ other.touching stream ∨ pointer ∈ state.touching stream

/-- What that takes in a stream: pointers that the target has not been told of touch already,
and so does every pointer that is merged. What gets them does not hover, unless the target
knows their touches. -/
def Transferable (state other : InputState Value) (stream : Stream) : Prop :=
  let own := inStream stream state.mMotionMementos
  let theirs := inStream stream other.mMotionMementos
  (∀ pointer ∈ theirs.flatMap unknown, pointer ∈ own.flatMap touches) ∧
    (isPointerSource stream.source = true →
      ∀ pointer ∈ own.flatMap (·.pointers), pointer ∈ own.flatMap touches) ∧
    (isPointerSource stream.source = false ∨ (theirs ++ own).head?.any (·.hovering) = true →
      ∀ pointer ∈ own.flatMap touches, pointer ∈ theirs.flatMap touches)

lemma inStream_source {st : InputState Value} (source : isPointerSource stream.source = true)
    (mem : memo ∈ inStream stream st.mMotionMementos) : isPointerSource memo.source = true := by
  have same := of_decide_eq_true (mem_filter.mp mem).2
  rw [← same] at source
  exact source

lemma touches_subset {ptr : Pointer (PointerCoords Value)}
    (touch : ptr ∈ memos.flatMap touches) : ptr ∈ memos.flatMap (·.pointers) := by
  simp only [mem_flatMap, touches] at touch ⊢
  rcases touch with ⟨memo, mem, touch⟩
  refine ⟨memo, mem, ?_⟩
  split at touch
  · cases touch
  · exact touch

theorem touchTransferred_iff {state other left after : InputState Value} (currentTime : Int)
    (merged : state.mergePointerStateTo other = some (left, after))
    (fits : ∀ memento ∈ other.mMotionMementos,
      memento.firstNewPointerIdx.all (· ≤ memento.pointers.length) = true) :
    TouchTransferred state other after currentTime ↔ ∀ stream, Transferable state other stream := by
  apply forall_congr'
  intro stream
  simp only [mem_downPointers, touching, Transferable]
  rw [mergePointerStateTo_inStream stream merged]
  cases source : isPointerSource stream.source with
  | false =>
    simp only [Bool.false_eq_true, if_false, false_implies, true_implies, true_or, true_and]
    apply and_congr_right
    intro _
    exact forall_congr' fun pointer => by simp
  | true =>
    have indexed : ∀ memento ∈ inStream stream other.mMotionMementos, Indexed memento :=
      fun memento mem => ⟨inStream_source source mem, fits memento (mem_filter.mp mem).1⟩
    simp only [if_true, true_implies, Bool.true_eq_false, false_or, mem_foldl_mergeIn_touches,
      mem_foldl_mergeIn_unknown _ indexed fun _ => inStream_source source]
    constructor
    · rintro ⟨named, tracked⟩
      refine ⟨fun pointer new => named pointer (.inl new),
        fun pointer held => named pointer (.inr held), ?_⟩
      intro hovers pointer touch
      rcases (tracked pointer).mpr (.inr touch) with known | ⟨still, _⟩
      · exact known
      · rw [hovers] at still
        cases still
    · rintro ⟨new, held, hovering⟩
      refine ⟨fun pointer named => named.elim (new pointer) (held pointer), fun pointer => ?_⟩
      constructor
      · rintro (known | ⟨_, touch⟩)
        · exact .inl known
        · exact .inr (held pointer touch)
      · rintro (known | touch)
        · exact .inl known
        · cases lead : (inStream stream other.mMotionMementos ++
              inStream stream state.mMotionMementos).head?.any (·.hovering) with
          | false => exact .inr ⟨rfl, touches_subset touch⟩
          | true => exact .inl (hovering lead pointer touch)

/-! A mouse hovers over one window, and its state is merged into that of another. -/

private def mouse : Stream := ⟨1, 0x2002, 0⟩

private def hoverEnter : MotionEntry Nat where
  eventTime := 0
  deviceId := mouse.deviceId
  source := mouse.source
  displayId := mouse.displayId
  policyFlags := 0
  action := actionHoverEnter
  actionButton := 0
  flags := 0
  metaState := 0
  buttonState := 0
  classification := .none
  edgeFlags := 0
  xPrecision := 1
  yPrecision := 1
  xCursorPosition := 5
  yCursorPosition := 5
  downTime := 0
  pointers := [⟨⟨0, 3⟩, ⟨3, [5, 5]⟩⟩]

private def hovered : InputState Nat := (create.trackMotion hoverEnter actionHoverEnter 0).2

private def target : InputState Nat :=
  { hovered with mMotionMementos := hovered.mMotionMementos.map marked }

theorem touchTransferred_iff_hovered : hovered.mergePointerStateTo create = some (target, target) ∧
      (TouchTransferred hovered create target 0 ↔ ∀ stream, Transferable hovered create stream) :=
  ⟨rfl, touchTransferred_iff 0 rfl fun _ mem => by cases mem⟩

/-- Nothing touched, and the other window is told of a touch. -/
theorem hover_goes_down : hovered.mergePointerStateTo create = some (target, target) ∧
      hovered.touching mouse = [] ∧
      (target.synthesizePointerDownEvents 0).1.filterMap (downPointer mouse) =
        hoverEnter.pointers := by
  decide

end InputState

end NativeLibs.Input
