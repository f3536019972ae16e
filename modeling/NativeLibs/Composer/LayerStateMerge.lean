import NativeLibs.Composer.LayerState

/-! # Merging layer states

What `merge` keeps of two states, and where it loses a change: it has no branch for a color, for
color space agnosticism and for a disconnected producer, a background color is written over a
color, and an empty metadata value is not taken over. -/

namespace NativeLibs.Composer

open List

namespace LayerState

variable {Value : Type}

/-! ## The fields -/

lemma mergeRule_get (other state : LayerState Value) (rule : MergeRule) (field : Field) :
    (mergeRule other state rule).get field =
      if other.what rule.change = true ∧ field ∈ rule.fields then other.get field
      else state.get field := by
  unfold mergeRule
  by_cases noted : other.what rule.change = true
  · simp only [noted, if_true, true_and, copy]
    cases rule.replaces <;> rfl
  · simp [noted]

lemma foldl_mergeRule_get (other : LayerState Value) (rules : List MergeRule)
    (state : LayerState Value) (field : Field) : (rules.foldl (mergeRule other) state).get field =
      if ∃ rule ∈ rules, other.what rule.change = true ∧ field ∈ rule.fields then other.get field
      else state.get field := by
  induction rules generalizing state with
  | nil => simp
  | cons rule rest ih =>
    rw [foldl_cons, ih, mergeRule_get]
    by_cases first : other.what rule.change = true ∧ field ∈ rule.fields
    · simp [first]
    · simp [first]

lemma merge_get (state other : LayerState Value) (field : Field) : (state.merge other).get field =
      if ∃ rule ∈ mergeRules, other.what rule.change = true ∧ field ∈ rule.fields then
        other.get field else state.get field := by
  rw [← foldl_mergeRule_get]
  unfold merge mergeMetadata mergeFlags
  split <;> split <;> rfl

/-! ## The recorded changes -/

lemma mergeRule_what (other state : LayerState Value) (rule : MergeRule) (change : Change) :
    (mergeRule other state rule).what change = (if other.what rule.change then
        rule.replaces ≠ some change && (change = rule.change || state.what change)
      else state.what change) := by
  unfold mergeRule
  by_cases noted : other.what rule.change = true
  · simp only [noted, if_true, copy]
    cases rule.replaces with
    | none => simp [record]
    | some replaced =>
      by_cases same : replaced = change
      · simp [record, forget, same]
      · simp [record, forget, same, Ne.symm same]
  · simp [noted]

lemma foldl_mergeRule_what (other : LayerState Value) {rules : List MergeRule}
    (state : LayerState Value) (lasting : ∀ rule ∈ rules, rule.replaces ≠ some change) :
    (rules.foldl (mergeRule other) state).what change = (state.what change ||
        (other.what change && rules.any fun rule => rule.change = change)) := by
  induction rules generalizing state with
  | nil => simp
  | cons rule rest ih =>
    have first := lasting rule mem_cons_self
    rw [foldl_cons, ih _ fun rule mem => lasting rule (by simp [mem]),
      mergeRule_what]
    by_cases same : rule.change = change
    · subst same
      cases other.what rule.change <;> simp [first]
    · cases other.what rule.change <;> simp [first, same, Ne.symm same]

variable (state other : LayerState Value) (change : Change)

lemma merge_what :
    (state.merge other).what change = ((mergeRules.foldl (mergeRule other) state).what change ||
        (other.what change && (change = .flags || change = .metadata))) := by
  have flags : ∀ old : LayerState Value, (old.mergeFlags other).what change =
      (old.what change || (other.what change && change = .flags)) := by
    intro old
    unfold mergeFlags
    by_cases same : change = .flags
    · subst same
      cases noted : other.what .flags <;> simp [record]
    · split <;> simp [record, same]
  have metadata : ∀ old : LayerState Value, (old.mergeMetadata other).what change =
      (old.what change || (other.what change && change = .metadata)) := by
    intro old
    unfold mergeMetadata
    by_cases same : change = .metadata
    · subst same
      cases noted : other.what .metadata <;> simp [record]
    · split <;> simp [record, same]
  rw [merge, metadata, flags, Bool.or_assoc, ← Bool.and_or_distrib_left]

def unmerged : List Change := [.color, .colorSpaceAgnostic, .producerDisconnect]

lemma any_mergeRules :
    ((mergeRules.any fun rule => rule.change = change) || change = .flags || change = .metadata) =
      decide (change ∉ unmerged) := by
  cases change <;> rfl

lemma mergeRules_replaces : mergeRules.filterMap (·.replaces) = [.relativeLayer, .layer] := rfl

lemma merge_what_lasting {change : Change} (notLayer : change ≠ .layer)
    (notRelative : change ≠ .relativeLayer) : (state.merge other).what change =
      (state.what change || (other.what change && decide (change ∉ unmerged))) := by
  have lasting : ∀ rule ∈ mergeRules, rule.replaces ≠ some change := by
    intro rule mem replaces
    have replaced : change ∈ mergeRules.filterMap (·.replaces) :=
      mem_filterMap.mpr ⟨rule, mem, replaces⟩
    rw [mergeRules_replaces] at replaced
    simp [notLayer, notRelative] at replaced
  rw [merge_what, foldl_mergeRule_what other state lasting, ← any_mergeRules]
  cases state.what change <;> cases other.what change <;> simp [Bool.or_assoc]

lemma merge_what_unmerged (lost : change ∈ unmerged) :
    (state.merge other).what change = state.what change := by
  have notLayer : change ≠ .layer := by
    rintro rfl
    revert lost
    decide
  have notRelative : change ≠ .relativeLayer := by
    rintro rfl
    revert lost
    decide
  rw [merge_what_lasting state other notLayer notRelative]
  simp [lost]

lemma merge_what_layer : (state.merge other).what .layer =
      ((state.what .layer || other.what .layer) && !other.what .relativeLayer) := by
  have order : mergeRules = mergeRules.take 14 ++
      ⟨.relativeLayer, [.z, .relativeLayerHandle], some .layer⟩ :: mergeRules.drop 15 := rfl
  rw [merge_what, order, foldl_append, foldl_cons,
    foldl_mergeRule_what other _ (by decide), mergeRule_what,
    foldl_mergeRule_what other _ (by decide)]
  have old : ((mergeRules.take 14).any fun rule => rule.change = .layer) = true := rfl
  have after : ((mergeRules.drop 15).any fun rule => rule.change = .layer) = false := rfl
  simp only [old, after]
  cases other.what .relativeLayer <;> cases other.what .layer <;> simp

lemma merge_what_relativeLayer : (state.merge other).what .relativeLayer =
      ((state.what .relativeLayer && !other.what .layer) || other.what .relativeLayer) := by
  have order : mergeRules = mergeRules.take 1 ++
      ⟨.layer, [.z], some .relativeLayer⟩ :: mergeRules.drop 2 := rfl
  rw [merge_what, order, foldl_append, foldl_cons,
    foldl_mergeRule_what other _ (by decide), mergeRule_what,
    foldl_mergeRule_what other _ (by decide)]
  have old : ((mergeRules.take 1).any fun rule => rule.change = .relativeLayer) = false := rfl
  have after : ((mergeRules.drop 2).any fun rule => rule.change = .relativeLayer) = true := rfl
  simp only [old, after]
  cases other.what .relativeLayer <;> cases other.what .layer <;> simp

end LayerState

/-! ## The payload of a change -/

namespace Change

def payload : Change → List Field
  | .position => [.x, .y]
  | .layer => [.z]
  | .size => [.w, .h]
  | .alpha => [.alpha]
  | .matrix => [.matrix]
  | .transparentRegion => [.transparentRegion]
  | .layerStack => [.layerStack]
  | .cropLegacy => [.cropLegacy]
  | .deferTransactionLegacy => [.barrierHandleLegacy, .barrierGbpLegacy, .frameNumberLegacy]
  | .overrideScalingMode => [.overrideScalingMode]
  | .shadowRadius => [.shadowRadius]
  | .reparentChildren => [.reparentHandle]
  | .relativeLayer => [.z, .relativeLayerHandle]
  | .reparent => [.parentHandleForChild]
  | .color => [.color]
  | .transform => [.transform]
  | .transformToDisplayInverse => [.transformToDisplayInverse]
  | .crop => [.crop]
  | .buffer => [.buffer]
  | .acquireFence => [.acquireFence]
  | .dataspace => [.dataspace]
  | .hdrMetadata => [.hdrMetadata]
  | .surfaceDamageRegion => [.surfaceDamageRegion]
  | .api => [.api]
  | .sidebandStream => [.sidebandStream]
  | .colorTransform => [.colorTransform]
  | .inputInfo => [.inputInfo]
  | .cornerRadius => [.cornerRadius]
  | .frame => [.frame]
  | .cachedBuffer => [.cachedBuffer]
  | .backgroundColor => [.color, .bgColorAlpha, .bgColorDataspace]
  | .colorSpaceAgnostic => [.colorSpaceAgnostic]
  | .frameRateSelectionPriority => [.frameRateSelectionPriority]
  | .frameRate => [.frameRate, .frameRateCompatibility]
  | .backgroundBlurRadius => [.backgroundBlurRadius]
  | .fixedTransformHint => [.fixedTransformHint]
  | .flags | .metadata | .detachChildren | .destroySurface | .hasListenerCallbacks
  | .producerDisconnect => []

def opposite : Change → Option Change
  | .layer => some .relativeLayer
  | .relativeLayer => some .layer
  | _ => none

end Change

namespace LayerState

variable {Value : Type} {state : LayerState Value}

lemma payload_copied (merge : change ≠ .color) (agnostic : change ≠ .colorSpaceAgnostic)
    (carries : field ∈ change.payload) :
    ∃ rule ∈ mergeRules, rule.change = change ∧ field ∈ rule.fields := by
  have complete : change.payload.all fun field => mergeRules.any fun rule =>
      rule.change = change && field ∈ rule.fields := by
    cases change <;> first | rfl | contradiction
  have hit := all_eq_true.mp complete field carries
  simpa using hit

lemma payload_writer (carries : field ∈ change.payload) (branch : rule ∈ mergeRules)
    (writes : field ∈ rule.fields) : rule.change = change ∨ change.opposite = some rule.change ∨
      (change = .color ∧ rule.change = .backgroundColor) := by
  have complete : mergeRules.all fun rule => rule.fields.all fun field =>
      !(field ∈ change.payload) || rule.change = change ||
        change.opposite = some rule.change ||
        (change = .color && rule.change = .backgroundColor) := by
    cases change <;> rfl
  have itsFields := all_eq_true.mp complete rule branch
  have itsField := all_eq_true.mp itsFields field writes
  simpa [carries, or_assoc] using itsField

lemma merge_get_of_recorded (noted : other.what change = true) (merge : change ≠ .color)
    (agnostic : change ≠ .colorSpaceAgnostic) (carries : field ∈ change.payload) :
    (state.merge other).get field = other.get field := by
  obtain ⟨rule, branch, itsChange, writes⟩ := payload_copied merge agnostic carries
  rw [merge_get, if_pos ⟨rule, branch, itsChange ▸ noted, writes⟩]

lemma merge_get_of_not_recorded (miss : ¬ other.what change = true)
    (notReplaced : ∀ replacing, change.opposite = some replacing → ¬ other.what replacing = true)
    (notColor : change ≠ .color) (carries : field ∈ change.payload) :
    (state.merge other).get field = state.get field := by
  rw [merge_get, if_neg]
  rintro ⟨rule, branch, noted, writes⟩
  rcases payload_writer carries branch writes with same | replacing | ⟨isColor, -⟩
  · exact miss (same ▸ noted)
  · exact notReplaced _ replacing noted
  · exact notColor isColor

lemma merge_get_color : (state.merge other).get .color =
    if other.what .backgroundColor then other.get .color else state.get .color := by
  rw [merge_get]
  congr 1
  simp [mergeRules]

lemma merge_get_colorSpaceAgnostic :
    (state.merge other).get .colorSpaceAgnostic = state.get .colorSpaceAgnostic := by
  rw [merge_get, if_neg]
  simp [mergeRules]

/-! ## Flags and metadata -/

section

variable (state) (change)

@[simp] lemma record_flags : (state.record change).flags = state.flags := rfl

@[simp] lemma record_mask : (state.record change).mask = state.mask := rfl

@[simp] lemma record_metadata : (state.record change).metadata = state.metadata := rfl

end

lemma foldl_mergeRule_frame (other : LayerState Value) (rules : List MergeRule)
    (state : LayerState Value) : (rules.foldl (mergeRule other) state).flags = state.flags ∧
      (rules.foldl (mergeRule other) state).mask = state.mask ∧
      (rules.foldl (mergeRule other) state).metadata = state.metadata := by
  induction rules generalizing state with
  | nil => exact ⟨rfl, rfl, rfl⟩
  | cons rule rest ih =>
    obtain ⟨flags, mask, metadata⟩ := ih (mergeRule other state rule)
    have first : (mergeRule other state rule).flags = state.flags ∧
        (mergeRule other state rule).mask = state.mask ∧
        (mergeRule other state rule).metadata = state.metadata := by
      unfold mergeRule
      split
      · cases rule.replaces <;> exact ⟨rfl, rfl, rfl⟩
      · exact ⟨rfl, rfl, rfl⟩
    exact ⟨flags.trans first.1, mask.trans first.2.1, metadata.trans first.2.2⟩

lemma merge_flags (state other : LayerState Value) :
    (state.merge other).flags = (if other.what .flags then
        (state.flags &&& ~~~ other.mask) ||| (other.flags &&& other.mask) else state.flags) ∧
    (state.merge other).mask =
      (if other.what .flags then state.mask ||| other.mask else state.mask) := by
  obtain ⟨flags, mask, -⟩ := foldl_mergeRule_frame other mergeRules state
  unfold merge mergeMetadata mergeFlags
  split <;> split <;> simp_all

lemma merge_metadata (state other : LayerState Value) (key : Nat) :
    (state.merge other).metadata key = if other.what .metadata then
        mergeEntry (state.metadata key) (other.metadata key) else state.metadata key := by
  obtain ⟨-, -, metadata⟩ := foldl_mergeRule_frame other mergeRules state
  unfold merge mergeMetadata mergeFlags
  split <;> split <;> simp_all

/-! ## When merging keeps every change -/

/-- Each change of the other state is recorded with its payload, and each change of this state
that the other does not record or replace is still recorded with its own. Each flag and each
metadata key is a change. -/
structure Merged (state other merged : LayerState Value) : Prop where
  taken : ∀ change, other.what change = true →
    merged.what change = true ∧ ∀ field ∈ change.payload, merged.get field = other.get field
  takenFlags : other.what .flags = true → ∀ flag, other.mask.getLsbD flag = true →
    merged.mask.getLsbD flag = true ∧ merged.flags.getLsbD flag = other.flags.getLsbD flag
  takenMetadata : other.what .metadata = true → ∀ key data, other.metadata key = some data →
    merged.metadata key = some data
  kept : ∀ change, state.what change = true → ¬ other.what change = true →
    (∀ replacing, change.opposite = some replacing → ¬ other.what replacing = true) →
    merged.what change = true ∧ ∀ field ∈ change.payload, merged.get field = state.get field
  keptFlags : state.what .flags = true → ∀ flag, state.mask.getLsbD flag = true →
    ¬ (other.what .flags = true ∧ other.mask.getLsbD flag = true) →
    merged.mask.getLsbD flag = true ∧ merged.flags.getLsbD flag = state.flags.getLsbD flag
  keptMetadata : state.what .metadata = true → ∀ key data, state.metadata key = some data →
    ¬ (other.what .metadata = true ∧ (other.metadata key).isSome = true) →
    merged.metadata key = some data
  replaced : ∀ change replacing, change.opposite = some replacing → other.what replacing = true →
    ¬ merged.what change = true

structure Mergeable (state other : LayerState Value) : Prop where
  color : other.what .color = true → state.what .color = true ∧
    (other.what .backgroundColor = true ∨ state.get .color = other.get .color)
  background : state.what .color = true → ¬ other.what .color = true →
    other.what .backgroundColor = true → state.get .color = other.get .color
  agnostic : other.what .colorSpaceAgnostic = true → state.what .colorSpaceAgnostic = true ∧
    state.get .colorSpaceAgnostic = other.get .colorSpaceAgnostic
  producer : other.what .producerDisconnect = true → state.what .producerDisconnect = true
  metadata : other.what .metadata = true → ∀ key, other.metadata key = some [] →
    (state.metadata key).isSome = true

lemma Merged.mergeable (merge : Merged state other (state.merge other)) :
    Mergeable state other where
  color noted := by
    obtain ⟨what, payload⟩ := merge.taken .color noted
    rw [merge_what_unmerged state other .color (by decide)] at what
    refine ⟨what, ?_⟩
    have copied := payload .color (by simp [Change.payload])
    rw [merge_get_color] at copied
    split at copied
    · exact .inl ‹_›
    · exact .inr copied
  background noted miss background := by
    obtain ⟨-, payload⟩ := merge.kept .color noted miss (by simp [Change.opposite])
    have itsColor := payload .color (by simp [Change.payload])
    rw [merge_get_color, if_pos background] at itsColor
    exact itsColor.symm
  agnostic noted := by
    obtain ⟨what, payload⟩ := merge.taken .colorSpaceAgnostic noted
    rw [merge_what_unmerged state other .colorSpaceAgnostic (by decide)] at what
    have copied := payload .colorSpaceAgnostic (by simp [Change.payload])
    rw [merge_get_colorSpaceAgnostic] at copied
    exact ⟨what, copied⟩
  producer noted := by
    obtain ⟨what, -⟩ := merge.taken .producerDisconnect noted
    rwa [merge_what_unmerged state other .producerDisconnect (by decide)] at what
  metadata noted key empty := by
    have e := merge.takenMetadata noted key [] empty
    rw [merge_metadata, if_pos noted, empty] at e
    cases old : state.metadata key with
    | none => simp [mergeEntry, old] at e
    | some data => rfl

def Exclusive (state : LayerState Value) : Prop :=
  ¬ (state.what .layer = true ∧ state.what .relativeLayer = true)

lemma Mergeable.taken (mergeable : Mergeable state other) (excl : Exclusive other)
    (noted : other.what change = true) : (state.merge other).what change = true ∧
      ∀ field ∈ change.payload, (state.merge other).get field = other.get field := by
  by_cases isColor : change = .color
  · subst isColor
    obtain ⟨kept, same⟩ := mergeable.color noted
    rw [merge_what_unmerged state other .color (by decide)]
    refine ⟨kept, ?_⟩
    simp only [Change.payload, mem_singleton, forall_eq, merge_get_color]
    split
    · rfl
    · rename_i noBackground
      exact same.resolve_left noBackground
  by_cases isAgnostic : change = .colorSpaceAgnostic
  · subst isAgnostic
    obtain ⟨kept, same⟩ := mergeable.agnostic noted
    rw [merge_what_unmerged state other .colorSpaceAgnostic (by decide)]
    refine ⟨kept, ?_⟩
    simp only [Change.payload, mem_singleton, forall_eq, merge_get_colorSpaceAgnostic]
    exact same
  refine ⟨?_, fun field => merge_get_of_recorded noted isColor isAgnostic⟩
  by_cases isLayer : change = .layer
  · subst isLayer
    have notRelative : ¬ other.what .relativeLayer = true := fun both => excl ⟨noted, both⟩
    simp [merge_what_layer, noted, notRelative]
  by_cases isRelative : change = .relativeLayer
  · subst isRelative
    simp [merge_what_relativeLayer, noted]
  by_cases isProducer : change = .producerDisconnect
  · subst isProducer
    rw [merge_what_unmerged state other .producerDisconnect (by decide)]
    exact mergeable.producer noted
  · rw [merge_what_lasting state other isLayer isRelative]
    simp [noted, unmerged, isColor, isAgnostic, isProducer]

lemma Mergeable.kept (mergeable : Mergeable state other) (noted : state.what change = true)
    (miss : ¬ other.what change = true)
    (notReplaced : ∀ replacing, change.opposite = some replacing → ¬ other.what replacing = true) :
    (state.merge other).what change = true ∧
      ∀ field ∈ change.payload, (state.merge other).get field = state.get field := by
  constructor
  · by_cases isLayer : change = .layer
    · subst isLayer
      simp [merge_what_layer, noted, notReplaced .relativeLayer rfl]
    by_cases isRelative : change = .relativeLayer
    · subst isRelative
      simp [merge_what_relativeLayer, noted, notReplaced .layer rfl]
    · simp [merge_what_lasting state other isLayer isRelative, noted]
  · intro field carries
    by_cases isColor : change = .color
    · subst isColor
      simp only [Change.payload, mem_singleton] at carries
      subst carries
      rw [merge_get_color]
      split
      · rename_i background
        exact (mergeable.background noted miss background).symm
      · rfl
    · exact merge_get_of_not_recorded miss notReplaced isColor carries

lemma Mergeable.merged (mergeable : Mergeable state other) (excl : Exclusive other) :
    Merged state other (state.merge other) where
  taken change noted := mergeable.taken excl noted
  takenFlags noted flag masked := by
    obtain ⟨flags, mask⟩ := merge_flags state other
    rw [flags, mask, if_pos noted, if_pos noted]
    simp [masked]
  takenMetadata noted key data e := by
    rw [merge_metadata, if_pos noted, e]
    cases old : state.metadata key with
    | some _ => rfl
    | none =>
      have ne : data ≠ [] := by
        rintro rfl
        have known := mergeable.metadata noted key e
        simp [old] at known
      simp [mergeEntry, ne]
  kept change noted miss notReplaced := mergeable.kept noted miss notReplaced
  keptFlags noted flag masked free := by
    obtain ⟨flags, mask⟩ := merge_flags state other
    rw [flags, mask]
    split
    · rename_i rest
      have unmasked : other.mask.getLsbD flag = false := by simpa [rest] using free
      have mem : flag < 8 := BitVec.lt_of_getLsbD masked
      simp only [BitVec.getLsbD_or, BitVec.getLsbD_and, BitVec.getLsbD_not, masked, unmasked, mem]
      simp
    · exact ⟨masked, rfl⟩
  keptMetadata noted key data e free := by
    rw [merge_metadata]
    split
    · rename_i rest
      have unset : other.metadata key = none := by simpa [rest] using free
      rw [unset, e]
      rfl
    · exact e
  replaced change replacing opposite noted := by
    cases change <;> simp only [Change.opposite, Option.some.injEq, reduceCtorEq] at opposite
    · subst opposite
      simp [merge_what_layer, noted]
    · subst opposite
      have miss : ¬ other.what .relativeLayer = true := fun both => excl ⟨noted, both⟩
      simp [merge_what_relativeLayer, noted, miss]

/-! ## States that setters build -/

lemma exclusive_set (excl : Exclusive state) (setter : Setter Value) :
    Exclusive (state.set setter) := by
  unfold Exclusive at excl ⊢
  cases setter with
  | setLayer | setRelativeLayer => simp [set, write, forget, record]
  | setFlags flags mask =>
    simp only [set, setFlags]
    split
    · simpa [record] using excl
    · exact excl
  | setMetadata key data => simpa [set, setMetadata, record] using excl
  | setOverrideScalingMode mode =>
    simp only [set]
    split
    · simpa [write, record] using excl
    · exact excl
  | setFrameRate frameRate compatibility valid =>
    cases valid
    · exact excl
    · simpa [set, write, record] using excl
  | _ => simpa [set, write, record] using excl

variable (surface : Option Nat) (values : (field : Field) → field.Payload Value)
  (setters : List (Setter Value))

def build : LayerState Value :=
  setters.foldl set (create surface values)

lemma exclusive_build : Exclusive (build surface values setters) := by
  have foldl : ∀ state : LayerState Value, Exclusive state → Exclusive (setters.foldl set state) := by
    induction setters with
    | nil => exact fun _ excl => excl
    | cons setter rest ih =>
      exact fun state excl => ih _ (exclusive_set excl setter)
  exact foldl _ (by simp [Exclusive, create])

/-- Of two states that setters build, merging keeps every change exactly if the other one sets no
color, color space agnosticism or disconnected producer that this one does not set as well, no
background color of another color over a color of this one, and no empty metadata value for a key
that this one does not set. -/
theorem merge_keeps_changes (surface : Option Nat) (values : (field : Field) → field.Payload Value)
    (setters others : List (Setter Value)) :
    Merged (build surface values setters) (build surface values others)
        ((build surface values setters).merge (build surface values others)) ↔
      Mergeable (build surface values setters) (build surface values others) :=
  ⟨Merged.mergeable, fun mergeable => mergeable.merged (exclusive_build surface values others)⟩

def zeroes : (field : Field) → field.Payload Nat
  | .overrideScalingMode => -1
  | .buffer => none
  | .acquireFence => none
  | .cachedBuffer => ⟨none, 0⟩
  | .frameRateCompatibility => 0
  | .fixedTransformHint => 0x80
  | .x | .y | .z | .w | .h | .layerStack | .alpha | .matrix | .cropLegacy | .cornerRadius
  | .backgroundBlurRadius | .barrierHandleLegacy | .reparentHandle | .frameNumberLegacy
  | .barrierGbpLegacy | .relativeLayerHandle | .parentHandleForChild | .color
  | .transparentRegion | .transform | .transformToDisplayInverse | .crop | .frame | .dataspace
  | .hdrMetadata | .surfaceDamageRegion | .api | .sidebandStream | .colorTransform | .inputInfo
  | .bgColorAlpha | .bgColorDataspace | .colorSpaceAgnostic | .shadowRadius
  | .frameRateSelectionPriority | .frameRate => 0

/-- A color that is merged into a state is lost. -/
theorem merge_loses_color :
    ((build (some 1) zeroes [.setAlpha 1]).merge (build (some 1) zeroes [.setColor 7])).what
      .color = false ∧
    ¬ Merged (build (some 1) zeroes [.setAlpha 1]) (build (some 1) zeroes [.setColor 7])
      ((build (some 1) zeroes [.setAlpha 1]).merge (build (some 1) zeroes [.setColor 7])) := by
  have lost : ((build (some 1) zeroes [.setAlpha 1]).merge
      (build (some 1) zeroes [.setColor 7])).what .color = false := by
    rw [merge_what_unmerged _ _ .color (by decide)]
    rfl
  refine ⟨lost, fun merged => ?_⟩
  have noted := (merged.taken .color rfl).1
  rw [lost] at noted
  cases noted

end LayerState

end NativeLibs.Composer
