import NativeLibs.Foundation.Machine
import Mathlib.Data.List.Perm.Basic

/-! # The layers of a layer history

The active layers are in front. `partitionLayers` sweeps twice over the entries and swaps those that
fail its test behind the others. -/

namespace NativeLibs.Scheduler.LayerHistory

open List

section Sweep

variable {Entry : Type*} (keep : Entry → Bool) (kept dropped : Entry → Entry)

def swap (es : List Entry) (i j : Nat) : List Entry :=
  match es[i]?, es[j]? with
  | some first, some second => (es.set i second).set j first
  | _, _ => es

/-- From index `i` on there are `n` entries to look at. -/
def sweep : Nat → Nat → List Entry → Nat × List Entry
  | 0, i, es => (i, es)
  | n + 1, i, es =>
    match es[i]? with
    | none => (i, es)
    | some e =>
      if keep e = true then sweep n (i + 1) (es.set i (kept e))
      else sweep n i (swap (es.set i (dropped e)) i (i + n))

lemma length_swap (es : List Entry) (i j : Nat) : (swap es i j).length = es.length := by
  unfold swap
  split <;> simp

lemma swap_ends (front mid back : List Entry) (first second : Entry) :
    swap (front ++ first :: (mid ++ second :: back)) front.length (front.length + mid.length + 1) =
      front ++ second :: (mid ++ first :: back) := by
  rw [swap, getElem?_append_right (Nat.le_refl _), Nat.sub_self, getElem?_cons_zero]
  simp [Nat.add_assoc]

/-- Whatever the order, the kept entries end up in front of the dropped ones. -/
lemma sweep_spec (front mid back : List Entry) : ∃ good bad,
    sweep keep kept dropped mid.length front.length (front ++ mid ++ back) =
        (front.length + good.length, front ++ good ++ bad ++ back) ∧
      good.Perm ((mid.filter keep).map kept) ∧
      bad.Perm ((mid.filter fun e => !keep e).map dropped) := by
  induction size : mid.length generalizing front mid back with
  | zero =>
    rw [length_eq_zero_iff.1 size]
    exact ⟨[], [], by simp [sweep], .nil, .nil⟩
  | succ n ih =>
    rcases exists_cons_of_length_eq_add_one size with ⟨e, rest, rfl⟩
    have here : (front ++ e :: rest ++ back)[front.length]? = some e := by
      simp
    simp only [sweep, here]
    split_ifs with keeps
    · rcases ih (front ++ [kept e]) rest back (by simpa using size) with
        ⟨good, bad, swept, isGood, isBad⟩
      refine ⟨kept e :: good, bad, ?_, by simpa [keeps] using isGood, by simpa [keeps] using isBad⟩
      simpa [Nat.add_comm, Nat.add_left_comm, Nat.add_assoc] using swept
    · rcases eq_nil_or_concat' rest with rfl | ⟨inner, last, rfl⟩
      · have none : n = 0 := by simpa using size.symm
        refine ⟨[], [dropped e], ?_, by simp [keeps], by simp [keeps]⟩
        simp [none, sweep, swap]
      · have isEnd : n = inner.length + 1 := by simpa using size.symm
        rcases ih front (last :: inner) (dropped e :: back) (by simpa using isEnd.symm) with
          ⟨good, bad, swept, isGood, isBad⟩
        have moved := (perm_append_singleton last inner).symm
        refine ⟨good, bad ++ [dropped e], ?_, ?_, ?_⟩
        · have swapped := swap_ends front inner back (dropped e) last
          rw [Nat.add_assoc, ← isEnd] at swapped
          simpa [swapped] using swept
        · rw [filter_cons_of_neg keeps]
          exact isGood.trans ((moved.filter _).map _)
        · rw [filter_cons_of_pos (by simp [keeps]), map_cons]
          exact (perm_append_singleton _ _).trans ((isBad.trans ((moved.filter _).map _)).cons _)

end Sweep

variable {Layer Info : Type*}

structure LayerHistoryV2 (Layer Info : Type*) where
  mLayerInfos : List (Layer × Info) := []
  mActiveLayersEnd : Nat := 0

/-- What a call of `partitionLayers` finds and does: the layers whose references can be promoted,
the test for activity, the votes it sets or resets, and what an inactive layer does. -/
structure Partition (Layer Info : Type*) where
  alive : Layer → Bool
  isLayerActive : Layer → Info → Bool
  setLayerVote : Layer → Info → Info
  onLayerInactive : Info → Info

def Partition.keeps (p : Partition Layer Info) (e : Layer × Info) : Bool :=
  p.alive e.1 && p.isLayerActive e.1 e.2

def Partition.voted (p : Partition Layer Info) (e : Layer × Info) : Layer × Info :=
  (e.1, p.setLayerVote e.1 e.2)

namespace LayerHistoryV2

variable (hist : LayerHistoryV2 Layer Info)

def partitionLayers (p : Partition Layer Info) : LayerHistoryV2 Layer Info :=
  let (i, infos) := sweep p.keeps p.voted (fun e => (e.1, p.onLayerInactive e.2))
    hist.mActiveLayersEnd 0 hist.mLayerInfos
  let (last, infos) := sweep (fun e => p.alive e.1) id id (infos.length - i) i infos
  ⟨infos.take last, i⟩

def registerLayer (layer : Layer) (info : Info) : LayerHistoryV2 Layer Info :=
  { hist with mLayerInfos := hist.mLayerInfos ++ [(layer, info)] }

def record [DecidableEq Layer] (layer : Layer) (setLastPresentTime : Info → Info) :
    Option (LayerHistoryV2 Layer Info) :=
  (hist.mLayerInfos.findIdx? (·.1 = layer)).map fun i =>
    let infos := hist.mLayerInfos.modify i fun e => (e.1, setLastPresentTime e.2)
    if i < hist.mActiveLayersEnd then { hist with mLayerInfos := infos }
    else ⟨swap infos i hist.mActiveLayersEnd, hist.mActiveLayersEnd + 1⟩

def clear (clearHistory : Info → Info) : LayerHistoryV2 Layer Info :=
  { hist with mLayerInfos :=
      (hist.mLayerInfos.take hist.mActiveLayersEnd).map (fun e => (e.1, clearHistory e.2)) ++
        hist.mLayerInfos.drop hist.mActiveLayersEnd }

end LayerHistoryV2

inductive Call (Layer Info : Type*)
  | registerLayer (layer : Layer) (info : Info)
  | record (layer : Layer) (setLastPresentTime : Info → Info)
  | summarize (p : Partition Layer Info)
  | clear (clearHistory : Info → Info)

def step [DecidableEq Layer] (hist : Option (LayerHistoryV2 Layer Info)) (call : Call Layer Info) :
    Option (LayerHistoryV2 Layer Info) :=
  hist.bind fun hist =>
    match call with
    | .registerLayer layer info => some (hist.registerLayer layer info)
    | .record layer setLastPresentTime => hist.record layer setLastPresentTime
    | .summarize p => some (hist.partitionLayers p)
    | .clear clearHistory => some (hist.clear clearHistory)

variable {hist : LayerHistoryV2 Layer Info}

/-- What partitioning is for. -/
structure Partitioned (hist next : LayerHistoryV2 Layer Info) (p : Partition Layer Info) :
    Prop where
  inside : next.mActiveLayersEnd ≤ next.mLayerInfos.length
  entries : (next.mLayerInfos.map Prod.fst).Perm ((hist.mLayerInfos.map Prod.fst).filter p.alive)
  active : (next.mLayerInfos.take next.mActiveLayersEnd).Perm
    (((hist.mLayerInfos.take hist.mActiveLayersEnd).filter p.keeps).map p.voted)

lemma partitioned (inside : hist.mActiveLayersEnd ≤ hist.mLayerInfos.length)
    (p : Partition Layer Info) : Partitioned hist (hist.partitionLayers p) p := by
  rcases hist with ⟨infos, size⟩
  rcases sweep_spec p.keeps p.voted (fun e => (e.1, p.onLayerInactive e.2)) [] (infos.take size)
    (infos.drop size) with ⟨good, bad, swept, isGood, isBad⟩
  rcases sweep_spec (fun e => p.alive e.1) id id good (bad ++ infos.drop size) [] with
    ⟨others, expired, sweptAgain, isOther, _⟩
  have next : (LayerHistoryV2.mk infos size).partitionLayers p =
      ⟨good ++ others, good.length⟩ := by
    simp only [nil_append, length_nil, Nat.zero_add, take_append_drop, append_assoc,
      length_take_of_le inside] at swept
    simp only [append_nil, append_assoc] at sweptAgain
    have rest : (good ++ (bad ++ infos.drop size)).length - good.length =
        (bad ++ infos.drop size).length := by
      rw [length_append, Nat.add_sub_cancel_left]
    simp only [LayerHistoryV2.partitionLayers, swept, rest, sweptAgain]
    rw [← append_assoc, ← length_append, take_left]
  have goodLayers : (good.map Prod.fst).Perm
      (((infos.take size).filter p.keeps).map Prod.fst) := by
    simpa [Partition.voted, Function.comp_def] using isGood.map Prod.fst
  have badLayers : (bad.map Prod.fst).Perm
      (((infos.take size).filter fun e => !p.keeps e).map Prod.fst) := by
    simpa [Function.comp_def] using isBad.map Prod.fst
  have goodAlive : ∀ layer ∈ good.map Prod.fst, p.alive layer = true := by
    intro layer mem
    rcases mem_map.1 (goodLayers.subset mem) with ⟨e, isKept, rfl⟩
    exact (Bool.and_eq_true_iff.1 (mem_filter.1 isKept).2).1
  have all : (infos.map Prod.fst).Perm
      (good.map Prod.fst ++ (bad ++ infos.drop size).map Prod.fst) := by
    have halves := ((filter_append_perm p.keeps (infos.take size)).map Prod.fst).symm
    rw [map_append] at halves
    rw [map_append, ← append_assoc]
    nth_rewrite 1 [← take_append_drop size infos]
    rw [map_append]
    exact (halves.trans (goodLayers.append badLayers).symm).append_right _
  rw [next]
  refine ⟨by simp, Perm.trans ?_ (all.filter _).symm, by simpa using isGood⟩
  rw [map_append, filter_append, filter_eq_self.2 goodAlive, filter_map]
  rw [map_id] at isOther
  exact (isOther.map Prod.fst).append_left _

def Inside (hist : Option (LayerHistoryV2 Layer Info)) : Prop :=
  ∀ state ∈ hist, state.mActiveLayersEnd ≤ state.mLayerInfos.length

variable [DecidableEq Layer]

lemma inside_step (hist : Option (LayerHistoryV2 Layer Info)) (call : Call Layer Info)
    (inside : Inside hist) : Inside (step hist call) := by
  intro next isNext
  rcases Option.bind_eq_some_iff.1 isNext with ⟨state, isState, isNext⟩
  have inside := inside state isState
  cases call with
  | registerLayer layer info =>
    cases isNext
    simp only [LayerHistoryV2.registerLayer, length_append, length_singleton]
    omega
  | record layer setLastPresentTime =>
    rcases Option.map_eq_some_iff.1 isNext with ⟨i, found, rfl⟩
    have bound := (findIdx?_eq_some_iff_getElem.1 found).1
    split_ifs with before
    · simpa using inside
    · simp only [length_swap, length_modify]
      omega
  | summarize p =>
    cases isNext
    exact (partitioned inside p).inside
  | clear clearHistory =>
    cases isNext
    simp only [LayerHistoryV2.clear, length_append, length_map, length_take, length_drop]
    omega

/-- After every run of calls, whatever references expired before each, the active layers are among
the entries. Partitioning keeps each live entry once and no other, and the active ones are those
that were active and pass the test. -/
theorem partitionLayers_reached (calls : List (Call Layer Info))
    (reached : Machine.run step (some {}) calls = some hist) (p : Partition Layer Info) :
    hist.mActiveLayersEnd ≤ hist.mLayerInfos.length ∧
      Partitioned hist (hist.partitionLayers p) p := by
  have initial : Inside (some ({} : LayerHistoryV2 Layer Info)) := by simp [Inside]
  have inside := Machine.run_always inside_step initial calls hist reached
  exact ⟨inside, partitioned inside p⟩

theorem partitionLayers_reached_record :
    Partitioned (LayerHistoryV2.mk [(2, ()), (1, ())] 1)
      (LayerHistoryV2.partitionLayers ⟨[(2, ()), (1, ())], 1⟩
        ⟨(· = 1), fun _ _ => true, fun _ => id, id⟩) ⟨(· = 1), fun _ _ => true, fun _ => id, id⟩ :=
  (partitionLayers_reached [.registerLayer 1 (), .registerLayer 2 (), .record 2 id] rfl _).2

end NativeLibs.Scheduler.LayerHistory
