import Mathlib.Data.List.Nodup

/-! # Lists with keys

The first entry of a key is removed or found; a list whose keys are distinct keeps them distinct. -/

namespace NativeLibs.KeyedList

open List

variable {Entry Key : Type*} [DecidableEq Key] (key : Entry → Key)

def remove (target : Key) : List Entry → Option (List Entry)
  | [] => none
  | entry :: rest => if key entry = target then some rest else (remove target rest).map (entry :: ·)

def removeAll (targets : List Key) (entries : List Entry) : Option (List Entry) :=
  targets.foldlM (fun entries target => remove key target entries) entries

variable {key} {es : List Entry}

lemma remove_eq_eraseIdx (goal : Key) (es : List Entry) : remove key goal es =
      (es.findIdx? fun e => key e = goal).map es.eraseIdx := by
  induction es with
  | nil => rfl
  | cons e rest ih =>
    rw [remove, findIdx?_cons]
    by_cases hit : key e = goal
    · simp [hit]
    · simp only [hit, if_false, decide_false, ih, Option.map_map, Bool.false_eq_true]
      rfl

lemma remove_eq_none_iff : remove key goal es = none ↔ goal ∉ es.map key := by
  induction es with
  | nil => simp [remove]
  | cons e rest ih =>
    by_cases hit : key e = goal
    · simp [remove, hit]
    · simp [remove, hit, ih, Ne.symm hit]

lemma remove_map (removed : remove key goal es = some rest) :
    rest.map key = (es.map key).erase goal := by
  induction es generalizing rest with
  | nil => cases removed
  | cons e others ih =>
    rw [remove] at removed
    split at removed
    · rename_i hit
      cases removed
      simp [hit]
    · rename_i ne
      obtain ⟨shorter, shortened, rfl⟩ := Option.map_eq_some_iff.mp removed
      simp [ne, ih shortened]

/-! ## Distinct keys -/

variable (key) in
inductive Change (entries : List Entry) : List Entry → Prop
  | rewritten {after : List Entry} (keys : after.map key = entries.map key) : Change entries after
  | removed {target : Key} {rest : List Entry} (removed : remove key target entries = some rest) :
      Change entries rest
  | replaced {entry : Entry} {rest : List Entry}
      (removed : remove key (key entry) entries = some rest) : Change entries (rest ++ [entry])
  | added {entry : Entry} (absent : remove key (key entry) entries = none) :
      Change entries (entries ++ [entry])

omit [DecidableEq Key] in
lemma nodup_concat (nodup : (es.map key).Nodup) (miss : key e ∉ es.map key) :
    ((es ++ [e]).map key).Nodup := by
  rw [map_append, map_singleton, ← concat_eq_append]
  exact nodup.concat miss

lemma Change.nodup {after : List Entry} (change : Change key es after)
    (nodup : (es.map key).Nodup) : (after.map key).Nodup := by
  cases change with
  | rewritten keys => rwa [keys]
  | removed removed =>
    rw [remove_map removed]
    exact nodup.erase _
  | @replaced e rest removed =>
    have keys := remove_map removed
    refine nodup_concat ?_ ?_
    · rw [keys]
      exact nodup.erase _
    · rw [keys]
      exact nodup.not_mem_erase
  | added miss => exact nodup_concat nodup (remove_eq_none_iff.mp miss)

omit [DecidableEq Key] in
lemma map_modify (keeps : ∀ e, key (update e) = key e) (es : List Entry)
    (i : Nat) : (es.modify i update).map key = es.map key := by
  apply ext_getElem
  · simp
  · intro place _ _
    rw [getElem_map, getElem_map, getElem_modify]
    split
    · exact keeps _
    · rfl

omit [DecidableEq Key] in
lemma map_set (mem : es[i]? = some old) (same : key new = key old) :
    (es.set i new).map key = es.map key := by
  obtain ⟨bound, itsKey⟩ : ∃ bound : i < (es.map key).length,
      (es.map key)[i] = key old := by
    rw [← List.getElem?_eq_some_iff, List.getElem?_map, mem]
    rfl
  rw [List.map_set, same, ← itsKey, List.set_getElem_self]

/-! ## Removing several -/

lemma removeAll_cons_eq_some (removed : removeAll key (goal :: targets) es = some rest) :
    ∃ shorter, remove key goal es = some shorter ∧
      removeAll key targets shorter = some rest := by
  rw [removeAll, foldlM_cons] at removed
  exact Option.bind_eq_some_iff.mp removed

lemma removeAll_cons_of_ne (ne : key e ∉ targets) (es : List Entry) :
    removeAll key targets (e :: es) =
      (removeAll key targets es).map (e :: ·) := by
  induction targets generalizing es with
  | nil => rfl
  | cons goal targets ih =>
    simp only [mem_cons, not_or] at ne
    simp only [removeAll, foldlM_cons, remove, ne.1, if_false]
    cases remove key goal es with
    | none => rfl
    | some rest => exact ih ne.2 rest

lemma removeAll_filter (kind : Key → Bool) (es : List Entry) :
    removeAll key ((es.filter fun e => kind (key e)).map key) es =
      some (es.filter fun e => !kind (key e)) := by
  induction es with
  | nil => rfl
  | cons e rest ih =>
    cases ofKind : kind (key e) with
    | true =>
      have step : removeAll key (key e ::
          (rest.filter fun e => kind (key e)).map key) (e :: rest) =
          removeAll key ((rest.filter fun e => kind (key e)).map key) rest := by
        simp [removeAll, remove]
      simp [ofKind, step, ih]
    | false =>
      have other : key e ∉ (rest.filter fun e => kind (key e)).map key := by
        intro mem
        obtain ⟨hit, inRest, same⟩ := mem_map.mp mem
        have itsKind := (mem_filter.mp inRest).2
        rw [same, ofKind] at itsKind
        cases itsKind
      simp [ofKind, removeAll_cons_of_ne other, ih]

lemma removeAll_self (es : List Entry) :
    removeAll key (es.map key) es = some [] := by
  simpa using removeAll_filter (fun _ : Key => true) es

lemma countP_key (nodup : (es.map key).Nodup) (mem : e ∈ es) :
    es.countP (fun other => key other = key e) = 1 := by
  have once := count_eq_one_of_mem nodup (mem_map_of_mem mem)
  rw [count_eq_countP, countP_map] at once
  rw [← once]
  apply countP_congr
  simp

/-! ## Change the entry of a key, or add it -/

variable (key) in
def upsert (target : Key) (edit : Entry → Entry) (new : Entry) : List Entry → List Entry
  | [] => [new]
  | entry :: rest =>
    if key entry = target then edit entry :: rest else entry :: upsert target edit new rest

lemma mem_upsert (mem : e ∈ upsert key goal edit new es) :
    e ∈ es ∨ (∃ old ∈ es, key old = goal ∧ e = edit old) ∨ e = new := by
  induction es with
  | nil => exact .inr (.inr (mem_singleton.mp mem))
  | cons first rest ih =>
    rw [upsert] at mem
    split at mem
    · rename_i hit
      rcases mem_cons.mp mem with edited | kept
      · exact .inr (.inl ⟨first, mem_cons_self, hit, edited⟩)
      · exact .inl (mem_cons_of_mem _ kept)
    · rcases mem_cons.mp mem with same | later
      · exact .inl (same ▸ mem_cons_self)
      · rcases ih later with kept | ⟨old, isOld, hit, edited⟩ | added
        · exact .inl (mem_cons_of_mem _ kept)
        · exact .inr (.inl ⟨old, mem_cons_of_mem _ isOld, hit, edited⟩)
        · exact .inr (.inr added)

lemma map_upsert (edits : ∀ old, key old = goal → key (edit old) = goal)
    (newKey : key new = goal) :
    (upsert key goal edit new es).map key =
      if goal ∈ es.map key then es.map key else es.map key ++ [goal] := by
  induction es with
  | nil => simp [upsert, newKey]
  | cons first rest ih =>
    rw [upsert]
    by_cases hit : key first = goal
    · simp [hit, edits first hit]
    · simp only [hit, if_false, map_cons, ih, mem_cons, Ne.symm hit, false_or]
      split <;> simp

lemma nodup_upsert (nodup : (es.map key).Nodup)
    (edits : ∀ old, key old = goal → key (edit old) = goal) (newKey : key new = goal) :
    ((upsert key goal edit new es).map key).Nodup := by
  rw [map_upsert edits newKey]
  split
  · exact nodup
  · rename_i miss
    rw [← concat_eq_append]
    exact nodup.concat miss

end NativeLibs.KeyedList
