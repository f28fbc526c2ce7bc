import Mathlib.Data.List.Induction
import Mathlib.Data.List.Nodup
import Plateau.Data.Overlay

namespace Plateau

theorem Value.above_of_plain {v : Value} (h : ∀ inner, v ≠ .record inner) (low : Option Value) :
    v.above low = v := by
  cases v with
  | record inner => exact absurd rfl (h inner)
  | _ => simp [Value.above]

namespace Fields

def keys (fs : Fields) : List String := fs.map (·.1)

theorem get?_cons_self (key : String) (v : Value) (fs : Fields) :
    get? key ((key, v) :: fs) = some v := by
  simp [get?]

theorem get?_cons_of_ne {k key : String} (h : k ≠ key) (v : Value) (fs : Fields) :
    get? key ((k, v) :: fs) = get? key fs := by
  simp [get?, h]

theorem get?_eq_none {key : String} {fs : Fields} (h : key ∉ fs.keys) : get? key fs = none := by
  induction fs with
  | nil => rfl
  | cons kv fs ih =>
    obtain ⟨hne, hrest⟩ : key ≠ kv.1 ∧ key ∉ keys fs := by simpa [keys] using h
    rw [get?_cons_of_ne hne.symm]
    exact ih hrest

theorem not_mem_keys_of_get?_eq_none {key : String} {fs : Fields} (h : get? key fs = none) :
    key ∉ fs.keys := by
  induction fs with
  | nil => simp [keys]
  | cons kv fs ih =>
    by_cases hk : kv.1 = key
    · subst hk
      rw [get?_cons_self] at h
      contradiction
    · rw [get?_cons_of_ne hk] at h
      simpa [keys, Ne.symm hk] using ih h

theorem get?_append (key : String) (fs gs : Fields) :
    get? key (fs ++ gs) = (get? key fs).or (get? key gs) := by
  induction fs with
  | nil => rfl
  | cons kv fs ih =>
    by_cases h : kv.1 = key
    · subst h
      rw [List.cons_append, get?_cons_self, get?_cons_self]
      rfl
    · rw [List.cons_append, get?_cons_of_ne h, get?_cons_of_ne h, ih]

theorem get?_filterMap (key : String) (known : List String) (value? : String → Option Value) :
    get? key (known.filterMap fun k => (value? k).map (k, ·)) =
      if key ∈ known then value? key else none := by
  induction known with
  | nil => rfl
  | cons k known ih =>
    by_cases hk : k = key
    · subst hk
      cases hv : value? k with
      | some v => simp [hv, get?_cons_self]
      | none => simp [hv, ih]
    · have hmem : key ∈ k :: known ↔ key ∈ known := by simp [Ne.symm hk]
      simp only [hmem]
      rw [← ih]
      cases hv : value? k with
      | some v =>
        rw [List.filterMap_cons_some (b := (k, v)) (by rw [hv]; rfl), get?_cons_of_ne hk]
      | none => rw [List.filterMap_cons_none (by rw [hv]; rfl)]

theorem keys_filterMap (known : List String) (value? : String → Option Value) :
    (keys (known.filterMap fun k => (value? k).map (k, ·))).Sublist known := by
  induction known with
  | nil => exact List.Sublist.refl _
  | cons k known ih =>
    cases hv : value? k with
    | some v =>
      rw [List.filterMap_cons_some (b := (k, v)) (by rw [hv]; rfl)]
      exact ih.cons_cons k
    | none =>
      rw [List.filterMap_cons_none (by rw [hv]; rfl)]
      exact ih.cons k

@[simp] theorem update_nil (fs : Fields) : fs.update [] = fs := rfl

theorem ofPairs_append (pairs later : List (String × Value)) :
    ofPairs (pairs ++ later) = (ofPairs pairs).update later :=
  List.foldl_append

/-- Of pairs with one key the last counts. -/
theorem get?_ofPairs (key : String) (pairs : List (String × Value)) :
    get? key (ofPairs pairs) = (pairs.reverse.find? fun kv => kv.1 == key).map (·.2) := by
  induction pairs using List.reverseRecOn with
  | nil => rfl
  | append_singleton pairs kv ih =>
    have hset : ofPairs (pairs ++ [kv]) = (ofPairs pairs).set kv.1 kv.2 := by
      simp [ofPairs, update]
    rw [hset, List.reverse_append, List.reverse_singleton, List.singleton_append, List.find?_cons]
    by_cases h : kv.1 = key
    · subst h
      rw [get?_set_self]
      simp
    · have hne : (kv.1 == key) = false := by simpa using h
      rw [get?_set_of_ne h, ih, hne]

theorem set_of_not_mem {key : String} {fs : Fields} (h : key ∉ fs.keys) (v : Value) :
    set key v fs = fs ++ [(key, v)] := by
  induction fs with
  | nil => rfl
  | cons kv fs ih =>
    obtain ⟨hne, hrest⟩ : key ≠ kv.1 ∧ key ∉ keys fs := by simpa [keys] using h
    rw [set, if_neg (by simpa using hne.symm), ih hrest, List.cons_append]

theorem update_eq_append {old new : Fields} (h : (old ++ new).keys.Nodup) :
    update old new = old ++ new := by
  induction new generalizing old with
  | nil => exact (List.append_nil old).symm
  | cons kv new ih =>
    have hsplit : (old ++ [kv]) ++ new = old ++ kv :: new := by simp
    have hnot : kv.1 ∉ old.keys := by
      rw [keys, List.map_append, List.nodup_append] at h
      intro hmem
      exact h.2.2 _ hmem _ List.mem_cons_self rfl
    rw [← hsplit] at h ⊢
    rw [← ih h, ← set_of_not_mem hnot kv.2]
    rfl

theorem ofPairs_eq_self {fs : Fields} (h : fs.keys.Nodup) : ofPairs fs = fs :=
  update_eq_append h

theorem keys_set (key : String) (v : Value) (fs : Fields) :
    keys (set key v fs) = if key ∈ keys fs then keys fs else keys fs ++ [key] := by
  induction fs with
  | nil => rfl
  | cons kv fs ih =>
    by_cases h : kv.1 = key
    · simp [set, keys, h]
    · have hset : set key v (kv :: fs) = kv :: set key v fs := by simp [set, h]
      have hkeys : keys (kv :: set key v fs) = kv.1 :: keys (set key v fs) := rfl
      have hmem : key ∈ keys (kv :: fs) ↔ key ∈ keys fs := by simp [keys, Ne.symm h]
      rw [hset, hkeys, ih]
      simp only [hmem]
      split <;> rfl

theorem nodup_keys_set {fs : Fields} (h : fs.keys.Nodup) (key : String) (v : Value) :
    (keys (set key v fs)).Nodup := by
  rw [keys_set]
  split
  · exact h
  · rename_i hnot
    have happend : (key :: keys fs).Nodup := List.nodup_cons.2 ⟨hnot, h⟩
    exact (List.perm_append_singleton key (keys fs)).nodup_iff.2 happend

theorem mem_keys_set {key other : String} (v : Value) (fs : Fields) :
    other ∈ keys (set key v fs) ↔ other = key ∨ other ∈ keys fs := by
  rw [keys_set]
  split
  · rename_i hmem
    constructor
    · exact .inr
    · rintro (rfl | h)
      · exact hmem
      · exact h
  · simp [or_comm]

theorem mem_keys_update {key : String} (old new : Fields) :
    key ∈ keys (update old new) ↔ key ∈ keys old ∨ key ∈ keys new := by
  induction new generalizing old with
  | nil => simp [update, keys]
  | cons kv new ih =>
    have hcons : key ∈ keys (kv :: new) ↔ key = kv.1 ∨ key ∈ keys new := List.mem_cons
    have hstep : update old (kv :: new) = update (old.set kv.1 kv.2) new := rfl
    rw [hstep, ih, mem_keys_set, hcons, or_assoc, or_left_comm]

theorem ofPairs_eq_nil_iff {pairs : List (String × Value)} : ofPairs pairs = [] ↔ pairs = [] := by
  constructor
  · intro h
    apply List.eq_nil_iff_forall_not_mem.2
    intro kv hkv
    have hkey : kv.1 ∈ keys (ofPairs pairs) :=
      (mem_keys_update [] pairs).2 (.inr (List.mem_map_of_mem hkv))
    rw [h] at hkey
    simp [keys] at hkey
  · rintro rfl
    rfl

theorem nodup_keys_update {old : Fields} (h : old.keys.Nodup) (new : Fields) :
    (keys (update old new)).Nodup := by
  induction new generalizing old with
  | nil => exact h
  | cons kv new ih => exact ih (nodup_keys_set h _ _)

theorem nodup_keys_ofPairs (pairs : List (String × Value)) : (keys (ofPairs pairs)).Nodup := by
  have hnil : (keys []).Nodup := List.nodup_nil
  exact nodup_keys_update hnil pairs

theorem nodup_keys_overlay {low : Fields} (h : low.keys.Nodup) (high : Fields) :
    (keys (overlay low high)).Nodup := by
  induction high generalizing low with
  | nil =>
    rw [overlay]
    exact h
  | cons kv high ih =>
    rw [overlay]
    exact ih (nodup_keys_set h _ _)

theorem mem_keys_overlay {key : String} (low high : Fields) :
    key ∈ keys (overlay low high) ↔ key ∈ keys low ∨ key ∈ keys high := by
  induction high generalizing low with
  | nil => simp [overlay, keys]
  | cons kv high ih =>
    have hcons : key ∈ keys (kv :: high) ↔ key = kv.1 ∨ key ∈ keys high := List.mem_cons
    rw [overlay, ih, mem_keys_set, hcons, or_assoc, or_left_comm]

theorem get?_overlay_of_not_mem {high : Fields} {key : String} (h : key ∉ high.keys)
    (low : Fields) : get? key (overlay low high) = get? key low := by
  induction high generalizing low with
  | nil => rw [overlay]
  | cons kv high ih =>
    obtain ⟨hne, hrest⟩ : key ≠ kv.1 ∧ key ∉ keys high := by simpa [keys] using h
    rw [overlay, ih hrest, get?_set_of_ne hne.symm]

theorem get?_overlay_eq {high : Fields} (hnodup : high.keys.Nodup) (key : String) (low : Fields) :
    get? key (overlay low high) =
      ((get? key high).map (Value.above (get? key low))).or (get? key low) := by
  induction high generalizing low with
  | nil => rw [overlay, get?_nil, Option.map_none, Option.none_or]
  | cons kv high ih =>
    obtain ⟨k, v⟩ := kv
    obtain ⟨hnot, hnodup⟩ : k ∉ keys high ∧ (keys high).Nodup := List.nodup_cons.1 hnodup
    rw [overlay]
    by_cases h : k = key
    · subst h
      rw [get?_overlay_of_not_mem hnot, get?_set_self, get?_cons_self]
      rfl
    · rw [get?_cons_of_ne h, ih hnodup, get?_set_of_ne h]

/-- A value that is no record hides what lies below its key. -/
theorem get?_overlay {high : Fields} (hnodup : high.keys.Nodup) {key : String}
    (hplain : ∀ inner, get? key high ≠ some (.record inner)) (low : Fields) :
    get? key (overlay low high) = (get? key high).or (get? key low) := by
  rw [get?_overlay_eq hnodup]
  cases hv : get? key high with
  | none => rfl
  | some v =>
    have hrecord : ∀ inner, v ≠ .record inner := by
      rintro inner rfl
      exact hplain inner hv
    rw [Option.map_some, Value.above_of_plain hrecord]

end Fields

end Plateau
