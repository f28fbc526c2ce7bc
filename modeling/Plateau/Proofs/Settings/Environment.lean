import Mathlib.Data.List.Infix
import Plateau.Proofs.Settings.Precedence
import Plateau.Proofs.Text.Letters

namespace Plateau.Environment

open Settings (environmentSections)
open Text (Small lower small_lower lower_eq_self)

theorem keysOf_ne_nil (s : List Char) : keysOf s ≠ [] := by
  fun_cases keysOf s <;> simp_all

theorem eq_of_keysOf_eq_singleton {s key : List Char} (h : keysOf s = [key]) : s = key := by
  fun_induction keysOf s generalizing key with
  | case1 => exact (List.cons.inj h).1
  | case2 s ih => exact absurd (List.cons.inj h).2 (keysOf_ne_nil s)
  | case3 c s _ hnil ih => exact absurd hnil (keysOf_ne_nil s)
  | case4 c s _ first rest hkeys ih =>
    obtain ⟨rfl, rfl⟩ := List.cons.inj h
    rw [ih hkeys]

theorem mem_of_mem_keysOf {s key : List Char} (h : key ∈ keysOf s) : key ⊆ s := by
  fun_induction keysOf s generalizing key with
  | case1 => rw [List.mem_singleton.1 h]; exact List.Subset.refl _
  | case2 s ih =>
    rcases List.mem_cons.1 h with rfl | h
    · exact List.nil_subset _
    · exact fun c hc => List.mem_cons_of_mem _ (List.mem_cons_of_mem _ (ih h hc))
  | case3 c s _ hnil ih => exact absurd hnil (keysOf_ne_nil s)
  | case4 c s _ first rest hkeys ih =>
    rw [hkeys] at ih
    rcases List.mem_cons.1 h with rfl | h
    · exact List.cons_subset_cons c (ih List.mem_cons_self)
    · exact fun d hd => List.mem_cons_of_mem _ (ih (List.mem_cons_of_mem _ h) hd)

theorem after?_eq_some_iff {start s rest : List Char} :
    after? start s = some rest ↔ s = start ++ rest := by
  unfold after?
  split
  · rename_i h
    obtain ⟨t, rfl⟩ := List.isPrefixOf_iff_prefix.1 h
    simp [eq_comm]
  · rename_i h
    simp only [reduceCtorEq, false_iff]
    rintro rfl
    exact h (by simp)

/-- Under the key stands what stood there, or a record instead of a record or of nothing. -/
def Deepens (key : String) (fs gs : Fields) : Prop :=
  gs.get? key = fs.get? key ∨
    (∀ v ∈ fs.get? key, ∃ inner, v = .record inner) ∧ ∃ inner, gs.get? key = some (.record inner)

theorem Deepens.refl (key : String) (fs : Fields) : Deepens key fs fs := .inl rfl

theorem Deepens.trans {key : String} {fs gs hs : Fields} (h : Deepens key fs gs)
    (h' : Deepens key gs hs) : Deepens key fs hs := by
  rcases h' with heq | ⟨hrecord, hset⟩
  · unfold Deepens
    rw [heq]
    exact h
  · rcases h with heq | ⟨hfirst, -⟩
    · rw [heq] at hrecord
      exact .inr ⟨hrecord, hset⟩
    · exact .inr ⟨hfirst, hset⟩

theorem deepens_plant {key : String} {keys : List String} (hkeys : keys ≠ [key]) (v : Value)
    (fs : Fields) : Deepens key fs (plant v keys fs) := by
  have hset (k : String) (inner : Fields) (hrecord : ∀ v ∈ fs.get? k, ∃ inner, v = .record inner) :
      Deepens key fs (fs.set k (.record inner)) := by
    by_cases h : k = key
    · subst h
      exact .inr ⟨hrecord, inner, Fields.get?_set_self _ _ _⟩
    · exact .inl (Fields.get?_set_of_ne h _ _)
  match keys with
  | [] => exact .refl key fs
  | [k] => exact .inl (Fields.get?_set_of_ne (by simpa using hkeys) v fs)
  | k :: k' :: rest =>
    rw [plant]
    · cases hk : fs.get? k with
      | none => exact hset k _ (by simp [hk])
      | some w =>
        cases w with
        | record inner => exact hset k _ (by simp [hk])
        | _ => exact .refl key fs
    · simp

theorem mem_keys_plant {k : String} {key : String} {keys : List String} {v : Value} {fs : Fields}
    (h : k ∈ (plant v (key :: keys) fs).keys) : k = key ∨ k ∈ fs.keys := by
  cases keys with
  | nil => exact (Fields.mem_keys_set v fs).1 h
  | cons key' keys =>
    rw [plant] at h
    · split at h
      · exact (Fields.mem_keys_set _ fs).1 h
      · exact (Fields.mem_keys_set _ fs).1 h
      · exact .inr h
    · simp

def settle (name : String) (fs : Fields) (kv : String × Value) : Fields :=
  match after? (stem ++ name ++ "__").toList kv.1.toList with
  | some rest => plant kv.2 ((keysOf rest).map String.ofList) fs
  | none => fs

theorem nested_eq (name : String) (env : Fields) : nested name env = env.foldl (settle name) [] :=
  rfl

def Whole (key : String) : Prop := keysOf key.toList = [key.toList]

instance (key : String) : Decidable (Whole key) := inferInstanceAs (Decidable (_ = _))

def nameOf (name key : String) : String := stem ++ (name ++ "__" ++ key)

theorem toList_nameOf (name key : String) :
    (nameOf name key).toList = (stem ++ name ++ "__").toList ++ key.toList := by
  simp [nameOf]

variable {name key : String}

theorem deepens_settle {kv : String × Value} (h : kv.1 ≠ nameOf name key) (fs : Fields) :
    Deepens key fs (settle name fs kv) := by
  unfold settle
  split
  · rename_i rest hrest
    apply deepens_plant
    intro hkeys
    obtain ⟨first, hfirst, hkey⟩ := List.map_eq_singleton_iff.1 hkeys
    have hname := after?_eq_some_iff.1 hrest
    rw [eq_of_keysOf_eq_singleton hfirst] at hname
    apply h
    rw [← String.toList_inj, toList_nameOf, ← hkey, String.toList_ofList, hname]
  · exact .refl key fs

theorem get?_settle (hkey : Whole key) (fs : Fields) (v : Value) :
    (settle name fs (nameOf name key, v)).get? key = some v := by
  have hafter : after? (stem ++ name ++ "__").toList (nameOf name key).toList = some key.toList :=
    after?_eq_some_iff.2 (toList_nameOf name key)
  rw [settle, hafter]
  dsimp only
  rw [hkey, List.map_singleton, String.ofList_toList]
  exact Fields.get?_set_self key v fs

theorem deepens_foldl_settle {env : Fields} (h : nameOf name key ∉ env.keys) (fs : Fields) :
    Deepens key fs (env.foldl (settle name) fs) := by
  induction env generalizing fs with
  | nil => exact .refl key fs
  | cons kv env ih =>
    obtain ⟨hne, hrest⟩ : nameOf name key ≠ kv.1 ∧ nameOf name key ∉ Fields.keys env := by
      simpa [Fields.keys] using h
    exact (deepens_settle hne.symm fs).trans (ih hrest _)

/-- Whatever other variables are set, under a key stands the text of its own. -/
theorem get?_foldl_settle (hkey : Whole key) {env : Fields} (hnodup : env.keys.Nodup) {s : String}
    (h : env.get? (nameOf name key) = some (.text s)) (fs : Fields) :
    (env.foldl (settle name) fs).get? key = some (.text s) := by
  induction env generalizing fs with
  | nil => contradiction
  | cons kv env ih =>
    obtain ⟨k, v⟩ := kv
    obtain ⟨hnot, hnodup⟩ : k ∉ Fields.keys env ∧ (Fields.keys env).Nodup :=
      List.nodup_cons.1 hnodup
    by_cases hk : k = nameOf name key
    · subst hk
      rw [Fields.get?_cons_self] at h
      obtain rfl := Option.some.inj h
      have hset : (settle name fs (nameOf name key, .text s)).get? key = some (.text s) :=
        get?_settle hkey fs _
      -- The variables that follow would have to find a record to change anything.
      rcases deepens_foldl_settle hnot (settle name fs (nameOf name key, .text s)) with
        heq | ⟨hrecord, -⟩
      · exact heq.trans hset
      · obtain ⟨inner, hinner⟩ := hrecord _ hset
        contradiction
    · rw [Fields.get?_cons_of_ne hk] at h
      exact ih hnodup h _

theorem nodup_lowered (env : List (String × String)) : (lowered env).keys.Nodup :=
  Fields.nodup_keys_ofPairs _

theorem get?_nested_of_assigned (hkey : Whole key) {env : List (String × String)} {s : String}
    (h : assigned? env (name ++ "__" ++ key) = some s) :
    (nested name (lowered env)).get? key = some (.text s) := by
  rw [nested_eq]
  apply get?_foldl_settle hkey (nodup_lowered env)
  rw [nameOf, get?_lowered, h]
  rfl

theorem record_of_get?_nested {env : List (String × String)}
    (h : assigned? env (name ++ "__" ++ key) = none) {v : Value}
    (hv : (nested name (lowered env)).get? key = some v) : ∃ inner, v = .record inner := by
  have hnot : nameOf name key ∉ (lowered env).keys := by
    apply Fields.not_mem_keys_of_get?_eq_none
    rw [nameOf, get?_lowered, h, Option.map_none]
  rw [nested_eq] at hv
  rcases deepens_foldl_settle hnot [] with heq | ⟨-, inner, hinner⟩
  · rw [heq] at hv
    contradiction
  · exact ⟨inner, Option.some.inj (hv.symm.trans hinner)⟩

theorem spellKeys_eq_self {fs : Fields} (hnodup : fs.keys.Nodup) (h : ∀ k ∈ fs.keys, Small k)
    (known : List String) : spellKeys known fs = fs := by
  have hspelled : fs.map (fun kv =>
      (if known.contains (lower kv.1) then lower kv.1 else kv.1, kv.2)) = fs := by
    refine (List.map_congr_left fun kv hkv => ?_).trans (List.map_id fs)
    rw [lower_eq_self (h kv.1 (List.mem_map_of_mem hkv)), ite_self]
    rfl
  rw [spellKeys]
  exact (congrArg Fields.ofPairs hspelled).trans (Fields.ofPairs_eq_self hnodup)

theorem nodup_plant {fs : Fields} (h : fs.keys.Nodup) (v : Value) (keys : List String) :
    (plant v keys fs).keys.Nodup := by
  fun_cases plant v keys fs with
  | case1 => exact h
  | case2 key => exact Fields.nodup_keys_set h key v
  | case3 => exact Fields.nodup_keys_set h _ _
  | case4 => exact Fields.nodup_keys_set h _ _
  | case5 => exact h

theorem nodup_settle {fs : Fields} (h : fs.keys.Nodup) (name : String) (kv : String × Value) :
    (settle name fs kv).keys.Nodup := by
  unfold settle
  split
  · exact nodup_plant h _ _
  · exact h

theorem small_settle {fs : Fields} (h : ∀ k ∈ fs.keys, Small k) {kv : String × Value}
    (hkv : Small kv.1) : ∀ k ∈ (settle name fs kv).keys, Small k := by
  unfold settle
  split
  · rename_i rest hrest
    intro k hk
    obtain ⟨first, keys, hkeys⟩ := List.exists_cons_of_ne_nil (keysOf_ne_nil rest)
    rw [hkeys, List.map_cons] at hk
    rcases mem_keys_plant hk with rfl | hk
    · intro c hc
      rw [String.toList_ofList] at hc
      apply hkv
      rw [after?_eq_some_iff.1 hrest]
      exact List.mem_append_right _ (mem_of_mem_keysOf (hkeys ▸ List.mem_cons_self) hc)
    · exact h k hk
  · exact h

theorem foldl_settle_lawful {env : Fields} (henv : ∀ k ∈ env.keys, Small k) {fs : Fields}
    (hnodup : fs.keys.Nodup) (h : ∀ k ∈ fs.keys, Small k) :
    (env.foldl (settle name) fs).keys.Nodup ∧
      ∀ k ∈ (env.foldl (settle name) fs).keys, Small k := by
  induction env generalizing fs with
  | nil => exact ⟨hnodup, h⟩
  | cons kv env ih =>
    have hkv : Small kv.1 := henv kv.1 List.mem_cons_self
    exact ih (fun k hk => henv k (List.mem_cons_of_mem _ hk)) (nodup_settle hnodup name kv)
      (small_settle h hkv)

theorem nested_lawful (name : String) (env : List (String × String)) :
    (nested name (lowered env)).keys.Nodup ∧ ∀ k ∈ (nested name (lowered env)).keys, Small k := by
  have hlowered : ∀ k ∈ (lowered env).keys, Small k := by
    intro k hk
    rw [lowered, Fields.ofPairs, Fields.mem_keys_update, Fields.keys, Fields.keys,
      List.map_map] at hk
    rcases hk with hk | hk
    · contradiction
    · obtain ⟨v, -, rfl⟩ := List.mem_map.1 hk
      exact small_lower v.1
  exact foldl_settle_lawful hlowered List.nodup_nil (by simp [Fields.keys])

theorem sectionOf_eq {env : List (String × String)} (h : assigned? env name = none)
    (known : List String) :
    sectionOf name known (lowered env) =
      .ok (if nested name (lowered env) = [] then none
        else some (.record (nested name (lowered env)))) := by
  obtain ⟨hnodup, hsmall⟩ := nested_lawful name env
  have hunset : (lowered env).get? (stem ++ name) = none := by rw [get?_lowered, h]; rfl
  have hspelled := spellKeys_eq_self hnodup hsmall known
  rw [sectionOf, hunset]
  dsimp only
  cases hnested : nested name (lowered env) with
  | nil => rfl
  | cons kv fs =>
    rw [hnested] at hspelled
    simp [hspelled]

end Plateau.Environment
