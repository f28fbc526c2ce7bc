import Mathlib.Data.List.Nodup
import Mathlib.Logic.Relation
import Plateau.Proofs.Data.Fields
import Plateau.Proofs.Telemetry.Forest

namespace Plateau.Telemetry

namespace Forest

variable {f g : Forest} {id j p : Nat}

def IsParent (f : Forest) (j p : Nat) : Prop := ∃ s, f[j]? = some s ∧ s.parent = some p

/-- Every parent was there before its children. -/
def Rooted (f : Forest) : Prop := ∀ j p, f.IsParent j p → p < j

theorem rightUnique_isParent (f : Forest) : Relator.RightUnique f.IsParent := by
  rintro j p q ⟨s, hs, hp⟩ ⟨r, hr, hq⟩
  obtain rfl := Option.some.inj (hs.symm.trans hr)
  exact Option.some.inj (hp.symm.trans hq)

theorem mem_children (hf : f.Rooted) {c : Nat} : c ∈ f.children id ↔ f.IsParent c id := by
  rw [children, List.mem_filter, List.mem_range, Bool.and_eq_true, decide_eq_true_eq,
    Option.any_eq_true]
  constructor
  · rintro ⟨-, -, s, hs, hparent⟩
    exact ⟨s, hs, eq_of_beq hparent⟩
  · rintro ⟨s, hs, hparent⟩
    refine ⟨(List.getElem?_eq_some_iff.1 hs).1, hf c id ⟨s, hs, hparent⟩, s, hs, ?_⟩
    simp [hparent]

theorem lt_length_of_mem_children {c : Nat} (h : c ∈ f.children id) : c < f.length := by
  rw [children, List.mem_filter] at h
  exact List.mem_range.1 h.1

theorem pairwise_children (f : Forest) (id : Nat) : (f.children id).Pairwise (· < ·) :=
  List.pairwise_lt_range.sublist List.filter_sublist

theorem induct_children (f : Forest) {motive : Nat → Prop}
    (h : ∀ id, (∀ c ∈ f.children id, motive c) → motive id) (id : Nat) : motive id :=
  h id fun c hc =>
    have _ : id < c := lt_of_mem_children hc
    have _ : c < f.length := lt_length_of_mem_children hc
    induct_children f h c
termination_by f.length - id

/-- The spans below a span, depth first: each child, and before the next child what is below it. -/
def below (f : Forest) (id : Nat) : List Nat :=
  (f.children id).attach.flatMap fun ⟨c, _⟩ => c :: f.below c
termination_by f.length - id
decreasing_by
  rename_i hc
  have hpast : id < c := lt_of_mem_children hc
  have hin : c < f.length := lt_length_of_mem_children hc
  omega

theorem below_eq (f : Forest) (id : Nat) :
    f.below id = (f.children id).flatMap fun c => c :: f.below c := by
  rw [below]
  simp

theorem mem_below_iff : j ∈ f.below id ↔ ∃ c ∈ f.children id, j = c ∨ j ∈ f.below c := by
  rw [below_eq]
  simp [List.mem_flatMap]

theorem lt_of_mem_below (h : j ∈ f.below id) : id < j := by
  induction id using induct_children f with
  | h id ih =>
    obtain ⟨c, hc, rfl | hj⟩ := mem_below_iff.1 h
    · exact lt_of_mem_children hc
    · exact Nat.lt_trans (lt_of_mem_children hc) (ih c hc hj)

theorem lt_length_of_mem_below (h : j ∈ f.below id) : j < f.length := by
  induction id using induct_children f with
  | h id ih =>
    obtain ⟨c, hc, rfl | hj⟩ := mem_below_iff.1 h
    · exact lt_length_of_mem_children hc
    · exact ih c hc hj

/-- Below a span are the spans whose chain of parents comes to it. -/
theorem mem_below (hf : f.Rooted) : j ∈ f.below id ↔ Relation.TransGen f.IsParent j id := by
  constructor
  · intro h
    induction id using induct_children f with
    | h id ih =>
      obtain ⟨c, hc, rfl | hj⟩ := mem_below_iff.1 h
      · exact .single ((mem_children hf).1 hc)
      · exact (ih c hc hj).tail ((mem_children hf).1 hc)
  · intro h
    induction h with
    | single hj => exact mem_below_iff.2 ⟨j, (mem_children hf).2 hj, .inl rfl⟩
    | tail _ hc ih => exact mem_below_iff.2 ⟨_, (mem_children hf).2 hc, .inr ih⟩

theorem le_of_chain (hf : f.Rooted) (h : Relation.ReflTransGen f.IsParent j p) : p ≤ j := by
  induction h with
  | refl => exact Nat.le_refl j
  | tail _ hparent ih => exact Nat.le_trans (Nat.le_of_lt (hf _ _ hparent)) ih

theorem eq_of_chain (hf : f.Rooted) {c d : Nat} (hc : f.IsParent c id) (hd : f.IsParent d id)
    (h : Relation.ReflTransGen f.IsParent c d) : c = d := by
  rcases h.cases_head with heq | ⟨p, hp, hchain⟩
  · exact heq
  · obtain rfl := rightUnique_isParent f hc hp
    exact absurd (hf d id hd) (Nat.not_lt.2 (le_of_chain hf hchain))

theorem disjoint_below (hf : f.Rooted) {c d : Nat} (hc : f.IsParent c id) (hd : f.IsParent d id)
    (hne : c ≠ d) : (c :: f.below c).Disjoint (d :: f.below d) := by
  have hchain {j e : Nat} (hj : j ∈ e :: f.below e) : Relation.ReflTransGen f.IsParent j e := by
    rcases List.mem_cons.1 hj with rfl | hj
    · exact .refl
    · exact ((mem_below hf).1 hj).to_reflTransGen
  intro j hjc hjd
  rcases (hchain hjc).total_of_right_unique (rightUnique_isParent f) (hchain hjd) with h | h
  · exact hne (eq_of_chain hf hc hd h)
  · exact hne (eq_of_chain hf hd hc h).symm

theorem nodup_below (hf : f.Rooted) (id : Nat) : (f.below id).Nodup := by
  induction id using induct_children f with
  | h id ih =>
    rw [below_eq, List.nodup_flatMap]
    constructor
    · intro c hc
      exact List.nodup_cons.2 ⟨fun hmem => Nat.lt_irrefl c (lt_of_mem_below hmem), ih c hc⟩
    · refine (pairwise_children f id).imp_of_mem ?_
      intro c d hc hd hlt
      exact disjoint_below hf ((mem_children hf).1 hc) ((mem_children hf).1 hd) (Nat.ne_of_lt hlt)

theorem treeTo_eq_none (h : f.length ≤ id) (depth : Nat) : f.treeTo depth id = none := by
  cases depth with
  | zero =>
    change (f[id]?).map _ = none
    rw [List.getElem?_eq_none h, Option.map_none]
  | succ depth => rw [treeTo_succ, List.getElem?_eq_none h, Option.map_none]

theorem treeTo_eq {depth depth' : Nat} (h : f.length ≤ id + depth) (h' : f.length ≤ id + depth') :
    f.treeTo depth id = f.treeTo depth' id := by
  induction depth generalizing id depth' with
  | zero => rw [treeTo_eq_none (by omega), treeTo_eq_none (by omega)]
  | succ depth ih =>
    cases depth' with
    | zero => rw [treeTo_eq_none (by omega), treeTo_eq_none (by omega)]
    | succ depth' =>
      have hsame : (f.children id).filterMap (f.treeTo depth) =
          (f.children id).filterMap (f.treeTo depth') := by
        apply List.filterMap_congr
        intro c hc
        have hpast : id < c := lt_of_mem_children hc
        exact ih (by omega) (by omega)
      rw [treeTo_succ, treeTo_succ, hsame]

theorem tree_eq (f : Forest) (id : Nat) :
    f.tree id = (f[id]?).map fun s => .node s ((f.children id).filterMap f.tree) := by
  have hdeeper : f.tree id = f.treeTo (f.length + 1) id := treeTo_eq (by omega) (by omega)
  rw [hdeeper, treeTo_succ]
  rfl

theorem exists_tree {s : Span} (hs : f[id]? = some s) :
    f.tree id = some (.node s ((f.children id).filterMap f.tree)) := by
  rw [tree_eq, hs]
  rfl

theorem descendants_tree {t : Tree} (ht : f.tree id = some t) :
    t.descendants.map some = (f.below id).map (f[·]?) := by
  induction id using induct_children f generalizing t with
  | h id ih =>
    obtain ⟨s, -, rfl⟩ := Option.map_eq_some_iff.1 ((tree_eq f id).symm.trans ht)
    rw [below_eq, Tree.descendants]
    have hbelow (ids : List Nat) (hids : ids ⊆ f.children id) :
        (Tree.spansBelow (ids.filterMap f.tree)).map some =
          (ids.flatMap fun c => c :: f.below c).map (f[·]?) := by
      induction ids with
      | nil => rfl
      | cons c ids ihids =>
        obtain ⟨hc, hrest⟩ := List.cons_subset.1 hids
        have hspan := List.getElem?_eq_getElem (lt_length_of_mem_children hc)
        have htree := exists_tree hspan
        have hinner := ih c hc htree
        rw [List.filterMap_cons_some htree, Tree.spansBelow, Tree.spans, List.flatMap_cons]
        rw [Tree.descendants] at hinner
        simp [hinner, ihids hrest, hspan]
    exact hbelow _ (List.Subset.refl _)

theorem tree_congr (h : ∀ j ∈ id :: f.below id, g[j]? = f[j]? ∧ g.children j = f.children j) :
    g.tree id = f.tree id ∧ g.below id = f.below id := by
  induction id using induct_children f with
  | h id ih =>
    obtain ⟨hspan, hchildren⟩ := h id List.mem_cons_self
    have hinner (c : Nat) (hc : c ∈ f.children id) :
        g.tree c = f.tree c ∧ g.below c = f.below c := by
      refine ih c hc fun j hj => h j (List.mem_cons_of_mem id ?_)
      exact mem_below_iff.2 ⟨c, hc, List.mem_cons.1 hj⟩
    have htrees : (f.children id).filterMap g.tree = (f.children id).filterMap f.tree :=
      List.filterMap_congr fun c hc => (hinner c hc).1
    have hbelow : ((f.children id).flatMap fun c => c :: g.below c) =
        (f.children id).flatMap fun c => c :: f.below c :=
      List.flatMap_congr fun c hc => by rw [(hinner c hc).2]
    constructor
    · rw [tree_eq, tree_eq f, hspan, hchildren, htrees]
    · rw [below_eq, below_eq f, hchildren, hbelow]

end Forest

mutual

def namesIn : Value → List String
  | .record fs => namesInFields fs
  | _ => []

def namesInFields : List (String × Value) → List String
  | [] => []
  | (key, .text name) :: fs =>
    if key = "name" then name :: namesInFields fs else namesInFields fs
  | (key, .list vs) :: fs =>
    if key = "children" then namesInAll vs ++ namesInFields fs else namesInFields fs
  | _ :: fs => namesInFields fs

def namesInAll : List Value → List String
  | [] => []
  | v :: vs => namesIn v ++ namesInAll vs

end

namespace Tree

mutual

theorem namesIn_toValue : (t : Tree) → namesIn t.toValue = t.spans.map Span.name
  | node s children => by
    have hbelow := namesInAll_toValues children
    rw [toValue, namesIn, spans, List.map_cons, ← hbelow]
    cases hannotations : s.annotations.isEmpty <;> cases children <;>
      simp [namesInFields, namesInAll, toValues]

theorem namesInAll_toValues :
    (ts : List Tree) → namesInAll (toValues ts) = (spansBelow ts).map Span.name
  | [] => by rw [toValues, namesInAll, spansBelow, List.map_nil]
  | t :: ts => by
    rw [toValues, namesInAll, spansBelow, List.map_append, namesIn_toValue t,
      namesInAll_toValues ts]

end

theorem toValues_eq_map (ts : List Tree) : toValues ts = ts.map toValue := by
  induction ts with
  | nil => rw [toValues, List.map_nil]
  | cons t ts ih => rw [toValues, ih, List.map_cons]

theorem exists_toValue (s : Span) (children : List Tree) :
    ∃ fs : Fields, (node s children).toValue = .record fs ∧
      Fields.get? "annotations" fs =
        (if s.annotations.isEmpty then none else some (.record s.annotations)) ∧
      Fields.get? "children" fs =
        if children.isEmpty then none else some (.list (children.map toValue)) := by
  rw [toValue, toValues_eq_map]
  refine ⟨_, rfl, ?_, ?_⟩
  all_goals cases s.annotations.isEmpty <;> cases children.isEmpty <;> rfl

end Tree

/-- What is done to spans. -/
inductive Operation where
  | create (name : String) (parent : Option Nat) (time : Float)
  | record (id : Nat) (facts : Fields)
  | finish (id : Nat) (time : Float)

namespace Operation

def apply : Operation → Forest → Forest
  | create name parent time, f => f.add name parent time
  | record id facts, f => f.record id facts
  | finish id time, f => f.finish id time

/-- The span to which it is done, which is the parent if a span is created. -/
def target : Operation → Option Nat
  | create _ parent _ => parent
  | record id _ => some id
  | finish id _ => some id

def Fits (o : Operation) (f : Forest) : Prop := ∀ id ∈ o.target, id < f.length

/-- It is done neither to the span nor to one below it. -/
def Outside (o : Operation) (f : Forest) (id : Nat) : Prop :=
  ∀ j ∈ o.target, j ≠ id ∧ j ∉ f.below id

theorem apply_elsewhere {o : Operation} {f : Forest} {j : Nat} (hj : j < f.length)
    (hne : o.target ≠ some j) :
    (o.apply f)[j]? = f[j]? ∧ (o.apply f).children j = f.children j := by
  cases o with
  | create name parent time =>
    have hparent : ¬(j < f.length ∧ parent = some j) := fun h => hne h.2
    rw [apply, Forest.children_add, if_neg hparent, List.append_nil]
    exact ⟨List.getElem?_append_left hj, rfl⟩
  | record id facts =>
    have hid : id ≠ j := by simpa [target] using hne
    rw [apply, Forest.children_record, Forest.getElem?_record]
    simp [hid]
  | finish id time =>
    have hid : id ≠ j := by simpa [target] using hne
    rw [apply, Forest.children_finish, Forest.getElem?_finish]
    simp [hid]

theorem tree_of_outside {o : Operation} {f : Forest} {id : Nat} (hid : id < f.length)
    (h : o.Outside f id) :
    (o.apply f).tree id = f.tree id ∧ (o.apply f).below id = f.below id := by
  apply Forest.tree_congr
  intro j hj
  rcases List.mem_cons.1 hj with rfl | hj
  · exact apply_elsewhere hid fun htarget => (h j htarget).1 rfl
  · exact apply_elsewhere (Forest.lt_length_of_mem_below hj) fun htarget => (h j htarget).2 hj

end Operation

def created (ops : List Operation) : List (String × Option Nat) :=
  ops.filterMap fun
    | .create name parent _ => some (name, parent)
    | _ => none

def recorded (ops : List Operation) (id : Nat) : Fields :=
  ops.flatMap fun
    | .record j facts => if j = id then facts else []
    | _ => []

/-- The operations, each on spans that are there, lead from no spans to the forest. -/
inductive Grown : List Operation → Forest → Prop where
  | nil : Grown [] []
  | snoc {ops : List Operation} {f : Forest} {o : Operation} (h : Grown ops f) (hfits : o.Fits f) :
    Grown (ops ++ [o]) (o.apply f)

namespace Forest

theorem map_update {α : Type} (f : Forest) (i : Nat) {g : Span → Span} {h : Span → α}
    (hg : ∀ s, h (g s) = h s) : (f.update i g).map h = f.map h := by
  apply List.ext_getElem?
  intro j
  rw [List.getElem?_map, List.getElem?_map, update, List.getElem?_modify]
  cases f[j]? with
  | none => rfl
  | some s => by_cases hj : i = j <;> simp [hj, hg]

end Forest

namespace Grown

variable {ops : List Operation} {f : Forest}

theorem created_eq (h : Grown ops f) : f.map (fun s => (s.name, s.parent)) = created ops := by
  induction h with
  | nil => rfl
  | @snoc ops f o _ _ ih =>
    rw [created, List.filterMap_append, ← created, ← ih]
    cases o with
    | create name parent time => simp [Operation.apply, Forest.add]
    | record id facts =>
      refine (Forest.map_update f id fun _ => ?_).trans (List.append_nil _).symm
      rfl
    | finish id time =>
      refine (Forest.map_update f id fun _ => ?_).trans (List.append_nil _).symm
      rfl

theorem isParent_iff (h : Grown ops f) {j p : Nat} :
    f.IsParent j p ↔ ∃ name, (created ops)[j]? = some (name, some p) := by
  rw [← h.created_eq, List.getElem?_map]
  constructor
  · rintro ⟨s, hs, hparent⟩
    exact ⟨s.name, by rw [hs, ← hparent]; rfl⟩
  · rintro ⟨name, hj⟩
    obtain ⟨s, hs, hpair⟩ := Option.map_eq_some_iff.1 hj
    exact ⟨s, hs, (Prod.mk.inj hpair).2⟩

theorem length_created (h : Grown ops f) : (created ops).length = f.length := by
  rw [← h.created_eq, List.length_map]

theorem rooted (h : Grown ops f) : f.Rooted := by
  induction h with
  | nil =>
    rintro j p ⟨s, hs, -⟩
    contradiction
  | @snoc ops f o h hfits ih =>
    intro j p hj
    obtain ⟨name, hj⟩ := (h.snoc hfits).isParent_iff.1 hj
    rw [created, List.filterMap_append, ← created] at hj
    rcases Nat.lt_or_ge j (created ops).length with hold | hnew
    · rw [List.getElem?_append_left hold] at hj
      exact ih j p (h.isParent_iff.2 ⟨name, hj⟩)
    · rw [List.getElem?_append_right hnew] at hj
      cases o with
      | create name' parent time =>
        obtain ⟨-, -, rfl⟩ : name' = name ∧ j - (created ops).length = 0 ∧ parent = some p := by
          simpa [List.getElem?_eq_some_iff] using hj
        have hp : p < f.length := hfits p rfl
        rw [h.length_created] at hnew
        exact Nat.lt_of_lt_of_le hp hnew
      | record => simp at hj
      | finish => simp at hj

theorem annotations_eq (h : Grown ops f) (id : Nat) :
    ((f[id]?).map Span.annotations).getD [] = .ofPairs (recorded ops id) := by
  induction h with
  | nil => rfl
  | @snoc ops f o _ hfits ih =>
    rw [recorded, List.flatMap_append, ← recorded, Fields.ofPairs_append, ← ih]
    cases o with
    | create name parent time =>
      rw [Operation.apply, Forest.add, List.getElem?_append]
      split
      · rfl
      · rename_i hnew
        rw [List.getElem?_eq_none (Nat.not_lt.1 hnew)]
        cases id - f.length <;> rfl
    | record j facts =>
      have hin : j < f.length := hfits j rfl
      rw [Operation.apply, Forest.getElem?_record]
      by_cases hj : j = id
      · subst hj
        simp [List.getElem?_eq_getElem hin]
      · simp [hj]
    | finish j time =>
      rw [Operation.apply, Forest.getElem?_finish]
      cases f[id]? with
      | none => rfl
      | some s => by_cases hj : j = id <;> simp [hj]

end Grown

def lastRecorded (key : String) (facts : Fields) : Option Value :=
  (facts.reverse.find? fun fact => fact.1 == key).map (·.2)

/-- What a tree tells of a span `s`, of the spans below it and of what was recorded. -/
structure Faithful (f : Forest) (id : Nat) (facts : Fields) (s : Span) (t : Tree) : Prop where
  descendants : t.descendants.map some = (f.below id).map (f[·]?)
  names : namesIn t.toValue = s.name :: t.descendants.map Span.name
  document : ∃ fs : Fields, t.toValue = .record fs ∧
    (f.children id = [] → fs.get? "children" = none) ∧
    (f.children id ≠ [] → fs.get? "children" =
      some (.list ((f.children id).filterMap fun c => (f.tree c).map Tree.toValue))) ∧
    (facts = [] → fs.get? "annotations" = none) ∧
    (facts ≠ [] → ∃ annotations : Fields, fs.get? "annotations" = some (.record annotations) ∧
      annotations.keys.Nodup ∧ ∀ key, annotations.get? key = lastRecorded key facts)

namespace Grown

variable {ops : List Operation} {f : Forest} {id : Nat} {s : Span}

theorem faithful (h : Grown ops f) (hs : f[id]? = some s) :
    Faithful f id (recorded ops id) s (.node s ((f.children id).filterMap f.tree)) where
  descendants := Forest.descendants_tree (Forest.exists_tree hs)
  names := Tree.namesIn_toValue _
  document := by
    obtain ⟨fs, hfs, hannotations, hchildren⟩ :=
      Tree.exists_toValue s ((f.children id).filterMap f.tree)
    have hfacts : s.annotations = .ofPairs (recorded ops id) := by
      have hheld := h.annotations_eq id
      rwa [hs] at hheld
    have hkids : (f.children id).filterMap f.tree = [] ↔ f.children id = [] := by
      rw [List.filterMap_eq_nil_iff, List.eq_nil_iff_forall_not_mem]
      refine forall₂_congr fun c hc => iff_of_false ?_ (fun h => h)
      have hspan := List.getElem?_eq_getElem (Forest.lt_length_of_mem_children hc)
      simp [Forest.exists_tree hspan]
    rw [hfacts] at hannotations
    refine ⟨fs, hfs, ?_, ?_, ?_, ?_⟩
    · intro hnone
      rw [hchildren, hkids.2 hnone]
      rfl
    · intro hsome
      rw [hchildren, if_neg (by simpa using fun h => hsome (hkids.1 h)), List.map_filterMap]
    · intro hnone
      rw [hannotations, hnone]
      rfl
    · intro hsome
      refine ⟨_, ?_, Fields.nodup_keys_ofPairs _, fun key => Fields.get?_ofPairs key _⟩
      have hfull : ¬(Fields.ofPairs (recorded ops id)).isEmpty := by
        rwa [List.isEmpty_iff, Fields.ofPairs_eq_nil_iff]
      rw [hannotations, if_neg hfull]

/-- However spans are created, annotated and ended: children stand in the order of their creation,
a new one after all others, and below each span are the spans whose chain of parents comes to it,
each once and depth first.
The tree of a span ends there; its descendants and its document are of these spans and of what was
recorded last, and nothing that is done outside changes them. -/
theorem tree_of_span (h : Grown ops f) (hs : f[id]? = some s) :
    f.map (fun s => (s.name, s.parent)) = created ops ∧
    (∀ p, (f.children p).Pairwise (· < ·) ∧ ∀ c, c ∈ f.children p ↔ f.IsParent c p) ∧
    (∀ name parent time, ∀ p < f.length, (f.add name parent time).children p =
      f.children p ++ if parent = some p then [f.length] else []) ∧
    (f.below id).Nodup ∧ (∀ j, j ∈ f.below id ↔ Relation.TransGen f.IsParent j id) ∧
    (∀ p, f.below p = (f.children p).flatMap fun c => c :: f.below c) ∧
    ∃ t, f.tree id = some t ∧ Faithful f id (recorded ops id) s t ∧
      ∀ o : Operation, o.Outside f id →
        (o.apply f).tree id = some t ∧ (o.apply f).below id = f.below id := by
  have hf : f.Rooted := h.rooted
  have htree := Forest.exists_tree hs
  refine ⟨h.created_eq, ?_, ?_, f.nodup_below hf id, fun j => Forest.mem_below hf, f.below_eq, _,
    htree, h.faithful hs, ?_⟩
  · exact fun p => ⟨f.pairwise_children p, fun c => Forest.mem_children hf⟩
  · intro name parent time p hp
    simp [Forest.children_add, hp]
  · intro o ho
    obtain ⟨hsame, hbelow⟩ :=
      Operation.tree_of_outside (List.getElem?_eq_some_iff.1 hs).1 ho
    exact ⟨hsame.trans htree, hbelow⟩

/-- A span with two children, of which the elder has a child; a fact was recorded twice. -/
def family : List Operation :=
  [.create "a" none 0, .create "b" (some 0) 1, .create "c" (some 1) 2, .create "d" (some 0) 3,
    .record 0 [("k", .int 1)], .record 0 [("k", .int 2)], .finish 1 4]

def familyForest : Forest := family.foldl (fun f o => o.apply f) []

/-- In the tree of the first span the grandchild comes before the younger child, the fact is the
last one, and another root makes no difference. -/
theorem tree_of_span_family :
    Grown family familyForest ∧ ∃ t, familyForest.tree 0 = some t ∧
      t.descendants.map Span.name = ["b", "c", "d"] ∧ namesIn t.toValue = ["a", "b", "c", "d"] ∧
      (∃ fs annotations : Fields, t.toValue = .record fs ∧
        fs.get? "annotations" = some (.record annotations) ∧
        annotations.get? "k" = some (.int 2)) ∧
      ((Operation.create "e" none 5).apply familyForest).tree 0 = some t := by
  have hgrown : Grown family familyForest := by
    refine ((((((Grown.nil.snoc ?_).snoc ?_).snoc ?_).snoc ?_).snoc ?_).snoc ?_).snoc ?_
    all_goals simp [Operation.Fits, Operation.target, Operation.apply, Forest.add, Forest.record,
      Forest.update]
  have hroot : familyForest[0]? = some ⟨"a", none, 0, none, [("k", .int 2)]⟩ := rfl
  obtain ⟨-, -, -, -, -, -, t, ht, hfaithful, houtside⟩ := hgrown.tree_of_span hroot
  have hnames : t.descendants.map Span.name = ["b", "c", "d"] := by
    obtain rfl := Option.some.inj ht
    rfl
  obtain ⟨fs, hfs, -, -, -, hannotations⟩ := hfaithful.document
  have hrecorded : recorded family 0 = [("k", .int 1), ("k", .int 2)] := rfl
  obtain ⟨annotations, hsome, -, hlast⟩ := hannotations (by simp [hrecorded])
  refine ⟨hgrown, t, ht, hnames, ?_, ⟨fs, annotations, hfs, hsome, ?_⟩, ?_⟩
  · rw [hfaithful.names, hnames]
  · rw [hlast, hrecorded]
    rfl
  · exact (houtside _ (by simp [Operation.Outside, Operation.target])).1

end Grown

end Plateau.Telemetry
