import Plateau.Telemetry.Span

namespace Plateau.Telemetry

/-- A tree of blocks, told without its times. -/
inductive Outline where
  | node (name : String) (annotations : Fields) (blocks : List Outline)

namespace Outline

mutual

def names : Outline → List String
  | node name _ blocks => name :: namesBelow blocks

def namesBelow : List Outline → List String
  | [] => []
  | b :: bs => b.names ++ namesBelow bs

end

end Outline

namespace Tree

def Ended (t : Tree) : Prop := ∀ s ∈ t.spans, s.finish.isSome

mutual

def outline : Tree → Outline
  | node s children => .node s.name s.annotations (outlines children)

def outlines : List Tree → List Outline
  | [] => []
  | t :: ts => t.outline :: outlines ts

end

mutual

theorem names_spans : (t : Tree) → t.spans.map Span.name = t.outline.names
  | node s children => by
    rw [spans, List.map_cons, names_spansBelow children, outline, Outline.names]

theorem names_spansBelow :
    (ts : List Tree) → (spansBelow ts).map Span.name = Outline.namesBelow (outlines ts)
  | [] => rfl
  | t :: ts => by
    rw [spansBelow, List.map_append, names_spans t, names_spansBelow ts, outlines,
      Outline.namesBelow]

end

theorem ended_node {s : Span} {children : List Tree} (hs : s.finish.isSome)
    (hchildren : ∀ t ∈ children, t.Ended) : (node s children).Ended := by
  have hbelow : ∀ r ∈ spansBelow children, r.finish.isSome := by
    induction children with
    | nil =>
      intro r hr
      simp [spansBelow] at hr
    | cons t ts ih =>
      intro r hr
      rw [spansBelow, List.mem_append] at hr
      have ht : t.Ended := hchildren t List.mem_cons_self
      have hts : ∀ u ∈ ts, u.Ended := fun u hu => hchildren u (List.mem_cons_of_mem t hu)
      rcases hr with hr | hr
      · exact ht r hr
      · exact ih hts r hr
  intro r hr
  rw [spans, List.mem_cons] at hr
  rcases hr with hr | hr
  · rw [hr]
    exact hs
  · exact hbelow r hr

end Tree

namespace Forest

theorem lt_of_mem_children {f : Forest} {id child : Nat} (h : child ∈ f.children id) :
    id < child := by
  rw [children, List.mem_filter, Bool.and_eq_true, decide_eq_true_eq] at h
  exact h.2.1

/-- A new span is the last child of its parent. -/
theorem children_add (f : Forest) (name : String) (parent : Option Nat) (time : Float) (id : Nat) :
    (f.add name parent time).children id =
      f.children id ++ if id < f.length ∧ parent = some id then [f.length] else [] := by
  have hlength : (f.add name parent time).length = f.length + 1 := by simp [add]
  have hnew : (f.add name parent time)[f.length]? = some ⟨name, parent, time, none, []⟩ := by
    simp [add]
  rw [children, hlength, List.range_succ, List.filter_append, children]
  congr 1
  · apply List.filter_congr
    intro j hj
    rw [add, List.getElem?_append_left (List.mem_range.1 hj)]
  · by_cases h : id < f.length ∧ parent = some id
    · obtain ⟨hid, rfl⟩ := h
      simp [hnew, hid]
    · rw [if_neg h, List.filter_eq_nil_iff]
      intro j hj hchild
      rw [List.mem_singleton.1 hj, hnew] at hchild
      apply h
      simpa using hchild

theorem children_update (f : Forest) (i : Nat) {g : Span → Span}
    (hg : ∀ s, (g s).parent = s.parent) (id : Nat) :
    (f.update i g).children id = f.children id := by
  have hlength : (f.update i g).length = f.length := by simp [update]
  rw [children, children, hlength]
  apply List.filter_congr
  intro j _
  rw [update, List.getElem?_modify]
  cases f[j]? with
  | none => rfl
  | some s =>
    by_cases h : i = j
    · simp [h, hg]
    · simp [h]

theorem children_record (f : Forest) (i : Nat) (facts : Fields) (id : Nat) :
    (f.record i facts).children id = f.children id := by
  apply children_update
  intro s
  rfl

theorem children_finish (f : Forest) (i : Nat) (time : Float) (id : Nat) :
    (f.finish i time).children id = f.children id := by
  apply children_update
  intro s
  rfl

theorem getElem?_record (f : Forest) (i : Nat) (facts : Fields) (j : Nat) :
    (f.record i facts)[j]? = (f[j]?).map fun s =>
      if i = j then { s with annotations := s.annotations.update facts } else s := by
  rw [record, update, List.getElem?_modify]
  rfl

theorem getElem?_finish (f : Forest) (i : Nat) (time : Float) (j : Nat) :
    (f.finish i time)[j]? = (f[j]?).map fun s =>
      if i = j then { s with finish := some time } else s := by
  rw [finish, update, List.getElem?_modify]
  rfl

theorem length_record (f : Forest) (i : Nat) (facts : Fields) :
    (f.record i facts).length = f.length := by
  simp [record, update]

theorem record_nil (f : Forest) (i : Nat) : f.record i [] = f := by
  have hsame : (fun s : Span => { s with annotations := s.annotations.update [] }) = id := rfl
  rw [record, update, hsame, List.modify_id]

theorem record_record (f : Forest) (i : Nat) (facts later : Fields) :
    (f.record i facts).record i later = f.record i (facts ++ later) := by
  rw [record, record, record, update, update, update, List.modify_modify_eq]
  congr 1
  funext s
  simp [Fields.update]

/-- The spans with these numbers were ended and are the roots of trees with these outlines. -/
inductive Hangs (f : Forest) : List Nat → List Outline → Prop where
  | nil : Hangs f [] []
  | cons {id : Nat} {s : Span} {blocks : List Outline} {ids : List Nat} {rest : List Outline}
    (hspan : f[id]? = some s) (hended : s.finish.isSome)
    (hbelow : Hangs f (f.children id) blocks) (hrest : Hangs f ids rest) :
    Hangs f (id :: ids) (.node s.name s.annotations blocks :: rest)

theorem Hangs.append {f : Forest} {ids later : List Nat} {blocks rest : List Outline}
    (h : f.Hangs ids blocks) (hrest : f.Hangs later rest) :
    f.Hangs (ids ++ later) (blocks ++ rest) := by
  induction h with
  | nil => exact hrest
  | cons hspan hended hbelow _ _ ih => exact .cons hspan hended hbelow ih

/-- Trees stay as they are if nothing happens to their spans. -/
theorem Hangs.transport {f g : Forest} {low : Nat} {ids : List Nat} {blocks : List Outline}
    (h : f.Hangs ids blocks) (hids : ∀ id ∈ ids, low ≤ id)
    (hspan : ∀ id, low ≤ id → id < f.length → g[id]? = f[id]?)
    (hchildren : ∀ id, low ≤ id → id < f.length → g.children id = f.children id) :
    g.Hangs ids blocks := by
  induction h with
  | nil => exact .nil
  | @cons id s blocks ids rest hs hended hbelow hrest ihbelow ihrest =>
    have hlow : low ≤ id := hids id List.mem_cons_self
    have hlt : id < f.length := (List.getElem?_eq_some_iff.1 hs).1
    have hkept : g[id]? = some s := (hspan id hlow hlt).trans hs
    have hlater : ∀ child ∈ f.children id, low ≤ child := by
      intro child hchild
      have hpast : id < child := lt_of_mem_children hchild
      omega
    have htree : g.Hangs (g.children id) blocks := by
      rw [hchildren id hlow hlt]
      exact ihbelow hlater
    have hids' : ∀ other ∈ ids, low ≤ other := fun other h => hids other (List.mem_cons_of_mem id h)
    exact .cons hkept hended htree (ihrest hids')

theorem treeTo_succ (f : Forest) (depth id : Nat) :
    f.treeTo (depth + 1) id =
      (f[id]?).map fun s => .node s ((f.children id).filterMap (f.treeTo depth)) := rfl

theorem Hangs.outlines_treeTo {f : Forest} {ids : List Nat} {blocks : List Outline}
    (h : f.Hangs ids blocks) {depth : Nat} (hdepth : ∀ id ∈ ids, f.length ≤ id + depth) :
    Tree.outlines (ids.filterMap (f.treeTo depth)) = blocks ∧
      ∀ t ∈ ids.filterMap (f.treeTo depth), t.Ended := by
  induction h generalizing depth with
  | nil => simp [Tree.outlines]
  | @cons id s blocks ids rest hs hended hbelow hrest ihbelow ihrest =>
    have hlt : id < f.length := (List.getElem?_eq_some_iff.1 hs).1
    have hdeep : f.length ≤ id + depth := hdepth id List.mem_cons_self
    have hdeep' : ∀ other ∈ ids, f.length ≤ other + depth :=
      fun other h => hdepth other (List.mem_cons_of_mem id h)
    obtain ⟨houtlines, hall⟩ := ihrest hdeep'
    cases depth with
    | zero => omega
    | succ depth =>
      have hlater : ∀ child ∈ f.children id, f.length ≤ child + depth := by
        intro child hchild
        have hpast : id < child := lt_of_mem_children hchild
        omega
      obtain ⟨hinner, hdone⟩ := ihbelow hlater
      have htree : f.treeTo (depth + 1) id =
          some (.node s ((f.children id).filterMap (f.treeTo depth))) := by
        rw [treeTo_succ, hs]
        rfl
      rw [List.filterMap_cons_some htree]
      constructor
      · rw [Tree.outlines, Tree.outline, hinner, houtlines]
      · intro t ht
        rcases List.mem_cons.1 ht with ht | ht
        · rw [ht]
          exact Tree.ended_node hended hdone
        · exact hall t ht

theorem Hangs.exists_tree {f : Forest} {id : Nat} {o : Outline} (h : f.Hangs [id] [o]) :
    ∃ t, f.tree id = some t ∧ t.outline = o ∧ t.Ended := by
  have hdepth : ∀ j ∈ [id], f.length ≤ j + f.length := by
    intro j _
    omega
  obtain ⟨houtline, hended⟩ := h.outlines_treeTo hdepth
  cases htree : f.treeTo f.length id with
  | none =>
    rw [List.filterMap_cons_none htree, List.filterMap_nil, Tree.outlines] at houtline
    contradiction
  | some t =>
    rw [List.filterMap_cons_some htree, List.filterMap_nil] at houtline hended
    rw [Tree.outlines, Tree.outlines] at houtline
    exact ⟨t, htree, (List.cons.inj houtline).1, hended t List.mem_cons_self⟩

/-- What the forest `f` has grown to while span `cur` was current: facts were recorded on it, trees
of blocks were hung below it, and the spans that were there before are otherwise as they were. -/
structure Grows (cur : Nat) (f g : Forest) (facts : Fields) (blocks : List Outline) : Prop where
  kept : ∀ id < f.length, g[id]? = (f.record cur facts)[id]?
  others : ∀ id < f.length, id ≠ cur → g.children id = f.children id
  hung : ∃ ids, g.children cur = f.children cur ++ ids ∧ (∀ id ∈ ids, f.length ≤ id) ∧
    g.Hangs ids blocks

namespace Grows

variable {cur : Nat} {f g h : Forest} {facts later : Fields} {blocks rest : List Outline}

theorem refl (cur : Nat) (f : Forest) : Grows cur f f [] [] where
  kept id _ := by rw [record_nil]
  others id _ _ := rfl
  hung := ⟨[], (List.append_nil _).symm, by simp, .nil⟩

theorem record (cur : Nat) (f : Forest) (facts : Fields) :
    Grows cur f (f.record cur facts) facts [] where
  kept id _ := rfl
  others id _ _ := children_record f cur facts id
  hung := by
    refine ⟨[], ?_, by simp, .nil⟩
    rw [children_record, List.append_nil]

theorem length_le (hg : Grows cur f g facts blocks) : f.length ≤ g.length := by
  rcases Nat.lt_or_ge g.length f.length with hin | hle
  · have hkept := hg.kept g.length hin
    rw [List.getElem?_eq_none (Nat.le_refl _)] at hkept
    have hout : (f.record cur facts).length ≤ g.length := List.getElem?_eq_none_iff.1 hkept.symm
    rwa [length_record] at hout
  · exact hle

theorem getElem?_of_ne (hg : Grows cur f g facts blocks) {id : Nat} (hid : id < f.length)
    (hne : id ≠ cur) : g[id]? = f[id]? := by
  rw [hg.kept id hid, getElem?_record]
  simp [hne.symm]

theorem trans (hcur : cur < f.length) (hg : Grows cur f g facts blocks)
    (hh : Grows cur g h later rest) : Grows cur f h (facts ++ later) (blocks ++ rest) where
  kept id hid := by
    have hlt : id < g.length := Nat.lt_of_lt_of_le hid hg.length_le
    rw [hh.kept id hlt, getElem?_record, hg.kept id hid, ← getElem?_record, record_record]
  others id hid hne := by
    have hlt : id < g.length := Nat.lt_of_lt_of_le hid hg.length_le
    rw [hh.others id hlt hne, hg.others id hid hne]
  hung := by
    obtain ⟨ids, hids, hlow, hhangs⟩ := hg.hung
    obtain ⟨more, hmore, hlate, hafter⟩ := hh.hung
    have hlength : f.length ≤ g.length := hg.length_le
    -- the trees of `g` stand above the current span, where nothing changes any more
    have hstill : h.Hangs ids blocks := by
      apply hhangs.transport hlow
      · intro id hid hlt
        have hne : id ≠ cur := by omega
        exact hh.getElem?_of_ne hlt hne
      · intro id hid hlt
        have hne : id ≠ cur := by omega
        exact hh.others id hlt hne
    refine ⟨ids ++ more, ?_, ?_, hstill.append hafter⟩
    · rw [hmore, hids, List.append_assoc]
    · intro id hid
      rcases List.mem_append.1 hid with hid | hid
      · exact hlow id hid
      · have hpast : g.length ≤ id := hlate id hid
        omega

section Closed

variable {name : String} {parent : Option Nat} {start finish : Float}

/-- What happens while a new span is current, and then its end, are of no account for the spans
before it, but for one more child of its parent. -/
theorem closed_before (hg : Grows f.length (f.add name parent start) g facts blocks) {id : Nat}
    (hid : id < f.length) :
    (g.finish f.length finish)[id]? = f[id]? ∧
      (g.finish f.length finish).children id =
        f.children id ++ if parent = some id then [f.length] else [] := by
  have hne : id ≠ f.length := by omega
  have hlt : id < (f.add name parent start).length := by
    simp only [add, List.length_append, List.length_singleton]
    omega
  constructor
  · rw [getElem?_finish, hg.getElem?_of_ne hlt hne, add, List.getElem?_append_left hid]
    simp [hne.symm]
  · rw [children_finish, hg.others id hlt hne, children_add]
    simp [hid]

/-- A span that was opened and ended is the root of a tree of what happened while it was
current. -/
theorem closed_hangs (hg : Grows f.length (f.add name parent start) g facts blocks) :
    (g.finish f.length finish).Hangs [f.length] [.node name (.ofPairs facts) blocks] := by
  have hlength : (f.add name parent start).length = f.length + 1 := by simp [add]
  obtain ⟨ids, hids, hlow, hhangs⟩ := hg.hung
  rw [hlength] at hlow
  have hnone : (f.add name parent start).children f.length = [] := by
    rw [children_add, if_neg (by simp), List.append_nil, List.eq_nil_iff_forall_not_mem]
    intro child hchild
    have hpast : f.length < child := lt_of_mem_children hchild
    rw [children, List.mem_filter, List.mem_range] at hchild
    omega
  have hspan : g[f.length]? = some ⟨name, parent, start, none, .ofPairs facts⟩ := by
    rw [hg.kept f.length (by omega), getElem?_record]
    simp [add, Fields.ofPairs]
  have hended : (g.finish f.length finish)[f.length]? =
      some ⟨name, parent, start, some finish, .ofPairs facts⟩ := by
    rw [getElem?_finish, hspan]
    simp
  have hbelow : (g.finish f.length finish).Hangs
      ((g.finish f.length finish).children f.length) blocks := by
    rw [children_finish, hids, hnone, List.nil_append]
    apply hhangs.transport hlow
    · intro id hid _
      have hne : f.length ≠ id := by omega
      rw [getElem?_finish]
      simp [hne]
    · intro id _ _
      rw [children_finish]
  exact .cons hended rfl hbelow .nil

theorem block (hcur : cur < f.length)
    (hg : Grows f.length (f.add name (some cur) start) g facts blocks) :
    Grows cur f (g.finish f.length finish) [] [.node name (.ofPairs facts) blocks] where
  kept id hid := by
    rw [record_nil]
    exact (closed_before hg hid).1
  others id hid hne := by
    rw [(closed_before hg hid).2]
    simp [hne.symm]
  hung := by
    refine ⟨[f.length], ?_, by simp, closed_hangs hg⟩
    rw [(closed_before hg hcur).2, if_pos rfl]

theorem call (hcur : cur < f.length) (hg : Grows f.length (f.add name none start) g facts blocks) :
    Grows cur f (g.finish f.length finish) [] [] where
  kept id hid := by
    rw [record_nil]
    exact (closed_before hg hid).1
  others id hid _ := by
    rw [(closed_before hg hid).2]
    simp
  hung := by
    refine ⟨[], ?_, by simp, .nil⟩
    rw [(closed_before hg hcur).2, if_neg (by simp)]

end Closed

end Grows

end Forest

end Plateau.Telemetry
