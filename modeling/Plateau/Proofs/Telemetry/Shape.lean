import Plateau.Telemetry.Span

namespace Plateau.Telemetry

inductive Shape where
  | node (children : List Shape)

namespace Tree

mutual

def shape : Tree → Shape
  | node _ children => .node (shapes children)

def shapes : List Tree → List Shape
  | [] => []
  | t :: ts => t.shape :: shapes ts

end

mutual

/-- The spans, that of a tree before those below it, and how far each is below the root, which is at
`level`. -/
def levels (level : Nat) : Tree → List (Nat × Span)
  | node s children => (level, s) :: levelsBelow (level + 1) children

def levelsBelow (level : Nat) : List Tree → List (Nat × Span)
  | [] => []
  | t :: ts => t.levels level ++ levelsBelow level ts

end

mutual

theorem map_snd_levels (level : Nat) : (t : Tree) → (t.levels level).map Prod.snd = t.spans
  | node s children => by
    rw [levels, List.map_cons, map_snd_levelsBelow (level + 1) children, spans]

theorem map_snd_levelsBelow (level : Nat) :
    (ts : List Tree) → (levelsBelow level ts).map Prod.snd = spansBelow ts
  | [] => by rw [levelsBelow, spansBelow, List.map_nil]
  | t :: ts => by
    rw [levelsBelow, List.map_append, map_snd_levels level t, map_snd_levelsBelow level ts,
      spansBelow]

end

theorem mem_spans_of_mem_levels {t : Tree} {level : Nat} {p : Nat × Span}
    (h : p ∈ t.levels level) : p.2 ∈ t.spans := by
  rw [← map_snd_levels level t]
  exact List.mem_map_of_mem h

end Tree

namespace Shape

/-- Puts a span in front of the trees after it: the deeper ones are its children. -/
def plant (level : Nat) (later : List (Nat × Shape)) : List (Nat × Shape) :=
  (level, .node ((later.takeWhile fun e => level < e.1).map Prod.snd)) ::
    later.dropWhile fun e => level < e.1

/-- The trees whose spans are at the given levels, in depth first order. -/
def ofLevels (ls : List Nat) : List (Nat × Shape) :=
  ls.foldr plant []

theorem plant_append {level : Nat} {below later : List (Nat × Shape)}
    (hbelow : ∀ e ∈ below, level < e.1) (hlater : ∀ e ∈ later.head?, e.1 ≤ level) :
    plant level (below ++ later) = (level, .node (below.map Prod.snd)) :: later := by
  have hbelow' : ∀ e ∈ below, decide (level < e.1) = true :=
    fun e he => decide_eq_true (hbelow e he)
  have hlater' : (later.takeWhile fun e => decide (level < e.1)) = [] ∧
      (later.dropWhile fun e => decide (level < e.1)) = later := by
    cases later with
    | nil => exact ⟨rfl, rfl⟩
    | cons e later =>
      have he : ¬level < e.1 := Nat.not_lt.2 (hlater e rfl)
      simp [he]
  rw [plant, List.takeWhile_append_of_pos hbelow', List.dropWhile_append_of_pos hbelow',
    hlater'.1, hlater'.2, List.append_nil]

end Shape

namespace Tree

open Shape (plant plant_append)

mutual

theorem foldr_plant_levels (level : Nat) {later : List (Nat × Shape)}
    (hlater : ∀ e ∈ later.head?, e.1 ≤ level) :
    (t : Tree) → ((t.levels level).map Prod.fst).foldr plant later = (level, t.shape) :: later
  | node s children => by
    -- What comes after the tree is no deeper than its root: the children end there.
    have hnext : ∀ e ∈ later.head?, e.1 ≤ level + 1 := fun e he => Nat.le_succ_of_le (hlater e he)
    have hbelow : ∀ e ∈ (shapes children).map (Prod.mk (level + 1)), level < e.1 := by
      rintro e he
      obtain ⟨shape, -, rfl⟩ := List.mem_map.1 he
      exact Nat.lt_succ_self level
    rw [levels, List.map_cons, List.foldr_cons, foldr_plant_levelsBelow (level + 1) hnext children,
      plant_append hbelow hlater, List.map_map, shape]
    simp [Function.comp_def]

theorem foldr_plant_levelsBelow (level : Nat) {later : List (Nat × Shape)}
    (hlater : ∀ e ∈ later.head?, e.1 ≤ level) :
    (ts : List Tree) → ((levelsBelow level ts).map Prod.fst).foldr plant later =
      (shapes ts).map (Prod.mk level) ++ later
  | [] => by rw [levelsBelow, shapes]; rfl
  | t :: ts => by
    have hrest : ∀ e ∈ ((shapes ts).map (Prod.mk level) ++ later).head?, e.1 ≤ level := by
      cases ts with
      | nil => simpa [shapes] using hlater
      | cons u us => simp [shapes]
    rw [levelsBelow, List.map_append, List.foldr_append, foldr_plant_levelsBelow level hlater ts,
      foldr_plant_levels level hrest t, shapes, List.map_cons, List.cons_append]

end

/-- The levels of its spans tell the shape of a tree. -/
theorem ofLevels_levels (t : Tree) (level : Nat) :
    Shape.ofLevels ((t.levels level).map Prod.fst) = [(level, t.shape)] :=
  foldr_plant_levels level (by simp) t

end Tree

end Plateau.Telemetry
