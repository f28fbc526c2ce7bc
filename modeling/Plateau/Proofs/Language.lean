import Mathlib.Data.List.Forall2
import Plateau.Proofs.Partial

namespace Plateau

open Text (Trimmed Lined trim_eq_iff lines_eq_iff)

def Instruction.lines (i : Instruction) : List (List Char) := [i.placement, i.commands]

/-- Lines name a surface and then, two by two, routes. -/
def Spells (ls : List (List Char)) (surface : Surface) (routes : List Route) : Prop :=
  ∃ first is, ls = first :: is.flatMap Instruction.lines ∧ Surface.Named first surface ∧
    List.Forall₂ Instruction.Says is routes

/-- A text that is trimmed and cut into lines spells out a surface and routes on it. -/
structure Describes (text : List Char) (surface : Surface) (routes : List Route) : Prop where
  spelled : ∃ core ls, Trimmed text core ∧ Lined core ls ∧ 3 ≤ ls.length ∧ ls.length % 2 = 1 ∧
    Spells ls surface routes
  on_surface : ∀ route ∈ routes, route.On surface

theorem Outcome.failed_ne_done {ε : Type} {e : RunError} {positions : List String} :
    (Except.ok (failed e) : Except ε Outcome) ≠ .ok ⟨positions, none⟩ := by
  intro h
  injection h with h
  injection h with _ h
  contradiction

namespace Instructions

theorem checkShape_eq_ok_iff {ls : List (List Char)} :
    checkShape ls = .ok () ↔ 3 ≤ ls.length ∧ ls.length % 2 = 1 := by
  have h3 : minimumLines = 3 := rfl
  unfold checkShape
  split
  · simp
    omega
  · split
    · simp
      omega
    · simp
      omega

theorem checkShape_eq_error_iff {ls : List (List Char)} {e : RunError} :
    checkShape ls = .error e ↔
      ls.length < 3 ∧ e = .tooFewLines ls.length ∨
        3 ≤ ls.length ∧ ls.length % 2 = 0 ∧ e = .evenLineCount ls.length := by
  have h3 : minimumLines = 3 := rfl
  unfold checkShape
  by_cases hfew : ls.length < minimumLines
  · rw [if_pos hfew]
    constructor
    · intro h
      exact .inl ⟨by omega, (Except.error.inj h).symm⟩
    · rintro (⟨-, rfl⟩ | ⟨hle, -, -⟩)
      · rfl
      · omega
  · rw [if_neg hfew]
    by_cases heven : ls.length % 2 = 0
    · rw [if_pos heven]
      constructor
      · intro h
        exact .inr ⟨by omega, heven, (Except.error.inj h).symm⟩
      · rintro (⟨hlt, -⟩ | ⟨-, -, rfl⟩)
        · omega
        · rfl
    · rw [if_neg heven]
      constructor
      · intro h
        contradiction
      · rintro (⟨hlt, -⟩ | ⟨-, heven', -⟩)
        · omega
        · exact absurd heven' heven

theorem pairs_flatMap (is : List Instruction) : pairs (is.flatMap Instruction.lines) = is := by
  induction is with
  | nil => rfl
  | cons i is ih => simp [Instruction.lines, ih]

theorem length_flatMap_lines (is : List Instruction) :
    (is.flatMap Instruction.lines).length = 2 * is.length := by
  induction is with
  | nil => rfl
  | cons i is ih =>
    simp only [List.flatMap_cons, List.length_append, List.length_cons, ih]
    simp only [Instruction.lines, List.length_cons, List.length_nil]
    omega

theorem flatMap_pairs {ls : List (List Char)} (h : ls.length % 2 = 0) :
    (pairs ls).flatMap Instruction.lines = ls := by
  induction ls using pairs_induction with
  | nil => rfl
  | single l => simp at h
  | pair placement commands rest ih =>
    have hrest : rest.length % 2 = 0 := by
      simp only [List.length_cons] at h
      omega
    simp [Instruction.lines, ih hrest]

theorem read_eq_ok_iff_lined {text : List Char} {surface : Surface} {is : List Instruction} :
    read text = .ok (surface, is) ↔
      ∃ core first, Trimmed text core ∧ Lined core (first :: is.flatMap Instruction.lines) ∧
        (3 ≤ (first :: is.flatMap Instruction.lines).length ∧
          (first :: is.flatMap Instruction.lines).length % 2 = 1) ∧
        Surface.Named first surface := by
  rw [read_eq_ok_iff]
  constructor
  · rintro ⟨first, rest, hsplit, hshape, hline, rfl⟩
    have hshape := checkShape_eq_ok_iff.1 hshape
    have hrest : (pairs rest).flatMap Instruction.lines = rest := by
      apply flatMap_pairs
      simp only [List.length_cons] at hshape
      omega
    rw [hrest]
    exact ⟨_, first, trim_eq_iff.1 rfl, lines_eq_iff.1 hsplit, hshape,
      Surface.ofLine_eq_ok_iff.1 hline⟩
  · rintro ⟨core, first, htrim, hlined, hshape, hnamed⟩
    refine ⟨first, is.flatMap Instruction.lines, ?_, checkShape_eq_ok_iff.2 hshape,
      Surface.ofLine_eq_ok_iff.2 hnamed, (pairs_flatMap is).symm⟩
    rw [split, trim_eq_iff.2 htrim, lines_eq_iff.2 hlined]

theorem runFrom_eq_ok_none_iff {surface : Surface} (hs : surface.Writable) {id : Nat}
    {is : List Instruction} {positions : List String} :
    runFrom surface id is = .ok ⟨positions, none⟩ ↔
      ∃ routes : List Route, List.Forall₂ Instruction.Says is routes ∧
        (∀ route ∈ routes, route.On surface) ∧ positions = routes.map Route.rest := by
  induction is generalizing id positions with
  | nil =>
    simp only [runFrom, Except.ok.injEq, Outcome.mk.injEq, List.forall₂_nil_left_iff]
    constructor
    · rintro ⟨rfl, -⟩
      exact ⟨[], rfl, by simp, rfl⟩
    · rintro ⟨routes, rfl, -, rfl⟩
      exact ⟨rfl, trivial⟩
  | cons i is ih =>
    constructor
    · intro h
      cases halone : i.alone surface id with
      | error e =>
        rw [runFrom_cons_of_error hs halone] at h
        exact absurd h Outcome.failed_ne_done
      | ok t =>
        obtain ⟨route, hsays, hon, rfl⟩ := Instruction.alone_eq_ok_iff.1 halone
        rw [runFrom_cons_of_ok hs halone] at h
        cases hrest : runFrom surface (id + 1) is with
        | error e =>
          rw [hrest] at h
          contradiction
        | ok o =>
          obtain ⟨later, error⟩ := o
          rw [hrest] at h
          injection h with h
          injection h with hpositions herror
          subst hpositions herror
          obtain ⟨routes, hall, hons, rfl⟩ := ih.1 hrest
          exact ⟨route :: routes, .cons hsays hall, List.forall_mem_cons.2 ⟨hon, hons⟩, rfl⟩
    · rintro ⟨_, hall, hons, rfl⟩
      cases hall with
      | cons hsays hall =>
        obtain ⟨hon, hons⟩ := List.forall_mem_cons.1 hons
        have halone : i.alone surface id = .ok _ :=
          Instruction.alone_eq_ok_iff.2 ⟨_, hsays, hon, rfl⟩
        rw [runFrom_cons_of_ok hs halone, ih.2 ⟨_, hall, hons, rfl⟩]
        rfl

theorem run_eq_ok_none_iff {text : List Char} {positions : List String} :
    run {} text = .ok ⟨positions, none⟩ ↔
      ∃ surface routes, Describes text surface routes ∧ positions = routes.map Route.rest := by
  constructor
  · intro h
    cases hread : read text with
    | error e =>
      rw [run_of_read_error hread] at h
      exact absurd h Outcome.failed_ne_done
    | ok p =>
      obtain ⟨surface, is⟩ := p
      rw [run_of_read_ok hread, mapError_eq_ok_iff,
        runFrom_eq_ok_none_iff (writable_of_read hread)] at h
      obtain ⟨routes, hsays, hons, rfl⟩ := h
      obtain ⟨core, first, htrim, hlined, ⟨hthree, hodd⟩, hnamed⟩ := read_eq_ok_iff_lined.1 hread
      have hspells : Spells (first :: is.flatMap Instruction.lines) surface routes :=
        ⟨first, is, rfl, hnamed, hsays⟩
      exact ⟨surface, routes, ⟨⟨core, _, htrim, hlined, hthree, hodd, hspells⟩, hons⟩, rfl⟩
  · rintro ⟨surface, routes, ⟨⟨core, _, htrim, hlined, hthree, hodd, first, is, rfl, hnamed, hsays⟩,
      hons⟩, rfl⟩
    have hread : read text = .ok (surface, is) :=
      read_eq_ok_iff_lined.2 ⟨core, first, htrim, hlined, ⟨hthree, hodd⟩, hnamed⟩
    rw [run_of_read_ok hread, mapError_eq_ok_iff, runFrom_eq_ok_none_iff (writable_of_read hread)]
    exact ⟨routes, hsays, hons, rfl⟩

theorem positions_ne_nil {text : List Char} {o : Outcome} (h : run {} text = .ok o)
    (hok : o.ok = true) : o.positions ≠ [] := by
  obtain ⟨positions, error⟩ := o
  obtain rfl : error = none := by simpa [Outcome.ok] using hok
  obtain ⟨surface, routes, hdescribes, rfl⟩ := run_eq_ok_none_iff.1 h
  obtain ⟨core, ls, -, -, hthree, -, first, is, rfl, -, hsays⟩ := hdescribes.spelled
  rintro hnil
  obtain rfl : routes = [] := List.map_eq_nil_iff.1 hnil
  obtain rfl : is = [] := List.forall₂_nil_right_iff.1 hsays
  simp at hthree

/-- A run succeeds exactly on the texts that describe routes, and it leaves every rover where its
route ends. -/
theorem run_ok_iff_describes (text : List Char) :
    ((∃ o, run {} text = .ok o ∧ o.ok = true) ↔ ∃ surface routes, Describes text surface routes) ∧
      ∀ surface routes, Describes text surface routes →
        run {} text = .ok ⟨routes.map Route.rest, none⟩ := by
  have hrest (surface : Surface) (routes : List Route) (h : Describes text surface routes) :
      run {} text = .ok ⟨routes.map Route.rest, none⟩ :=
    run_eq_ok_none_iff.2 ⟨surface, routes, h, rfl⟩
  refine ⟨⟨?_, ?_⟩, hrest⟩
  · rintro ⟨⟨positions, error⟩, hrun, hok⟩
    obtain rfl : error = none := by simpa [Outcome.ok] using hok
    obtain ⟨surface, routes, h, -⟩ := run_eq_ok_none_iff.1 hrun
    exact ⟨surface, routes, h⟩
  · rintro ⟨surface, routes, h⟩
    exact ⟨_, hrest surface routes h, rfl⟩

example : run {} " 5 +5\n3 3 E\n\n0 0 N\n MMLLLM \n".toList = .ok ⟨["3 3 E", "1 2 E"], none⟩ := by
  decide +kernel

end Instructions

end Plateau
