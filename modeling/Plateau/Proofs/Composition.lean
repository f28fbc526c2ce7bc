import Plateau.Proofs.Language
import Plateau.Proofs.Padding

namespace Plateau

open Text

/-- A pair of lines leaves its rover at a position: it describes a route on the surface that ends
there. -/
def Instruction.Rests (surface : Surface) (i : Instruction) (position : String) : Prop :=
  ∃ route : Route, i.Says route ∧ route.On surface ∧ position = route.rest

namespace Instructions

variable {surface : Surface} {first : List Char} {is : List Instruction}

def compose (first : List Char) (is : List Instruction) : List Char :=
  joined (first :: is.flatMap Instruction.lines)

theorem feedless_compose (hfirst : '\n' ∉ first)
    (his : ∀ i ∈ is, '\n' ∉ i.placement ∧ '\n' ∉ i.commands) :
    Feedless (first :: is.flatMap Instruction.lines) := by
  refine feedless_cons.2 ⟨hfirst, fun l hl => ?_⟩
  obtain ⟨i, hi, hl⟩ := List.mem_flatMap.1 hl
  rcases List.mem_pair.1 hl with rfl | rfl
  · exact (his i hi).1
  · exact (his i hi).2

theorem getLast?_flatMap_lines (is : List Instruction) :
    (is.flatMap Instruction.lines).getLast? = is.getLast?.map Instruction.commands := by
  rcases List.eq_nil_or_concat is with rfl | ⟨before, i, rfl⟩
  · rfl
  · simp [List.flatMap_append, Instruction.lines]

theorem runFrom_eq_ok_none_iff_rests (hs : surface.Writable) {id : Nat} {positions : List String} :
    runFrom surface id is = .ok ⟨positions, none⟩ ↔
      List.Forall₂ (Instruction.Rests surface) is positions := by
  rw [runFrom_eq_ok_none_iff hs]
  constructor
  · rintro ⟨routes, hsays, hons, rfl⟩
    induction hsays with
    | nil => exact .nil
    | cons h _ ih =>
      obtain ⟨hon, hons⟩ := List.forall_mem_cons.1 hons
      exact .cons ⟨_, h, hon, rfl⟩ (ih hons)
  · intro h
    induction h with
    | nil => exact ⟨[], .nil, by simp, rfl⟩
    | cons h _ ih =>
      obtain ⟨route, hsays, hon, rfl⟩ := h
      obtain ⟨routes, hall, hons, rfl⟩ := ih
      exact ⟨route :: routes, .cons hsays hall, List.forall_mem_cons.2 ⟨hon, hons⟩, rfl⟩

theorem forall₂_ofFn_iff {α β : Type} {R : α → β → Prop} {n : Nat} {f : Fin n → α} {l : List β} :
    List.Forall₂ R (List.ofFn f) l ↔ ∃ g : Fin n → β, l = List.ofFn g ∧ ∀ k, R (f k) (g k) := by
  constructor
  · intro h
    have hlength : l.length = n := by simpa using h.length_eq.symm
    subst hlength
    refine ⟨fun k => l[k], List.ofFn_getElem.symm, fun k => ?_⟩
    simpa using h.get (by simp) k.2
  · rintro ⟨g, rfl, h⟩
    refine List.forall₂_iff_get.2 ⟨by simp, fun k hk _ => ?_⟩
    simpa using h ⟨k, by simpa using hk⟩

theorem not_blank_of_spaced {line w : List Char} {ws : List (List Char)}
    (h : Spaced line (w :: ws)) : ¬Blank line := by
  intro hblank
  have hnone : words line = [] := words_of_spaced (.nil hblank)
  rw [words_of_spaced h] at hnone
  contradiction

theorem not_blank_of_named (h : Surface.Named first surface) : ¬Blank first := by
  obtain ⟨x, y, hw, -⟩ := h
  exact not_blank_of_spaced hw

theorem checkShape_of_pairs (first : List Char) (hne : is ≠ []) :
    checkShape (first :: is.flatMap Instruction.lines) = .ok () := by
  have hlength := length_flatMap_lines is
  have hpos := List.length_pos_iff.2 hne
  rw [checkShape_eq_ok_iff, List.length_cons]
  omega

theorem runLines_of_pairs {config : RunnerConfig} {machine : Machine} (hne : is ≠ [])
    (hline : Surface.ofLine first = .ok surface) :
    runLines config machine (first :: is.flatMap Instruction.lines) =
      guideAll config machine surface is := by
  rw [runLines, readLines, checkShape_of_pairs first hne, hline, pairs_flatMap]
  rfl

theorem last_line_ne_nil (hlast : ∀ i ∈ is.getLast?, ¬Blank i.commands) :
    ∀ l ∈ ((is.flatMap Instruction.lines).map trim).getLast?, l ≠ [] := by
  rw [List.getLast?_map, getLast?_flatMap_lines, Option.map_map]
  intro l hl
  obtain ⟨i, hi, rfl⟩ := Option.map_eq_some_iff.1 hl
  exact fun h => hlast i hi (trim_eq_nil_iff.1 h)

theorem framed_lines (hfirst : ¬Blank first) (hne : is ≠ [])
    (hlast : ∀ i ∈ is.getLast?, ¬Blank i.commands) :
    framed ((first :: is.flatMap Instruction.lines).map trim) =
      (first :: is.flatMap Instruction.lines).map trim := by
  have hlines : (is.flatMap Instruction.lines).map trim ≠ [] := by
    rw [← List.length_pos_iff, List.length_map, length_flatMap_lines]
    have hpos := List.length_pos_iff.2 hne
    omega
  rw [List.map_cons]
  refine framed_cons (fun h => hfirst (trim_eq_nil_iff.1 h)) ?_
  rw [List.getLast?_cons_of_ne_nil hlines]
  exact last_line_ne_nil hlast

/-- A composed text whose last line is not blank is run as it was composed. -/
theorem run_compose {config : RunnerConfig} {machine : Machine}
    (hfeed : Feedless (first :: is.flatMap Instruction.lines))
    (hnamed : Surface.Named first surface) (hne : is ≠ [])
    (hlast : ∀ i ∈ is.getLast?, ¬Blank i.commands) :
    run config (compose first is) machine = guideAll config machine surface is := by
  rw [compose, run_joined hfeed, framed_lines (not_blank_of_named hnamed) hne hlast,
    runLines_map_trim, runLines_of_pairs hne (Surface.ofLine_eq_ok_iff.2 hnamed)]

theorem tasks_eq_map_zipIdx (surface : Surface) (id : Nat) (is : List Instruction) :
    tasks surface id is = (is.zipIdx id).map fun p => p.1.run surface p.2 := by
  induction is generalizing id with
  | nil => rfl
  | cons i is ih => rw [tasks, List.zipIdx_cons, List.map_cons, ih]

/-- The pair at an index is made of the lines at twice the index and after it. -/
theorem getElem?_pairs_eq_some_iff {ls : List (List Char)} {k : Nat} {i : Instruction} :
    (pairs ls)[k]? = some i ↔
      ls[2 * k]? = some i.placement ∧ ls[2 * k + 1]? = some i.commands := by
  induction ls using pairs_induction generalizing k with
  | nil => simp
  | single l => simp
  | pair placement commands rest ih =>
    cases k with
    | zero => cases i; simp
    | succ k => simpa [Nat.mul_add] using ih

theorem numbered_eq_zipIdx (ls : List (List Char)) :
    numbered ls = (pairs ls).zipIdx.map Prod.swap := by
  apply List.ext_getElem
  · simp [pairs]
  · intro k hk hk'
    simp [pairs, numbered]

/-- A text that has the right number of lines is taken apart without loss.  Its lines make up the
trimmed text, the line of the surface and the two lines of each rover in turn are its lines, and a
rover is guided by its own two lines, under its index. -/
theorem split_paired {text : List Char} (h : checkShape (split text) = .ok ()) :
    Trimmed text (trim text) ∧ (∀ l ∈ split text, '\n' ∉ l) ∧
    ['\n'].intercalate (split text) = trim text ∧
    ∃ first rest, split text = first :: rest ∧
      (numbered rest).map Prod.fst = List.range (((split text).length - 3) / 2 + 1) ∧
      numbered rest = (pairs rest).zipIdx.map Prod.swap ∧
      first :: (pairs rest).flatMap Instruction.lines = split text ∧
      (∀ k i, (pairs rest)[k]? = some i ↔
        (split text)[2 * k + 1]? = some i.placement ∧
          (split text)[2 * k + 2]? = some i.commands) ∧
      ∀ surface, Surface.ofLine first = .ok surface →
        read text = .ok (surface, pairs rest) ∧
        tasks surface 0 (pairs rest) = (pairs rest).zipIdx.map (fun p => p.1.run surface p.2) ∧
        runFrom surface 0 (pairs rest) =
          (Pool.readThrough Journey.failed
            ((pairs rest).zipIdx.map fun p => p.1.run surface p.2)).map collect := by
  have hlined : Lined (trim text) (split text) := lines_eq_iff.1 rfl
  refine ⟨trimmed_trim text, hlined.no_feed, hlined.joined.symm, ?_⟩
  obtain ⟨first, rest, hsplit⟩ := List.exists_cons_of_ne_nil hlined.ne_nil
  obtain ⟨hthree, hodd⟩ := checkShape_eq_ok_iff.1 h
  rw [hsplit, List.length_cons] at hthree hodd
  have hpaired : (pairs rest).flatMap Instruction.lines = rest := flatMap_pairs (by omega)
  have hlength : 2 * (pairs rest).length = rest.length := by
    rw [← length_flatMap_lines, hpaired]
  refine ⟨first, rest, hsplit, ?_, numbered_eq_zipIdx rest, by rw [hpaired, hsplit], ?_, ?_⟩
  · have hids : (numbered rest).map Prod.fst = List.range (rest.length / 2) := by
      simp [numbered, Function.comp_def]
    rw [hids, hsplit, List.length_cons]
    congr 1
    omega
  · intro k i
    rw [hsplit, getElem?_pairs_eq_some_iff]
    rfl
  · intro surface hline
    have hread : read text = .ok (surface, pairs rest) :=
      read_eq_ok_iff.2 ⟨first, rest, hsplit, hsplit ▸ h, hline, rfl⟩
    have htasks := tasks_eq_map_zipIdx surface 0 (pairs rest)
    exact ⟨hread, htasks, by rw [← htasks, collect_readThrough]⟩

/-- Of two rovers the second has an empty placement line. -/
theorem split_paired_of_two :
    checkShape (split " 5 5\n1 2 N \nLM\n\n MR\n".toList) = .ok () ∧
      ∃ first rest, split " 5 5\n1 2 N \nLM\n\n MR\n".toList = first :: rest ∧
        (numbered rest).map Prod.fst = [0, 1] ∧ (pairs rest)[1]? = some ⟨[], " MR".toList⟩ := by
  have hshape : checkShape (split " 5 5\n1 2 N \nLM\n\n MR\n".toList) = .ok () := by decide
  obtain ⟨-, -, -, first, rest, hsplit, hids, -, -, hpairs, -⟩ := split_paired hshape
  exact ⟨hshape, first, rest, hsplit, hids.trans (by decide), (hpairs 1 _).2 (by decide)⟩

end Instructions

end Plateau
