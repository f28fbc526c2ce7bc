import Plateau.Proofs.Composition

namespace Plateau

open Text

theorem Instruction.alone_of_blank {surface : Surface} {id : Int} {i : Instruction}
    (h : Blank i.commands) : i.alone surface id = Rover.place id i.placement surface := by
  cases hplace : Rover.place id i.placement surface with
  | error e => rw [alone, hplace]
  | ok r =>
    rw [alone_of_place hplace, Rover.guide, trim_eq_nil_iff.2 h]
    rfl

namespace Instructions

variable {surface : Surface} {first text : List Char} {rest : List (List Char)}

theorem feedless_split (text : List Char) : Feedless (split text) :=
  (lines_eq_iff.1 (rfl : lines (trim text) = _)).no_feed

theorem last_line_not_blank {before : List (List Char)} {line : List Char} (hne : before ≠ [])
    (hsplit : split text = before ++ [line]) : ¬Blank line := by
  intro hblank
  have hends : trim text = joined before ++ '\n' :: line := by
    rw [← joined_concat hne]
    exact (lines_eq_iff.1 hsplit).joined
  have hlast := (bare_trim text).2
  rw [hends, List.getLast?_append_of_ne_nil _ (List.cons_ne_nil _ _)] at hlast
  obtain ⟨c, hc⟩ := Option.isSome_iff_exists.1 (List.getLast?_isSome.2 (List.cons_ne_nil '\n' line))
  have hmem : c ∈ '\n' :: line := List.mem_of_getLast? hc
  have hfalse := hlast c hc
  rw [blank_cons rfl hblank c hmem] at hfalse
  contradiction

/-- A blank line of commands at the end is no line, and the number of lines becomes even. -/
theorem run_compose_of_blank_end {before : List Instruction} {i : Instruction}
    (hfeed : Feedless (first :: (before ++ [i]).flatMap Instruction.lines))
    (hnamed : Surface.Named first surface) (hbefore : before ≠ []) (hplacement : ¬Blank i.placement)
    (hblank : Blank i.commands) :
    run {} (compose first (before ++ [i])) =
      .ok (.failed (.evenLineCount (2 * (before ++ [i]).length : Nat))) := by
  have hlines : first :: (before ++ [i]).flatMap Instruction.lines =
      (first :: before.flatMap Instruction.lines ++ [i.placement]) ++ [i.commands] := by
    simp [List.flatMap_append, Instruction.lines]
  have hhead : trim first ≠ [] := fun h => not_blank_of_named hnamed (trim_eq_nil_iff.1 h)
  have hlast : ∀ l ∈
      ((first :: before.flatMap Instruction.lines ++ [i.placement]).map trim).getLast?, l ≠ [] := by
    rw [List.getLast?_map, List.getLast?_concat]
    rintro l ⟨⟩
    exact fun h => hplacement (trim_eq_nil_iff.1 h)
  have hframe : framed ((first :: (before ++ [i]).flatMap Instruction.lines).map trim) =
      (first :: before.flatMap Instruction.lines ++ [i.placement]).map trim := by
    rw [hlines, List.map_append, List.map_singleton, trim_eq_nil_iff.2 hblank, List.cons_append,
      List.map_cons, framed_concat_nil hhead, ← List.map_cons, ← List.cons_append]
    exact framed_cons hhead hlast
  have hlength : (first :: before.flatMap Instruction.lines ++ [i.placement]).length =
      2 * (before ++ [i]).length := by
    simp only [List.length_append, List.length_cons, List.length_nil, length_flatMap_lines]
    omega
  have hpos := List.length_pos_iff.2 hbefore
  have hshape : checkShape (first :: before.flatMap Instruction.lines ++ [i.placement]) =
      .error (.evenLineCount (2 * (before ++ [i]).length : Nat)) := by
    refine checkShape_eq_error_iff.2 (.inr ⟨?_, ?_, by rw [hlength]⟩)
    · rw [hlength, List.length_append, List.length_singleton]
      omega
    · omega
  rw [compose, run_joined hfeed, hframe, runLines_map_trim, runLines, List.cons_append, readLines,
    ← List.cons_append, hshape]
  rfl

def reordered (is : List Instruction) (σ : Equiv.Perm (Fin is.length)) : List Instruction :=
  List.ofFn (is.get ∘ σ)

theorem mem_reordered {is : List Instruction} {σ : Equiv.Perm (Fin is.length)} {i : Instruction}
    (h : i ∈ reordered is σ) : i ∈ is := by
  obtain ⟨k, rfl⟩ := List.mem_ofFn.1 h
  exact List.get_mem is _

theorem length_reordered (is : List Instruction) (σ : Equiv.Perm (Fin is.length)) :
    (reordered is σ).length = is.length := by
  simp [reordered]

theorem feedless_reordered {is : List Instruction} (σ : Equiv.Perm (Fin is.length))
    (h : Feedless (first :: is.flatMap Instruction.lines)) :
    Feedless (first :: (reordered is σ).flatMap Instruction.lines) := by
  obtain ⟨hfirst, his⟩ := feedless_cons.1 h
  refine feedless_cons.2 ⟨hfirst, fun l hl => ?_⟩
  obtain ⟨i, hi, hl⟩ := List.mem_flatMap.1 hl
  exact his l (List.mem_flatMap.2 ⟨i, mem_reordered hi, hl⟩)

theorem exists_rests {positions : List String} (hsplit : split text = first :: rest)
    (hrun : run {} text = .ok ⟨positions, none⟩) :
    ∃ surface, read text = .ok (surface, pairs rest) ∧ Surface.Named first surface ∧
      pairs rest ≠ [] ∧ first :: (pairs rest).flatMap Instruction.lines = split text ∧
      List.Forall₂ (Instruction.Rests surface) (pairs rest) positions := by
  cases hread : read text with
  | error e =>
    rw [run_of_read_error hread] at hrun
    exact absurd hrun Outcome.failed_ne_done
  | ok p =>
    obtain ⟨surface, is⟩ := p
    rw [run_of_read_ok hread, mapError_eq_ok_iff,
      runFrom_eq_ok_none_iff_rests (writable_of_read hread)] at hrun
    obtain ⟨first', rest', hsplit', hshape, hline, rfl⟩ := read_eq_ok_iff.1 hread
    obtain ⟨rfl, rfl⟩ := List.cons.inj (hsplit.symm.trans hsplit')
    obtain ⟨hthree, hodd⟩ := checkShape_eq_ok_iff.1 hshape
    rw [List.length_cons] at hthree hodd
    have hlines : (pairs rest).flatMap Instruction.lines = rest := flatMap_pairs (by omega)
    refine ⟨surface, rfl, Surface.ofLine_eq_ok_iff.1 hline, ?_, by rw [hlines, hsplit], hrun⟩
    intro hnil
    rw [hnil] at hlines
    rw [← hlines] at hthree
    simp at hthree

theorem run_reordered_of_rests {is : List Instruction} {p : Fin is.length → String}
    {σ : Equiv.Perm (Fin is.length)} (hfeed : Feedless (first :: is.flatMap Instruction.lines))
    (hnamed : Surface.Named first surface) (hne : is ≠ [])
    (hrests : ∀ k, (is.get k).Rests surface (p k))
    (hlast : ∀ i ∈ (reordered is σ).getLast?, ¬Blank i.commands) :
    run {} (compose first (reordered is σ)) = .ok ⟨List.ofFn (p ∘ σ), none⟩ := by
  have hne' : reordered is σ ≠ [] := by
    rwa [← List.length_pos_iff, length_reordered, List.length_pos_iff]
  have hs : surface.Writable := Surface.writable_of_ofLine (Surface.ofLine_eq_ok_iff.2 hnamed)
  have hall : List.Forall₂ (Instruction.Rests surface) (reordered is σ) (List.ofFn (p ∘ σ)) :=
    forall₂_ofFn_iff.2 ⟨_, rfl, fun k => hrests (σ k)⟩
  rw [run_compose (feedless_reordered σ hfeed) hnamed hne' hlast]
  exact mapError_eq_ok_iff.2 ((runFrom_eq_ok_none_iff_rests hs).2 hall)

theorem run_reordered_of_blank_end {is : List Instruction} {σ : Equiv.Perm (Fin is.length)}
    (hsplit : split text = first :: is.flatMap Instruction.lines)
    (hnamed : Surface.Named first surface) (hplaced : ∀ i ∈ is, ¬Blank i.placement)
    {i : Instruction} (hi : i ∈ (reordered is σ).getLast?) (hblank : Blank i.commands) :
    run {} (compose first (reordered is σ)) =
      .ok (.failed (.evenLineCount (2 * is.length : Nat))) := by
  obtain ⟨before, hbefore⟩ : ∃ before, reordered is σ = before ++ [i] := by
    rcases List.eq_nil_or_concat (reordered is σ) with hnil | ⟨before, j, hconcat⟩
    · rw [hnil] at hi
      contradiction
    · rw [hconcat, List.concat_eq_append, List.getLast?_concat] at hi
      obtain rfl := Option.some.inj hi
      exact ⟨before, by rw [hconcat, List.concat_eq_append]⟩
  have hmem : i ∈ is := mem_reordered (σ := σ) (by simp [hbefore])
  have hlength : (before ++ [i]).length = is.length := by rw [← hbefore, length_reordered]
  have hfeed : Feedless (first :: (before ++ [i]).flatMap Instruction.lines) := by
    rw [← hbefore]
    exact feedless_reordered σ (hsplit ▸ feedless_split text)
  have hne : before ≠ [] := by
    -- The only pair of a text ends with its last line.
    rintro rfl
    obtain ⟨j, rfl⟩ := List.length_eq_one_iff.1 hlength.symm
    obtain rfl := List.mem_singleton.1 hmem
    have htwo : split text = [first, i.placement] ++ [i.commands] := hsplit
    exact last_line_not_blank (List.cons_ne_nil _ _) htwo hblank
  rw [hbefore, run_compose_of_blank_end hfeed hnamed hne (hplaced i hmem) hblank, hlength]

theorem position_of_blank {is : List Instruction} {o : Outcome}
    (hread : read text = .ok (surface, is)) (hrun : run {} text = .ok o) {k : Nat} {i : Instruction}
    {r : Rover} (hi : is[k]? = some i) (hblank : Blank i.commands)
    (hplace : Rover.place k i.placement surface = .ok r) (hk : k ≤ o.positions.length) :
    o.positions[k]? = some r.text := by
  obtain ⟨o', ho, hstop⟩ := exists_runFrom (writable_of_read hread) 0 is
  rw [run_of_read_ok hread, ho] at hrun
  obtain rfl := Except.ok.inj hrun
  have halone : i.alone surface ↑(0 + k) = .ok r := by
    rw [Instruction.alone_of_blank hblank, Nat.zero_add, hplace]
  rw [hstop.length_positions] at hk
  have hlt : k < firstFailure surface is := by
    refine Nat.lt_of_le_of_ne hk ?_
    rintro rfl
    obtain ⟨e, he, -⟩ := hstop.error i hi
    rw [halone] at he
    contradiction
  obtain ⟨j, t, hj, ht, hposition⟩ := hstop.position k hlt
  obtain rfl := Option.some.inj (hi.symm.trans hj)
  obtain rfl := Except.ok.inj (halone.symm.trans ht)
  exact hposition

/-- When the rovers of a run that succeeds change places, so do their positions; but a rover
without commands that comes to stand last has its blank line trimmed away.  At any other place such
a rover rests where it is placed, if the run comes to it. -/
theorem run_reordered (hsplit : split text = first :: rest) (config : RunnerConfig)
    (machine : Machine) :
    (∀ positions, run config text machine = .ok ⟨positions, none⟩ →
      ∃ p : Fin (pairs rest).length → String, positions = List.ofFn p ∧
        ∀ σ : Equiv.Perm (Fin (pairs rest).length),
          ((∀ i ∈ (reordered (pairs rest) σ).getLast?, ¬Blank i.commands) →
            run config (compose first (reordered (pairs rest) σ)) machine =
              .ok ⟨List.ofFn (p ∘ σ), none⟩) ∧
          ∀ i ∈ (reordered (pairs rest) σ).getLast?, Blank i.commands →
            run config (compose first (reordered (pairs rest) σ)) machine =
              .ok (.failed (.evenLineCount (2 * (pairs rest).length : Nat)))) ∧
    ∀ surface o, read text = .ok (surface, pairs rest) → run config text machine = .ok o →
      ∀ (k : Nat) i r, (pairs rest)[k]? = some i → Blank i.commands →
        Rover.place k i.placement surface = .ok r → k ≤ o.positions.length →
          o.positions[k]? = some r.text := by
  refine ⟨fun positions hrun => ?_, fun surface o hread hrun k i r hi hblank hplace hk =>
    position_of_blank hread (run_of_run_config hrun) hi hblank hplace hk⟩
  obtain ⟨surface, hread, hnamed, hne, hlines, hrests⟩ :=
    exists_rests hsplit (run_of_run_config hrun)
  have hget : List.ofFn (pairs rest).get = pairs rest := List.ofFn_getElem
  obtain ⟨p, hp, hrests⟩ := forall₂_ofFn_iff.1 (by rwa [hget] :
    List.Forall₂ (Instruction.Rests surface) (List.ofFn (pairs rest).get) positions)
  have hfeed : Feedless (first :: (pairs rest).flatMap Instruction.lines) :=
    hlines ▸ feedless_split text
  have hplaced : ∀ i ∈ pairs rest, ¬Blank i.placement := by
    intro i hi
    obtain ⟨k, rfl⟩ := List.mem_iff_get.1 hi
    obtain ⟨route, ⟨⟨x, y, hw, -⟩, -⟩, -⟩ := hrests k
    exact not_blank_of_spaced hw
  refine ⟨p, hp, fun σ => ?_⟩
  rw [run_config_eq_of_read hread hrun]
  refine ⟨run_reordered_of_rests hfeed hnamed hne hrests, fun i hi hblank => ?_⟩
  exact run_reordered_of_blank_end hlines.symm hnamed hplaced hi hblank

/-- The second of three rovers has no commands, and it changes places with the first. -/
theorem run_reordered_of_three :
    split "5 5\n3 3 E\nM\n1 2 N\n\n0 0 E\nMM".toList =
        "5 5".toList :: ["3 3 E", "M", "1 2 N", "", "0 0 E", "MM"].map String.toList ∧
      run {} "5 5\n1 2 N\n\n3 3 E\nM\n0 0 E\nMM".toList =
        .ok ⟨["1 2 N", "4 3 E", "2 0 E"], none⟩ := by
  let rest := ["3 3 E", "M", "1 2 N", "", "0 0 E", "MM"].map String.toList
  have hsplit : split "5 5\n3 3 E\nM\n1 2 N\n\n0 0 E\nMM".toList = "5 5".toList :: rest := by decide
  have hrun : run {} "5 5\n3 3 E\nM\n1 2 N\n\n0 0 E\nMM".toList =
      .ok ⟨["4 3 E", "1 2 N", "2 0 E"], none⟩ := by decide +kernel
  let three : List Instruction :=
    [⟨"3 3 E".toList, ['M']⟩, ⟨"1 2 N".toList, []⟩, ⟨"0 0 E".toList, ['M', 'M']⟩]
  have hpairs : pairs rest = three := by decide
  have hall := (run_reordered hsplit {} {}).1 _ hrun
  rw [hpairs] at hall
  obtain ⟨p, hp, hσ⟩ := hall
  let σ : Equiv.Perm (Fin three.length) := (Equiv.swap 0 1 : Equiv.Perm (Fin 3))
  have horder : compose "5 5".toList (reordered three σ) =
      "5 5\n1 2 N\n\n3 3 E\nM\n0 0 E\nMM".toList := by decide
  have hlast : ∀ i ∈ (reordered three σ).getLast?, ¬Blank i.commands := by
    have hends : (reordered three σ).getLast? = some ⟨"0 0 E".toList, ['M', 'M']⟩ := by decide
    rw [hends]
    rintro i ⟨⟩ hblank
    exact absurd (hblank 'M' List.mem_cons_self) (by decide)
  have hpositions : List.ofFn (p ∘ σ) = ["1 2 N", "4 3 E", "2 0 E"] := by
    let q : Fin 3 → String := p
    have hq : [q 0, q 1, q 2] = ["4 3 E", "1 2 N", "2 0 E"] := hp.symm
    simp only [List.cons.injEq, and_true] at hq
    obtain ⟨h0, h1, h2⟩ := hq
    change [q 1, q 0, q 2] = _
    rw [h0, h1, h2]
  refine ⟨hsplit, ?_⟩
  rw [← horder, (hσ σ).1 hlast, hpositions]

/-- Two rovers change places, and the one without commands comes to stand last: a run that succeeds
becomes one that fails. -/
theorem run_reordered_fails_at_blank_end :
    split "5 5\n1 2 N\n\n3 3 E\nM".toList =
        "5 5".toList :: [⟨"1 2 N".toList, []⟩, ⟨"3 3 E".toList, ['M']⟩].flatMap Instruction.lines ∧
      run {} "5 5\n1 2 N\n\n3 3 E\nM".toList = .ok ⟨["1 2 N", "4 3 E"], none⟩ ∧
      compose "5 5".toList [⟨"3 3 E".toList, ['M']⟩, ⟨"1 2 N".toList, []⟩] =
        "5 5\n3 3 E\nM\n1 2 N\n".toList ∧
      run {} "5 5\n3 3 E\nM\n1 2 N\n".toList = .ok (.failed (.evenLineCount 4)) := by
  refine ⟨?_, ?_, ?_, ?_⟩ <;> decide +kernel

end Instructions

end Plateau
