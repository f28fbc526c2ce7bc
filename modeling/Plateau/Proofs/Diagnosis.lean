import Plateau.Proofs.Language
import Plateau.Proofs.Parallel

namespace Plateau

open Text (Trimmed Lined trim_eq_iff lines_eq_iff)

namespace Route

/-- The first `j` characters are commands, and none of them leads off the surface. -/
def Clear (surface : Surface) (route : Route) (j : Nat) : Prop :=
  ∀ k < j, (∃ c ∈ route.word[k]?, c = 'L' ∨ c = 'R' ∨ c = 'M') ∧
    surface.Contains (route.pointAt (k + 1))

/-- Why a route cannot be followed: the least character that is no command or leads off the
surface. -/
inductive Breaks (surface : Surface) (id : Int) (route : Route) : RunError → Prop where
  | movement {j : Nat} {c : Char} (hclear : route.Clear surface j) (hc : route.word[j]? = some c)
    (hno : c ≠ 'L' ∧ c ≠ 'R' ∧ c ≠ 'M') :
    Breaks surface id route (.robotMovementParse id (String.singleton c))
  | outside {j : Nat} {c : Char} (hclear : route.Clear surface j) (hc : route.word[j]? = some c)
    (hcommand : c = 'L' ∨ c = 'R' ∨ c = 'M') (hout : ¬surface.Contains (route.pointAt (j + 1))) :
    Breaks surface id route
      (.robotOutOfBounds id (route.pointAt (j + 1)).x (route.pointAt (j + 1)).y)

variable {surface : Surface} {route : Route}

theorem getElem?_word {v rest : List Char} (hw : route.word = v ++ rest) {k : Nat}
    (hk : k < v.length) : route.word[k]? = some v[k] := by
  rw [hw, List.getElem?_append_left hk, List.getElem?_eq_getElem hk]

theorem after_take_word (id : Int) {v rest : List Char} (hw : route.word = v ++ rest) {k : Nat}
    (hk : k ≤ v.length) :
    (route.rover id).after (v.take k) = ⟨id, route.pointAt k, route.headingAt k⟩ := by
  rw [← route.after_rover, hw, List.take_append_of_le_length hk]

theorem clear_iff (id : Int) {v rest : List Char} (hw : route.word = v ++ rest) :
    route.Clear surface v.length ↔ Word v ∧ (route.rover id).Stays surface v := by
  constructor
  · intro h
    constructor
    · intro c hc
      obtain ⟨k, hk, rfl⟩ := List.mem_iff_getElem.1 hc
      obtain ⟨⟨d, hd, hletter⟩, -⟩ := h k hk
      rw [getElem?_word hw hk] at hd
      obtain rfl := Option.some.inj hd
      exact hletter
    · intro k hk
      rw [after_take_word id hw hk]
      exact (h k hk).2
  · rintro ⟨hword, hstays⟩ k hk
    have hin := hstays k hk
    rw [after_take_word id hw hk] at hin
    exact ⟨⟨_, getElem?_word hw hk, hword _ (List.getElem_mem hk)⟩, hin⟩

theorem after_follow (id : Int) {v rest : List Char} {c : Char} {command : Command}
    (hw : route.word = v ++ c :: rest) (hc : Command.ofChar? c = some command) :
    ((route.rover id).after v).follow command =
      ⟨id, route.pointAt (v.length + 1), route.headingAt (v.length + 1)⟩ := by
  have hw' : route.word = (v ++ [c]) ++ rest := by simpa using hw
  have hafter := after_take_word id hw' (k := v.length + 1) (by simp)
  have htake : (v ++ [c]).take (v.length + 1) = v ++ [c] := List.take_of_length_le (by simp)
  rwa [htake, Rover.after_concat hc] at hafter

theorem breaks_iff (id : Int) {e : RunError} :
    route.Breaks surface id e ↔
      ∃ v c rest t, route.word = v ++ c :: rest ∧ Word v ∧ (route.rover id).Stays surface v ∧
        ((route.rover id).after v).Halts surface c t e := by
  have hsplit {j : Nat} {c : Char} (hc : route.word[j]? = some c) :
      ∃ v rest, route.word = v ++ c :: rest ∧ v.length = j := by
    obtain ⟨hj, rfl⟩ := List.getElem?_eq_some_iff.1 hc
    refine ⟨route.word.take j, route.word.drop (j + 1), ?_, ?_⟩
    · rw [← List.drop_eq_getElem_cons hj, List.take_append_drop]
    · rw [List.length_take, Nat.min_eq_left hj.le]
  constructor
  · intro h
    cases h with
    | movement hclear hc hno =>
      obtain ⟨v, rest, hw, rfl⟩ := hsplit hc
      obtain ⟨hword, hstays⟩ := (clear_iff id hw).1 hclear
      have hhalts : ((route.rover id).after v).Halts surface _ _ _ :=
        .unreadable (Command.ofChar?_eq_none_iff.2 hno)
      rw [Rover.id_after] at hhalts
      exact ⟨v, _, rest, _, hw, hword, hstays, hhalts⟩
    | outside hclear hc hcommand hout =>
      obtain ⟨v, rest, hw, rfl⟩ := hsplit hc
      obtain ⟨hword, hstays⟩ := (clear_iff id hw).1 hclear
      obtain ⟨command, hcommand⟩ := Command.exists_of_letter hcommand
      have hfollow := after_follow id hw hcommand
      have hhalts : ((route.rover id).after v).Halts surface _ _ _ :=
        .outside hcommand (by rwa [hfollow])
      rw [hfollow, Rover.id_after] at hhalts
      exact ⟨v, _, rest, _, hw, hword, hstays, hhalts⟩
  · rintro ⟨v, c, rest, t, hw, hword, hstays, hhalts⟩
    have hclear : route.Clear surface v.length := (clear_iff id hw).2 ⟨hword, hstays⟩
    have hc : route.word[v.length]? = some c := by simp [hw]
    cases hhalts with
    | unreadable hno =>
      rw [Rover.id_after]
      exact .movement hclear hc (Command.ofChar?_eq_none_iff.1 hno)
    | outside hcommand hout =>
      have hfollow := after_follow id hw hcommand
      rw [hfollow] at hout ⊢
      rw [Rover.id_after]
      exact .outside hclear hc (Command.of_ofChar? hcommand) hout

end Route

namespace Instruction

variable {surface : Surface} {id : Int} {i : Instruction}

/-- Why the lines of a rover fail: its placement first, then its commands. -/
inductive Faulty (surface : Surface) (id : Int) (i : Instruction) : RunError → Prop where
  | misplaced {e : RunError} (h : Rover.Misplaced id i.placement surface e) : Faulty surface id i e
  | broken {route : Route} {e : RunError}
    (hplaced : Rover.Placed i.placement route.start route.heading)
    (hin : surface.Contains route.start) (htrim : Trimmed i.commands route.word)
    (h : route.Breaks surface id e) : Faulty surface id i e

theorem faulty_of_failing {e : RunError} (h : i.Failing surface id e) : i.Faulty surface id e := by
  cases h with
  | misplaced h => exact .misplaced h
  | @halted r t v rest c e hid hplaced hin htrim hword hstays h =>
    subst hid
    have hbreaks : (Route.mk r.point r.heading (v ++ c :: rest)).Breaks surface r.id e :=
      (Route.breaks_iff r.id).2 ⟨v, c, rest, t, rfl, hword, hstays, h⟩
    exact .broken hplaced hin htrim hbreaks

theorem alone_of_faulty {e : RunError} (h : i.Faulty surface id e) :
    i.alone surface id = .error e := by
  cases h with
  | misplaced h => rw [alone, Rover.place_eq_error_iff.2 h]
  | @broken route e hplaced hin htrim h =>
    have hplace : Rover.place id i.placement surface = .ok (route.rover id) :=
      Rover.place_eq_ok_iff.2 ⟨rfl, hplaced, hin⟩
    obtain ⟨v, c, rest, t, hw, hword, hstays, hhalts⟩ := (Route.breaks_iff id).1 h
    have hwalk : (route.rover id).walk surface (Text.trim i.commands) = (t, some e) := by
      rw [trim_eq_iff.2 htrim]
      exact Rover.walk_eq_some_iff.2 ⟨v, c, rest, hw, hword, hstays, hhalts⟩
    rw [alone_of_place hplace, Rover.guide, hwalk]

theorem alone_eq_error_iff {e : RunError} :
    i.alone surface id = .error e ↔ i.Faulty surface id e :=
  ⟨fun h => faulty_of_failing (failing_of_alone h), alone_of_faulty⟩

/-- The lines of a rover describe a route on the surface. -/
def Sound (surface : Surface) (i : Instruction) : Prop :=
  ∃ route : Route, i.Says route ∧ route.On surface

theorem sound_iff (id : Int) : i.Sound surface ↔ ∃ t, i.alone surface id = .ok t := by
  constructor
  · rintro ⟨route, hsays, hon⟩
    exact ⟨_, alone_eq_ok_iff.2 ⟨route, hsays, hon, rfl⟩⟩
  · rintro ⟨t, ht⟩
    obtain ⟨route, hsays, hon, -⟩ := alone_eq_ok_iff.1 ht
    exact ⟨route, hsays, hon⟩

end Instruction

def Laid (text : List Char) (ls : List (List Char)) : Prop :=
  ∃ core, Trimmed text core ∧ Lined core ls

/-- Why no surface can be read: there are too few lines, or an even number, or the first line
names none. -/
inductive Unreadable (text : List Char) : RunError → Prop where
  | tooFewLines {ls : List (List Char)} (hl : Laid text ls) (hn : ls.length < 3) :
    Unreadable text (.tooFewLines ls.length)
  | evenLineCount {ls : List (List Char)} (hl : Laid text ls) (hn : 3 ≤ ls.length)
    (heven : ls.length % 2 = 0) : Unreadable text (.evenLineCount ls.length)
  | surface {first : List Char} {rest : List (List Char)} {e : RunError}
    (hl : Laid text (first :: rest)) (hn : 3 ≤ (first :: rest).length)
    (hodd : (first :: rest).length % 2 = 1) (h : Surface.Unnamed first e) : Unreadable text e

/-- The first fault of a text: it cannot be read, or else it is that of the first faulty rover. -/
inductive Diagnosis (text : List Char) : RunError → Prop where
  | unreadable {e : RunError} (h : Unreadable text e) : Diagnosis text e
  | rover {first : List Char} {before after : List Instruction} {i : Instruction}
    {surface : Surface} {e : RunError}
    (hl : Laid text (first :: (before ++ i :: after).flatMap Instruction.lines))
    (hs : Surface.Named first surface) (hbefore : ∀ j ∈ before, j.Sound surface)
    (h : i.Faulty surface before.length e) : Diagnosis text e

namespace Instructions

theorem split_eq_iff {text : List Char} {ls : List (List Char)} :
    split text = ls ↔ Laid text ls := by
  constructor
  · intro h
    exact ⟨Text.trim text, trim_eq_iff.1 rfl, lines_eq_iff.1 h⟩
  · rintro ⟨core, htrim, hlined⟩
    rw [split, trim_eq_iff.2 htrim, lines_eq_iff.2 hlined]

theorem read_eq_error_iff {text : List Char} {e : RunError} :
    read text = .error e ↔ Unreadable text e := by
  constructor
  · intro h
    obtain ⟨first, rest, hsplit⟩ : ∃ first rest, split text = first :: rest :=
      List.exists_cons_of_ne_nil (Text.pieces_ne_nil _ _)
    have hl : Laid text (first :: rest) := split_eq_iff.1 hsplit
    rw [read_of_split hsplit] at h
    rcases bind_eq_error_iff.1 h with hshape | ⟨u, hshape, hrest⟩
    · rcases checkShape_eq_error_iff.1 hshape with ⟨hn, rfl⟩ | ⟨hn, heven, rfl⟩
      · exact .tooFewLines hl hn
      · exact .evenLineCount hl hn heven
    · obtain ⟨hn, hodd⟩ := checkShape_eq_ok_iff.1 hshape
      rcases bind_eq_error_iff.1 hrest with hline | ⟨s, -, hok⟩
      · exact .surface hl hn hodd (Surface.ofLine_eq_error_iff.1 hline)
      · contradiction
  · have hshape {ls : List (List Char)} (hl : Laid text ls) (hs : checkShape ls = .error e) :
        read text = .error e := by
      obtain ⟨first, rest, rfl⟩ : ∃ first rest, ls = first :: rest := by
        rw [← split_eq_iff.2 hl]
        exact List.exists_cons_of_ne_nil (Text.pieces_ne_nil _ _)
      rw [read_of_split (split_eq_iff.2 hl), hs]
      rfl
    intro h
    cases h with
    | tooFewLines hl hn => exact hshape hl (checkShape_eq_error_iff.2 (.inl ⟨hn, rfl⟩))
    | evenLineCount hl hn heven =>
      exact hshape hl (checkShape_eq_error_iff.2 (.inr ⟨hn, heven, rfl⟩))
    | surface hl hn hodd h =>
      rw [read_of_split (split_eq_iff.2 hl), checkShape_eq_ok_iff.2 ⟨hn, hodd⟩]
      have hline := Surface.ofLine_eq_error_iff.2 h
      exact bind_eq_error_iff.2 (.inr ⟨(), rfl, bind_eq_error_iff.2 (.inl hline)⟩)

theorem read_eq_ok_iff_laid {text : List Char} {surface : Surface} {is : List Instruction} :
    read text = .ok (surface, is) ↔
      ∃ first, Laid text (first :: is.flatMap Instruction.lines) ∧ is ≠ [] ∧
        Surface.Named first surface := by
  have hshape (first : List Char) : (3 ≤ (first :: is.flatMap Instruction.lines).length ∧
      (first :: is.flatMap Instruction.lines).length % 2 = 1) ↔ is ≠ [] := by
    rw [List.length_cons, length_flatMap_lines, ← List.length_pos_iff]
    omega
  rw [read_eq_ok_iff_lined]
  simp only [hshape, Laid]
  constructor
  · rintro ⟨core, first, htrim, hlined, hne, hnamed⟩
    exact ⟨first, ⟨core, htrim, hlined⟩, hne, hnamed⟩
  · rintro ⟨first, ⟨core, htrim, hlined⟩, hne, hnamed⟩
    exact ⟨core, first, htrim, hlined, hne, hnamed⟩

theorem runFrom_cons_eq_error_iff {surface : Surface} (hs : surface.Writable) {id : Nat}
    {i : Instruction} {is : List Instruction} {t : Rover} {e : RunError}
    (hi : i.alone surface id = .ok t) :
    (∃ positions, runFrom surface id (i :: is) = .ok ⟨positions, some e⟩) ↔
      ∃ positions, runFrom surface (id + 1) is = .ok ⟨positions, some e⟩ := by
  rw [runFrom_cons_of_ok hs hi]
  constructor
  · rintro ⟨positions, h⟩
    obtain ⟨⟨later, error⟩, hlater, -⟩ := exists_runFrom hs (id + 1) is
    rw [hlater] at h ⊢
    obtain rfl : error = some e := congrArg Outcome.error (Except.ok.inj h)
    exact ⟨later, rfl⟩
  · rintro ⟨positions, h⟩
    rw [h]
    exact ⟨t.text :: positions, rfl⟩

theorem exists_first_cons_iff {α : Type} {P : α → Prop} {Q : α → Nat → Prop} {a : α}
    {as : List α} :
    (∃ before b after, a :: as = before ++ b :: after ∧ (∀ c ∈ before, P c) ∧ Q b before.length) ↔
      Q a 0 ∨ P a ∧ ∃ before b after, as = before ++ b :: after ∧ (∀ c ∈ before, P c) ∧
        Q b (before.length + 1) := by
  constructor
  · rintro ⟨before, b, after, hsplit, hbefore, hb⟩
    cases before with
    | nil =>
      obtain ⟨rfl, rfl⟩ := List.cons.inj hsplit
      exact .inl hb
    | cons a' before =>
      obtain ⟨rfl, rfl⟩ := List.cons.inj hsplit
      obtain ⟨ha, hbefore⟩ := List.forall_mem_cons.1 hbefore
      exact .inr ⟨ha, before, b, after, rfl, hbefore, hb⟩
  · rintro (ha | ⟨ha, before, b, after, rfl, hbefore, hb⟩)
    · exact ⟨[], a, as, rfl, by simp, ha⟩
    · exact ⟨a :: before, b, after, rfl, List.forall_mem_cons.2 ⟨ha, hbefore⟩, hb⟩

theorem runFrom_eq_error_iff {surface : Surface} (hs : surface.Writable) {id : Nat}
    {is : List Instruction} {e : RunError} :
    (∃ positions, runFrom surface id is = .ok ⟨positions, some e⟩) ↔
      ∃ before i after, is = before ++ i :: after ∧ (∀ j ∈ before, j.Sound surface) ∧
        i.Faulty surface ↑(id + before.length) e := by
  induction is generalizing id with
  | nil => simp [runFrom]
  | cons i is ih =>
    have hfirst := @exists_first_cons_iff _ (·.Sound surface)
      (fun j n => j.Faulty surface ↑(id + n) e) i is
    rw [hfirst, Nat.add_zero, ← Instruction.alone_eq_error_iff, Instruction.sound_iff id]
    cases halone : i.alone surface id with
    | error d =>
      rw [runFrom_cons_of_error hs halone]
      constructor
      · rintro ⟨positions, h⟩
        obtain rfl : d = e := Option.some.inj (congrArg Outcome.error (Except.ok.inj h))
        exact .inl rfl
      · rintro (h | ⟨⟨t, h⟩, -⟩)
        · obtain rfl := Except.error.inj h
          exact ⟨[], rfl⟩
        · contradiction
    | ok t =>
      have hshift (n : Nat) : id + 1 + n = id + (n + 1) := by omega
      rw [runFrom_cons_eq_error_iff hs halone, ih]
      simp only [hshift]
      constructor
      · intro hlater
        exact .inr ⟨⟨t, rfl⟩, hlater⟩
      · rintro (h | ⟨-, hlater⟩)
        · contradiction
        · exact hlater

theorem exists_run_error_iff {text : List Char} {e : RunError} :
    (∃ positions, run {} text = .ok ⟨positions, some e⟩) ↔ Diagnosis text e := by
  constructor
  · rintro ⟨positions, h⟩
    cases hread : read text with
    | error d =>
      rw [run_of_read_error hread] at h
      obtain rfl : d = e := Option.some.inj (congrArg Outcome.error (Except.ok.inj h))
      exact .unreadable (read_eq_error_iff.1 hread)
    | ok p =>
      obtain ⟨surface, is⟩ := p
      rw [run_of_read_ok hread, mapError_eq_ok_iff] at h
      obtain ⟨before, i, after, rfl, hbefore, hfaulty⟩ :=
        (runFrom_eq_error_iff (writable_of_read hread)).1 ⟨positions, h⟩
      rw [Nat.zero_add] at hfaulty
      obtain ⟨first, hl, -, hs⟩ := read_eq_ok_iff_laid.1 hread
      exact .rover hl hs hbefore hfaulty
  · intro h
    cases h with
    | unreadable h => exact ⟨[], run_of_read_error (read_eq_error_iff.2 h)⟩
    | @rover first before after i surface _ hl hs hbefore h =>
      have hread : read text = .ok (surface, before ++ i :: after) :=
        read_eq_ok_iff_laid.2 ⟨first, hl, by simp, hs⟩
      rw [← Nat.zero_add before.length] at h
      obtain ⟨positions, hrun⟩ := (runFrom_eq_error_iff (writable_of_read hread)).2
        ⟨before, i, after, rfl, hbefore, h⟩
      exact ⟨positions, by rw [run_of_read_ok hread, hrun]; rfl⟩

/-- A run fails with the first fault of its text, and with nothing else. -/
theorem run_error_iff_diagnosis {config : RunnerConfig} (h : ∀ n ∈ config.maxWorkers, 1 ≤ n)
    (text : List Char) (machine : Machine) (e : RunError) :
    (∃ positions, run config text machine = .ok ⟨positions, some e⟩) ↔ Diagnosis text e := by
  rw [run_config_eq h]
  exact exists_run_error_iff

/-- A rover with a word for its y coordinate and no heading, behind one that finishes. -/
theorem run_error_iff_diagnosis_of_two :
    (∀ n ∈ some (2 : Int), 1 ≤ n) ∧
      Diagnosis "5 5\n1 1 N\nLM\n0 x Q\nMX".toList (.robotCoordinateParse 1 "y" "x") := by
  have hw : ∀ n ∈ some (2 : Int), 1 ≤ n := by simp
  have hrun : run ⟨true, some 2⟩ "5 5\n1 1 N\nLM\n0 x Q\nMX".toList =
      .ok ⟨["0 1 W"], some (.robotCoordinateParse 1 "y" "x")⟩ := by decide +kernel
  exact ⟨hw, (run_error_iff_diagnosis hw _ {} _).1 ⟨_, hrun⟩⟩

end Instructions

end Plateau
