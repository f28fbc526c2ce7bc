import Plateau.Proofs.Language

namespace Plateau

open Text (trim Spaced blank_nil words_eq_iff)
open Numeral

namespace RunError

def numbers (e : RunError) : List Int :=
  e.detail.filterMap fun
    | (_, .int n) => some n
    | _ => none

/-- None of the numbers is too long to be written. -/
def Printable (e : RunError) : Prop := ∀ n ∈ e.numbers, n.natAbs < tooLong

theorem printable_of_lt {e : RunError} (h : ∀ n ∈ e.numbers, n.natAbs < 2 ^ 64) : e.Printable :=
  fun n hn => lt_tooLong (h n hn)

theorem exists_message_iff (e : RunError) : (∃ message, e.message = .ok message) ↔ e.Printable := by
  cases e <;>
    simp only [message, bind_eq_ok_iff, write_eq_ok_iff] <;>
    simp [Printable, numbers, detail, pure, Except.pure]

end RunError

open RunError (Printable)

/-- A rover went past a bound to the least number that is too long. -/
def Surface.Exceeded (s : Surface) (e : RunError) : Prop :=
  ∃ id x y, e = .robotOutOfBounds id x y ∧
    (x = tooLong ∧ s.upperX + 1 = tooLong ∨ y = tooLong ∧ s.upperY + 1 = tooLong)

theorem Surface.not_exceeded_of_printable {s : Surface} {e : RunError} (h : e.Printable) :
    ¬s.Exceeded e := by
  rintro ⟨id, x, y, rfl, hxy⟩
  have hx := h x (by simp [RunError.numbers, RunError.detail])
  have hy := h y (by simp [RunError.numbers, RunError.detail])
  omega

theorem Surface.printable_of_unnamed {line : List Char} {e : RunError}
    (h : Surface.Unnamed line e) (hlen : line.length + 1 < tooLong) : e.Printable := by
  have h0 : 0 < tooLong := by omega
  cases h with
  | dimensions hw hn =>
    have hle := hw.length_le
    intro n hmem
    obtain rfl : n = _ := by simpa [RunError.numbers, RunError.detail] using hmem
    omega
  | xParse hw hx => simp [Printable, RunError.numbers, RunError.detail]
  | yParse hw hx hy => simp [Printable, RunError.numbers, RunError.detail]
  | xBound hw hx hy hm =>
    have hx := Numeral.natAbs_lt_of_denotes hx
    simp [Printable, RunError.numbers, RunError.detail, hx, h0]
  | yBound hw hx hy hm hn =>
    have hy := Numeral.natAbs_lt_of_denotes hy
    simp [Printable, RunError.numbers, RunError.detail, hy, h0]

theorem Rover.printable_of_misplaced {id : Int} {line : List Char} {surface : Surface}
    {e : RunError}
    (h : Rover.Misplaced id line surface e) (hid : id.natAbs < tooLong)
    (hlen : line.length + 1 < tooLong) : e.Printable := by
  cases h with
  | length hw hn =>
    have hle := hw.length_le
    simp only [Printable, RunError.numbers, RunError.detail]
    simp [hid]
    omega
  | xParse hw hx => simpa [Printable, RunError.numbers, RunError.detail] using hid
  | yParse hw hx hy => simpa [Printable, RunError.numbers, RunError.detail] using hid
  | direction hw hx hy ht => simpa [Printable, RunError.numbers, RunError.detail] using hid
  | outside hp hout =>
    obtain ⟨x, y, -, hx, hy, -⟩ := hp
    have hx := Numeral.natAbs_lt_of_denotes hx
    have hy := Numeral.natAbs_lt_of_denotes hy
    simp [Printable, RunError.numbers, RunError.detail, hid, hx, hy]

theorem Instruction.printable_of_failing {surface : Surface} (hs : surface.Writable) {id : Int}
    {i : Instruction} {e : RunError} (h : i.Failing surface id e) (hid : id.natAbs < tooLong)
    (hlen : i.placement.length + 1 < tooLong) (hnot : ¬surface.Exceeded e) : e.Printable := by
  cases h with
  | misplaced h => exact Rover.printable_of_misplaced h hid hlen
  | @halted r t v rest c e hr hplaced hin htrim hword hstays h =>
    subst hr
    cases h with
    | unreadable hc => simpa [Printable, RunError.numbers, RunError.detail] using hid
    | @outside command hc hout =>
      -- The rover was on the surface before, so that it went one unit past a bound at most.
      obtain ⟨hx0, hx1, hy0, hy1⟩ := Rover.contains_after hin hstays
      obtain ⟨hxl, hxr, hyl, hyr⟩ := (r.after v).follow_point_near command
      obtain ⟨hux, huy⟩ := hs
      have h0 : Surface.lower = 0 := rfl
      have hx : ((r.after v).follow command).point.x.natAbs < tooLong := by
        by_contra hge
        exact hnot ⟨_, _, _, rfl, .inl (by omega)⟩
      have hy : ((r.after v).follow command).point.y.natAbs < tooLong := by
        by_contra hge
        exact hnot ⟨_, _, _, rfl, .inr (by omega)⟩
      simp [Printable, RunError.numbers, RunError.detail, hid, hx, hy]

namespace Instructions

theorem length_split_le (text : List Char) : (split text).length ≤ text.length + 1 :=
  (Text.length_pieces_le _ _).trans (Nat.succ_le_succ (Text.length_trim_le text))

theorem length_le_of_mem_split {text line : List Char} (h : line ∈ split text) :
    line.length ≤ text.length :=
  (Text.length_le_of_mem_pieces h).trans (Text.length_trim_le text)

theorem placement_mem_of_mem_pairs {ls : List (List Char)} {i : Instruction} (h : i ∈ pairs ls) :
    i.placement ∈ ls := by
  induction ls using pairs_induction with
  | nil => simp at h
  | single l => simp at h
  | pair placement commands rest ih =>
    rw [pairs_cons_cons] at h
    rcases List.mem_cons.1 h with rfl | h
    · exact List.mem_cons_self
    · exact List.mem_cons_of_mem _ (List.mem_cons_of_mem _ (ih h))

theorem length_pairs_le (ls : List (List Char)) : (pairs ls).length ≤ ls.length := by
  rw [pairs, numbered, List.length_map, List.length_map, List.length_range]
  exact Nat.div_le_self _ _

theorem printable_of_read_error {text : List Char} {e : RunError} (h : read text = .error e)
    (hlen : text.length + 1 < tooLong) : e.Printable := by
  obtain ⟨first, rest, hsplit⟩ : ∃ first rest, split text = first :: rest :=
    List.exists_cons_of_ne_nil (Text.pieces_ne_nil _ _)
  have hlines : (first :: rest).length ≤ text.length + 1 := hsplit ▸ length_split_le text
  have hfirst : first.length ≤ text.length := length_le_of_mem_split (hsplit ▸ List.mem_cons_self)
  rw [read_of_split hsplit] at h
  rcases bind_eq_error_iff.1 h with hshape | ⟨_, -, hrest⟩
  · rcases checkShape_eq_error_iff.1 hshape with ⟨-, rfl⟩ | ⟨-, -, rfl⟩
    all_goals
      intro n hn
      obtain rfl : n = ((first :: rest).length : Int) := by
        simpa [RunError.numbers, RunError.detail] using hn
      omega
  · rcases bind_eq_error_iff.1 hrest with hline | ⟨_, -, hok⟩
    · exact Surface.printable_of_unnamed (Surface.unnamed_of_ofLine hline) (by omega)
    · cases hok

/-- The rover that fails first goes past a bound to the least number that is too long. -/
def Exceeds (text : List Char) : Prop :=
  ∃ surface is o e, read text = .ok (surface, is) ∧ run {} text = .ok o ∧ o.error = some e ∧
    surface.Exceeded e

theorem printable_iff {text : List Char} (hlen : text.length + 1 < tooLong) {o : Outcome}
    (ho : run {} text = .ok o) : (∀ e ∈ o.error, e.Printable) ↔ ¬Exceeds text := by
  constructor
  · rintro h ⟨surface, is, o', e, hread, ho', he, hexceeded⟩
    obtain rfl : o = o' := Except.ok.inj (ho.symm.trans ho')
    exact Surface.not_exceeded_of_printable (h e he) hexceeded
  · intro hnot e he
    cases hread : read text with
    | error d =>
      rw [run_of_read_error hread] at ho
      obtain rfl := Except.ok.inj ho
      obtain rfl := Option.some.inj he
      exact printable_of_read_error hread hlen
    | ok p =>
      obtain ⟨surface, is⟩ := p
      have hs := writable_of_read hread
      obtain ⟨o', ho', hstop⟩ := exists_runFrom hs 0 is
      rw [run_of_read_ok hread, ho'] at ho
      obtain rfl := Except.ok.inj ho
      obtain ⟨first, rest, hsplit, -, -, rfl⟩ := read_eq_ok_iff.1 hread
      have hlines : (first :: rest).length ≤ text.length + 1 := hsplit ▸ length_split_le text
      have hcount := length_pairs_le rest
      obtain ⟨i, hi, hfailing⟩ := hstop.exists_failing he
      have hk := (List.getElem?_eq_some_iff.1 hi).1
      have hline : i.placement.length ≤ text.length := by
        apply length_le_of_mem_split
        rw [hsplit]
        exact List.mem_cons_of_mem _ (placement_mem_of_mem_pairs (List.mem_of_getElem? hi))
      simp only [List.length_cons] at hlines
      refine Instruction.printable_of_failing hs hfailing (by omega) (by omega) fun hexceeded => ?_
      exact hnot ⟨surface, _, _, e, hread, by rw [run_of_read_ok hread, ho']; rfl, he, hexceeded⟩

/-- A strip whose bound is written with `n` nines, and a rover that leaves it at its far end. -/
def edge (n : Nat) : List Char :=
  ['\n'].intercalate
    [List.replicate n '9' ++ [' ', '0'], List.replicate n '9' ++ [' ', '0', ' ', 'E'], ['M']]

theorem read_edge {n : Nat} (hpos : 0 < n) (hle : n ≤ digitLimit) :
    read (edge n) =
      .ok (⟨10 ^ n - 1, 0⟩, [⟨List.replicate n '9' ++ [' ', '0', ' ', 'E'], ['M']⟩]) := by
  have hfeed : '\n' ∉ List.replicate n '9' := by
    intro h
    exact absurd (List.eq_of_mem_replicate h) (by decide)
  refine read_eq_ok_iff_lined.2
    ⟨edge n, List.replicate n '9' ++ [' ', '0'], ?_, ⟨?_, ?_, rfl⟩, ?_, ?_⟩
  · refine ⟨⟨?_, ?_⟩, [], [], blank_nil, blank_nil, by simp⟩
    · obtain ⟨m, rfl⟩ : ∃ m, n = m + 1 := ⟨n - 1, by omega⟩
      intro c hc
      obtain rfl : '9' = c := by simpa [edge, List.intercalate, List.replicate_succ] using hc
      decide
    · intro c hc
      obtain rfl : 'M' = c := by
        simpa [edge, List.intercalate, List.getLast?_append, List.getLast?_cons] using hc
      decide
  · simp
  · simp [Instruction.lines, hfeed]
  · simp [Instruction.lines]
  · refine ⟨List.replicate n '9', ['0'], ?_, ?_, ?_⟩
    · exact spaced_digits (digits_nines hpos hle) (words_eq_iff.1 (by decide))
    · have h := Denotes.plain (digits_nines hpos hle)
      rw [value_nines] at h
      exact h
    · change Denotes ['0'] (0 : Int)
      exact denotes_of_read (by decide)

theorem placed_edge {n : Nat} (hpos : 0 < n) (hle : n ≤ digitLimit) :
    Rover.Placed (List.replicate n '9' ++ [' ', '0', ' ', 'E']) ⟨(10 ^ n - 1 : Nat), 0⟩ .east := by
  refine ⟨List.replicate n '9', ['0'], ?_, ?_, ?_, by simp⟩
  · change Spaced _ [_, ['0'], ['E']]
    exact spaced_digits (digits_nines hpos hle) (words_eq_iff.1 (by decide))
  · have h := Denotes.plain (digits_nines hpos hle)
    rw [value_nines] at h
    exact h
  · change Denotes ['0'] (0 : Int)
    exact denotes_of_read (by decide)

/-- The rover reaches the coordinate `10 ^ n`, which has one digit more than its bound. -/
theorem run_edge {n : Nat} (hpos : 0 < n) (hle : n ≤ digitLimit) :
    run {} (edge n) = .ok ⟨[], some (.robotOutOfBounds 0 (10 ^ n : Nat) 0)⟩ := by
  have hone : 0 < 10 ^ n := Nat.pow_pos (by decide)
  have hcast : ((10 ^ n - 1 : Nat) : Int) + 1 = (10 ^ n : Nat) := by omega
  have hread := read_edge hpos hle
  let surface : Surface := ⟨10 ^ n - 1, 0⟩
  have hin : surface.Contains ⟨(10 ^ n - 1 : Nat), 0⟩ := by
    simp only [Surface.Contains, Surface.lower, surface]
    omega
  have hout : ¬surface.Contains ⟨(10 ^ n : Nat), 0⟩ := by
    simp only [Surface.Contains, surface]
    omega
  have hplace : Rover.place 0 (List.replicate n '9' ++ [' ', '0', ' ', 'E']) surface =
      .ok ⟨0, ⟨(10 ^ n - 1 : Nat), 0⟩, .east⟩ :=
    Rover.place_eq_ok_iff.2 ⟨rfl, placed_edge hpos hle, hin⟩
  have hfollow : (Rover.mk 0 ⟨(10 ^ n - 1 : Nat), 0⟩ .east).follow .move =
      ⟨0, ⟨(10 ^ n : Nat), 0⟩, .east⟩ := by
    rw [Rover.follow_move, ← hcast]
    rfl
  have halone : Instruction.alone surface 0 ⟨List.replicate n '9' ++ [' ', '0', ' ', 'E'], ['M']⟩ =
      .error (.robotOutOfBounds 0 (10 ^ n : Nat) 0) := by
    have hchar : Command.ofChar? 'M' = some .move := rfl
    have htrim : trim ['M'] = ['M'] := by decide
    simp only [Instruction.alone, hplace, Rover.guide, htrim, Rover.walk, hchar, hfollow, hout,
      if_false]
  rw [run_of_read_ok hread, runFrom_cons_of_error (writable_of_read hread) halone]
  rfl

theorem exceeds_edge : Exceeds (edge digitLimit) := by
  refine ⟨_, _, _, _, read_edge (by decide) le_rfl, run_edge (by decide) le_rfl, rfl, 0, _, 0, rfl,
    .inl ?_⟩
  rw [tooLong_eq]
  have hpos : 0 < 10 ^ digitLimit := Nat.pow_pos (by decide)
  exact ⟨rfl, Nat.sub_add_cancel hpos⟩

end Instructions

end Plateau
