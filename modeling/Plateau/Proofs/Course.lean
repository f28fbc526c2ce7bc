import Mathlib.Algebra.BigOperators.Group.Finset.Basic
import Mathlib.Algebra.Group.Int.Defs
import Mathlib.Algebra.Group.Prod
import Mathlib.Data.List.Induction
import Plateau.Instructions
import Plateau.Proofs.Text.Trim

namespace Plateau

open Finset (range)

/-- Every character is a command. -/
def Word (w : List Char) : Prop := ∀ c ∈ w, c = 'L' ∨ c = 'R' ∨ c = 'M'

theorem Command.ofChar?_eq_none_iff {c : Char} :
    Command.ofChar? c = none ↔ c ≠ 'L' ∧ c ≠ 'R' ∧ c ≠ 'M' := by
  unfold Command.ofChar?
  split <;> simp_all

theorem Command.of_ofChar? {c : Char} {command : Command} (h : Command.ofChar? c = some command) :
    c = 'L' ∨ c = 'R' ∨ c = 'M' := by
  by_contra hc
  simp only [not_or] at hc
  rw [Command.ofChar?_eq_none_iff.2 hc] at h
  contradiction

theorem Command.exists_of_letter {c : Char} (h : c = 'L' ∨ c = 'R' ∨ c = 'M') :
    ∃ command, Command.ofChar? c = some command := by
  rcases h with rfl | rfl | rfl
  · exact ⟨.left, rfl⟩
  · exact ⟨.right, rfl⟩
  · exact ⟨.move, rfl⟩

theorem word_cons {c : Char} {w : List Char} :
    Word (c :: w) ↔ (c = 'L' ∨ c = 'R' ∨ c = 'M') ∧ Word w :=
  List.forall_mem_cons

theorem not_blank_of_word {w : List Char} (hw : Word w) : ∀ c ∈ w, Text.isBlank c = false := by
  intro c hc
  rcases hw c hc with rfl | rfl | rfl <;> decide

theorem trim_word {w : List Char} (hw : Word w) : Text.trim w = w := by
  have hclear := not_blank_of_word hw
  exact Text.trim_eq_self ⟨fun c hc => hclear c (List.mem_of_head? hc),
    fun c hc => hclear c (List.mem_of_getLast? hc)⟩

/-- Left and right change places. -/
def Command.exchanged : Command → Command
  | left => right
  | right => left
  | c => c

def exchangeTurn : Char → Char
  | 'L' => 'R'
  | 'R' => 'L'
  | c => c

theorem exchangeTurn_of_none {c : Char} (h : Command.ofChar? c = none) : exchangeTurn c = c := by
  obtain ⟨hl, hr, -⟩ := Command.ofChar?_eq_none_iff.1 h
  unfold exchangeTurn
  split <;> simp_all

theorem Command.ofChar?_exchangeTurn (c : Char) :
    ofChar? (exchangeTurn c) = (ofChar? c).map exchanged := by
  cases hc : ofChar? c with
  | none => rw [exchangeTurn_of_none hc, hc, Option.map_none]
  | some command => rcases of_ofChar? hc with rfl | rfl | rfl <;> cases hc <;> rfl

theorem word_map_exchangeTurn {w : List Char} (hw : Word w) : Word (w.map exchangeTurn) := by
  intro c hc
  obtain ⟨d, hd, rfl⟩ := List.mem_map.1 hc
  rcases hw d hd with rfl | rfl | rfl <;> simp [exchangeTurn]

/-- The heading after `k` quarter turns clockwise. -/
def Heading.turned (h : Heading) (k : Int) : Heading :=
  Heading.turnRight^[(k % 4).toNat] h

/-- The right turns of a word less its left turns. -/
def quarterTurns (w : List Char) : Int := w.count 'R' - w.count 'L'

def Heading.unit : Heading → Int × Int
  | .north => (0, 1)
  | .east => (1, 0)
  | .south => (0, -1)
  | .west => (-1, 0)
  | .unknown => (0, 0)

/-- What the moves of a word add up to: each goes along the heading that the turns before it
leave. -/
def displacement (h : Heading) (w : List Char) : Int × Int :=
  ∑ i ∈ range w.length with w[i]? = some 'M', (h.turned (quarterTurns (w.take i))).unit

def Point.shift (p : Point) (d : Int × Int) : Point := ⟨p.x + d.1, p.y + d.2⟩

theorem Point.shift_shift (p : Point) (d e : Int × Int) :
    (p.shift d).shift e = p.shift (d + e) := by
  simp [shift, Int.add_assoc]

theorem Heading.turned_mod (h : Heading) {k l : Int} (hkl : k % 4 = l % 4) :
    h.turned k = h.turned l := by
  rw [turned, turned, hkl]

theorem Heading.turned_add_one (h : Heading) (k : Int) :
    h.turned (k + 1) = (h.turned k).turnRight := by
  have hk : k % 4 = 0 ∨ k % 4 = 1 ∨ k % 4 = 2 ∨ k % 4 = 3 := by omega
  rcases hk with hk | hk | hk | hk
  · rw [h.turned_mod (k := k + 1) (l := 1) (by omega), h.turned_mod (k := k) (l := 0) (by omega)]
    rfl
  · rw [h.turned_mod (k := k + 1) (l := 2) (by omega), h.turned_mod (k := k) (l := 1) (by omega)]
    rfl
  · rw [h.turned_mod (k := k + 1) (l := 3) (by omega), h.turned_mod (k := k) (l := 2) (by omega)]
    rfl
  · rw [h.turned_mod (k := k + 1) (l := 0) (by omega), h.turned_mod (k := k) (l := 3) (by omega)]
    cases h <;> rfl

theorem Heading.turned_sub_one (h : Heading) (k : Int) :
    h.turned (k - 1) = (h.turned k).turnLeft := by
  have hk : h.turned k = (h.turned (k - 1)).turnRight := by
    rw [← turned_add_one, Int.sub_add_cancel]
  rw [hk]
  cases h.turned (k - 1) <;> rfl

def compass : List Heading := [.north, .east, .south, .west]

/-- A quarter turn goes on to the next heading of the compass, from the last to the first. -/
theorem Heading.getElem?_compass_turned {h : Heading} {j : Nat} (hj : compass[j]? = some h)
    (k : Int) : compass[((j + k) % 4).toNat]? = some (h.turned k) := by
  obtain ⟨hlt, rfl⟩ := List.getElem?_eq_some_iff.1 hj
  have hj4 : j = 0 ∨ j = 1 ∨ j = 2 ∨ j = 3 := by
    have hlength : compass.length = 4 := rfl
    omega
  have hk : k % 4 = 0 ∨ k % 4 = 1 ∨ k % 4 = 2 ∨ k % 4 = 3 := by omega
  rw [turned, Int.add_emod]
  rcases hj4 with rfl | rfl | rfl | rfl <;> rcases hk with hk | hk | hk | hk <;> rw [hk] <;> rfl

theorem quarterTurns_concat (w : List Char) (c : Char) :
    quarterTurns (w ++ [c]) =
      quarterTurns w + (if c = 'R' then 1 else 0) - if c = 'L' then 1 else 0 := by
  simp only [quarterTurns, List.count_append, List.count_singleton, beq_iff_eq]
  split <;> split <;> simp <;> omega

theorem displacement_concat (h : Heading) (w : List Char) (c : Char) :
    displacement h (w ++ [c]) =
      if c = 'M' then displacement h w + (h.turned (quarterTurns w)).unit
      else displacement h w := by
  have hsame : ∀ i ∈ range w.length,
      (if (w ++ [c])[i]? = some 'M' then (h.turned (quarterTurns ((w ++ [c]).take i))).unit
        else 0) =
        if w[i]? = some 'M' then (h.turned (quarterTurns (w.take i))).unit else 0 := by
    intro i hi
    have hlt : i < w.length := Finset.mem_range.1 hi
    rw [List.getElem?_append_left hlt, List.take_append_of_le_length hlt.le]
  simp only [displacement, Finset.sum_filter, List.length_append, List.length_singleton]
  rw [Finset.sum_range_succ, Finset.sum_congr rfl hsame]
  by_cases hc : c = 'M'
  · simp [hc]
  · simp [hc]

namespace Rover

/-- The rover after the commands of a word.  What is no command does nothing. -/
def after (r : Rover) (w : List Char) : Rover :=
  (w.filterMap Command.ofChar?).foldl follow r

@[simp] theorem after_nil (r : Rover) : r.after [] = r := rfl

theorem after_cons {c : Char} {command : Command} (hc : Command.ofChar? c = some command)
    (r : Rover) (w : List Char) : r.after (c :: w) = (r.follow command).after w := by
  simp [after, hc]

theorem after_append (r : Rover) (v w : List Char) : r.after (v ++ w) = (r.after v).after w := by
  simp [after, List.filterMap_append, List.foldl_append]

theorem after_concat {c : Char} {command : Command} (hc : Command.ofChar? c = some command)
    (r : Rover) (w : List Char) : r.after (w ++ [c]) = (r.after w).follow command := by
  rw [after_append, after_cons hc, after_nil]

theorem after_concat_of_none {c : Char} (hc : Command.ofChar? c = none) (r : Rover)
    (w : List Char) : r.after (w ++ [c]) = r.after w := by
  rw [after_append]
  simp [after, hc]

theorem follow_move (r : Rover) :
    r.follow .move = { r with point := r.point.shift r.heading.unit } := by
  obtain ⟨id, point, heading⟩ := r
  cases heading <;> rfl

theorem follow_left (r : Rover) : r.follow .left = { r with heading := r.heading.turnLeft } := by
  simp [follow, travel, apply]

theorem follow_right (r : Rover) : r.follow .right = { r with heading := r.heading.turnRight } := by
  simp [follow, travel, apply]

/-- The course in closed form. -/
theorem after_eq (r : Rover) (w : List Char) :
    r.after w =
      ⟨r.id, r.point.shift (displacement r.heading w), r.heading.turned (quarterTurns w)⟩ := by
  induction w using List.reverseRecOn with
  | nil => simp [displacement, quarterTurns, Point.shift, Heading.turned]
  | append_singleton w c ih =>
    rw [displacement_concat, quarterTurns_concat]
    by_cases hl : c = 'L'
    · subst hl
      have hc : Command.ofChar? 'L' = some .left := rfl
      rw [after_concat hc, ih, follow_left]
      simp [Heading.turned_sub_one]
    by_cases hr : c = 'R'
    · subst hr
      have hc : Command.ofChar? 'R' = some .right := rfl
      rw [after_concat hc, ih, follow_right]
      simp [Heading.turned_add_one]
    by_cases hm : c = 'M'
    · subst hm
      have hc : Command.ofChar? 'M' = some .move := rfl
      rw [after_concat hc, ih, follow_move]
      simp [Point.shift_shift]
    · rw [after_concat_of_none (Command.ofChar?_eq_none_iff.2 ⟨hl, hr, hm⟩), ih]
      simp [hl, hr, hm]

@[simp] theorem id_after (r : Rover) (w : List Char) : (r.after w).id = r.id := by
  rw [after_eq]

theorem follow_point_near (r : Rover) (c : Command) :
    r.point.x - 1 ≤ (r.follow c).point.x ∧ (r.follow c).point.x ≤ r.point.x + 1 ∧
      r.point.y - 1 ≤ (r.follow c).point.y ∧ (r.follow c).point.y ≤ r.point.y + 1 := by
  have hshort : -1 ≤ (travel r.heading c).dx ∧ (travel r.heading c).dx ≤ 1 ∧
      -1 ≤ (travel r.heading c).dy ∧ (travel r.heading c).dy ≤ 1 := by
    cases c <;> cases r.heading <;> decide
  simp only [follow, apply]
  omega

/-- The rover is on the surface after every command of a word. -/
def Stays (surface : Surface) (r : Rover) (w : List Char) : Prop :=
  ∀ k < w.length, surface.Contains (r.after (w.take (k + 1))).point

/-- A character at which a walk ends early, with the rover and the failure it ends with. -/
inductive Halts (surface : Surface) (r : Rover) (c : Char) : Rover → RunError → Prop where
  | unreadable (hc : Command.ofChar? c = none) :
    Halts surface r c r (.robotMovementParse r.id (String.singleton c))
  | outside {command : Command} (hc : Command.ofChar? c = some command)
    (hout : ¬surface.Contains (r.follow command).point) :
    Halts surface r c (r.follow command)
      (.robotOutOfBounds r.id (r.follow command).point.x (r.follow command).point.y)

variable {surface : Surface}

theorem stays_nil (r : Rover) : r.Stays surface [] := by simp [Stays]

theorem stays_cons {c : Char} {command : Command} (hc : Command.ofChar? c = some command)
    (r : Rover) (w : List Char) :
    r.Stays surface (c :: w) ↔
      surface.Contains (r.follow command).point ∧ (r.follow command).Stays surface w := by
  constructor
  · intro h
    refine ⟨?_, ?_⟩
    · have h0 := h 0 (by simp)
      rwa [List.take_succ_cons, List.take_zero, after_cons hc] at h0
    · intro k hk
      have hk' := h (k + 1) (by simpa using hk)
      rwa [List.take_succ_cons, after_cons hc] at hk'
  · rintro ⟨h0, h⟩ k hk
    rw [List.take_succ_cons, after_cons hc]
    cases k with
    | zero => simpa using h0
    | succ k => exact h k (by simpa using hk)

theorem contains_after_take {r : Rover} {w : List Char} (hin : surface.Contains r.point)
    (hs : r.Stays surface w) {k : Nat} (hk : k ≤ w.length) :
    surface.Contains (r.after (w.take k)).point := by
  cases k with
  | zero => exact hin
  | succ k => exact hs k hk

theorem contains_after {r : Rover} {w : List Char} (hin : surface.Contains r.point)
    (hs : r.Stays surface w) : surface.Contains (r.after w).point := by
  have hlast := contains_after_take hin hs w.length.le_refl
  rwa [List.take_length] at hlast

/-- A walk follows the whole word, or it ends at the first character that is no command or leads
off the surface. -/
theorem walk_cases (surface : Surface) (w : List Char) (r : Rover) :
    Word w ∧ r.Stays surface w ∧ r.walk surface w = (r.after w, none) ∨
      ∃ v c rest t e, w = v ++ c :: rest ∧ Word v ∧ r.Stays surface v ∧
        (r.after v).Halts surface c t e ∧ r.walk surface w = (t, some e) := by
  induction w generalizing r with
  | nil => exact .inl ⟨by simp [Word], stays_nil r, rfl⟩
  | cons c w ih =>
    cases hc : Command.ofChar? c with
    | none =>
      exact .inr ⟨[], c, w, r, _, rfl, by simp [Word], stays_nil r, .unreadable hc,
        by simp [walk, hc]⟩
    | some command =>
      by_cases hin : surface.Contains (r.follow command).point
      · have hwalk : r.walk surface (c :: w) = (r.follow command).walk surface w := by
          simp [walk, hc, hin]
        rcases ih (r.follow command) with ⟨hw, hs, hend⟩ | ⟨v, d, rest, t, e, rfl, hv, hs, hd, hend⟩
        · refine .inl ⟨word_cons.2 ⟨Command.of_ofChar? hc, hw⟩, ?_, ?_⟩
          · exact (stays_cons hc r w).2 ⟨hin, hs⟩
          · rw [hwalk, hend, after_cons hc]
        · refine .inr ⟨c :: v, d, rest, t, e, rfl, ?_, ?_, ?_, hwalk.trans hend⟩
          · exact word_cons.2 ⟨Command.of_ofChar? hc, hv⟩
          · exact (stays_cons hc r v).2 ⟨hin, hs⟩
          · rwa [after_cons hc]
      · exact .inr ⟨[], c, w, _, _, rfl, by simp [Word], stays_nil r, .outside hc hin,
          by simp [walk, hc, hin]⟩

theorem walk_append {v : List Char} {r : Rover} (hv : Word v) (hs : r.Stays surface v)
    (w : List Char) : r.walk surface (v ++ w) = (r.after v).walk surface w := by
  induction v generalizing r with
  | nil => rfl
  | cons c v ih =>
    obtain ⟨hc, hv⟩ := word_cons.1 hv
    obtain ⟨command, hcommand⟩ := Command.exists_of_letter hc
    obtain ⟨hin, hs⟩ := (stays_cons hcommand r v).1 hs
    rw [after_cons hcommand, ← ih hv hs]
    simp [walk, hcommand, hin]

theorem walk_of_stays {w : List Char} {r : Rover} (hw : Word w) (hs : r.Stays surface w) :
    r.walk surface w = (r.after w, none) := by
  have h := walk_append hw hs []
  rwa [List.append_nil] at h

theorem walk_of_halts {c : Char} {r t : Rover} {e : RunError} (h : r.Halts surface c t e)
    (rest : List Char) : r.walk surface (c :: rest) = (t, some e) := by
  cases h with
  | unreadable hc => simp [walk, hc]
  | outside hc hout => simp [walk, hc, hout]

theorem walk_eq_none_iff {w : List Char} {r t : Rover} :
    r.walk surface w = (t, none) ↔ Word w ∧ r.Stays surface w ∧ t = r.after w := by
  constructor
  · intro h
    rcases walk_cases surface w r with ⟨hw, hs, hend⟩ | ⟨v, c, rest, u, e, -, -, -, -, hend⟩
    · rw [hend] at h
      exact ⟨hw, hs, (Prod.mk.inj h).1.symm⟩
    · rw [hend] at h
      cases h
  · intro h
    obtain ⟨hw, hs, ht⟩ := h
    rw [ht, walk_of_stays hw hs]

theorem walk_eq_some_iff {w : List Char} {r t : Rover} {e : RunError} :
    r.walk surface w = (t, some e) ↔
      ∃ v c rest, w = v ++ c :: rest ∧ Word v ∧ r.Stays surface v ∧
        (r.after v).Halts surface c t e := by
  constructor
  · intro h
    rcases walk_cases surface w r with ⟨-, -, hend⟩ | ⟨v, c, rest, u, d, hw, hv, hs, hhalts, hend⟩
    · rw [hend] at h
      cases h
    · rw [hend] at h
      cases h
      exact ⟨v, c, rest, hw, hv, hs, hhalts⟩
  · rintro ⟨v, c, rest, rfl, hv, hs, hhalts⟩
    rw [walk_append hv hs, walk_of_halts hhalts]

end Rover

end Plateau
