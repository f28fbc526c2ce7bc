import Plateau.Proofs.Course
import Plateau.Proofs.Reading

namespace Plateau

def Heading.opposite : Heading → Heading
  | north => south
  | east => west
  | south => north
  | west => east
  | unknown => unknown

namespace Rover

variable {surface : Surface} {r t : Rover} {w : List Char}

def about (r : Rover) : Rover := { r with heading := r.heading.opposite }

@[simp] theorem point_about (r : Rover) : r.about.point = r.point := rfl

@[simp] theorem about_about (r : Rover) : r.about.about = r := by
  obtain ⟨id, point, heading⟩ := r
  cases heading <;> rfl

/-- A rover that was turned round undoes a command by its counterpart. -/
theorem follow_about_follow (r : Rover) (c : Command) :
    (r.follow c).about.follow c.exchanged = r.about := by
  obtain ⟨id, ⟨x, y⟩, heading⟩ := r
  cases c <;> cases heading <;>
    simp [follow, travel, apply, about, Command.exchanged, Heading.opposite, Heading.turnLeft,
      Heading.turnRight, Heading.ahead]

theorem after_half_turn (r : Rover) (w : List Char) :
    r.after ('R' :: 'R' :: w) = r.about.after w := by
  have hc : Command.ofChar? 'R' = some .right := rfl
  have hround : (r.follow .right).follow .right = r.about := by
    obtain ⟨id, point, heading⟩ := r
    rw [follow_right, follow_right]
    cases heading <;> rfl
  rw [after_cons hc, after_cons hc, hround]

theorem walk_half_turn (hin : surface.Contains r.point) (w : List Char) :
    r.walk surface ('R' :: 'R' :: w) = r.about.walk surface w := by
  have hword : Word ['R', 'R'] := by simp [Word]
  have hc : Command.ofChar? 'R' = some .right := rfl
  have hstays : r.Stays surface ['R', 'R'] := by
    rw [stays_cons hc, stays_cons hc, follow_right, follow_right]
    exact ⟨hin, hin, stays_nil _⟩
  have h := walk_append hword hstays w
  rwa [after_half_turn, after_nil] at h

/-- The commands of a word in reverse order, with left and right exchanged. -/
def reversed (w : List Char) : List Char := w.reverse.map exchangeTurn

theorem length_reversed (w : List Char) : (reversed w).length = w.length := by simp [reversed]

theorem word_reversed (hw : Word w) : Word (reversed w) :=
  word_map_exchangeTurn fun c hc => hw c (List.mem_reverse.1 hc)

theorem take_reversed (w : List Char) (k : Nat) :
    (reversed w).take k = reversed (w.drop (w.length - k)) := by
  rw [reversed, ← List.map_take, List.take_reverse, reversed]

theorem after_reversed (hw : Word w) (r : Rover) :
    (r.after w).about.after (reversed w) = r.about := by
  induction w generalizing r with
  | nil => rfl
  | cons c w ih =>
    obtain ⟨hc, hw⟩ := word_cons.1 hw
    obtain ⟨command, hcommand⟩ := Command.exists_of_letter hc
    have hback : Command.ofChar? (exchangeTurn c) = some command.exchanged := by
      rw [Command.ofChar?_exchangeTurn, hcommand]
      rfl
    have hcons : reversed (c :: w) = reversed w ++ [exchangeTurn c] := by simp [reversed]
    rw [hcons, after_cons hcommand, after_concat hback, ih hw, follow_about_follow]

/-- On the way back the rover is where it was on the way out, as many commands from the far end. -/
theorem after_take_reversed (hw : Word w) (r : Rover) (k : Nat) :
    (r.after w).about.after ((reversed w).take k) = (r.after (w.take (w.length - k))).about := by
  have hrest : Word (w.drop (w.length - k)) := fun c hc => hw c (List.mem_of_mem_drop hc)
  have hsplit : r.after w = (r.after (w.take (w.length - k))).after (w.drop (w.length - k)) := by
    rw [← after_append, List.take_append_drop]
  rw [take_reversed, hsplit, after_reversed hrest]

theorem stays_reversed (hin : surface.Contains r.point) (hw : Word w) (hs : r.Stays surface w) :
    (r.after w).about.Stays surface (reversed w) := by
  intro k hk
  rw [after_take_reversed hw, point_about]
  exact contains_after_take hin hs (Nat.sub_le _ _)

/-- The reversed word between two half turns. -/
def wayBack (w : List Char) : List Char := ['R', 'R'] ++ reversed w ++ ['R', 'R']

theorem word_wayBack (hw : Word w) : Word (wayBack w) := by
  intro c hc
  have hcases : c = 'R' ∨ c ∈ reversed w := by simpa [wayBack, or_comm] using hc
  cases hcases with
  | inl h => exact .inr (.inl h)
  | inr h => exact word_reversed hw c h

theorem walk_wayBack (hin : surface.Contains r.point) (hw : Word w) (hs : r.Stays surface w) :
    (r.after w).walk surface (wayBack w) = (r, none) := by
  have hfar : surface.Contains (r.after w).point := contains_after hin hs
  have hnear : surface.Contains r.about.point := hin
  calc (r.after w).walk surface (wayBack w)
      = (r.after w).about.walk surface (reversed w ++ ['R', 'R']) := walk_half_turn hfar _
    _ = ((r.after w).about.after (reversed w)).walk surface ['R', 'R'] :=
      walk_append (word_reversed hw) (stays_reversed hin hw hs) _
    _ = r.about.walk surface ['R', 'R'] := by rw [after_reversed hw]
    _ = r.about.about.walk surface [] := walk_half_turn hnear []
    _ = (r, none) := by rw [about_about, walk]

/-- Every walk can be walked back.  A rover on the surface that comes to rest at the end of a word
is guided by the way back, without a step off the surface, to the state in which it set out: after
the first half turn it passes the points of its way out, the last first. -/
theorem guide_wayBack (hs : surface.Writable) (hin : surface.Contains r.point) (hw : Word w)
    (hguide : r.guide surface w = (t, none)) :
    t.guide surface (wayBack w) = (r, none) ∧ t.render = .ok t.text ∧ r.render = .ok r.text ∧
      ∀ k ≤ w.length,
        (t.after ((wayBack w).take (2 + k))).point = (r.after (w.take (w.length - k))).point := by
  rw [guide, trim_word hw] at hguide
  obtain ⟨-, hstays, rfl⟩ := walk_eq_none_iff.1 hguide
  have hfar : surface.Contains (r.after w).point := contains_after hin hstays
  refine ⟨?_, render_of_contains hs hfar, render_of_contains hs hin, fun k hk => ?_⟩
  · rw [guide, trim_word (word_wayBack hw)]
    exact walk_wayBack hin hw hstays
  · have htake : (wayBack w).take (2 + k) = 'R' :: 'R' :: (reversed w).take k := by
      have hlong : k ≤ (reversed w).length := by rwa [length_reversed]
      have hturns : wayBack w = 'R' :: 'R' :: (reversed w ++ ['R', 'R']) := rfl
      rw [Nat.add_comm, hturns, List.take_succ_cons, List.take_succ_cons,
        List.take_append_of_le_length hlong]
    rw [htake, after_half_turn, after_take_reversed hw, point_about]

/-- Round a corner of the surface and back. -/
theorem guide_wayBack_of_five :
    Surface.Contains ⟨2, 2⟩ ⟨1, 1⟩ ∧ Word "MLMLM".toList ∧
      guide ⟨2, 2⟩ "MLMLM".toList ⟨0, ⟨1, 1⟩, .north⟩ = (⟨0, ⟨0, 1⟩, .south⟩, none) ∧
      guide ⟨2, 2⟩ "RRMRMRMRR".toList ⟨0, ⟨0, 1⟩, .south⟩ = (⟨0, ⟨1, 1⟩, .north⟩, none) := by
  have hs : Surface.Writable ⟨2, 2⟩ :=
    ⟨Numeral.lt_tooLong (by decide), Numeral.lt_tooLong (by decide)⟩
  have hin : Surface.Contains ⟨2, 2⟩ ⟨1, 1⟩ := by decide
  have hw : Word "MLMLM".toList := by simp [Word]
  have hguide : guide ⟨2, 2⟩ "MLMLM".toList ⟨0, ⟨1, 1⟩, .north⟩ = (⟨0, ⟨0, 1⟩, .south⟩, none) := by
    decide
  exact ⟨hin, hw, hguide, (guide_wayBack hs hin hw hguide).1⟩

end Rover

end Plateau
