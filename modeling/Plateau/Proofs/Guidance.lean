import Plateau.Proofs.Course
import Plateau.Proofs.Reading

namespace Plateau.Rover

open Numeral (tooLong)
open Text (trim)

variable {surface : Surface} {r : Rover} {w v rest : List Char} {c : Char}

/-- The rover is stopped at index `i` of its commands: the character there is no command, or the
commands up to it leave the rover off the surface. -/
def Stopped (surface : Surface) (r : Rover) (w : List Char) (i : Nat) : Prop :=
  ∃ c, w[i]? = some c ∧
    ((c ≠ 'L' ∧ c ≠ 'R' ∧ c ≠ 'M') ∨ ¬surface.Contains (r.after (w.take (i + 1))).point)

/-- The least index at which the rover is stopped. -/
structure StoppedFirst (surface : Surface) (r : Rover) (w : List Char) (i : Nat) : Prop where
  stopped : r.Stopped surface w i
  least : ∀ j < i, ¬r.Stopped surface w j

theorem StoppedFirst.unique {i j : Nat} (hi : r.StoppedFirst surface w i)
    (hj : r.StoppedFirst surface w j) : i = j := by
  have hij : ¬i < j := fun h => hj.least i h hi.stopped
  have hji : ¬j < i := fun h => hi.least j h hj.stopped
  omega

theorem not_stopped_of_stays (hv : Word v) (hs : r.Stays surface v) (rest : List Char) {j : Nat}
    (hj : j < v.length) : ¬r.Stopped surface (v ++ rest) j := by
  intro h
  obtain ⟨c, hc, hno⟩ := h
  rw [List.getElem?_append_left hj] at hc
  have hletter : c = 'L' ∨ c = 'R' ∨ c = 'M' := hv c (List.mem_of_getElem? hc)
  have hin : surface.Contains (r.after ((v ++ rest).take (j + 1))).point := by
    rw [List.take_append_of_le_length hj]
    exact hs j hj
  cases hno with
  | inl hunread => exact absurd hletter (by simpa using hunread)
  | inr hout => exact hout hin

theorem not_stopped_of_word (hw : Word w) (hs : r.Stays surface w) (i : Nat) :
    ¬r.Stopped surface w i := by
  intro h
  have hi : i < w.length := by
    obtain ⟨c, hc, -⟩ := h
    exact (List.getElem?_eq_some_iff.1 hc).1
  have hno := not_stopped_of_stays hw hs [] hi
  rw [List.append_nil] at hno
  exact hno h

theorem stoppedFirst_of_halts {t : Rover} {e : RunError} (hv : Word v) (hs : r.Stays surface v)
    (hhalts : (r.after v).Halts surface c t e) (rest : List Char) :
    r.StoppedFirst surface (v ++ c :: rest) v.length where
  stopped := by
    refine ⟨c, by simp, ?_⟩
    cases hhalts with
    | unreadable hc => exact .inl (Command.ofChar?_eq_none_iff.1 hc)
    | outside hc hout =>
      have htake : (v ++ c :: rest).take (v.length + 1) = v ++ [c] := by
        simp [List.take_append]
      right
      rw [htake, after_concat hc]
      exact hout
  least _ hj := not_stopped_of_stays hv hs _ hj

/-- How guiding a rover along `w` ends: nothing stops it and its state is told, or it is stopped
first at some index.  An unreadable character leaves it as the commands before left it, and a
command that puts it off the surface leaves it there. -/
structure Ends (surface : Surface) (r : Rover) (w : List Char)
    (result : Rover × Option RunError) : Prop where
  id : result.1.id = r.id
  through : (∀ i, ¬r.Stopped surface w i) → result = (r.after w, none)
  written : (∀ i, ¬r.Stopped surface w i) → (r.after w).point.x.natAbs < tooLong →
    (r.after w).point.y.natAbs < tooLong → result.1.render = .ok
      s!"{(r.after w).point.x} {(r.after w).point.y} {(r.after w).heading.letter}"
  unreadable : ∀ i c, r.StoppedFirst surface w i → w[i]? = some c →
    (c ≠ 'L' ∧ c ≠ 'R' ∧ c ≠ 'M') →
      result = (r.after (w.take i), some (.robotMovementParse r.id (String.singleton c)))
  outside : ∀ i c, r.StoppedFirst surface w i → w[i]? = some c →
    (c = 'L' ∨ c = 'R' ∨ c = 'M') →
      result = (r.after (w.take (i + 1)), some (.robotOutOfBounds r.id
        (r.after (w.take (i + 1))).point.x (r.after (w.take (i + 1))).point.y))

theorem ends_of_through (hw : Word w) (hs : r.Stays surface w) :
    Ends surface r w (r.after w, none) where
  id := id_after r w
  through _ := rfl
  written _ hx hy := render_eq_ok hx hy
  unreadable i _ hi _ _ := absurd hi.stopped (not_stopped_of_word hw hs i)
  outside i _ hi _ _ := absurd hi.stopped (not_stopped_of_word hw hs i)

theorem ends_of_halts {t : Rover} {e : RunError} (hv : Word v) (hs : r.Stays surface v)
    (hhalts : (r.after v).Halts surface c t e) (rest : List Char) :
    Ends surface r (v ++ c :: rest) (t, some e) := by
  have hfirst := stoppedFirst_of_halts hv hs hhalts rest
  have hc : (v ++ c :: rest)[v.length]? = some c := by simp
  have hbefore : (v ++ c :: rest).take v.length = v := by simp
  have hwith : (v ++ c :: rest).take (v.length + 1) = v ++ [c] := by simp [List.take_append]
  constructor
  case id =>
    cases hhalts with
    | unreadable hc => exact id_after r v
    | outside hc hout => rw [id_follow, id_after]
  case through => exact fun hno => absurd hfirst.stopped (hno v.length)
  case written => exact fun hno => absurd hfirst.stopped (hno v.length)
  case unreadable =>
    intro i d hi hd hno
    obtain rfl := hi.unique hfirst
    obtain rfl := Option.some.inj (hd.symm.trans hc)
    rw [hbefore]
    cases hhalts with
    | unreadable hc' => rw [id_after]
    | outside hc' hout =>
      rw [Command.ofChar?_eq_none_iff.2 hno] at hc'
      contradiction
  case outside =>
    intro i d hi hd hletter
    obtain rfl := hi.unique hfirst
    obtain rfl := Option.some.inj (hd.symm.trans hc)
    rw [hwith]
    cases hhalts with
    | unreadable hc' =>
      obtain ⟨command, hcommand⟩ := Command.exists_of_letter hletter
      rw [hcommand] at hc'
      contradiction
    | outside hc' hout => rw [after_concat hc', id_after]

theorem ends_walk (surface : Surface) (w : List Char) (r : Rover) :
    Ends surface r w (r.walk surface w) := by
  rcases walk_cases surface w r with
    ⟨hw, hs, hwalk⟩ | ⟨v, c, rest, t, e, rfl, hv, hs, hhalts, hwalk⟩
  · rw [hwalk]
    exact ends_of_through hw hs
  · rw [hwalk]
    exact ends_of_halts hv hs hhalts rest

/-- Nothing behind the index at which a rover is stopped is looked at. -/
theorem walk_congr {i : Nat} {u : List Char} (hi : r.StoppedFirst surface w i)
    (hu : u.take (i + 1) = w.take (i + 1)) : r.walk surface u = r.walk surface w := by
  rcases walk_cases surface w r with
    ⟨hw, hs, -⟩ | ⟨v, c, rest, t, e, rfl, hv, hs, hhalts, hwalk⟩
  · exact absurd hi.stopped (not_stopped_of_word hw hs i)
  · obtain rfl := hi.unique (stoppedFirst_of_halts hv hs hhalts rest)
    have hwith : (v ++ c :: rest).take (v.length + 1) = v ++ [c] := by simp [List.take_append]
    rw [hwith] at hu
    have hsplit : u = v ++ c :: u.drop (v.length + 1) := by
      rw [← List.take_append_drop (v.length + 1) u, hu]
      simp
    rw [hwalk, hsplit, walk_append hv hs, walk_of_halts hhalts]

/-- Guiding ends where the trimmed commands first stop the rover, and it looks at nothing behind
that; if they do not stop it, it ends with the state that all of them leave. -/
theorem guide_ends (surface : Surface) (r : Rover) (commands : List Char) :
    Ends surface r (trim commands) (r.guide surface commands) ∧
      ∀ i, r.StoppedFirst surface (trim commands) i → ∀ others,
        (trim others).take (i + 1) = (trim commands).take (i + 1) →
          r.guide surface others = r.guide surface commands :=
  ⟨ends_walk surface (trim commands) r, fun _ hi _ hothers => walk_congr hi hothers⟩

example : Rover.guide ⟨1, 1⟩ " MX".toList ⟨7, ⟨0, 0⟩, .north⟩ =
    (⟨7, ⟨0, 1⟩, .north⟩, some (.robotMovementParse 7 "X")) := by decide

example : Rover.guide ⟨1, 1⟩ "LM".toList ⟨7, ⟨5, -1⟩, .unknown⟩ =
    (⟨7, ⟨5, -1⟩, .unknown⟩, some (.robotOutOfBounds 7 5 (-1))) := by decide

end Plateau.Rover
