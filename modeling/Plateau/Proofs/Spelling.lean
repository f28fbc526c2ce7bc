import Plateau.Proofs.Checkpoint

namespace Plateau

open Numeral (Denotes Short Signed digitLimit read tooLong write)

theorem Numeral.exists_write_of_short {n : Int} (h : Short n) :
    ∃ s, write n = .ok s ∧ read s.toList = .ok n := by
  have hwrite : write n = .ok (toString n) := write_eq_ok (short_iff.1 h)
  exact ⟨toString n, hwrite, read_of_write hwrite⟩

theorem Rover.exists_render_of_short {surface : Surface} {r : Rover} (hx : Short r.point.x)
    (hy : Short r.point.y) (hin : surface.Contains r.point) (hheading : r.heading ≠ .unknown) :
    ∃ s, r.render = .ok s ∧ place r.id s.toList surface = .ok r := by
  have htells := tells_of_short hx hy hin hheading
  exact ⟨r.text, htells.written, place_of_tells htells⟩

/-- A token is read as a number exactly if it is a numeral, and as the number that it denotes.
Any other token is refused, because it is no signed row of digits or because of their number.  What
is written of a number is read as that number, and what is written of a rover on a surface places
it there again, as long as the numbers are short. -/
theorem spelling_read_back :
    (∀ s n, read s = .ok n ↔ Denotes s n) ∧
    (∀ s, (∀ n, ¬Denotes s n) →
      (read s = .error .notNumeral ∧ ∀ ds, ¬Signed s ds) ∨
        ∃ ds, Signed s ds ∧ digitLimit < ds.length ∧
          read s = .error (.tooManyDigits ds.length)) ∧
    (∀ n, Short n → ∃ s, write n = .ok s ∧ read s.toList = .ok n) ∧
    ∀ (surface : Surface) (r : Rover), Short r.point.x → Short r.point.y →
      surface.Contains r.point → r.heading ≠ .unknown →
        ∃ s, r.render = .ok s ∧ Rover.place r.id s.toList surface = .ok r := by
  refine ⟨fun s n => Numeral.read_eq_ok_iff, ?_, fun n => Numeral.exists_write_of_short,
    fun surface r => Rover.exists_render_of_short⟩
  intro s hno
  rcases Numeral.read_cases s with ⟨n, hn⟩ | hrefused
  · exact absurd (Numeral.denotes_of_read hn) (hno n)
  · exact hrefused

/-- The greatest coordinate that can be written, on a surface whose own bound cannot, and a token
that is only close to a numeral. -/
theorem spelling_read_back_of_greatest :
    let surface : Surface := ⟨tooLong, 0⟩
    let r : Rover := ⟨7, ⟨(tooLong - 1 : Nat), 0⟩, .west⟩
    Short r.point.x ∧ Short r.point.y ∧ surface.Contains r.point ∧ r.heading ≠ .unknown ∧
      (∃ s, r.render = .ok s ∧ Rover.place r.id s.toList surface = .ok r) ∧
      (∀ n, ¬Denotes "1_0".toList n) ∧ read "1_0".toList = .error .notNumeral ∧
        ∀ ds, ¬Signed "1_0".toList ds := by
  intro surface r
  obtain ⟨-, hrefused, -, hplaced⟩ := spelling_read_back
  have hpos : 0 < tooLong := Numeral.lt_tooLong (by decide)
  have hx : Short r.point.x := Numeral.short_natCast (Nat.sub_lt hpos Nat.one_pos)
  have hy : Short r.point.y := Numeral.short_natCast (n := 0) hpos
  have edge {m n : Nat} (h : n ≤ m) : Surface.Contains ⟨m, 0⟩ ⟨n, 0⟩ :=
    ⟨Int.natCast_nonneg n, Int.ofNat_le.2 h, Int.le_refl 0, Int.le_refl 0⟩
  have hin : surface.Contains r.point := edge (Nat.sub_le tooLong 1)
  have hheading : r.heading ≠ .unknown := Heading.noConfusion
  have hread : read "1_0".toList = .error .notNumeral := by decide
  have hno : ∀ n, ¬Denotes "1_0".toList n := fun n hn =>
    nomatch hread.symm.trans (Numeral.read_of_denotes hn)
  refine ⟨hx, hy, hin, hheading, hplaced surface r hx hy hin hheading, hno, ?_⟩
  rcases hrefused _ hno with hform | ⟨ds, -, -, hlong⟩
  · exact hform
  · exact nomatch hread.symm.trans hlong

/-- A numeral has nothing around its sign and digits, and nothing between them. -/
example : ["", "+", "+-1", " 1", "1\n", "1_0", "١"].map (fun s => read s.toList) =
    List.replicate 7 (.error .notNumeral) := by decide

end Plateau
