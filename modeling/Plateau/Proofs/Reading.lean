import Mathlib.Data.List.Basic
import Plateau.Instructions
import Plateau.Proofs.Number.Numeral
import Plateau.Proofs.Text.Pieces

namespace Plateau

open Text (Spaced words_eq_iff)
open Numeral (Denotes tooLong)

theorem bind_eq_ok_iff {ε α β : Type} {x : Except ε α} {f : α → Except ε β} {b : β} :
    (x >>= f) = .ok b ↔ ∃ a, x = .ok a ∧ f a = .ok b := by
  cases x with
  | error e => simp [bind, Except.bind]
  | ok a => simp [bind, Except.bind]

theorem mapError_eq_ok_iff {ε δ α : Type} {x : Except ε α} {f : ε → δ} {a : α} :
    x.mapError f = .ok a ↔ x = .ok a := by
  cases x <;> simp [Except.mapError]

theorem mapError_eq_error_iff {ε δ α : Type} {x : Except ε α} {f : ε → δ} {d : δ} :
    x.mapError f = .error d ↔ ∃ e, x = .error e ∧ f e = d := by
  cases x <;> simp [Except.mapError]

theorem map_eq_ok_iff {ε α β : Type} {x : Except ε α} {f : α → β} {b : β} :
    f <$> x = .ok b ↔ ∃ a, x = .ok a ∧ f a = b := by
  cases x <;> simp [Functor.map, Except.map]

theorem bind_eq_error_iff {ε α β : Type} {x : Except ε α} {f : α → Except ε β} {e : ε} :
    (x >>= f) = .error e ↔ x = .error e ∨ ∃ a, x = .ok a ∧ f a = .error e := by
  cases x with
  | error d => simp [bind, Except.bind]
  | ok a => simp [bind, Except.bind]

theorem Numeral.not_blank_of_isDigit {c : Char} (h : c.isDigit = true) :
    Text.isBlank c = false := by
  obtain ⟨h0, h9⟩ : 48 ≤ c.toNat ∧ c.toNat ≤ 57 := (Numeral.isDigit_iff c).1 h
  simp only [Text.isBlank, Bool.or_eq_false_iff, Bool.and_eq_false_iff, decide_eq_false_iff_not,
    beq_eq_false_iff_ne]
  omega

theorem Numeral.token_of_digits {ds : List Char} (h : Numeral.Digits ds) : Text.Token ds := by
  refine ⟨h.ne_nil, ?_⟩
  intro c hc
  exact not_blank_of_isDigit ((Numeral.isDigit_iff c).2 (h.ascii c hc))

theorem Numeral.spaced_digits {ds s : List Char} {ws : List (List Char)} (h : Numeral.Digits ds)
    (hs : Spaced (' ' :: s) ws) : Spaced (ds ++ ' ' :: s) (ds :: ws) :=
  .cons Text.blank_nil (token_of_digits h) (by simp; decide) hs

theorem readCoordinate_eq_ok_iff {failure : RunError} {token : List Char} {n : Int} :
    readCoordinate failure token = .ok n ↔ Denotes token n := by
  rw [readCoordinate, mapError_eq_ok_iff, Numeral.read_eq_ok_iff]

theorem readCoordinate_eq_error_iff {failure e : RunError} {token : List Char} :
    readCoordinate failure token = .error e ↔ e = failure ∧ ∀ n, ¬Denotes token n := by
  unfold readCoordinate
  cases hr : Numeral.read token with
  | error u =>
    have hno : ∀ n, ¬Denotes token n := by
      intro n hn
      rw [Numeral.read_of_denotes hn] at hr
      contradiction
    constructor
    · intro h
      exact ⟨(Except.error.inj h).symm, hno⟩
    · rintro ⟨rfl, -⟩
      rfl
  | ok n =>
    constructor
    · intro h
      contradiction
    · rintro ⟨-, hno⟩
      exact absurd (Numeral.denotes_of_read hr) (hno n)

namespace Surface

/-- The line has two words, which denote the upper bounds. -/
def Named (line : List Char) (s : Surface) : Prop :=
  ∃ x y, Spaced line [x, y] ∧ Denotes x s.upperX ∧ Denotes y s.upperY

def Writable (s : Surface) : Prop := s.upperX < tooLong ∧ s.upperY < tooLong

theorem create_eq_ok_iff {x y : Int} {s : Surface} :
    create x y = .ok s ↔ x = s.upperX ∧ y = s.upperY := by
  unfold create lower
  constructor
  · intro h
    split at h
    · contradiction
    · rename_i hx
      split at h
      · contradiction
      · rename_i hy
        obtain rfl := Except.ok.inj h
        exact ⟨(Int.toNat_of_nonneg (Int.not_lt.1 hx)).symm,
          (Int.toNat_of_nonneg (Int.not_lt.1 hy)).symm⟩
  · rintro ⟨rfl, rfl⟩
    rw [if_neg (by omega), if_neg (by omega)]
    rfl

theorem ofLine_eq_ok_iff {line : List Char} {s : Surface} : ofLine line = .ok s ↔ Named line s := by
  constructor
  · intro h
    unfold ofLine at h
    split at h
    · rename_i x y hwords
      obtain ⟨m, hm, hy⟩ := bind_eq_ok_iff.1 h
      obtain ⟨n, hn, hcreate⟩ := bind_eq_ok_iff.1 hy
      obtain ⟨rfl, rfl⟩ := create_eq_ok_iff.1 (mapError_eq_ok_iff.1 hcreate)
      exact ⟨x, y, words_eq_iff.1 hwords, readCoordinate_eq_ok_iff.1 hm,
        readCoordinate_eq_ok_iff.1 hn⟩
    · contradiction
  · rintro ⟨x, y, hwords, hx, hy⟩
    unfold ofLine
    rw [words_eq_iff.2 hwords]
    refine bind_eq_ok_iff.2 ⟨_, readCoordinate_eq_ok_iff.2 hx, ?_⟩
    refine bind_eq_ok_iff.2 ⟨_, readCoordinate_eq_ok_iff.2 hy, ?_⟩
    exact mapError_eq_ok_iff.2 (create_eq_ok_iff.2 ⟨rfl, rfl⟩)

/-- Why a line names no surface. -/
inductive Unnamed (line : List Char) : RunError → Prop where
  | dimensions {tokens : List (List Char)} (hw : Spaced line tokens) (hn : tokens.length ≠ 2) :
    Unnamed line (.surfaceDimensionMismatch tokens.length (String.ofList (Text.trim line)))
  | xParse {x y : List Char} (hw : Spaced line [x, y]) (hx : ∀ n, ¬Denotes x n) :
    Unnamed line (.surfaceBoundaryParse Axis.x.name (String.ofList x))
  | yParse {x y : List Char} {m : Int} (hw : Spaced line [x, y]) (hx : Denotes x m)
    (hy : ∀ n, ¬Denotes y n) : Unnamed line (.surfaceBoundaryParse Axis.y.name (String.ofList y))
  | xBound {x y : List Char} {m n : Int} (hw : Spaced line [x, y]) (hx : Denotes x m)
    (hy : Denotes y n) (hm : m < 0) : Unnamed line (.surfaceBoundsInvalid Axis.x.name m 0)
  | yBound {x y : List Char} {m n : Int} (hw : Spaced line [x, y]) (hx : Denotes x m)
    (hy : Denotes y n) (hm : 0 ≤ m) (hn : n < 0) :
    Unnamed line (.surfaceBoundsInvalid Axis.y.name n 0)

theorem unnamed_of_ofLine {line : List Char} {e : RunError} (h : ofLine line = .error e) :
    Unnamed line e := by
  unfold ofLine at h
  split at h
  · rename_i x y hwords
    have hw := words_eq_iff.1 hwords
    rcases bind_eq_error_iff.1 h with hread | ⟨m, hm, hrest⟩
    · obtain ⟨rfl, hx⟩ := readCoordinate_eq_error_iff.1 hread
      exact .xParse hw hx
    have hx := readCoordinate_eq_ok_iff.1 hm
    rcases bind_eq_error_iff.1 hrest with hread | ⟨n, hn, hcreate⟩
    · obtain ⟨rfl, hy⟩ := readCoordinate_eq_error_iff.1 hread
      exact .yParse hw hx hy
    have hy := readCoordinate_eq_ok_iff.1 hn
    unfold create lower at hcreate
    by_cases hm0 : m < 0
    · rw [if_pos hm0] at hcreate
      obtain rfl := Except.error.inj hcreate
      exact .xBound hw hx hy hm0
    · by_cases hn0 : n < 0
      · rw [if_neg hm0, if_pos hn0] at hcreate
        obtain rfl := Except.error.inj hcreate
        exact .yBound hw hx hy (Int.not_lt.1 hm0) hn0
      · rw [if_neg hm0, if_neg hn0] at hcreate
        contradiction
  · rename_i tokens hno
    obtain rfl := Except.error.inj h
    refine .dimensions (words_eq_iff.1 rfl) ?_
    intro hlen
    obtain ⟨x, y, hxy⟩ := List.length_eq_two.1 hlen
    exact hno x y hxy

theorem ofLine_of_unnamed {line : List Char} {e : RunError} (h : Unnamed line e) :
    ofLine line = .error e := by
  unfold ofLine
  cases h with
  | dimensions hw hn =>
    rw [words_eq_iff.2 hw]
    split
    · rename_i hwords
      exact absurd rfl hn
    · rfl
  | xParse hw hx =>
    rw [words_eq_iff.2 hw]
    exact bind_eq_error_iff.2 (.inl (readCoordinate_eq_error_iff.2 ⟨rfl, hx⟩))
  | yParse hw hx hy =>
    rw [words_eq_iff.2 hw]
    refine bind_eq_error_iff.2 (.inr ⟨_, readCoordinate_eq_ok_iff.2 hx, ?_⟩)
    exact bind_eq_error_iff.2 (.inl (readCoordinate_eq_error_iff.2 ⟨rfl, hy⟩))
  | xBound hw hx hy hm =>
    rw [words_eq_iff.2 hw]
    refine bind_eq_error_iff.2 (.inr ⟨_, readCoordinate_eq_ok_iff.2 hx, ?_⟩)
    refine bind_eq_error_iff.2 (.inr ⟨_, readCoordinate_eq_ok_iff.2 hy, ?_⟩)
    rw [create, lower, if_pos hm]
    rfl
  | yBound hw hx hy hm hn =>
    rw [words_eq_iff.2 hw]
    refine bind_eq_error_iff.2 (.inr ⟨_, readCoordinate_eq_ok_iff.2 hx, ?_⟩)
    refine bind_eq_error_iff.2 (.inr ⟨_, readCoordinate_eq_ok_iff.2 hy, ?_⟩)
    rw [create, lower, if_neg (Int.not_lt.2 hm), if_pos hn]
    rfl

theorem ofLine_eq_error_iff {line : List Char} {e : RunError} :
    ofLine line = .error e ↔ Unnamed line e :=
  ⟨unnamed_of_ofLine, ofLine_of_unnamed⟩

theorem writable_of_ofLine {line : List Char} {s : Surface} (h : ofLine line = .ok s) :
    s.Writable := by
  obtain ⟨x, y, -, hx, hy⟩ := ofLine_eq_ok_iff.1 h
  exact ⟨by simpa using Numeral.natAbs_lt_of_denotes hx,
    by simpa using Numeral.natAbs_lt_of_denotes hy⟩

end Surface

namespace Heading

theorem ofToken?_eq_some_iff {token : List Char} {h : Heading} :
    ofToken? token = some h ↔ token = [h.letter] ∧ h ≠ unknown := by
  constructor
  · intro hh
    unfold ofToken? at hh
    split at hh <;> simp_all <;> subst hh <;> simp [letter]
  · rintro ⟨rfl, hne⟩
    exact ofToken?_letter hne

end Heading

namespace Rover

/-- The line has three words: a point and a compass heading. -/
def Placed (line : List Char) (p : Point) (h : Heading) : Prop :=
  ∃ x y, Spaced line [x, y, [h.letter]] ∧ Denotes x p.x ∧ Denotes y p.y ∧ h ≠ .unknown

/-- The heading is one of four letters. -/
theorem placed_iff_letter {line : List Char} {p : Point} {h : Heading} :
    Placed line p h ↔ ∃ x y c, Spaced line [x, y, [c]] ∧ Denotes x p.x ∧ Denotes y p.y ∧
      (c, h) ∈ [('N', .north), ('E', .east), ('S', .south), ('W', .west)] := by
  constructor
  · rintro ⟨x, y, hspaced, hx, hy, hknown⟩
    refine ⟨x, y, h.letter, hspaced, hx, hy, ?_⟩
    cases h <;> simp [Heading.letter] at hknown ⊢
  · rintro ⟨x, y, c, hspaced, hx, hy, hletter⟩
    simp only [List.mem_cons, Prod.mk.injEq, List.not_mem_nil, or_false] at hletter
    rcases hletter with ⟨rfl, rfl⟩ | ⟨rfl, rfl⟩ | ⟨rfl, rfl⟩ | ⟨rfl, rfl⟩
    all_goals exact ⟨x, y, hspaced, hx, hy, by simp⟩

theorem place_eq_ok_iff {id : Int} {line : List Char} {surface : Surface} {r : Rover} :
    place id line surface = .ok r ↔
      r.id = id ∧ Placed line r.point r.heading ∧ surface.Contains r.point := by
  constructor
  · intro h
    unfold place at h
    split at h
    · rename_i x y token hwords
      obtain ⟨m, hm, hy⟩ := bind_eq_ok_iff.1 h
      obtain ⟨n, hn, hplace⟩ := bind_eq_ok_iff.1 hy
      split at hplace
      · contradiction
      · rename_i heading hheading
        obtain ⟨rfl, hne⟩ := Heading.ofToken?_eq_some_iff.1 hheading
        split at hplace
        · rename_i hin
          obtain rfl := Except.ok.inj hplace
          exact ⟨rfl, ⟨x, y, words_eq_iff.1 hwords, readCoordinate_eq_ok_iff.1 hm,
            readCoordinate_eq_ok_iff.1 hn, hne⟩, hin⟩
        · contradiction
    · contradiction
  · rintro ⟨rfl, ⟨x, y, hwords, hx, hy, hne⟩, hin⟩
    unfold place
    rw [words_eq_iff.2 hwords]
    refine bind_eq_ok_iff.2 ⟨_, readCoordinate_eq_ok_iff.2 hx, ?_⟩
    refine bind_eq_ok_iff.2 ⟨_, readCoordinate_eq_ok_iff.2 hy, ?_⟩
    simp [Heading.ofToken?_letter hne, hin]

/-- Why a line places no rover on a surface. -/
inductive Misplaced (id : Int) (line : List Char) (surface : Surface) : RunError → Prop where
  | length {tokens : List (List Char)} (hw : Spaced line tokens) (hn : tokens.length ≠ 3) :
    Misplaced id line surface
      (.robotInstructionLength id (String.ofList (Text.trim line)) tokens.length)
  | xParse {x y t : List Char} (hw : Spaced line [x, y, t]) (hx : ∀ n, ¬Denotes x n) :
    Misplaced id line surface (.robotCoordinateParse id Axis.x.name (String.ofList x))
  | yParse {x y t : List Char} {m : Int} (hw : Spaced line [x, y, t]) (hx : Denotes x m)
    (hy : ∀ n, ¬Denotes y n) :
    Misplaced id line surface (.robotCoordinateParse id Axis.y.name (String.ofList y))
  | direction {x y t : List Char} {m n : Int} (hw : Spaced line [x, y, t]) (hx : Denotes x m)
    (hy : Denotes y n) (ht : ∀ h : Heading, t = [h.letter] → h = .unknown) :
    Misplaced id line surface (.robotDirectionParse id (String.ofList t))
  | outside {p : Point} {h : Heading} (hp : Placed line p h) (hout : ¬surface.Contains p) :
    Misplaced id line surface (.robotOutOfBounds id p.x p.y)

theorem misplaced_of_place {id : Int} {line : List Char} {surface : Surface} {e : RunError}
    (h : place id line surface = .error e) : Misplaced id line surface e := by
  unfold place at h
  split at h
  · rename_i x y token hwords
    have hw := words_eq_iff.1 hwords
    rcases bind_eq_error_iff.1 h with hread | ⟨m, hm, hrest⟩
    · obtain ⟨rfl, hx⟩ := readCoordinate_eq_error_iff.1 hread
      exact .xParse hw hx
    have hx := readCoordinate_eq_ok_iff.1 hm
    rcases bind_eq_error_iff.1 hrest with hread | ⟨n, hn, hplace⟩
    · obtain ⟨rfl, hy⟩ := readCoordinate_eq_error_iff.1 hread
      exact .yParse hw hx hy
    have hy := readCoordinate_eq_ok_iff.1 hn
    cases hh : Heading.ofToken? token with
    | none =>
      rw [hh] at hplace
      obtain rfl := Except.error.inj hplace
      refine .direction hw hx hy fun heading ht => ?_
      by_contra hne
      rw [Heading.ofToken?_eq_some_iff.2 ⟨ht, hne⟩] at hh
      contradiction
    | some heading =>
      rw [hh] at hplace
      obtain ⟨rfl, hne⟩ := Heading.ofToken?_eq_some_iff.1 hh
      by_cases hin : surface.Contains ⟨m, n⟩
      · simp [hin] at hplace
      · simp only [hin, if_false, Except.error.injEq] at hplace
        subst hplace
        exact .outside (p := ⟨m, n⟩) ⟨x, y, hw, hx, hy, hne⟩ hin
  · rename_i tokens hno
    obtain rfl := Except.error.inj h
    refine .length (words_eq_iff.1 rfl) ?_
    intro hlen
    obtain ⟨x, y, t, hxyt⟩ := List.length_eq_three.1 hlen
    exact hno x y t hxyt

theorem place_of_misplaced {id : Int} {line : List Char} {surface : Surface} {e : RunError}
    (h : Misplaced id line surface e) : place id line surface = .error e := by
  unfold place
  cases h with
  | length hw hn =>
    rw [words_eq_iff.2 hw]
    split
    · exact absurd rfl hn
    · rfl
  | xParse hw hx =>
    rw [words_eq_iff.2 hw]
    exact bind_eq_error_iff.2 (.inl (readCoordinate_eq_error_iff.2 ⟨rfl, hx⟩))
  | yParse hw hx hy =>
    rw [words_eq_iff.2 hw]
    refine bind_eq_error_iff.2 (.inr ⟨_, readCoordinate_eq_ok_iff.2 hx, ?_⟩)
    exact bind_eq_error_iff.2 (.inl (readCoordinate_eq_error_iff.2 ⟨rfl, hy⟩))
  | @direction x y t m n hw hx hy ht =>
    have hnone : Heading.ofToken? t = none := by
      by_contra hsome
      obtain ⟨h, hh⟩ := Option.ne_none_iff_exists'.1 hsome
      obtain ⟨hletter, hne⟩ := Heading.ofToken?_eq_some_iff.1 hh
      exact hne (ht h hletter)
    rw [words_eq_iff.2 hw]
    refine bind_eq_error_iff.2 (.inr ⟨_, readCoordinate_eq_ok_iff.2 hx, ?_⟩)
    refine bind_eq_error_iff.2 (.inr ⟨_, readCoordinate_eq_ok_iff.2 hy, ?_⟩)
    rw [hnone]
  | outside hp hout =>
    obtain ⟨x, y, hw, hx, hy, hne⟩ := hp
    rw [words_eq_iff.2 hw]
    refine bind_eq_error_iff.2 (.inr ⟨_, readCoordinate_eq_ok_iff.2 hx, ?_⟩)
    refine bind_eq_error_iff.2 (.inr ⟨_, readCoordinate_eq_ok_iff.2 hy, ?_⟩)
    simp [Heading.ofToken?_letter hne, hout]

theorem place_eq_error_iff {id : Int} {line : List Char} {surface : Surface} {e : RunError} :
    place id line surface = .error e ↔ Misplaced id line surface e :=
  ⟨misplaced_of_place, place_of_misplaced⟩

def text (r : Rover) : String := s!"{r.point.x} {r.point.y} {r.heading.letter}"

theorem render_eq_ok {r : Rover} (hx : r.point.x.natAbs < tooLong)
    (hy : r.point.y.natAbs < tooLong) : r.render = .ok r.text := by
  unfold render
  rw [Numeral.write_eq_ok hx, Numeral.write_eq_ok hy]
  rfl

theorem render_of_contains {surface : Surface} (hs : surface.Writable) {r : Rover}
    (hr : surface.Contains r.point) : r.render = .ok r.text := by
  obtain ⟨hx0, hx, hy0, hy⟩ := hr
  obtain ⟨hux, huy⟩ := hs
  have h0 : Surface.lower = 0 := rfl
  exact render_eq_ok (by omega) (by omega)

end Rover

end Plateau
