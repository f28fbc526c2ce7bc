import Mathlib.Algebra.Group.Nat.Defs
import Mathlib.Data.Option.Basic
import Plateau.Json.Print
import Plateau.Json.Read

namespace Plateau

namespace Text

theorem hexValue_digitChar : ∀ d < 16, hexValue (Nat.digitChar d) = some d := by decide

theorem readHex_hex {width n : Nat} (h : n < 16 ^ width) : readHex (hex width n) = some n := by
  induction width generalizing n with
  | zero =>
    obtain rfl : n = 0 := by simpa using h
    rfl
  | succ w ih =>
    have hfront : readHex (hex w (n / 16)) = some (n / 16) := by
      refine ih (Nat.div_lt_of_lt_mul ?_)
      rwa [← Nat.pow_succ']
    have hlast : hexValue (Nat.digitChar (n % 16)) = some (n % 16) :=
      hexValue_digitChar _ (Nat.mod_lt n (by decide))
    have hvalue : 16 * (n / 16) + n % 16 = n := Nat.div_add_mod n 16
    rw [readHex] at hfront ⊢
    rw [hex, List.foldlM_append, hfront]
    simp [hlast, hvalue]

end Text

namespace Json

open Text (hex readHex readHex_hex)

/-- The text is these characters as they may stand between quotes, the closing quote, and what
follows it. -/
inductive Quotes : List Char → List Char → List Char → Prop where
  | close (rest : List Char) : Quotes ('"' :: rest) [] rest
  | plain {c : Char} {s cs rest : List Char} (hquote : c ≠ '"') (hslash : c ≠ '\\')
    (hc : 32 ≤ c.toNat) (h : Quotes s cs rest) : Quotes (c :: s) (c :: cs) rest
  | escaped {e c : Char} {s cs rest : List Char} (he : unescape? e = some c)
    (h : Quotes s cs rest) : Quotes ('\\' :: e :: s) (c :: cs) rest
  | unit {w x y z : Char} {n : Nat} {s cs rest : List Char} (hn : readHex [w, x, y, z] = some n)
    (hhigh : isHighUnit n = false) (hlow : isLowUnit n = false) (h : Quotes s cs rest) :
    Quotes ('\\' :: 'u' :: w :: x :: y :: z :: s) (Char.ofNat n :: cs) rest
  | units {w x y z w' x' y' z' : Char} {n m : Nat} {s cs rest : List Char}
    (hn : readHex [w, x, y, z] = some n) (hhigh : isHighUnit n = true)
    (hm : readHex [w', x', y', z'] = some m) (hlow : isLowUnit m = true) (h : Quotes s cs rest) :
    Quotes ('\\' :: 'u' :: w :: x :: y :: z :: '\\' :: 'u' :: w' :: x' :: y' :: z' :: s)
      (Char.ofNat (0x10000 + (n - 0xD800) * 0x400 + (m - 0xDC00)) :: cs) rest

theorem readText_of_quotes {s cs rest : List Char} (h : Quotes s cs rest) :
    readText s = some (cs, rest) := by
  induction h with
  | close rest =>
    rw [readText.eq_def]
    rfl
  | plain hquote hslash hc _ ih =>
    have hcontrol := Nat.not_lt.2 hc
    rw [readText.eq_def]
    simp only [beq_iff_eq, hquote, hslash, hcontrol, if_false, ih]
    rfl
  | @escaped e c s cs rest he _ ih =>
    have hu : e ≠ 'u' := by
      rintro rfl
      contradiction
    rw [readText.eq_def]
    simp [hu, he, ih]
  | unit hn hhigh hlow _ ih =>
    rw [readText]
    simp only [hn, hhigh, hlow, ih]
    rfl
  | units hn hhigh hm hlow _ ih =>
    rw [readText]
    simp only [hn, hhigh, hm, hlow, ih]
    rfl

/-- A character is none of the numbers that UTF-16 keeps for its units. -/
theorem not_unit_of_char (c : Char) : isHighUnit c.toNat = false ∧ isLowUnit c.toNat = false := by
  have hvalid : c.toNat < 0xD800 ∨ 0xDFFF < c.toNat ∧ c.toNat < 0x110000 := c.valid
  simp only [isHighUnit, isLowUnit, Bool.and_eq_false_iff, decide_eq_false_iff_not]
  omega

theorem escape_cases (asciiOnly : Bool) (c : Char) :
    (∃ e, escape asciiOnly c = ['\\', e] ∧ unescape? e = some c) ∨
      escape asciiOnly c = charEscape c ∨
        escape asciiOnly c = [c] ∧ c ≠ '"' ∧ c ≠ '\\' ∧ 32 ≤ c.toNat := by
  by_cases hnamed : c ∈ ['"', '\\', '\n', '\r', '\t', '\x08', '\x0c']
  · refine .inl ?_
    simp only [List.mem_cons, List.not_mem_nil, or_false] at hnamed
    rcases hnamed with rfl | rfl | rfl | rfl | rfl | rfl | rfl
    all_goals exact ⟨_, rfl, rfl⟩
  · refine .inr ?_
    simp only [List.mem_cons, List.not_mem_nil, or_false, not_or] at hnamed
    obtain ⟨hquote, hslash, hn, hr, ht, hb, hf⟩ := hnamed
    simp only [escape, beq_iff_eq, hquote, hslash, hn, hr, ht, hb, hf, if_false]
    split
    · exact .inl rfl
    · rename_i hplain
      simp only [Bool.or_eq_true, decide_eq_true_eq, not_or] at hplain
      exact .inr ⟨rfl, hquote, hslash, Nat.not_lt.1 hplain.1⟩

variable {s cs rest : List Char}

theorem exists_unitEscape {n : Nat} (hn : n < 0x10000) :
    ∃ w x y z, unitEscape n = ['\\', 'u', w, x, y, z] ∧ readHex [w, x, y, z] = some n := by
  have hread : readHex (hex 4 n) = some n := readHex_hex hn
  exact ⟨_, _, _, _, rfl, hread⟩

theorem quotes_charEscape (c : Char) (h : Quotes s cs rest) :
    Quotes (charEscape c ++ s) (c :: cs) rest := by
  have hvalid : c.toNat < 0xD800 ∨ 0xDFFF < c.toNat ∧ c.toNat < 0x110000 := c.valid
  rw [charEscape]
  split
  · rename_i hsmall
    obtain ⟨hhigh, hlow⟩ := not_unit_of_char c
    obtain ⟨w, x, y, z, hunit, hread⟩ := exists_unitEscape hsmall
    have hquotes := Quotes.unit hread hhigh hlow h
    rw [Char.ofNat_toNat] at hquotes
    rw [hunit]
    exact hquotes
  · rename_i hlarge
    -- The first unit has the upper ten bits beyond the plane, the second one the lower ten.
    let high := 0xD800 + (c.toNat - 0x10000) / 0x400
    let low := 0xDC00 + (c.toNat - 0x10000) % 0x400
    have hhigh : isHighUnit high = true := by
      simp only [isHighUnit, Bool.and_eq_true, decide_eq_true_eq]
      omega
    have hlow : isLowUnit low = true := by
      simp only [isLowUnit, Bool.and_eq_true, decide_eq_true_eq]
      omega
    have hvalue : 0x10000 + (high - 0xD800) * 0x400 + (low - 0xDC00) = c.toNat := by omega
    obtain ⟨w, x, y, z, hfirst, hn⟩ := exists_unitEscape (n := high) (by omega)
    obtain ⟨w', x', y', z', hsecond, hm⟩ := exists_unitEscape (n := low) (by omega)
    have hquotes := Quotes.units hn hhigh hm hlow h
    rw [hvalue, Char.ofNat_toNat] at hquotes
    rw [hfirst, hsecond]
    exact hquotes

theorem quotes_escape (asciiOnly : Bool) (c : Char) (h : Quotes s cs rest) :
    Quotes (escape asciiOnly c ++ s) (c :: cs) rest := by
  rcases escape_cases asciiOnly c with ⟨e, hescape, he⟩ | hescape | ⟨hescape, hquote, hslash, hc⟩
  · rw [hescape]
    exact .escaped he h
  · rw [hescape]
    exact quotes_charEscape c h
  · rw [hescape]
    exact .plain hquote hslash hc h

theorem quotes_flatMap_escape (asciiOnly : Bool) (cs rest : List Char) :
    Quotes (cs.flatMap (escape asciiOnly) ++ '"' :: rest) cs rest := by
  induction cs with
  | nil => exact .close rest
  | cons c cs ih =>
    rw [List.flatMap_cons, List.append_assoc]
    exact quotes_escape asciiOnly c ih

end Json

end Plateau
