import Mathlib.Data.List.Basic
import Mathlib.Data.List.Induction
import Mathlib.Data.Nat.Digits.Defs
import Plateau.Number.Numeral

namespace Plateau.Numeral

structure Digits (ds : List Char) : Prop where
  ne_nil : ds ≠ []
  ascii : ∀ c ∈ ds, '0' ≤ c ∧ c ≤ '9'
  short : ds.length ≤ digitLimit

def value (ds : List Char) : Nat :=
  Nat.ofDigits 10 (ds.reverse.map fun c => c.toNat - '0'.toNat)

/-- Digits with at most one sign in front, and the number that they denote. -/
inductive Denotes : List Char → Int → Prop where
  | plain {ds : List Char} (hd : Digits ds) : Denotes ds (value ds)
  | plus {ds : List Char} (hd : Digits ds) : Denotes ('+' :: ds) (value ds)
  | minus {ds : List Char} (hd : Digits ds) : Denotes ('-' :: ds) (-value ds)

theorem isDigit_iff (c : Char) : c.isDigit = true ↔ '0' ≤ c ∧ c ≤ '9' := by
  simp only [Char.isDigit, Bool.and_eq_true, decide_eq_true_eq, ge_iff_le]
  rfl

theorem isDigits_iff (ds : List Char) :
    isDigits ds = true ↔ ds ≠ [] ∧ ∀ c ∈ ds, '0' ≤ c ∧ c ≤ '9' := by
  simp only [isDigits, Bool.and_eq_true, Bool.not_eq_true', List.isEmpty_eq_false_iff,
    List.all_eq_true, isDigit_iff]

theorem digits_iff (ds : List Char) :
    Digits ds ↔ isDigits ds = true ∧ ds.length ≤ digitLimit := by
  rw [isDigits_iff]
  exact ⟨fun h => ⟨⟨h.ne_nil, h.ascii⟩, h.short⟩, fun h => ⟨h.1.1, h.1.2, h.2⟩⟩

theorem value_concat (ds : List Char) (c : Char) :
    value (ds ++ [c]) = 10 * value ds + (c.toNat - '0'.toNat) := by
  simp only [value, List.reverse_append, List.reverse_singleton, List.singleton_append,
    List.map_cons, Nat.ofDigits_cons]
  exact Nat.add_comm _ _

theorem ofDigitChars_eq_value (ds : List Char) : Nat.ofDigitChars 10 ds 0 = value ds := by
  induction ds using List.reverseRecOn with
  | nil => rfl
  | append_singleton ds c ih =>
    rw [Nat.ofDigitChars_append, ih, Nat.ofDigitChars_cons, Nat.ofDigitChars_nil, value_concat]

theorem tooLong_eq : tooLong = 10 ^ digitLimit := by
  unfold tooLong
  generalize digitLimit = d
  rfl

theorem lt_tooLong {n : Nat} (h : n < 2 ^ 64) : n < tooLong := by
  have hdigits : 20 ≤ digitLimit := by decide
  have hpow : (10 : Nat) ^ 20 ≤ 10 ^ digitLimit := Nat.pow_le_pow_right (by decide) hdigits
  rw [tooLong_eq]
  exact Nat.lt_of_lt_of_le (Nat.lt_trans h (by decide)) hpow

theorem value_lt_tooLong {ds : List Char} (hd : Digits ds) : value ds < tooLong := by
  have hlt : value ds < 10 ^ (ds.reverse.map fun c => c.toNat - '0'.toNat).length := by
    apply Nat.ofDigits_lt_base_pow_length (by decide)
    intro d hm
    obtain ⟨c, hc, rfl⟩ := List.mem_map.1 hm
    have h9 : c.toNat ≤ '9'.toNat := (hd.ascii c (List.mem_reverse.1 hc)).2
    have hv : '9'.toNat = 57 ∧ '0'.toNat = 48 := by decide
    omega
  rw [List.length_map, List.length_reverse] at hlt
  rw [tooLong_eq]
  exact hlt.trans_le (Nat.pow_le_pow_right (by decide) hd.short)

theorem value_nines (n : Nat) : value (List.replicate n '9') = 10 ^ n - 1 := by
  have hdigits : value (List.replicate n '9') = Nat.ofDigits 10 (List.replicate n 9) := by
    rw [value, List.reverse_replicate, List.map_replicate]
    rfl
  rw [hdigits]
  clear hdigits
  induction n with
  | zero => rfl
  | succ n ih =>
    have hpos : 0 < 10 ^ n := Nat.pow_pos (by decide)
    rw [List.replicate_succ, Nat.ofDigits_cons, ih, Nat.pow_succ]
    omega

theorem digits_nines {n : Nat} (hpos : 0 < n) (hle : n ≤ digitLimit) :
    Digits (List.replicate n '9') where
  ne_nil := by
    rw [Ne, List.replicate_eq_nil_iff]
    exact Nat.pos_iff_ne_zero.1 hpos
  ascii c hc := by
    rw [List.eq_of_mem_replicate hc]
    decide
  short := by rwa [List.length_replicate]

theorem natAbs_lt_of_denotes {s : List Char} {n : Int} (h : Denotes s n) : n.natAbs < tooLong := by
  cases h with
  | plain hd => simpa using value_lt_tooLong hd
  | plus hd => simpa using value_lt_tooLong hd
  | minus hd => simpa using value_lt_tooLong hd

theorem splitSign_ascii {ds : List Char} (hascii : ∀ c ∈ ds, '0' ≤ c ∧ c ≤ '9') :
    splitSign ds = (none, ds) := by
  cases ds with
  | nil => rfl
  | cons c ds =>
    have hc : '0' ≤ c := (hascii c List.mem_cons_self).1
    have hp : c ≠ '+' := by rintro rfl; exact absurd hc (by decide)
    have hm : c ≠ '-' := by rintro rfl; exact absurd hc (by decide)
    simp [splitSign, hp, hm]

theorem splitSign_digits {ds : List Char} (hd : Digits ds) : splitSign ds = (none, ds) :=
  splitSign_ascii hd.ascii

theorem read_of_denotes {s : List Char} {n : Int} (h : Denotes s n) : read s = .ok n := by
  have limit {ds : List Char} (hd : Digits ds) :
      isDigits ds = true ∧ ¬ds.length > digitLimit :=
    ⟨((digits_iff ds).1 hd).1, Nat.not_lt.2 hd.short⟩
  cases h with
  | plain hd =>
    simp only [read, splitSign_digits hd]
    simp [limit hd, ofDigitChars_eq_value]
  | plus hd => simp [read, splitSign, limit hd, ofDigitChars_eq_value]
  | minus hd => simp [read, splitSign, limit hd, ofDigitChars_eq_value]

theorem splitSign_cases (s : List Char) :
    splitSign s = (none, s) ∨ (∃ ds, s = '+' :: ds ∧ splitSign s = (some '+', ds)) ∨
      ∃ ds, s = '-' :: ds ∧ splitSign s = (some '-', ds) := by
  cases s with
  | nil => exact .inl rfl
  | cons c ds =>
    by_cases hp : c = '+'
    · subst hp
      exact .inr (.inl ⟨ds, rfl, rfl⟩)
    · by_cases hm : c = '-'
      · subst hm
        exact .inr (.inr ⟨ds, rfl, rfl⟩)
      · exact .inl (by simp [splitSign, hp, hm])

theorem denotes_of_read {s : List Char} {n : Int} (h : read s = .ok n) : Denotes s n := by
  unfold read at h
  rcases splitSign_cases s with hs | ⟨ds, rfl, hs⟩ | ⟨ds, rfl, hs⟩
  all_goals
    rw [hs] at h
    dsimp only at h
    split at h
    · contradiction
    · rename_i hdigits
      split at h
      · contradiction
      · rename_i hshort
        have hd := (digits_iff _).2 ⟨by simpa using hdigits, Nat.not_lt.1 hshort⟩
        rw [ofDigitChars_eq_value] at h
        simp only [reduceCtorEq, beq_iff_eq, Option.some.injEq, Char.reduceEq, if_false, if_true,
          Except.ok.injEq] at h
        subst h
        first
        | exact .plain hd
        | exact .plus hd
        | exact .minus hd

theorem read_eq_ok_iff {s : List Char} {n : Int} : read s = .ok n ↔ Denotes s n :=
  ⟨denotes_of_read, read_of_denotes⟩

/-- The text is these ASCII digits, at least one, with at most one sign in front. -/
structure Signed (s ds : List Char) : Prop where
  form : s = ds ∨ s = '+' :: ds ∨ s = '-' :: ds
  ne_nil : ds ≠ []
  ascii : ∀ c ∈ ds, '0' ≤ c ∧ c ≤ '9'

theorem signed_iff {s ds : List Char} :
    Signed s ds ↔ (splitSign s).2 = ds ∧ isDigits ds = true := by
  rw [isDigits_iff]
  constructor
  · rintro ⟨rfl | rfl | rfl, hne, hascii⟩
    · exact ⟨by rw [splitSign_ascii hascii], hne, hascii⟩
    · exact ⟨rfl, hne, hascii⟩
    · exact ⟨rfl, hne, hascii⟩
  · rintro ⟨rfl, hne, hascii⟩
    rcases splitSign_cases s with hs | ⟨ds, rfl, hs⟩ | ⟨ds, rfl, hs⟩
    all_goals rw [hs] at hne hascii ⊢
    · exact ⟨.inl rfl, hne, hascii⟩
    · exact ⟨.inr (.inl rfl), hne, hascii⟩
    · exact ⟨.inr (.inr rfl), hne, hascii⟩

theorem read_cases (s : List Char) :
    (∃ n, read s = .ok n) ∨ (read s = .error .notNumeral ∧ ∀ ds, ¬Signed s ds) ∨
      ∃ ds, Signed s ds ∧ digitLimit < ds.length ∧ read s = .error (.tooManyDigits ds.length) := by
  unfold read
  dsimp only
  split
  · rename_i hno
    refine .inr (.inl ⟨rfl, fun ds hsigned => ?_⟩)
    obtain ⟨rfl, hdigits⟩ := signed_iff.1 hsigned
    simp [hdigits] at hno
  · rename_i hdigits
    have hsigned : Signed s (splitSign s).2 := signed_iff.2 ⟨rfl, by simpa using hdigits⟩
    split
    · rename_i hlong
      exact .inr (.inr ⟨_, hsigned, hlong, rfl⟩)
    · split
      all_goals exact .inl ⟨_, rfl⟩

/-- The number has at most `digitLimit` digits; a sign does not count. -/
def Short (n : Int) : Prop := (Nat.toDigits 10 n.natAbs).length ≤ digitLimit

theorem short_iff {n : Int} : Short n ↔ n.natAbs < tooLong := by
  rw [Short, tooLong_eq, Nat.length_toDigits_le_iff (by decide) (by decide)]

theorem short_natCast {n : Nat} (h : n < tooLong) : Short n := by
  rwa [short_iff, Int.natAbs_natCast]

theorem write_eq_ok_iff {n : Int} {s : String} :
    write n = .ok s ↔ n.natAbs < tooLong ∧ s = toString n := by
  unfold write
  split
  · simp_all [eq_comm]
  · simp_all

theorem write_eq_ok {n : Int} (h : n.natAbs < tooLong) : write n = .ok (toString n) :=
  write_eq_ok_iff.2 ⟨h, rfl⟩

theorem toList_toString (n : Nat) : (toString n).toList = Nat.toDigits 10 n := by simp

theorem isDigit_of_mem_toString {n : Nat} {c : Char} (hc : c ∈ (toString n).toList) :
    c.isDigit = true := by
  rw [toList_toString] at hc
  exact Nat.isDigit_of_mem_toDigits (by decide) (by decide) hc

theorem head_toDigits {n : Nat} (hn : 0 < n) :
    ∀ c ∈ (Nat.toDigits 10 n).head?, c ≠ '0' := by
  induction n using Nat.strongRecOn with
  | _ n ih =>
    by_cases hsmall : n < 10
    · have hdigit : ∀ d < 10, 0 < d → Nat.digitChar d ≠ '0' := by decide
      rw [Nat.toDigits_of_lt_base hsmall]
      rintro c ⟨⟩
      exact hdigit n hsmall hn
    · rw [Nat.toDigits_of_base_le (by decide) (Nat.not_lt.1 hsmall),
        List.head?_append_of_ne_nil _ Nat.toDigits_ne_nil]
      exact ih (n / 10) (by omega) (by omega)

theorem digits_toString {n : Nat} (h : n < tooLong) :
    Digits (toString n).toList ∧ value (toString n).toList = n := by
  refine ⟨⟨?_, ?_, ?_⟩, ?_⟩
  · rw [toList_toString]
    exact Nat.toDigits_ne_nil
  · intro c hc
    exact (isDigit_iff c).1 (isDigit_of_mem_toString hc)
  · rw [tooLong_eq] at h
    rw [toList_toString]
    exact (Nat.length_toDigits_le_iff (by decide) (by decide)).2 h
  · rw [← ofDigitChars_eq_value, toList_toString]
    exact Nat.ofDigitChars_ten_toDigits

theorem denotes_toString {n : Int} (h : Short n) : Denotes (toString n).toList n := by
  rw [short_iff] at h
  cases n with
  | ofNat m =>
    obtain ⟨hdigits, hvalue⟩ := digits_toString (n := m) h
    have hplain := Denotes.plain hdigits
    rwa [hvalue] at hplain
  | negSucc m =>
    have htext : (toString (Int.negSucc m)).toList = '-' :: (toString (m + 1)).toList :=
      String.toList_append
    obtain ⟨hdigits, hvalue⟩ := digits_toString (n := m + 1) h
    have hminus := Denotes.minus hdigits
    rw [hvalue] at hminus
    rw [htext]
    exact hminus

/-- What is written of a number is read as that number. -/
theorem read_of_write {n : Int} {s : String} (h : write n = .ok s) : read s.toList = .ok n := by
  obtain ⟨hshort, rfl⟩ := write_eq_ok_iff.1 h
  exact read_of_denotes (denotes_toString (short_iff.2 hshort))

end Plateau.Numeral
