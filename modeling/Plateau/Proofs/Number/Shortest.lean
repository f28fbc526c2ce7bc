import Mathlib.Data.List.DropRight
import Mathlib.Tactic.Positivity
import Mathlib.Tactic.Ring
import Plateau.Number.Shortest
import Plateau.Proofs.Number.Numeral

namespace Plateau

/-- Digits that begin with no zero, or the only digit of zero. -/
structure Decimal.Normal (d : Decimal) : Prop where
  isDigit : ∀ c ∈ d.digits, c.isDigit = true
  head : ∃ c t, d.digits = c :: t ∧ (c = '0' → d = ⟨['0'], 1⟩)

theorem Decimal.normal_zero : Decimal.Normal ⟨['0'], 1⟩ :=
  ⟨List.forall_mem_singleton.2 rfl, '0', [], rfl, fun _ => rfl⟩

theorem Decimal.normal_ofGrid {count : Nat} (hcount : 0 < count) (unit : Int) :
    (ofGrid count unit).Normal := by
  obtain ⟨c, t, hdigits⟩ := List.exists_cons_of_ne_nil (Nat.toDigits_ne_nil (b := 10) (n := count))
  have hc : c ≠ '0' := Numeral.head_toDigits hcount c (by rw [hdigits]; rfl)
  have hstripped : (ofGrid count unit).digits = (c :: t).rdropWhile (· == '0') := by
    rw [ofGrid, hdigits, List.rdropWhile]
  have hbegins : (ofGrid count unit).digits <+: c :: t := by
    rw [hstripped]
    exact List.rdropWhile_prefix _ _
  have hne : (ofGrid count unit).digits ≠ [] := by
    rw [hstripped, Ne, List.rdropWhile_eq_nil_iff]
    intro hzeros
    exact hc (by simpa using hzeros c List.mem_cons_self)
  obtain ⟨d, s, hd⟩ := List.exists_cons_of_ne_nil hne
  rw [hd, List.cons_prefix_cons] at hbegins
  constructor
  · intro e he
    have hmem : e ∈ Nat.toDigits 10 count := by
      rw [hdigits]
      rw [hd, hbegins.1] at he
      exact (List.cons_prefix_cons.2 ⟨rfl, hbegins.2⟩).subset he
    exact Nat.isDigit_of_mem_toDigits (by decide) (by decide) hmem
  · refine ⟨d, s, hd, ?_⟩
    intro hzero
    exact absurd (hbegins.1.symm.trans hzero) hc

theorem pow_le_of_lt_length {n k : Nat} (h : k < (Nat.toDigits 10 n).length) (hn : 0 < n) :
    10 ^ k ≤ n := by
  by_contra hlt
  cases k with
  | zero => omega
  | succ k =>
    have hshort := (Nat.length_toDigits_le_iff (b := 10) (by decide) (Nat.succ_pos k)).2
      (Nat.lt_of_not_le hlt)
    omega

theorem lt_pow_of_length_le {n k : Nat} (h : (Nat.toDigits 10 n).length ≤ k) : n < 10 ^ k := by
  have hpos : 0 < (Nat.toDigits 10 n).length := Nat.length_toDigits_pos
  exact (Nat.length_toDigits_le_iff (by decide) (by omega)).1 h

namespace Dyadic

variable {d : Dyadic} {unit : Int}

theorem den_le_num_per (hd : 0 < d.mantissa) (hunit : unit < d.decimalExponent) :
    (d.per unit).den ≤ (d.per unit).num := by
  have hzero : d.per 0 = ⟨d.mantissa * 2 ^ d.exponent.toNat, 2 ^ (-d.exponent).toNat⟩ := by
    simp [per]
  have hnum : 0 < d.mantissa * 2 ^ d.exponent.toNat := by positivity
  have hden : 0 < 2 ^ (-d.exponent).toNat := by positivity
  rw [decimalExponent, hzero] at hunit
  simp only [per, Nat.pow_eq]
  generalize d.mantissa * 2 ^ d.exponent.toNat = a at hunit hnum
  generalize 2 ^ (-d.exponent).toNat = b at hunit hden
  dsimp only at hunit
  split at hunit
  · rename_i hle
    by_cases hneg : unit < 0
    · have hnone : unit.toNat = 0 := by omega
      rw [hnone, Nat.pow_zero, Nat.mul_one]
      exact hle.trans (Nat.le_mul_of_pos_right a (by positivity))
    · have hpow := pow_le_of_lt_length (n := a / b) (k := unit.toNat) (by omega)
        (Nat.div_pos hle hden)
      have hnone : (-unit).toNat = 0 := by omega
      rw [hnone, Nat.pow_zero, Nat.mul_one, Nat.mul_comm]
      exact (Nat.le_div_iff_mul_le hden).1 hpow
  · have hlt := lt_pow_of_length_le (n := b / a) (k := (-unit).toNat) (by omega)
    have hnone : unit.toNat = 0 := by omega
    rw [hnone, Nat.pow_zero, Nat.mul_one, Nat.mul_comm a]
    exact ((Nat.div_lt_iff_lt_mul hnum).1 hlt).le

theorem den_le_num_quarters (h : (d.per unit).den ≤ (d.per unit).num) :
    ((Dyadic.mk (4 * d.mantissa) (d.exponent - 2)).per unit).den ≤
      ((Dyadic.mk (4 * d.mantissa) (d.exponent - 2)).per unit).num := by
  have hshift : 4 * 2 ^ (d.exponent - 2).toNat * 2 ^ (-d.exponent).toNat =
      2 ^ (-(d.exponent - 2)).toNat * 2 ^ d.exponent.toNat := by
    rw [show 4 = 2 ^ 2 from rfl, ← Nat.pow_add, ← Nat.pow_add, ← Nat.pow_add]
    congr 1
    omega
  have hpos : 0 < 2 ^ (-d.exponent).toNat := by positivity
  simp only [per, Nat.pow_eq] at h ⊢
  generalize 2 ^ (d.exponent - 2).toNat = x' at hshift
  generalize 2 ^ (-(d.exponent - 2)).toNat = y' at hshift
  generalize 2 ^ d.exponent.toNat = x at h hshift
  generalize 2 ^ (-d.exponent).toNat = y at h hshift hpos
  refine Nat.le_of_mul_le_mul_right ?_ hpos
  calc y' * 10 ^ unit.toNat * y
      = y' * (y * 10 ^ unit.toNat) := by ring
    _ ≤ y' * (d.mantissa * x * 10 ^ (-unit).toNat) := Nat.mul_le_mul_left y' h
    _ = d.mantissa * 10 ^ (-unit).toNat * (y' * x) := by ring
    _ = d.mantissa * 10 ^ (-unit).toNat * (4 * x' * y) := by rw [hshift]
    _ = 4 * d.mantissa * x' * 10 ^ (-unit).toNat * y := by ring

end Dyadic

theorem Quotient.round_pos {q : Quotient} (hden : 0 < q.den) (h : q.den ≤ q.num) :
    0 < q.round := by
  have hbelow : 0 < q.num / q.den := Nat.div_pos h hden
  rw [round]
  split <;> omega

theorem Dyadic.per_pos {d : Dyadic} (hd : 0 < d.mantissa) (unit : Int) :
    0 < (d.per unit).num ∧ 0 < (d.per unit).den := by
  simp only [per, Nat.pow_eq]
  constructor <;> positivity

theorem Interval.pos_of_gridPoint? {i : Interval} (hlo : 0 < i.lo) {unit : Int} {n : Nat}
    (h : i.gridPoint? unit = some n) : 0 < n := by
  have hscale := (Dyadic.per_pos (d := ⟨1, i.exponent⟩) Nat.one_pos unit).1
  unfold gridPoint? at h
  dsimp only at h
  generalize (Dyadic.mk 1 i.exponent).per unit = scale at h hscale
  generalize i.mid * scale.num / scale.den = below at h
  -- Zero lies below the interval, so that the lower one of two points can only be chosen above it.
  have houtside (hinside : (if i.closed then i.lo * scale.num ≤ below * scale.den &&
      below * scale.den ≤ i.hi * scale.num else i.lo * scale.num < below * scale.den &&
      below * scale.den < i.hi * scale.num) = true) : 0 < below := by
    by_contra hzero
    obtain rfl : below = 0 := by omega
    split at hinside <;> simp [hlo.ne', hscale.ne'] at hinside
  split at h
  · contradiction
  · rename_i hinside _
    obtain rfl := Option.some.inj h
    exact houtside hinside
  · obtain rfl := Option.some.inj h
    exact Nat.succ_pos below
  · rename_i hinside _
    split at h
    · obtain rfl := Option.some.inj h
      exact houtside hinside
    · obtain rfl := Option.some.inj h
      exact Nat.succ_pos below

theorem Dyadic.normal_shortestFrom {d : Dyadic} (hd : 0 < d.mantissa) (tries : Nat) {unit : Int}
    (hunit : unit < d.decimalExponent) : (d.interval.shortestFrom tries unit).Normal := by
  induction tries generalizing unit with
  | zero =>
    have hmid := den_le_num_quarters (den_le_num_per hd hunit)
    have hquarters : 0 < 4 * d.mantissa := by omega
    have hpos := (per_pos (d := ⟨4 * d.mantissa, d.exponent - 2⟩) hquarters unit).2
    exact Decimal.normal_ofGrid (Quotient.round_pos hpos hmid) unit
  | succ tries ih =>
    rw [Interval.shortestFrom]
    split
    · rename_i n hn
      have hlo : 0 < d.interval.lo := by
        simp only [interval]
        split <;> omega
      exact Decimal.normal_ofGrid (Interval.pos_of_gridPoint? hlo hn) unit
    · exact ih (by omega)

theorem Dyadic.normal_shortest (d : Dyadic) : d.shortest.Normal := by
  unfold shortest
  split
  · exact Decimal.normal_zero
  · rename_i hzero
    have hd : 0 < d.mantissa := by
      rw [beq_iff_eq] at hzero
      omega
    exact normal_shortestFrom hd 17 (by omega)

end Plateau
