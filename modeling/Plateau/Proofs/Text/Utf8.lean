import Mathlib.Data.List.Basic
import Mathlib.Tactic.IntervalCases
import Plateau.Text.Utf8

namespace Plateau.Text.Utf8

theorem toNat_octet {n : Nat} (h : n < 256) : (UInt8.ofNat n).toNat = n :=
  UInt8.toNat_ofNat_of_lt' h

section

variable (position : Nat) {octet : UInt8} {p : Pending} (rest : List UInt8)

theorem decodeFrom_ascii (h : octet.toNat < 0x80) :
    decodeFrom position none (octet :: rest) =
      (Char.ofNat octet.toNat :: ·) <$> decodeFrom (position + 1) none rest := by
  rw [decodeFrom, if_pos h]

theorem decodeFrom_lead (h : 0x80 ≤ octet.toNat) (hp : begin? position octet.toNat = some p) :
    decodeFrom position none (octet :: rest) = decodeFrom (position + 1) (some p) rest := by
  rw [decodeFrom, if_neg (by omega), hp]

def Pending.valueWith (p : Pending) (octet : UInt8) : Nat := 64 * p.value + (octet.toNat - 0x80)

theorem decodeFrom_more (howed : 2 ≤ p.owed) (hlo : p.lo ≤ octet.toNat) (hhi : octet.toNat ≤ p.hi) :
    decodeFrom position (some p) (octet :: rest) =
      decodeFrom (position + 1) (some { p with
        seen := p.seen + 1, owed := p.owed - 1, lo := 0x80, hi := 0xBF
        value := p.valueWith octet }) rest := by
  have hrange : (decide (octet.toNat < p.lo) || decide (p.hi < octet.toNat)) = false := by
    simp only [Bool.or_eq_false_iff, decide_eq_false_iff_not]
    omega
  rw [decodeFrom, hrange, if_neg Bool.false_ne_true, if_neg (by omega)]
  rfl

theorem decodeFrom_last (howed : p.owed = 1) (hlo : p.lo ≤ octet.toNat) (hhi : octet.toNat ≤ p.hi) :
    decodeFrom position (some p) (octet :: rest) =
      (Char.ofNat (p.valueWith octet) :: ·) <$> decodeFrom (position + 1) none rest := by
  have hrange : (decide (octet.toNat < p.lo) || decide (p.hi < octet.toNat)) = false := by
    simp only [Bool.or_eq_false_iff, decide_eq_false_iff_not]
    omega
  rw [decodeFrom, hrange, if_neg Bool.false_ne_true, if_pos (by omega)]
  rfl

end

theorem begin?_two (start : Nat) {b : Nat} (h : 0xC2 ≤ b) (h' : b ≤ 0xDF) :
    begin? start b = some ⟨start, b, 1, 1, 0x80, 0xBF, b - 0xC0⟩ := by
  simp [begin?, h, h']

/-- The least first octet leaves no shorter spelling, and `0xED` no surrogates. -/
theorem begin?_three (start : Nat) {b : Nat} (h : 0xE0 ≤ b) (h' : b ≤ 0xEF) :
    begin? start b = some ⟨start, b, 1, 2, if b = 0xE0 then 0xA0 else 0x80,
      if b = 0xED then 0x9F else 0xBF, b - 0xE0⟩ := by
  interval_cases b <;> rfl

/-- The greatest first octet leaves nothing beyond the last character. -/
theorem begin?_four (start : Nat) {b : Nat} (h : 0xF0 ≤ b) (h' : b ≤ 0xF4) :
    begin? start b = some ⟨start, b, 1, 3, if b = 0xF0 then 0x90 else 0x80,
      if b = 0xF4 then 0x8F else 0xBF, b - 0xF0⟩ := by
  interval_cases b <;> rfl

def Tail (octet : UInt8) : Prop := 0x80 ≤ octet.toNat ∧ octet.toNat ≤ 0xBF

section

variable (position : Nat) {a b c d : UInt8} (rest : List UInt8)

theorem decodeFrom_two (ha : 0xC2 ≤ a.toNat) (ha' : a.toNat ≤ 0xDF) (hb : Tail b) :
    decodeFrom position none (a :: b :: rest) =
      (Char.ofNat (64 * (a.toNat - 0xC0) + (b.toNat - 0x80)) :: ·) <$>
        decodeFrom (position + 1 + 1) none rest := by
  rw [decodeFrom_lead position _ (by omega) (begin?_two position ha ha'),
    decodeFrom_last _ rest rfl hb.1 hb.2]
  rfl

theorem decodeFrom_three (ha : 0xE0 ≤ a.toNat) (ha' : a.toNat ≤ 0xEF)
    (hb : (if a.toNat = 0xE0 then 0xA0 else 0x80) ≤ b.toNat)
    (hb' : b.toNat ≤ if a.toNat = 0xED then 0x9F else 0xBF) (hc : Tail c) :
    decodeFrom position none (a :: b :: c :: rest) =
      (Char.ofNat (64 * (64 * (a.toNat - 0xE0) + (b.toNat - 0x80)) + (c.toNat - 0x80)) :: ·) <$>
        decodeFrom (position + 1 + 1 + 1) none rest := by
  rw [decodeFrom_lead position _ (by omega) (begin?_three position ha ha'),
    decodeFrom_more _ _ (Nat.le_refl 2) hb hb', decodeFrom_last _ rest rfl hc.1 hc.2]
  rfl

theorem decodeFrom_four (ha : 0xF0 ≤ a.toNat) (ha' : a.toNat ≤ 0xF4)
    (hb : (if a.toNat = 0xF0 then 0x90 else 0x80) ≤ b.toNat)
    (hb' : b.toNat ≤ if a.toNat = 0xF4 then 0x8F else 0xBF) (hc : Tail c) (hd : Tail d) :
    decodeFrom position none (a :: b :: c :: d :: rest) =
      (Char.ofNat (64 * (64 * (64 * (a.toNat - 0xF0) + (b.toNat - 0x80)) + (c.toNat - 0x80)) +
          (d.toNat - 0x80)) :: ·) <$>
        decodeFrom (position + 1 + 1 + 1 + 1) none rest := by
  rw [decodeFrom_lead position _ (by omega) (begin?_four position ha ha'),
    decodeFrom_more _ _ (by decide : 2 ≤ 3) hb hb', decodeFrom_more _ _ (Nat.le_refl 2) hc.1 hc.2,
    decodeFrom_last _ rest rfl hd.1 hd.2]
  rfl

end

theorem tail_ofNat {n : Nat} (h : n < 64) : Tail (UInt8.ofNat (n + 128)) := by
  rw [Tail, toNat_octet (by omega)]
  omega

theorem decodeFrom_encode (position : Nat) (c : Char) (rest : List UInt8) :
    decodeFrom position none (String.utf8EncodeChar c ++ rest) =
      (c :: ·) <$> decodeFrom (position + (String.utf8EncodeChar c).length) none rest := by
  have hvalid : c.toNat < 0xD800 ∨ 0xDFFF < c.toNat ∧ c.toNat < 0x110000 := c.valid
  have hc : Char.ofNat c.toNat = c := Char.ofNat_toNat c
  have hval : c.val.toNat = c.toNat := rfl
  have htail (n : Nat) : (UInt8.ofNat (n % 64 + 128)).toNat = n % 64 + 128 := toNat_octet (by omega)
  have hmod (n : Nat) : n % 64 < 64 := Nat.mod_lt n (by decide)
  unfold String.utf8EncodeChar
  simp only [hval]
  generalize c.toNat = v at hvalid hc
  split
  · have hlead : (UInt8.ofNat v).toNat = v := toNat_octet (by omega)
    rw [List.singleton_append, decodeFrom_ascii position rest (by omega), hlead, hc]
    rfl
  split
  · have hlead : (UInt8.ofNat (v / 64 % 32 + 192)).toNat = v / 64 % 32 + 192 :=
      toNat_octet (by omega)
    have hv : 64 * (v / 64 % 32 + 192 - 192) + (v % 64 + 128 - 128) = v := by omega
    have hread := decodeFrom_two position rest (a := UInt8.ofNat (v / 64 % 32 + 192)) (by omega)
      (by omega) (tail_ofNat (hmod v))
    rw [hlead, htail, hv, hc] at hread
    exact hread
  split
  · have hlead : (UInt8.ofNat (v / 4096 % 16 + 224)).toNat = v / 4096 % 16 + 224 :=
      toNat_octet (by omega)
    have hv : 64 * (64 * (v / 4096 % 16 + 224 - 224) + (v / 64 % 64 + 128 - 128)) +
        (v % 64 + 128 - 128) = v := by omega
    have hread := decodeFrom_three position rest (a := UInt8.ofNat (v / 4096 % 16 + 224))
      (b := UInt8.ofNat (v / 64 % 64 + 128)) (by omega) (by omega)
      (by split <;> rw [htail] <;> omega) (by split <;> rw [htail] <;> omega) (tail_ofNat (hmod v))
    rw [hlead, htail, htail, hv, hc] at hread
    exact hread
  · have hlead : (UInt8.ofNat (v / 262144 % 8 + 240)).toNat = v / 262144 % 8 + 240 :=
      toNat_octet (by omega)
    have hv : 64 * (64 * (64 * (v / 262144 % 8 + 240 - 240) + (v / 4096 % 64 + 128 - 128)) +
        (v / 64 % 64 + 128 - 128)) + (v % 64 + 128 - 128) = v := by omega
    have hread := decodeFrom_four position rest (a := UInt8.ofNat (v / 262144 % 8 + 240))
      (b := UInt8.ofNat (v / 4096 % 64 + 128)) (by omega) (by omega)
      (by split <;> rw [htail] <;> omega) (by split <;> rw [htail] <;> omega)
      (tail_ofNat (hmod (v / 64))) (tail_ofNat (hmod v))
    rw [hlead, htail, htail, htail, hv, hc] at hread
    exact hread

theorem decode_encode (s : List Char) : decode (s.flatMap String.utf8EncodeChar) = .ok s := by
  suffices h : ∀ position, decodeFrom position none (s.flatMap String.utf8EncodeChar) = .ok s from
    h 0
  induction s with
  | nil => exact fun _ => rfl
  | cons c s ih =>
    intro position
    rw [List.flatMap_cons, decodeFrom_encode, ih]
    rfl

def octets (s : String) : List UInt8 := s.toUTF8.data.toList

theorem octets_eq (s : String) : octets s = s.toList.flatMap String.utf8EncodeChar := by
  have hbytes : s.toUTF8 = s.toList.utf8Encode := by
    conv_lhs => rw [← String.ofList_toList (s := s)]
    rw [String.toUTF8_eq_toByteArray, String.toByteArray_ofList]
  rw [octets, hbytes, List.utf8Encode, List.data_toByteArray]

theorem decode_octets (s : String) : decode (octets s) = .ok s.toList := by
  rw [octets_eq, decode_encode]

end Plateau.Text.Utf8
