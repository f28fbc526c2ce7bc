import Plateau.Text.Letters

namespace Plateau.Text

/-- None of the small letters of `r` is a capital of `q`.  Ranges that lie apart are told from their
ends. -/
def Capitals.misses (r q : Capitals) : Bool :=
  (r.small + (r.last - r.first)).blt q.first || q.last.blt r.small ||
    (List.range (r.last - r.first + 1)).all fun i =>
      !r.holds (r.first + i) || !q.holds (r.small + i)

/-- The small letters are characters beyond ASCII, but for one letter. -/
def Capitals.settled (r : Capitals) : Bool :=
  (r.first == r.last && r.small == 'k'.toNat) ||
    (0x130 < r.small || r.small + (r.last - r.first) < 0x130) && 128 ≤ r.small &&
      (r.small + (r.last - r.first) < 0xD800 || 0xDFFF < r.small) &&
      r.small + (r.last - r.first) < 0x110000

theorem misses_of_mem {r q : Capitals} (hr : r ∈ capitals) (hq : q ∈ capitals) :
    r.misses q = true := by
  have hall : (capitals.all fun r => capitals.all r.misses) = true := by decide +kernel
  exact List.all_eq_true.1 (List.all_eq_true.1 hall r hr) q hq

theorem settled_of_mem {r : Capitals} (hr : r ∈ capitals) : r.settled = true := by
  have hall : capitals.all Capitals.settled = true := by decide +kernel
  exact List.all_eq_true.1 hall r hr

theorem bounds_of_holds {r : Capitals} {n : Nat} (h : r.holds n = true) :
    r.first ≤ n ∧ n ≤ r.last := by
  simp only [Capitals.holds, Bool.and_eq_true, decide_eq_true_eq] at h
  exact h.1

theorem holds_small {r q : Capitals} (hr : r ∈ capitals) (hq : q ∈ capitals) {n : Nat}
    (hn : r.holds n = true) : q.holds (n - r.first + r.small) = false := by
  obtain ⟨hfirst, hlast⟩ := bounds_of_holds hn
  have hmiss := misses_of_mem hr hq
  rw [Capitals.misses, Bool.or_eq_true, Bool.or_eq_true, Nat.blt_eq, Nat.blt_eq] at hmiss
  rw [← Bool.not_eq_true]
  intro hheld
  have hbounds := bounds_of_holds hheld
  rcases hmiss with (hbelow | habove) | hall
  · omega
  · omega
  · have hi := List.all_eq_true.1 hall (n - r.first) (List.mem_range.2 (by omega))
    rw [Nat.add_sub_cancel' hfirst, hn, Nat.add_comm r.small, hheld] at hi
    contradiction

theorem lowerChar_of_lt {c : Char} (h : c.toNat < 128) : lowerChar c.toLower = [c.toLower] := by
  have hall : ∀ n < 128, lowerChar (Char.ofNat n).toLower = [(Char.ofNat n).toLower] := by
    decide +kernel
  simpa using hall c.toNat h

theorem toNat_small {r : Capitals} (hr : r ∈ capitals) {n : Nat} (hn : r.holds n = true)
    (hbeyond : n - r.first + r.small ≠ 'k'.toNat) :
    (Char.ofNat (n - r.first + r.small)).toNat = n - r.first + r.small ∧
      128 ≤ n - r.first + r.small ∧ n - r.first + r.small ≠ 0x130 := by
  obtain ⟨hfirst, hlast⟩ := bounds_of_holds hn
  have hsettled := settled_of_mem hr
  simp only [Capitals.settled, Bool.or_eq_true, Bool.and_eq_true, beq_iff_eq,
    decide_eq_true_eq] at hsettled
  rcases hsettled with ⟨hone, hsmall⟩ | ⟨⟨⟨hother, hascii⟩, hvalid⟩, hmax⟩
  · omega
  · refine ⟨?_, by omega, by omega⟩
    rw [Char.ofNat, dif_pos (show Nat.isValidChar _ from by rw [Nat.isValidChar]; omega)]
    rfl

theorem lowerChar_small {r : Capitals} (hr : r ∈ capitals) {n : Nat} (hn : r.holds n = true) :
    lowerChar (Char.ofNat (n - r.first + r.small)) = [Char.ofNat (n - r.first + r.small)] := by
  by_cases hk : n - r.first + r.small = 'k'.toNat
  · rw [hk]
    decide +kernel
  · obtain ⟨hchar, hbeyond, hother⟩ := toNat_small hr hn hk
    have hnone : capitals.find? (·.holds (n - r.first + r.small)) = none := by
      refine List.find?_eq_none.2 fun q hq => ?_
      rw [holds_small hr hq hn]
      exact Bool.false_ne_true
    rw [lowerChar, hchar, if_neg (Nat.not_lt.2 hbeyond), if_neg (by simpa using hother), hnone]

theorem lowerChar_of_mem {c d : Char} (h : d ∈ lowerChar c) : lowerChar d = [d] := by
  by_cases hascii : c.toNat < 128
  · rw [lowerChar, if_pos hascii] at h
    rw [List.mem_singleton.1 h]
    exact lowerChar_of_lt hascii
  by_cases hdotted : (c.toNat == 0x130) = true
  · rw [lowerChar, if_neg hascii, if_pos hdotted] at h
    obtain rfl | rfl : d = 'i' ∨ d = '\u0307' := by simpa using h
    · decide +kernel
    · decide +kernel
  rw [lowerChar, if_neg hascii, if_neg hdotted] at h
  cases hfind : capitals.find? (·.holds c.toNat) with
  | none =>
    rw [hfind] at h
    rw [List.mem_singleton.1 h, lowerChar, if_neg hascii, if_neg hdotted, hfind]
  | some r =>
    rw [hfind] at h
    rw [List.mem_singleton.1 h]
    exact lowerChar_small (List.mem_of_find?_eq_some hfind) (List.find?_some hfind)

/-- A text that holds no capitals, and no other character with small letters of its own. -/
def Small (s : String) : Prop := ∀ c ∈ s.toList, lowerChar c = [c]

theorem small_lower (s : String) : Small (lower s) := by
  intro c hc
  rw [lower, String.toList_ofList] at hc
  obtain ⟨d, -, hd⟩ := List.mem_flatMap.1 hc
  exact lowerChar_of_mem hd

theorem lower_eq_self {s : String} (h : Small s) : lower s = s := by
  have hall : s.toList.flatMap lowerChar = s.toList.flatMap fun c => [c] := by
    rw [List.flatMap_def, List.flatMap_def, List.map_congr_left h]
  rw [lower, hall]
  simp

end Plateau.Text
