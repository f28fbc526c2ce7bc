import Mathlib.Data.List.Basic
import Plateau.Proofs.Text.Trim
import Plateau.Text.Cells
import Plateau.Text.Printable

namespace Plateau.Text

def Shown (s : List Char) : Prop := ∀ c ∈ s, isPrintable c = true

theorem shown_cons {c : Char} {s : List Char} :
    Shown (c :: s) ↔ isPrintable c = true ∧ Shown s :=
  List.forall_mem_cons

theorem shown_nil : Shown [] := by simp [Shown]

theorem shown_append {s t : List Char} : Shown (s ++ t) ↔ Shown s ∧ Shown t :=
  List.forall_mem_append

/-- Membership over a list, which the kernel runs through faster than an array. -/
theorem inRanges_eq (table : Array (Nat × Nat)) (n : Nat) :
    inRanges table n = table.toList.any fun r => r.1 ≤ n && n ≤ r.2 :=
  Array.any_toList.symm

theorem le_toNat_of_isPrintable {c : Char} (h : isPrintable c = true) : 32 ≤ c.toNat := by
  by_contra hlt
  have hall : ∀ n < 32, inRanges unprintable n = true := by
    simp only [inRanges_eq]
    decide +kernel
  rw [isPrintable, hall _ (Nat.not_le.1 hlt)] at h
  contradiction

theorem isPrintable_of_ascii {c : Char} (h : 32 ≤ c.toNat ∧ c.toNat < 127) :
    isPrintable c = true := by
  have hall : (unprintable.toList.all fun r => r.2 < 32 || 127 ≤ r.1) = true := by
    decide +kernel
  have hnone : inRanges unprintable c.toNat = false := by
    rw [inRanges_eq, List.any_eq_false]
    intro r hr
    have hclear := List.all_eq_true.1 hall r hr
    simp only [Bool.or_eq_true, Bool.and_eq_true, decide_eq_true_eq] at hclear ⊢
    omega
  rw [isPrintable, hnone]
  rfl

theorem isPrintable_iff {c : Char} :
    isPrintable c = true ↔ (32 ≤ c.toNat && c.toNat < 127 ||
      !unprintable.toList.any fun r => r.1 ≤ c.toNat && c.toNat ≤ r.2) = true := by
  rw [Bool.or_eq_true, Bool.and_eq_true, decide_eq_true_eq, decide_eq_true_eq, ← inRanges_eq]
  constructor
  · exact fun h => .inr h
  · exact fun h => h.elim isPrintable_of_ascii id

/-- The test for ASCII comes first: it spares the table. -/
instance (s : List Char) : Decidable (Shown s) :=
  decidable_of_iff ((s.all fun c => 32 ≤ c.toNat && c.toNat < 127 ||
      !unprintable.toList.any fun r => r.1 ≤ c.toNat && c.toNat ≤ r.2) = true)
    (List.all_eq_true.trans (forall₂_congr fun _ _ => isPrintable_iff.symm))

def Ascii (s : List Char) : Prop := ∀ c ∈ s, 32 ≤ c.toNat ∧ c.toNat < 127

instance (s : List Char) : Decidable (Ascii s) :=
  List.decidableBAll (fun c : Char => 32 ≤ c.toNat ∧ c.toNat < 127) s

theorem ascii_append {s t : List Char} : Ascii (s ++ t) ↔ Ascii s ∧ Ascii t :=
  List.forall_mem_append

theorem Ascii.shown {s : List Char} (h : Ascii s) : Shown s :=
  fun c hc => isPrintable_of_ascii (h c hc)

def otherBlanks : List Nat :=
  [9, 10, 11, 12, 13, 28, 29, 30, 31, 0x85, 0xA0, 0x1680, 0x2000, 0x2001, 0x2002, 0x2003, 0x2004,
    0x2005, 0x2006, 0x2007, 0x2008, 0x2009, 0x200A, 0x2028, 0x2029, 0x202F, 0x205F, 0x3000]

theorem eq_space_of_isBlank {c : Char} (h : isPrintable c = true) (hb : isBlank c = true) :
    c = ' ' := by
  by_contra hne
  have hn : c.toNat ≠ 32 := by
    intro h32
    exact hne (Char.toNat_inj.1 h32)
  have hother : c.toNat ∈ otherBlanks := by
    simp only [isBlank, Bool.or_eq_true, Bool.and_eq_true, decide_eq_true_eq, beq_iff_eq] at hb
    simp only [otherBlanks, List.mem_cons, List.not_mem_nil]
    omega
  have hall : ∀ n ∈ otherBlanks, inRanges unprintable n = true := by
    simp only [inRanges_eq]
    decide +kernel
  rw [isPrintable, hall _ hother] at h
  contradiction

theorem Shown.joiner_not_mem {s : List Char} (h : Shown s) : joiner ∉ s := by
  intro hmem
  have hprintable : isPrintable joiner = true := h joiner hmem
  have hnot : isPrintable joiner = false := by
    rw [isPrintable, inRanges_eq]
    decide +kernel
  rw [hnot] at hprintable
  contradiction

theorem cellsFrom_cons {c : Char} (hc : c ≠ joiner) (last : Option Char) (s : List Char) :
    cellsFrom last (c :: s) =
      if c == pictureSelector then pictureCells last + cellsFrom none s
      else charCells c + cellsFrom (if charCells c == 0 then last else some c) s := by
  rw [cellsFrom.eq_def]
  simp [hc]

theorem cellsFrom_congr {s : List Char} (hs : joiner ∉ s) {a b : Option Char}
    (h : pictureCells a = pictureCells b) : cellsFrom a s = cellsFrom b s := by
  induction s generalizing a b with
  | nil => rfl
  | cons c s ih =>
    obtain ⟨hc, hs⟩ : c ≠ joiner ∧ joiner ∉ s := by
      rw [List.mem_cons, not_or] at hs
      exact ⟨Ne.symm hs.1, hs.2⟩
    rw [cellsFrom_cons hc, cellsFrom_cons hc, h]
    split
    · rfl
    · split
      · rw [ih hs h]
      · rfl

/-- A part that ends with a space is measured by itself. -/
theorem cellsFrom_append_space {v s : List Char} (hv : joiner ∉ v) (hs : joiner ∉ s)
    (last : Option Char) :
    cellsFrom last (v ++ ' ' :: s) = cellsFrom last (v ++ [' ']) + cells s := by
  induction v generalizing last with
  | nil =>
    have hspace : ' ' ≠ joiner := by decide
    have hselector : (' ' == pictureSelector) = false := by decide
    have hone : charCells ' ' = 1 := rfl
    have hopen : (if (1 : Nat) == 0 then last else some ' ') = some ' ' := rfl
    have hplain : pictureCells (some ' ') = pictureCells none := by
      rw [pictureCells, inRanges_eq]
      decide +kernel
    rw [List.nil_append, List.nil_append, cellsFrom_cons hspace, cellsFrom_cons hspace, hselector,
      hone, hopen, cellsFrom_congr hs hplain]
    rfl
  | cons c v ih =>
    obtain ⟨hc, hv⟩ : c ≠ joiner ∧ joiner ∉ v := by
      rw [List.mem_cons, not_or] at hv
      exact ⟨Ne.symm hv.1, hv.2⟩
    rw [List.cons_append, List.cons_append, cellsFrom_cons hc, cellsFrom_cons hc]
    split
    · rw [ih hv, Nat.add_assoc]
    · rw [ih hv, Nat.add_assoc]

theorem cells_append_space {v s : List Char} (hv : joiner ∉ v) (hs : joiner ∉ s) :
    cells (v ++ ' ' :: s) = cells (v ++ [' ']) + cells s :=
  cellsFrom_append_space hv hs none

theorem cellsFrom_le_append {v : List Char} (hv : joiner ∉ v) (last : Option Char)
    (s : List Char) : cellsFrom last v ≤ cellsFrom last (v ++ s) := by
  induction v generalizing last with
  | nil => exact Nat.zero_le _
  | cons c v ih =>
    obtain ⟨hc, hv⟩ : c ≠ joiner ∧ joiner ∉ v := by
      rw [List.mem_cons, not_or] at hv
      exact ⟨Ne.symm hv.1, hv.2⟩
    rw [List.cons_append, cellsFrom_cons hc, cellsFrom_cons hc]
    split
    · exact Nat.add_le_add_left (ih hv _) _
    · exact Nat.add_le_add_left (ih hv _) _

theorem cells_trimEnd_le {s : List Char} (hs : joiner ∉ s) : cells (trimEnd s) ≤ cells s := by
  obtain ⟨b, -, hb⟩ := exists_blank_tail s
  have hnot : joiner ∉ trimEnd s := by
    intro hmem
    apply hs
    rw [hb]
    exact List.mem_append_left b hmem
  have hle := cellsFrom_le_append hnot none b
  rwa [← hb] at hle

/-- A character that takes one cell, whatever stands around it. -/
def Narrow (c : Char) : Prop := c ≠ joiner ∧ c ≠ pictureSelector ∧ charCells c = 1

theorem cells_of_narrow {s : List Char} (h : ∀ c ∈ s, Narrow c) : cells s = s.length := by
  have hfrom (last : Option Char) : cellsFrom last s = s.length := by
    induction s generalizing last with
    | nil => rfl
    | cons c s ih =>
      obtain ⟨⟨hjoiner, hselector, hone⟩, hrest⟩ := List.forall_mem_cons.1 h
      rw [cellsFrom_cons hjoiner, if_neg (by simpa using hselector), hone, ih hrest,
        List.length_cons, Nat.add_comm]
  exact hfrom none

theorem narrow_of_ascii {c : Char} (h : 32 ≤ c.toNat ∧ c.toNat < 127) : Narrow c := by
  refine ⟨?_, ?_, by simp [charCells, h]⟩
  all_goals
    rintro rfl
    exact absurd h.2 (by decide)

theorem Ascii.cells {s : List Char} (h : Ascii s) : cells s = s.length :=
  cells_of_narrow fun c hc => narrow_of_ascii (h c hc)

end Plateau.Text
