import Mathlib.Data.List.Infix
import Plateau.Text.Newline

namespace Plateau.Text

theorem unifyNewlines_eq_self {s : List Char} (h : '\r' ∉ s) : unifyNewlines s = s := by
  fun_induction unifyNewlines s with
  | case1 => rfl
  | case2 => simp at h
  | case3 s ih => simp at h
  | case4 c s hne ih => simp at h
  | case5 c s _ _ _ ih => rw [ih (by simp_all)]

/-- No backslash stands directly before an `n`. -/
def Unspelled (s : List Char) : Prop := ¬['\\', 'n'] <:+: s

instance (s : List Char) : Decidable (Unspelled s) := inferInstanceAs (Decidable (¬_))

theorem Unspelled.tail {c : Char} {s : List Char} (h : Unspelled (c :: s)) : Unspelled s :=
  fun hin => h (hin.trans (List.suffix_cons c s).isInfix)

theorem escapeNewlines_cons_feed (s : List Char) :
    escapeNewlines ('\n' :: s) = '\\' :: 'n' :: escapeNewlines s := rfl

theorem escapeNewlines_cons {c : Char} (hc : c ≠ '\n') (s : List Char) :
    escapeNewlines (c :: s) = c :: escapeNewlines s := by
  simp [escapeNewlines, hc]

theorem head_of_escapeNewlines {s t : List Char} (h : escapeNewlines s = 'n' :: t) :
    ∃ u, s = 'n' :: u := by
  cases s with
  | nil => contradiction
  | cons c s =>
    by_cases hc : c = '\n'
    · subst hc
      rw [escapeNewlines_cons_feed] at h
      exact absurd (List.cons.inj h).1 (by decide)
    · rw [escapeNewlines_cons hc] at h
      obtain rfl := (List.cons.inj h).1
      exact ⟨s, rfl⟩

theorem spellNewlines_cons {c : Char} {s : List Char} (h : c = '\\' → ∀ t, s ≠ 'n' :: t) :
    spellNewlines (c :: s) = c :: spellNewlines s := by
  rw [spellNewlines]
  intro t hc
  exact h hc t

/-- Reading undoes spelling, also next to other backslashes. -/
theorem spellNewlines_escapeNewlines {s : List Char} (h : Unspelled s) :
    spellNewlines (escapeNewlines s) = s := by
  induction s with
  | nil => rfl
  | cons c s ih =>
    have hrest := ih h.tail
    by_cases hc : c = '\n'
    · subst hc
      rw [escapeNewlines_cons_feed, spellNewlines, hrest]
    · rw [escapeNewlines_cons hc, spellNewlines_cons, hrest]
      rintro rfl t ht
      obtain ⟨u, rfl⟩ := head_of_escapeNewlines ht
      exact h ⟨[], u, rfl⟩

end Plateau.Text
