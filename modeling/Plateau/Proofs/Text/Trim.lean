import Plateau.Text.Blank

namespace Plateau.Text

def Blank (s : List Char) : Prop := ∀ c ∈ s, isBlank c = true

def Bare (s : List Char) : Prop :=
  (∀ c ∈ s.head?, isBlank c = false) ∧ ∀ c ∈ s.getLast?, isBlank c = false

/-- What is left of a text when the white space around it is taken away. -/
def Trimmed (s t : List Char) : Prop :=
  Bare t ∧ ∃ l r, Blank l ∧ Blank r ∧ s = l ++ (t ++ r)

theorem blank_nil : Blank [] := by simp [Blank]

theorem blank_cons {c : Char} {s : List Char} (hc : isBlank c = true) (hs : Blank s) :
    Blank (c :: s) := by
  intro d hd
  rcases List.mem_cons.1 hd with rfl | hd
  · exact hc
  · exact hs d hd

theorem feed_not_mem {s : List Char} (hs : ∀ c ∈ s, isBlank c = false) : '\n' ∉ s := by
  intro hmem
  have hfeed := hs _ hmem
  contradiction

theorem trimEnd_eq_nil {s : List Char} (hs : Blank s) : trimEnd s = [] := by
  induction s with
  | nil => rfl
  | cons c s ih =>
    have hc : isBlank c = true := hs c List.mem_cons_self
    have ht : trimEnd s = [] := ih fun d hd => hs d (List.mem_cons_of_mem _ hd)
    simp [trimEnd, ht, hc]

theorem trimEnd_append_blank (s : List Char) {r : List Char} (hr : Blank r) :
    trimEnd (s ++ r) = trimEnd s := by
  induction s with
  | nil => exact trimEnd_eq_nil hr
  | cons c s ih => simp only [List.cons_append, trimEnd, ih]

theorem trimEnd_eq_self {s : List Char} (hs : ∀ c ∈ s.getLast?, isBlank c = false) :
    trimEnd s = s := by
  induction s with
  | nil => rfl
  | cons c s ih =>
    cases s with
    | nil =>
      have hc : isBlank c = false := hs c (by simp)
      simp [trimEnd, hc]
    | cons d s =>
      have ht : trimEnd (d :: s) = d :: s := ih (by simpa using hs)
      rw [trimEnd, ht]

theorem exists_blank_tail (s : List Char) : ∃ r, Blank r ∧ s = trimEnd s ++ r := by
  induction s with
  | nil => exact ⟨[], blank_nil, rfl⟩
  | cons c s ih =>
    obtain ⟨r, hr, hs⟩ := ih
    cases ht : trimEnd s with
    | nil =>
      rw [ht, List.nil_append] at hs
      cases hc : isBlank c with
      | true => exact ⟨c :: s, blank_cons hc (hs ▸ hr), by simp [trimEnd, ht, hc]⟩
      | false => exact ⟨s, hs ▸ hr, by simp [trimEnd, ht, hc]⟩
    | cons d t =>
      rw [ht] at hs
      exact ⟨r, hr, by simp only [trimEnd, ht, List.cons_append]; rw [hs]; rfl⟩

theorem last_trimEnd (s : List Char) : ∀ c ∈ (trimEnd s).getLast?, isBlank c = false := by
  induction s with
  | nil => simp
  | cons c s ih =>
    cases ht : trimEnd s with
    | nil =>
      cases hc : isBlank c with
      | true => simp [trimEnd, ht, hc]
      | false => simp [trimEnd, ht, hc]
    | cons d t =>
      have h : trimEnd (c :: s) = c :: d :: t := by simp [trimEnd, ht]
      rw [h, List.getLast?_cons_cons]
      exact ht ▸ ih

theorem exists_blank_front (s : List Char) :
    ∃ l, Blank l ∧ s = l ++ s.dropWhile isBlank := by
  refine ⟨s.takeWhile isBlank, ?_, (List.takeWhile_append_dropWhile).symm⟩
  exact List.all_eq_true.1 List.all_takeWhile

theorem head_dropWhile (s : List Char) : ∀ c ∈ (s.dropWhile isBlank).head?, isBlank c = false := by
  intro c hc
  have h := List.head?_dropWhile_not isBlank s
  rw [hc] at h
  simpa using h

theorem dropWhile_blank_append {l : List Char} (hl : Blank l) (s : List Char) :
    (l ++ s).dropWhile isBlank = s.dropWhile isBlank := by
  induction l with
  | nil => rfl
  | cons c l ih =>
    have hc : isBlank c = true := hl c List.mem_cons_self
    rw [List.cons_append, List.dropWhile_cons_of_pos hc]
    exact ih fun d hd => hl d (List.mem_cons_of_mem _ hd)

theorem dropWhile_eq_self {s : List Char} (hs : ∀ c ∈ s.head?, isBlank c = false) :
    s.dropWhile isBlank = s := by
  cases s with
  | nil => rfl
  | cons c s =>
    have hc : isBlank c = false := hs c rfl
    exact List.dropWhile_cons_of_neg (by simp [hc])

theorem bare_trim (s : List Char) : Bare (trim s) := by
  refine ⟨?_, last_trimEnd _⟩
  intro c hc
  obtain ⟨r, -, hr⟩ := exists_blank_tail (s.dropWhile isBlank)
  have hd : c ∈ (s.dropWhile isBlank).head? := by
    rw [hr]
    change (trimEnd (s.dropWhile isBlank)).head? = some c at hc
    rw [List.head?_append, hc]
    rfl
  exact head_dropWhile s c hd

theorem trim_eq_self {s : List Char} (hs : Bare s) : trim s = s := by
  rw [trim, dropWhile_eq_self hs.1, trimEnd_eq_self hs.2]

/-- White space around a text is trimmed away. -/
theorem trim_pad {l r : List Char} (hl : Blank l) (hr : Blank r) (s : List Char) :
    trim (l ++ (s ++ r)) = trim s := by
  rw [trim, dropWhile_blank_append hl, trim]
  obtain ⟨b, hb, hs⟩ := exists_blank_front s
  cases hd : s.dropWhile isBlank with
  | nil =>
    rw [hd, List.append_nil] at hs
    have h : (s ++ r).dropWhile isBlank = r.dropWhile isBlank :=
      dropWhile_blank_append (hs ▸ hb) r
    have hr' : r.dropWhile isBlank = [] := by
      simpa using dropWhile_blank_append hr []
    rw [h, hr']
  | cons c t =>
    have h : (s ++ r).dropWhile isBlank = (c :: t) ++ r := by
      have hc : isBlank c = false := head_dropWhile s c (by rw [hd]; rfl)
      rw [hs, List.append_assoc, dropWhile_blank_append hb, hd]
      exact dropWhile_eq_self (by simpa using hc)
    rw [h, trimEnd_append_blank _ hr]

theorem trimmed_trim (s : List Char) : Trimmed s (trim s) := by
  obtain ⟨l, hl, hs⟩ := exists_blank_front s
  obtain ⟨r, hr, ht⟩ := exists_blank_tail (s.dropWhile isBlank)
  exact ⟨bare_trim s, l, r, hl, hr, hs.trans (congrArg (l ++ ·) ht)⟩

theorem trim_eq_iff {s t : List Char} : trim s = t ↔ Trimmed s t := by
  constructor
  · rintro rfl
    exact trimmed_trim s
  · rintro ⟨ht, l, r, hl, hr, rfl⟩
    rw [trim_pad hl hr, trim_eq_self ht]

theorem length_trim_le (s : List Char) : (trim s).length ≤ s.length := by
  obtain ⟨-, l, r, -, -, hs⟩ := trimmed_trim s
  have hlen := congrArg List.length hs
  simp only [List.length_append] at hlen
  omega

end Plateau.Text
