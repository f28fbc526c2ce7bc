import Plateau.Proofs.Text.Trim

namespace Plateau.Text

theorem mem_intercalate {divider c : Char} {parts : List (List Char)}
    (h : c ∈ [divider].intercalate parts) : c = divider ∨ ∃ part ∈ parts, c ∈ part := by
  induction parts with
  | nil => simp [List.intercalate] at h
  | cons part parts ih =>
    cases parts with
    | nil => exact .inr ⟨part, by simp, by simpa [List.intercalate] using h⟩
    | cons part' parts =>
      rw [List.intercalate_cons_cons, List.append_assoc, List.mem_append, List.mem_append] at h
      rcases h with h | h | h
      · exact .inr ⟨part, by simp, h⟩
      · exact .inl (List.mem_singleton.1 h)
      · rcases ih h with rfl | ⟨other, hother, hc⟩
        · exact .inl rfl
        · exact .inr ⟨other, List.mem_cons_of_mem _ hother, hc⟩

/-- A text is the given lines with a line feed between each and the next. -/
structure Lined (s : List Char) (ls : List (List Char)) : Prop where
  ne_nil : ls ≠ []
  no_feed : ∀ l ∈ ls, '\n' ∉ l
  joined : s = ['\n'].intercalate ls

def Token (w : List Char) : Prop := w ≠ [] ∧ ∀ c ∈ w, isBlank c = false

/-- A text is the given tokens with white space around them and between each and the next. -/
inductive Spaced : List Char → List (List Char) → Prop where
  | nil {b : List Char} (hb : Blank b) : Spaced b []
  | cons {b w s : List Char} {ws : List (List Char)} (hb : Blank b) (hw : Token w)
      (hs : ∀ c ∈ s.head?, isBlank c = true) (rest : Spaced s ws) : Spaced (b ++ (w ++ s)) (w :: ws)

theorem pieces_eq_splitOnP (p : Char → Bool) (s : List Char) : pieces p s = s.splitOnP p := by
  induction s with
  | nil => rfl
  | cons c s ih =>
    rw [pieces, List.splitOnP_cons_eq_if_modifyHead, ih]
    split
    · rfl
    · cases hs : s.splitOnP p with
      | nil => exact absurd hs (List.splitOnP_ne_nil p s)
      | cons w ws => rfl

theorem length_pieces_le (p : Char → Bool) (s : List Char) :
    (pieces p s).length ≤ s.length + 1 := by
  induction s with
  | nil => exact Nat.le_refl _
  | cons c s ih =>
    cases hc : p c with
    | true => simpa [pieces, hc] using ih
    | false =>
      obtain ⟨w, ws, hs, hcons⟩ := pieces_cons_of_neg hc s
      rw [hs] at ih
      rw [hcons]
      simp only [List.length_cons] at ih ⊢
      omega

theorem length_le_of_mem_pieces {p : Char → Bool} {s w : List Char} (h : w ∈ pieces p s) :
    w.length ≤ s.length := by
  induction s generalizing w with
  | nil =>
    obtain rfl := List.mem_singleton.1 h
    exact Nat.le_refl _
  | cons c s ih =>
    have hle {v : List Char} (hv : v ∈ pieces p s) : v.length ≤ (c :: s).length :=
      Nat.le_trans (ih hv) (Nat.le_succ _)
    cases hc : p c with
    | true =>
      rw [pieces, if_pos hc] at h
      rcases List.mem_cons.1 h with rfl | h
      · exact Nat.zero_le _
      · exact hle h
    | false =>
      obtain ⟨v, vs, hs, hcons⟩ := pieces_cons_of_neg hc s
      rw [hcons] at h
      rcases List.mem_cons.1 h with rfl | h
      · exact Nat.succ_le_succ (ih (hs ▸ List.mem_cons_self))
      · exact hle (hs ▸ List.mem_cons_of_mem _ h)

theorem lines_eq_iff {s : List Char} {ls : List (List Char)} : lines s = ls ↔ Lined s ls := by
  have hl : lines s = s.splitOn '\n' := by
    rw [lines, pieces_eq_splitOnP, List.splitOn_eq_splitOnP]
  constructor
  · intro h
    refine ⟨?_, ?_, ?_⟩
    · rw [← h, hl]
      exact List.splitOn_ne_nil _ _
    · intro l hm hf
      rw [← h] at hm
      simpa using not_sep_of_mem_pieces hm '\n' hf
    · rw [← h, hl, List.intercalate_splitOn]
  · intro h
    rw [hl, h.joined]
    exact List.splitOn_intercalate '\n' h.no_feed h.ne_nil

theorem lines_of_no_feed {s : List Char} (h : '\n' ∉ s) : lines s = [s] :=
  lines_eq_iff.2 ⟨by simp, by simpa using h, by simp [List.intercalate]⟩

theorem lines_append_feed (s t : List Char) : lines (s ++ '\n' :: t) = lines s ++ lines t := by
  simp only [lines, pieces_eq_splitOnP]
  exact List.splitOnP_append_cons s t rfl

theorem mem_lines {before line after : List Char} (hbefore : ∀ c ∈ before.getLast?, c = '\n')
    (hline : '\n' ∉ line) (hafter : ∀ c ∈ after.head?, c = '\n') :
    line ∈ lines (before ++ (line ++ after)) := by
  have hfirst : line ∈ lines (line ++ after) := by
    cases after with
    | nil =>
      rw [List.append_nil, lines_of_no_feed hline]
      exact List.mem_singleton_self line
    | cons c after =>
      obtain rfl : c = '\n' := hafter c rfl
      rw [lines_append_feed, lines_of_no_feed hline]
      exact List.mem_append_left _ (List.mem_singleton_self line)
  rcases List.eq_nil_or_concat before with rfl | ⟨before, c, rfl⟩
  · exact hfirst
  · obtain rfl : c = '\n' := hbefore c (by simp)
    rw [List.concat_eq_append, List.append_assoc, List.singleton_append, lines_append_feed]
    exact List.mem_append_right _ hfirst

theorem words_cons_blank {c : Char} (hc : isBlank c = true) (s : List Char) :
    words (c :: s) = words s := by
  simp [words, pieces, hc]

theorem words_blank_append {b : List Char} (hb : Blank b) (s : List Char) :
    words (b ++ s) = words s := by
  induction b with
  | nil => rfl
  | cons c b ih =>
    rw [List.cons_append, words_cons_blank (hb c List.mem_cons_self)]
    exact ih fun d hd => hb d (List.mem_cons_of_mem _ hd)

theorem words_token {w : List Char} (hw : Token w) : words w = [w] := by
  rw [words, pieces_eq_splitOnP, List.splitOnP_eq_singleton hw.2]
  simp [hw.1]

theorem words_token_append {w s : List Char} (hw : Token w)
    (hs : ∀ c ∈ s.head?, isBlank c = true) : words (w ++ s) = w :: words s := by
  cases s with
  | nil =>
    rw [List.append_nil, words_token hw]
    rfl
  | cons c s =>
    have hc : isBlank c = true := hs c rfl
    have h : words (w ++ c :: s) = words w ++ words s := by
      simp only [words, pieces_eq_splitOnP]
      rw [List.splitOnP_append_cons w s hc, List.filter_append]
    rw [h, words_token hw, words_cons_blank hc, List.singleton_append]

theorem words_intercalate {ws : List (List Char)} (h : ∀ w ∈ ws, Token w) :
    words ([' '].intercalate ws) = ws := by
  induction ws with
  | nil => rfl
  | cons w ws ih =>
    obtain ⟨hw, hws⟩ := List.forall_mem_cons.1 h
    cases ws with
    | nil => simpa [List.intercalate] using words_token hw
    | cons v ws =>
      have hspace : isBlank ' ' = true := by decide
      rw [List.intercalate_cons_cons, List.append_assoc, List.singleton_append,
        words_token_append hw (by simpa using hspace), words_cons_blank hspace, ih hws]

theorem words_of_spaced {s : List Char} {ws : List (List Char)} (h : Spaced s ws) :
    words s = ws := by
  induction h with
  | nil hb => simpa [words, pieces] using words_blank_append hb []
  | cons hb hw hs _ ih => rw [words_blank_append hb, words_token_append hw hs, ih]

theorem Spaced.blank_append {b s : List Char} {ws : List (List Char)} (hb : Blank b)
    (h : Spaced s ws) : Spaced (b ++ s) ws := by
  have join (b' : List Char) (hb' : Blank b') : Blank (b ++ b') := by
    intro c hc
    rcases List.mem_append.1 hc with hc | hc
    · exact hb c hc
    · exact hb' c hc
  cases h with
  | nil hb' => exact .nil (join _ hb')
  | cons hb' hw hs rest =>
    rw [← List.append_assoc]
    exact .cons (join _ hb') hw hs rest

theorem Spaced.exists_token {s : List Char} {ws : List (List Char)} (h : Spaced s ws) (hne : s ≠ [])
    (hs : ∀ c ∈ s.head?, isBlank c = false) :
    ∃ w t vs, Token w ∧ (∀ c ∈ t.head?, isBlank c = true) ∧ Spaced t vs ∧ s = w ++ t := by
  have empty {b u : List Char} (hb : Blank b) (hu : ∀ c ∈ (b ++ u).head?, isBlank c = false) :
      b = [] := by
    cases b with
    | nil => rfl
    | cons c b =>
      have h1 : isBlank c = true := hb c List.mem_cons_self
      have h2 : isBlank c = false := hu c rfl
      rw [h1] at h2
      contradiction
  cases h with
  | nil hb => exact absurd (empty (u := []) hb (by simpa using hs)) hne
  | cons hb hw ht rest =>
    obtain rfl := empty hb hs
    exact ⟨_, _, _, hw, ht, rest, rfl⟩

theorem exists_spaced (s : List Char) : ∃ ws, Spaced s ws := by
  induction s with
  | nil => exact ⟨[], .nil blank_nil⟩
  | cons c s ih =>
    obtain ⟨ws, h⟩ := ih
    cases hc : isBlank c with
    | true => exact ⟨ws, h.blank_append (b := [c]) (by simpa [Blank] using hc)⟩
    | false =>
      by_cases hs : ∀ d ∈ s.head?, isBlank d = true
      · exact ⟨[c] :: ws, .cons (w := [c]) blank_nil (by simpa [Token] using hc) hs h⟩
      · obtain ⟨d, hd, hb⟩ : ∃ d ∈ s.head?, ¬isBlank d = true := by simpa using hs
        have hne : s ≠ [] := by rintro rfl; simp at hd
        -- `c` lengthens the first word of `s`.
        obtain ⟨w, t, vs, hw, ht, rest, rfl⟩ := h.exists_token hne (by
          intro e he
          rw [Option.mem_unique he hd]
          simpa using hb)
        have hcw : Token (c :: w) := ⟨by simp, by simpa [hc] using hw.2⟩
        exact ⟨(c :: w) :: vs, .cons (w := c :: w) blank_nil hcw ht rest⟩

theorem Spaced.token {s w : List Char} {ws : List (List Char)} (h : Spaced s ws) (hw : w ∈ ws) :
    Token w := by
  induction h with
  | nil hb => contradiction
  | cons hb hfirst hs rest ih =>
    rcases List.mem_cons.1 hw with rfl | hw
    · exact hfirst
    · exact ih hw

theorem Spaced.length_le {s : List Char} {ws : List (List Char)} (h : Spaced s ws) :
    ws.length ≤ s.length + 1 := by
  rw [← words_of_spaced h]
  exact Nat.le_trans (List.length_filter_le _ _) (length_pieces_le _ _)

theorem words_eq_iff {s : List Char} {ws : List (List Char)} : words s = ws ↔ Spaced s ws := by
  constructor
  · rintro rfl
    obtain ⟨ws, h⟩ := exists_spaced s
    rw [words_of_spaced h]
    exact h
  · exact words_of_spaced

def spaced (ws : List (List Char)) : List Char := [' '].intercalate ws

theorem spaced_cons {ws : List (List Char)} (hne : ws ≠ []) (w : List Char) :
    spaced (w :: ws) = w ++ ' ' :: spaced ws := by
  rw [spaced, List.intercalate_cons_of_ne_nil hne, List.append_assoc]
  rfl

theorem words_spaced {ws : List (List Char)} (h : ∀ w ∈ ws, Token w) : words (spaced ws) = ws := by
  induction ws with
  | nil => rfl
  | cons w ws ih =>
    obtain ⟨hw, hws⟩ := List.forall_mem_cons.1 h
    by_cases hne : ws = []
    · subst hne
      simpa [spaced, List.intercalate] using words_token hw
    · rw [spaced_cons hne, words_token_append hw (by simp; decide), words_cons_blank rfl, ih hws]

theorem feed_not_mem_spaced {ws : List (List Char)} (h : ∀ w ∈ ws, Token w) : '\n' ∉ spaced ws := by
  induction ws with
  | nil => simp [spaced, List.intercalate]
  | cons w ws ih =>
    obtain ⟨hw, hws⟩ := List.forall_mem_cons.1 h
    have hfirst : '\n' ∉ w := feed_not_mem hw.2
    by_cases hne : ws = []
    · subst hne
      simpa [spaced, List.intercalate] using hfirst
    · rw [spaced_cons hne]
      simp [hfirst, ih hws]

end Plateau.Text
