import Plateau.Proofs.Text.Pieces

namespace Plateau.Text

def joined (ls : List (List Char)) : List Char := ['\n'].intercalate ls

def Feedless (ls : List (List Char)) : Prop := ∀ l ∈ ls, '\n' ∉ l

theorem feedless_cons {l : List Char} {ls : List (List Char)} :
    Feedless (l :: ls) ↔ '\n' ∉ l ∧ Feedless ls :=
  List.forall_mem_cons

def dropLeading : List (List Char) → List (List Char)
  | [] => [[]]
  | l :: ls => if l = [] then dropLeading ls else l :: ls

def dropTrailing : List (List Char) → List (List Char)
  | [] => [[]]
  | l :: ls => if dropTrailing ls = [[]] then [l] else l :: dropTrailing ls

def framed (ls : List (List Char)) : List (List Char) := dropTrailing (dropLeading ls)

theorem Blank.append {s t : List Char} (hs : Blank s) (ht : Blank t) : Blank (s ++ t) := by
  intro c hc
  rcases List.mem_append.1 hc with hc | hc
  · exact hs c hc
  · exact ht c hc

theorem trim_dropWhile (s : List Char) : trim (s.dropWhile isBlank) = trim s := by
  obtain ⟨l, hl, hs⟩ := exists_blank_front s
  have h := trim_pad hl blank_nil (s.dropWhile isBlank)
  rwa [List.append_nil, ← hs, eq_comm] at h

theorem trim_trimEnd (s : List Char) : trim (trimEnd s) = trim s := by
  obtain ⟨r, hr, hs⟩ := exists_blank_tail s
  have h := trim_pad blank_nil hr (trimEnd s)
  rwa [List.nil_append, ← hs, eq_comm] at h

theorem trim_trim (s : List Char) : trim (trim s) = trim s :=
  trim_eq_self (bare_trim s)

theorem trim_eq_nil_iff {s : List Char} : trim s = [] ↔ Blank s := by
  rw [trim_eq_iff]
  constructor
  · rintro ⟨-, l, r, hl, hr, rfl⟩
    exact hl.append hr
  · intro hs
    exact ⟨by simp [Bare], s, [], hs, blank_nil, by simp⟩

theorem trimEnd_append (s t : List Char) :
    trimEnd (s ++ t) = if trimEnd t = [] then trimEnd s else s ++ trimEnd t := by
  by_cases ht : trimEnd t = []
  · obtain ⟨r, hr, hblank⟩ := exists_blank_tail t
    rw [ht, List.nil_append] at hblank
    rw [if_pos ht, hblank, trimEnd_append_blank s hr]
  · rw [if_neg ht]
    induction s with
    | nil => rfl
    | cons c s ih =>
      rw [List.cons_append, trimEnd, ih]
      cases h : s ++ trimEnd t with
      | nil => exact absurd (List.append_eq_nil_iff.1 h).2 ht
      | cons d u => rw [List.cons_append, h]

theorem Spaced.append_blank {s r : List Char} {ws : List (List Char)} (h : Spaced s ws)
    (hr : Blank r) : Spaced (s ++ r) ws := by
  induction h with
  | nil hb => exact .nil (hb.append hr)
  | @cons b w s ws hb hw hs rest ih =>
    rw [List.append_assoc, List.append_assoc]
    refine .cons hb hw ?_ ih
    cases s with
    | nil => exact fun c hc => hr c (List.mem_of_mem_head? hc)
    | cons d s => exact hs

theorem words_trim (s : List Char) : words (trim s) = words s := by
  obtain ⟨-, l, r, hl, hr, hs⟩ := trimmed_trim s
  obtain ⟨ws, h⟩ := exists_spaced (trim s)
  have hall : Spaced s ws := by
    rw [hs]
    exact (h.append_blank hr).blank_append hl
  rw [words_of_spaced h, words_of_spaced hall]

theorem joined_cons {ls : List (List Char)} (hne : ls ≠ []) (l : List Char) :
    joined (l :: ls) = l ++ '\n' :: joined ls := by
  rw [joined, List.intercalate_cons_of_ne_nil hne, List.append_assoc]
  rfl

theorem joined_concat {ls : List (List Char)} (hne : ls ≠ []) (l : List Char) :
    joined (ls ++ [l]) = joined ls ++ '\n' :: l := by
  induction ls with
  | nil => exact absurd rfl hne
  | cons k ls ih =>
    by_cases hls : ls = []
    · subst hls
      simp [joined, List.intercalate]
    · rw [List.cons_append, joined_cons (by simp), ih hls, joined_cons hls, List.append_assoc]
      rfl

theorem lines_joined {ls : List (List Char)} (hne : ls ≠ []) (hls : Feedless ls) :
    lines (joined ls) = ls :=
  lines_eq_iff.2 ⟨hne, hls, rfl⟩

theorem lines_cons_joined {l : List Char} (hl : '\n' ∉ l) (s : List Char) :
    lines (l ++ '\n' :: s) = l :: lines s := by
  rw [lines_append_feed, lines_of_no_feed hl]
  rfl

theorem feed_not_mem_dropWhile {l : List Char} (hl : '\n' ∉ l) : '\n' ∉ l.dropWhile isBlank :=
  fun h => hl ((List.dropWhile_sublist isBlank).mem h)

theorem feed_not_mem_trimEnd {l : List Char} (hl : '\n' ∉ l) : '\n' ∉ trimEnd l := by
  obtain ⟨r, -, hs⟩ := exists_blank_tail l
  intro h
  rw [hs] at hl
  exact hl (List.mem_append_left r h)

/-- White space in front of a text stands on lines that are blank and before the first that is
not. -/
theorem map_trim_lines_dropWhile {ls : List (List Char)} (hls : Feedless ls) :
    (lines ((joined ls).dropWhile isBlank)).map trim = dropLeading (ls.map trim) := by
  induction ls with
  | nil => rfl
  | cons l ls ih =>
    obtain ⟨hl, hls⟩ := feedless_cons.1 hls
    by_cases hne : ls = []
    · subst hne
      have hsingle : joined [l] = l := by simp [joined, List.intercalate]
      rw [hsingle, lines_of_no_feed (feed_not_mem_dropWhile hl), List.map_singleton,
        trim_dropWhile]
      by_cases hblank : trim l = []
      · simp [dropLeading, hblank]
      · simp [dropLeading, hblank]
    rw [joined_cons hne, List.map_cons, dropLeading]
    by_cases hblank : trim l = []
    · have hfeed : Blank (l ++ ['\n']) :=
        (trim_eq_nil_iff.1 hblank).append (blank_cons rfl blank_nil)
      rw [if_pos hblank, ← ih hls, ← dropWhile_blank_append hfeed (joined ls),
        List.append_assoc]
      rfl
    · have hfront : (l ++ '\n' :: joined ls).dropWhile isBlank =
          l.dropWhile isBlank ++ '\n' :: joined ls := by
        rw [List.dropWhile_append, if_neg]
        intro hempty
        have hnil : l.dropWhile isBlank = [] := List.isEmpty_iff.1 hempty
        rw [trim, hnil] at hblank
        exact hblank rfl
      rw [if_neg hblank, hfront, lines_cons_joined (feed_not_mem_dropWhile hl),
        lines_joined hne hls, List.map_cons, trim_dropWhile]

theorem trimEnd_eq_nil_of_lines {s : List Char} (h : (lines (trimEnd s)).map trim = [[]]) :
    trimEnd s = [] := by
  obtain ⟨l, hl, hblank⟩ := List.map_eq_singleton_iff.1 h
  have hs : trimEnd s = l := by
    simpa [List.intercalate] using (lines_eq_iff.1 hl).joined
  rw [← hs] at hblank
  have hend : trimEnd (trimEnd s) = trimEnd s := trimEnd_eq_self (last_trimEnd s)
  rw [← hend, trimEnd_eq_nil (trim_eq_nil_iff.1 hblank)]

theorem map_trim_lines_trimEnd {ls : List (List Char)} (hls : Feedless ls) :
    (lines (trimEnd (joined ls))).map trim = dropTrailing (ls.map trim) := by
  induction ls with
  | nil => rfl
  | cons l ls ih =>
    obtain ⟨hl, hls⟩ := feedless_cons.1 hls
    have halone : (lines (trimEnd l)).map trim = [trim l] := by
      rw [lines_of_no_feed (feed_not_mem_trimEnd hl), List.map_singleton, trim_trimEnd]
    rw [List.map_cons, dropTrailing, ← ih hls]
    by_cases hne : ls = []
    · subst hne
      have hsingle : joined [l] = l := by simp [joined, List.intercalate]
      rw [hsingle, halone]
      rfl
    rw [joined_cons hne, trimEnd_append]
    by_cases hrest : trimEnd (joined ls) = []
    · have hfeed : trimEnd ('\n' :: joined ls) = [] := by
        rw [trimEnd, hrest]
        rfl
      rw [if_pos hfeed, hrest, halone]
      rfl
    · have hfeed : trimEnd ('\n' :: joined ls) = '\n' :: trimEnd (joined ls) := by
        rw [trimEnd]
        cases h : trimEnd (joined ls) with
        | nil => exact absurd h hrest
        | cons c t => rfl
      rw [hfeed, if_neg (List.cons_ne_nil _ _), lines_cons_joined hl, List.map_cons,
        if_neg fun h => hrest (trimEnd_eq_nil_of_lines h)]

/-- The lines of a text when it is trimmed. -/
theorem map_trim_lines_trim {ls : List (List Char)} (hls : Feedless ls) :
    (lines (trim (joined ls))).map trim = framed (ls.map trim) := by
  have hfront : Lined _ (lines ((joined ls).dropWhile isBlank)) := lines_eq_iff.1 rfl
  have hjoined : joined (lines ((joined ls).dropWhile isBlank)) = (joined ls).dropWhile isBlank :=
    hfront.joined.symm
  rw [trim, ← hjoined, map_trim_lines_trimEnd hfront.no_feed, map_trim_lines_dropWhile hls, framed]

theorem dropTrailing_eq_self {ls : List (List Char)} (hne : ls ≠ [])
    (hlast : ∀ l ∈ ls.getLast?, l ≠ []) : dropTrailing ls = ls := by
  induction ls with
  | nil => exact absurd rfl hne
  | cons l ls ih =>
    by_cases hls : ls = []
    · subst hls
      rfl
    · have hlast' : ∀ k ∈ ls.getLast?, k ≠ [] := by
        rwa [List.getLast?_cons_of_ne_nil hls] at hlast
      have htail : dropTrailing ls = ls := ih hls hlast'
      have hfull : ls ≠ [[]] := by
        rintro rfl
        exact hlast' [] rfl rfl
      rw [dropTrailing, htail, if_neg hfull]

theorem framed_cons {l : List Char} {ls : List (List Char)} (hl : l ≠ [])
    (hlast : ∀ k ∈ (l :: ls).getLast?, k ≠ []) : framed (l :: ls) = l :: ls := by
  rw [framed, dropLeading, if_neg hl, dropTrailing_eq_self (List.cons_ne_nil l ls) hlast]

theorem framed_nil_cons (ls : List (List Char)) : framed ([] :: ls) = framed ls := by
  rw [framed, dropLeading, if_pos rfl, framed]

theorem dropTrailing_concat_nil (ls : List (List Char)) :
    dropTrailing (ls ++ [[]]) = dropTrailing ls := by
  induction ls with
  | nil => rfl
  | cons l ls ih => rw [List.cons_append, dropTrailing, ih, dropTrailing]

theorem framed_concat_nil {l : List Char} (hl : l ≠ []) (ls : List (List Char)) :
    framed (l :: ls ++ [[]]) = framed (l :: ls) := by
  rw [framed, framed, List.cons_append, dropLeading, if_neg hl, dropLeading, if_neg hl,
    ← List.cons_append, dropTrailing_concat_nil]

end Plateau.Text
