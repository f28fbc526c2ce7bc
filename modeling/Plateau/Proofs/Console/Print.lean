import Plateau.Console.Screen
import Plateau.Proofs.Text.Cells
import Plateau.Proofs.Text.Pieces

namespace Plateau.Console

open Text (Shown cells trimEnd isBlank)

theorem breaksFrom_cons {width used : Nat} {fold : Bool} {word : List Char}
    (h : used + cells (trimEnd word) ≤ width) (start : Nat) (rest : List (List Char)) :
    breaksFrom width fold start used (word :: rest) =
      breaksFrom width fold (start + word.length) (used + cells word) rest := by
  rw [breaksFrom]
  simp only [h, if_true]

theorem cutWords_before (word : List Char) (c : Char) (s : List Char) :
    cutWords .before word (c :: s) =
      cutWords (if isBlank c then .before else .inside) (c :: word) s := by
  -- The equations of the cases would take the test for a blank apart.
  rw [cutWords.eq_def]
  dsimp only
  cases isBlank c <;> rfl

theorem cutWords_inside (word : List Char) (c : Char) (s : List Char) :
    cutWords .inside word (c :: s) =
      cutWords (if isBlank c then .after else .inside) (c :: word) s := by
  rw [cutWords.eq_def]
  dsimp only
  cases isBlank c <;> rfl

theorem cutWords_after (word : List Char) (c : Char) (s : List Char) :
    cutWords .after word (c :: s) =
      if isBlank c then cutWords .after (c :: word) s
      else word.reverse :: cutWords .inside [c] s := by
  rw [cutWords.eq_def]
  dsimp only
  cases isBlank c <;> rfl

/-- A line that fits is not broken.  The induction is on what is left of the line: with the word
that is being read, it fits into what the words before have left. -/
theorem breaksFrom_cutWords {width : Nat} {fold : Bool} {s : List Char} (hs : Shown s)
    {part : WordPart} {word : List Char} (hword : Shown word)
    (hafter : part = .after → ∃ w, word = ' ' :: w) {used : Nat}
    (hfit : used + cells (word.reverse ++ s) ≤ width) (start : Nat) :
    breaksFrom width fold start used (cutWords part word s) = [] := by
  have hback {w : List Char} (hw : Shown w) : Text.joiner ∉ w.reverse := by
    rw [List.mem_reverse]
    exact hw.joiner_not_mem
  induction s generalizing part word start used with
  | nil =>
    rw [List.append_nil] at hfit
    have htrim := Text.cells_trimEnd_le (hback hword)
    have hlast : breaksFrom width fold start used [word.reverse] = [] := by
      rw [breaksFrom_cons (by omega)]
      rfl
    cases part with
    | before => rfl
    | inside => exact hlast
    | after => exact hlast
  | cons c s ih =>
    obtain ⟨hc, hs'⟩ := Text.shown_cons.1 hs
    have hword' : Shown (c :: word) := Text.shown_cons.2 ⟨hc, hword⟩
    have hfit' : used + cells ((c :: word).reverse ++ s) ≤ width := by
      rwa [List.reverse_cons, List.append_assoc]
    cases part with
    | before =>
      rw [cutWords_before]
      split
      · exact ih hs' hword' (by simp) hfit' start
      · exact ih hs' hword' (by simp) hfit' start
    | inside =>
      rw [cutWords_inside]
      split
      · rename_i hb
        exact ih hs' hword' (fun _ => ⟨word, by rw [Text.eq_space_of_isBlank hc hb]⟩) hfit' start
      · exact ih hs' hword' (by simp) hfit' start
    | after =>
      rw [cutWords_after]
      split
      · rename_i hb
        exact ih hs' hword' (fun _ => ⟨word, by rw [Text.eq_space_of_isBlank hc hb]⟩) hfit' start
      · obtain ⟨w, rfl⟩ := hafter rfl
        have hw : Text.joiner ∉ w.reverse := hback (Text.shown_cons.1 hword).2
        have hsum := Text.cells_append_space hw hs.joiner_not_mem
        have htrim := Text.cells_trimEnd_le (hback hword)
        rw [List.reverse_cons] at hfit htrim
        rw [List.append_assoc, List.singleton_append, hsum] at hfit
        rw [List.reverse_cons, breaksFrom_cons (by omega)]
        have hone : Shown [c] := Text.shown_cons.2 ⟨hc, Text.shown_nil⟩
        exact ih hs' hone (by simp) (by rw [List.reverse_singleton, List.singleton_append]; omega) _

theorem breaks_eq_nil {width : Nat} {s : List Char} (hs : Shown s) (hfit : cells s ≤ width)
    (fold : Bool) : breaks width fold s = [] :=
  breaksFrom_cutWords hs Text.shown_nil (by simp) (by simpa using hfit) 0

namespace Styled

theorem trimExcess_eq_self {width : Nat} {t : Styled}
    (h : t.length ≤ width ∨ Text.trimEnd t.chars = t.chars) : t.trimExcess width = t := by
  have hnone : min (t.length - width) (t.length - (Text.trimEnd t.chars).length) = 0 := by
    rcases h with h | h
    · omega
    · rw [h, length]
      omega
  rw [trimExcess, hnone, Nat.sub_zero, take, if_pos (Nat.le_refl _)]

theorem wrap_eq_trimExcess {width : Nat} {t : Styled} (hs : Shown t.chars)
    (hfit : cells t.chars ≤ width) (how : Justify) (overflow : Overflow) :
    wrap how overflow width t =
      [((t.trimExcess width).justify how overflow width).truncate overflow width] := by
  have hcontrol {c : Char} (hc : c.toNat < 32) : c ∉ t.chars := by
    intro hmem
    exact absurd (Text.le_toNat_of_isPrintable (hs c hmem)) (Nat.not_le.2 hc)
  have hline : Text.lines t.chars = [t.chars] := Text.lines_of_no_feed (hcontrol (by decide))
  have htabs : expandTabs t = t := by
    have htab : t.chars.contains '\t' = false := by simpa using hcontrol (c := '\t') (by decide)
    rw [expandTabs, htab]
    rfl
  rw [wrap, lines, hline]
  simp only [List.flatMap_cons, List.flatMap_nil, List.append_nil, wrapLine, htabs,
    breaks_eq_nil hs hfit, cutAt, List.isEmpty_nil, if_true, List.map_cons, List.map_nil]

theorem wrap_eq_justify {width : Nat} {s : List Char} (hs : Shown s) (hfit : cells s ≤ width)
    (htail : s.length ≤ width ∨ Text.trimEnd s = s) (how : Justify) (overflow : Overflow) :
    wrap how overflow width ⟨s, []⟩ =
      [((⟨s, []⟩ : Styled).justify how overflow width).truncate overflow width] := by
  rw [wrap_eq_trimExcess hs hfit, trimExcess_eq_self htail]

theorem wrap_of_fits {width : Nat} {s : List Char} (hs : Shown s) (hfit : cells s ≤ width)
    (htail : s.length ≤ width ∨ Text.trimEnd s = s) :
    wrap .ragged .fold width ⟨s, []⟩ = [⟨s, []⟩] := by
  rw [wrap_eq_justify hs hfit htail, justify, truncate, if_pos hfit]

theorem toLine_plain {s : List Char} (hne : s ≠ []) : toLine ⟨s, []⟩ = [⟨.plain, s⟩] := by
  have hnone : boundaries ⟨s, []⟩ = [] := by
    apply List.filter_eq_nil_iff.2
    intro n hn
    simp
  have hlength : 0 < length ⟨s, []⟩ := List.length_pos_iff.2 hne
  rw [toLine, hnone, runsFrom, if_pos hlength]
  rfl

def Bare (t : Styled) : Prop := t.spans = []

theorem bare_of_plain (s : List Char) : Bare (of .plain s) := rfl

theorem Bare.append {t u : Styled} (ht : Bare t) (hu : Bare u) : Bare (t.append u) := by
  rw [Bare] at *
  rw [Styled.append, ht, hu]
  rfl

section Bare

variable {t : Styled} (h : Bare t)

include h

theorem Bare.slice (start stop : Nat) : Bare (t.slice start stop) := by
  rw [Bare] at *
  rw [Styled.slice, h]
  rfl

theorem Bare.slices (start : Nat) (offsets : List Nat) : ∀ u ∈ slices start t offsets, Bare u := by
  induction offsets generalizing start with
  | nil => exact List.forall_mem_singleton.2 (h.slice _ _)
  | cons offset rest ih => exact List.forall_mem_cons.2 ⟨h.slice _ _, ih offset⟩

theorem Bare.cutAt (offsets : List Nat) : ∀ u ∈ t.cutAt offsets, Bare u := by
  unfold Styled.cutAt
  split
  · exact List.forall_mem_singleton.2 h
  · exact h.slices 0 offsets

theorem Bare.linesFrom (start : Nat) (lengths : List Nat) :
    ∀ u ∈ linesFrom start t lengths, Bare u := by
  induction lengths generalizing start with
  | nil => simp [Styled.linesFrom]
  | cons n rest ih => exact List.forall_mem_cons.2 ⟨h.slice _ _, ih _⟩

theorem Bare.lines : ∀ u ∈ t.lines, Bare u := by
  unfold Styled.lines
  split
  · exact List.forall_mem_singleton.2 h
  · exact h.linesFrom 0 _

theorem Bare.take (n : Nat) : Bare (t.take n) := by
  unfold Styled.take
  split
  · exact h
  · rw [Bare] at *
    rw [h]
    rfl

theorem Bare.restyle (s : List Char) : Bare (t.restyle s) := by
  rw [Bare] at *
  rw [Styled.restyle, h]
  simp

theorem Bare.truncate (overflow : Overflow) (width : Nat) : Bare (t.truncate overflow width) := by
  unfold Styled.truncate
  split
  · exact h
  · cases overflow with
    | fold => exact h.restyle _
    | ellipsis => exact h.restyle _

theorem Bare.justify (how : Justify) (overflow : Overflow) (width : Nat) :
    Bare (t.justify how overflow width) := by
  cases how with
  | ragged => exact h
  | left => exact h.truncate overflow width
  | right => exact (bare_of_plain _).append ((h.take _).truncate overflow width)

theorem Bare.expandTab (column : Nat) : Bare (t.expandTab column) := by
  unfold Styled.expandTab
  split
  · rw [Bare] at *
    rw [h]
    rfl
  · exact h

end Bare

theorem bare_expandParts {ts : List Styled} (h : ∀ t ∈ ts, Bare t) (column : Nat) :
    Bare (expandParts column ts) := by
  induction ts generalizing column with
  | nil => rfl
  | cons t ts ih =>
    obtain ⟨ht, hts⟩ := List.forall_mem_cons.1 h
    exact (ht.expandTab column).append (ih hts _)

theorem Bare.expandTabs {t : Styled} (h : Bare t) : Bare t.expandTabs := by
  unfold Styled.expandTabs
  split
  · exact bare_expandParts (h.cutAt _) 0
  · exact h

theorem Bare.wrap {t : Styled} (h : Bare t) (how : Justify) (overflow : Overflow) (width : Nat) :
    ∀ u ∈ t.wrap how overflow width, Bare u := by
  intro u hu
  obtain ⟨line, hline, hu⟩ := List.mem_flatMap.1 hu
  obtain ⟨part, hpart, rfl⟩ := List.mem_map.1 hu
  have hbare : Bare part := (h.lines line hline).expandTabs.cutAt _ part hpart
  exact ((hbare.take _).justify how overflow width).truncate overflow width

theorem fault?_eq_none {ts : List Styled} (h : ∀ t ∈ ts, Bare t) : fault? ts = none := by
  have hnone : ts.flatMap (·.spans) = [] := List.flatMap_eq_nil_iff.2 h
  rw [fault?, hnone]
  rfl

theorem chars_take (n : Nat) (t : Styled) : (t.take n).chars = t.chars.take n := by
  unfold take
  split
  · rename_i hle
    exact (List.take_of_length_le hle).symm
  · rfl

/-- The number of blanks at the end of a line that are trimmed: as many as there are, but no more
than it has characters beyond the width. -/
def excess (width : Nat) (s : List Char) : Nat :=
  min (s.length - width) (s.length - (Text.trimEnd s).length)

theorem chars_trimExcess {width : Nat} {t : Styled} (hs : Shown t.chars) :
    t.chars = (t.trimExcess width).chars ++ List.replicate (excess width t.chars) ' ' := by
  obtain ⟨b, hb, hchars⟩ := Text.exists_blank_tail t.chars
  have hspaces : b = List.replicate b.length ' ' := by
    refine List.eq_replicate_iff.2 ⟨rfl, fun c hc => ?_⟩
    have hmem : c ∈ t.chars := by
      rw [hchars]
      exact List.mem_append_right _ hc
    exact Text.eq_space_of_isBlank (hs c hmem) (hb c hc)
  have hkept : (t.trimExcess width).chars = t.chars.take (t.chars.length -
      min (t.chars.length - width) (t.chars.length - (Text.trimEnd t.chars).length)) :=
    chars_take _ t
  rw [hkept, excess]
  generalize Text.trimEnd t.chars = front at hchars
  generalize b.length = m at hspaces
  have hlength : t.chars.length = front.length + m := by simp [hchars, hspaces]
  rw [hlength, Nat.add_sub_cancel_left]
  generalize hn : min (front.length + m - width) m = n
  have hle : n ≤ m := hn ▸ Nat.min_le_right _ _
  rw [hchars, hspaces, Nat.add_sub_assoc hle, List.take_length_add_append, List.take_replicate,
    Nat.min_eq_left (Nat.sub_le m n), List.append_assoc, List.replicate_append_replicate,
    Nat.sub_add_cancel hle]

theorem chars_runsFrom (t : Styled) (offsets : List Nat) (start : Nat)
    (hsorted : (start :: offsets).Pairwise (· ≤ ·)) :
    (runsFrom start t offsets).chars = t.chars.drop start := by
  induction offsets generalizing start with
  | nil =>
    rw [runsFrom]
    split
    · simp [Line.chars]
    · rename_i hpast
      rw [List.drop_of_length_le (Nat.not_lt.1 hpast)]
      rfl
  | cons offset rest ih =>
    obtain ⟨hle, hrest⟩ := List.pairwise_cons.1 hsorted
    have hnext : start + (offset - start) = offset := Nat.add_sub_cancel' (hle offset (by simp))
    have hlater := ih offset hrest
    rw [Line.chars] at hlater ⊢
    rw [runsFrom, List.flatMap_cons, hlater]
    conv_rhs => rw [← List.take_append_drop (offset - start) (t.chars.drop start), List.drop_drop,
      hnext]

theorem chars_toLine (t : Styled) : t.toLine.chars = t.chars := by
  have hsorted : (0 :: t.boundaries).Pairwise (· ≤ ·) := by
    refine List.pairwise_cons.2 ⟨fun n _ => Nat.zero_le n, ?_⟩
    exact (List.pairwise_lt_range.sublist List.filter_sublist).imp Nat.le_of_lt
  exact chars_runsFrom t t.boundaries 0 hsorted

end Styled

namespace Screen

theorem paint_plain (s : Screen) (text : List Char) : s.paint ⟨.plain, text⟩ = text := by
  have hplain : Style.paint .plain text = text := by simp [Style.paint, Style.codes, Style.plain]
  have hcolor : (if s.color then Style.plain else Style.plain.withoutColor) = .plain := by
    split <;> rfl
  rw [paint]
  split
  · rw [hcolor]
    exact hplain
  · rfl

/-- Without a terminal no styles are shown. -/
theorem paint_unstyled {s : Screen} (h : s.device.terminal = false) : s.paint = Run.text := by
  funext r
  rw [paint, h]
  rfl

theorem printMarkup_of_bare {s : Screen} {markup : List Char} {t : Styled}
    (ht : Styled.ofMarkup s.device markup = .ok t) (hbare : t.Bare) :
    s.printMarkup markup = .ok (s.print t) := by
  have hfault : Styled.fault? (t.wrap .ragged .fold s.width.toNat) = none :=
    Styled.fault?_eq_none (hbare.wrap _ _ _)
  unfold printMarkup
  rw [ht]
  simp only [bind, Except.bind, hfault, ite_self]
  rfl

theorem exists_of_printMarkup {s : Screen} {markup text : List Char}
    (h : s.printMarkup markup = .ok text) :
    ∃ t, Styled.ofMarkup s.device markup = .ok t ∧ s.print t = text := by
  unfold printMarkup at h
  cases ht : Styled.ofMarkup s.device markup with
  | error e =>
    rw [ht] at h
    contradiction
  | ok t =>
    rw [ht] at h
    simp only [bind, Except.bind] at h
    split at h
    · contradiction
    · exact ⟨t, rfl, Except.ok.inj h⟩

theorem print_of_fits {s : Screen} {line : List Char} (hne : line ≠ []) (hs : Shown line)
    (hwidth : 1 ≤ s.width) (hfit : cells line ≤ s.width.toNat)
    (htail : line.length ≤ s.width.toNat ∨ trimEnd line = line) :
    s.print ⟨line, []⟩ = line ++ ['\n'] := by
  have hwhole : Line.chars [⟨.plain, line⟩] = line := List.append_nil line
  rw [print, layout, Styled.wrap_of_fits hs hfit htail, List.map_singleton,
    Styled.toLine_plain hne, write, if_neg (by omega)]
  simp only [List.flatMap_cons, List.flatMap_nil, List.append_nil]
  rw [cropLine, hwhole, if_pos hfit]
  simp only [List.flatMap_cons, List.flatMap_nil, List.append_nil, paint_plain]

/-- A line that fits is printed without styles where none can be shown.  Only blanks at its end may
be missing. -/
theorem exists_print_of_fits {s : Screen} (hplain : s.device.terminal = false) {t : Styled}
    (hs : Shown t.chars) (hwidth : 1 ≤ s.width) (hfit : cells t.chars ≤ s.width.toNat) :
    ∃ line, s.print t = line ++ ['\n'] ∧
      t.chars = line ++ List.replicate (Styled.excess s.width.toNat t.chars) ' ' := by
  have hchars : t.chars = (t.trimExcess s.width.toNat).chars ++
      List.replicate (Styled.excess s.width.toNat t.chars) ' ' := Styled.chars_trimExcess hs
  refine ⟨(t.trimExcess s.width.toNat).chars, ?_, hchars⟩
  have hfit' : cells (t.trimExcess s.width.toNat).chars ≤ s.width.toNat := by
    refine Nat.le_trans ?_ hfit
    conv_rhs => rw [hchars]
    refine Text.cellsFrom_le_append (fun hmem => hs.joiner_not_mem ?_) none _
    rw [hchars]
    exact List.mem_append_left _ hmem
  rw [print, layout, Styled.wrap_eq_trimExcess hs hfit, Styled.justify, Styled.truncate,
    if_pos hfit', List.map_singleton, write, if_neg (by omega), List.flatMap_singleton, cropLine,
    Styled.chars_toLine, if_pos hfit', paint_unstyled hplain]
  exact congrArg (· ++ ['\n']) (Styled.chars_toLine _)

/-- Empty, or ended by a line feed. -/
def Ended (s : List Char) : Prop := ∀ c ∈ s.getLast?, c = '\n'

theorem ended_nil : Ended [] := by simp [Ended]

theorem Ended.append {s t : List Char} (hs : Ended s) (ht : Ended t) : Ended (s ++ t) := by
  cases t with
  | nil => rwa [List.append_nil]
  | cons c t =>
    intro d hd
    rw [List.getLast?_append_of_ne_nil s (List.cons_ne_nil c t)] at hd
    exact ht d hd

theorem ended_concat (s : List Char) : Ended (s ++ ['\n']) := by
  intro c hc
  simpa using hc.symm

theorem ended_write (s : Screen) (lines : List Line) : Ended (s.write lines) := by
  unfold write
  split
  · exact ended_nil
  · induction lines with
    | nil => exact ended_nil
    | cons line lines ih => exact (ended_concat _).append ih

theorem ended_print (s : Screen) (t : Styled) : Ended (s.print t) := ended_write s _

end Screen

end Plateau.Console
