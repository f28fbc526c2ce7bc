import Plateau.Proofs.Console.Grid
import Plateau.Proofs.Number.Numeral
import Plateau.Proofs.Telemetry.Shape
import Plateau.Report.Render

namespace Plateau

open Console (Screen Styled blanks)
open Text (Ascii Shown ascii_append cells shown_append shown_cons shown_nil)
open Telemetry (Tree)

theorem mem_fixedPlaces {places : Nat} {x : Float} {c : Char}
    (hc : c ∈ (fixedPlaces places x).toList) : c.isDigit = true ∨ c ∈ "-.naif".toList := by
  unfold fixedPlaces at hc
  split at hc
  · exact .inr ((by decide : "nan".toList ⊆ "-.naif".toList) hc)
  · rename_i negative _
    cases negative with
    | true => exact .inr ((by decide : "-inf".toList ⊆ "-.naif".toList) hc)
    | false => exact .inr ((by decide : "inf".toList ⊆ "-.naif".toList) hc)
  · rename_i negative magnitude _
    dsimp only at hc
    generalize hpadded : List.replicate (places + 1 -
      (Nat.toDigits 10 (magnitude.per (-places)).round).length) '0' ++
        Nat.toDigits 10 (magnitude.per (-places)).round = padded at hc
    have hdigits : ∀ d ∈ padded, d.isDigit = true := by
      rw [← hpadded]
      refine List.forall_mem_append.2 ⟨fun d hd => ?_, fun d hd => ?_⟩
      · rw [List.eq_of_mem_replicate hd]
        rfl
      · exact Nat.isDigit_of_mem_toDigits (by decide) (by decide) hd
    have hbody : ∀ d ∈ (if places == 0 then padded.take (padded.length - places)
        else padded.take (padded.length - places) ++ '.' :: padded.drop (padded.length - places)),
        d.isDigit = true ∨ d ∈ "-.naif".toList := by
      have htake : ∀ d ∈ padded.take (padded.length - places), d.isDigit = true :=
        fun d hd => hdigits d (List.mem_of_mem_take hd)
      intro d hd
      split at hd
      · exact .inl (htake d hd)
      · rcases List.mem_append.1 hd with hd | hd
        · exact .inl (htake d hd)
        · rcases List.mem_cons.1 hd with rfl | hd
          · exact .inr (by decide)
          · exact .inl (hdigits d (List.mem_of_mem_drop hd))
    rw [String.toList_ofList] at hc
    cases negative with
    | false => exact hbody c hc
    | true =>
      rcases List.mem_cons.1 hc with rfl | hc
      · exact .inr (by decide)
      · exact hbody c hc

theorem ascii_fixedPlaces (places : Nat) (x : Float) : Ascii (fixedPlaces places x).toList := by
  intro c hc
  rcases mem_fixedPlaces hc with hdigit | hmem
  · obtain ⟨h0, h9⟩ : 48 ≤ c.toNat ∧ c.toNat ≤ 57 := (Numeral.isDigit_iff c).1 hdigit
    omega
  · exact (by decide : Ascii "-.naif".toList) c hmem

theorem unit_not_mem_fixedPlaces (places : Nat) (x : Float) :
    'm' ∉ (fixedPlaces places x).toList := by
  intro hmem
  rcases mem_fixedPlaces hmem with hdigit | hmem
  · contradiction
  · exact absurd hmem (by decide)

namespace Telemetry.Span

def durationText (s : Span) : List Char := (fixedPlaces 2 s.roundedDuration).toList

/-- What a span tells can be shown as it is, and its duration fits its field. -/
structure Legible (s : Span) : Prop where
  name : Shown s.name.toList
  annotations : ∀ kv ∈ s.annotations, Shown kv.1.toList ∧ Shown kv.2.plain
  duration : s.durationText.length ≤ 8

instance (s : Span) : Decidable s.Legible :=
  decidable_of_iff (Shown s.name.toList ∧
      (∀ kv ∈ s.annotations, Shown kv.1.toList ∧ Shown kv.2.plain) ∧ s.durationText.length ≤ 8)
    ⟨fun ⟨hname, hannotations, hduration⟩ => ⟨hname, hannotations, hduration⟩,
      fun h => ⟨h.name, h.annotations, h.duration⟩⟩

def factsText (s : Span) : List Char :=
  match s.annotations with
  | [] => []
  | facts =>
    "  (".toList ++
      ([',', ' '].intercalate (facts.map fun kv => kv.1.toList ++ '=' :: kv.2.plain) ++ [')'])

/-- The line of a span: four columns for each level and four for the root, eight for the duration,
then its unit, the name and the annotations. -/
def row (level : Nat) (s : Span) : List Char :=
  blanks (4 * (level + 1)) ++ (blanks (8 - s.durationText.length) ++ (s.durationText ++
    ('m' :: 's' :: ' ' :: ' ' :: (s.name.toList ++ s.factsText))))

/-- What is shown of a span on a console of some width: its line, of which blanks at the end are
missing as far as it has more characters than the console has columns. -/
structure ShownAt (width : Nat) (level : Nat) (s : Span) (line : List Char) : Prop where
  field : (blanks (8 - s.durationText.length) ++ s.durationText).length = 8
  row : s.row level = line ++ blanks (Styled.excess width (s.row level))

theorem factsText_eq (s : Span) : s.factsText = Report.annotationText s.annotations := by
  unfold factsText Report.annotationText
  cases s.annotations with
  | nil => rfl
  | cons kv facts => simp

theorem ascii_blanks (n : Nat) : Ascii (blanks n) := by
  intro c hc
  rw [List.eq_of_mem_replicate hc]
  decide

theorem shown_intercalate {separator : List Char} (hseparator : Shown separator)
    {parts : List (List Char)} (h : ∀ part ∈ parts, Shown part) :
    Shown (separator.intercalate parts) := by
  induction parts with
  | nil => exact shown_nil
  | cons part parts ih =>
    obtain ⟨hpart, hparts⟩ := List.forall_mem_cons.1 h
    cases parts with
    | nil => simpa [List.intercalate] using hpart
    | cons part' parts =>
      rw [List.intercalate_cons_cons, shown_append, shown_append]
      exact ⟨⟨hpart, hseparator⟩, ih hparts⟩

namespace Legible

variable {s : Span} (h : s.Legible)
include h

theorem shown_facts : Shown s.factsText := by
  have hseparator : Shown [',', ' '] := by decide
  have hfacts : ∀ part ∈ s.annotations.map fun kv => kv.1.toList ++ '=' :: kv.2.plain,
      Shown part := by
    refine List.forall_mem_map.2 fun kv hkv => ?_
    obtain ⟨hkey, hvalue⟩ := h.annotations kv hkv
    rw [shown_append, shown_cons]
    exact ⟨hkey, Text.isPrintable_of_ascii (by decide), hvalue⟩
  unfold factsText
  cases hsome : s.annotations with
  | nil => exact shown_nil
  | cons kv facts =>
    rw [hsome] at hfacts
    dsimp only
    rw [shown_append, shown_append]
    exact ⟨by decide, shown_intercalate hseparator hfacts, by decide⟩

theorem shown_row (level : Nat) : Shown (s.row level) := by
  have hunit : Shown ['m', 's', ' ', ' '] := by decide
  have htold : Shown (['m', 's', ' ', ' '] ++ (s.name.toList ++ s.factsText)) :=
    shown_append.2 ⟨hunit, shown_append.2 ⟨h.name, h.shown_facts⟩⟩
  have hduration : Shown s.durationText := (ascii_fixedPlaces _ _).shown
  unfold row
  rw [shown_append, shown_append, shown_append]
  exact ⟨(ascii_blanks _).shown, (ascii_blanks _).shown, hduration, htold⟩

theorem length_field : (blanks (8 - s.durationText.length) ++ s.durationText).length = 8 := by
  have hduration := h.duration
  simp only [blanks, List.length_append, List.length_replicate]
  omega

theorem idxOf_row (level : Nat) : (s.row level).idxOf 'm' = 4 * level + 12 := by
  have hblank (n : Nat) : 'm' ∉ blanks n := by
    intro hmem
    exact absurd (List.eq_of_mem_replicate hmem) (by decide)
  have hduration : 'm' ∉ s.durationText := unit_not_mem_fixedPlaces _ _
  have hlength := h.length_field
  rw [List.length_append] at hlength
  rw [row, List.idxOf_append_of_notMem (hblank _), List.idxOf_append_of_notMem (hblank _),
    List.idxOf_append_of_notMem hduration, List.idxOf_cons_self]
  simp only [blanks, List.length_replicate] at hlength ⊢
  omega

theorem twelve_le_cells (level : Nat) : 12 ≤ cells (s.row level) := by
  have hascii : Ascii (blanks (4 * (level + 1)) ++
      (blanks (8 - s.durationText.length) ++ s.durationText)) :=
    ascii_append.2 ⟨ascii_blanks _, ascii_append.2 ⟨ascii_blanks _, ascii_fixedPlaces _ _⟩⟩
  have hnarrow := hascii.cells
  have hlength := h.length_field
  have hle := Text.cellsFrom_le_append hascii.shown.joiner_not_mem none
    ('m' :: 's' :: ' ' :: ' ' :: (s.name.toList ++ s.factsText))
  rw [List.length_append, hlength] at hnarrow
  rw [← Text.cells, hnarrow, List.append_assoc, List.append_assoc, ← Text.cells] at hle
  rw [row]
  simp only [blanks, List.length_replicate] at hle ⊢
  omega

end Legible

theorem ShownAt.idxOf_eq {width level : Nat} {s : Span} {line : List Char} (hs : s.Legible)
    (h : s.ShownAt width level line) : line.idxOf 'm' = 4 * level + 12 := by
  have hrow := h.row
  have hindex := hs.idxOf_row level
  have hmem : 'm' ∈ s.row level := by simp [Span.row]
  generalize Styled.excess width (s.row level) = n at hrow
  rw [hrow] at hindex hmem
  have hline : 'm' ∈ line := by
    rcases List.mem_append.1 hmem with hmem | hmem
    · exact hmem
    · exact absurd (List.eq_of_mem_replicate hmem) (by decide)
  rwa [List.idxOf_append_of_mem hline] at hindex

end Telemetry.Span

theorem Console.Styled.chars_join (ts : List Styled) :
    (Styled.join [] ts).chars = ts.flatMap Styled.chars := by
  induction ts with
  | nil => rfl
  | cons t ts ih =>
    cases ts with
    | nil => simp [Styled.join]
    | cons u us =>
      have hempty : (Styled.of .plain []).chars = [] := rfl
      rw [Styled.join, Styled.append, Styled.append, ih, hempty, List.append_nil]
      · rfl
      · exact List.cons_ne_nil u us

namespace Report

def ownFields (s : Telemetry.Span) : Fields :=
  [("name", .text s.name), ("duration_ms", .float s.roundedDuration)] ++
    if s.annotations.isEmpty then [] else [("annotations", .record s.annotations)]

def childField (children : List Tree) : Fields :=
  if children.isEmpty then [] else [("children", .list (Tree.toValues children))]

theorem toValue_node (s : Telemetry.Span) (children : List Tree) :
    (Telemetry.Tree.node s children).toValue = .record (ownFields s ++ childField children) := by
  rw [Tree.toValue]
  rfl

theorem spanLine_append (indent : Nat) (s : Telemetry.Span) (children : List Tree) :
    spanLine indent (ownFields s ++ childField children) = spanLine indent (ownFields s) := by
  unfold ownFields childField
  cases s.annotations.isEmpty <;> cases children.isEmpty <;> rfl

theorem childLines_append (indent : Nat) (s : Telemetry.Span) (children : List Tree) :
    childLines indent (ownFields s ++ childField children) =
      spanListLines indent (Tree.toValues children) := by
  unfold ownFields childField
  cases s.annotations.isEmpty <;> cases children <;>
    simp [childLines, itemLines, spanListLines, Tree.toValues]

mutual

/-- The tree is shown span by span, each four columns further in than its parent. -/
theorem spanLines_toValue (level : Nat) : (t : Tree) →
    spanLines (4 * (level + 1)) t.toValue =
      (t.levels level).map fun p => spanLine (4 * (p.1 + 1)) (ownFields p.2)
  | .node s children => by
    rw [toValue_node, spanLines, spanLine_append, childLines_append, Tree.levels, List.map_cons,
      ← spanListLines_toValues (level + 1) children]
    rfl

theorem spanListLines_toValues (level : Nat) : (ts : List Tree) →
    spanListLines (4 * (level + 1)) (Tree.toValues ts) =
      (Tree.levelsBelow level ts).map fun p => spanLine (4 * (p.1 + 1)) (ownFields p.2)
  | [] => by rw [Tree.toValues, spanListLines, Tree.levelsBelow, List.map_nil]
  | t :: ts => by
    rw [Tree.toValues, spanListLines, Tree.levelsBelow, List.map_append,
      spanLines_toValue level t, spanListLines_toValues level ts]

end

theorem chars_spanLine {s : Telemetry.Span} (h : s.Legible) (level : Nat) :
    (spanLine (4 * (level + 1)) (ownFields s)).chars = s.row level := by
  have hname : (Value.record (ownFields s)).field "name" (.text "?") = .text s.name := rfl
  have hduration : (Value.record (ownFields s)).field "duration_ms" (.float 0.0) =
      .float s.roundedDuration := rfl
  have hannotations : ((Value.record (ownFields s)).field "annotations" .null).toFields =
      s.annotations := by
    unfold ownFields
    cases hnone : s.annotations with
    | nil => rfl
    | cons kv facts => rfl
  have hchars : (spanLine (4 * (level + 1)) (ownFields s)).chars =
      Styled.clean (s.row level) := by
    unfold spanLine
    dsimp only
    rw [hname, hduration, hannotations, Console.Styled.chars_join, ← s.factsText_eq]
    simp only [List.flatMap_cons, List.flatMap_nil, List.append_nil, Styled.of, Styled.clean,
      ← List.filter_append, padLeft, Value.toFloat, Value.plain]
    rw [Telemetry.Span.row, Telemetry.Span.durationText, blanks, blanks]
    simp
  rw [hchars, Console.clean_eq_self (h.shown_row level)]

theorem exists_timingTree {s : Screen} (hplain : s.device.terminal = false) {tree : Tree}
    (hlegible : ∀ span ∈ tree.spans, span.Legible)
    (hwide : ∀ p ∈ tree.levels 0, (cells (p.2.row p.1) : Int) ≤ s.width) :
    ∃ rows, timingTree s tree.toValue = rows.flatMap (· ++ ['\n']) ∧
      List.Forall₂ (fun p line => Telemetry.Span.ShownAt s.width.toNat p.1 p.2 line)
        (tree.levels 0) rows := by
  have hlevels : ∀ p ∈ tree.levels 0, p.2.Legible ∧ (cells (p.2.row p.1) : Int) ≤ s.width :=
    fun p hp => ⟨hlegible p.2 (Tree.mem_spans_of_mem_levels hp), hwide p hp⟩
  have htree : timingTree s tree.toValue =
      ((tree.levels 0).map fun p => spanLine (4 * (p.1 + 1)) (ownFields p.2)).flatMap s.print := by
    rw [timingTree, ← spanLines_toValue 0 tree]
  rw [htree]
  generalize tree.levels 0 = ps at hlevels
  induction ps with
  | nil => exact ⟨[], rfl, .nil⟩
  | cons p ps ih =>
    obtain ⟨⟨hp, hfit⟩, hrest⟩ := List.forall_mem_cons.1 hlevels
    obtain ⟨rows, hrows, hall⟩ := ih hrest
    have hchars := chars_spanLine hp p.1
    have hpos := hp.twelve_le_cells p.1
    obtain ⟨line, hline, hrow⟩ := Screen.exists_print_of_fits hplain
      (t := spanLine (4 * (p.1 + 1)) (ownFields p.2)) (hchars ▸ hp.shown_row p.1) (by omega)
      (by rw [hchars]; omega)
    rw [hchars] at hrow
    refine ⟨line :: rows, ?_, .cons ⟨hp.length_field, hrow⟩ hall⟩
    rw [List.map_cons, List.flatMap_cons, hline, hrows, List.flatMap_cons]

end Report

end Plateau
