import Mathlib.Data.List.Forall2
import Plateau.Proofs.Console.Print
import Plateau.Proofs.Console.Table

namespace Plateau.Console

open Text (cells Shown Narrow)

/-- A text of visible ASCII characters, none of which could begin a tag or the name of a picture. -/
structure Label (w : List Char) : Prop where
  ne_nil : w ≠ []
  ascii : ∀ c ∈ w, 33 ≤ c.toNat ∧ c.toNat < 127
  no_bracket : '[' ∉ w
  no_colon : ':' ∉ w

instance (w : List Char) : Decidable (Label w) :=
  decidable_of_iff
    (w ≠ [] ∧ (w.all fun c => 33 ≤ c.toNat && c.toNat < 127) = true ∧ !w.contains '[' ∧
      !w.contains ':') <| by
    constructor
    · rintro ⟨hne, hascii, hbracket, hcolon⟩
      exact ⟨hne, by simpa using hascii, by simpa using hbracket, by simpa using hcolon⟩
    · rintro ⟨hne, hascii, hbracket, hcolon⟩
      exact ⟨hne, by simpa using hascii, by simpa using hbracket, by simpa using hcolon⟩

variable {w : List Char}

namespace Label

theorem shown (h : Label w) : Shown w := fun c hc =>
  Text.isPrintable_of_ascii ⟨Nat.le_trans (by decide) (h.ascii c hc).1, (h.ascii c hc).2⟩

theorem narrow (h : Label w) : ∀ c ∈ w, Narrow c := fun c hc =>
  Text.narrow_of_ascii ⟨Nat.le_trans (by decide) (h.ascii c hc).1, (h.ascii c hc).2⟩

theorem not_blank (h : Label w) : ∀ c ∈ w, Text.isBlank c = false := by
  intro c hc
  rw [Bool.eq_false_iff]
  intro hblank
  obtain rfl := Text.eq_space_of_isBlank (h.shown c hc) hblank
  exact absurd (h.ascii _ hc).1 (by decide)

theorem token (h : Label w) : Text.Token w := ⟨h.ne_nil, h.not_blank⟩

theorem trimEnd (h : Label w) : Text.trimEnd w = w :=
  Text.trimEnd_eq_self fun c hc => h.not_blank c (List.mem_of_getLast? hc)

theorem cells (h : Label w) : cells w = w.length := Text.cells_of_narrow h.narrow

theorem literal (h : Label w) : Literal w where
  tagless := tagless_of_bracket_not_mem h.no_bracket
  unescaped := fun hin => h.no_bracket (hin.subset (by simp))
  no_name := fun _ _ hin => h.no_colon (hin.subset (by simp))

theorem ofMarkup (h : Label w) (device : Device) : Styled.ofMarkup device w = .ok ⟨w, []⟩ :=
  ofMarkup_of_literal device h.literal h.shown

end Label

def blanks (n : Nat) : List Char := List.replicate n ' '

theorem blanks_add (m n : Nat) : blanks (m + n) = blanks m ++ blanks n :=
  List.replicate_add m n ' '

def Filled (width : Nat) (w cell : List Char) : Prop :=
  ∃ l r, cell = blanks l ++ (w ++ blanks r) ∧ l + w.length + r = width

/-- A label with blanks around it. -/
def Padded (w cell : List Char) : Prop := ∃ l r, cell = blanks l ++ (w ++ blanks r)

theorem Filled.padded {width : Nat} {cell : List Char} (h : Filled width w cell) : Padded w cell :=
  let ⟨l, r, hcell, _⟩ := h
  ⟨l, r, hcell⟩

theorem narrow_of_filled {width : Nat} {cell : List Char} (hw : Label w) (h : Filled width w cell) :
    (∀ c ∈ cell, Narrow c) ∧ cell.length = width := by
  obtain ⟨l, r, rfl, hwidth⟩ := h
  have hblank (n : Nat) : ∀ c ∈ blanks n, Narrow c := fun c hc => by
    rw [List.eq_of_mem_replicate hc]
    exact Text.narrow_of_ascii (by decide)
  refine ⟨List.forall_mem_append.2 ⟨hblank l, List.forall_mem_append.2 ⟨hw.narrow, hblank r⟩⟩, ?_⟩
  simp only [blanks, List.length_append, List.length_replicate]
  omega

namespace Styled

theorem padFront_plain (width : Nat) (s : List Char) :
    padFront width ⟨s, []⟩ = ⟨blanks (width - cells s) ++ s, []⟩ := by
  have hclean : clean (blanks (width - cells s)) = blanks (width - cells s) := by
    apply clean_eq_self
    intro c hc
    rw [List.eq_of_mem_replicate hc]
    exact Text.isPrintable_of_ascii (by decide)
  change append (of .plain (blanks (width - cells s))) ⟨s, []⟩ = _
  rw [append, of, hclean]
  rfl

theorem wrap_label {how : Justify} (hhow : how ≠ .ragged) {width : Nat} (hw : Label w)
    (hfit : w.length ≤ width) :
    ∃ u, wrap how .ellipsis width ⟨w, []⟩ = [⟨u, []⟩] ∧ Filled width w u := by
  have hcells : cells w ≤ width := by rwa [hw.cells]
  have hkept : truncate .ellipsis width ⟨w, []⟩ = ⟨w, []⟩ := if_pos hcells
  have hfull {u : List Char} (hu : Filled width w u) :
      truncate .ellipsis width ⟨u, []⟩ = ⟨u, []⟩ := by
    obtain ⟨hnarrow, hlength⟩ := narrow_of_filled hw hu
    refine if_pos ?_
    rw [Text.cells_of_narrow hnarrow, hlength]
  rw [wrap_eq_justify hw.shown hcells (.inl hfit)]
  cases how with
  | ragged => contradiction
  | left =>
    have hfilled : Filled width w (w ++ blanks (width - w.length)) :=
      ⟨0, width - w.length, rfl, by omega⟩
    refine ⟨_, ?_, hfilled⟩
    rw [justify, hkept, padTo, hw.cells, ← blanks, hfull hfilled]
  | right =>
    have hfilled : Filled width w (blanks (width - w.length) ++ w) :=
      ⟨width - w.length, 0, by simp [blanks], by omega⟩
    have hend : Styled.trimEnd ⟨w, []⟩ = ⟨w, []⟩ := by
      rw [Styled.trimEnd, hw.trimEnd]
      exact if_pos (Nat.le_refl _)
    refine ⟨_, ?_, hfilled⟩
    rw [justify, hend, hkept, padFront_plain, hw.cells, hfull hfilled]

end Styled

namespace Line

theorem chars_append (l m : Line) : (l ++ m : Line).chars = l.chars ++ m.chars :=
  List.flatMap_append

@[simp] theorem chars_blank (style : Style) (n : Nat) : (blank style n).chars = blanks n := by
  unfold blank
  cases n with
  | zero => rfl
  | succ n => simp [chars, blanks]

@[simp] theorem chars_onto (style : Style) (l : Line) : (l.onto style).chars = l.chars := by
  rw [onto, chars, List.flatMap_map]
  rfl

end Line

namespace Table

theorem cellLines_label {how : Justify} (hhow : how ≠ .ragged) {width : Nat} {p : Padding}
    (hw : Label w) (hfit : w.length + p.total ≤ width) (style : Style) :
    ∃ line, cellLines width p how style ⟨w, []⟩ = [line] ∧ Filled width w line.chars := by
  have hpos : 0 < w.length := List.length_pos_iff.2 hw.ne_nil
  have hroom : w.length ≤ width - p.total := by omega
  obtain ⟨u, hu, l, r, rfl, hlength⟩ := Styled.wrap_label hhow hw hroom
  have hne : blanks l ++ (w ++ blanks r) ≠ [] := by simp [hw.ne_nil]
  rw [cellLines, cellTexts, if_neg (by omega), hu, List.map_singleton, Styled.toLine_plain hne]
  refine ⟨_, rfl, p.before + l, r + p.after, ?_, ?_⟩
  · rw [Line.chars_append, Line.chars_append, Line.chars_blank, Line.chars_blank, Line.chars_onto]
    rw [blanks_add, blanks_add]
    simp [Line.chars]
  · rw [Padding.total] at hlength hfit
    omega

structure Cell.Fits (c : Cell) : Prop where
  label : Label c.text.chars
  plain : c.text.spans = []
  justified : c.justify ≠ .ragged
  room : c.text.chars.length + c.padding.total ≤ c.width

def barred (bar : Char) (parts : List (List Char)) : List Char :=
  bar :: ([bar].intercalate parts ++ [bar])

def Cell.Shows (c : Cell) (line : Line) : Prop :=
  cellLines c.width c.padding c.justify c.style c.text = [line] ∧
    Filled c.width c.text.chars line.chars

theorem Cell.Fits.exists_shows {c : Cell} (h : c.Fits) : ∃ line, c.Shows line := by
  have htext : c.text = ⟨c.text.chars, []⟩ := by rw [← h.plain]
  unfold Shows
  rw [htext]
  exact cellLines_label h.justified h.label h.room c.style

theorem exists_shows {cells : List Cell} (h : ∀ c ∈ cells, c.Fits) :
    ∃ lines, List.Forall₂ Cell.Shows cells lines := by
  induction cells with
  | nil => exact ⟨[], .nil⟩
  | cons c cells ih =>
    obtain ⟨hc, hcells⟩ := List.forall_mem_cons.1 h
    obtain ⟨line, hline⟩ := hc.exists_shows
    obtain ⟨lines, hlines⟩ := ih hcells
    exact ⟨line :: lines, .cons hline hlines⟩

theorem chars_intercalate (bar : Char) (lines : List Line) :
    Line.chars ([⟨.plain, [bar]⟩].intercalate lines) =
      [bar].intercalate (lines.map Line.chars) := by
  induction lines with
  | nil => rfl
  | cons line lines ih =>
    cases lines with
    | nil => simp [List.intercalate]
    | cons line' lines =>
      simp only [List.map_cons, List.intercalate_cons_cons, Line.chars_append] at ih ⊢
      rw [ih]
      rfl

theorem rowLines_single (bar : Char) (lines : List Line) :
    ∃ line, rowLines bar 1 (lines.map fun line => [line]) = [line] ∧
      line.chars = barred bar (lines.map Line.chars) := by
  have hfirst : ((lines.map fun line => [line]).map fun block => (block[0]?).getD []) = lines := by
    simp [Function.comp_def]
  rw [rowLines, List.range_one, List.map_singleton]
  dsimp only
  rw [hfirst]
  refine ⟨_, rfl, ?_⟩
  rw [Line.chars_append, Line.chars_append, chars_intercalate]
  simp [Line.chars, barred]

section Shown

variable {cells : List Cell} {lines : List Line} (h : List.Forall₂ Cell.Shows cells lines)
include h

theorem blocks_of_shows :
    (cells.map fun c => cellLines c.width c.padding c.justify c.style c.text) =
      lines.map fun line => [line] := by
  induction h with
  | nil => rfl
  | cons hline _ ih => rw [List.map_cons, List.map_cons, hline.1, ih]

theorem filled_of_shows (head : Bool) :
    ((cells.zip (lines.map fun line => [line])).map fun e =>
      if (1 : Nat) == 0 then [Line.blank .plain e.1.width]
      else fillCell head 1 e.1.width e.1.style e.2) = lines.map fun line => [line] := by
  induction h with
  | nil => rfl
  | cons _ _ ih =>
    simp only [List.map_cons, List.zip_cons_cons, ih]
    cases head <;> rfl

end Shown

theorem height_single {lines : List Line} (hne : lines ≠ []) :
    ((lines.map fun line => [line]).map List.length).foldl max 0 = 1 := by
  have hones (n : Nat) : (List.replicate n 1).foldl max 1 = 1 := by
    induction n with
    | zero => rfl
    | succ n ih => exact ih
  have hlengths : (lines.map fun line => [line]).map List.length =
      List.replicate lines.length 1 := by
    rw [List.map_map]
    exact List.map_const'
  rw [hlengths]
  cases lines with
  | nil => contradiction
  | cons line lines => exact hones lines.length

theorem renderRow_of_fits (head : Bool) {cells : List Cell} (hne : cells ≠ [])
    (h : ∀ c ∈ cells, c.Fits) :
    ∃ line parts, renderRow head cells = [line] ∧
      line.chars = barred (if head then headBar else bodyBar) parts ∧
      List.Forall₂ (fun c part => Filled c.width c.text.chars part) cells parts := by
  obtain ⟨lines, hlines⟩ := exists_shows h
  have hsome : lines ≠ [] := by
    rw [← List.length_pos_iff, ← hlines.length_eq]
    exact List.length_pos_iff.2 hne
  obtain ⟨line, hline, hchars⟩ := rowLines_single (if head then headBar else bodyBar) lines
  refine ⟨line, lines.map Line.chars, ?_, hchars, ?_⟩
  · rw [← hline]
    unfold renderRow
    dsimp only
    rw [blocks_of_shows hlines, height_single hsome]
    exact congrArg (rowLines _ 1) (filled_of_shows hlines head)
  · rw [List.forall₂_map_right_iff]
    exact hlines.imp fun _ _ hshows => hshows.2

theorem foldl_max_le_iff {ns : List Nat} {m n : Nat} :
    ns.foldl max m ≤ n ↔ m ≤ n ∧ ∀ k ∈ ns, k ≤ n := by
  induction ns generalizing m with
  | nil => simp
  | cons k ns ih => rw [List.foldl_cons, ih, Nat.max_le, List.forall_mem_cons, and_assoc]

theorem le_foldl_max {ns : List Nat} {k : Nat} (h : k ∈ ns) : k ≤ ns.foldl max 0 :=
  (foldl_max_le_iff.1 (Nat.le_refl _)).2 k h

theorem sumOf_cons (n : Nat) (ns : List Nat) : sumOf (n :: ns) = n + sumOf ns := by
  have hfold : ns.foldl (· + ·) (n + 0) = n + ns.foldl (· + ·) 0 := List.foldl_assoc
  rw [sumOf, List.foldl_cons, Nat.zero_add]
  exact hfold

theorem le_sumOf {ns : List Nat} {n : Nat} (h : n ∈ ns) : n ≤ sumOf ns := by
  induction ns with
  | nil => contradiction
  | cons m ns ih =>
    rw [sumOf_cons]
    rcases List.mem_cons.1 h with rfl | h
    · exact Nat.le_add_right _ _
    · exact (ih h).trans (Nat.le_add_left _ _)

/-- The width of a column of texts that are not broken. -/
def naturalWidth (p : Padding) (texts : List (List Char)) : Nat :=
  (texts.map fun w => w.length + p.total).foldl max 0

theorem le_naturalWidth {p : Padding} {texts : List (List Char)} (hw : w ∈ texts) :
    w.length + p.total ≤ naturalWidth p texts :=
  le_foldl_max (List.mem_map_of_mem hw)

theorem textWidth_label (hw : Label w) : textWidth w = w.length := by
  have hends : ∀ c ∈ w, endsLine c = false := by
    intro c hc
    have hascii := hw.ascii c hc
    simp only [endsLine, Bool.or_eq_false_iff, Bool.and_eq_false_iff, decide_eq_false_iff_not,
      beq_eq_false_iff_ne]
    omega
  rw [textWidth, Text.pieces_eq_splitOnP, List.splitOnP_eq_singleton hends]
  simp [hw.cells]

theorem cellWidth_label (hw : Label w) {limit : Nat} {p : Padding}
    (hfit : w.length + p.total ≤ limit) : cellWidth limit p ⟨w, []⟩ = w.length + p.total := by
  have hpos : 0 < w.length := List.length_pos_iff.2 hw.ne_nil
  rw [cellWidth, if_neg (by omega), textWidth_label hw]
  omega

theorem columnWidth_labels {texts : List (List Char)} (hne : texts ≠ [])
    (hlabels : ∀ w ∈ texts, Label w) {limit : Nat} {p : Padding}
    (hfit : naturalWidth p texts ≤ limit) :
    max 1 (columnWidth limit p (texts.map fun w => ⟨w, []⟩)) = naturalWidth p texts := by
  have hsame : (texts.map fun w => (⟨w, []⟩ : Styled)).map (cellWidth limit p) =
      texts.map fun w => w.length + p.total := by
    rw [List.map_map]
    exact List.map_congr_left fun w hw =>
      cellWidth_label (hlabels w hw) ((le_naturalWidth hw).trans hfit)
  obtain ⟨w, hw⟩ := List.exists_mem_of_ne_nil texts hne
  have hpos : 0 < w.length := List.length_pos_iff.2 (hlabels w hw).ne_nil
  have hw := le_naturalWidth (p := p) hw
  rw [columnWidth, if_neg (by omega), hsame, ← naturalWidth]
  omega

theorem fitWidths_labels {columns : List (Padding × List (List Char))}
    (hne : ∀ c ∈ columns, c.2 ≠ []) (hlabels : ∀ c ∈ columns, ∀ w ∈ c.2, Label w) {limit : Nat}
    (hfit : sumOf (columns.map fun c => naturalWidth c.1 c.2) ≤ limit) :
    fitWidths limit (columns.map fun c => (c.1, c.2.map fun w => ⟨w, []⟩)) =
      columns.map fun c => naturalWidth c.1 c.2 := by
  have hnatural : ((columns.map fun c => (c.1, c.2.map fun w => (⟨w, []⟩ : Styled))).map
      fun c => max 1 (columnWidth limit c.1 c.2)) =
        columns.map fun c => naturalWidth c.1 c.2 := by
    rw [List.map_map]
    apply List.map_congr_left
    intro c hc
    have hle : naturalWidth c.1 c.2 ≤ sumOf (columns.map fun c => naturalWidth c.1 c.2) :=
      le_sumOf (List.mem_map_of_mem hc)
    exact columnWidth_labels (hne c hc) (hlabels c hc) (hle.trans hfit)
  rw [← hnatural] at hfit ⊢
  exact if_pos hfit

/-- A line of narrow characters that is no wider than the console. -/
def Within (width : Nat) (line : List Char) : Prop :=
  (∀ c ∈ line, Narrow c) ∧ line.length ≤ width

theorem length_intercalate (divider : Char) {parts : List (List Char)} (hne : parts ≠ []) :
    ([divider].intercalate parts).length + 1 = sumOf (parts.map List.length) + parts.length := by
  induction parts with
  | nil => contradiction
  | cons part parts ih =>
    cases parts with
    | nil => simp [List.intercalate, sumOf]
    | cons part' parts =>
      rw [List.intercalate_cons_cons]
      have hrest := ih (List.cons_ne_nil _ _)
      simp only [List.length_append, List.map_cons, sumOf_cons, List.length_cons,
        List.length_nil] at hrest ⊢
      omega

theorem within_framed {left divider right : Char} (hleft : Narrow left) (hdivider : Narrow divider)
    (hright : Narrow right) {parts : List (List Char)} (hne : parts ≠ [])
    (hparts : ∀ part ∈ parts, ∀ c ∈ part, Narrow c) {width : Nat}
    (hfit : sumOf (parts.map List.length) + (parts.length + 1) ≤ width) :
    Within width (left :: ([divider].intercalate parts ++ [right])) := by
  constructor
  · refine List.forall_mem_cons.2 ⟨hleft, List.forall_mem_append.2 ⟨?_, by simpa using hright⟩⟩
    intro c hc
    rcases Text.mem_intercalate hc with rfl | ⟨part, hpart, hc⟩
    · exact hdivider
    · exact hparts part hpart c hc
  · have hlength := length_intercalate divider hne
    simp only [List.length_cons, List.length_append, List.length_nil]
    omega

def frame : List Char := ['┃', '│', '┏', '━', '┳', '┓', '┡', '╇', '┩', '└', '─', '┴', '┘']

theorem narrow_of_mem_frame {c : Char} (h : c ∈ frame) : Narrow c := by
  have hall : (frame.all fun c =>
      c != Text.joiner && c != Text.pictureSelector && Text.charCells c == 1) = true := by
    simp only [Text.charCells, Text.inRanges_eq]
    decide +kernel
  simpa [Narrow, and_assoc] using List.all_eq_true.1 hall c h

def texts (t : Table) (i : Nat) : List (List Char) :=
  (t.columns.map Column.title :: t.rows).map fun row => ((row[i]?).getD "").toList

def widths (t : Table) : List Nat :=
  (List.range t.columns.length).map fun i =>
    naturalWidth (padding t.columns.length i) (t.texts i)

/-- The width of the table if nothing is broken. -/
def width (t : Table) : Nat := sumOf t.widths + (t.columns.length + 1)

theorem naturalWidth_le_sum {t : Table} {i : Nat} (hi : i < t.columns.length) :
    naturalWidth (padding t.columns.length i) (t.texts i) ≤ sumOf t.widths :=
  le_sumOf (List.mem_map_of_mem (List.mem_range.2 hi))

/-- Rows of single labels under titles that are labels. -/
structure OfLabels (t : Table) : Prop where
  ne_nil : t.columns ≠ []
  unruled : t.ruled = false
  justified : ∀ c ∈ t.columns, c.justify ≠ .ragged
  title : ∀ c ∈ t.columns, Label c.title.toList
  full : ∀ row ∈ t.rows, row.length = t.columns.length
  label : ∀ row ∈ t.rows, ∀ cell ∈ row, Label cell.toList

def plainCell (cell : String) : Styled := ⟨cell.toList, []⟩

def rowCells (t : Table) (style : Column → Style) (row : List String) : List Cell :=
  ((t.columns.zip (row.map plainCell)).zip
    (t.widths.zip ((List.range t.columns.length).map (padding t.columns.length)))).map
      fun ((c, text), w, p) => ⟨w, p, c.justify, style c, text⟩

variable {t : Table}

theorem getElem?_getD_plainCell (row : List String) (i : Nat) :
    ((row.map plainCell)[i]?).getD {} = ⟨((row[i]?).getD "").toList, []⟩ := by
  rw [List.getElem?_map]
  cases row[i]? <;> rfl

theorem OfLabels.full_row (h : t.OfLabels) {row : List String}
    (hrow : row ∈ t.columns.map Column.title :: t.rows) :
    row.length = t.columns.length ∧ ∀ cell ∈ row, Label cell.toList := by
  rcases List.mem_cons.1 hrow with rfl | hrow
  · exact ⟨List.length_map _, List.forall_mem_map.2 h.title⟩
  · exact ⟨h.full row hrow, h.label row hrow⟩

theorem OfLabels.label_of_mem_texts (h : t.OfLabels) {i : Nat} (hi : i < t.columns.length)
    (hw : w ∈ t.texts i) : Label w := by
  obtain ⟨row, hrow, rfl⟩ := List.mem_map.1 hw
  obtain ⟨hfull, hlabel⟩ := h.full_row hrow
  have hin : i < row.length := by omega
  rw [List.getElem?_eq_getElem hin]
  exact hlabel _ (List.getElem_mem hin)

theorem transpose_cells {n : Nat} {rows : List (List String)}
    (hfull : ∀ row ∈ rows, row.length = n) :
    ((List.range rows.length).map fun r =>
      ((List.range n).map fun i => rows.map fun row => plainCell ((row[i]?).getD "")).map
        fun column => (column[r]?).getD {}) = rows.map (List.map plainCell) := by
  apply List.ext_getElem
  · simp
  · intro r hr hr'
    have hrow : r < rows.length := by simpa using hr
    have hlength : rows[r].length = n := hfull _ (List.getElem_mem hrow)
    apply List.ext_getElem
    · simpa using hlength.symm
    · intro i hi hi'
      have hin : i < rows[r].length := by simpa using hi'
      simp [List.getElem?_eq_getElem hrow, List.getElem?_eq_getElem hin]

section Columns

variable (h : t.OfLabels) {limit : Nat} (hfit : sumOf t.widths ≤ limit)
include h hfit

theorem OfLabels.room {i : Nat} (hi : i < t.columns.length) :
    ¬limit < (padding t.columns.length i).total + 1 := by
  have hmem := List.mem_map_of_mem (f := fun row => ((row[i]?).getD "").toList)
    (List.mem_cons_self (a := t.columns.map Column.title) (l := t.rows))
  have hpos := List.length_pos_iff.2 (h.label_of_mem_texts hi hmem).ne_nil
  have hle := (le_naturalWidth hmem).trans (naturalWidth_le_sum hi)
  omega

theorem OfLabels.readColumn (device : Device) {i : Nat} (hi : i < t.columns.length) :
    (t.rows.mapM fun row =>
      if limit < (padding t.columns.length i).total + 1 then pure ({} : Styled)
      else Styled.ofMarkup device ((row[i]?).getD "").toList) =
        .ok (t.rows.map fun row => plainCell ((row[i]?).getD "")) := by
  apply mapM_eq_ok
  intro row hrow
  have hlabel : Label ((row[i]?).getD "").toList :=
    h.label_of_mem_texts hi (List.mem_map.2 ⟨row, List.mem_cons_of_mem _ hrow, rfl⟩)
  rw [if_neg (h.room hfit hi), hlabel.ofMarkup]
  rfl

theorem OfLabels.readColumns (device : Device) :
    layout.readColumns device limit t
      ((List.range t.columns.length).map (padding t.columns.length)) =
      .ok (t.rows.map (List.map plainCell)) := by
  have hnumbered : ((List.range t.columns.length).map (padding t.columns.length)).zipIdx =
      (List.range t.columns.length).map fun i => (padding t.columns.length i, i) := by
    apply List.ext_getElem
    · simp
    · simp
  have hcolumns : (((List.range t.columns.length).map (padding t.columns.length)).zipIdx.mapM
      fun e => t.rows.mapM fun row =>
        if limit < e.1.total + 1 then pure ({} : Styled)
        else Styled.ofMarkup device ((row[e.2]?).getD "").toList) =
      .ok ((List.range t.columns.length).map fun i =>
        t.rows.map fun row => plainCell ((row[i]?).getD "")) := by
    rw [hnumbered, List.mapM_map]
    exact mapM_eq_ok fun i hi => h.readColumn hfit device (List.mem_range.1 hi)
  refine (congrArg (· >>= _) hcolumns).trans (congrArg Except.ok ?_)
  exact transpose_cells h.full

end Columns

theorem OfLabels.fitWidths (h : t.OfLabels) {limit : Nat} (hfit : sumOf t.widths ≤ limit) :
    Table.fitWidths limit ((List.range t.columns.length).map fun i =>
      ((((List.range t.columns.length).map (padding t.columns.length))[i]?).getD ⟨0, 0⟩,
        ((t.columns.map Column.title).map plainCell :: t.rows.map (List.map plainCell)).map
          fun row => (row[i]?).getD {})) = t.widths := by
  have hcolumns : ((List.range t.columns.length).map fun i =>
      ((((List.range t.columns.length).map (padding t.columns.length))[i]?).getD ⟨0, 0⟩,
        ((t.columns.map Column.title).map plainCell :: t.rows.map (List.map plainCell)).map
          fun row => (row[i]?).getD ({} : Styled))) =
      ((List.range t.columns.length).map fun i => (padding t.columns.length i, t.texts i)).map
        fun c => (c.1, c.2.map fun w => ⟨w, []⟩) := by
    refine (List.map_congr_left ?_).trans List.map_map.symm
    intro i hi
    have hpadding : ((List.range t.columns.length).map (padding t.columns.length))[i]? =
        some (padding t.columns.length i) := by
      rw [List.getElem?_map, List.getElem?_range (List.mem_range.1 hi)]
      rfl
    have hcells (rows : List (List String)) :
        (rows.map (List.map plainCell)).map (fun row => (row[i]?).getD {}) =
          (rows.map fun row => ((row[i]?).getD "").toList).map fun w => ⟨w, []⟩ := by
      rw [List.map_map, List.map_map]
      exact List.map_congr_left fun row _ => getElem?_getD_plainCell row i
    rw [hpadding]
    exact congrArg (Prod.mk _) (hcells (t.columns.map Column.title :: t.rows))
  rw [hcolumns, fitWidths_labels, List.map_map]
  · rfl
  · rintro c hc
    obtain ⟨i, -, rfl⟩ := List.mem_map.1 hc
    simp [texts]
  · rintro c hc
    obtain ⟨i, hi, rfl⟩ := List.mem_map.1 hc
    exact fun w hw => h.label_of_mem_texts (List.mem_range.1 hi) hw
  · rw [List.map_map]
    exact hfit

@[simp] theorem length_widths (t : Table) : t.widths.length = t.columns.length := by
  simp [widths]

theorem map_text_rowCells {row : List String} (hrow : row.length = t.columns.length)
    (style : Column → Style) :
    (t.rowCells style row).map (·.text.chars) = row.map String.toList := by
  apply List.ext_getElem
  · simp [rowCells, hrow]
  · intro i hi hi'
    simp [rowCells, plainCell]

theorem map_width_rowCells {row : List String} (hrow : row.length = t.columns.length)
    (style : Column → Style) : (t.rowCells style row).map Cell.width = t.widths := by
  apply List.ext_getElem
  · simp [rowCells, hrow]
  · intro i hi hi'
    simp [rowCells]

theorem OfLabels.fits (h : t.OfLabels) {row : List String}
    (hrow : row ∈ t.columns.map Column.title :: t.rows) (style : Column → Style) :
    ∀ c ∈ t.rowCells style row, c.Fits := by
  obtain ⟨hfull, hlabel⟩ := h.full_row hrow
  intro c hc
  obtain ⟨i, hi, rfl⟩ := List.getElem_of_mem hc
  have hin : i < t.columns.length := by simpa [rowCells, hfull] using hi
  have hcell : (t.rowCells style row)[i] = ⟨naturalWidth (padding t.columns.length i) (t.texts i),
      padding t.columns.length i, t.columns[i].justify, style t.columns[i], plainCell row[i]⟩ := by
    simp [rowCells, widths]
  have hmem : row[i].toList ∈ t.texts i := by
    refine List.mem_map.2 ⟨row, hrow, ?_⟩
    rw [List.getElem?_eq_getElem (by omega)]
    rfl
  rw [hcell]
  exact ⟨hlabel _ (List.getElem_mem _), rfl, h.justified _ (List.getElem_mem hin),
    le_naturalWidth hmem⟩

theorem narrow_of_forall₂ {cells : List Cell} {parts : List (List Char)}
    (h : ∀ c ∈ cells, c.Fits)
    (hfilled : List.Forall₂ (fun c part => Filled c.width c.text.chars part) cells parts) :
    (∀ part ∈ parts, ∀ c ∈ part, Narrow c) ∧ parts.map List.length = cells.map Cell.width := by
  induction hfilled with
  | nil => simp
  | @cons c part cells parts hpart _ ih =>
    obtain ⟨hc, hcells⟩ := List.forall_mem_cons.1 h
    obtain ⟨hnarrow, hlength⟩ := narrow_of_filled hc.label hpart
    obtain ⟨hrest, hlengths⟩ := ih hcells
    refine ⟨List.forall_mem_cons.2 ⟨hnarrow, hrest⟩, ?_⟩
    rw [List.map_cons, List.map_cons, hlength, hlengths]

theorem OfLabels.exists_row (h : t.OfLabels) {row : List String}
    (hrow : row ∈ t.columns.map Column.title :: t.rows) (head : Bool) (style : Column → Style) :
    ∃ line parts, renderRow head (t.rowCells style row) = [line] ∧
      line.chars = barred (if head then headBar else bodyBar) parts ∧
      List.Forall₂ Padded (row.map String.toList) parts ∧ Within t.width line.chars := by
  obtain ⟨hfull, hlabel⟩ := h.full_row hrow
  have hfits := h.fits hrow style
  have hne : t.rowCells style row ≠ [] := by
    have hpos := List.length_pos_iff.2 h.ne_nil
    have hlength : (t.rowCells style row).length = t.columns.length := by simp [rowCells, hfull]
    rw [← List.length_pos_iff]
    omega
  obtain ⟨line, parts, hline, hchars, hfilled⟩ := renderRow_of_fits head hne hfits
  refine ⟨line, parts, hline, hchars, ?_, ?_⟩
  · rw [← map_text_rowCells hfull style, List.forall₂_map_left_iff]
    exact hfilled.imp fun _ _ hpart => hpart.padded
  · obtain ⟨hnarrow, hlengths⟩ := narrow_of_forall₂ hfits hfilled
    rw [map_width_rowCells hfull style] at hlengths
    have hcount : parts.length = t.columns.length := by
      rw [← length_widths t, ← hlengths, List.length_map]
    have hbar : Narrow (if head then headBar else bodyBar) := by
      apply narrow_of_mem_frame
      cases head <;> decide
    have hparts : parts ≠ [] := by
      rw [← List.length_pos_iff, hcount]
      exact List.length_pos_iff.2 h.ne_nil
    rw [hchars]
    apply within_framed hbar hbar hbar hparts hnarrow
    rw [hlengths, hcount, Table.width]

theorem OfLabels.layout (h : t.OfLabels) (device : Device) {width : Nat} (hfit : t.width ≤ width) :
    t.layout device width = .ok ([topRule.line t.widths] ++
      renderRow true (t.rowCells (fun _ => .bold) (t.columns.map Column.title)) ++
      [headRule.line t.widths] ++
      renderBody t.ruled (rowRule.line t.widths) (t.rows.map (t.rowCells (·.style))) ++
      [bottomRule.line t.widths]) := by
  have hlimit : sumOf t.widths ≤ width - (t.columns.length + 1) := by
    rw [Table.width] at hfit
    omega
  have htitles : (t.columns.map fun c => Styled.ofString .plain c.title) =
      (t.columns.map Column.title).map plainCell := by
    rw [List.map_map]
    apply List.map_congr_left
    intro c hc
    rw [Styled.ofString, Styled.of, clean_eq_self (h.title c hc).shown]
    rfl
  rw [Table.layout]
  simp only [htitles, h.readColumns hlimit device]
  simp only [bind, Except.bind, h.fitWidths hlimit, pure, Except.pure]
  have hrows (cells : List Styled → List Cell) : (t.rows.map (List.map plainCell)).map cells =
      t.rows.map fun row => cells (row.map plainCell) := List.map_map
  have hbare : ∀ row ∈ t.rows.map (List.map plainCell), ∀ u ∈ row, u.Bare := by
    simp only [List.forall_mem_map]
    exact fun row _ cell _ => rfl
  rw [bodyFault?_eq_none hbare, hrows]
  · rfl
  · intro row c hc
    exact text_mem_of_mem_zip (fun _ => rfl) hc

theorem chars_rule (r : Rule) (widths : List Nat) :
    (r.line widths).chars =
      r.left :: ([r.divider].intercalate (widths.map fun n => List.replicate n r.fill) ++
        [r.right]) :=
  List.append_nil _

theorem within_rule (hne : t.columns ≠ []) {r : Rule}
    (hr : ∀ c ∈ [r.left, r.fill, r.divider, r.right], Narrow c) :
    Within t.width (r.line t.widths).chars := by
  simp only [List.forall_mem_cons] at hr
  obtain ⟨hleft, hfill, hdivider, hright, -⟩ := hr
  rw [chars_rule]
  apply within_framed hleft hdivider hright
  · rw [← List.length_pos_iff, List.length_map, length_widths]
    exact List.length_pos_iff.2 hne
  · rintro part hpart c hc
    obtain ⟨n, -, rfl⟩ := List.mem_map.1 hpart
    rwa [List.eq_of_mem_replicate hc]
  · rw [List.map_map, List.length_map, length_widths]
    simp [Function.comp_def, Table.width]

theorem renderBody_unruled (rule : Line) (rows : List (List Cell)) :
    renderBody false rule rows = rows.flatMap (renderRow false) := by
  induction rows with
  | nil => rfl
  | cons row rows ih =>
    cases rows with
    | nil => simp [renderBody]
    | cons row' rows =>
      rw [renderBody, ih]
      · simp
      · simp

/-- A line that shows a row between bars. -/
def ShowsRow (bar : Char) (row : List String) (line : List Char) : Prop :=
  ∃ parts, line = barred bar parts ∧ List.Forall₂ Padded (row.map String.toList) parts

theorem OfLabels.exists_body (h : t.OfLabels) {rows : List (List String)} (hrows : rows ⊆ t.rows) :
    ∃ lines, (rows.map (t.rowCells (·.style))).flatMap (renderRow false) = lines ∧
      List.Forall₂ (ShowsRow bodyBar) rows (lines.map Line.chars) ∧
      ∀ line ∈ lines, Within t.width line.chars := by
  induction rows with
  | nil => exact ⟨[], rfl, .nil, by simp⟩
  | cons row rows ih =>
    obtain ⟨hrow, hrest⟩ := List.cons_subset.1 hrows
    obtain ⟨line, parts, hline, hchars, hparts, hwithin⟩ :=
      h.exists_row (List.mem_cons_of_mem _ hrow) false (·.style)
    obtain ⟨lines, hlines, hshown, hall⟩ := ih hrest
    refine ⟨line :: lines, ?_, .cons ⟨parts, hchars, hparts⟩ hshown,
      List.forall_mem_cons.2 ⟨hwithin, hall⟩⟩
    rw [List.map_cons, List.flatMap_cons, hline, hlines, List.singleton_append]

end Table

theorem Screen.write_within {s : Screen} (hplain : s.device.terminal = false) {width : Nat}
    (hpos : 0 < width) (hwidth : (width : Int) ≤ s.width) {lines : List Line}
    (h : ∀ line ∈ lines, Table.Within width line.chars) :
    s.write lines = (lines.map Line.chars).flatMap (· ++ ['\n']) := by
  rw [write, if_neg (by omega), List.flatMap_map]
  apply List.flatMap_congr
  intro line hline
  obtain ⟨hnarrow, hlength⟩ := h line hline
  rw [cropLine, Text.cells_of_narrow hnarrow, if_pos (by omega), paint_unstyled hplain]
  rfl

namespace Table

variable {t : Table}

theorem feed_not_mem_of_within {width : Nat} {line : List Char} (h : Within width line) :
    '\n' ∉ line := by
  intro hmem
  have hzero : Text.charCells '\n' = 0 := by
    simp only [Text.charCells, Text.inRanges_eq]
    decide +kernel
  rw [(h.1 _ hmem).2.2] at hzero
  contradiction

/-- A table of labels on a console that is wide enough. -/
theorem OfLabels.printTable (h : t.OfLabels) {s : Screen} (hplain : s.device.terminal = false)
    (hwidth : (t.width : Int) ≤ s.width) :
    ∃ top head rule rows bottom,
      s.printTable t = .ok ((top :: head :: rule :: (rows ++ [bottom])).flatMap (· ++ ['\n'])) ∧
      ShowsRow headBar (t.columns.map Column.title) head ∧
      List.Forall₂ (ShowsRow bodyBar) t.rows rows ∧ bottom ≠ [] ∧
      ∀ line ∈ top :: head :: rule :: (rows ++ [bottom]), '\n' ∉ line := by
  have hpos : 0 < t.width := by
    rw [Table.width]
    omega
  obtain ⟨head, parts, hhead, hchars, hparts, hwithin⟩ :=
    h.exists_row List.mem_cons_self true fun _ => .bold
  obtain ⟨body, hbody, hshown, hall⟩ := h.exists_body (List.Subset.refl t.rows)
  have hrule {r : Rule}
      (hr : ([r.left, r.fill, r.divider, r.right].all frame.contains) = true) :
      Within t.width (r.line t.widths).chars :=
    within_rule h.ne_nil fun c hc =>
      narrow_of_mem_frame (List.contains_iff_mem.1 (List.all_eq_true.1 hr c hc))
  have hroom : t.width ≤ s.width.toNat := by omega
  have hlayout := h.layout s.device hroom
  rw [h.unruled, renderBody_unruled, hhead, hbody] at hlayout
  have hlines : ∀ line ∈ topRule.line t.widths :: head :: headRule.line t.widths ::
      (body ++ [bottomRule.line t.widths]), Within t.width line.chars := by
    simp only [List.forall_mem_cons, List.forall_mem_append]
    exact ⟨hrule (by decide), hwithin, hrule (by decide), hall, hrule (by decide), by simp⟩
  refine ⟨(topRule.line t.widths).chars, head.chars, (headRule.line t.widths).chars,
    body.map Line.chars, (bottomRule.line t.widths).chars, ?_, ⟨parts, hchars, hparts⟩, hshown,
    by simp [chars_rule], ?_⟩
  · rw [Screen.printTable, if_neg (by omega), hlayout]
    refine congrArg Except.ok ?_
    have hwrite := Screen.write_within hplain hpos hwidth hlines
    simpa using hwrite
  · intro line hline
    have hmem : line ∈ (topRule.line t.widths :: head :: headRule.line t.widths ::
        (body ++ [bottomRule.line t.widths])).map Line.chars := by
      simpa using hline
    obtain ⟨l, hl, rfl⟩ := List.mem_map.1 hmem
    exact feed_not_mem_of_within (hlines l hl)

end Table

end Plateau.Console
