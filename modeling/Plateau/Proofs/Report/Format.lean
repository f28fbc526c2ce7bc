import Mathlib.Data.List.TakeWhile
import Plateau.Proofs.Console.Print
import Plateau.Proofs.Console.Table
import Plateau.Proofs.Reading
import Plateau.Report.Format

namespace Plateau

open Console (Device Screen Styled Literal Tagless ClosesNothing)
open Console.Screen (Ended ended_nil ended_write ended_print)
open Text (Shown cells)

namespace Report

def detailLine (kv : String × Value) : List Char := s!"    {kv.1}: ".toList ++ kv.2.plain

theorem detailLine_eq (kv : String × Value) :
    detailLine kv =
      ' ' :: ' ' :: ' ' :: ' ' :: (kv.1.toList ++ ':' :: ' ' :: kv.2.plain) := by
  have hkey : s!"    {kv.1}: ".toList = "    ".toList ++ kv.1.toList ++ ": ".toList := by
    simp [toString]
  rw [detailLine, hkey, List.append_assoc, List.append_assoc]
  rfl

def details (r : Report) : Fields :=
  match r.error with
  | some f => f.detail
  | none => []

/-- The circumstance can be printed. -/
def Legible (s : Screen) (kv : String × Value) : Prop :=
  ∃ text, markupLine s kv.1 kv.2 = .ok text

variable {s : Screen}

theorem legible_of_tagless {kv : String × Value} (h : Tagless (detailLine kv)) : Legible s kv := by
  obtain ⟨u, hu, hbare⟩ := Console.unstyled_of_tagless s.device h
  refine ⟨s.print u, ?_⟩
  rw [markupLine, ← detailLine, Screen.printMarkup_of_bare hu hbare]
  rfl

theorem not_legible_of_closesNothing {kv : String × Value} (h : ClosesNothing (detailLine kv)) :
    ¬Legible s kv := by
  rintro ⟨text, htext⟩
  obtain ⟨u, hu, -⟩ := Screen.exists_of_printMarkup (mapError_eq_ok_iff.1 htext)
  obtain ⟨e, he⟩ := Console.ofMarkup_of_closesNothing s.device h
  rw [← detailLine, he] at hu
  contradiction

theorem exists_markupLines_iff {fs : Fields} :
    (∃ text, markupLines s fs = .ok text) ↔ ∀ kv ∈ fs, Legible s kv := by
  induction fs with
  | nil => simp [markupLines]
  | cons kv fs ih =>
    rw [List.forall_mem_cons, ← ih, Legible]
    simp only [markupLines, bind_eq_ok_iff]
    constructor
    · rintro ⟨text, line, hline, rest, hrest, -⟩
      exact ⟨⟨line, hline⟩, rest, hrest⟩
    · rintro ⟨⟨line, hline⟩, rest, hrest⟩
      exact ⟨_, line, hline, rest, hrest, rfl⟩

theorem split_markupLines {fs : Fields} {text : List Char} (h : markupLines s fs = .ok text)
    {kv : String × Value} (hkv : kv ∈ fs) :
    ∃ before u after, Styled.ofMarkup s.device (detailLine kv) = .ok u ∧
      text = before ++ (s.print u ++ after) ∧ Ended before := by
  induction fs generalizing text with
  | nil => contradiction
  | cons other fs ih =>
    obtain ⟨line, hline, h⟩ := bind_eq_ok_iff.1 h
    obtain ⟨rest, hrest, htext⟩ := bind_eq_ok_iff.1 h
    obtain rfl : line ++ rest = text := Except.ok.inj htext
    obtain ⟨u, hu, rfl⟩ := Screen.exists_of_printMarkup (mapError_eq_ok_iff.1 hline)
    rcases List.mem_cons.1 hkv with rfl | hkv
    · exact ⟨[], u, rest, hu, rfl, ended_nil⟩
    · obtain ⟨before, v, after, hv, rfl, hbefore⟩ := ih hrest hkv
      refine ⟨s.print u ++ before, v, after, hv, ?_, (ended_print s u).append hbefore⟩
      rw [List.append_assoc]

theorem exists_renderDetail_iff {fs : Fields} :
    (∃ text, renderDetail s fs = .ok text) ↔ ∀ kv ∈ fs, Legible s kv := by
  rw [← exists_markupLines_iff (s := s)]
  cases fs with
  | nil => simp [renderDetail, markupLines]
  | cons kv fs =>
    simp only [renderDetail, bind_eq_ok_iff]
    constructor
    · rintro ⟨text, lines, hlines, -⟩
      exact ⟨lines, hlines⟩
    · rintro ⟨lines, hlines⟩
      exact ⟨_, lines, hlines, rfl⟩

theorem split_renderDetail {fs : Fields} {text : List Char} (h : renderDetail s fs = .ok text)
    {kv : String × Value} (hkv : kv ∈ fs) :
    ∃ before u after, Styled.ofMarkup s.device (detailLine kv) = .ok u ∧
      text = before ++ (s.print u ++ after) ∧ Ended before := by
  cases fs with
  | nil => contradiction
  | cons other fs =>
    obtain ⟨lines, hlines, htext⟩ := bind_eq_ok_iff.1 h
    obtain ⟨before, u, after, hu, rfl, hbefore⟩ := split_markupLines hlines hkv
    obtain rfl := Except.ok.inj htext
    refine ⟨_, u, after, hu, (List.append_assoc _ _ _).symm, ?_⟩
    exact (ended_print s _).append hbefore

/-- The only fact about the making of a report is its timing tree, if there is one. -/
def Timed (r : Report) : Prop :=
  r.remarks = none ∨ ∃ tree, r.remarks = some [(telemetryKey, tree)]

theorem exists_renderRemarks {r : Report} (h : r.Timed) (s : Screen) :
    ∃ text, renderRemarks s r = .ok text := by
  unfold renderRemarks
  rcases h with h | ⟨tree, h⟩
  · rw [h]
    exact ⟨[], rfl⟩
  · rw [h]
    exact ⟨_, rfl⟩

def IsPosition (p : String) : Prop :=
  ∃ x y z, Text.words p.toList = [x, y, z] ∧ ∀ w ∈ [x, y, z], '[' ∉ w

theorem bracket_not_mem_toString (n : Nat) : '[' ∉ (toString n).toList := by
  intro h
  have hdigit : '['.isDigit = true := Numeral.isDigit_of_mem_toString h
  contradiction

def cellsOf (p : String × Nat) : List String :=
  toString p.2 :: (Text.words p.1.toList).map String.ofList

theorem IsPosition.bracket_not_mem {p : String} (h : IsPosition p) (index : Nat) :
    ∀ cell ∈ cellsOf (p, index), '[' ∉ cell.toList := by
  obtain ⟨x, y, z, hwords, hplain⟩ := h
  rw [cellsOf, hwords, List.forall_mem_cons, List.forall_mem_map]
  simp only [String.toList_ofList]
  exact ⟨bracket_not_mem_toString index, hplain⟩

theorem positionRows_eq {positions : List String} (h : ∀ p ∈ positions, IsPosition p)
    (index : Nat) : positionRows index positions = .ok ((positions.zipIdx index).map cellsOf) := by
  induction positions generalizing index with
  | nil => rfl
  | cons p positions ih =>
    obtain ⟨⟨x, y, z, hwords, -⟩, hlater⟩ := List.forall_mem_cons.1 h
    have hrow : positionRow index p = .ok (cellsOf (p, index)) := by
      rw [positionRow, cellsOf, hwords]
      rfl
    rw [positionRows, hrow, ih hlater (index + 1)]
    rfl

def grid (positions : List String) : Console.Table :=
  { columns := positionColumns, rows := positions.zipIdx.map cellsOf }

theorem positionTable_eq {positions : List String} (h : ∀ p ∈ positions, IsPosition p)
    (s : Screen) : positionTable s positions = printTable s (grid positions) := by
  rw [positionTable, positionRows_eq h]
  rfl

theorem exists_positionTable {positions : List String} (h : ∀ p ∈ positions, IsPosition p)
    (s : Screen) : ∃ text, positionTable s positions = .ok text := by
  have hmarkup : ∀ row ∈ (grid positions).rows, ∀ cell ∈ row,
      Console.Unstyled s.device cell.toList := by
    intro row hrow cell hcell
    obtain ⟨⟨p, index⟩, hp, rfl⟩ := List.mem_map.1 hrow
    have hposition : IsPosition p := h p (List.fst_mem_of_mem_zipIdx hp)
    have hbracket := hposition.bracket_not_mem index cell hcell
    exact Console.unstyled_of_tagless _ (Console.tagless_of_bracket_not_mem hbracket)
  obtain ⟨text, htext⟩ := Console.Table.exists_printTable hmarkup
  refine ⟨text, ?_⟩
  rw [positionTable_eq h, printTable, htext]
  rfl

/-- A circumstance with no blank at its end, or one that fits every console. -/
def Neat (kv : String × Value) : Prop :=
  (detailLine kv).length ≤ 20 ∨ Text.trimEnd (detailLine kv) = detailLine kv

/-- What holds of every report on a run. -/
structure OnRun (r : Report) : Prop where
  op : r.op = "run"
  error_of_failed : r.ok = false → ∃ f, r.error = some f
  details_of_ok : r.ok = true → r.details = []
  timed : r.Timed
  positions : ∀ p ∈ r.positions, IsPosition p
  neat : ∀ kv ∈ r.details, Neat kv

theorem exists_renderRun {r : Report} (h : r.OnRun) (s : Screen) (verbose : Bool) :
    ∃ text, renderRun s verbose r = .ok text := by
  obtain ⟨table, htable⟩ := exists_positionTable h.positions s
  obtain ⟨remarks, hremarks⟩ := exists_renderRemarks h.timed s
  rw [renderRun, htable, hremarks]
  cases r.positions.isEmpty <;> cases verbose <;> exact ⟨_, rfl⟩

theorem exists_renderError_iff {r : Report} (h : r.Timed) {f : Failure} (hf : r.error = some f)
    (s : Screen) (verbose : Bool) :
    (∃ text, renderError s verbose r = .ok text) ↔
      (verbose = true → ∀ kv ∈ f.detail, Legible s kv) := by
  cases verbose with
  | false => simp [renderError, pure, Except.pure]
  | true =>
    obtain ⟨remarks, hremarks⟩ := exists_renderRemarks h s
    have hdetail := @exists_renderDetail_iff s f.detail
    simp only [renderError, hf, bind_eq_ok_iff, hremarks, true_imp_iff, ← hdetail]
    constructor
    · rintro ⟨text, detail, hdetail, -⟩
      exact ⟨detail, hdetail⟩
    · rintro ⟨detail, hdetail⟩
      exact ⟨_, detail, hdetail, remarks, rfl, rfl⟩

theorem split_renderError {r : Report} {f : Failure} (hf : r.error = some f) {text : List Char}
    (h : renderError s true r = .ok text) {kv : String × Value} (hkv : kv ∈ f.detail) :
    ∃ before u after, Styled.ofMarkup s.device (detailLine kv) = .ok u ∧
      text = before ++ (s.print u ++ after) ∧ Ended before := by
  obtain ⟨head, detail, remarks, hhead, hdetail, rfl⟩ : ∃ head detail remarks, Ended head ∧
      renderDetail s f.detail = .ok detail ∧ head ++ (detail ++ remarks) = text := by
    simp only [renderError, hf] at h
    obtain ⟨detail, hdetail, h⟩ := bind_eq_ok_iff.1 h
    obtain ⟨remarks, -, htext⟩ := bind_eq_ok_iff.1 h
    refine ⟨_, detail, remarks, ?_, hdetail,
      (List.append_assoc _ _ _).symm.trans (Except.ok.inj htext)⟩
    exact (ended_print s _).append (ended_print s _)
  obtain ⟨before, u, after, hu, rfl, hbefore⟩ := split_renderDetail hdetail hkv
  refine ⟨head ++ before, u, after ++ remarks, hu, ?_, hhead.append hbefore⟩
  simp only [List.append_assoc]

theorem exists_dropNewlines (text : List Char) :
    ∃ feeds, text = dropNewlines text ++ feeds ∧ ∀ c ∈ feeds, c = '\n' := by
  refine ⟨(text.reverse.takeWhile (· == '\n')).reverse, ?_, ?_⟩
  · rw [dropNewlines, ← List.reverse_append, List.takeWhile_append_dropWhile, List.reverse_reverse]
  · intro c hc
    simpa using List.mem_takeWhile_imp (List.mem_reverse.1 hc)

theorem mem_lines_dropNewlines {before line after : List Char} (hbefore : Ended before)
    (hne : line ≠ []) (hline : '\n' ∉ line) :
    line ∈ Text.lines (dropNewlines (before ++ (line ++ '\n' :: after))) := by
  obtain ⟨feeds, htext, hfeeds⟩ := exists_dropNewlines (before ++ (line ++ '\n' :: after))
  generalize dropNewlines (before ++ (line ++ '\n' :: after)) = kept at htext
  rw [← List.append_assoc] at htext
  -- The line ends before the line feeds that are dropped begin.
  rcases List.append_eq_append_iff.1 htext with ⟨rest, rfl, hrest⟩ | ⟨rest, hrest, rfl⟩
  · rw [List.append_assoc]
    apply Text.mem_lines hbefore hline
    cases rest with
    | nil => simp
    | cons c rest =>
      intro d hd
      obtain rfl : c = d := Option.some.inj hd
      exact (List.cons.inj hrest).1.symm
  · obtain rfl : rest = [] := by
      by_contra hrest'
      have hlast : (before ++ line).getLast? = rest.getLast? := by
        rw [hrest, List.getLast?_append_of_ne_nil _ hrest']
      rw [List.getLast?_append_of_ne_nil _ hne] at hlast
      obtain ⟨c, hc⟩ : ∃ c, line.getLast? = some c := by
        rw [← Option.isSome_iff_exists, List.getLast?_isSome]
        exact hne
      have hmem : c ∈ rest := List.mem_of_getLast? (hlast.symm.trans hc)
      obtain rfl : c = '\n' := hfeeds c (List.mem_append_left _ hmem)
      exact hline (List.mem_of_getLast? hc)
    rw [List.append_nil] at hrest
    have hmem : line ∈ Text.lines (before ++ (line ++ [])) :=
      Text.mem_lines hbefore hline (by simp)
    rwa [List.append_nil, hrest] at hmem

theorem render_of_run {r : Report} (hok : r.ok = true) (hop : r.op = "run") (s : Screen)
    (verbose : Bool) : render s verbose r = dropNewlines <$> renderRun s verbose r := by
  simp only [render, hok, hop, Bool.not_true, Bool.false_eq_true, beq_self_eq_true, if_false,
    if_true]

theorem render_of_failed {r : Report} (hok : r.ok = false) (s : Screen) (verbose : Bool) :
    render s verbose r = dropNewlines <$> renderError s verbose r := by
  simp only [render, hok, Bool.not_false, if_true]

theorem exists_render_iff {r : Report} (h : r.OnRun) (s : Screen) (verbose : Bool) :
    (∃ text, render s verbose r = .ok text) ↔
      (verbose = true → ∀ kv ∈ r.details, Legible s kv) := by
  cases hok : r.ok with
  | true =>
    obtain ⟨text, htext⟩ := exists_renderRun h s verbose
    rw [render_of_run hok h.op, htext, h.details_of_ok hok]
    constructor
    · intro _ _ kv hkv
      contradiction
    · intro _
      exact ⟨dropNewlines text, rfl⟩
  | false =>
    obtain ⟨f, hf⟩ := h.error_of_failed hok
    have hdetails : r.details = f.detail := by rw [details, hf]
    rw [render_of_failed hok, hdetails, ← exists_renderError_iff h.timed hf s verbose]
    simp only [map_eq_ok_iff]
    constructor
    · rintro ⟨text, whole, hwhole, -⟩
      exact ⟨whole, hwhole⟩
    · rintro ⟨whole, hwhole⟩
      exact ⟨_, whole, hwhole, rfl⟩

/-- What asks for a report as text for a reader, with the circumstances of a failure. -/
def Elaborate (settings : OutputSettings) : Prop :=
  settings.json = false ∧ settings.quiet = false ∧ settings.verbose = true

theorem format_of_elaborate {settings : OutputSettings} (h : Elaborate settings)
    (device : Device) (r : Report) :
    r.format device settings =
      render (screen device settings.color settings.width) true r := by
  obtain ⟨hjson, hquiet, hverbose⟩ := h
  rw [format, hjson, hquiet, hverbose]
  rfl

/-- A report on a run can be written unless one of the circumstances that are asked for cannot be
printed. -/
theorem exists_format_iff {r : Report} (h : r.OnRun) (device : Device)
    (settings : OutputSettings) :
    (∃ text, r.format device settings = .ok text) ↔
      (Elaborate settings →
        ∀ kv ∈ r.details, Legible (screen device settings.color settings.width) kv) := by
  have hrender := exists_render_iff h (screen device settings.color settings.width)
    settings.verbose
  unfold format Elaborate
  cases settings.json with
  | true => simp
  | false =>
    cases settings.quiet with
    | true => simp
    | false => simpa using hrender

theorem width_screen {device : Device} {color : Bool} {width : Option Int}
    (h : ∀ n ∈ width, 20 ≤ n) : 20 ≤ (screen device color width).width := by
  have hdefault : 20 ≤ defaultWidth := by decide
  unfold screen
  split
  · exact hdefault
  · rename_i n _
    exact h n rfl
  · exact hdefault

/-- Markup that means itself stands in the text as a line of its own, if it fits. -/
theorem mem_lines_format {r : Report} (h : r.OnRun) {device : Device} {settings : OutputSettings}
    (helaborate : Elaborate settings) (hwidth : ∀ n ∈ settings.width, 20 ≤ n) {text : List Char}
    (htext : r.format device settings = .ok text) {kv : String × Value} (hkv : kv ∈ r.details)
    (hshown : Shown (detailLine kv))
    (hfit : (cells (detailLine kv) : Int) ≤
      (screen device settings.color settings.width).width)
    (hliteral : Literal (detailLine kv)) : detailLine kv ∈ Text.lines text := by
  rw [format_of_elaborate helaborate] at htext
  have hwide : 20 ≤ (screen device settings.color settings.width).width := width_screen hwidth
  generalize screen device settings.color settings.width = s at htext hfit hwide
  have hok : r.ok = false := by
    cases hok : r.ok with
    | true =>
      rw [h.details_of_ok hok] at hkv
      contradiction
    | false => rfl
  obtain ⟨f, hf⟩ := h.error_of_failed hok
  have hdetails : r.details = f.detail := by rw [details, hf]
  rw [hdetails] at hkv
  rw [render_of_failed hok] at htext
  obtain ⟨whole, hwhole, rfl⟩ := map_eq_ok_iff.1 htext
  obtain ⟨before, u, after, hu, rfl, hbefore⟩ := split_renderError hf hwhole hkv
  obtain rfl : Styled.mk (detailLine kv) [] = u :=
    Except.ok.inj ((Console.ofMarkup_of_literal s.device hliteral hshown).symm.trans hu)
  have hne : detailLine kv ≠ [] := by
    intro hnil
    rw [detailLine_eq] at hnil
    contradiction
  have hprint : s.print ⟨detailLine kv, []⟩ = detailLine kv ++ ['\n'] := by
    apply Screen.print_of_fits hne hshown (by omega) (by omega)
    rcases h.neat kv (hdetails ▸ hkv) with hshort | hneat
    · exact .inl (by omega)
    · exact .inr hneat
  have hfeed : '\n' ∉ detailLine kv := by
    intro hmem
    exact absurd (Text.le_toNat_of_isPrintable (hshown _ hmem)) (by decide)
  rw [hprint, List.append_assoc]
  exact mem_lines_dropNewlines hbefore hne hfeed

end Report

end Plateau
