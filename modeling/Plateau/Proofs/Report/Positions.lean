import Plateau.Proofs.Report.Run
import Plateau.Proofs.Text.Frame

namespace Plateau

open Console (Screen Styled Table Label Padded blanks)
open Console.Screen (Ended ended_print)

/-- The cells of a row as they are read: what stands between bars, without the blanks around it. -/
def cellsBetween (bar : Char) (line : List Char) : List String :=
  (((Text.pieces (· == bar) line).drop 1).dropLast.map Text.trim).map String.ofList

theorem blank_blanks (n : Nat) : Text.Blank (blanks n) := by
  intro c hc
  rw [List.eq_of_mem_replicate hc]
  decide

namespace Console

theorem Padded.trim {w cell : List Char} (hw : Label w) (h : Padded w cell) :
    Text.trim cell = w := by
  obtain ⟨l, r, rfl⟩ := h
  rw [Text.trim_pad (blank_blanks l) (blank_blanks r)]
  exact Text.trim_eq_self ⟨fun c hc => hw.not_blank c (List.mem_of_mem_head? hc),
    fun c hc => hw.not_blank c (List.mem_of_getLast? hc)⟩

theorem Padded.bar_not_mem {bar : Char} (hbar : 127 ≤ bar.toNat) {w cell : List Char} (hw : Label w)
    (h : Padded w cell) : bar ∉ cell := by
  obtain ⟨l, r, rfl⟩ := h
  have hblank {n : Nat} : bar ∉ blanks n := by
    intro hmem
    rw [List.eq_of_mem_replicate hmem] at hbar
    exact absurd hbar (by decide)
  have hlabel : bar ∉ w := by
    intro hmem
    have hascii := (hw.ascii bar hmem).2
    omega
  simp [hblank, hlabel]

theorem pieces_barred {bar : Char} {parts : List (List Char)} (hne : parts ≠ [])
    (h : ∀ part ∈ parts, bar ∉ part) :
    Text.pieces (· == bar) (Table.barred bar parts) = [] :: (parts ++ [[]]) := by
  have hbar : (bar == bar) = true := beq_self_eq_true bar
  have hend : ([bar].intercalate parts ++ [bar]).splitOnP (· == bar) =
      ([bar].intercalate parts).splitOnP (· == bar) ++ [].splitOnP (· == bar) :=
    List.splitOnP_append_cons _ _ hbar
  rw [Table.barred, Text.pieces_eq_splitOnP, List.splitOnP_cons_eq_if_modifyHead, if_pos hbar,
    hend, ← List.splitOn_eq_splitOnP, List.splitOn_intercalate bar h hne]
  rfl

theorem cellsBetween_of_showsRow {bar : Char} (hbar : 127 ≤ bar.toNat) {row : List String}
    (hne : row ≠ []) (hrow : ∀ cell ∈ row, Label cell.toList) {line : List Char}
    (h : Table.ShowsRow bar row line) : cellsBetween bar line = row := by
  obtain ⟨parts, rfl, hparts⟩ := h
  have hwords : ∀ w ∈ row.map String.toList, Label w := List.forall_mem_map.2 hrow
  have hmap : row.map String.toList ≠ [] := by simpa using hne
  have hofList : (row.map String.toList).map String.ofList = row := by
    rw [List.map_map]
    simp [Function.comp_def]
  generalize row.map String.toList = words at hparts hwords hmap hofList
  have hread : parts.map Text.trim = words ∧ ∀ part ∈ parts, bar ∉ part := by
    clear hmap hofList
    induction hparts with
    | nil => simp
    | @cons w part words parts hpart _ ih =>
      obtain ⟨hw, hwords⟩ := List.forall_mem_cons.1 hwords
      obtain ⟨htrim, hbars⟩ := ih hwords
      rw [List.map_cons, hpart.trim hw, htrim]
      exact ⟨rfl, List.forall_mem_cons.2 ⟨hpart.bar_not_mem hbar hw, hbars⟩⟩
  have hparts : parts ≠ [] := by
    rintro rfl
    exact hmap hread.1.symm
  rw [cellsBetween, pieces_barred hparts hread.2, List.drop_one, List.tail_cons,
    List.dropLast_concat, hread.1, hofList]

end Console

namespace Report

theorem cellsOf_of_tells {surface : Surface} {rover : Rover} {position : String}
    (h : rover.Tells surface position) (j : Nat) :
    cellsOf (position, j) = toString j :: rover.places := by
  rw [cellsOf, h.words.1, List.map_map]
  simp [Function.comp_def]

theorem row_of_tells {positions : List String} {j : Nat} {surface : Surface} {rover : Rover}
    {position : String} (hj : positions[j]? = some position)
    (h : rover.Tells surface position) :
    (grid positions).rows[j]? = some (toString j :: rover.places) := by
  rw [grid, List.getElem?_map, List.getElem?_zipIdx, hj, ← cellsOf_of_tells h]
  simp

theorem exists_line_of_tells {positions : List String} {rows : List (List Char)}
    (hrows : List.Forall₂ (Table.ShowsRow Table.bodyBar) (grid positions).rows rows) {j : Nat}
    {surface : Surface} {rover : Rover} {position : String}
    (hj : positions[j]? = some position) (h : rover.Tells surface position) :
    ∃ line, rows[j]? = some line ∧
      cellsBetween Table.bodyBar line = toString j :: rover.places := by
  obtain ⟨hin, hrow⟩ := List.getElem?_eq_some_iff.1 (row_of_tells hj h)
  have hin' : j < rows.length := hrows.length_eq ▸ hin
  have hline : Table.ShowsRow Table.bodyBar (toString j :: rover.places) rows[j] := by
    rw [← hrow]
    exact hrows.get hin hin'
  have hlabels : ∀ cell ∈ toString j :: rover.places, Label cell.toList :=
    List.forall_mem_cons.2 ⟨label_toString j, h.words.2⟩
  exact ⟨rows[j], List.getElem?_eq_getElem hin',
    Console.cellsBetween_of_showsRow (by decide) (List.cons_ne_nil _ _) hlabels hline⟩

theorem ofLabels_grid {positions : List String}
    (h : ∀ p ∈ positions, ∃ surface rover, Rover.Tells surface rover p) :
    (grid positions).OfLabels where
  ne_nil := by simp [grid, positionColumns]
  unruled := rfl
  justified := by simp [grid, positionColumns]
  title := by
    simp only [grid, positionColumns, List.forall_mem_cons]
    refine ⟨?_, ?_, ?_, ?_, by simp⟩
    all_goals decide
  full := by
    rintro row hrow
    obtain ⟨⟨p, j⟩, hp, rfl⟩ := List.mem_map.1 hrow
    obtain ⟨surface, rover, htells⟩ := h p (List.fst_mem_of_mem_zipIdx hp)
    rw [cellsOf_of_tells htells]
    rfl
  label := by
    rintro row hrow
    obtain ⟨⟨p, j⟩, hp, rfl⟩ := List.mem_map.1 hrow
    obtain ⟨surface, rover, htells⟩ := h p (List.fst_mem_of_mem_zipIdx hp)
    rw [cellsOf_of_tells htells]
    exact List.forall_mem_cons.2 ⟨label_toString j, htells.words.2⟩

theorem dropNewlines_append (before : List Char) {line : List Char} (hne : line ≠ [])
    (hline : '\n' ∉ line) (after : List Char) :
    dropNewlines (before ++ (line ++ after)) = before ++ (line ++ dropNewlines after) := by
  rcases List.eq_nil_or_concat line with rfl | ⟨start, c, rfl⟩
  · contradiction
  · have hc : (c == '\n') = false := by
      rw [beq_eq_false_iff_ne]
      rintro rfl
      exact hline (by simp)
    have hdrop (s : List Char) : (s ++ c :: (before ++ start).reverse).dropWhile (· == '\n') =
        s.dropWhile (· == '\n') ++ c :: (before ++ start).reverse := by
      rw [List.dropWhile_append]
      split
      · rename_i hempty
        rw [List.isEmpty_iff.1 hempty, List.dropWhile_cons_of_neg (by simp [hc]), List.nil_append]
      · rfl
    have hsplit : before ++ (start.concat c ++ after) = (before ++ start) ++ c :: after := by simp
    rw [hsplit, dropNewlines, List.reverse_append, List.reverse_cons, List.append_assoc,
      List.singleton_append, hdrop, dropNewlines]
    simp

theorem lines_flatMap {lines : List (List Char)} {last : List Char}
    (hlines : ∀ line ∈ lines, '\n' ∉ line) (hlast : '\n' ∉ last) :
    Text.lines (lines.flatMap (· ++ ['\n']) ++ last) = lines ++ [last] := by
  induction lines with
  | nil => exact Text.lines_of_no_feed hlast
  | cons line lines ih =>
    obtain ⟨hline, hrest⟩ := List.forall_mem_cons.1 hlines
    rw [List.flatMap_cons, List.append_assoc, List.append_assoc, List.singleton_append,
      Text.lines_cons_joined hline, ih hrest, List.cons_append]

theorem lines_append_of_ended {before : List Char} (hbefore : Ended before) (s : List Char) :
    Text.lines (before ++ s) = (Text.lines before).dropLast ++ Text.lines s := by
  rcases List.eq_nil_or_concat before with rfl | ⟨start, c, rfl⟩
  · rfl
  · obtain rfl : c = '\n' := hbefore c (by simp)
    have hempty : Text.lines [] = [[]] := rfl
    rw [List.concat_eq_append, List.append_assoc, List.singleton_append, Text.lines_append_feed,
      Text.lines_append_feed, hempty, List.dropLast_concat]

/-- Lines with ended text before them are lines of the text, whatever line feeds are dropped at its
end. -/
theorem exists_lines_dropNewlines {before : List Char} (hbefore : Ended before)
    (lines : List (List Char)) {last : List Char} (hne : last ≠ [])
    (hlines : ∀ line ∈ lines ++ [last], '\n' ∉ line) (after : List Char) :
    ∃ back, (after = [] → back = []) ∧
      Text.lines (dropNewlines (before ++ ((lines ++ [last]).flatMap (· ++ ['\n']) ++ after))) =
        (Text.lines before).dropLast ++ (lines ++ [last] ++ back) := by
  obtain ⟨hrows, hlast⟩ := List.forall_mem_append.1 hlines
  have hlast : '\n' ∉ last := hlast last (List.mem_singleton_self last)
  have hend : (lines ++ [last]).flatMap (· ++ ['\n']) ++ after =
      lines.flatMap (· ++ ['\n']) ++ (last ++ '\n' :: after) := by simp
  rw [hend, ← List.append_assoc, dropNewlines_append _ hne hlast, List.append_assoc,
    lines_append_of_ended hbefore]
  obtain ⟨feeds, hafter, -⟩ := exists_dropNewlines ('\n' :: after)
  cases hkept : dropNewlines ('\n' :: after) with
  | nil =>
    refine ⟨[], fun _ => rfl, ?_⟩
    rw [List.append_nil, List.append_nil, lines_flatMap hrows hlast]
  | cons c kept =>
    rw [hkept, List.cons_append] at hafter
    obtain ⟨rfl, -⟩ := List.cons.inj hafter
    refine ⟨Text.lines kept, ?_, ?_⟩
    · rintro rfl
      contradiction
    · rw [← List.append_assoc, Text.lines_append_feed, lines_flatMap hrows hlast]

/-- What is shown of a run if no details are asked for: the report, or what was completed. -/
def shown (s : Screen) (r : Report) : Rendering :=
  if r.ok then r.render s false else r.renderPartial s

theorem exists_before {r : Report} (hop : r.op = "run") {s : Screen} (hne : r.positions ≠ [])
    {table : List Char} (htable : positionTable s r.positions = .ok table) :
    ∃ before, Ended before ∧ r.shown s = .ok (dropNewlines (before ++ table)) := by
  have hsome : r.positions.isEmpty = false := by simpa using hne
  unfold shown
  cases hok : r.ok with
  | true =>
    refine ⟨statusLine s okLabel r ++ keyLine s "rovers" (.int r.positions.length),
      (ended_print s _).append (ended_print s _), ?_⟩
    rw [if_pos rfl, render_of_run hok hop, renderRun, hsome, htable]
    simp [bind, Except.bind, pure, Except.pure, Functor.map, Except.map]
  | false =>
    refine ⟨statusLine s (Styled.ofString Console.Theme.warning "PARTIAL") r, ended_print s _, ?_⟩
    rw [if_neg Bool.false_ne_true, renderPartial, hsome, htable]
    rfl

theorem exists_renderPartial {r : Report} (h : r.OnRun) (s : Screen) :
    ∃ out, r.renderPartial s = .ok out := by
  obtain ⟨table, htable⟩ := exists_positionTable h.positions s
  rw [renderPartial, htable]
  cases r.positions.isEmpty <;> exact ⟨_, rfl⟩

theorem exists_lines_shown {r : Report} (h : r.OnRun) (hne : r.positions ≠ [])
    (hlabels : (grid r.positions).OfLabels) {s : Screen} (hplain : s.device.terminal = false)
    (hwidth : ((grid r.positions).width : Int) ≤ s.width) :
    ∃ out front head rule rows bottom, r.shown s = .ok out ∧
      Text.lines out = front ++ head :: rule :: (rows ++ [bottom]) ∧
      Table.ShowsRow Table.headBar (positionColumns.map Console.Column.title) head ∧
      List.Forall₂ (Table.ShowsRow Table.bodyBar) (grid r.positions).rows rows := by
  obtain ⟨top, head, rule, rows, bottom, hprint, hhead, hrows, hbottom, hlines⟩ :=
    hlabels.printTable hplain hwidth
  have htable : positionTable s r.positions =
      .ok ((top :: head :: rule :: (rows ++ [bottom])).flatMap (· ++ ['\n'])) := by
    rw [positionTable_eq h.positions, printTable, hprint]
    rfl
  obtain ⟨before, hbefore, hshown⟩ := exists_before h.op hne htable
  obtain ⟨back, hback, hshownLines⟩ :=
    exists_lines_dropNewlines hbefore (top :: head :: rule :: rows) hbottom hlines []
  rw [List.append_nil] at hshownLines
  refine ⟨_, (Text.lines before).dropLast ++ [top], head, rule, rows, bottom, hshown, ?_, hhead,
    hrows⟩
  rw [hback rfl, List.append_nil] at hshownLines
  exact hshownLines.trans (List.append_assoc _ [top] _).symm

end Report

namespace Service

variable {machine : Machine}

open Report (grid)
open Telemetry (Tracer)

/-- Each rover that finished has a line of its own in the table, in the order of the input: the
cells of the line are its number, x, y and heading, and the last three are its position.  Nothing
keeps the table from being shown. -/
theorem table_of_run {config : RunnerConfig} {source : String} {text : List Char} {t : Tracer}
    {r : Report} (h : (run config source text machine t).1 = .ok r) :
    (∀ s : Screen, r.positions ≠ [] → s.device.terminal = false →
      ((grid r.positions).width : Int) ≤ s.width →
      ∃ out front head rule rows bottom, r.shown s = .ok out ∧
        Text.lines out = front ++ head :: rule :: (rows ++ [bottom]) ∧
        cellsBetween Table.headBar head = ["Rover", "X", "Y", "Heading"] ∧
        rows.length = r.positions.length ∧
        ∀ (j : Nat) position, r.positions[j]? = some position → ∃ line, rows[j]? = some line ∧
          " ".intercalate ((cellsBetween Table.bodyBar line).drop 1) = position ∧
          ∃ surface is i placed rover, Instructions.read text = .ok (surface, is) ∧
            is[j]? = some i ∧ Rover.place j i.placement surface = .ok placed ∧
            placed.guide surface i.commands = (rover, none) ∧
            cellsBetween Table.bodyBar line = toString j :: rover.places) ∧
    ∀ s, (∃ out, r.render s false = .ok out) ∧ ∃ out, r.renderPartial s = .ok out := by
  have hrun : r.OnRun := onRun_of_run h
  obtain ⟨o, ho, htells, -⟩ := exists_outcome_of_run h
  have hpositions : r.positions = o.positions := Report.positions_of_tells htells
  constructor
  · intro s hne hplain hwidth
    have hlabels : (grid r.positions).OfLabels := by
      apply Report.ofLabels_grid
      rw [hpositions]
      exact fun p hp => Instructions.exists_tells_of_run ho hp
    obtain ⟨out, front, head, rule, rows, bottom, hshown, hlines, hhead, hrows⟩ :=
      Report.exists_lines_shown hrun hne hlabels hplain hwidth
    have hlength : rows.length = r.positions.length := by
      rw [← hrows.length_eq]
      simp [grid]
    refine ⟨out, front, head, rule, rows, bottom, hshown, hlines, ?_, hlength, ?_⟩
    · have htitles : ∀ title ∈ Report.positionColumns.map Console.Column.title,
          Label title.toList := List.forall_mem_map.2 hlabels.title
      exact Console.cellsBetween_of_showsRow (by decide) (List.cons_ne_nil _ _) htitles hhead
    · intro j position hj
      obtain ⟨surface, is, i, placed, rover, hread, hi, hplaced, hguided, hrover⟩ :=
        Instructions.exists_rover_of_run ho (hpositions ▸ hj)
      obtain ⟨line, hline, hcells⟩ := Report.exists_line_of_tells hrows hj hrover
      refine ⟨line, hline, ?_, surface, is, i, placed, rover, hread, hi, hplaced, hguided, hcells⟩
      rw [hcells, List.drop_one, List.tail_cons, hrover.eq_intercalate]
  · intro s
    exact ⟨(Report.exists_render_iff hrun s false).2 nofun, Report.exists_renderPartial hrun s⟩

/-- The second of two rovers, on a console of forty columns. -/
theorem table_of_run_of_two :
    ∃ r out line, (run {} defaultSource "12 12\n1 2 N\nLMLMLMLMM\n11 3 E\nM".toList {}
        { clock := .every 0 }).1 = .ok r ∧
      r.positions = ["1 3 N", "12 3 E"] ∧ r.shown ⟨40, { terminal := false }, true⟩ = .ok out ∧
      line ∈ Text.lines out ∧
      " ".intercalate ((cellsBetween Table.bodyBar line).drop 1) = "12 3 E" := by
  have ho : Instructions.run {} "12 12\n1 2 N\nLMLMLMLMM\n11 3 E\nM".toList =
      .ok ⟨["1 3 N", "12 3 E"], none⟩ := by decide +kernel
  obtain ⟨r, hr, htells⟩ := exists_report ho nofun defaultSource { clock := .every 0 }
  have hpositions : r.positions = ["1 3 N", "12 3 E"] := Report.positions_of_tells htells
  have hwidth : ((grid r.positions).width : Int) ≤ 40 := by
    rw [hpositions]
    decide +kernel
  obtain ⟨out, front, head, rule, rows, bottom, hshown, hlines, -, -, hrows⟩ :=
    (table_of_run hr).1 ⟨40, { terminal := false }, true⟩ (by simp [hpositions]) rfl hwidth
  obtain ⟨line, hline, hjoined, -⟩ := hrows 1 "12 3 E" (by rw [hpositions]; rfl)
  refine ⟨r, out, line, hr, hpositions, hshown, ?_, hjoined⟩
  have hmem := List.mem_of_getElem? hline
  rw [hlines]
  simp [hmem]

end Service

end Plateau
