import Plateau.Proofs.Report.Positions
import Plateau.Proofs.Report.Spans

namespace Plateau

open Console (Screen Styled blanks)
open Console.Screen (Ended ended_nil ended_print)
open Text (Ascii cells shown_append)
open Telemetry (Shape Tree)

namespace Report

variable {s : Screen}

theorem ended_of_markupLine {key : String} {value : Value} {text : List Char}
    (h : markupLine s key value = .ok text) : Ended text := by
  obtain ⟨u, -, rfl⟩ := Screen.exists_of_printMarkup (mapError_eq_ok_iff.1 h)
  exact ended_print s u

theorem ended_of_markupLines {fs : Fields} {text : List Char} (h : markupLines s fs = .ok text) :
    Ended text := by
  induction fs generalizing text with
  | nil =>
    obtain rfl := Except.ok.inj h
    exact ended_nil
  | cons kv fs ih =>
    obtain ⟨line, hline, h⟩ := bind_eq_ok_iff.1 h
    obtain ⟨rest, hrest, h⟩ := bind_eq_ok_iff.1 h
    obtain rfl := Except.ok.inj h
    exact (ended_of_markupLine hline).append (ih hrest)

theorem ended_of_renderDetail {fs : Fields} {text : List Char} (h : renderDetail s fs = .ok text) :
    Ended text := by
  cases fs with
  | nil =>
    obtain rfl := Except.ok.inj h
    exact ended_nil
  | cons kv fs =>
    obtain ⟨lines, hlines, h⟩ := bind_eq_ok_iff.1 h
    obtain rfl := Except.ok.inj h
    exact (ended_print s _).append (ended_of_markupLines hlines)

theorem ended_of_printTable {t : Console.Table} {text : List Char}
    (h : printTable s t = .ok text) : Ended text := by
  rw [printTable, mapError_eq_ok_iff, Screen.printTable] at h
  split at h
  · obtain rfl := Except.ok.inj h
    exact ended_nil
  · obtain ⟨lines, -, h⟩ := bind_eq_ok_iff.1 h
    obtain rfl := Except.ok.inj h
    exact Screen.ended_write s _

theorem ended_of_positionTable {positions : List String} {text : List Char}
    (h : positionTable s positions = .ok text) : Ended text := by
  obtain ⟨rows, -, h⟩ := bind_eq_ok_iff.1 h
  exact ended_of_printTable h

theorem ended_timingTree (tree : Value) : Ended (timingTree s tree) := by
  rw [timingTree]
  induction spanLines 4 tree with
  | nil => exact ended_nil
  | cons t ts ih => exact (ended_print s t).append ih

def remarkLine (s : Screen) (kv : String × Value) : Rendering :=
  if kv.1 == telemetryKey then .ok (timingTree s kv.2) else markupLine s kv.1 kv.2

theorem ended_of_remarkLine {kv : String × Value} {text : List Char}
    (h : remarkLine s kv = .ok text) : Ended text := by
  unfold remarkLine at h
  split at h
  · obtain rfl := Except.ok.inj h
    exact ended_timingTree _
  · exact ended_of_markupLine h

theorem remarkLines_cons_eq_ok_iff {kv : String × Value} {fs : Fields} {text : List Char} :
    remarkLines s (kv :: fs) = .ok text ↔
      ∃ line rest, remarkLine s kv = .ok line ∧ remarkLines s fs = .ok rest ∧
        line ++ rest = text := by
  have hcons : remarkLines s (kv :: fs) =
      remarkLine s kv >>= fun line => remarkLines s fs >>= fun rest => .ok (line ++ rest) := by
    rw [remarkLines]
    unfold remarkLine
    split <;> rfl
  simp only [hcons, bind_eq_ok_iff, Except.ok.injEq, ← exists_and_left]

theorem ended_of_remarkLines {fs : Fields} {text : List Char} (h : remarkLines s fs = .ok text) :
    Ended text := by
  induction fs generalizing text with
  | nil =>
    obtain rfl := Except.ok.inj h
    exact ended_nil
  | cons kv fs ih =>
    obtain ⟨line, rest, hline, hrest, rfl⟩ := remarkLines_cons_eq_ok_iff.1 h
    exact (ended_of_remarkLine hline).append (ih hrest)

theorem remarkLines_append_eq_ok_iff {fs gs : Fields} {text : List Char} :
    remarkLines s (fs ++ gs) = .ok text ↔
      ∃ front rest, remarkLines s fs = .ok front ∧ remarkLines s gs = .ok rest ∧
        front ++ rest = text := by
  induction fs generalizing text with
  | nil => simp [remarkLines]
  | cons kv fs ih =>
    rw [List.cons_append, remarkLines_cons_eq_ok_iff]
    simp only [remarkLines_cons_eq_ok_iff, ih]
    constructor
    · rintro ⟨line, -, hline, ⟨front, rest, hfront, hrest, rfl⟩, rfl⟩
      exact ⟨line ++ front, rest, ⟨line, front, hline, hfront, rfl⟩, hrest,
        List.append_assoc _ _ _⟩
    · rintro ⟨-, rest, ⟨line, front, hline, hfront, rfl⟩, hrest, rfl⟩
      exact ⟨line, front ++ rest, hline, ⟨front, rest, hfront, hrest, rfl⟩,
        (List.append_assoc _ _ _).symm⟩

def runTable (s : Screen) (r : Report) : Rendering :=
  if r.positions.isEmpty then .ok [] else positionTable s r.positions

theorem ended_of_runTable {r : Report} {text : List Char} (h : runTable s r = .ok text) :
    Ended text := by
  unfold runTable at h
  split at h
  · obtain rfl := Except.ok.inj h
    exact ended_nil
  · exact ended_of_positionTable h

theorem renderRun_verbose (s : Screen) (r : Report) :
    renderRun s true r = do
      let table ← runTable s r
      return statusLine s okLabel r ++ keyLine s "rovers" (.int r.positions.length) ++ table ++
        (← renderRemarks s r) := by
  unfold renderRun runTable
  cases r.positions.isEmpty <;> rfl

/-- What is shown of a report before its remarks. -/
structure Foreword (s : Screen) (r : Report) (shown : Rendering) : Prop where
  ended : ∀ text, shown = .ok text → Ended text
  render_iff : ∀ remarks out, { r with remarks }.render s true = .ok out ↔
    ∃ front text, shown = .ok front ∧ renderRemarks s { r with remarks } = .ok text ∧
      dropNewlines (front ++ text) = out

theorem foreword_of_parts {r : Report} {head : List Char} (hhead : Ended head) {part : Rendering}
    (hpart : ∀ text, part = .ok text → Ended text)
    (h : ∀ remarks, { r with remarks }.render s true = dropNewlines <$> do
      let text ← part
      return head ++ text ++ (← renderRemarks s { r with remarks })) :
    Foreword s r ((head ++ ·) <$> part) where
  ended text htext := by
    obtain ⟨t, ht, rfl⟩ := map_eq_ok_iff.1 htext
    exact hhead.append (hpart t ht)
  render_iff remarks out := by
    rw [h remarks]
    simp only [map_eq_ok_iff, bind_eq_ok_iff, pure, Except.pure, Except.ok.injEq]
    constructor
    · rintro ⟨-, ⟨text, htext, remarks, hremarks, rfl⟩, rfl⟩
      exact ⟨_, remarks, ⟨text, htext, rfl⟩, hremarks, rfl⟩
    · rintro ⟨-, remarks, ⟨text, htext, rfl⟩, hremarks, rfl⟩
      exact ⟨_, ⟨text, htext, remarks, hremarks, rfl⟩, rfl⟩

theorem foreword_of_run {r : Report} (hok : r.ok = true) (hop : r.op = "run") (s : Screen) :
    Foreword s r ((statusLine s okLabel r ++ keyLine s "rovers" (.int r.positions.length) ++ ·) <$>
      runTable s r) := by
  refine foreword_of_parts ((ended_print s _).append (ended_print s _))
    (fun _ => ended_of_runTable) fun remarks => ?_
  rw [render_of_run (r := { r with remarks }) hok hop, renderRun_verbose]
  rfl

theorem foreword_of_demo {r : Report} (hok : r.ok = true) (hop : r.op = "demo") (s : Screen) :
    Foreword s r ((statusLine s okLabel r ++ ·) <$>
      printTable s { columns := scenarioColumns true, rows := r.scenarios.map (scenarioRow true),
                     ruled := true }) := by
  refine foreword_of_parts (ended_print s _) (fun _ => ended_of_printTable) fun remarks => ?_
  rw [render, hok, hop]
  rfl

theorem foreword_of_other {r : Report} (hok : r.ok = true) (hrun : r.op ≠ "run")
    (hdemo : r.op ≠ "demo") (s : Screen) : Foreword s r (.error (.unknownOperation r.op)) where
  ended := by simp
  render_iff remarks out := by
    simp [render, hok, hrun, hdemo]

def failureLine (s : Screen) (r : Report) : List Char :=
  s.print (Styled.join []
    [Styled.ofString Console.Theme.error "ERROR", Styled.ofString Console.Theme.op s!"  {r.op}",
      plainText " — ", plainText (failureMessage r)])

theorem renderError_verbose (s : Screen) {r : Report} {f : Failure} (hf : r.error = some f) :
    renderError s true r = do
      let detail ← renderDetail s f.detail
      return failureLine s r ++ keyLine s "code" (.text f.code) ++ detail ++
        (← renderRemarks s r) := by
  unfold renderError failureLine
  simp only [hf]

theorem foreword_of_failed {r : Report} (hok : r.ok = false) {f : Failure} (hf : r.error = some f)
    (s : Screen) :
    Foreword s r ((failureLine s r ++ keyLine s "code" (.text f.code) ++ ·) <$>
      renderDetail s f.detail) := by
  have hhead : Ended (failureLine s r ++ keyLine s "code" (.text f.code)) :=
    (ended_print s _).append (ended_print s _)
  refine foreword_of_parts hhead (fun _ => ended_of_renderDetail) fun remarks => ?_
  have hline : failureLine s { r with remarks } = failureLine s r := rfl
  rw [render_of_failed (r := { r with remarks }) hok,
    renderError_verbose (r := { r with remarks }) s hf, hline]

/-- A report shows its remarks last, unless it failed and tells no failure. -/
theorem exists_foreword {r : Report} (htold : r.ok = false → r.error.isSome) (s : Screen) :
    ∃ shown, Foreword s r shown := by
  rcases Bool.eq_false_or_eq_true r.ok with hok | hok
  · by_cases hrun : r.op = "run"
    · exact ⟨_, foreword_of_run hok hrun s⟩
    by_cases hdemo : r.op = "demo"
    · exact ⟨_, foreword_of_demo hok hdemo s⟩
    exact ⟨_, foreword_of_other hok hrun hdemo s⟩
  · obtain ⟨f, hf⟩ := Option.isSome_iff_exists.1 (htold hok)
    exact ⟨_, foreword_of_failed hok hf s⟩

def remarksHeading : List Char := "  meta:".toList

theorem feed_not_mem_remarksHeading : '\n' ∉ remarksHeading := by decide

theorem print_remarksHeading (hplain : s.device.terminal = false) (hwidth : 12 ≤ s.width) :
    s.print (Styled.ofString Console.Style.dim "  meta:") = remarksHeading ++ ['\n'] := by
  have hchars : (Styled.ofString Console.Style.dim "  meta:").chars = remarksHeading := by decide
  have hascii : Ascii remarksHeading := by decide
  have hcells : cells remarksHeading = remarksHeading.length := hascii.cells
  have hlength : remarksHeading.length = 7 := rfl
  generalize Styled.ofString Console.Style.dim "  meta:" = t at hchars
  obtain ⟨line, hline, hrest⟩ := Screen.exists_print_of_fits hplain (t := t)
    (hchars ▸ hascii.shown) (by omega) (by rw [hchars]; omega)
  have hnone : Styled.excess s.width.toNat remarksHeading = 0 := by
    rw [Styled.excess]
    omega
  rw [hchars, hnone, List.replicate_zero, List.append_nil] at hrest
  rw [hline, hrest]

theorem printBlank_eq (hwidth : 1 ≤ s.width) : s.printBlank = ['\n'] := by
  have hfit : cells (Console.Line.chars []) ≤ s.width.toNat := Nat.zero_le _
  rw [Screen.printBlank, Screen.write, if_neg (by omega), List.flatMap_singleton,
    Screen.cropLine, if_pos hfit]
  rfl

theorem renderRemarks_eq_ok_iff {r : Report} {fs : Fields} (hremarks : r.remarks = some fs)
    (hne : fs ≠ []) {text : List Char} :
    renderRemarks s r = .ok text ↔ ∃ lines, remarkLines s fs = .ok lines ∧
      s.printBlank ++ s.print (Styled.ofString Console.Style.dim "  meta:") ++ lines = text := by
  unfold renderRemarks
  rw [hremarks, Option.getD_some]
  cases fs with
  | nil => contradiction
  | cons kv fs => simp only [bind_eq_ok_iff, pure, Except.pure, Except.ok.injEq]

theorem exists_renderRemarks_iff {r : Report} {fs : Fields} (hremarks : r.remarks = some fs) :
    (∃ text, renderRemarks s r = .ok text) ↔ ∃ lines, remarkLines s fs = .ok lines := by
  by_cases hempty : fs = []
  · subst hempty
    unfold renderRemarks
    rw [hremarks]
    exact ⟨fun _ => ⟨[], rfl⟩, fun _ => ⟨[], rfl⟩⟩
  · simp only [renderRemarks_eq_ok_iff hremarks hempty]
    constructor
    · rintro ⟨text, lines, hlines, -⟩
      exact ⟨lines, hlines⟩
    · rintro ⟨lines, hlines⟩
      exact ⟨_, lines, hlines, rfl⟩

theorem Foreword.exists_render_iff {r : Report} {shown : Rendering} (h : Foreword s r shown)
    (fs : Fields) :
    (∃ out, { r with remarks := some fs }.render s true = .ok out) ↔
      (∃ front, shown = .ok front) ∧ ∃ lines, remarkLines s fs = .ok lines := by
  rw [← exists_renderRemarks_iff (s := s) (r := { r with remarks := some fs }) rfl]
  simp only [h.render_iff]
  constructor
  · rintro ⟨out, front, text, hfront, htext, -⟩
    exact ⟨⟨front, hfront⟩, text, htext⟩
  · rintro ⟨⟨front, hfront⟩, text, htext⟩
    exact ⟨_, front, text, hfront, htext, rfl⟩

/-- A timing tree is always shown. -/
theorem exists_remarkLines_telemetry_iff {before after : Fields} {tree : Value} :
    (∃ lines, remarkLines s (before ++ (telemetryKey, tree) :: after) = .ok lines) ↔
      ∃ lines, remarkLines s (before ++ after) = .ok lines := by
  have htree : remarkLine s (telemetryKey, tree) = .ok (timingTree s tree) := rfl
  simp only [remarkLines_append_eq_ok_iff, remarkLines_cons_eq_ok_iff, htree]
  constructor
  · rintro ⟨-, front, -, hfront, ⟨line, rest, -, hrest, rfl⟩, rfl⟩
    exact ⟨_, front, rest, hfront, hrest, rfl⟩
  · rintro ⟨-, front, rest, hfront, hrest, rfl⟩
    exact ⟨_, front, _, hfront, ⟨_, rest, rfl, hrest, rfl⟩, rfl⟩

/-- The level of a span as its line tells it, by the place of the unit after the duration. -/
def levelOf (line : List Char) : Nat := line.idxOf 'm' / 4 - 3

/-- The lines after the last heading of remarks. -/
def rowsIn (text : List Char) : List (List Char) :=
  ((Text.lines text).reverse.takeWhile fun line => line != remarksHeading).reverse

/-- The shape of the tree that a text shows after the heading of its remarks. -/
def shapeIn (text : List Char) : Option Shape :=
  (Shape.ofLevels ((rowsIn text).map levelOf)).head?.map Prod.snd

theorem rowsIn_eq {text : List Char} {front rows : List (List Char)}
    (hlines : Text.lines text = front ++ remarksHeading :: rows)
    (hrows : ∀ line ∈ rows, line ≠ remarksHeading) : rowsIn text = rows := by
  have hreverse : (front ++ remarksHeading :: rows).reverse =
      rows.reverse ++ remarksHeading :: front.reverse := by simp
  have hall : ∀ line ∈ rows.reverse, (line != remarksHeading) = true := fun line hline =>
    bne_iff_ne.2 (hrows line (List.mem_reverse.1 hline))
  rw [rowsIn, hlines, hreverse, List.takeWhile_append_of_pos hall,
    List.takeWhile_cons_of_neg (by simp), List.append_nil, List.reverse_reverse]

/-- The lines of spans tell their levels, and none of them can be taken for the heading. -/
theorem levels_of_rows {width : Nat} {ps : List (Nat × Telemetry.Span)}
    (hlegible : ∀ p ∈ ps, p.2.Legible) {rows : List (List Char)}
    (h : List.Forall₂ (fun p line => Telemetry.Span.ShownAt width p.1 p.2 line) ps rows) :
    rows.map levelOf = ps.map Prod.fst ∧
      ∀ line ∈ rows, '\n' ∉ line ∧ line ≠ [] ∧ line ≠ remarksHeading := by
  induction h with
  | nil => simp
  | @cons p line ps rows hline _ ih =>
    obtain ⟨hp, hps⟩ := List.forall_mem_cons.1 hlegible
    obtain ⟨hlevels, hrest⟩ := ih hps
    have hindex := hline.idxOf_eq hp
    have hlevel : levelOf line = p.1 := by
      rw [levelOf, hindex]
      omega
    refine ⟨by rw [List.map_cons, List.map_cons, hlevel, hlevels],
      List.forall_mem_cons.2 ⟨⟨?_, ?_, ?_⟩, hrest⟩⟩
    · intro hmem
      have hshown := hp.shown_row p.1
      rw [hline.row, shown_append] at hshown
      exact absurd (Text.le_toNat_of_isPrintable (hshown.1 _ hmem)) (by decide)
    · rintro rfl
      simp at hindex
    · rintro rfl
      have hheading : remarksHeading.idxOf 'm' = 2 := by decide
      omega

theorem rows_eq_of_length_le {width : Nat} {ps : List (Nat × Telemetry.Span)}
    (hfit : ∀ p ∈ ps, (p.2.row p.1).length ≤ width) {rows : List (List Char)}
    (h : List.Forall₂ (fun p line => Telemetry.Span.ShownAt width p.1 p.2 line) ps rows) :
    rows = ps.map fun p => p.2.row p.1 := by
  induction h with
  | nil => rfl
  | @cons p line ps rows hline _ ih =>
    obtain ⟨hp, hps⟩ := List.forall_mem_cons.1 hfit
    have hnone : Styled.excess width (p.2.row p.1) = 0 := by
      rw [Styled.excess]
      omega
    rw [List.map_cons, ← ih hps, hline.row, hnone, blanks, List.replicate_zero, List.append_nil]

def textTo (head mid : List Char) : List Char :=
  head ++ '\n' :: (remarksHeading ++ '\n' :: mid)

theorem ended_textTo (head : List Char) {mid : List Char} (hmid : Ended mid) :
    Ended (textTo head mid) := by
  have hended := (Screen.ended_concat (head ++ '\n' :: remarksHeading)).append hmid
  have hassoc : textTo head mid = head ++ '\n' :: remarksHeading ++ ['\n'] ++ mid := by
    simp [textTo]
  rwa [hassoc]

theorem lines_textTo (head mid : List Char) :
    (Text.lines (textTo head mid)).dropLast =
      Text.lines head ++ remarksHeading :: (Text.lines mid).dropLast := by
  have hne : Text.lines mid ≠ [] := Text.pieces_ne_nil _ mid
  rw [textTo, Text.lines_append_feed, Text.lines_cons_joined feed_not_mem_remarksHeading,
    List.dropLast_append_of_ne_nil (List.cons_ne_nil _ _), List.dropLast_cons_of_ne_nil hne]

theorem Foreword.exists_parts (hplain : s.device.terminal = false) (hwidth : 12 ≤ s.width)
    {r : Report} {shown : Rendering} (h : Foreword s r shown) {before after : Fields} {tree : Value}
    (hremarks : r.remarks = some (before ++ (telemetryKey, tree) :: after)) {out : List Char}
    (hout : r.render s true = .ok out) :
    ∃ head mid rest, remarkLines s before = .ok mid ∧ remarkLines s after = .ok rest ∧
      dropNewlines (textTo head mid ++ (timingTree s tree ++ rest)) = out := by
  obtain ⟨head, text, -, htext, rfl⟩ := (h.render_iff r.remarks out).1 hout
  obtain ⟨lines, hlines, rfl⟩ := (renderRemarks_eq_ok_iff hremarks (by simp)).1 htext
  obtain ⟨mid, later, hmid, hlater, rfl⟩ := remarkLines_append_eq_ok_iff.1 hlines
  obtain ⟨line, rest, hline, hrest, rfl⟩ := remarkLines_cons_eq_ok_iff.1 hlater
  obtain rfl : timingTree s tree = line := Except.ok.inj hline
  refine ⟨head, mid, rest, hmid, hrest, ?_⟩
  rw [printBlank_eq (by omega), print_remarksHeading hplain hwidth]
  simp [textTo]

theorem exists_lines_of_render (hplain : s.device.terminal = false) {r : Report} {shown : Rendering}
    (hforeword : Foreword s r shown) {before after : Fields} {tree : Tree}
    (hremarks : r.remarks = some (before ++ (telemetryKey, tree.toValue) :: after))
    (hlegible : ∀ span ∈ tree.spans, span.Legible)
    (hwide : ∀ p ∈ tree.levels 0, (cells (p.2.row p.1) : Int) ≤ s.width) {out : List Char}
    (hout : r.render s true = .ok out) :
    ∃ front mid rows back,
      Text.lines out = front ++ remarksHeading :: (mid ++ (rows ++ back)) ∧
      List.Forall₂ (fun p line => Telemetry.Span.ShownAt s.width.toNat p.1 p.2 line)
        (tree.levels 0) rows ∧ (before = [] → mid = []) ∧ (after = [] → back = []) := by
  have hlevels : ∀ p ∈ tree.levels 0, p.2.Legible := fun p hp =>
    hlegible p.2 (Tree.mem_spans_of_mem_levels hp)
  obtain ⟨p, ps, hroot⟩ : ∃ p ps, tree.levels 0 = p :: ps := by
    cases tree
    exact ⟨_, _, rfl⟩
  have hmem : p ∈ tree.levels 0 := hroot ▸ List.mem_cons_self
  have hwidth : 12 ≤ s.width := by
    have hfit := hwide p hmem
    have hleast := (hlevels p hmem).twelve_le_cells p.1
    omega
  obtain ⟨rows, htree, hall⟩ := exists_timingTree hplain hlegible hwide
  have hrows := (levels_of_rows hlevels hall).2
  obtain ⟨head, mid, rest, hmid, hrest, rfl⟩ := hforeword.exists_parts hplain hwidth hremarks hout
  -- The last line is told apart: the line feeds that are dropped come after it.
  rcases List.eq_nil_or_concat rows with rfl | ⟨start, last, rfl⟩
  · rw [hroot] at hall
    contradiction
  rw [List.concat_eq_append] at htree hall hrows
  obtain ⟨back, hback, hlines⟩ :=
    exists_lines_dropNewlines (ended_textTo head (ended_of_remarkLines hmid)) start
      (hrows last (by simp)).2.1 (fun line hline => (hrows line hline).1) rest
  refine ⟨Text.lines head, (Text.lines mid).dropLast, start ++ [last], back, ?_, hall, ?_, ?_⟩
  · rw [htree, hlines, lines_textTo, List.append_assoc, List.cons_append]
  · rintro rfl
    obtain rfl := Except.ok.inj hmid
    rfl
  · rintro rfl
    exact hback (Except.ok.inj hrest).symm

def timedRun (tree : Tree) : Report :=
  { ok := true, op := "run", remarks := some [(telemetryKey, tree.toValue)] }

theorem exists_render_timedRun (tree : Tree) (s : Screen) :
    ∃ out, (timedRun tree).render s true = .ok out := by
  have hforeword := foreword_of_run (r := timedRun tree) rfl rfl s
  have hlines : ∃ lines, remarkLines s ([] ++ (telemetryKey, tree.toValue) :: []) = .ok lines :=
    exists_remarkLines_telemetry_iff.2 ⟨[], rfl⟩
  have htable : runTable s (timedRun tree) = .ok [] := rfl
  exact (hforeword.exists_render_iff _).2 ⟨⟨_, map_eq_ok_iff.2 ⟨[], htable, rfl⟩⟩, hlines⟩

/-- After the heading of the remarks every span of the timing tree has a line of its own, its level
told by how far it stands in.  The tree does not keep the report from being shown, and where it is
the only remark its shape can be told from the text. -/
theorem timing_of_render (hplain : s.device.terminal = false) {r : Report}
    (htold : r.ok = false → r.error.isSome) {before after : Fields} {tree : Tree}
    (hremarks : r.remarks = some (before ++ (telemetryKey, tree.toValue) :: after))
    (hlegible : ∀ span ∈ tree.spans, span.Legible)
    (hwide : ∀ p ∈ tree.levels 0, (cells (p.2.row p.1) : Int) ≤ s.width) :
    (tree.levels 0).map Prod.snd = tree.spans ∧
    ((∃ out, r.render s true = .ok out) ↔
      ∃ out, { r with remarks := some (before ++ after) }.render s true = .ok out) ∧
    ∀ out, r.render s true = .ok out → ∃ front mid rows back,
      Text.lines out = front ++ remarksHeading :: (mid ++ (rows ++ back)) ∧
      List.Forall₂ (fun p line => Telemetry.Span.ShownAt s.width.toNat p.1 p.2 line)
        (tree.levels 0) rows ∧
      Shape.ofLevels (rows.map levelOf) = [(0, tree.shape)] ∧
      (before = [] → mid = []) ∧ (after = [] → back = []) ∧
      (before = [] → after = [] → shapeIn out = some tree.shape) := by
  obtain ⟨shown, hforeword⟩ := exists_foreword htold s
  refine ⟨Tree.map_snd_levels 0 tree, ?_, fun out hout => ?_⟩
  · have hwhole := hforeword.exists_render_iff
      (before ++ (telemetryKey, tree.toValue) :: after)
    rw [← hremarks, exists_remarkLines_telemetry_iff] at hwhole
    rw [hforeword.exists_render_iff]
    exact hwhole
  · obtain ⟨front, mid, rows, back, hlines, hall, hmid, hback⟩ :=
      exists_lines_of_render hplain hforeword hremarks hlegible hwide hout
    obtain ⟨hlevel, hrows⟩ := levels_of_rows
      (fun p hp => hlegible p.2 (Tree.mem_spans_of_mem_levels hp)) hall
    have hshape : Shape.ofLevels (rows.map levelOf) = [(0, tree.shape)] := by
      rw [hlevel, Tree.ofLevels_levels]
    refine ⟨front, mid, rows, back, hlines, hall, hshape, hmid, hback, fun hbefore hafter => ?_⟩
    rw [hmid hbefore, hback hafter, List.nil_append, List.append_nil] at hlines
    rw [shapeIn, rowsIn_eq hlines fun line hline => (hrows line hline).2.2, hshape]
    rfl

def twoRovers : Tree :=
  .node { name := "RunnerService.run", parent := none, start := 0.5, finish := some 1.7345 }
    [.node { name := "rover.0", parent := some 0, start := 0.5, finish := some 0.75 }
      [.node { name := "step", parent := some 1, start := 0.5 } []],
      .node
        { name := "[bold]rover.1[/a]", parent := some 0, start := 0.75,
          annotations := [("commands", .int 2), ("at", .list [.int 1, .int 2])] } []]

theorem timing_of_render_of_two :
    ∃ out, (timedRun twoRovers).render ⟨80, { terminal := false }, true⟩ true = .ok out ∧
      rowsIn out = ["     1234.50ms  RunnerService.run".toList,
        "          250.00ms  rover.0".toList,
        "                0.00ms  step".toList,
        "            0.00ms  [bold]rover.1[/a]  (commands=2, at=[1, 2])".toList] ∧
      shapeIn out = some (.node [.node [.node []], .node []]) := by
  have hlegible : ∀ span ∈ twoRovers.spans, span.Legible := by decide +kernel
  have hwide : ∀ p ∈ twoRovers.levels 0, (cells (p.2.row p.1) : Int) ≤ 80 := by decide +kernel
  have hfit : ∀ p ∈ twoRovers.levels 0, (p.2.row p.1).length ≤ 80 := by decide +kernel
  have hremarks : (timedRun twoRovers).remarks =
      some ([] ++ (telemetryKey, twoRovers.toValue) :: []) := rfl
  obtain ⟨out, hout⟩ := exists_render_timedRun twoRovers ⟨80, { terminal := false }, true⟩
  obtain ⟨-, -, htext⟩ := timing_of_render (s := ⟨80, { terminal := false }, true⟩)
    (r := timedRun twoRovers) rfl nofun hremarks hlegible hwide
  obtain ⟨front, mid, rows, back, hlines, hrows, -, hmid, hback, hshape⟩ := htext out hout
  refine ⟨out, hout, ?_, hshape rfl rfl⟩
  obtain rfl := rows_eq_of_length_le hfit hrows
  rw [hmid rfl, hback rfl, List.nil_append, List.append_nil] at hlines
  rw [rowsIn_eq hlines (by decide +kernel)]
  decide +kernel

/-- A name of four columns and a blank: the mark above its last letter takes no column. -/
def marked : Telemetry.Span :=
  { name := "cafe\u0301 ", parent := none, start := 0.0 }

/-- The blank at the end of such a name is missing on a console that is wide enough. -/
theorem timing_lacks_blank_of_marked :
    marked.Legible ∧ cells (marked.row 0) = 21 ∧
      ∃ out front line,
        (timedRun (.node marked [])).render ⟨21, { terminal := false }, true⟩ true = .ok out ∧
        Text.lines out = front ++ [remarksHeading, line] ∧
        line = "        0.00ms  cafe\u0301".toList ∧ ¬marked.name.toList <:+: line := by
  have hlegible : marked.Legible := by decide +kernel
  have hcells : cells (marked.row 0) = 21 := by decide +kernel
  have hrow : marked.row 0 = "        0.00ms  cafe\u0301".toList ++ [' '] := by decide +kernel
  have hexcess : Styled.excess 21 (marked.row 0) = 1 := by decide +kernel
  have hspans : ∀ span ∈ (Telemetry.Tree.node marked []).spans, span.Legible := by
    simpa [Tree.spans, Tree.spansBelow] using hlegible
  have hlevels : (Telemetry.Tree.node marked []).levels 0 = [(0, marked)] := rfl
  have hremarks : (timedRun (.node marked [])).remarks =
      some ([] ++ (telemetryKey, (Telemetry.Tree.node marked []).toValue) :: []) := rfl
  obtain ⟨out, hout⟩ := exists_render_timedRun (.node marked []) ⟨21, { terminal := false }, true⟩
  obtain ⟨front, mid, rows, back, hlines, hrows, hmid, hback⟩ :=
    exists_lines_of_render rfl (foreword_of_run rfl rfl ⟨21, { terminal := false }, true⟩) hremarks
      hspans (by simp [hlevels, hcells]) hout
  rw [hmid rfl, hback rfl, List.nil_append, List.append_nil] at hlines
  rw [hlevels] at hrows
  obtain ⟨line, rest, hline, hrest, rfl⟩ := List.forall₂_cons_left_iff.1 hrows
  obtain rfl := List.forall₂_nil_left_iff.1 hrest
  have hkept : line = "        0.00ms  cafe\u0301".toList := by
    have hsplit : marked.row 0 = line ++ blanks (Styled.excess 21 (marked.row 0)) := hline.row
    rw [hexcess, hrow] at hsplit
    exact (List.append_cancel_right hsplit).symm
  refine ⟨hlegible, hcells, out, front, line, hout, hlines, hkept, ?_⟩
  rw [hkept]
  decide +kernel

end Report

end Plateau
