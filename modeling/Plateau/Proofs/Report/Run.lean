import Plateau.Proofs.Console.Grid
import Plateau.Proofs.Diagnosis
import Plateau.Proofs.Report.Format
import Plateau.Proofs.Service
import Plateau.Proofs.Trail

namespace Plateau

open Console (Device Tagless ClosesNothing Literal Label)
open Report (IsPosition Neat detailLine)
open Text (Token cells)

theorem label_toString (n : Nat) : Label (toString n).toList := by
  have hdigit {c : Char} (hc : c ∈ (toString n).toList) : 48 ≤ c.toNat ∧ c.toNat ≤ 57 :=
    (Numeral.isDigit_iff c).1 (Numeral.isDigit_of_mem_toString hc)
  refine ⟨?_, ?_, Report.bracket_not_mem_toString n, ?_⟩
  · rw [Numeral.toList_toString]
    exact Nat.toDigits_ne_nil
  · intro c hc
    have hbounds := hdigit hc
    omega
  · intro hmem
    exact absurd (hdigit hmem) (by decide)

namespace Rover

variable {surface : Surface} {r : Rover} {position : String}

def places (r : Rover) : List String :=
  [toString r.point.x, toString r.point.y, String.singleton r.heading.letter]

theorem Tells.eq_text (h : r.Tells surface position) : position = r.text := by
  obtain ⟨x, hx, hrest⟩ := bind_eq_ok_iff.1 h.written
  obtain ⟨y, hy, hposition⟩ := bind_eq_ok_iff.1 hrest
  obtain ⟨-, rfl⟩ := Numeral.write_eq_ok_iff.1 hx
  obtain ⟨-, rfl⟩ := Numeral.write_eq_ok_iff.1 hy
  exact (Except.ok.inj hposition).symm

theorem Tells.eq_intercalate (h : r.Tells surface position) :
    position = " ".intercalate r.places := by
  rw [h.eq_text, ← String.toList_inj, String.toList_intercalate]
  simp [text, places, toString, List.intercalate]

theorem Tells.words (h : r.Tells surface position) :
    Text.words position.toList = r.places.map String.toList ∧
      ∀ cell ∈ r.places, Label cell.toList := by
  obtain ⟨hx, -, hy, -⟩ : Surface.lower ≤ r.point.x ∧ r.point.x ≤ surface.upperX ∧
      Surface.lower ≤ r.point.y ∧ r.point.y ≤ surface.upperY := h.inside
  have hnatural {n : Int} (hn : Surface.lower ≤ n) : Label (toString n).toList := by
    obtain ⟨m, rfl⟩ := Int.eq_ofNat_of_zero_le hn
    exact label_toString m
  have hletter : Label (String.singleton r.heading.letter).toList := by
    cases r.heading <;> decide
  have hall : ∀ cell ∈ r.places, Label cell.toList := by
    simp only [places, List.forall_mem_cons]
    exact ⟨hnatural hx, hnatural hy, hletter, by simp⟩
  refine ⟨?_, hall⟩
  rw [h.eq_intercalate, String.toList_intercalate]
  exact Text.words_intercalate (List.forall_mem_map.2 fun cell hcell => (hall cell hcell).token)

theorem Tells.isPosition (h : r.Tells surface position) : IsPosition position := by
  obtain ⟨hwords, hlabels⟩ := h.words
  have hplain : ∀ w ∈ r.places.map String.toList, '[' ∉ w :=
    List.forall_mem_map.2 fun cell hcell => (hlabels cell hcell).no_bracket
  exact ⟨_, _, _, hwords, hplain⟩

end Rover

theorem Instructions.isPosition_of_run {text : List Char} {o : Outcome} (h : run {} text = .ok o) :
    ∀ p ∈ o.positions, IsPosition p := by
  intro p hp
  obtain ⟨surface, t, htells⟩ := exists_tells_of_run h hp
  exact htells.isPosition

theorem neat_of_last {kv : String × Value} {c : Char} (hlast : kv.2.plain.getLast? = some c)
    (hc : Text.isBlank c = false) : Neat kv := by
  right
  apply Text.trimEnd_eq_self
  intro d hd
  have hne : kv.2.plain ≠ [] := by
    intro hnil
    rw [hnil] at hlast
    contradiction
  rw [detailLine, List.getLast?_append_of_ne_nil _ hne, hlast] at hd
  obtain rfl := Option.some.inj hd
  exact hc

theorem neat_of_short {kv : String × Value} (h : kv.1.length + kv.2.plain.length ≤ 14) :
    Neat kv := by
  left
  rw [Report.detailLine_eq]
  simp only [List.length_cons, List.length_append, String.length_toList]
  omega

theorem neat_text {key s : String} (hs : s.toList ≠ [])
    (hlast : ∀ c ∈ s.toList.getLast?, Text.isBlank c = false) : Neat (key, .text s) := by
  obtain ⟨c, hc⟩ := Option.isSome_iff_exists.1 (List.getLast?_isSome.2 hs)
  exact neat_of_last hc (hlast c hc)

theorem neat_token {key : String} {w : List Char} (hw : Token w) :
    Neat (key, .text (String.ofList w)) := by
  apply neat_text
  · rw [String.toList_ofList]
    exact hw.1
  · rw [String.toList_ofList]
    intro c hc
    exact hw.2 c (List.mem_of_getLast? hc)

theorem neat_int {key : String} {n : Int} : Neat (key, .int n) := by
  obtain ⟨m, front, hm⟩ : ∃ (m : Nat) (front : List Char),
      (toString n).toList = front ++ (toString m).toList := by
    cases n with
    | ofNat m => exact ⟨m, [], rfl⟩
    | negSucc m => exact ⟨m + 1, ['-'], by simp [toString, Int.repr]⟩
  have hne : (toString m).toList ≠ [] := by
    rw [Numeral.toList_toString]
    exact Nat.toDigits_ne_nil
  obtain ⟨c, hc⟩ := Option.isSome_iff_exists.1 (List.getLast?_isSome.2 hne)
  have hlast : (toString n).toList.getLast? = some c := by
    rw [hm, List.getLast?_append_of_ne_nil _ hne, hc]
  have hdigit := Numeral.isDigit_of_mem_toString (List.mem_of_getLast? hc)
  exact neat_of_last hlast (Numeral.not_blank_of_isDigit hdigit)

theorem neat_trim {key : String} (hkey : key.length ≤ 14) (line : List Char) :
    Neat (key, .text (String.ofList (Text.trim line))) := by
  by_cases hnil : Text.trim line = []
  · apply neat_of_short
    rw [hnil]
    exact hkey
  · apply neat_text
    · rwa [String.toList_ofList]
    · rw [String.toList_ofList]
      exact (Text.bare_trim line).2

theorem neat_axis (a : Axis) : Neat ("coordinate", .text a.name) := by
  cases a <;> exact neat_of_short (by decide)

theorem neat_movement (c : Char) : Neat ("movement", .text (String.singleton c)) := by
  have hkey : "movement".length = 8 := rfl
  apply neat_of_short
  simp [Value.plain, hkey]

def RunError.Neat (e : RunError) : Prop := ∀ kv ∈ e.detail, Report.Neat kv

theorem neat_pair {a b : String × Value} (ha : Neat a) (hb : Neat b) :
    ∀ kv ∈ [a, b], Neat kv :=
  List.forall_mem_cons.2 ⟨ha, List.forall_mem_singleton.2 hb⟩

theorem neat_triple {a b c : String × Value} (ha : Neat a) (hb : Neat b) (hc : Neat c) :
    ∀ kv ∈ [a, b, c], Neat kv :=
  List.forall_mem_cons.2 ⟨ha, neat_pair hb hc⟩

theorem neat_of_unnamed {line : List Char} {e : RunError} (h : Surface.Unnamed line e) :
    e.Neat := by
  cases h with
  | dimensions hw hn => exact neat_pair neat_int (neat_trim (by decide) _)
  | xParse hw hx => exact neat_pair (neat_axis _) (neat_token (hw.token (by simp)))
  | yParse hw hx hy => exact neat_pair (neat_axis _) (neat_token (hw.token (by simp)))
  | xBound hw hx hy hm => exact neat_triple (neat_axis _) neat_int neat_int
  | yBound hw hx hy hm hn => exact neat_triple (neat_axis _) neat_int neat_int

theorem neat_of_misplaced {id : Int} {line : List Char} {surface : Surface} {e : RunError}
    (h : Rover.Misplaced id line surface e) : e.Neat := by
  cases h with
  | length hw hn => exact neat_triple neat_int (neat_trim (by decide) _) neat_int
  | xParse hw hx => exact neat_triple neat_int (neat_axis _) (neat_token (hw.token (by simp)))
  | yParse hw hx hy => exact neat_triple neat_int (neat_axis _) (neat_token (hw.token (by simp)))
  | direction hw hx hy ht => exact neat_pair neat_int (neat_token (hw.token (by simp)))
  | outside hp hout => exact neat_triple neat_int neat_int neat_int

theorem neat_of_breaks {surface : Surface} {id : Int} {route : Route} {e : RunError}
    (h : route.Breaks surface id e) : e.Neat := by
  cases h with
  | movement hclear hc hno => exact neat_pair neat_int (neat_movement _)
  | outside hclear hc hcommand hout => exact neat_triple neat_int neat_int neat_int

theorem neat_of_diagnosis {text : List Char} {e : RunError} (h : Diagnosis text e) : e.Neat := by
  cases h with
  | unreadable h =>
    cases h with
    | tooFewLines hl hn => exact List.forall_mem_singleton.2 neat_int
    | evenLineCount hl hn heven => exact List.forall_mem_singleton.2 neat_int
    | surface hl hn hodd h => exact neat_of_unnamed h
  | rover hl hs hbefore h =>
    cases h with
    | misplaced h => exact neat_of_misplaced h
    | broken hplaced hin htrim h => exact neat_of_breaks h

theorem Report.positions_of_tells {r : Report} {o : Outcome} (h : r.Tells o) :
    r.positions = o.positions := by
  have hfield : (Value.record r.data).field "positions" .null =
      .list (o.positions.map .text) := by
    rw [h.data]
    rfl
  rw [positions, hfield, Value.toItems, List.map_map]
  have hplain : Value.plainText ∘ Value.text = id := by
    funext s
    simp [Value.plainText, Value.plain]
  rw [hplain, List.map_id]

theorem Report.onRun_of_tells {r : Report} {text : List Char} {o : Outcome}
    (ho : Instructions.run {} text = .ok o) (h : r.Tells o) (htimed : r.Timed) : r.OnRun := by
  obtain ⟨positions, error⟩ := o
  refine ⟨h.op, ?_, ?_, htimed, ?_, ?_⟩
  · intro hfailed
    rw [h.ok] at hfailed
    cases error with
    | none => contradiction
    | some e =>
      obtain ⟨message, -, herror⟩ := h.error e rfl
      exact ⟨_, herror⟩
  · intro hok
    rw [h.ok] at hok
    cases error with
    | none => rw [details, h.no_error rfl]
    | some e => contradiction
  · rw [positions_of_tells h]
    exact Instructions.isPosition_of_run ho
  · cases error with
    | none =>
      rw [details, h.no_error rfl]
      simp
    | some e =>
      obtain ⟨message, -, herror⟩ := h.error e rfl
      rw [details, herror]
      exact neat_of_diagnosis (Instructions.exists_run_error_iff.1 ⟨positions, ho⟩)

namespace Service

variable {machine : Machine}

open Telemetry (Tracer)

theorem exists_outcome_of_report {config : RunnerConfig} {source : String} {text : List Char}
    {t : Tracer} {r : Report} (h : (run config source text machine t).1 = .ok r) :
    ∃ o, Instructions.run config text machine = .ok o ∧ r.Tells o ∧ r.Timed := by
  cases ho : Instructions.run config text machine with
  | error f =>
    obtain ⟨g, hg, -⟩ := (runBody_yields_of_error ho source).exists_call t
    have hr := h.symm.trans hg
    contradiction
  | ok o =>
    obtain ⟨g, hg, hattach⟩ := (runBody_yields ho source).exists_call t
    have hr : (answer o).map g = .ok r := hg.symm.trans h
    refine ⟨o, rfl, ?_⟩
    obtain ⟨b, hanswer, rfl⟩ := map_eq_ok_iff.1 hr
    obtain ⟨htells, hremarks⟩ := tells_of_answer hanswer
    rcases hattach with rfl | ⟨tree, rfl⟩
    · exact ⟨htells, .inl hremarks⟩
    · have htree : (b.withTelemetry tree).remarks = some [(Report.telemetryKey, tree)] := by
        rw [Report.withTelemetry, hremarks]
        rfl
      exact ⟨⟨htells.ok, htells.op, htells.data, htells.no_error, htells.error⟩,
        .inr ⟨tree, htree⟩⟩

theorem exists_outcome_of_run {config : RunnerConfig} {source : String} {text : List Char}
    {t : Tracer} {r : Report} (h : (run config source text machine t).1 = .ok r) :
    ∃ o, Instructions.run {} text = .ok o ∧ r.Tells o ∧ r.Timed := by
  obtain ⟨o, ho, hreport⟩ := exists_outcome_of_report h
  exact ⟨o, Instructions.run_of_run_config ho, hreport⟩

theorem onRun_of_run {config : RunnerConfig} {source : String} {text : List Char} {t : Tracer}
    {r : Report} (h : (run config source text machine t).1 = .ok r) : r.OnRun := by
  obtain ⟨o, ho, htells, htimed⟩ := exists_outcome_of_run h
  exact Report.onRun_of_tells ho htells htimed

theorem exists_report_of_direction {text : List Char} {token : String}
    (ho : Instructions.run {} text = .ok ⟨[], some (.robotDirectionParse 0 token)⟩) (t : Tracer) :
    ∃ r, (run {} defaultSource text {} t).1 = .ok r ∧
      r.details = [("rover_id", .int 0), ("direction", .text token)] := by
  have hprintable : (RunError.robotDirectionParse 0 token).Printable := by
    intro n hn
    obtain rfl : n = 0 := by simpa [RunError.numbers, RunError.detail] using hn
    exact Numeral.lt_tooLong (by decide)
  obtain ⟨r, hr, htells⟩ := exists_report ho (by simpa using hprintable) defaultSource t
  obtain ⟨message, -, herror⟩ := htells.error _ rfl
  exact ⟨r, hr, by rw [Report.details, herror]; rfl⟩

/-- The report of a run can be written, unless the circumstances of its failure are asked for and
there is a tag among them.  If the first tag of one of them would close a style, it never can.  One
that means itself as markup is shown as it is. -/
theorem format_run_unless_markup {config : RunnerConfig} {source : String} {text : List Char}
    {t : Tracer} {r : Report} (h : (run config source text machine t).1 = .ok r) (device : Device)
    {settings : OutputSettings} (hwidth : ∀ n ∈ settings.width, 20 ≤ n) :
    ((Report.Elaborate settings → ∀ kv ∈ r.details, Tagless (detailLine kv)) →
      ∃ out, r.format device settings = .ok out) ∧
    (Report.Elaborate settings → (∃ kv ∈ r.details, ClosesNothing (detailLine kv)) →
      ¬∃ out, r.format device settings = .ok out) ∧
    (Report.Elaborate settings → ∀ out, r.format device settings = .ok out →
      ∀ kv ∈ r.details, Text.Shown (detailLine kv) →
        (cells (detailLine kv) : Int) ≤
          (Report.screen device settings.color settings.width).width →
        Literal (detailLine kv) → detailLine kv ∈ Text.lines out) := by
  have hrun : r.OnRun := onRun_of_run h
  rw [Report.exists_format_iff hrun device settings]
  refine ⟨?_, ?_, ?_⟩
  · intro htagless helaborate kv hkv
    exact Report.legible_of_tagless (htagless helaborate kv hkv)
  · rintro helaborate ⟨kv, hkv, hcloses⟩ hall
    exact Report.not_legible_of_closesNothing hcloses (hall helaborate kv hkv)
  · intro helaborate out hout kv hkv hshown hfit hliteral
    exact Report.mem_lines_format hrun helaborate hwidth hout hkv hshown hfit hliteral

/-- A heading that is none is shown as it is. -/
theorem format_run_unless_markup_of_one :
    ∃ r out, (run {} defaultSource "1 1\n0 0 Q\nM".toList {}
        { enabled := true, clock := .every 7 }).1 = .ok r ∧
      (∀ n ∈ some (20 : Int), 20 ≤ n) ∧
      r.format { terminal := false } { verbose := true, width := some 20 } = .ok out ∧
      "    direction: Q".toList ∈ Text.lines out := by
  have ho : Instructions.run {} "1 1\n0 0 Q\nM".toList =
      .ok ⟨[], some (.robotDirectionParse 0 "Q")⟩ := by decide +kernel
  obtain ⟨r, hr, hdetails⟩ :=
    exists_report_of_direction ho { enabled := true, clock := .every 7 }
  let settings : OutputSettings := { verbose := true, width := some 20 }
  have hwidth : ∀ n ∈ settings.width, 20 ≤ n := by simp [settings]
  obtain ⟨htagless, -, hshown⟩ := format_run_unless_markup hr { terminal := false } hwidth
  have hplain : ∀ kv ∈ r.details, Tagless (detailLine kv) := by
    rw [hdetails]
    simp only [List.forall_mem_cons]
    refine ⟨?_, ?_, by simp⟩
    · exact Console.tagless_of_bracket_not_mem (by decide)
    · exact Console.tagless_of_bracket_not_mem (by decide)
  obtain ⟨out, hout⟩ := htagless fun _ => hplain
  have hmem : ("direction", Value.text "Q") ∈ r.details := by
    rw [hdetails]
    simp
  have hline : detailLine ("direction", .text "Q") = "    direction: Q".toList := by decide
  have hin := hshown ⟨rfl, rfl, rfl⟩ out hout _ hmem
  rw [hline] at hin
  refine ⟨r, out, hr, hwidth, hout, hin ?_ ?_ ?_⟩
  · exact Text.Ascii.shown (by decide)
  · decide +kernel
  · refine ⟨Console.tagless_of_bracket_not_mem (by decide), by decide, ?_⟩
    -- A name between colons needs two of them.
    intro name _ hin
    have hcount := hin.sublist.count_le ':'
    have htwo : 2 ≤ (':' :: (name ++ [':'])).count ':' := by simp
    have hone : "    direction: Q".toList.count ':' = 1 := by decide
    omega

/-- On a heading that would close a style the report is lost. -/
theorem format_run_fails_on_closing_tag :
    ∃ r, (run {} defaultSource "5 5\n1 2 [/a]\nM".toList {} { clock := .every 0 }).1 = .ok r ∧
      ∀ device, ¬∃ out, r.format device { verbose := true, width := some 120 } = .ok out := by
  have ho : Instructions.run {} "5 5\n1 2 [/a]\nM".toList =
      .ok ⟨[], some (.robotDirectionParse 0 "[/a]")⟩ := by decide +kernel
  obtain ⟨r, hr, hdetails⟩ := exists_report_of_direction ho { clock := .every 0 }
  refine ⟨r, hr, fun device => ?_⟩
  rw [Report.exists_format_iff (onRun_of_run hr)]
  intro hall
  have hmem : ("direction", Value.text "[/a]") ∈ r.details := by
    rw [hdetails]
    simp
  have hcloses : ClosesNothing (detailLine ("direction", .text "[/a]")) :=
    ⟨"    direction: ".toList, ['a'], [], by decide,
      Console.tagless_of_bracket_not_mem (by decide), by decide, by decide, by decide⟩
  exact Report.not_legible_of_closesNothing hcloses (hall ⟨rfl, rfl, rfl⟩ _ hmem)

end Service

end Plateau
