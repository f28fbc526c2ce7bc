import Plateau.Proofs.OutcomeJson
import Plateau.Proofs.Report.Run
import Plateau.Proofs.Telemetry.Conduct
import Plateau.Proofs.Text.Frame

namespace Plateau

open Log (Record)
open Telemetry (Traced Tracer)

theorem Rover.Tells.ne_nil {surface : Surface} {r : Rover} {position : String}
    (h : r.Tells surface position) : position.toList ≠ [] := by
  obtain ⟨x, y, -, -, hspelled⟩ := h.spelled
  simp [hspelled]

namespace Outcome

variable {text : List Char} {o : Outcome} (ho : Instructions.run {} text = .ok o)

theorem toList_output (o : Outcome) :
    o.output.toList = Text.joined (o.positions.map String.toList) := by
  rw [output, String.toList_intercalate]
  rfl

include ho

theorem feedless_positions : Text.Feedless (o.positions.map String.toList) := by
  intro l hl
  obtain ⟨position, hposition, rfl⟩ := List.mem_map.1 hl
  obtain ⟨surface, t, htells⟩ := Instructions.exists_tells_of_run ho hposition
  exact htells.one_line

theorem toList_output_eq_nil_iff : o.output.toList = [] ↔ o.positions = [] := by
  rw [toList_output]
  constructor
  · intro hnil
    by_contra hne
    obtain ⟨position, rest, hcons⟩ := List.exists_cons_of_ne_nil hne
    have hmem : position ∈ o.positions := by rw [hcons]; exact List.mem_cons_self
    obtain ⟨surface, t, htells⟩ := Instructions.exists_tells_of_run ho hmem
    rw [hcons, List.map_cons] at hnil
    cases rest with
    | nil => exact htells.ne_nil (by simpa [Text.joined, List.intercalate] using hnil)
    | cons other rest =>
      rw [Text.joined_cons (by simp)] at hnil
      simp at hnil
  · intro hnil
    rw [hnil]
    rfl

theorem lines_output (hne : o.positions ≠ []) :
    (Text.lines o.output.toList).map String.ofList = o.positions := by
  have hlines : o.positions.map String.toList ≠ [] := by simpa using hne
  rw [toList_output, Text.lines_joined hlines (feedless_positions ho), List.map_map]
  simp

end Outcome

/-- All of an outcome can be told from its report. -/
structure Report.Images (r : Report) (o : Outcome) : Prop where
  ok : r.ok = o.ok
  ok_iff : r.ok = true ↔ r.error = none
  positions : Fields.get? "positions" r.data = some (.list (o.positions.map .text))
  rovers : Fields.get? "rovers" r.data = some (.int o.positions.length)
  output : ∃ out : String, Fields.get? "output" r.data = some (.text out) ∧
    (out = "" ↔ o.positions = []) ∧
    (out ≠ "" → (Text.lines out.toList).map String.ofList = o.positions)
  error : ∀ e ∈ o.error, ∃ f, r.error = some f ∧ e.message = .ok f.message ∧
    RunError.ofValue (.record ((RunError.tag, .text f.code) :: f.detail)) = .valid e

/-- No two outcomes have one report. -/
theorem Report.Images.unique {r : Report} {o o' : Outcome} (h : r.Images o) (h' : r.Images o') :
    o' = o := by
  have hpositions : o'.positions = o.positions := by
    have hsame := h'.positions.symm.trans h.positions
    simp only [Option.some.injEq, Value.list.injEq] at hsame
    exact List.map_injective_iff.2 (fun _ _ => Value.text.inj) hsame
  have hok : o'.ok = o.ok := h'.ok.symm.trans h.ok
  have herror : o'.error = o.error := by
    cases he : o.error with
    | none => simpa [Outcome.ok, he] using hok
    | some e =>
      have hsome : o'.error.isSome = true := by simpa [Outcome.ok, he] using hok
      obtain ⟨e', he'⟩ := Option.isSome_iff_exists.1 hsome
      obtain ⟨f, hf, -, hvalid⟩ := h.error e he
      obtain ⟨f', hf', -, hvalid'⟩ := h'.error e' he'
      obtain rfl := Option.some.inj (hf.symm.trans hf')
      obtain rfl := Check.valid.inj (hvalid.symm.trans hvalid')
      exact he'
  exact Outcome.ext hpositions herror

theorem Report.images_of_tells {r : Report} {text : List Char} {o : Outcome}
    (ho : Instructions.run {} text = .ok o) (h : r.Tells o) : r.Images o where
  ok := h.ok
  ok_iff := by
    rw [h.ok, Outcome.ok]
    cases he : o.error with
    | none => simpa using h.no_error he
    | some e =>
      obtain ⟨message, -, herror⟩ := h.error e he
      simp [herror]
  positions := by
    rw [h.data]
    rfl
  rovers := by
    rw [h.data]
    rfl
  output := by
    have hempty : o.output = "" ↔ o.positions = [] := by
      rw [← Outcome.toList_output_eq_nil_iff ho, String.toList_eq_nil_iff]
    refine ⟨o.output, ?_, hempty, fun hne => Outcome.lines_output ho (mt hempty.2 hne)⟩
    rw [h.data]
    rfl
  error e he := by
    obtain ⟨message, hmessage, herror⟩ := h.error e he
    exact ⟨_, herror, hmessage, RunError.ofValue_toValue e⟩

namespace Service

variable {config : RunnerConfig} {machine : Machine} {text : List Char} {o : Outcome}

def beginning (config : RunnerConfig) (source : String) : Record :=
  { logger
    level := .debug
    event := s!"run.start source={source} parallel={boolText config.parallel}" }

def ending (source : String) (o : Outcome) : Record :=
  match o.error with
  | some e =>
    { logger
      level := .info
      event :=
        s!"run.failed source={source} kind={e.kind.name} completed={o.positions.length}" }
  | none =>
    { logger
      level := .debug
      event := s!"run.complete source={source} rovers={o.positions.length}" }

theorem log_runBody (ho : Instructions.run config text machine = .ok o) (source : String)
    (t : Tracer) : (runBody config source text machine t).2.log =
      t.log ++ [beginning config source, ending source o] := by
  have hrun := ho ▸ runText_yields config text
  have hbegun : (log .debug s!"run.start source={source} parallel={boolText config.parallel}" t).2 =
      t.logRecord (beginning config source) := rfl
  have hrest := silent_runText config text machine (t.logRecord (beginning config source))
  rw [runBody, Traced.bind_apply_of_ok (yields_log _ _ t), hbegun,
    Traced.bind_apply_of_ok (hrun _)]
  generalize (runText config text machine (t.logRecord (beginning config source))).2 = u at hrest
  have hended : (u.logRecord (ending source o)).log =
      t.log ++ [beginning config source, ending source o] := by
    rw [Tracer.logRecord, hrest, Tracer.logRecord, List.append_assoc]
    rfl
  cases he : o.error with
  | none =>
    dsimp only
    rw [Traced.bind_apply_of_ok (yields_log _ _ u)]
    rw [← hended, ending, he]
    rfl
  | some e =>
    dsimp only
    rw [Traced.bind_apply_of_ok (yields_log _ _ u)]
    rw [← hended, ending, he]
    cases e.message <;> rfl

theorem log_run (ho : Instructions.run config text machine = .ok o) (source : String) (t : Tracer) :
    ∃ completions, (run config source text machine t).2.log =
        t.log ++ beginning config source :: ending source o :: completions ∧
      ∀ m ∈ completions, ∃ tree good, m = Tracer.completion tree good := by
  obtain ⟨completions, hlog, hcompletion⟩ := Traced.log_call "RunnerService.run"
    (fun r : Report => r.ok) Report.withTelemetry (runBody config source text machine) t
  refine ⟨completions, ?_, hcompletion⟩
  let entered := (t.enterCall "RunnerService.run").2
  calc (run config source text machine t).2.log
      = (runBody config source text machine entered).2.log ++ completions := hlog
    _ = t.log ++ [beginning config source, ending source o] ++ completions := by
      rw [log_runBody ho, t.log_enterCall]
    _ = t.log ++ beginning config source :: ending source o :: completions := by simp

/-- The report of a run is a lossless image of its outcome, however the run is configured and
traced.  It is logged once that the run begins and once how it ends; what is logged besides tells
of a finished span. -/
theorem run_lossless {source : String} {t : Tracer} {r : Report}
    (h : (run config source text machine t).1 = .ok r) :
    ∃ o, Instructions.run config text machine = .ok o ∧ Instructions.run {} text = .ok o ∧
      r.Images o ∧ (∀ o', r.Images o' → o' = o) ∧
      ∃ completions, (run config source text machine t).2.log =
          t.log ++ beginning config source :: ending source o :: completions ∧
        ∀ m ∈ completions, m.logger = Tracer.logger ∧ m.event = "span.complete" := by
  obtain ⟨o, ho, htells, -⟩ := exists_outcome_of_report h
  have hplain := Instructions.run_of_run_config ho
  obtain ⟨completions, hlog, hcompletion⟩ := log_run ho source t
  have himages := Report.images_of_tells hplain htells
  refine ⟨o, ho, hplain, himages, fun _ => himages.unique, completions, hlog, fun m hm => ?_⟩
  obtain ⟨tree, good, rfl⟩ := hcompletion m hm
  exact ⟨rfl, rfl⟩

/-- The second of two rovers leaves the surface, with workers and tracing on. -/
theorem run_lossless_of_two :
    ∃ r, (run ⟨true, some 2⟩ "here" "1 1\n0 0 N\nM\n0 0 E\nMM".toList {}
        { enabled := true, clock := .every 7 }).1 = .ok r ∧
      r.Images ⟨["0 1 N"], some (.robotOutOfBounds 1 2 0)⟩ ∧
      ∃ completions, (run ⟨true, some 2⟩ "here" "1 1\n0 0 N\nM\n0 0 E\nMM".toList {}
          { enabled := true, clock := .every 7 }).2.log =
        { logger, level := .debug, event := "run.start source=here parallel=True" } ::
          { logger
            level := .info
            event := "run.failed source=here kind=RobotOutOfBounds completed=1" } ::
          completions := by
  have hrun : Instructions.run ⟨true, some 2⟩ "1 1\n0 0 N\nM\n0 0 E\nMM".toList =
      .ok ⟨["0 1 N"], some (.robotOutOfBounds 1 2 0)⟩ := by
    decide +kernel
  have hprintable : (RunError.robotOutOfBounds 1 2 0).Printable := by
    intro n hn
    have hn : n = 1 ∨ n = 2 ∨ n = 0 := by simpa [RunError.numbers, RunError.detail] using hn
    exact Numeral.lt_tooLong (by omega)
  obtain ⟨r, hr, -⟩ := exists_report hrun (by simpa using hprintable) "here"
    { enabled := true, clock := .every 7 }
  obtain ⟨o, ho, -, himages, -, completions, hlog, -⟩ := run_lossless hr
  obtain rfl := Except.ok.inj (hrun.symm.trans ho)
  exact ⟨r, hr, himages, completions, hlog⟩

end Service

end Plateau
