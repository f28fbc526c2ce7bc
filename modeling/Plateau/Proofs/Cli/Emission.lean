import Plateau.Proofs.Cli.Results
import Plateau.Proofs.Json.Plain
import Plateau.Proofs.Report.Outcome

namespace Plateau

open Console (Device)
open Numeral (Digits)

theorem Numeral.plain_digits {ds : List Char} (h : Digits ds) : Plain ds :=
  (Visible.of_digits fun c hc => (isDigit_iff c).2 (h.ascii c hc)).plain

theorem Rover.Tells.plain {surface : Surface} {r : Rover} {position : String}
    (h : r.Tells surface position) : Plain position.toList := by
  obtain ⟨x, y, hx, hy, hspelled⟩ := h.spelled
  have hletter : Plain [' ', r.heading.letter] := by cases r.heading <;> decide
  rw [hspelled, Plain.append_iff, Plain.cons_iff, Plain.append_iff]
  exact ⟨Numeral.plain_digits hx, by decide, Numeral.plain_digits hy, hletter⟩

theorem Outcome.plain_output {text : List Char} {o : Outcome}
    (ho : Instructions.run {} text = .ok o) : Plain o.output.toList := by
  rw [toList_output]
  apply Plain.intercalate
  intro l hl
  obtain ⟨position, hposition, rfl⟩ := List.mem_map.1 hl
  obtain ⟨surface, t, htells⟩ := Instructions.exists_tells_of_run ho hposition
  exact htells.plain

theorem Report.outputOf_of_tells {r : Report} {o : Outcome} (h : r.Tells o) :
    outputOf (.record r.data) = o.output.toList := by
  rw [h.data]
  rfl

namespace Cli

/-- The reply tells an outcome in bare positions: those of the rovers that finished as the output,
and the failure, if there is one, as the errors. -/
structure Reply.TellsBare (reply : Reply) (o : Outcome) : Prop where
  crash : reply.crash = none
  exitCode : reply.exitCode = if o.ok then 0 else 1
  output : reply.output = if o.positions = [] then [] else o.output.toList ++ ['\n']
  no_errors : o.error = none → reply.errors = []
  errors : ∀ e ∈ o.error, ∃ message, e.message = .ok message ∧
    reply.errors = Text.dropCodes s!"ERROR: run — {message}\n".toList

def documentOf (r : Report) : List Char := Json.Layout.pretty.value 0 r.toValue ++ ['\n']

/-- The reply tells an outcome in a document, which is the output if all went well and the errors
otherwise. -/
structure Reply.TellsDocument (reply : Reply) (o : Outcome) : Prop where
  crash : reply.crash = none
  exitCode : reply.exitCode = if o.ok then 0 else 1
  document : ∃ r : Report, r.Tells o ∧ r.remarks = none ∧
    if o.ok then reply.output = documentOf r ∧ reply.errors = []
    else reply.output = [] ∧ reply.errors = documentOf r

theorem line_of_plain {s : List Char} (h : Plain s) : line s = s ++ ['\n'] :=
  Plain.dropCodes_eq_self (Plain.append_iff.2 ⟨h, by decide⟩)

variable {text : List Char} {o : Outcome} {r : Report}

theorem tellsBare_quietReply (ho : Instructions.run {} text = .ok o) (h : r.Tells o) :
    (quietReply r).TellsBare o := by
  have houtput := Report.outputOf_of_tells h
  have hline := line_of_plain (Outcome.plain_output ho)
  cases he : o.error with
  | none =>
    have hok : o.ok = true := by rw [Outcome.ok, he]; rfl
    have hquiet : r.renderQuiet = o.output.toList := by
      rw [Report.renderQuiet, h.ok.trans hok, h.op, houtput]
      rfl
    have hreply : quietReply r = { output := o.output.toList ++ ['\n'] } := by
      rw [quietReply, h.ok.trans hok, hquiet, hline]
      rfl
    rw [hreply]
    refine ⟨rfl, (if_pos hok).symm, ?_, fun _ => rfl, ?_⟩
    · rw [if_neg (Instructions.positions_ne_nil ho hok)]
    · intro e hmem
      rw [he] at hmem
      contradiction
  | some e =>
    have hok : o.ok = false := by rw [Outcome.ok, he]; rfl
    obtain ⟨message, hmessage, herror⟩ := h.error e he
    have hquiet : r.renderQuiet = s!"ERROR: run — {message}".toList := by
      rw [Report.renderQuiet, h.ok.trans hok, Report.failureMessage, herror, h.op]
      rfl
    have hreply : quietReply r =
        { output := if o.output.toList.isEmpty then [] else o.output.toList ++ ['\n']
          errors := line s!"ERROR: run — {message}".toList
          exitCode := 1 } := by
      rw [quietReply, h.ok.trans hok, hquiet, houtput, hline]
      rfl
    rw [hreply]
    refine ⟨rfl, ?_, ?_, ?_, ?_⟩
    · rw [hok]
      rfl
    · simp only [List.isEmpty_iff, Outcome.toList_output_eq_nil_iff ho]
    · intro hnone
      rw [he] at hnone
      contradiction
    · intro e' hmem
      obtain rfl := Option.some.inj (he.symm.trans hmem)
      refine ⟨message, hmessage, ?_⟩
      have hfeed : s!"ERROR: run — {message}\n".toList =
          s!"ERROR: run — {message}".toList ++ ['\n'] := by
        simp [toString]
      rw [hfeed]
      rfl

theorem emitReport_document {settings : OutputSettings} (hjson : settings.json = true)
    (device : Device) (r : Report) :
    emitReport device settings r = .ok (if r.ok then { output := documentOf r }
      else { errors := documentOf r, exitCode := 1 }) := by
  have hline := line_of_plain (Json.plain_value Json.Layout.clean_pretty 0 r.toValue)
  cases hok : r.ok <;>
    simp [emitReport, Report.format, Report.formatPartial, documentOf, hjson, hok, hline, bind,
      Except.bind, pure, Except.pure]

variable {env : Surroundings} {front : List String} {uses : List (Use RootOption)} {s : Settings}

theorem answer_of_tells (h : r.Tells o) : ∃ r', Service.answer o = .ok r' := by
  cases he : o.error with
  | none => exact ⟨_, by rw [Service.answer, he]⟩
  | some e =>
    obtain ⟨message, hmessage, -⟩ := h.error e he
    rw [Service.answer_of_error he, hmessage]
    exact ⟨_, rfl⟩

theorem tellsDocument_emissionOf {settings : OutputSettings} (hjson : settings.json = true)
    (hanswer : Service.answer o = .ok r) (device : Device) :
    (replyOf (emissionOf device settings o)).TellsDocument o := by
  obtain ⟨htells, hremarks⟩ := Service.tells_of_answer hanswer
  have hreply : replyOf (emissionOf device settings o) = if r.ok then { output := documentOf r }
      else { errors := documentOf r, exitCode := 1 } := by
    rw [emissionOf, hanswer]
    change replyOf ((emitReport device settings r).mapError .render) = _
    rw [emitReport_document hjson]
    rfl
  rw [hreply, htells.ok]
  cases hok : o.ok with
  | true => exact ⟨rfl, by rw [hok]; rfl, r, htells, hremarks, by rw [hok]; exact ⟨rfl, rfl⟩⟩
  | false => exact ⟨rfl, by rw [hok]; rfl, r, htells, hremarks, by rw [hok]; exact ⟨rfl, rfl⟩⟩

/-- What a run writes on which the service reports, whatever else its settings are, if no details
are asked for. -/
theorem run_inline_emits (hfront : Uses front uses)
    (hself : firstOf RootOption.answersItself uses = none)
    (hload : Settings.load env.host (lastValue? .config uses) none (flagsOf uses) = .ok s)
    (hverbose : Switch.verbose.given uses = false) {text : String} {config : RunnerConfig}
    {source : String} {machine : Machine} {t : Telemetry.Tracer}
    (hreport : (Service.run config source (Text.spellNewlines text.toList) machine t).1 = .ok r) :
    ∃ o, Instructions.run {} (Text.spellNewlines text.toList) = .ok o ∧ r.Tells o ∧
      (Switch.quiet.given uses = true → Switch.json.given uses = false →
        (runInline env front text).TellsBare o) ∧
      (Switch.json.given uses = true → (runInline env front text).TellsDocument o) := by
  obtain ⟨o, ho, htells, -⟩ := Service.exists_outcome_of_run hreport
  obtain ⟨r', hanswer⟩ := answer_of_tells htells
  have hworkers := Settings.workers_of_load hload
  have hsilent : s.verbose = false := (value_of_load hload .verbose).trans hverbose
  have hreply : runInline env front text = replyOf (emission env s (inlineWork env s text)) :=
    (runInline_of_load hfront hself hload).trans
      (perform_of_silent hsilent (Service.proper_run hworkers _ _))
  refine ⟨o, ho, htells, ?_, ?_⟩
  · intro hquiet hjson
    rw [hreply, inlineWork, emission_run_quiet ((value_of_load hload .json).trans hjson)
      ((value_of_load hload .quiet).trans hquiet) hworkers ho, hanswer]
    exact tellsBare_quietReply ho (Service.tells_of_answer hanswer).1
  · intro hjson
    rw [runInline_of_load hfront hself hload, inlineWork,
      perform_run_of_silent hsilent hworkers ho]
    exact tellsDocument_emissionOf ((value_of_load hload .json).trans hjson) hanswer env.device

/-- A rover that comes to rest and one that leaves its surface, in both forms. -/
theorem run_inline_emits_of_two :
    let env : Surroundings := { host := {}, clock := .every 1, stamp := "" }
    let text := "5 5\\n1 2 N\\nLMLMLMLMM\\n3 3 E\\nMMMM"
    (runInline env ["-q"] text).output = "1 3 N\n".toList ∧
      (runInline env ["-q"] text).exitCode = 1 ∧
      (runInline env ["-q"] text).errors =
        "ERROR: run — robot ID 1 has moved out of bounds - X: 6 Y: 3\n".toList ∧
      (runInline env ["--json"] text).output = [] ∧
      ∃ r : Report, (runInline env ["--json"] text).errors = documentOf r ∧
        r.positions = ["1 3 N"] := by
  intro env text
  have ho : Instructions.run {} (Text.spellNewlines text.toList) =
      .ok ⟨["1 3 N"], some (.robotOutOfBounds 1 6 3)⟩ := by decide +kernel
  have hprintable : (RunError.robotOutOfBounds 1 6 3).Printable := by
    intro n hn
    have hn : n = 1 ∨ n = 6 ∨ n = 3 := by simpa [RunError.numbers, RunError.detail] using hn
    exact Numeral.lt_tooLong (by omega)
  obtain ⟨r, hr, -⟩ := Service.exists_report ho (by simpa using hprintable) Service.defaultSource
    { clock := .every 1 }
  have hquiet : Uses ["-q"] [⟨.quiet, ""⟩] := by decide +kernel
  have hjson : Uses ["--json"] [⟨.json, ""⟩] := by decide +kernel
  have hload : Settings.load env.host none none (flagsOf [⟨.quiet, ""⟩]) =
      .ok { quiet := true } := by decide +kernel
  have hload' : Settings.load env.host none none (flagsOf [⟨.json, ""⟩]) =
      .ok { json := true } := by decide +kernel
  obtain ⟨o, ho', -, hbare, -⟩ := run_inline_emits hquiet rfl hload rfl hr
  obtain rfl := Except.ok.inj (ho.symm.trans ho')
  obtain ⟨o, ho'', -, -, hdocument⟩ := run_inline_emits hjson rfl hload' rfl hr
  obtain rfl := Except.ok.inj (ho.symm.trans ho'')
  have hbare := hbare rfl rfl
  obtain ⟨r', htells, -, hempty, herrors⟩ := (hdocument rfl).document
  obtain ⟨message, hmessage, hwritten⟩ := hbare.errors _ rfl
  have htold : (RunError.robotOutOfBounds 1 6 3).message =
      .ok "robot ID 1 has moved out of bounds - X: 6 Y: 3" := by decide +kernel
  obtain rfl := Except.ok.inj (htold.symm.trans hmessage)
  refine ⟨hbare.output, hbare.exitCode, ?_, hempty, r', herrors, Report.positions_of_tells htells⟩
  rw [hwritten]
  decide +kernel

end Cli

end Plateau
