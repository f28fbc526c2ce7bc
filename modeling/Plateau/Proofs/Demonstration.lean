import Plateau.Proofs.Telemetry.Interference
import Plateau.Proofs.Telemetry.RunTree

namespace Plateau

open Telemetry (Outline Traced Tracer Tree)
open Telemetry.Traced (Yields yields_pure call_of_disabled call_of_enabled)

namespace Service.Scenario

/-- The scenario fails exactly if it is expected to. -/
def agrees (s : Scenario) : Bool :=
  match Instructions.run {} s.input.toList with
  | .ok o => o.error.isSome == s.expectsError
  | .error _ => false

def Writable (s : Scenario) : Prop :=
  ∀ o, Instructions.run {} s.input.toList = .ok o →
    ∀ e ∈ o.error, ∃ message, e.message = .ok message

/-- The entry of a scenario: its name and its input, the output of the run, and the message of the
failure or nothing. -/
def EnteredAs (s : Scenario) (entry : Value) : Prop :=
  ∃ o error, Instructions.run {} s.input.toList = .ok o ∧
    (o.error = none → error = .null) ∧
    (∀ e ∈ o.error, ∃ message, e.message = .ok message ∧ error = .text message) ∧
    entry = .record [("name", .text s.name), ("input", .text s.input),
      ("output", .text o.output), ("error", error)]

/-- The block of a scenario has the name of the scenario and tells its run. -/
def TracedAs (config : RunnerConfig) (s : Scenario) (block : Outline) : Prop :=
  ∃ inner, block = .node s!"scenario.{s.name}" [] inner ∧
    TellsRun config s.input.toList inner

/-- The names of the scenarios that fail though they should not, or the other way round. -/
def mismatched (scenarios : List Scenario) : List String :=
  (scenarios.filter fun s => !s.agrees).map (·.name)

end Service.Scenario

/-- What the report of a demonstration tells of its scenarios. -/
structure Report.Judges (r : Report) (scenarios : List Service.Scenario) : Prop where
  op : r.op = "demo"
  data : ∃ entries, r.data = [("scenarios", .list entries), ("count", .int scenarios.length)] ∧
    List.Forall₂ Service.Scenario.EnteredAs scenarios entries
  ok : r.ok = true ↔ ∀ s ∈ scenarios, s.agrees = true
  no_error : r.ok = true → r.error = none
  error : r.ok = false → r.error = some
    { code := "DEMO_MISMATCH"
      message :=
        s!"{(Service.Scenario.mismatched scenarios).length} scenario(s) did not behave as expected"
      detail := [("scenarios", .list ((Service.Scenario.mismatched scenarios).map .text))] }

namespace Service

/-- The scenario was shown: `x` has the outcome of its run, and the message of its failure. -/
structure Shown.Tells (s : Scenario) (x : Shown) : Prop where
  scenario : x.scenario = s
  outcome : Instructions.run {} s.input.toList = .ok x.outcome
  no_message : x.outcome.error = none → x.message = none
  message : ∀ e ∈ x.outcome.error, ∃ m, e.message = .ok m ∧ x.message = some m

namespace Shown.Tells

variable {s : Scenario} {x : Shown}

theorem enteredAs (h : Tells s x) : s.EnteredAs x.toValue := by
  obtain ⟨scenario, outcome, message⟩ := x
  obtain rfl : scenario = s := h.scenario
  cases he : outcome.error with
  | none =>
    obtain rfl : message = none := h.no_message he
    exact ⟨outcome, .null, h.outcome, fun _ => rfl, by simp [he], rfl⟩
  | some e =>
    obtain ⟨m, hm, hmessage⟩ := h.message e he
    obtain rfl : message = some m := hmessage
    exact ⟨outcome, .text m, h.outcome, by simp [he], by simpa [he] using hm, rfl⟩

theorem asExpected (h : Tells s x) : x.asExpected = s.agrees := by
  rw [Shown.asExpected, Scenario.agrees, h.outcome, h.scenario, Outcome.ok]
  dsimp only
  cases x.outcome.error <;> cases s.expectsError <;> rfl

end Shown.Tells

theorem exists_tells {s : Scenario} (h : s.Writable) : ∃ x, Shown.Tells s x := by
  obtain ⟨o, ho⟩ := Instructions.exists_run s.input.toList
  cases he : o.error with
  | none => exact ⟨⟨s, o, none⟩, rfl, ho, fun _ => rfl, by simp [he]⟩
  | some e =>
    obtain ⟨m, hm⟩ := h o ho e he
    exact ⟨⟨s, o, some m⟩, rfl, ho, by simp [he], by simpa [he] using hm⟩

theorem exists_forall₂_tells {scenarios : List Scenario} (h : ∀ s ∈ scenarios, s.Writable) :
    ∃ shown, List.Forall₂ Shown.Tells scenarios shown := by
  induction scenarios with
  | nil => exact ⟨[], .nil⟩
  | cons s rest ih =>
    obtain ⟨hs, hrest⟩ := List.forall_mem_cons.1 h
    obtain ⟨x, hx⟩ := exists_tells hs
    obtain ⟨shown, hshown⟩ := ih hrest
    exact ⟨x :: shown, .cons hx hshown⟩

section Showing

variable {config : RunnerConfig} {machine : Machine} {machines : Nat → Machine}
  (hworkers : ∀ n ∈ config.maxWorkers, 1 ≤ n)
  {scenarios : List Scenario} {shown : List Shown}

include hworkers

theorem showScenario_yields {s : Scenario} {x : Shown} (h : Shown.Tells s x) :
    (showScenario config machine s).Yields (.ok x) := by
  have hrun : Instructions.run config s.input.toList machine = .ok x.outcome :=
    (Instructions.run_config_eq hworkers _ _).trans h.outcome
  have hblock : (Traced.block s!"scenario.{s.name}"
      fun _ => runText config s.input.toList machine).Yields (.ok x.outcome) :=
    .block fun _ => hrun ▸ runText_yields config _
  obtain ⟨scenario, outcome, message⟩ := x
  obtain rfl : scenario = s := h.scenario
  refine hblock.bind_ok ?_
  cases he : outcome.error with
  | none =>
    obtain rfl : message = none := h.no_message he
    exact yields_pure _
  | some e =>
    obtain ⟨m, hm, rfl⟩ := h.message e he
    dsimp only
    rw [overflowing, hm, map_eq_pure_bind]
    exact ((yields_lift _).bind_ok (yields_pure _)).bind_ok (yields_pure _)

theorem showScenarios_yields (h : List.Forall₂ Shown.Tells scenarios shown) :
    (showScenarios config machines scenarios).Yields (.ok shown) := by
  induction h generalizing machines with
  | nil => exact yields_pure _
  | cons hx _ ih => exact (showScenario_yields hworkers hx).bind_ok (ih.bind_ok (yields_pure _))

theorem steady_showScenarios (h : List.Forall₂ Shown.Tells scenarios shown) :
    ∃ blocks, Steady (showScenarios config machines scenarios) blocks ∧
      List.Forall₂ (Scenario.TracedAs config) scenarios blocks := by
  induction h generalizing machines with
  | nil => exact ⟨[], steady_pure _, .nil⟩
  | @cons s x rest shown hx _ ih =>
    obtain ⟨blocks, hsteady, htraced⟩ := @ih fun k => machines (k + 1)
    refine ⟨_ :: blocks, ?_, .cons ⟨_, rfl, tellsRun config s.input.toList⟩ htraced⟩
    exact (steady_showScenario config s).bind_ok (showScenario_yields hworkers hx)
      (hsteady.bind fun _ => steady_pure _)

end Showing

theorem mismatched_eq {scenarios : List Scenario} {shown : List Shown}
    (h : List.Forall₂ Shown.Tells scenarios shown) :
    (shown.filter fun x => !x.asExpected).map (·.scenario.name) =
      Scenario.mismatched scenarios := by
  rw [Scenario.mismatched]
  induction h with
  | nil => rfl
  | @cons s x _ _ hx _ ih =>
    rw [List.filter_cons, List.filter_cons, hx.asExpected]
    cases s.agrees with
    | true => exact ih
    | false => exact congrArg₂ List.cons (congrArg Scenario.name hx.scenario) ih

theorem mismatched_eq_nil_iff {scenarios : List Scenario} :
    Scenario.mismatched scenarios = [] ↔ ∀ s ∈ scenarios, s.agrees = true := by
  simp [Scenario.mismatched]

theorem judges_demoReport {scenarios : List Scenario} {shown : List Shown}
    (h : List.Forall₂ Shown.Tells scenarios shown) : (demoReport shown).Judges scenarios := by
  have hentries : List.Forall₂ Scenario.EnteredAs scenarios (shown.map Shown.toValue) :=
    List.forall₂_map_right_iff.2 (h.imp fun _ _ hx => hx.enteredAs)
  have hcount : (shown.length : Int) = scenarios.length := by rw [h.length_eq]
  have hagree : Scenario.mismatched scenarios = [] ↔ ∀ s ∈ scenarios, s.agrees = true :=
    mismatched_eq_nil_iff
  rw [demoReport, mismatched_eq h, hcount]
  cases hnames : Scenario.mismatched scenarios with
  | nil =>
    rw [hnames] at hagree
    exact ⟨rfl, ⟨_, rfl, hentries⟩, by simpa using hagree, fun _ => rfl, by simp⟩
  | cons name names =>
    rw [hnames] at hagree
    refine ⟨rfl, ⟨_, rfl, hentries⟩, by simpa using hagree, by simp, fun _ => ?_⟩
    rw [hnames]

/-- A demonstration whose messages can be written has one verdict, on whatever pool the rovers are
guided and however it is traced: an entry for each scenario in order, and an error that names in
order those that do not agree, if there are any.  While tracing is on its report carries a tree with
one block for each scenario in order, and that block tells how far the rovers of the scenario
came. -/
theorem demo_judges {scenarios : List Scenario} (h : ∀ s ∈ scenarios, s.Writable) :
    ∃ verdict : Report, verdict.Judges scenarios ∧ verdict.remarks = none ∧
      ∀ config : RunnerConfig, (∀ n ∈ config.maxWorkers, 1 ≤ n) → ∀ machines (t : Tracer),
        ∃ r, (demo config scenarios machines t).1 = .ok r ∧ r.bare = verdict ∧
          (t.enabled = true → ∃ tree blocks,
            r.remarks = some [("telemetry", Tree.toValue tree)] ∧
            tree.outline = .node "RunnerService.demo" [] blocks ∧
            List.Forall₂ (Scenario.TracedAs config) scenarios blocks) := by
  obtain ⟨shown, hshown⟩ := exists_forall₂_tells h
  have hbare : (demoReport shown).remarks = none := remarks_demoReport shown
  have hsame : (demoReport shown).bare = demoReport shown := by rw [Report.bare, ← hbare]
  refine ⟨demoReport shown, judges_demoReport hshown, hbare, fun config hworkers machines t => ?_⟩
  have hyields := @showScenarios_yields config machines hworkers _ _ hshown
  -- The scenarios are shown alike under every tracer, so that tracing only adds the tree.
  let body : Work Report := do return demoReport (← showScenarios config machines scenarios)
  have hbody : body.Yields (.ok (demoReport shown)) := hyields.bind_ok (yields_pure _)
  have hdemo : demo config scenarios machines t = operation "RunnerService.demo" body t := rfl
  rw [hdemo, operation]
  cases hon : t.enabled with
  | false =>
    rw [call_of_disabled hon]
    exact ⟨_, hbody t, hsame, by simp⟩
  | true =>
    obtain ⟨blocks, hsteady, htraced⟩ := @steady_showScenarios config machines hworkers _ _ hshown
    obtain ⟨_, _, hresult, -, hleaves⟩ := hsteady.bind fun shown => steady_pure (demoReport shown)
    obtain ⟨tree, _, houtline, -, hanswer, -⟩ :=
      call_of_enabled "RunnerService.demo" Report.ok Report.withTelemetry hon hbody hleaves
    exact ⟨_, hanswer, hsame, fun _ => ⟨tree, blocks, remarks_withTelemetry hbare _, houtline,
      htraced⟩⟩

/-- Two scenarios of one name, of which the second fails, one that has no text and is expected to
fail, and one that is but does not. -/
theorem demo_judges_four :
    let four : List Scenario := [⟨"a", "1 1\n0 0 N\nM", false⟩, ⟨"a", "1 1\n0 0 N\nMM", false⟩,
      ⟨"b", "", true⟩, ⟨"c", "1 1\n0 0 N\nM", true⟩]
    ∃ r tree blocks, (demo {} four (fun _ => {}) { enabled := true, clock := .every 7 }).1 = .ok r ∧
      r.error = some ⟨"DEMO_MISMATCH", "2 scenario(s) did not behave as expected",
        [("scenarios", .list [.text "a", .text "c"])]⟩ ∧
      r.remarks = some [("telemetry", Tree.toValue tree)] ∧
      tree.outline = .node "RunnerService.demo" [] blocks ∧
      List.Forall₂ (Scenario.TracedAs {}) four blocks := by
  intro four
  have hfinished : Instructions.run {} "1 1\n0 0 N\nM".toList = .ok ⟨["0 1 N"], none⟩ := by
    decide +kernel
  have hleft : Instructions.run {} "1 1\n0 0 N\nMM".toList =
      .ok ⟨[], some (.robotOutOfBounds 0 0 2)⟩ := by decide +kernel
  have hempty : Instructions.run {} "".toList = .ok ⟨[], some (.tooFewLines 1)⟩ := by
    decide +kernel
  have hwritable {name input : String} {expected : Bool} {o : Outcome}
      (ho : Instructions.run {} input.toList = .ok o) (h : ∀ e ∈ o.error, e.Printable) :
      (⟨name, input, expected⟩ : Scenario).Writable := by
    intro o' ho' e he
    obtain rfl := Except.ok.inj (ho.symm.trans ho')
    exact (RunError.exists_message_iff e).2 (h e he)
  have hall : ∀ s ∈ four, s.Writable := by
    simp only [four, List.forall_mem_cons]
    refine ⟨hwritable hfinished (by simp), hwritable hleft ?_, hwritable hempty ?_,
      hwritable hfinished (by simp), by simp⟩
    · simpa using RunError.printable_of_lt (e := .robotOutOfBounds 0 0 2) (by decide)
    · simpa using RunError.printable_of_lt (e := .tooFewLines 1) (by decide)
  obtain ⟨verdict, hjudges, -, hdemo⟩ := demo_judges hall
  obtain ⟨r, hr, hbare, htree⟩ :=
    hdemo {} (by simp) (fun _ => {}) { enabled := true, clock := .every 7 }
  obtain ⟨tree, blocks, hremarks, houtline, htraced⟩ := htree rfl
  have hnames : Scenario.mismatched four = ["a", "c"] := by decide +kernel
  have hfails : verdict.ok = false := by
    rw [Bool.eq_false_iff, ne_eq, hjudges.ok, ← mismatched_eq_nil_iff, hnames]
    simp
  have herror := hjudges.error hfails
  rw [hnames, ← hbare] at herror
  exact ⟨r, tree, blocks, hr, herror, hremarks, houtline, htraced⟩

end Service

end Plateau
