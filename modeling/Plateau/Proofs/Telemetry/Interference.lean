import Plateau.Proofs.Telemetry.Steady
import Plateau.Service.Demo

namespace Plateau.Service

open Telemetry (Outline Traced Tracer Tree)
open Telemetry.Traced (call_of_disabled call_of_enabled returns_bind returns_pure)

variable {machine : Machine} {machines : Nat → Machine}

theorem steady_showScenario (config : RunnerConfig) (s : Scenario) :
    Steady (showScenario config machine s)
      [.node s!"scenario.{s.name}" [] (textBlocks config s.input.toList)] := by
  apply ((steady_runText config s.input.toList).block _).bind
  intro o
  cases o.error with
  | none => exact steady_pure _
  | some e =>
    dsimp only
    rw [map_eq_pure_bind]
    exact ((steady_lift _).bind fun _ => steady_pure _).bind fun _ => steady_pure _

theorem exists_steady_showScenarios (config : RunnerConfig) (scenarios : List Scenario) :
    ∃ blocks, Steady (showScenarios config machines scenarios) blocks := by
  induction scenarios generalizing machines with
  | nil => exact ⟨[], steady_pure _⟩
  | cons s rest ih =>
    apply (steady_showScenario config s).exists_bind
    intro shown
    obtain ⟨blocks, hrest⟩ := ih
    exact ⟨blocks, hrest.bind fun _ => steady_pure _⟩

theorem remarks_demoReport (shown : List Shown) : (demoReport shown).remarks = none := by
  unfold demoReport
  cases (shown.filter fun s => !s.asExpected).map (·.scenario.name) with
  | nil => rfl
  | cons name rest => rfl

/-- What work does under the tracer `t`, which is on, and under the tracer `u`, which is off: it
fails alike, or its reports differ in nothing but the remarks; and it logs the same messages, after
which a tracer that is on logs the completion. -/
structure Undisturbed (work : Work Report) (t u : Tracer) : Prop where
  answer : (work t).1.map Report.bare = (work u).1.map Report.bare
  log : ∃ messages completion, (∀ m ∈ messages, m.logger = logger) ∧
    completion.logger = Tracer.logger ∧
      (work t).2.log = t.log ++ messages ++ [completion] ∧ (work u).2.log = u.log ++ messages
  remarks_on : ∀ r, (work t).1 = .ok r → ∃ tree, r.remarks = some [("telemetry", Tree.toValue tree)]
  remarks_off : ∀ r, (work u).1 = .ok r → r.remarks = none

theorem operation_undisturbed {body : Work Report} {blocks : List Outline} {t u : Tracer}
    (hsteady : Steady body blocks) (hbare : body.Returns fun r => r.remarks = none) (name : String)
    (hon : t.enabled = true) (hoff : u.enabled = false) :
    Undisturbed (operation name body) t u := by
  obtain ⟨r, messages, hyields, hown, hleaves⟩ := hsteady
  obtain ⟨tree, good, -, -, hresult, hlog⟩ :=
    call_of_enabled name Report.ok Report.withTelemetry hon hyields hleaves
  have huntraced : operation name body u = body u := call_of_disabled hoff
  constructor
  case answer =>
    have hkept :
        (r.map (Report.withTelemetry tree.toValue)).map Report.bare = r.map Report.bare := by
      cases r <;> rfl
    rw [huntraced, hyields u, ← hkept]
    exact congrArg (Except.map Report.bare) hresult
  case log =>
    refine ⟨messages, Tracer.completion tree good, hown, rfl, hlog, ?_⟩
    rw [huntraced]
    exact (hleaves none).log u
  case remarks_on =>
    intro r' hr'
    obtain ⟨plain, hplain, rfl⟩ := map_eq_ok_iff.1 (hresult.symm.trans hr')
    have hnone : plain.remarks = none := hbare t plain ((hyields t).trans hplain)
    exact ⟨tree, remarks_withTelemetry hnone _⟩
  case remarks_off =>
    intro r' hr'
    rw [huntraced] at hr'
    exact hbare u r' hr'

/-- Tracing interferes neither with a run nor with the demonstration. -/
theorem operations_undisturbed (config : RunnerConfig) (source : String) (text : List Char)
    (machine : Machine) (scenarios : List Scenario) (machines : Nat → Machine) {t u : Tracer}
    (hon : t.enabled = true) (hoff : u.enabled = false) :
    Undisturbed (run config source text machine) t u ∧
      Undisturbed (demo config scenarios machines) t u := by
  constructor
  · exact operation_undisturbed (steady_runBody config source text)
      (returns_runBody config source text) _ hon hoff
  · obtain ⟨blocks, hshown⟩ := exists_steady_showScenarios config scenarios
    have hreport := hshown.bind fun shown => steady_pure (demoReport shown)
    have hbare : (do return demoReport (← showScenarios config machines scenarios) :
        Work Report).Returns fun r => r.remarks = none := by
      apply returns_bind
      intro shown
      exact returns_pure (remarks_demoReport shown)
    exact operation_undisturbed hreport hbare _ hon hoff

/-- A rover that leaves its surface, run with and without tracing. -/
theorem operations_undisturbed_of_one :
    ∃ r r', (run {} "here" "1 1\n0 0 N\nMM".toList {}
        { enabled := true, clock := .every 7 }).1 = .ok r ∧
      (run {} "here" "1 1\n0 0 N\nMM".toList {} { clock := .every 0 }).1 = .ok r' ∧
      r.bare = r'.bare ∧ (∃ tree, r.remarks = some [("telemetry", Tree.toValue tree)]) ∧
      r'.remarks = none := by
  let text := "1 1\n0 0 N\nMM".toList
  have ho : Instructions.run {} text = .ok ⟨[], some (.robotOutOfBounds 0 0 2)⟩ := by
    decide +kernel
  have hprintable : (RunError.robotOutOfBounds 0 0 2).Printable :=
    RunError.printable_of_lt (by decide)
  let t : Tracer := { enabled := true, clock := .every 7 }
  let u : Tracer := { clock := .every 0 }
  obtain ⟨r, hr, -⟩ := exists_report ho (by simpa using hprintable) "here" t
  obtain ⟨r', hr', -⟩ := exists_report ho (by simpa using hprintable) "here" u
  have hon : t.enabled = true := rfl
  have hoff : u.enabled = false := rfl
  obtain ⟨hrun, -⟩ := operations_undisturbed {} "here" text {} scenarios (fun _ => {}) hon hoff
  have hbare := hrun.answer
  rw [hr, hr'] at hbare
  exact ⟨r, r', hr, hr', Except.ok.inj hbare, hrun.remarks_on r hr, hrun.remarks_off r' hr'⟩

end Plateau.Service
