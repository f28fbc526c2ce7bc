import Plateau.Service.Run

namespace Plateau.Service

open Telemetry (Traced)

structure Scenario where
  name : String
  input : String
  expectsError : Bool

def scenarios : List Scenario :=
  [⟨"single rover", "5 5\n0 0 N\nMMMMMRMMMMM", false⟩,
    ⟨"multiple rovers", "5 5\n0 0 N\nMMMMMRMMMMM\n0 0 N\nMMMMMRMMMMM", false⟩,
    ⟨"second rover leaves the surface", "5 5\n0 0 N\nMMMMMRMMMMM\n5 5 N\nMMMMM", true⟩]

structure Shown where
  scenario : Scenario
  outcome : Outcome
  message : Option String

namespace Shown

def asExpected (s : Shown) : Bool :=
  s.outcome.ok != s.scenario.expectsError

def toValue (s : Shown) : Value :=
  .record [("name", .text s.scenario.name), ("input", .text s.scenario.input),
    ("output", .text s.outcome.output),
    ("error", match s.message with
      | none => .null
      | some m => .text m)]

end Shown

def showScenario (config : RunnerConfig) (machine : Machine) (s : Scenario) : Work Shown := do
  let outcome ← Traced.block s!"scenario.{s.name}" fun _ => runText config s.input.toList machine
  let message ← match outcome.error with
    | none => pure none
    | some e => some <$> overflowing e.message
  return ⟨s, outcome, message⟩

def demoReport (shown : List Shown) : Report :=
  let data : Fields :=
    [("scenarios", .list (shown.map Shown.toValue)), ("count", .int shown.length)]
  match (shown.filter fun s => !s.asExpected).map (·.scenario.name) with
  | [] => { ok := true, op := "demo", data }
  | mismatched =>
    { ok := false
      op := "demo"
      data
      error := some
        { code := "DEMO_MISMATCH"
          message := s!"{mismatched.length} scenario(s) did not behave as expected"
          detail := [("scenarios", .list (mismatched.map .text))] } }

/-- Runs scenario number `k` on machine number `k`. -/
def showScenarios (config : RunnerConfig) (machines : Nat → Machine) :
    List Scenario → Work (List Shown)
  | [] => return []
  | s :: rest => do
    let shown ← showScenario config (machines 0) s
    return shown :: (← showScenarios config (fun k => machines (k + 1)) rest)

def demo (config : RunnerConfig) (scenarios : List Scenario)
    (machines : Nat → Machine := fun _ => {}) : Work Report :=
  operation "RunnerService.demo" (do return demoReport (← showScenarios config machines scenarios))

end Plateau.Service
