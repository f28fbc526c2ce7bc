import Plateau.OutcomeJson
import Plateau.Report.Basic
import Plateau.Telemetry.Tracer

namespace Plateau.Service

open Telemetry (Traced Tracer)

abbrev Work := Traced RunFault

def logger : String := "roverctl.services.runner"

def log (level : Log.Level) (event : String) : Work Unit :=
  Traced.modify (Tracer.logRecord { logger, level, event })

def lift {α : Type} (r : Except RunFault α) : Work α :=
  fun t => (r, t)

def annotate (span : Option Nat) (facts : Fields) : Work Unit :=
  match span with
  | none => pure ()
  | some id => Traced.modify fun t => { t with spans := t.spans.record id facts }

/-- What the span of a rover tells: nothing if the rover was not placed. -/
def journeyFacts (i : Instruction) (j : Journey) : Fields :=
  if j.placed then
    [("commands", .int (Text.trim i.commands).length),
      ("ok", .bool (match j.result with
        | .ok _ => true
        | .error _ => false))]
  else []

def runRover (surface : Surface) (id : Nat) (i : Instruction) : Work Journey :=
  Traced.block (Tracer.roverStem ++ toString id) fun span => do
    let journey ← lift ((i.run surface id).mapError .overflow)
    annotate span (journeyFacts i journey)
    return journey

def runRovers (surface : Surface) (id : Nat) : List Instruction → Work Outcome
  | [] => return {}
  | i :: rest => do
    let journey ← runRover surface id i
    match journey.result with
    | .error e => return .failed e
    | .ok position => return (← runRovers surface (id + 1) rest).cons position

/-- Runs an instruction set.  The workers of a pool do not trace. -/
def runText (config : RunnerConfig) (text : List Char) (machine : Machine) : Work Outcome :=
  match Instructions.read text with
  | .error e => return .failed e
  | .ok (surface, instructions) =>
    if config.parallel then
      lift (Instructions.runPool config.maxWorkers surface instructions machine)
    else runRovers surface 0 instructions

def outcomeData (o : Outcome) : Fields :=
  [("output", .text o.output), ("positions", .list (o.positions.map .text)),
    ("rovers", .int o.positions.length)]

def boolText (b : Bool) : String := if b then "True" else "False"

def failureReport (o : Outcome) (e : RunError) (message : String) : Report :=
  { ok := false
    op := "run"
    data := outcomeData o
    error := some ⟨e.kind.name, message, e.detail⟩ }

def overflowing {α : Type} (r : Except Numeral.Overflow α) : Work α :=
  lift (r.mapError .overflow)

def runBody (config : RunnerConfig) (source : String) (text : List Char) (machine : Machine) :
    Work Report := do
  log .debug s!"run.start source={source} parallel={boolText config.parallel}"
  let outcome ← runText config text machine
  match outcome.error with
  | some e =>
    log .info
      s!"run.failed source={source} kind={e.kind.name} completed={outcome.positions.length}"
    return failureReport outcome e (← overflowing e.message)
  | none =>
    log .debug s!"run.complete source={source} rovers={outcome.positions.length}"
    return { ok := true, op := "run", data := outcomeData outcome }

/-- A service operation as a traced call, whose report carries the timing tree. -/
def operation (name : String) (body : Work Report) : Work Report :=
  Traced.call name (·.ok) Report.withTelemetry body

def defaultSource : String := "<input>"

def run (config : RunnerConfig) (source : String) (text : List Char) (machine : Machine := {}) :
    Work Report :=
  operation "RunnerService.run" (runBody config source text machine)

end Plateau.Service
