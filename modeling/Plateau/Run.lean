import Plateau.Instructions
import Plateau.Pool

namespace Plateau

open Numeral (Overflow)

/-- The resting positions of the rovers that finished, and the first failure. -/
@[ext] structure Outcome where
  positions : List String := []
  error : Option RunError := none
  deriving DecidableEq, Repr

namespace Outcome

def ok (o : Outcome) : Bool := o.error.isNone

def output (o : Outcome) : String := "\n".intercalate o.positions

def failed (e : RunError) : Outcome := ⟨[], some e⟩

def cons (position : String) (o : Outcome) : Outcome :=
  { o with positions := position :: o.positions }

end Outcome

structure RunnerConfig where
  parallel : Bool := false
  maxWorkers : Option Int := none
  deriving DecidableEq, Repr

inductive RunFault where
  | noWorkers
  | overflow (o : Overflow)
  deriving DecidableEq, Repr

def RunFault.message : RunFault → String
  | .noWorkers => "max_workers must be greater than 0"
  | .overflow o => o.message

/-- What came of one rover: whether it was placed, and its resting position or its failure. -/
structure Journey where
  placed : Bool
  result : Except RunError String

def Journey.failed (j : Journey) : Bool :=
  match j.result with
  | .error _ => true
  | .ok _ => false

namespace Instruction

def run (surface : Surface) (id : Nat) (i : Instruction) : Except Overflow Journey :=
  match Rover.place id i.placement surface with
  | .error e => .ok ⟨false, .error e⟩
  | .ok rover =>
    match rover.guide surface i.commands with
    | (_, some e) => .ok ⟨true, .error e⟩
    | (rested, none) => do
      let position ← rested.render
      return ⟨true, .ok position⟩

end Instruction

namespace Instructions

/-- Runs the rovers one after the other, `id` being the index of the first. -/
def runFrom (surface : Surface) (id : Nat) : List Instruction → Except Overflow Outcome
  | [] => .ok {}
  | i :: rest => do
    let journey ← i.run surface id
    match journey.result with
    | .error e => return .failed e
    | .ok position => return (← runFrom surface (id + 1) rest).cons position

def collect : List Journey → Outcome
  | [] => {}
  | journey :: rest =>
    match journey.result with
    | .error e => .failed e
    | .ok position => (collect rest).cons position

/-- One task per rover; the tasks share nothing but the surface. -/
def tasks (surface : Surface) (id : Nat) : List Instruction → List (Except Overflow Journey)
  | [] => []
  | i :: rest => i.run surface id :: tasks surface (id + 1) rest

def checkWorkers (maxWorkers : Option Int) : Except RunFault Unit :=
  match maxWorkers with
  | some n => if n ≤ 0 then .error .noWorkers else .ok ()
  | none => .ok ()

def read (text : List Char) : Except RunError (Surface × List Instruction) :=
  match split text with
  | [] => .error (.tooFewLines 0)
  | first :: rest => do
    checkShape (first :: rest)
    let surface ← Surface.ofLine first
    return (surface, pairs rest)

/-- Runs the rovers on a pool.  Workers share nothing, so what they do is only a matter of time. -/
def runPool (maxWorkers : Option Int) (surface : Surface) (is : List Instruction)
    (machine : Machine := {}) : Except RunFault Outcome := do
  checkWorkers maxWorkers
  let pool := Pool.run machine maxWorkers Journey.failed (tasks surface 0 is)
  (pool.outcome.map collect).mapError .overflow

def run (config : RunnerConfig) (text : List Char) (machine : Machine := {}) :
    Except RunFault Outcome :=
  match read text with
  | .error e => .ok (.failed e)
  | .ok (surface, instructions) =>
    if config.parallel then runPool config.maxWorkers surface instructions machine
    else (runFrom surface 0 instructions).mapError .overflow

end Instructions

end Plateau
