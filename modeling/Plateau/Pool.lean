namespace Plateau

inductive Stage where
  | queued
  | running
  | finished
  | cancelled
  deriving DecidableEq, Repr

/-- A call that was handed in.  A finished call has the value `call`. -/
structure Task (ε α : Type) where
  call : Except ε α
  stage : Stage := .queued

inductive Duty where
  | submit
  | read
  | cancel (next : Nat)
  | leave
  | left
  deriving DecidableEq, Repr

/-- The reader waits for the result of task number `results.length`. -/
structure Pool (ε α : Type) where
  workers : Nat
  unsent : List (Except ε α)
  tasks : List (Task ε α) := []
  results : List α := []
  failure : Option ε := none
  duty : Duty := .submit

inductive Move where
  | start (i : Nat)
  | finish (i : Nat)
  | advance
  deriving DecidableEq, Repr

/-- What a run leaves to the machine: its number of processors, and at which move to begin the
search for the next one. -/
structure Machine where
  processors : Nat := 1
  schedule : Nat → Nat := fun _ => 0

def Machine.workers (m : Machine) : Option Int → Nat
  | none => min 32 (m.processors + 4)
  | some n => n.toNat

namespace Pool

variable {ε α : Type}

def running (p : Pool ε α) : Nat :=
  p.tasks.countP (·.stage == .running)

def idle (p : Pool ε α) : Bool :=
  p.tasks.all fun t => t.stage == .finished || t.stage == .cancelled

def setStage (i : Nat) (stage : Stage) (p : Pool ε α) : Pool ε α :=
  { p with tasks := p.tasks.modify i fun t => { t with stage } }

def take (stops : α → Bool) (call : Except ε α) (p : Pool ε α) : Pool ε α :=
  match call with
  | .error e => { p with failure := some e, duty := .leave }
  | .ok a =>
    { p with
      results := p.results ++ [a]
      duty := if stops a then .cancel (p.results.length + 1) else .read }

/-- The reader does its duty, unless it has to wait.  Only a queued task can be cancelled. -/
def advance (stops : α → Bool) (p : Pool ε α) : Option (Pool ε α) :=
  match p.duty with
  | .submit =>
    match p.unsent with
    | [] => some { p with duty := .read }
    | call :: rest => some { p with unsent := rest, tasks := p.tasks ++ [{ call }] }
  | .read =>
    match p.tasks[p.results.length]? with
    | none => some { p with duty := .leave }
    | some t => if t.stage = .finished then some (p.take stops t.call) else none
  | .cancel next =>
    match p.tasks[next]? with
    | none => some { p with duty := .leave }
    | some t =>
      let q := if t.stage = .queued then p.setStage next .cancelled else p
      some { q with duty := .cancel (next + 1) }
  | .leave => if p.idle then some { p with duty := .left } else none
  | .left => none

/-- Makes a move, if it can be made: a queued task starts when a worker is free. -/
def perform (stops : α → Bool) (p : Pool ε α) : Move → Option (Pool ε α)
  | .start i =>
    match p.tasks[i]? with
    | some ⟨_, .queued⟩ => if p.running < p.workers then some (p.setStage i .running) else none
    | _ => none
  | .finish i =>
    match p.tasks[i]? with
    | some ⟨_, .running⟩ => some (p.setStage i .finished)
    | _ => none
  | .advance => p.advance stops

def moves (p : Pool ε α) : List Move :=
  .advance :: p.tasks.zipIdx.flatMap fun (_, i) => [.start i, .finish i]

/-- Makes the first possible move from number `k` on, going round. -/
def next? (stops : α → Bool) (k : Nat) (p : Pool ε α) : Option (Pool ε α) :=
  (p.moves.drop k ++ p.moves.take k).findSome? (p.perform stops)

def drive (stops : α → Bool) (schedule : Nat → Nat) : Nat → Pool ε α → Pool ε α
  | 0, p => p
  | n + 1, p =>
    match p.next? stops (schedule n) with
    | none => p
    | some q => drive stops schedule n q

def outcome (p : Pool ε α) : Except ε (List α) :=
  match p.failure with
  | some e => .error e
  | none => .ok p.results

/-- More than the number of moves that calls can give rise to. -/
def patience (calls : List (Except ε α)) : Nat :=
  5 * calls.length + 5

def run (machine : Machine) (maxWorkers : Option Int) (stops : α → Bool)
    (calls : List (Except ε α)) : Pool ε α :=
  drive stops machine.schedule (patience calls)
    { workers := machine.workers maxWorkers, unsent := calls }

end Pool

end Plateau
