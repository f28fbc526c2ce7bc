import Plateau.Log.Line

namespace Plateau.Log

structure Options where
  verbose : Bool := false
  quiet : Bool := false
  json : Bool := false
  deriving DecidableEq, Repr

/-- The least level of the program's own loggers; more detail wins over less. -/
def Options.threshold (o : Options) : Level :=
  if o.verbose then .debug else if o.quiet then .error else .warning

def Options.form (o : Options) : Form :=
  if o.json then .document else .columns

/-- The loggers there are, and what those decided that were asked whether a level is written; they
keep to it. -/
structure Loggers where
  known : List String := []
  decided : List ((String × Level) × Bool) := []
  deriving DecidableEq, Repr

/-- The handlers, one form of lines each, and the least levels of all loggers and of our own. -/
structure Setup where
  handlers : List Form := []
  rootLevel : Level := .warning
  ownLevel : Level := .warning
  deriving DecidableEq, Repr

namespace Setup

def clearHandlers (s : Setup) : Setup :=
  { s with handlers := [] }

def addHandler (s : Setup) (form : Form) : Setup :=
  { s with handlers := s.handlers ++ [form] }

def configure (s : Setup) (o : Options) : Setup :=
  { s.clearHandlers.addHandler o.form with rootLevel := .warning, ownLevel := o.threshold }

def configureAll (s : Setup) (options : List Options) : Setup :=
  options.foldl configure s

def ownLogger : String := "roverctl"

/-- Whether the program's logger is among those around a logger.  The name is read from its end;
what stands before a point is the name of a logger around.  If there is a logger of that name the
way goes on from it, else the next letter is passed over, although it may be a point. -/
def reachesOwn (known : List String) : List Char → Bool
  | '.' :: c :: outer =>
    let name := String.ofList (c :: outer).reverse
    name == ownLogger ||
      if known.contains name then reachesOwn known (c :: outer) else reachesOwn known outer
  | _ :: outer => reachesOwn known outer
  | [] => false

/-- Whether a logger takes its level from the program's.  None of those in between has one. -/
def isOwn (known : List String) (logger : String) : Bool :=
  logger == ownLogger || reachesOwn known logger.toList.reverse

def threshold (s : Setup) (known : List String) (logger : String) : Level :=
  if isOwn known logger then s.ownLevel else s.rootLevel

/-- Whether a record is written; its logger decides unless it has. -/
def writes (s : Setup) (loggers : Loggers) (r : Record) : Bool :=
  (loggers.decided.lookup (r.logger, r.level)).getD
    ((s.threshold loggers.known r.logger).severity ≤ r.level.severity)

/-- The loggers after a record.  Its own is known from then on. -/
def after (s : Setup) (loggers : Loggers) (r : Record) : Loggers :=
  { known := r.logger :: loggers.known
    decided := ((r.logger, r.level), s.writes loggers r) :: loggers.decided }

def emit (s : Setup) (loggers : Loggers) (stamp : String) (r : Record) : List Char :=
  if s.writes loggers r then s.handlers.flatMap fun form => r.line form stamp ++ ['\n'] else []

def emitFrom (s : Setup) (loggers : Loggers) : List (String × Record) → List Char
  | [] => []
  | (stamp, r) :: rs => s.emit loggers stamp r ++ s.emitFrom (s.after loggers r) rs

def emitAll (s : Setup) (stamp : String) (rs : List Record) : List Char :=
  s.emitFrom {} (rs.map fun r => (stamp, r))

theorem writes_cases (s : Setup) (loggers : Loggers) (r : Record) :
    s.writes loggers r = decide ((s.threshold loggers.known r.logger).severity ≤ r.level.severity) ∨
      ((r.logger, r.level), s.writes loggers r) ∈ loggers.decided := by
  rw [writes]
  cases hlookup : loggers.decided.lookup (r.logger, r.level) with
  | none => exact .inl rfl
  | some written =>
    obtain ⟨before, after, hdecided, -⟩ := List.lookup_eq_some_iff.1 hlookup
    refine .inr ?_
    simp [hdecided]

@[simp] theorem handlers_configure (s : Setup) (o : Options) :
    (s.configure o).handlers = [o.form] := rfl

/-- A configuration leaves nothing of the one before. -/
theorem configure_eq (s s' : Setup) (o : Options) : s.configure o = s'.configure o := rfl

theorem configureAll_concat (s s' : Setup) (options : List Options) (last : Options) :
    s.configureAll (options ++ [last]) = s'.configure last := by
  rw [configureAll, List.foldl_append, List.foldl_cons, List.foldl_nil]
  exact configure_eq _ _ last

end Setup

end Plateau.Log
