import Plateau.Log.Percent

namespace Plateau.Log

inductive Level where
  | debug
  | info
  | warning
  | error
  | critical
  deriving DecidableEq, Repr

namespace Level

def severity : Level → Nat
  | debug => 10
  | info => 20
  | warning => 30
  | error => 40
  | critical => 50

def name : Level → String
  | debug => "debug"
  | info => "info"
  | warning => "warning"
  | error => "error"
  | critical => "critical"

end Level

/-- A logged event, with what is known about it as fields. -/
structure Record where
  logger : String
  level : Level
  event : String
  fields : Fields := []

inductive Entry where
  | message (logger : String) (level : Level) (format : String) (arguments : List Value)
  | event (logger : String) (level : Level) (event : String) (fields : Fields)

/-- The record of an entry, unless its arguments do not fill its format. -/
def Entry.record? : Entry → Option Record
  | message logger level format arguments =>
    (Percent.format format arguments).map fun text => ⟨logger, level, text, []⟩
  | event logger level text fields => some ⟨logger, level, text, fields⟩

end Plateau.Log
