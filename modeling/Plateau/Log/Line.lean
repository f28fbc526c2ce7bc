import Plateau.Data.Show
import Plateau.Json.Print
import Plateau.Log.Record

namespace Plateau.Log

inductive Form where
  | columns
  | document
  deriving DecidableEq, Repr

def padRight (width : Nat) (s : List Char) : List Char :=
  s ++ List.replicate (width - s.length) ' '

def levelWidth : Nat := 9

def eventWidth : Nat := 30

def needsQuotes (c : Char) : Bool :=
  [' ', '\t', '=', '\r', '\n', '"', '\''].contains c

def fieldText : Value → List Char
  | .text s => if s.toList.any needsQuotes then Text.quoted s.toList else s.toList
  | v => v.literal

namespace Record

/-- The logger without a name is the root of all loggers, and is called so. -/
def loggerName (r : Record) : String :=
  if r.logger.isEmpty then "root" else r.logger

def sorted (r : Record) : Fields :=
  r.fields.mergeSort fun a b => a.1 ≤ b.1

/-- Time, level, event and logger in columns, then the fields. -/
def columns (stamp : String) (r : Record) : List Char :=
  stamp.toList ++ " [".toList ++ padRight levelWidth r.level.name.toList ++ "] ".toList ++
    padRight eventWidth r.event.toList ++ " [".toList ++ r.loggerName.toList ++ [']'] ++
    r.sorted.flatMap fun (key, value) => ' ' :: key.toList ++ '=' :: fieldText value

/-- The fields, then event, level, logger and time. -/
def document (stamp : String) (r : Record) : Value :=
  .record (r.fields ++ [("event", .text r.event), ("level", .text r.level.name),
    ("logger", .text r.loggerName), ("timestamp", .text stamp)])

def line (form : Form) (stamp : String) (r : Record) : List Char :=
  match form with
  | .columns => r.columns stamp
  | .document => Json.Layout.log.value 0 (r.document stamp)

end Record

end Plateau.Log
