import Plateau.Json.Print

namespace Plateau

/-- Why an operation failed, for a reader and for a program. -/
structure Failure where
  code : String
  message : String
  detail : Fields := []

/-- What was done, whether it succeeded, its data (also on failure), and facts about its making. -/
structure Report where
  ok : Bool
  op : String
  data : Fields := []
  error : Option Failure := none
  remarks : Option Fields := none

def Failure.toValue (f : Failure) : Value :=
  .record [("code", .text f.code), ("message", .text f.message), ("detail", .record f.detail)]

namespace Report

def telemetryKey : String := "telemetry"

def withTelemetry (tree : Value) (r : Report) : Report :=
  { r with remarks := some (Fields.set telemetryKey tree (r.remarks.getD [])) }

def toValue (r : Report) : Value :=
  .record [("ok", .bool r.ok), ("op", .text r.op), ("data", .record r.data),
    ("error", match r.error with
      | none => .null
      | some f => f.toValue),
    ("meta", match r.remarks with
      | none => .null
      | some fs => .record fs)]

end Report

end Plateau
