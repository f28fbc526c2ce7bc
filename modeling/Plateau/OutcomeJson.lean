import Plateau.Check.Scalar
import Plateau.Data.Show
import Plateau.Json.Print
import Plateau.Json.Read
import Plateau.Run

namespace Plateau

open Check (required defaulted)

namespace RunError

def tag : String := "kind"

def toValue (e : RunError) : Value := .record e.toFields

def checkDetail (fs : Fields) : ErrorKind → Check RunError
  | .tooFewLines => tooFewLines <$> required "lines" Check.int fs
  | .evenLineCount => evenLineCount <$> required "lines" Check.int fs
  | .surfaceDimensionMismatch =>
    surfaceDimensionMismatch <$> required "dimensions" Check.int fs
      <*> required "surface" Check.text fs
  | .surfaceBoundaryParse =>
    surfaceBoundaryParse <$> required "coordinate" Check.text fs
      <*> required "boundary" Check.text fs
  | .surfaceBoundsInvalid =>
    surfaceBoundsInvalid <$> required "coordinate" Check.text fs <*> required "value" Check.int fs
      <*> required "lower_bound" Check.int fs
  | .robotInstructionLength =>
    robotInstructionLength <$> required "rover_id" Check.int fs
      <*> required "instructions" Check.text fs <*> required "tokens" Check.int fs
  | .robotCoordinateParse =>
    robotCoordinateParse <$> required "rover_id" Check.int fs
      <*> required "coordinate" Check.text fs <*> required "position" Check.text fs
  | .robotDirectionParse =>
    robotDirectionParse <$> required "rover_id" Check.int fs
      <*> required "direction" Check.text fs
  | .robotOutOfBounds =>
    robotOutOfBounds <$> required "rover_id" Check.int fs <*> required "x" Check.int fs
      <*> required "y" Check.int fs
  | .robotMovementParse =>
    robotMovementParse <$> required "rover_id" Check.int fs <*> required "movement" Check.text fs

def ofFields (kind : ErrorKind) (fs : Fields) : Check RunError :=
  let tagged := defaulted tag () (fun v =>
    match v with
    | .text name => if name == kind.name then .valid () else Check.fault (.literal kind.name)
    | _ => Check.fault (.literal kind.name)) fs
  (fun _ e => e) <$> tagged <*> checkDetail fs kind

/-- A failure whose kind is told by its tag; the faults of its fields lie below the tag. -/
def ofValue : Value → Check RunError
  | .record fs =>
    match Fields.get? tag fs with
    | none => Check.fault (.tagMissing tag)
    | some v =>
      let known := ErrorKind.all.map ErrorKind.name
      match v with
      | .text name =>
        match ErrorKind.ofName? name with
        | some kind => (checkDetail fs kind).within name
        | none => Check.fault (.tagUnknown tag name known)
      | v => Check.fault (.tagUnknown tag v.plainText known)
  | _ => Check.fault .dictType

end RunError

namespace Outcome

def toValue (o : Outcome) : Value :=
  .record [("positions", .list (o.positions.map .text)),
    ("error", match o.error with
      | none => .null
      | some e => e.toValue)]

def ofValue (v : Value) : Check Outcome :=
  (Check.record .object v).andThen fun fs =>
    Outcome.mk <$> defaulted "positions" [] (Check.list Check.text) fs
      <*> defaulted "error" none (Check.optional RunError.ofValue) fs

end Outcome

def Check.json {α : Type} (check : Value → Check α) (text : String) : Check α :=
  match Json.read? text with
  | none => fault .invalidJson
  | some v => check v

def RunError.toJson (e : RunError) : String := Json.Layout.compact.print e.toValue

def RunError.ofJson (text : String) : Check RunError := Check.json RunError.ofValue text

def Outcome.toJson (o : Outcome) : String := Json.Layout.compact.print o.toValue

def Outcome.ofJson (text : String) : Check Outcome := Check.json Outcome.ofValue text

end Plateau
