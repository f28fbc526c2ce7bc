import Plateau.Console.Table
import Plateau.Data.Show
import Plateau.Report.Basic

namespace Plateau

open Console

inductive RenderFault where
  | markup (e : MarkupError)
  | unknownOperation (op : String)
  | fewTokens (count : Nat)
  | manyTokens
  deriving DecidableEq, Repr

def RenderFault.message : RenderFault → String
  | .markup e => e.message
  | .unknownOperation op => String.ofList (Text.quoted op.toList)
  | .fewTokens count => s!"not enough values to unpack (expected 3, got {count})"
  | .manyTokens => "too many values to unpack (expected 3)"

namespace Value

def field (v : Value) (key : String) (default : Value) : Value :=
  match v with
  | .record fs => (Fields.get? key fs).getD default
  | _ => default

def toItems : Value → List Value
  | .list vs => vs
  | _ => []

def toFields : Value → Fields
  | .record fs => fs
  | _ => []

/-- A number as a double; anything else counts as zero. -/
def toFloat : Value → Float
  | .float x => x
  | .int n => if n < 0 then -decimalFloat n.natAbs 0 else decimalFloat n.natAbs 0
  | .bool true => 1.0
  | _ => 0.0

end Value

namespace Report

abbrev Rendering := Except RenderFault (List Char)

def defaultWidth : Int := 120

/-- A console for output of some width, where zero and nothing mean the default. -/
def screen (device : Device) (color : Bool) (width : Option Int) : Screen :=
  { width := match width with
      | some 0 => defaultWidth
      | some n => n
      | none => defaultWidth
    device
    color }

def plainText (s : String) : Styled := Styled.ofString .plain s

def statusLine (s : Screen) (label : Styled) (r : Report) : List Char :=
  s.print (Styled.join [' '] [label, Styled.ofString Theme.op s!"  {r.op}"])

def keyLine (s : Screen) (key : String) (value : Value) : List Char :=
  s.print (Styled.join [] [Styled.ofString Theme.key s!"  {key}: ", plainText value.plainText])

def markupLine (s : Screen) (key : String) (value : Value) : Rendering :=
  (s.printMarkup (s!"    {key}: ".toList ++ value.plain)).mapError .markup

def markupLines (s : Screen) : Fields → Rendering
  | [] => .ok []
  | (key, value) :: rest => return (← markupLine s key value) ++ (← markupLines s rest)

def printTable (s : Screen) (t : Table) : Rendering :=
  (s.printTable t).mapError .markup

def positionColumns : List Column :=
  [⟨"Rover", Theme.id, .right⟩, ⟨"X", .plain, .right⟩, ⟨"Y", .plain, .right⟩,
    ⟨"Heading", Theme.heading, .left⟩]

def positionRow (index : Nat) (position : String) : Except RenderFault (List String) :=
  match Text.words position.toList with
  | [x, y, heading] =>
    .ok [toString index, String.ofList x, String.ofList y, String.ofList heading]
  | tokens => .error (if tokens.length < 3 then .fewTokens tokens.length else .manyTokens)

def positionRows (index : Nat) : List String → Except RenderFault (List (List String))
  | [] => .ok []
  | p :: rest => return (← positionRow index p) :: (← positionRows (index + 1) rest)

def positionTable (s : Screen) (positions : List String) : Rendering := do
  printTable s { columns := positionColumns, rows := ← positionRows 0 positions }

def positions (r : Report) : List String :=
  ((Value.record r.data).field "positions" .null).toItems.map Value.plainText

def slowDuration : Float := 100.0

def padLeft (width : Nat) (s : List Char) : List Char :=
  List.replicate (width - s.length) ' ' ++ s

def annotationText (fs : Fields) : List Char :=
  if fs.isEmpty then []
  else
    "  (".toList ++ [',', ' '].intercalate (fs.map fun (k, v) => k.toList ++ '=' :: v.plain) ++
      [')']

def spanLine (indent : Nat) (fs : Fields) : Styled :=
  let span := Value.record fs
  let duration := (span.field "duration_ms" (.float 0.0)).toFloat
  let style := if duration > slowDuration then Theme.slow else Style.dim
  Styled.join []
    [Styled.of .plain (List.replicate indent ' '),
      Styled.of style (padLeft 8 (fixedPlaces 2 duration).toList ++ ['m', 's']),
      Styled.of .plain ([' ', ' '] ++ (span.field "name" (.text "?")).plain ++
        annotationText (span.field "annotations" .null).toFields)]

mutual

/-- The lines of a span and of all below it, four columns further in each time. -/
def spanLines (indent : Nat) : Value → List Styled
  | .record fs => spanLine indent fs :: childLines (indent + 4) fs
  | _ => []

def childLines (indent : Nat) : List (String × Value) → List Styled
  | [] => []
  | (key, value) :: rest =>
    if key == "children" then itemLines indent value else childLines indent rest

def itemLines (indent : Nat) : Value → List Styled
  | .list vs => spanListLines indent vs
  | _ => []

def spanListLines (indent : Nat) : List Value → List Styled
  | [] => []
  | v :: vs => spanLines indent v ++ spanListLines indent vs

end

def timingTree (s : Screen) (tree : Value) : List Char :=
  (spanLines 4 tree).flatMap s.print

def remarkLines (s : Screen) : Fields → Rendering
  | [] => .ok []
  | (key, value) :: rest => do
    let line ← if key == telemetryKey then pure (timingTree s value) else markupLine s key value
    return line ++ (← remarkLines s rest)

def renderRemarks (s : Screen) (r : Report) : Rendering :=
  match r.remarks.getD [] with
  | [] => .ok []
  | fs => return s.printBlank ++ s.print (Styled.ofString Style.dim "  meta:") ++
      (← remarkLines s fs)

def unknownMessage : String := "Unknown error"

def failureMessage (r : Report) : String :=
  match r.error with
  | some f => f.message
  | none => unknownMessage

def renderDetail (s : Screen) : Fields → Rendering
  | [] => .ok []
  | fs => return s.print (Styled.ofString Style.dim "  detail:") ++ (← markupLines s fs)

def renderError (s : Screen) (verbose : Bool) (r : Report) : Rendering := do
  let head := s.print (Styled.join []
    [Styled.ofString Theme.error "ERROR", Styled.ofString Theme.op s!"  {r.op}",
      plainText " — ", plainText (failureMessage r)])
  match verbose, r.error with
  | true, some f =>
    return head ++ keyLine s "code" (.text f.code) ++ (← renderDetail s f.detail) ++
      (← renderRemarks s r)
  | _, _ => return head

def okLabel : Styled := Styled.ofString Theme.ok "OK"

def renderRun (s : Screen) (verbose : Bool) (r : Report) : Rendering := do
  let table ← if r.positions.isEmpty then pure [] else positionTable s r.positions
  let remarks ← if verbose then renderRemarks s r else pure []
  return statusLine s okLabel r ++ keyLine s "rovers" (.int r.positions.length) ++ table ++ remarks

def scenarioColumns (verbose : Bool) : List Column :=
  [⟨"Scenario", .plain, .left⟩, ⟨"Output", Theme.position, .left⟩, ⟨"Error", Theme.error, .left⟩] ++
    if verbose then [⟨"Input", Style.dim, .left⟩] else []

/-- The cells of a scenario; no error leaves its cell empty. -/
def scenarioRow (verbose : Bool) (scenario : Value) : List String :=
  let error := scenario.field "error" .null
  [(scenario.field "name" (.text "")).plainText, (scenario.field "output" (.text "")).plainText,
    if error.isTruthy then error.plainText else ""] ++
    if verbose then [(scenario.field "input" (.text "")).plainText] else []

def scenarios (r : Report) : List Value :=
  ((Value.record r.data).field "scenarios" .null).toItems

def renderDemo (s : Screen) (verbose : Bool) (r : Report) : Rendering := do
  let table ← printTable s
    { columns := scenarioColumns verbose, rows := r.scenarios.map (scenarioRow verbose),
      ruled := true }
  let remarks ← if verbose then renderRemarks s r else pure []
  return statusLine s okLabel r ++ table ++ remarks

def dropNewlines (s : List Char) : List Char :=
  (s.reverse.dropWhile (· == '\n')).reverse

def render (s : Screen) (verbose : Bool) (r : Report) : Rendering :=
  dropNewlines <$>
    if !r.ok then renderError s verbose r
    else if r.op == "run" then renderRun s verbose r
    else if r.op == "demo" then renderDemo s verbose r
    else .error (.unknownOperation r.op)

def renderPartial (s : Screen) (r : Report) : Rendering := do
  if r.positions.isEmpty then return []
  else
    let table ← positionTable s r.positions
    return dropNewlines
      (statusLine s (Styled.ofString Theme.warning "PARTIAL") r ++ table)

def outputOf (data : Value) : List Char :=
  (data.field "output" (.text "")).plain

def renderQuiet (r : Report) : List Char :=
  if !r.ok then s!"ERROR: {r.op} — {failureMessage r}".toList
  else if r.op == "demo" then ['\n'].intercalate (r.scenarios.map outputOf)
  else outputOf (.record r.data)

end Report

end Plateau
