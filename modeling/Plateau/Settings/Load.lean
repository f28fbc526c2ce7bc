import Plateau.Settings.Discovery
import Plateau.Settings.Environment
import Plateau.Settings.Section
import Plateau.Text.Newline
import Plateau.Text.Utf8
import Plateau.Toml.Document

namespace Plateau

open Check (defaulted)

structure Settings where
  source : Option Path := none
  json : Bool := false
  quiet : Bool := false
  verbose : Bool := false
  logJson : Bool := false
  /-- Overrides the runner section; nothing leaves it alone. -/
  parallel : Option Bool := none
  runner : RunnerConfig := {}
  output : OutputConfig := {}
  deriving DecidableEq, Repr

namespace Settings

inductive LoadFault where
  | unreachable (fault : Discovery.Fault)
  | undecodable (fault : Text.Utf8.Fault)
  | unparsable (path : Path) (message : String)
  | tooManyDigits (count : Nat)
  | unreadableSection (name : String)
  | invalid (faults : List Fault)
  deriving DecidableEq, Repr

def LoadFault.message : LoadFault → String
  | .unreachable fault => fault.message
  | .undecodable fault => fault.message
  | .unparsable path message => s!"Invalid TOML in {path.text}: {message}"
  | .tooManyDigits count => (Numeral.Unreadable.tooManyDigits count).message []
  | .unreadableSection name =>
    s!"error parsing value for field \"{name}\" from source \"EnvSettingsSource\""
  | .invalid _ => "the settings are invalid"

def fileFields (path : Path) (octets : List UInt8) : Except LoadFault Fields :=
  match Text.Utf8.decode octets with
  | .error fault => .error (.undecodable fault)
  | .ok text =>
    match Toml.read (Text.unifyNewlines text) with
    | .ok fs => .ok fs
    | .error (.syntaxError message) => .error (.unparsable path message)
    | .error (.tooManyDigits count) => .error (.tooManyDigits count)

def located (path : Option Path) (h : Host) : Except LoadFault Fields :=
  match path with
  | none => .ok []
  | some path =>
    match h.isFile path, h.openFile path.text with
    | .ok false, _ => .ok []
    | .error fault, _ | .ok true, .error fault => .error (.unreachable (.system path fault))
    | .ok true, .ok octets => fileFields path octets

def configuration (h : Host) (explicit : Option String) (start : Option Path) :
    Except LoadFault (Option Path × Fields) := do
  let path ← (Discovery.locate explicit start h).mapError .unreachable
  return (path, ← located path h)

def environmentSections (env : Fields) :
    List (String × List String) → Except LoadFault Fields
  | [] => .ok []
  | (name, known) :: rest =>
    match Environment.sectionOf name known env with
    | .error () => .error (.unreadableSection name)
    | .ok none => environmentSections env rest
    | .ok (some v) => do return (name, v) :: (← environmentSections env rest)

def environmentFields (env : List (String × String)) : Except LoadFault Fields := do
  let env := Environment.lowered env
  let plain := Environment.plainKeys.filterMap fun key =>
    (env.get? (Environment.stem ++ key)).map (key, ·)
  return plain ++ (← environmentSections env Environment.sections)

/-- The key under which the program itself puts the path of the file. -/
def pathKey : String := "config_path"

def isKnown (key : String) : Bool :=
  key == pathKey || Environment.plainKeys.contains key ||
    (Environment.sections.map (·.1)).contains key

def checkKeys : Fields → Check Unit
  | [] => .valid ()
  | (key, _) :: rest =>
    (fun _ u => u) <$>
      (if isKnown key then .valid () else (Check.fault .extraForbidden).within key)
      <*> checkKeys rest

def ofFields (source : Option Path) (fs : Fields) : Check Settings :=
  (fun s _ => s) <$>
    (Settings.mk source <$> defaulted "json_output" false Check.bool fs
      <*> defaulted "quiet" false Check.bool fs
      <*> defaulted "verbose" false Check.bool fs
      <*> defaulted "log_json" false Check.bool fs
      <*> defaulted "parallel" none (Check.optional Check.bool) fs
      <*> defaulted "runner" {} (RunnerConfig.ofValue (.instanceOf "RunnerConfig")) fs
      <*> defaulted "output" {} (OutputConfig.ofValue (.instanceOf "OutputConfig")) fs)
    <*> checkKeys fs

/-- Loads settings: flags lie over the environment, and both over the file. -/
def load (h : Host) (explicit : Option String) (start : Option Path) (flags : Fields) :
    Except LoadFault Settings := do
  let (path, file) ← configuration h explicit start
  let environment ← environmentFields h.env
  let flags := flags.filter fun (_, value) => !value.isNull
  ((ofFields path (Fields.overlay file (Fields.overlay environment flags))).toExcept).mapError
    .invalid

def runnerConfig (s : Settings) : RunnerConfig :=
  match s.parallel with
  | none => s.runner
  | some parallel => { s.runner with parallel }

def outputSettings (s : Settings) : OutputSettings :=
  ⟨s.json, s.quiet, s.verbose, s.output.color, some s.output.width⟩

def toValue (s : Settings) : Value :=
  .record [(pathKey, match s.source with
      | none => .null
      | some p => .text p.text),
    ("json_output", .bool s.json), ("quiet", .bool s.quiet), ("verbose", .bool s.verbose),
    ("log_json", .bool s.logJson),
    ("parallel", match s.parallel with
      | none => .null
      | some b => .bool b),
    ("runner", s.runner.toValue), ("output", s.output.toValue)]

end Settings

end Plateau
