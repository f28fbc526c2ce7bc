import Plateau.Cli.Command
import Plateau.Log.Setup
import Plateau.Report.Format
import Plateau.Service.Demo
import Plateau.Settings.Load
import Plateau.Text.Codes

namespace Plateau.Cli

/-- What a call depends on besides its arguments. -/
structure Surroundings where
  host : Host
  input : List UInt8 := []
  clock : Telemetry.Clock
  stamp : String
  device : Console.Device := { terminal := false }
  /-- The machine at each run of an instruction set. -/
  machines : Nat → Machine := fun _ => {}

/-- What ends a call with no message of its own. -/
inductive Crash where
  | settings (fault : Settings.LoadFault)
  | input (fault : Text.Utf8.Fault)
  | sourcePath
  | run (fault : RunFault)
  | render (fault : RenderFault)

def Crash.message : Crash → String
  | .settings fault => fault.message
  | .input fault => fault.message
  | .sourcePath => "embedded null byte"
  | .run fault => fault.message
  | .render fault => fault.message

/-- What a call writes, and how it ends. -/
structure Reply where
  output : List Char := []
  errors : List Char := []
  exitCode : Nat := 0
  crash : Option Crash := none

/-- A text as it is written: a line of its own, without control codes. -/
def line (s : List Char) : List Char :=
  Text.dropCodes (s ++ ['\n'])

namespace Reply

def say (s : String) : Reply := { output := line s.toList }

def misused {α : Type} (c : Command α) (m : Misuse) : Reply :=
  { errors := line (c.complaint m).toList, exitCode := 2 }

def crashed (errors : List Char) (crash : Crash) : Reply :=
  { errors, exitCode := 1, crash := some crash }

end Reply

def firstOf {α : Type} (answers : α → Bool) (uses : List (Use α)) : Option α :=
  (uses.find? (answers ·.tag)).map (·.tag)

def emitReport (device : Console.Device) (settings : OutputSettings) (r : Report) :
    Except RenderFault Reply := do
  let text ← r.format device settings
  if r.ok then return { output := line text }
  else
    let partialText ← r.formatPartial device settings
    return {
      output := if partialText.isEmpty then [] else line partialText
      errors := line text
      exitCode := 1 }

def logSetup (s : Settings) : Log.Setup :=
  ({} : Log.Setup).configure ⟨s.verbose, s.quiet, s.logJson⟩

def perform (env : Surroundings) (s : Settings) (work : Service.Work Report) : Reply :=
  let (result, tracer) := work { enabled := s.verbose, clock := env.clock }
  let log := (logSetup s).emitAll env.stamp tracer.log
  match result with
  | .error fault => .crashed log (.run fault)
  | .ok report =>
    match emitReport env.device s.outputSettings report with
    | .error fault => .crashed log (.render fault)
    | .ok reply => { reply with errors := log ++ reply.errors }

inductive Source where
  | inline (text : String)
  | stream (name : String) (octets : List UInt8)

namespace Source

def name : Source → String
  | inline _ => "<instructions>"
  | stream name _ => name

/-- The instructions; line ends are spelled out inline, and of any kind in a stream. -/
def text : Source → Except Text.Utf8.Fault (List Char)
  | inline text => .ok (Text.spellNewlines text.toList)
  | stream _ octets => Text.unifyNewlines <$> Text.Utf8.decode octets

end Source

def inputPath : String := "-"

def openSource (env : Surroundings) (path : String) : Except FileTree.Fault Source :=
  if path == inputPath then .ok (.stream "<stdin>" env.input)
  else (env.host.openFile path).map (.stream path)

def chooseSource (file : Option Source) (text : Option String) : Except Misuse Source :=
  match file, text with
  | some _, some _ => .error .twoSources
  | none, none => .error .noSource
  | some source, none => .ok source
  | none, some text => .ok (.inline text)

def runSource (env : Surroundings) (s : Settings) (source : Source) : Reply :=
  match source.text with
  | .error fault => .crashed [] (.input fault)
  | .ok text => perform env s (Service.run s.runnerConfig source.name text (env.machines 0))

namespace Action

def answersItself : ActionOption → Bool
  | .instructions => false
  | _ => true

def perform (a : Action) (env : Surroundings) (s : Settings) (file : Option Source)
    (text : Option String) : Reply :=
  match a with
  | demo => Cli.perform env s (Service.demo s.runnerConfig Service.scenarios env.machines)
  | run =>
    match chooseSource file text with
    | .error m => .misused a.command m
    | .ok source => runSource env s source

/-- Opens the source among the arguments, then refuses what is too many. -/
def start (a : Action) (env : Surroundings) (s : Settings) (text : Option String)
    (others : List String) : Reply :=
  let extra := others.drop a.arity
  match (others.take a.arity).head? with
  | none => refuse extra none
  | some path =>
    if path.contains '\x00' then .crashed [] .sourcePath
    else match openSource env path with
      | .error fault => .misused a.command (.unreadableSource path fault.message)
      | .ok source => refuse extra (some source)
where
  refuse (extra : List String) (file : Option Source) : Reply :=
    match extra with
    | [] => a.perform env s file text
    | first :: rest => .misused a.command (.extraArguments first rest)

def call (a : Action) (env : Surroundings) (s : Settings) (arguments : List String) : Reply :=
  match scan true a.command.options none arguments with
  | .error m => .misused a.command m
  | .ok (uses, others) =>
    match firstOf answersItself uses with
    | some .examples => .say a.examplesText
    | some _ => .say (a.command.help [])
    | none => a.start env s (lastValue? .instructions uses) others

end Action

namespace RootOption

def answersItself : RootOption → Bool
  | .version => true
  | .help => true
  | _ => false

end RootOption

def answerTo : RootOption → Reply
  | .version => .say s!"{program}, version {version}"
  | _ => .say rootHelp

/-- The choice between workers and one after the other; the last use counts. -/
def parallelFlag (uses : List (Use RootOption)) : Value :=
  match (uses.filter fun u => u.tag == .parallel || u.tag == .sequential).getLast? with
  | none => .null
  | some u => .bool (u.tag == .parallel)

/-- The settings that the options of the program set.  A switch that is not used says no. -/
def flagsOf (uses : List (Use RootOption)) : Fields :=
  let used (tag : RootOption) : Value := .bool (uses.any (·.tag == tag))
  [("json_output", used .json), ("quiet", used .quiet), ("verbose", used .verbose),
    ("log_json", used .logJson), ("parallel", parallelFlag uses)]

def withSettings (env : Surroundings) (uses : List (Use RootOption)) (go : Settings → Reply) :
    Reply :=
  match Settings.load env.host (lastValue? .config uses) none (flagsOf uses) with
  | .ok s => go s
  | .error (.unparsable path message) =>
    { errors := line s!"Error: {(Settings.LoadFault.unparsable path message).message}".toList
      exitCode := 1 }
  | .error fault => .crashed [] (.settings fault)

/-- The reply to a name that is no command.  If it looks like an option it is read as one first. -/
def unknownCommand (name : String) (rest : List String) : Reply :=
  match scan false root.options none (name :: rest) with
  | .error m => .misused root m
  | .ok (uses, _) =>
    match firstOf RootOption.answersItself uses with
    | some tag => answerTo tag
    | none => .misused root (.unknownCommand name (Text.closest name (Action.all.map Action.name)))

def call (env : Surroundings) (arguments : List String) : Reply :=
  match scan false root.options none arguments with
  | .error m => .misused root m
  | .ok (uses, others) =>
    match firstOf RootOption.answersItself uses, others with
    | some tag, _ => answerTo tag
    | none, [] => withSettings env uses fun _ => .say rootHelp
    | none, name :: rest =>
      match Action.ofName? name with
      | none => unknownCommand name rest
      | some action => withSettings env uses fun s => action.call env s rest

end Plateau.Cli
