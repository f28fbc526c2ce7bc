import Plateau.Cli.Help

namespace Plateau.Cli

def program : String := "roverctl"

def version : String := "0.1.0"

inductive RootOption where
  | version
  | json
  | quiet
  | verbose
  | logJson
  | config
  | parallel
  | sequential
  | help
  deriving DecidableEq, Repr

inductive ActionOption where
  | instructions
  | examples
  | help
  deriving DecidableEq, Repr

inductive Action where
  | demo
  | run
  deriving DecidableEq, Repr

def helpText : String := "Show this message and exit."

def root : Command RootOption where
  path := program
  arguments := "[OPTIONS] [COMMAND] [ARGS]..."
  about := ["roverctl — guide rovers across a bounded plateau."]
  options :=
    [{ names := ["--version"], tag := .version, help := "Show the version and exit." },
      { names := ["--json"], tag := .json, help := "Structured JSON output." },
      { names := ["-q", "--quiet"], tag := .quiet, help := "Bare rover positions only." },
      { names := ["-v", "--verbose"], tag := .verbose,
        help := "Detailed output with debug info." },
      { names := ["--log-json"], tag := .logJson,
        help := "Structured JSON log output to stderr." },
      { names := ["-c", "--config"], tag := .config, value := some "TEXT",
        help := "Override config file path." },
      { names := ["--parallel"], tag := .parallel, opposite := some ("--sequential", .sequential),
        help := "Guide rovers on a thread pool (overrides [runner] parallel)." },
      { names := ["--help"], tag := .help, help := helpText }]

def examplesOption : Opt ActionOption :=
  { names := ["--examples"], tag := .examples, help := "Show usage examples." }

def helpOption : Opt ActionOption :=
  { names := ["--help"], tag := .help, help := helpText }

namespace Action

def all : List Action := [demo, run]

def name : Action → String
  | demo => "demo"
  | run => "run"

def ofName? (s : String) : Option Action :=
  all.find? (·.name == s)

def command : Action → Command ActionOption
  | demo =>
    { path := s!"{program} {demo.name}"
      arguments := "[OPTIONS]"
      about := ["Run the example scenarios, including one where a rover leaves the surface."]
      options := [examplesOption, helpOption] }
  | run =>
    { path := s!"{program} {run.name}"
      arguments := "[OPTIONS] [SOURCE]"
      about :=
        ["Guide rovers across a surface using the instructions in SOURCE.",
          "SOURCE is a file path, or '-' to read standard input.  On failure the positions of " ++
            "rovers that finished before the error are still printed."]
      options :=
        [{ names := ["-i", "--instructions"], tag := .instructions, value := some "TEXT",
           help := "Instruction set given inline. Literal '\\n' sequences are line breaks." },
          examplesOption, helpOption] }

def examples : Action → List String
  | demo => ["roverctl demo", "roverctl --verbose demo", "roverctl --json demo"]
  | run =>
    ["roverctl run instructions.txt",
      "cat instructions.txt | roverctl run -",
      "roverctl run -i '5 5\\n1 2 N\\nLMLMLMLMM'",
      "roverctl --quiet run instructions.txt",
      "roverctl --json --parallel run instructions.txt"]

def arity : Action → Nat
  | demo => 0
  | run => 1

def examplesText (a : Action) : String :=
  s!"Examples for '{a.command.path}':\n\n" ++ "\n".intercalate (a.examples.map (blanks margin ++ ·))

end Action

def rootHelp : String :=
  root.help (Action.all.map fun a => (a.name, a.command.about.headD ""))

end Plateau.Cli
