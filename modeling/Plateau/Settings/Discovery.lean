import Plateau.Files.Host

namespace Plateau.Discovery

def fileName : String := "roverctl.toml"

def choiceVariable : String := "ROVERCTL_CONFIG"

inductive Fault where
  | system (path : Path) (fault : FileTree.Fault)
  | start (fault : Host.Unresolved)
  deriving DecidableEq, Repr

def Fault.message : Fault → String
  | .system path fault =>
    s!"[Errno {fault.number}] {fault.message}: {String.ofList (Text.quoted path.text.toList)}"
  | .start .nullByte => "embedded null byte"
  | .start (.circle place) =>
    s!"Symlink loop from {String.ofList (Text.quoted (Path.ofPlace place).text.toList)}"

/-- A place and the places above it, the root last. -/
def upward (place : Place) : List Place :=
  go place.reverse
where
  go : List String → List Place
    | [] => [[]]
    | name :: outer => (name :: outer).reverse :: go outer

def pathIn (place : Place) : Path :=
  .ofPlace (place ++ [fileName])

def firstFile (h : Host) : List Path → Except Fault (Option Path)
  | [] => .ok none
  | p :: rest =>
    match h.isFile p with
    | .error fault => .error (.system p fault)
    | .ok true => .ok (some p)
    | .ok false => firstFile h rest

def chosen (p : Path) (h : Host) : Except Fault (Option Path) :=
  firstFile h [p]

/-- The configuration file in the deepest directory, from a place upwards, that has one. -/
def nearest (place : Place) (h : Host) : Except Fault (Option Path) :=
  firstFile h ((upward place).map pathIn)

def origin (start : Option Path) (h : Host) : Except Fault Place :=
  (h.resolve (start.getD (.ofPlace h.directory))).mapError .start

/-- The file that the environment chooses, else the nearest one.  A choice that is no file is
final. -/
def find (start : Option Path) (h : Host) : Except Fault (Option Path) :=
  match h.valueOf? choiceVariable with
  | some text => chosen (.ofText text) h
  | none => do nearest (← origin start h) h

/-- Like `find`, but an explicit choice comes first. -/
def locate (explicit : Option String) (start : Option Path) (h : Host) :
    Except Fault (Option Path) :=
  match explicit.filter (· != "") with
  | some text => chosen (.ofText text) h
  | none => find start h

end Plateau.Discovery
