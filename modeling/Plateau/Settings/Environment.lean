import Plateau.Data.Overlay
import Plateau.Json.Read
import Plateau.Text.Letters

namespace Plateau.Environment

def stem : String := "roverctl_"

/-- The keys that stand for themselves, with values as they are written. -/
def plainKeys : List String := ["json_output", "quiet", "verbose", "log_json", "parallel"]

def sections : List (String × List String) :=
  [("runner", ["parallel", "max_workers"]), ("output", ["color", "width"])]

/-- The variables under names in lower case, the last one of a name counting. -/
def lowered (env : List (String × String)) : Fields :=
  Fields.ofPairs (env.map fun (name, value) => (Text.lower name, .text value))

def keysOf : List Char → List (List Char)
  | [] => [[]]
  | '_' :: '_' :: s => [] :: keysOf s
  | c :: s =>
    match keysOf s with
    | [] => [[c]]
    | key :: keys => (c :: key) :: keys

/-- Sets a value under nested keys.  What already has a value that is no record stays. -/
def plant (value : Value) : List String → Fields → Fields
  | [], fs => fs
  | [key], fs => fs.set key value
  | key :: keys, fs =>
    match fs.get? key with
    | none => fs.set key (.record (plant value keys []))
    | some (.record inner) => fs.set key (.record (plant value keys inner))
    | some _ => fs

def after? (start : List Char) (s : List Char) : Option (List Char) :=
  if start.isPrefixOf s then some (s.drop start.length) else none

/-- The fields that variables with nested names set in a section. -/
def nested (name : String) (env : Fields) : Fields :=
  let start := (stem ++ name ++ "__").toList
  env.foldl (fun fs (key, value) =>
    match after? start key.toList with
    | some rest => plant value ((keysOf rest).map String.ofList) fs
    | none => fs) []

def spellKeys (known : List String) (fs : Fields) : Fields :=
  Fields.ofPairs (fs.map fun (key, value) =>
    (if known.contains (Text.lower key) then Text.lower key else key, value))

/-- A section out of the environment, and nothing if it is not set; an error if its variable is no
JSON text.  Null leaves it unset, whatever its nested variables are. -/
def sectionOf (name : String) (known : List String) (env : Fields) :
    Except Unit (Option Value) :=
  match env.get? (stem ++ name) with
  | some (.text document) =>
    match Json.read? document with
    | none => .error ()
    | some .null => .ok none
    | some (.record fs) =>
      .ok (some (.record (spellKeys known (Fields.overlay fs (nested name env)))))
    | some v => .ok (some v)
  | _ =>
    match nested name env with
    | [] => .ok none
    | fs => .ok (some (.record (spellKeys known fs)))

end Plateau.Environment
