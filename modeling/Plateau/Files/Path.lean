import Plateau.Text.Blank

namespace Plateau

abbrev Place := List String

/-- A path of names, which begins at the root if it has slashes in front.  Two of them are told from
one; more than two count as one. -/
structure Path where
  slashes : Nat := 0
  names : List String
  deriving DecidableEq, Repr

namespace Path

def parts (text : String) : List String :=
  (Text.pieces (· == '/') text.toList).map String.ofList

def isRooted (text : String) : Bool :=
  text.toList.head? == some '/'

/-- Empty parts and the part `.` lead nowhere. -/
def isName (part : String) : Bool :=
  part != "" && part != "."

def ofText (text : String) : Path :=
  let lead := (text.toList.takeWhile (· == '/')).length
  ⟨if 2 < lead then 1 else lead, (parts text).filter isName⟩

/-- A path as text; the path without names is the working directory. -/
def text (p : Path) : String :=
  if p.slashes == 0 && p.names.isEmpty then "."
  else String.ofList (List.replicate p.slashes '/') ++ "/".intercalate p.names

def isAbsolute (p : Path) : Bool := p.slashes != 0

def ofPlace (place : Place) : Path := ⟨1, place⟩

def root : Path := ⟨1, []⟩

def here : Path := ⟨0, []⟩

def child (p : Path) (name : String) : Path :=
  { p with names := p.names ++ [name] }

/-- What the parts of a path name from another path on: a slash in front leads back to the root. -/
def join (p : Path) (parts : List String) : Path :=
  match parts with
  | "" :: _ :: _ => ⟨1, parts.filter isName⟩
  | _ => { p with names := p.names ++ parts.filter isName }

/-- One step back; a relative path may go back further than it leads on. -/
def outer (p : Path) : Path :=
  match p.isAbsolute, p.names.getLast? with
  | false, none | false, some ".." => p.child ".."
  | _, _ => { p with names := p.names.dropLast }

def step (place : Place) (name : String) : Place :=
  if name == ".." then place.dropLast else place ++ [name]

def resolve (p : Path) (directory : Place) : Place :=
  p.names.foldl step (if p.isAbsolute then [] else directory)

end Path

end Plateau
