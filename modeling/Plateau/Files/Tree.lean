import Plateau.Files.Path

namespace Plateau

/-- A file and whether it may be read, a directory and whether its entries may be reached, or a link
with the path that it holds. -/
inductive FileTree where
  | file (content : List UInt8) (readable : Bool := true)
  | directory (entries : List (String × FileTree)) (searchable : Bool := true)
  | link (target : String)
  deriving Inhabited

namespace FileTree

def empty : FileTree := directory []

def entries : FileTree → List (String × FileTree)
  | directory es _ => es
  | _ => []

def child? (name : String) : List (String × FileTree) → Option FileTree
  | [] => none
  | (n, t) :: rest => if n == name then some t else child? name rest

def setChild (name : String) (t : FileTree) : List (String × FileTree) → List (String × FileTree)
  | [] => [(name, t)]
  | (n, u) :: rest => if n == name then (n, t) :: rest else (n, u) :: setChild name t rest

def alter (f : FileTree → FileTree) : Place → FileTree → FileTree
  | [], t => f t
  | name :: rest, t =>
    directory (setChild name (alter f rest ((child? name t.entries).getD empty)) t.entries)

def addFile (place : Place) (content : List UInt8) (t : FileTree) : FileTree :=
  t.alter (fun _ => file content) place

def addDirectory (place : Place) (t : FileTree) : FileTree :=
  t.alter (fun u => directory u.entries) place

/-- What the system says of a path that it cannot follow, or of what it cannot read. -/
inductive Fault where
  | missing
  | denied
  | notDirectory
  | isDirectory
  | nameTooLong
  | tooManyLinks
  deriving DecidableEq, Repr

namespace Fault

def number : Fault → Nat
  | missing => 2
  | denied => 13
  | notDirectory => 20
  | isDirectory => 21
  | nameTooLong => 36
  | tooManyLinks => 40

def message : Fault → String
  | missing => "No such file or directory"
  | denied => "Permission denied"
  | notDirectory => "Not a directory"
  | isDirectory => "Is a directory"
  | nameTooLong => "File name too long"
  | tooManyLinks => "Too many levels of symbolic links"

/-- Whether the fault tells that nothing stands at the path. -/
def isAbsence : Fault → Bool
  | missing | notDirectory | tooManyLinks => true
  | _ => false

end Fault

def nameLimit : Nat := 255

def pathLimit : Nat := 4095

def linkLimit : Nat := 40

/-- What stands somewhere, and the directories around it, the innermost first. -/
structure Spot where
  here : FileTree
  around : List FileTree := []

namespace Spot

def up (s : Spot) : Spot :=
  match s.around with
  | [] => s
  | outer :: rest => ⟨outer, rest⟩

def root (s : Spot) : Spot := ⟨s.around.getLast?.getD s.here, []⟩

def base (s : Spot) (target : String) : Spot :=
  if Path.isRooted target then s.root else s

/-- Goes down to a place, whether its directories may be searched or not. -/
def descend (s : Spot) : Place → Option Spot
  | [] => some s
  | name :: rest =>
    match child? name s.here.entries with
    | none => none
    | some t => descend ⟨t, s.here :: s.around⟩ rest

/-- Follows parts of a path, each of which has to start from a directory.  From a link on, its own
parts and those that are left are followed by `onward`. -/
def walk (onward : Spot → List String → Except Fault Spot) (s : Spot) :
    List String → Except Fault Spot
  | [] => .ok s
  | part :: rest =>
    match s.here with
    | .directory entries searchable =>
      if part == "" then walk onward s rest
      else if !searchable then .error .denied
      else if part == "." then walk onward s rest
      else if part == ".." then walk onward s.up rest
      else if nameLimit < part.utf8ByteSize then .error .nameTooLong
      else match child? part entries with
        | none => .error .missing
        | some (.link target) => onward (s.base target) (Path.parts target ++ rest)
        | some t => walk onward ⟨t, s.here :: s.around⟩ rest
    | _ => .error .notDirectory

def follow : Nat → Spot → List String → Except Fault Spot
  | 0 => walk fun _ _ => .error .tooManyLinks
  | links + 1 => walk (follow links)

end Spot

def isRegular : FileTree → Bool
  | file .. => true
  | _ => false

def read : FileTree → Except Fault (List UInt8)
  | file content true => .ok content
  | file _ false => .error .denied
  | directory .. => .error .isDirectory
  | link _ => .error .tooManyLinks

end FileTree

end Plateau
