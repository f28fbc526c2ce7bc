import Plateau.Files.Tree
import Plateau.Text.Quoted

namespace Plateau

/-- What a program sees of the machine it runs on. -/
structure Host where
  env : List (String × String) := []
  files : FileTree := .empty
  directory : Place := []

namespace Host

open FileTree (Spot)

/-- The value of an environment variable, and nothing if it is unset or empty. -/
def valueOf? (name : String) (h : Host) : Option String :=
  ((h.env.find? (·.1 == name)).map (·.2)).filter (· != "")

def route (p : Path) (h : Host) : List String :=
  if p.isAbsolute then p.names else h.directory ++ p.names

def base (text : String) (h : Host) : Except FileTree.Fault Spot :=
  if Path.isRooted text then .ok { here := h.files }
  else match Spot.descend { here := h.files } h.directory with
    | none => .error .missing
    | some s => .ok s

def lookUp (text : String) (h : Host) : Except FileTree.Fault FileTree :=
  if text.isEmpty then .error .missing
  else if FileTree.pathLimit < text.utf8ByteSize then .error .nameTooLong
  else do
    let s ← h.base text
    return (← s.follow FileTree.linkLimit (Path.parts text)).here

/-- Whether a file stands at a path.  A fault that does not tell that none does is passed on. -/
def isFile (p : Path) (h : Host) : Except FileTree.Fault Bool :=
  if p.text.toList.contains '\x00' then .ok false
  else match h.lookUp p.text with
    | .ok t => .ok t.isRegular
    | .error fault => if fault.isAbsence then .ok false else .error fault

def openFile (text : String) (h : Host) : Except FileTree.Fault (List UInt8) := do
  (← h.lookUp text).read

def linkIn (p : Path) (name : String) (h : Host) : Option String :=
  if FileTree.pathLimit < (p.child name).text.utf8ByteSize ∨
      FileTree.nameLimit < name.utf8ByteSize then none
  else match h.lookUp p.text with
    | .ok (.directory entries true) =>
      match FileTree.child? name entries with
      | some (.link target) => some target
      | _ => none
    | _ => none

/-- Goes along the parts of a path from a path without links on, and asks `enter` where a link
leads.  If it leads nowhere the rest is taken as it stands. -/
def resolveParts (enter : Path → String → Path × Bool) (p : Path) (h : Host) :
    List String → Path × Bool
  | [] => (p, true)
  | part :: rest =>
    if !Path.isName part then resolveParts enter p h rest
    else if part == ".." then resolveParts enter p.outer h rest
    else match h.linkIn p part with
      | none => resolveParts enter (p.child part) h rest
      | some target =>
        match enter (p.child part) target with
        | (q, true) => resolveParts enter q h rest
        | (q, false) => (q.join rest, false)

/-- Resolves parts within links that are being resolved.  One of those that is met again leads
nowhere, and so does one that is too deep. -/
def resolveWithin (h : Host) : Nat → List Path → Path → List String → Path × Bool
  | 0, _, p => resolveParts (fun link _ => (link, false)) p h
  | depth + 1, links, p => resolveParts (fun link target =>
      if link ∈ links then (link, false)
      else resolveWithin h depth (link :: links)
        (if Path.isRooted target then .root else link.outer) (Path.parts target)) p h

def depthLimit : Nat := 900

inductive Unresolved where
  | nullByte
  | circle (place : Place)
  deriving DecidableEq, Repr

/-- The place that a path names when its links are resolved, those that exist. -/
def resolve (p : Path) (h : Host) : Except Unresolved Place :=
  if p.text.toList.contains '\x00' then .error .nullByte
  else
    let start : Path := if p.isAbsolute then .root else .here
    let place := (h.resolveWithin depthLimit [] start p.names).1.resolve h.directory
    match h.lookUp (Path.ofPlace place).text with
    | .error .tooManyLinks => .error (.circle place)
    | _ => .ok place

end Host

end Plateau
