import Plateau.Text.Quoted
import Plateau.Text.Similar

namespace Plateau.Cli

/-- An option of a command and what it stands for. -/
structure Opt (α : Type) where
  names : List String
  tag : α
  /-- Names of the opposite option, and what that stands for. -/
  opposite : Option (String × α) := none
  value : Option String := none
  help : String

structure Use (α : Type) where
  tag : α
  value : String := ""
  deriving DecidableEq

inductive Misuse where
  | unknownOption (name : String) (near : List String)
  | needsValue (name : String)
  | takesNoValue (name : String)
  | unknownCommand (name : String) (near : List String)
  | extraArguments (first : String) (rest : List String)
  | unreadableSource (path reason : String)
  | twoSources
  | noSource
  deriving DecidableEq, Repr

namespace Misuse

def quoted (s : String) : String :=
  String.ofList (Text.quoted s.toList)

def proposal (kind : String) (near : List String) : String :=
  match near with
  | [] => ""
  | [name] => s!" Did you mean {quoted name}?"
  | names =>
    s!" (Possible {kind}: " ++ ", ".intercalate ((names.mergeSort (· ≤ ·)).map quoted) ++ ")"

def message : Misuse → String
  | unknownOption name near => s!"No such option {quoted name}." ++ proposal "options" near
  | needsValue name => s!"Option {quoted name} requires an argument."
  | takesNoValue name => s!"Option {quoted name} does not take a value."
  | unknownCommand name near => s!"No such command {quoted name}." ++ proposal "commands" near
  | extraArguments first [] => s!"Got unexpected extra argument ({first})"
  | extraArguments first rest =>
    "Got unexpected extra arguments (" ++ " ".intercalate (first :: rest) ++ ")"
  | unreadableSource path reason => s!"Invalid value for '[SOURCE]': '{path}': {reason}"
  | twoSources => "Give either SOURCE or --instructions, not both."
  | noSource => "Missing SOURCE (use '-' for stdin) or --instructions."

def tellsUsage : Misuse → Bool
  | needsValue _ => false
  | takesNoValue _ => false
  | _ => true

end Misuse

namespace Opt

variable {α : Type}

def spellings (o : Opt α) : List (String × α) :=
  o.names.map (·, o.tag) ++ o.opposite.toList

def find? (options : List (Opt α)) (name : String) : Option (α × Bool) :=
  options.findSome? fun o =>
    (o.spellings.find? (·.1 == name)).map fun (_, tag) => (tag, o.value.isSome)

def isLong (name : String) : Bool :=
  name.startsWith "--"

def longNames (options : List (Opt α)) : List String :=
  (options.flatMap fun o => o.spellings.map (·.1)).filter isLong

end Opt

variable {α : Type}

/-- What an argument says: the options it uses, and the one to which it still owes a value. -/
structure Reading (α : Type) where
  uses : List (Use α)
  owed : Option (α × String) := none

/-- Reads one-letter options that share a dash; what follows one with a value is its value. -/
def readCluster (options : List (Opt α)) : List Char → Except Misuse (Reading α)
  | [] => .ok ⟨[], none⟩
  | c :: s =>
    let name := String.ofList ['-', c]
    match Opt.find? options name with
    | none => .error (.unknownOption name [])
    | some (tag, true) =>
      if s.isEmpty then .ok ⟨[], some (tag, name)⟩ else .ok ⟨[⟨tag, String.ofList s⟩], none⟩
    | some (tag, false) => do
      let r ← readCluster options s
      return { r with uses := ⟨tag, ""⟩ :: r.uses }

def splitValue (argument : List Char) : List Char × Option (List Char) :=
  match argument.dropWhile (· != '=') with
  | [] => (argument, none)
  | _ :: value => (argument.takeWhile (· != '='), some value)

def readOption (options : List (Opt α)) (argument : List Char) : Except Misuse (Reading α) :=
  let (name, value) := splitValue argument
  let name := String.ofList name
  match if name.length == 2 then none else Opt.find? options name, value with
  | some (tag, true), some value => .ok ⟨[⟨tag, String.ofList value⟩], none⟩
  | some (tag, true), none => .ok ⟨[], some (tag, name)⟩
  | some (_, false), some _ => .error (.takesNoValue name)
  | some (tag, false), none => .ok ⟨[⟨tag, ""⟩], none⟩
  | none, _ =>
    if Opt.isLong name then .error (.unknownOption name (Text.closest name (Opt.longNames options)))
    else readCluster options (argument.drop 1)

def looksLikeOption : List Char → Bool
  | '-' :: _ :: _ => true
  | _ => false

/-- Reads arguments: the options used, in order, and the other arguments.  Two dashes end the
options, and so does the first other argument unless the two may be mixed.  `owed` is an option
whose value comes next. -/
def scan (mixed : Bool) (options : List (Opt α)) (owed : Option (α × String)) :
    List String → Except Misuse (List (Use α) × List String)
  | [] =>
    match owed with
    | some (_, name) => .error (.needsValue name)
    | none => .ok ([], [])
  | a :: rest =>
    match owed with
    | some (tag, _) => do
      let (uses, others) ← scan mixed options none rest
      return (⟨tag, a⟩ :: uses, others)
    | none =>
      if a == "--" then .ok ([], rest)
      else if looksLikeOption a.toList then do
        let reading ← readOption options a.toList
        let (uses, others) ← scan mixed options reading.owed rest
        return (reading.uses ++ uses, others)
      else if mixed then do
        let (uses, others) ← scan mixed options none rest
        return (uses, a :: others)
      else .ok ([], a :: rest)

def lastValue? [BEq α] (tag : α) (uses : List (Use α)) : Option String :=
  ((uses.filter (·.tag == tag)).getLast?).map (·.value)

end Plateau.Cli
