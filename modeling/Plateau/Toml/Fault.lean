import Plateau.Text.Quoted

namespace Plateau.Toml

abbrev Key := List String

inductive Problem where
  | invalidStatement
  | expectedNewline
  | expectedDelimiter (delimiter : List Char)
  | invalidCharacter (c : Char)
  | illegalCharacter (c : Char)
  | declaredTwice (key : Key)
  | overwrites
  | expectedTableEnd
  | expectedArrayEnd
  | immutableNamespace (key : Key)
  | redefinesNamespace (key : Key)
  | expectedEquals
  | invalidKeyStart
  | unclosedArray
  | duplicateInlineKey (key : String)
  | unclosedInlineTable
  | unescapedBackslash
  | invalidHex
  | notScalar
  | unterminatedText
  | invalidDate
  | invalidValue
  | tooManyDigits (count : Nat)
  deriving DecidableEq, Repr

/-- A problem, met when `left` characters of the document were still unread. -/
structure Fault where
  problem : Problem
  left : Nat
  deriving DecidableEq, Repr

/-- Reads something at the start of a text and gives what follows it. -/
abbrev Step (α : Type) := List Char → Except Fault (α × List Char)

def faultAt {α : Type} (problem : Problem) (rest : List Char) : Except Fault α :=
  .error ⟨problem, rest.length⟩

def quotedText (s : String) : String :=
  String.ofList (Text.quoted s.toList)

def keyText (key : Key) : String :=
  match key with
  | [part] => s!"({quotedText part},)"
  | parts => "(" ++ ", ".intercalate (parts.map quotedText) ++ ")"

def charText (c : Char) : String :=
  String.ofList (Text.quoted [c])

def Problem.message : Problem → String
  | .invalidStatement => "Invalid statement"
  | .expectedNewline => "Expected newline or end of document after a statement"
  | .expectedDelimiter d => s!"Expected {String.ofList (Text.quoted d)}"
  | .invalidCharacter c => s!"Found invalid character {charText c}"
  | .illegalCharacter c => s!"Illegal character {charText c}"
  | .declaredTwice key => s!"Cannot declare {keyText key} twice"
  | .overwrites => "Cannot overwrite a value"
  | .expectedTableEnd => "Expected ']' at the end of a table declaration"
  | .expectedArrayEnd => "Expected ']]' at the end of an array declaration"
  | .immutableNamespace key => s!"Cannot mutate immutable namespace {keyText key}"
  | .redefinesNamespace key => s!"Cannot redefine namespace {keyText key}"
  | .expectedEquals => "Expected '=' after a key in a key/value pair"
  | .invalidKeyStart => "Invalid initial character for a key part"
  | .unclosedArray => "Unclosed array"
  | .duplicateInlineKey key => s!"Duplicate inline table key {quotedText key}"
  | .unclosedInlineTable => "Unclosed inline table"
  | .unescapedBackslash => "Unescaped '\\' in a string"
  | .invalidHex => "Invalid hex value"
  | .notScalar => "Escaped character is not a Unicode scalar value"
  | .unterminatedText => "Unterminated string"
  | .invalidDate => "Invalid date or datetime"
  | .invalidValue => "Invalid value"
  | .tooManyDigits count => s!"value has {count} digits"

def coordinates (document : List Char) (position : Nat) : Nat × Nat :=
  let before := document.take position
  (before.count '\n' + 1, (before.reverse.takeWhile (· != '\n')).length + 1)

def Fault.message (document : List Char) (f : Fault) : String :=
  if f.left == 0 then s!"{f.problem.message} (at end of document)"
  else
    let (line, column) := coordinates document (document.length - f.left)
    s!"{f.problem.message} (at line {line}, column {column})"

end Plateau.Toml
