import Plateau.Data.Value
import Plateau.Number.FloatText
import Plateau.Text.Hex

namespace Plateau.Json

open Text (hex)

/-- What a layout of JSON text decides. -/
structure Layout where
  comma : List Char
  colon : List Char
  /-- Columns per level, if every item has a line of its own. -/
  indent : Option Nat
  /-- Whether only ASCII characters are written as they are. -/
  asciiOnly : Bool
  floats : FloatLayout

def Layout.compact : Layout :=
  ⟨[','], [':'], none, false, .document⟩

def Layout.pretty : Layout :=
  ⟨[','], [':', ' '], some 2, false, .document⟩

def Layout.log : Layout :=
  ⟨[',', ' '], [':', ' '], none, true, .log⟩

def unitEscape (n : Nat) : List Char :=
  '\\' :: 'u' :: hex 4 n

def charEscape (c : Char) : List Char :=
  let n := c.toNat
  if n < 0x10000 then unitEscape n
  else unitEscape (0xD800 + (n - 0x10000) / 0x400) ++ unitEscape (0xDC00 + (n - 0x10000) % 0x400)

def escape (asciiOnly : Bool) (c : Char) : List Char :=
  if c == '"' then ['\\', '"']
  else if c == '\\' then ['\\', '\\']
  else if c == '\n' then ['\\', 'n']
  else if c == '\r' then ['\\', 'r']
  else if c == '\t' then ['\\', 't']
  else if c == '\x08' then ['\\', 'b']
  else if c == '\x0c' then ['\\', 'f']
  else if c.toNat < 32 || (asciiOnly && 126 < c.toNat) then charEscape c
  else [c]

def quoted (asciiOnly : Bool) (s : String) : List Char :=
  '"' :: (s.toList.flatMap (escape asciiOnly) ++ ['"'])

def Layout.lineStart (l : Layout) (depth : Nat) : List Char :=
  match l.indent with
  | none => []
  | some n => '\n' :: List.replicate (n * depth) ' '

mutual

def Layout.value (l : Layout) (depth : Nat) : Value → List Char
  | .null => ['n', 'u', 'l', 'l']
  | .bool true => ['t', 'r', 'u', 'e']
  | .bool false => ['f', 'a', 'l', 's', 'e']
  | .int n => (toString n).toList
  | .float x => (l.floats.write x).toList
  | .text s => quoted l.asciiOnly s
  | .moment s => quoted l.asciiOnly s
  | .list [] => ['[', ']']
  | .list (v :: vs) =>
    '[' :: (l.lineStart (depth + 1) ++ l.value (depth + 1) v ++ l.items (depth + 1) vs ++
      l.lineStart depth ++ [']'])
  | .record [] => ['{', '}']
  | .record ((k, v) :: fs) =>
    '{' :: (l.lineStart (depth + 1) ++ quoted l.asciiOnly k ++ l.colon ++ l.value (depth + 1) v ++
      l.fields (depth + 1) fs ++ l.lineStart depth ++ ['}'])

def Layout.items (l : Layout) (depth : Nat) : List Value → List Char
  | [] => []
  | v :: vs => l.comma ++ l.lineStart depth ++ l.value depth v ++ l.items depth vs

def Layout.fields (l : Layout) (depth : Nat) : List (String × Value) → List Char
  | [] => []
  | (k, v) :: fs =>
    l.comma ++ l.lineStart depth ++ quoted l.asciiOnly k ++ l.colon ++ l.value depth v ++
      l.fields depth fs

end

def Layout.print (l : Layout) (v : Value) : String :=
  String.ofList (l.value 0 v)

end Plateau.Json
