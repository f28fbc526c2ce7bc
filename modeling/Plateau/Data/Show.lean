import Plateau.Data.Value
import Plateau.Number.FloatText
import Plateau.Text.Quoted

namespace Plateau.Value

open Text (quoted)

mutual

def literal : Value → List Char
  | .null => ['N', 'o', 'n', 'e']
  | .bool true => ['T', 'r', 'u', 'e']
  | .bool false => ['F', 'a', 'l', 's', 'e']
  | .int n => (toString n).toList
  | .float x => (FloatLayout.plain.write x).toList
  | .text s => quoted s.toList
  | .moment s => s.toList
  | .list [] => ['[', ']']
  | .list (v :: vs) => '[' :: (v.literal ++ literals vs ++ [']'])
  | .record [] => ['{', '}']
  | .record ((k, v) :: fs) =>
    '{' :: (quoted k.toList ++ ':' :: ' ' :: v.literal ++ literalFields fs ++ ['}'])

def literals : List Value → List Char
  | [] => []
  | v :: vs => ',' :: ' ' :: v.literal ++ literals vs

def literalFields : List (String × Value) → List Char
  | [] => []
  | (k, v) :: fs => ',' :: ' ' :: quoted k.toList ++ ':' :: ' ' :: v.literal ++ literalFields fs

end

def plain : Value → List Char
  | .text s => s.toList
  | v => v.literal

def plainText (v : Value) : String :=
  String.ofList v.plain

/-- Whether a value counts as something: neither null, nor false, nor zero, nor empty. -/
def isTruthy : Value → Bool
  | .null => false
  | .bool b => b
  | .int n => n != 0
  | .float x => x != 0.0
  | .text s => !s.isEmpty
  | .list vs => !vs.isEmpty
  | .record fs => !fs.isEmpty
  | .moment _ => true

end Plateau.Value
