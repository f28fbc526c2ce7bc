import Plateau.Text.Quoted

namespace Plateau.Numeral

def digitLimit : Nat := 4300

def tooLong : Nat := Nat.pow 10 digitLimit

inductive Overflow where
  | tooManyDigits
  deriving DecidableEq, Repr

def Overflow.message : Overflow → String
  | .tooManyDigits =>
    s!"Exceeds the limit ({digitLimit} digits) for integer string conversion; " ++
      "use sys.set_int_max_str_digits() to increase the limit"

inductive Unreadable where
  | notNumeral
  | tooManyDigits (count : Nat)
  deriving DecidableEq, Repr

def Unreadable.message (token : List Char) : Unreadable → String
  | .notNumeral => s!"{String.ofList (Text.quoted token)} is not an integer"
  | .tooManyDigits count =>
    s!"Exceeds the limit ({digitLimit} digits) for integer string conversion: value has " ++
      s!"{count} digits; use sys.set_int_max_str_digits() to increase the limit"

def splitSign : List Char → Option Char × List Char
  | [] => (none, [])
  | c :: s => if c == '+' || c == '-' then (some c, s) else (none, c :: s)

def isDigits (s : List Char) : Bool :=
  !s.isEmpty && s.all Char.isDigit

/-- The value of `[+-]?[0-9]+`. -/
def read (s : List Char) : Except Unreadable Int :=
  let (sign, digits) := splitSign s
  if !isDigits digits then .error .notNumeral
  else if digits.length > digitLimit then .error (.tooManyDigits digits.length)
  else if sign == some '-' then .ok (-Nat.ofDigitChars 10 digits 0)
  else .ok (Nat.ofDigitChars 10 digits 0)

def write (n : Int) : Except Overflow String :=
  if n.natAbs < tooLong then .ok (toString n) else .error .tooManyDigits

end Plateau.Numeral
