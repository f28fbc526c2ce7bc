import Plateau.Text.Hex
import Plateau.Text.Printable

namespace Plateau.Text

def escape (quote c : Char) : List Char :=
  let n := c.toNat
  if c == quote || c == '\\' then ['\\', c]
  else if c == '\n' then ['\\', 'n']
  else if c == '\r' then ['\\', 'r']
  else if c == '\t' then ['\\', 't']
  else if n < 32 || n == 127 then '\\' :: 'x' :: hex 2 n
  else if n < 127 || isPrintable c then [c]
  else if n < 0x100 then '\\' :: 'x' :: hex 2 n
  else if n < 0x10000 then '\\' :: 'u' :: hex 4 n
  else '\\' :: 'U' :: hex 8 n

/-- Single quotes, unless the text holds one and no double quote. -/
def quoteFor (s : List Char) : Char :=
  if s.contains '\'' && !s.contains '"' then '"' else '\''

def quoted (s : List Char) : List Char :=
  quoteFor s :: (s.flatMap (escape (quoteFor s)) ++ [quoteFor s])

end Plateau.Text
