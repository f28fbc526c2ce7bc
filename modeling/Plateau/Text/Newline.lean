namespace Plateau.Text

def unifyNewlines : List Char → List Char
  | [] => []
  | ['\r'] => ['\n']
  | '\r' :: '\n' :: s => '\n' :: unifyNewlines s
  | '\r' :: c :: s => '\n' :: unifyNewlines (c :: s)
  | c :: s => c :: unifyNewlines s

/-- Reads a backslash that is directly followed by `n` as a line end. -/
def spellNewlines : List Char → List Char
  | [] => []
  | '\\' :: 'n' :: s => '\n' :: spellNewlines s
  | c :: s => c :: spellNewlines s

def escapeNewlines (s : List Char) : List Char :=
  s.flatMap fun c => if c == '\n' then ['\\', 'n'] else [c]

end Plateau.Text
