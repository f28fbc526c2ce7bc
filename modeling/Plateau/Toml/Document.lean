import Plateau.Toml.Scalar

namespace Plateau.Toml

/-- Changes the fields of the table behind a key, making the tables on the way.  Through an array of
tables the way leads to its last one, if arrays may be passed. -/
def inTable (arrays : Bool) (change : Fields → Except Problem Fields) :
    Key → Fields → Except Problem Fields
  | [], fields => change fields
  | part :: rest, fields =>
    match fields.get? part with
    | none => do
      let inner ← inTable arrays change rest []
      return fields.set part (.record inner)
    | some (.record inner) => do
      let inner ← inTable arrays change rest inner
      return fields.set part (.record inner)
    | some (.list items) =>
      match arrays, items.getLast? with
      | true, some (.record inner) => do
        let inner ← inTable arrays change rest inner
        return fields.set part (.list (items.dropLast ++ [.record inner]))
      | _, _ => .error .overwrites
    | some _ => .error .overwrites

def addField (problem : Problem) (part : String) (value : Value) (fields : Fields) :
    Except Problem Fields :=
  match fields.get? part with
  | some _ => .error problem
  | none => .ok (fields.set part value)

def addTable (part : String) (fields : Fields) : Except Problem Fields :=
  match fields.get? part with
  | none => .ok (fields.set part (.list [.record []]))
  | some (.list items) => .ok (fields.set part (.list (items ++ [.record []])))
  | some _ => .error .overwrites

/-- Which tables are closed to further statements: those that were declared, and all below those
that were written out as a value. -/
structure Marks where
  declared : List Key := []
  frozen : List Key := []
  /-- Tables that count as declared from the next header on. -/
  pending : List Key := []

namespace Marks

def isDeclared (m : Marks) (key : Key) : Bool := m.declared.contains key

def isFrozen (m : Marks) (key : Key) : Bool := m.frozen.any (·.isPrefixOf key)

def settle (m : Marks) : Marks :=
  { m with declared := m.pending ++ m.declared, pending := [] }

def declare (m : Marks) (key : Key) : Marks :=
  { m with declared := key :: m.declared }

def freeze (m : Marks) (key : Key) : Marks :=
  { m with frozen := key :: m.frozen }

def release (m : Marks) (key : Key) : Marks :=
  { m with
    declared := m.declared.filter fun k => !key.isPrefixOf k
    frozen := m.frozen.filter fun k => !key.isPrefixOf k }

end Marks

def hasParts : Value → Bool
  | .list _ => true
  | .record _ => true
  | _ => false

def located {α : Type} (rest : List Char) (r : Except Problem α) : Except Fault α :=
  r.mapError fun p => ⟨p, rest.length⟩

def splitKey (key : Key) : Key × String :=
  (key.dropLast, key.getLast?.getD "")

mutual

def value (fuel : Nat) : Step Value := fun s =>
  match fuel, s with
  | 0, s => faultAt .invalidValue s
  | _ + 1, '"' :: t => (text ('"' :: t)).map fun (cs, rest) => (.text (String.ofList cs), rest)
  | _ + 1, '\'' :: t => (text ('\'' :: t)).map fun (cs, rest) => (.text (String.ofList cs), rest)
  | fuel + 1, '[' :: t => do
    let t ← skipBlank t.length t
    match t with
    | ']' :: rest => return (.list [], rest)
    | t => (items fuel t).map fun (vs, rest) => (.list vs, rest)
  | fuel + 1, '\x7b' :: t =>
    match skipSpace t with
    | '\x7d' :: rest => .ok (.record [], rest)
    | t => (inlineFields fuel [] [] t).map fun (fs, rest) => (.record fs, rest)
  | _ + 1, s => scalar s

def items (fuel : Nat) : Step (List Value) := fun s =>
  match fuel with
  | 0 => faultAt .unclosedArray s
  | fuel + 1 => do
    let (v, s) ← value fuel s
    let s ← skipBlank s.length s
    match s with
    | ']' :: rest => return ([v], rest)
    | ',' :: t => do
      let t ← skipBlank t.length t
      match t with
      | ']' :: rest => return ([v], rest)
      | t => (items fuel t).map fun (vs, rest) => (v :: vs, rest)
    | s => faultAt .unclosedArray s

def inlineFields (fuel : Nat) (frozen : List Key) (fields : Fields) : Step Fields := fun s =>
  match fuel with
  | 0 => faultAt .unclosedInlineTable s
  | fuel + 1 => do
    let (k, s) ← key s
    match s with
    | '=' :: t => do
      let (v, s) ← value fuel (skipSpace t)
      let (parent, part) := splitKey k
      if frozen.any (·.isPrefixOf k) then faultAt (.immutableNamespace k) s
      else
        let fields ← located s (inTable false (addField (.duplicateInlineKey part) part v) parent
          fields)
        match skipSpace s with
        | '\x7d' :: rest => return (fields, rest)
        | ',' :: t =>
          inlineFields fuel (if hasParts v then k :: frozen else frozen) fields (skipSpace t)
        | s => faultAt .unclosedInlineTable s
    | s => faultAt .expectedEquals s

end

/-- The document as far as it is read: its fields, which tables are closed, and the table that
assignments go to. -/
structure State where
  fields : Fields := []
  marks : Marks := {}
  header : Key := []

/-- The tables that a dotted key passes must not be declared; afterwards they count as such. -/
def passTables (header : Key) (marks : Marks) : List Key → Except Problem Marks
  | [] => .ok marks
  | way :: ways =>
    let k := header ++ way
    if marks.isDeclared k then .error (.redefinesNamespace k)
    else passTables header { marks with pending := k :: marks.pending } ways

def ways (k : Key) : List Key :=
  (List.range (k.length - 1)).map fun n => k.take (n + 1)

def assign (state : State) : Step State := fun s => do
  let (k, s) ← key s
  match s with
  | '=' :: t => do
    let (v, s) ← value (2 * t.length + 2) (skipSpace t)
    let (parent, part) := splitKey k
    let marks ← located s (passTables state.header state.marks (ways k))
    let place := state.header ++ parent
    if !place.isEmpty && marks.isFrozen place then faultAt (.immutableNamespace place) s
    else
      let fields ← located s (inTable true (addField .overwrites part v) place state.fields)
      let marks := if hasParts v then marks.freeze (state.header ++ k) else marks
      return ({ state with fields, marks }, s)
  | s => faultAt .expectedEquals s

def openTable (state : State) : Step State := fun s => do
  let marks := state.marks.settle
  let (k, s) ← key (skipSpace s)
  if marks.isDeclared k || marks.isFrozen k then faultAt (.declaredTwice k) s
  else
    let fields ← located s (inTable true .ok k state.fields)
    match s with
    | ']' :: rest => return ({ fields, marks := marks.declare k, header := k }, rest)
    | s => faultAt .expectedTableEnd s

def openArray (state : State) : Step State := fun s => do
  let marks := state.marks.settle
  let (k, s) ← key (skipSpace s)
  if marks.isFrozen k then faultAt (.immutableNamespace k) s
  else
    let (parent, part) := splitKey k
    let fields ← located s (inTable true (addTable part) parent state.fields)
    match s with
    | ']' :: ']' :: rest =>
      return ({ fields, marks := (marks.release k).declare k, header := k }, rest)
    | s => faultAt .expectedArrayEnd s

def statement (state : State) : Step State := fun s =>
  match s with
  | '[' :: '[' :: t => openArray state t
  | '[' :: t => openTable state t
  | '#' :: t => .ok (state, '#' :: t)
  | c :: t => if startsKey c then assign state (c :: t) else faultAt .invalidStatement (c :: t)
  | [] => .ok (state, [])

def statements (fuel : Nat) (state : State) (s : List Char) : Except Fault State :=
  match fuel, skipSpace s with
  | 0, _ => .ok state
  | _ + 1, [] => .ok state
  | fuel + 1, '\n' :: t => statements fuel state t
  | fuel + 1, s => do
    let (state, s) ← statement state s
    let s ← skipComment (skipSpace s)
    match s with
    | [] => return state
    | '\n' :: t => statements fuel state t
    | s => faultAt .expectedNewline s

def joinReturns : List Char → List Char
  | '\r' :: '\n' :: s => '\n' :: joinReturns s
  | c :: s => c :: joinReturns s
  | [] => []

inductive ReadError where
  | syntaxError (message : String)
  | tooManyDigits (count : Nat)
  deriving DecidableEq, Repr

def read (document : List Char) : Except ReadError Fields :=
  let s := joinReturns document
  match statements (s.length + 1) {} s with
  | .ok state => .ok state.fields
  | .error ⟨.tooManyDigits count, _⟩ => .error (.tooManyDigits count)
  | .error fault => .error (.syntaxError (fault.message s))

end Plateau.Toml
