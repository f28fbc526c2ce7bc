import Plateau.Data.Value
import Plateau.Number.FloatText

namespace Plateau.Telemetry

/-- A service call, a scenario or a rover, from its creation to its last end. -/
structure Span where
  name : String
  parent : Option Nat
  start : Float
  finish : Option Float := none
  annotations : Fields := []

/-- Milliseconds from creation to end, and zero while the span is open. -/
def Span.duration (s : Span) : Float :=
  match s.finish with
  | none => 0.0
  | some finish => (finish - s.start) * 1000.0

def Span.roundedDuration (s : Span) : Float :=
  roundPlaces 2 s.duration

/-- All spans, each at the index that is its number. -/
abbrev Forest := List Span

namespace Forest

/-- Creates a span, whose number is the number of spans before it. -/
def add (f : Forest) (name : String) (parent : Option Nat) (time : Float) : Forest :=
  f ++ [{ name, parent, start := time }]

def update (f : Forest) (id : Nat) (g : Span → Span) : Forest :=
  f.modify id g

def record (f : Forest) (id : Nat) (annotations : Fields) : Forest :=
  f.update id fun s => { s with annotations := s.annotations.update annotations }

def finish (f : Forest) (id : Nat) (time : Float) : Forest :=
  f.update id fun s => { s with finish := some time }

/-- The children of a span, in order of creation. -/
def children (f : Forest) (id : Nat) : List Nat :=
  (List.range f.length).filter fun j => id < j && (f[j]?).any (·.parent == some id)

end Forest

inductive Tree where
  | node (span : Span) (children : List Tree)

namespace Tree

def span : Tree → Span
  | node s _ => s

mutual

def spans : Tree → List Span
  | node s children => s :: spansBelow children

def spansBelow : List Tree → List Span
  | [] => []
  | t :: ts => t.spans ++ spansBelow ts

end

def descendants : Tree → List Span
  | node _ children => spansBelow children

mutual

/-- The tree as a document; what is empty is left out. -/
def toValue : Tree → Value
  | node s children =>
    .record ([("name", .text s.name), ("duration_ms", .float s.roundedDuration)] ++
      (if s.annotations.isEmpty then [] else [("annotations", .record s.annotations)]) ++
      (if children.isEmpty then [] else [("children", .list (toValues children))]))

def toValues : List Tree → List Value
  | [] => []
  | t :: ts => t.toValue :: toValues ts

end

end Tree

namespace Forest

/-- The tree of a span down to `depth` levels below it. -/
def treeTo (f : Forest) (depth : Nat) (id : Nat) : Option Tree :=
  (f[id]?).map fun s =>
    match depth with
    | 0 => .node s []
    | depth + 1 => .node s ((f.children id).filterMap (f.treeTo depth))

/-- The tree of a span; no chain of children is longer than there are spans. -/
def tree (f : Forest) (id : Nat) : Option Tree :=
  f.treeTo f.length id

end Forest

end Plateau.Telemetry
