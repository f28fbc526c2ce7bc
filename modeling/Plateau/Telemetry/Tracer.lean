import Plateau.Log.Record
import Plateau.Telemetry.Clock
import Plateau.Telemetry.Span

namespace Plateau.Telemetry

/-- Whether tracing is on, the span that is current, all spans, the clock, and what was logged. -/
structure Tracer where
  enabled : Bool := false
  current : Option Nat := none
  spans : Forest := []
  clock : Clock
  log : List Log.Record := []

structure Opened where
  id : Nat
  outer : Option Nat

namespace Tracer

def logRecord (r : Log.Record) (t : Tracer) : Tracer :=
  { t with log := t.log ++ [r] }

/-- The innermost open span, as far as tracing is on. -/
def visible (t : Tracer) : Option Nat :=
  if t.enabled then t.current else none

def nameOf (t : Tracer) (id : Nat) : Option String :=
  (t.spans[id]?).map (·.name)

def push (name : String) (parent : Option Nat) (t : Tracer) : Opened × Tracer :=
  (⟨t.spans.length, t.current⟩,
    { t with
      current := some t.spans.length
      spans := t.spans.add name parent t.clock.seconds
      clock := t.clock.advance })

def pop (o : Opened) (t : Tracer) : Tracer :=
  { t with
    current := o.outer
    spans := t.spans.finish o.id t.clock.seconds
    clock := t.clock.advance }

/-- Enters a block: it has a span only if a span is visible. -/
def enterBlock (name : String) (t : Tracer) : Option Opened × Tracer :=
  match t.visible with
  | none => (none, t)
  | some parent =>
    let (opened, t) := t.push name (some parent)
    (some opened, t)

def leaveBlock (opened : Option Opened) (t : Tracer) : Tracer :=
  match opened with
  | none => t
  | some o => t.pop o

/-- Enters a call: it roots a tree if tracing is on. -/
def enterCall (name : String) (t : Tracer) : Option Opened × Tracer :=
  if t.enabled then
    let (opened, t) := t.push name none
    (some opened, t)
  else (none, t)

def roverStem : String := "rover."

def logger : String := "roverctl.services.telemetry"

def completion (tree : Tree) (ok : Bool) : Log.Record :=
  { logger
    level := .debug
    event := "span.complete"
    fields :=
      [("span_name", .text tree.span.name), ("duration_ms", .float tree.span.roundedDuration),
        ("ok", .bool ok),
        ("rovers", .int ((tree.descendants.filter fun s => s.name.startsWith roverStem).length))] }

/-- Leaves a call: its tree is complete, and its completion is logged. -/
def leaveCall (opened : Option Opened) (ok : Bool) (t : Tracer) : Option Tree × Tracer :=
  match opened with
  | none => (none, t)
  | some o =>
    let t := t.pop o
    match t.spans.tree o.id with
    | none => (none, t)
    | some tree => (some tree, t.logRecord (completion tree ok))

end Tracer

abbrev Traced (ε : Type) := ExceptT ε (StateM Tracer)

namespace Traced

variable {ε α : Type}

def modify (f : Tracer → Tracer) : Traced ε Unit :=
  fun t => (.ok (), f t)

def block (name : String) (body : Option Nat → Traced ε α) : Traced ε α := fun t =>
  let (opened, t) := t.enterBlock name
  let (result, t) := body (opened.map (·.id)) t
  (result, t.leaveBlock opened)

/-- Does work as a call: `ok` tells whether a result counts as a success, and `attach` puts the
finished tree into it. -/
def call (name : String) (ok : α → Bool) (attach : Value → α → α) (body : Traced ε α) :
    Traced ε α := fun t =>
  let (opened, t) := t.enterCall name
  let (result, t) := body t
  match result with
  | .ok a =>
    let (tree, t) := t.leaveCall opened (ok a)
    (.ok (match tree with
      | some tree => attach tree.toValue a
      | none => a), t)
  | .error e => (.error e, (t.leaveCall opened false).2)

end Traced

end Plateau.Telemetry
