import Plateau.Report.Basic
import Plateau.Telemetry.Tracer

namespace Plateau.Telemetry

inductive Returned where
  | plain (value : Value)
  | report (r : Report)

namespace Returned

def ok : Returned → Bool
  | plain _ => true
  | report r => r.ok

def withTelemetry (tree : Value) : Returned → Returned
  | plain v => plain v
  | report r => report (r.withTelemetry tree)

end Returned

mutual

inductive Step where
  | span (name : String) (body : List Step)
  | record (facts : Fields)
  | enable
  | disable
  | fail (message : String)
  | attempt (body : List Step)
  | call (c : Call)

inductive Call where
  | mk (name : String) (body : List Step) (returns : Returned)

end

instance : Inhabited Step := ⟨.enable⟩

instance : Inhabited Call := ⟨.mk "" [] (.plain .null)⟩

/-- What is observed; each entry ends with the name of the span that is then current. -/
inductive Entry where
  | opened (name : String) (hasSpan : Bool) (current : Option String)
  | closed (name : String) (current : Option String)
  | recorded (current : Option String)
  | enabled (current : Option String)
  | disabled (current : Option String)
  | caught (message : String) (current : Option String)
  | returned (value : Returned) (current : Option String)

structure Scene where
  tracer : Tracer
  entries : List Entry := []

namespace Scene

def currentName (s : Scene) : Option String :=
  s.tracer.visible.bind s.tracer.nameOf

def note (entry : Option String → Entry) (s : Scene) : Scene :=
  { s with entries := s.entries ++ [entry s.currentName] }

def trace (f : Tracer → Tracer) (s : Scene) : Scene :=
  { s with tracer := f s.tracer }

def record (facts : Fields) (s : Scene) : Scene :=
  match s.tracer.visible with
  | none => s
  | some id => s.trace fun t => { t with spans := t.spans.record id facts }

end Scene

mutual

def Step.perform : Step → Scene → Except String Unit × Scene
  | .span name body, s =>
    let (opened, t) := s.tracer.enterBlock name
    let s := { s with tracer := t }.note (.opened name opened.isSome)
    let (result, s) := performAll body s
    let s := s.trace (Tracer.leaveBlock opened)
    match result with
    | .ok () => (.ok (), s.note (.closed name))
    | .error m => (.error m, s)
  | .record facts, s => (.ok (), (s.record facts).note .recorded)
  | .enable, s => (.ok (), (s.trace fun t => { t with enabled := true }).note .enabled)
  | .disable, s => (.ok (), (s.trace fun t => { t with enabled := false }).note .disabled)
  | .fail message, s => (.error message, s)
  | .attempt body, s =>
    match performAll body s with
    | (.ok (), s) => (.ok (), s)
    | (.error m, s) => (.ok (), s.note (.caught m))
  | .call c, s =>
    match c.perform s with
    | (.ok value, s) => (.ok (), s.note (.returned value))
    | (.error m, s) => (.error m, s)

def performAll : List Step → Scene → Except String Unit × Scene
  | [], s => (.ok (), s)
  | step :: rest, s =>
    match step.perform s with
    | (.ok (), s) => performAll rest s
    | (.error m, s) => (.error m, s)

def Call.perform : Call → Scene → Except String Returned × Scene
  | .mk name body returns, s =>
    let (opened, t) := s.tracer.enterCall name
    match performAll body { s with tracer := t } with
    | (.ok (), s) =>
      let (tree, t) := s.tracer.leaveCall opened returns.ok
      (.ok (match tree with
        | some tree => returns.withTelemetry tree.toValue
        | none => returns), { s with tracer := t })
    | (.error m, s) => (.error m, { s with tracer := (s.tracer.leaveCall opened false).2 })

end

end Plateau.Telemetry
