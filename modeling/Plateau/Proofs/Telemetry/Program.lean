import Plateau.Proofs.Telemetry.Forest
import Plateau.Telemetry.Program

namespace Plateau.Telemetry

namespace Tracer

theorem visible_of_enabled {t : Tracer} (h : t.enabled = true) : t.visible = t.current := by
  simp [visible, h]

theorem visible_of_disabled {t : Tracer} (h : t.enabled = false) : t.visible = none := by
  simp [visible, h]

theorem lt_length_push (t : Tracer) (name : String) (parent : Option Nat) :
    t.spans.length < (t.push name parent).2.spans.length := by
  simp [push, Forest.add]

theorem enterBlock_of_visible {t : Tracer} {parent : Nat} (h : t.visible = some parent)
    (name : String) :
    t.enterBlock name = (some (t.push name (some parent)).1, (t.push name (some parent)).2) := by
  rw [enterBlock, h]

theorem enterBlock_of_hidden {t : Tracer} (h : t.visible = none) (name : String) :
    t.enterBlock name = (none, t) := by
  rw [enterBlock, h]

theorem enterCall_of_enabled {t : Tracer} (h : t.enabled = true) (name : String) :
    t.enterCall name = (some (t.push name none).1, (t.push name none).2) := by
  rw [enterCall, if_pos h]

theorem enterCall_of_disabled {t : Tracer} (h : t.enabled = false) (name : String) :
    t.enterCall name = (none, t) := by
  simp [enterCall, h]

/-- Leaving a block restores what was current, if its body does. -/
theorem current_leaveBlock {t u : Tracer} {name : String}
    (h : u.current = (t.enterBlock name).2.current) :
    (leaveBlock (t.enterBlock name).1 u).current = t.current := by
  cases hv : t.visible with
  | none =>
    rw [enterBlock_of_hidden hv] at h ⊢
    exact h
  | some parent =>
    rw [enterBlock_of_visible hv]
    rfl

theorem current_leaveCall_some (o : Opened) (ok : Bool) (u : Tracer) :
    (u.leaveCall (some o) ok).2.current = o.outer := by
  simp only [leaveCall]
  split <;> rfl

theorem current_leaveCall {t u : Tracer} {name : String} (ok : Bool)
    (h : u.current = (t.enterCall name).2.current) :
    (u.leaveCall (t.enterCall name).1 ok).2.current = t.current := by
  cases hon : t.enabled with
  | false =>
    rw [enterCall_of_disabled hon] at h ⊢
    exact h
  | true =>
    rw [enterCall_of_enabled hon, current_leaveCall_some]
    rfl

theorem leaveCall_of_grows {t u : Tracer} {name : String} {facts : Fields} {blocks : List Outline}
    (h : Forest.Grows t.spans.length (t.push name none).2.spans u.spans facts blocks) (ok : Bool) :
    ∃ tree, u.leaveCall (some (t.push name none).1) ok =
        (some tree, (u.pop (t.push name none).1).logRecord (completion tree ok)) ∧
      tree.outline = .node name (.ofPairs facts) blocks ∧ tree.Ended := by
  obtain ⟨tree, htree, houtline, hended⟩ := (Forest.Grows.closed_hangs h).exists_tree
  refine ⟨tree, ?_, houtline, hended⟩
  have hpop : (u.pop (t.push name none).1).spans.tree (t.push name none).1.id = some tree := htree
  rw [leaveCall, hpop]

end Tracer

namespace Scene

def inBlock (name : String) (s : Scene) : Scene :=
  { s with tracer := (s.tracer.enterBlock name).2 }.note
    (.opened name (s.tracer.enterBlock name).1.isSome)

def inCall (name : String) (s : Scene) : Scene :=
  { s with tracer := (s.tracer.enterCall name).2 }

@[simp] theorem tracer_inBlock (name : String) (s : Scene) :
    (s.inBlock name).tracer = (s.tracer.enterBlock name).2 := rfl

@[simp] theorem tracer_inCall (name : String) (s : Scene) :
    (s.inCall name).tracer = (s.tracer.enterCall name).2 := rfl

end Scene

theorem perform_span (name : String) (body : List Step) (s : Scene) :
    ((Step.span name body).perform s).1 = (performAll body (s.inBlock name)).1 ∧
      ((Step.span name body).perform s).2.tracer =
        (performAll body (s.inBlock name)).2.tracer.leaveBlock (s.tracer.enterBlock name).1 := by
  rcases henter : s.tracer.enterBlock name with ⟨opened, t⟩
  have hin : s.inBlock name =
      ({ s with tracer := t } : Scene).note (.opened name opened.isSome) := by
    rw [Scene.inBlock, henter]
  rw [Step.perform, henter, hin]
  dsimp only
  rcases performAll body _ with ⟨m | _, u⟩ <;> exact ⟨rfl, rfl⟩

theorem perform_attempt (body : List Step) (s : Scene) :
    ((Step.attempt body).perform s).1 = .ok () ∧
      ((Step.attempt body).perform s).2.tracer = (performAll body s).2.tracer := by
  rw [Step.perform]
  rcases performAll body s with ⟨m | _, u⟩ <;> exact ⟨rfl, rfl⟩

theorem perform_call (c : Call) (s : Scene) :
    ((Step.call c).perform s).1 = (c.perform s).1.map (fun _ => ()) ∧
      ((Step.call c).perform s).2.tracer = (c.perform s).2.tracer := by
  rw [Step.perform]
  rcases c.perform s with ⟨m | value, u⟩ <;> exact ⟨rfl, rfl⟩

theorem performAll_cons_of_ok {step : Step} {s : Scene} (h : (step.perform s).1 = .ok ())
    (rest : List Step) :
    performAll (step :: rest) s = performAll rest (step.perform s).2 := by
  rw [performAll]
  rcases hstep : step.perform s with ⟨m | _, u⟩
  · rw [hstep] at h
    contradiction
  · rfl

theorem performAll_cons_of_error {step : Step} {s : Scene} {m : String}
    (h : (step.perform s).1 = .error m) (rest : List Step) :
    performAll (step :: rest) s = step.perform s := by
  rw [performAll]
  rcases hstep : step.perform s with ⟨d | _, u⟩
  · rfl
  · rw [hstep] at h
    contradiction

theorem Scene.tracer_record (facts : Fields) (s : Scene) :
    (s.record facts).tracer = match s.tracer.visible with
      | none => s.tracer
      | some id => { s.tracer with spans := s.tracer.spans.record id facts } := by
  unfold Scene.record
  cases s.tracer.visible <;> rfl

/-- How a call is left: a body that fails passes its failure on, and a tree goes into what is
returned. -/
theorem perform_mk (name : String) (body : List Step) (returns : Returned) (s : Scene) :
    ∃ ok, ((Call.mk name body returns).perform s).2.tracer =
        ((performAll body (s.inCall name)).2.tracer.leaveCall (s.tracer.enterCall name).1 ok).2 ∧
      ((Call.mk name body returns).perform s).1 =
        (performAll body (s.inCall name)).1.map fun _ =>
          match ((performAll body (s.inCall name)).2.tracer.leaveCall
            (s.tracer.enterCall name).1 ok).1 with
          | some tree => returns.withTelemetry tree.toValue
          | none => returns := by
  rcases henter : s.tracer.enterCall name with ⟨opened, t⟩
  have hin : s.inCall name = { s with tracer := t } := by
    rw [Scene.inCall, henter]
  rw [Call.perform, henter, hin]
  dsimp only
  rcases performAll body _ with ⟨m | _, u⟩
  · exact ⟨false, rfl, rfl⟩
  · exact ⟨returns.ok, rfl, rfl⟩

mutual

theorem current_perform : ∀ (step : Step) (s : Scene),
    (step.perform s).2.tracer.current = s.tracer.current
  | .span name body, s => by
    have hbody := current_performAll body (s.inBlock name)
    rw [(perform_span name body s).2]
    exact Tracer.current_leaveBlock hbody
  | .record facts, s => by
    have hrecord : (s.record facts).tracer.current = s.tracer.current := by
      rw [Scene.tracer_record]
      split <;> rfl
    rw [Step.perform]
    exact hrecord
  | .enable, s => by
    rw [Step.perform]
    rfl
  | .disable, s => by
    rw [Step.perform]
    rfl
  | .fail message, s => by
    rw [Step.perform]
  | .attempt body, s => by
    rw [(perform_attempt body s).2]
    exact current_performAll body s
  | .call c, s => by
    rw [(perform_call c s).2]
    exact current_performCall c s

theorem current_performAll : ∀ (steps : List Step) (s : Scene),
    (performAll steps s).2.tracer.current = s.tracer.current
  | [], s => by rw [performAll]
  | step :: rest, s => by
    have hstep := current_perform step s
    cases hresult : (step.perform s).1 with
    | error m =>
      rw [performAll_cons_of_error hresult]
      exact hstep
    | ok _ =>
      rw [performAll_cons_of_ok hresult]
      exact (current_performAll rest _).trans hstep

theorem current_performCall : ∀ (c : Call) (s : Scene),
    (c.perform s).2.tracer.current = s.tracer.current
  | .mk name body returns, s => by
    have hbody := current_performAll body (s.inCall name)
    obtain ⟨ok, htracer, -⟩ := perform_mk name body returns s
    rw [htracer]
    exact Tracer.current_leaveCall ok hbody

end

/-- Whatever a program does with spans, facts, failures and the switch, and with whatever switch and
current span it starts: when a block, a call or any other step is left, by its end or by a failure,
the span that was current when it was entered is current again.  So nothing is visible after a call
that was entered while no span was current. -/
theorem current_restored :
    (∀ (step : Step) (s : Scene), (step.perform s).2.tracer.current = s.tracer.current) ∧
      (∀ (c : Call) (s : Scene), (c.perform s).2.tracer.current = s.tracer.current) ∧
      ∀ (c : Call) (s : Scene), s.tracer.current = none →
        (c.perform s).2.tracer.visible = none := by
  refine ⟨current_perform, current_performCall, ?_⟩
  intro c s hnone
  have hcurrent := current_performCall c s
  rw [hnone] at hcurrent
  cases hon : (c.perform s).2.tracer.enabled with
  | false => exact Tracer.visible_of_disabled hon
  | true => rw [Tracer.visible_of_enabled hon, hcurrent]

/-- A block is entered while tracing is off, the block below it while it is on again, and a failure
leaves both and the call. -/
theorem current_restored_of_failure :
    let s : Scene := { tracer := { enabled := true, clock := .every 7 } }
    let c : Call := .mk "f" [.disable, .span "a" [.enable, .span "b" [.fail "x"]]] (.plain .null)
    s.tracer.current = none ∧ (c.perform s).1 = .error "x" ∧
      (c.perform s).2.tracer.enabled = true ∧ (c.perform s).2.tracer.visible = none := by
  intro s c
  exact ⟨rfl, rfl, rfl, current_restored.2.2 c s rfl⟩

end Plateau.Telemetry
