import Plateau.Proofs.Telemetry.Conduct
import Plateau.Proofs.Telemetry.Mirror
import Plateau.Proofs.Telemetry.RunTree

namespace Plateau.Telemetry

theorem Tracer.enabled_enterBlock (name : String) (t : Tracer) :
    (t.enterBlock name).2.enabled = t.enabled := by
  unfold enterBlock
  split <;> rfl

theorem Tracer.enabled_leaveBlock (opened : Option Opened) (t : Tracer) :
    (t.leaveBlock opened).enabled = t.enabled := by
  cases opened <;> rfl

theorem Tracer.enabled_enterCall (name : String) (t : Tracer) :
    (t.enterCall name).2.enabled = t.enabled := by
  unfold enterCall
  split <;> rfl

theorem Tracer.enabled_leaveCall (opened : Option Opened) (ok : Bool) (t : Tracer) :
    (t.leaveCall opened ok).2.enabled = t.enabled := by
  unfold leaveCall
  cases opened with
  | none => rfl
  | some o =>
    dsimp only
    split <;> rfl

theorem Scene.enabled_record (facts : Fields) (s : Scene) :
    (s.record facts).tracer.enabled = s.tracer.enabled := by
  rw [tracer_record]
  split <;> rfl

/-- How the work ends, and whether tracing is on then, is as the account says. -/
structure Account.Settles (a : Account) (result : Except String Unit) (t : Tracer) : Prop where
  result : result = a.result
  enabled : t.enabled = a.enabled

mutual

theorem settles_perform : ∀ (step : Step) (s : Scene),
    (step.account s.tracer.enabled).Settles (step.perform s).1 (step.perform s).2.tracer
  | .span name body, s => by
    obtain ⟨hresult, htracer⟩ := perform_span name body s
    have hbody := settles_performAll body (s.inBlock name)
    rw [Scene.tracer_inBlock, Tracer.enabled_enterBlock] at hbody
    rw [hresult, htracer, Step.account]
    have henabled := (Tracer.enabled_leaveBlock (s.tracer.enterBlock name).1 _).trans hbody.enabled
    split
    all_goals exact ⟨hbody.result, henabled⟩
  | .record facts, s => by
    rw [Step.perform, Step.account]
    exact ⟨rfl, s.enabled_record facts⟩
  | .enable, s => by
    rw [Step.perform, Step.account]
    exact ⟨rfl, rfl⟩
  | .disable, s => by
    rw [Step.perform, Step.account]
    exact ⟨rfl, rfl⟩
  | .fail message, s => by
    rw [Step.perform, Step.account]
    exact ⟨rfl, rfl⟩
  | .attempt body, s => by
    obtain ⟨hresult, htracer⟩ := perform_attempt body s
    rw [hresult, htracer, Step.account]
    exact ⟨rfl, (settles_performAll body s).enabled⟩
  | .call c, s => by
    obtain ⟨hresult, htracer⟩ := perform_call c s
    rw [hresult, htracer, Step.account]
    exact settles_performCall c s

theorem settles_performAll : ∀ (steps : List Step) (s : Scene),
    (accountAll steps s.tracer.enabled).Settles (performAll steps s).1
      (performAll steps s).2.tracer
  | [], s => by
    rw [performAll, accountAll]
    exact ⟨rfl, rfl⟩
  | step :: rest, s => by
    have hstep := settles_perform step s
    have hresult := hstep.result
    rw [accountAll]
    rw [Account.result] at hresult
    cases hfailure : (step.account s.tracer.enabled).failure with
    | some m =>
      rw [hfailure] at hresult
      rw [performAll_cons_of_error hresult]
      exact hstep
    | none =>
      rw [hfailure] at hresult
      have hrest := settles_performAll rest (step.perform s).2
      rw [hstep.enabled] at hrest
      rw [performAll_cons_of_ok hresult]
      exact ⟨hrest.result, hrest.enabled⟩

theorem settles_performCall : ∀ (c : Call) (s : Scene),
    (c.account s.tracer.enabled).Settles ((c.perform s).1.map fun _ => ()) (c.perform s).2.tracer
  | .mk name body returns, s => by
    obtain ⟨ok, htracer, hresult⟩ := perform_mk name body returns s
    have hforget : ((Call.mk name body returns).perform s).1.map (fun _ => ()) =
        (performAll body (s.inCall name)).1 := by
      rw [hresult]
      cases (performAll body (s.inCall name)).1 <;> rfl
    have hbody := settles_performAll body (s.inCall name)
    rw [Scene.tracer_inCall, Tracer.enabled_enterCall] at hbody
    have henabled := (Tracer.enabled_leaveCall (s.tracer.enterCall name).1 ok _).trans hbody.enabled
    rw [hforget, htracer, Call.account]
    split
    all_goals exact ⟨hbody.result, henabled⟩

end

namespace Call

def name : Call → String
  | .mk name _ _ => name

def body : Call → List Step
  | .mk _ body _ => body

def returned : Call → Returned
  | .mk _ _ returns => returns

def traced (c : Call) : Account := accountAll c.body true

def outline (c : Call) : Outline := .node c.name (.ofPairs c.traced.facts) c.traced.blocks

def succeeds (c : Call) : Bool :=
  match c.traced.failure with
  | some _ => false
  | none => c.returned.ok

end Call

mutual

/-- The calls that are entered while tracing is on, in the order in which they end, by their result
or by a failure.  The step begins with tracing on or off. -/
def Step.completed : Step → Bool → List Call
  | .span _ body, on => completedAll body on
  | .attempt body, on => completedAll body on
  | .call c, on => c.completed on
  | .record _, _ => []
  | .enable, _ => []
  | .disable, _ => []
  | .fail _, _ => []

def completedAll : List Step → Bool → List Call
  | [], _ => []
  | step :: rest, on =>
    match (step.account on).failure with
    | some _ => step.completed on
    | none => step.completed on ++ completedAll rest (step.account on).enabled

def Call.completed : Call → Bool → List Call
  | .mk name body returns, on =>
    completedAll body on ++ if on then [.mk name body returns] else []

end

/-- The message tells that the call is complete: its name, how long it took, whether it was a
success, and the number of rovers below the root of its tree. -/
structure Call.CompletedBy (c : Call) (m : Log.Record) : Prop where
  logger : m.logger = "roverctl.services.telemetry"
  level : m.level = .debug
  event : m.event = "span.complete"
  fields : ∃ tree : Tree, tree.outline = c.outline ∧ tree.Ended ∧
    m.fields = [("span_name", .text c.name), ("duration_ms", .float tree.span.roundedDuration),
      ("ok", .bool c.succeeds),
      ("rovers", .int (Service.countRovers (Outline.namesBelow c.traced.blocks)))]

theorem completedBy_completion {c : Call} {tree : Tree} (houtline : tree.outline = c.outline)
    (hended : tree.Ended) : c.CompletedBy (Tracer.completion tree c.succeeds) where
  logger := rfl
  level := rfl
  event := rfl
  fields := by
    refine ⟨tree, houtline, hended, ?_⟩
    have hrovers := Service.rovers_completion houtline c.succeeds
    obtain ⟨span, children⟩ := tree
    rw [Tree.outline] at houtline
    obtain ⟨hname, -, -⟩ := Outline.node.inj houtline
    have hcount : Value.int ((Tree.node span children).descendants.filter
        fun s => s.name.startsWith Tracer.roverStem).length =
          .int (Service.countRovers (Outline.namesBelow c.traced.blocks)) :=
      Option.some.inj hrovers
    rw [← hcount, ← hname]
    rfl

/-- From tracer `t` to tracer `u` these calls were completed, in order, and nothing else was
logged. -/
def Completes (calls : List Call) (t u : Tracer) : Prop :=
  ∃ messages, u.log = t.log ++ messages ∧ List.Forall₂ Call.CompletedBy calls messages

namespace Completes

variable {calls later : List Call} {t u v : Tracer}

theorem of_log_eq (h : u.log = t.log) : Completes [] t u :=
  ⟨[], by rw [h, List.append_nil], .nil⟩

theorem trans (h : Completes calls t u) (h' : Completes later u v) :
    Completes (calls ++ later) t v := by
  obtain ⟨messages, hlog, hcalls⟩ := h
  obtain ⟨more, hmore, hlater⟩ := h'
  refine ⟨messages ++ more, ?_, List.rel_append hcalls hlater⟩
  rw [hmore, hlog, List.append_assoc]

theorem enterBlock (name : String) (h : Completes calls (t.enterBlock name).2 u) :
    Completes calls t u :=
  (of_log_eq (t.log_enterBlock name)).trans h

theorem enterCall (name : String) (h : Completes calls (t.enterCall name).2 u) :
    Completes calls t u :=
  (of_log_eq (t.log_enterCall name)).trans h

theorem leaveBlock (opened : Option Opened) (h : Completes calls t u) :
    Completes calls t (u.leaveBlock opened) := by
  have hleft := h.trans (of_log_eq (u.log_leaveBlock opened))
  rwa [List.append_nil] at hleft

end Completes

theorem tracer_perform_mk (name : String) (body : List Step) (returns : Returned) (s : Scene) :
    ((Call.mk name body returns).perform s).2.tracer =
      ((performAll body (s.inCall name)).2.tracer.leaveCall (s.tracer.enterCall name).1
        (match (performAll body (s.inCall name)).1 with
          | .ok _ => returns.ok
          | .error _ => false)).2 := by
  rcases henter : s.tracer.enterCall name with ⟨opened, t⟩
  have hin : s.inCall name = { s with tracer := t } := by
    rw [Scene.inCall, henter]
  rw [Call.perform, henter, hin]
  dsimp only
  rcases performAll body _ with ⟨m | _, u⟩ <;> rfl

theorem completes_leave (c : Call) {s : Scene} (hon : s.tracer.enabled = true) :
    Completes [c] (performAll c.body (s.inCall c.name)).2.tracer (c.perform s).2.tracer := by
  obtain ⟨name, body, returns⟩ := c
  obtain ⟨hcurrent, hin, henabled⟩ := Tracer.current_enterCall hon name
  have hbody := accords_performAll body (s.inCall name) s.tracer.spans.length hcurrent hin
  rw [Scene.tracer_inCall, henabled, hon] at hbody
  -- The account of the body tells how the call is left, and its blocks the tree that is counted.
  have hgood : (match (performAll body (s.inCall name)).1 with
      | .ok _ => returns.ok
      | .error _ => false) = (Call.mk name body returns).succeeds := by
    rw [hbody.result, Account.result, Call.succeeds, Call.traced, Call.body]
    cases (accountAll body true).failure <;> rfl
  have hgrows := hbody.grows
  rw [Tracer.enterCall_of_enabled hon] at hgrows
  obtain ⟨tree, hleave, houtline, hended⟩ :=
    Tracer.leaveCall_of_grows hgrows (Call.mk name body returns).succeeds
  have hlog : ((Call.mk name body returns).perform s).2.tracer.log =
      (performAll body (s.inCall name)).2.tracer.log ++
        [Tracer.completion tree (Call.mk name body returns).succeeds] := by
    rw [tracer_perform_mk, hgood, Tracer.enterCall_of_enabled hon, hleave]
    rfl
  exact ⟨_, hlog, .cons (completedBy_completion houtline hended) .nil⟩

mutual

theorem completes_perform : ∀ (step : Step) (s : Scene),
    Completes (step.completed s.tracer.enabled) s.tracer (step.perform s).2.tracer
  | .span name body, s => by
    have hbody := completes_performAll body (s.inBlock name)
    rw [Scene.tracer_inBlock, Tracer.enabled_enterBlock] at hbody
    rw [(perform_span name body s).2, Step.completed]
    exact (hbody.enterBlock name).leaveBlock _
  | .record facts, s => by
    have hlog : (s.record facts).tracer.log = s.tracer.log := by
      rw [Scene.tracer_record]
      split <;> rfl
    rw [Step.perform, Step.completed]
    exact .of_log_eq hlog
  | .enable, s => by
    rw [Step.perform, Step.completed]
    exact .of_log_eq rfl
  | .disable, s => by
    rw [Step.perform, Step.completed]
    exact .of_log_eq rfl
  | .fail message, s => by
    rw [Step.perform, Step.completed]
    exact .of_log_eq rfl
  | .attempt body, s => by
    rw [(perform_attempt body s).2, Step.completed]
    exact completes_performAll body s
  | .call c, s => by
    rw [(perform_call c s).2, Step.completed]
    exact completes_performCall c s

theorem completes_performAll : ∀ (steps : List Step) (s : Scene),
    Completes (completedAll steps s.tracer.enabled) s.tracer (performAll steps s).2.tracer
  | [], s => by
    rw [performAll, completedAll]
    exact .of_log_eq rfl
  | step :: rest, s => by
    have hstep := completes_perform step s
    have hsettles := settles_perform step s
    have hresult := hsettles.result
    rw [Account.result] at hresult
    rw [completedAll]
    cases hfailure : (step.account s.tracer.enabled).failure with
    | some m =>
      rw [hfailure] at hresult
      rw [performAll_cons_of_error hresult]
      exact hstep
    | none =>
      rw [hfailure] at hresult
      have hrest := completes_performAll rest (step.perform s).2
      rw [hsettles.enabled] at hrest
      rw [performAll_cons_of_ok hresult]
      exact hstep.trans hrest

theorem completes_performCall : ∀ (c : Call) (s : Scene),
    Completes (c.completed s.tracer.enabled) s.tracer (c.perform s).2.tracer
  | .mk name body returns, s => by
    have hbody := completes_performAll body (s.inCall name)
    rw [Scene.tracer_inCall, Tracer.enabled_enterCall] at hbody
    have hentered := hbody.enterCall name
    rw [Call.completed]
    cases hon : s.tracer.enabled with
    | false =>
      rw [hon] at hentered
      rw [tracer_perform_mk, Tracer.enterCall_of_disabled hon, if_neg Bool.false_ne_true,
        List.append_nil]
      exact hentered
    | true =>
      rw [hon] at hentered
      rw [if_pos rfl]
      exact hentered.trans (completes_leave (.mk name body returns) hon)

end

theorem ok_withTelemetry (tree : Value) (r : Returned) : (r.withTelemetry tree).ok = r.ok := by
  cases r <;> rfl

theorem ok_performCall (c : Call) (s : Scene) :
    (c.perform s).1.map Returned.ok =
      (c.account s.tracer.enabled).result.map fun _ => c.returned.ok := by
  obtain ⟨name, body, returns⟩ := c
  have hsettled := (settles_performCall (.mk name body returns) s).result
  obtain ⟨ok, -, hresult⟩ := perform_mk name body returns s
  rw [← hsettled, hresult]
  cases (performAll body (s.inCall name)).1 with
  | error m => rfl
  | ok _ =>
    refine congrArg Except.ok ?_
    dsimp only
    split
    · exact ok_withTelemetry _ _
    · rfl

/-- Whatever a program does with calls, blocks, failures and the switch, and under whatever tracer:
the completions that it logs are one for each call that is entered while tracing is on, in the order
in which these calls end, and nothing else is logged.  Each tells the success of what its call
returns, or that the call failed, and the number of rovers below the root of its own tree.  What is
performed in a call inside it that is entered while tracing is on has no place in that tree. -/
theorem completions_in_order :
    (∀ (steps : List Step) (s : Scene),
      Completes (completedAll steps s.tracer.enabled) s.tracer (performAll steps s).2.tracer) ∧
    (∀ (c : Call) (s : Scene),
      Completes (c.completed s.tracer.enabled) s.tracer (c.perform s).2.tracer ∧
        (c.perform s).1.map Returned.ok =
          (c.account s.tracer.enabled).result.map fun _ => c.returned.ok) ∧
    ∀ inner : Call, (inner.account true).blocks = [] := by
  refine ⟨completes_performAll, ?_, ?_⟩
  · intro c s
    exact ⟨completes_performCall c s, ok_performCall c s⟩
  · rintro ⟨name, body, returns⟩
    rfl

/-- While `g` is performed tracing is switched off, so that `h` tells nothing; it is on again when
`i` is entered, which fails. -/
example :
    (Call.completed (.mk "f"
      [.call (.mk "g" [.disable] (.plain .null)),
        .call (.mk "h" [.enable, .attempt [.call (.mk "i" [.fail "x"] (.plain .null))]]
          (.plain .null))]
      (.plain .null)) true).map (fun c => (c.name, c.succeeds)) =
      [("g", true), ("i", false), ("f", true)] := rfl

end Plateau.Telemetry
