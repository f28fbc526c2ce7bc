import Plateau.Proofs.Telemetry.Program

namespace Plateau.Telemetry

/-- What steps come to that are performed while some span is current: the failure that ends them,
whether tracing is on afterwards, and the facts and the trees of blocks that they leave on that
span, in order. -/
structure Account where
  failure : Option String := none
  enabled : Bool
  facts : Fields := []
  blocks : List Outline := []

namespace Account

def andThen (a b : Account) : Account :=
  { b with facts := a.facts ++ b.facts, blocks := a.blocks ++ b.blocks }

def inBlock (name : String) (a : Account) : Account :=
  { a with facts := [], blocks := [.node name (.ofPairs a.facts) a.blocks] }

def inCall (a : Account) : Account :=
  { a with facts := [], blocks := [] }

def result (a : Account) : Except String Unit :=
  match a.failure with
  | none => .ok ()
  | some m => .error m

end Account

mutual

/-- The account of a step that begins with tracing on or off.  A block that is entered while tracing
is off has no span, so what is performed inside it is left on the span outside; likewise a call. -/
def Step.account : Step → Bool → Account
  | .span name body, on =>
    if on then (accountAll body on).inBlock name else accountAll body on
  | .record facts, on => { enabled := on, facts := if on then facts else [] }
  | .enable, _ => { enabled := true }
  | .disable, _ => { enabled := false }
  | .fail message, on => { failure := some message, enabled := on }
  | .attempt body, on => { accountAll body on with failure := none }
  | .call c, on => c.account on

def accountAll : List Step → Bool → Account
  | [], on => { enabled := on }
  | step :: rest, on =>
    match (step.account on).failure with
    | some _ => step.account on
    | none => (step.account on).andThen (accountAll rest (step.account on).enabled)

def Call.account : Call → Bool → Account
  | .mk _ body _, on => if on then (accountAll body on).inCall else accountAll body on

end

/-- Work that was done from tracer `t` to tracer `u` while span `cur` was current, and that had this
result, came to what the account says. -/
structure Account.Accords (a : Account) (cur : Nat) (t : Tracer) (result : Except String Unit)
    (u : Tracer) : Prop where
  result : result = a.result
  enabled : u.enabled = a.enabled
  grows : t.spans.Grows cur u.spans a.facts a.blocks

namespace Account.Accords

variable {a b : Account} {cur : Nat} {t u v : Tracer} {r : Except String Unit}

theorem failure_of_ok (h : a.Accords cur t (.ok ()) u) : a.failure = none := by
  have hresult := h.result
  rw [Account.result] at hresult
  split at hresult
  · assumption
  · contradiction

theorem failure_of_error {m : String} (h : a.Accords cur t (.error m) u) : a.failure = some m := by
  have hresult := h.result
  rw [Account.result] at hresult
  split at hresult
  · contradiction
  · rename_i d hd
    rw [hd, Except.error.inj hresult]

theorem andThen (hlt : cur < t.spans.length) (ha : a.Accords cur t (.ok ()) u)
    (hb : b.Accords cur u r v) : (a.andThen b).Accords cur t r v where
  result := hb.result
  enabled := hb.enabled
  grows := ha.grows.trans hlt hb.grows

theorem inBlock {name : String} (hv : t.visible = some cur) (hlt : cur < t.spans.length)
    (h : a.Accords t.spans.length (t.enterBlock name).2 r u) :
    (a.inBlock name).Accords cur t r (u.leaveBlock (t.enterBlock name).1) := by
  rw [Tracer.enterBlock_of_visible hv] at h ⊢
  exact ⟨h.result, h.enabled, Forest.Grows.block hlt h.grows⟩

theorem inCall {name : String} (hon : t.enabled = true) (hlt : cur < t.spans.length)
    (h : a.Accords t.spans.length (t.enterCall name).2 r u) (ok : Bool) :
    a.inCall.Accords cur t r (u.leaveCall (t.enterCall name).1 ok).2 := by
  rw [Tracer.enterCall_of_enabled hon] at h ⊢
  obtain ⟨tree, hleave, -, -⟩ := Tracer.leaveCall_of_grows h.grows ok
  rw [hleave]
  exact ⟨h.result, h.enabled, Forest.Grows.call hlt h.grows⟩

end Account.Accords

theorem Tracer.current_enterBlock {t : Tracer} {cur : Nat} (h : t.visible = some cur)
    (name : String) :
    (t.enterBlock name).2.current = some t.spans.length ∧
      t.spans.length < (t.enterBlock name).2.spans.length ∧
      (t.enterBlock name).2.enabled = t.enabled := by
  rw [enterBlock_of_visible h]
  exact ⟨rfl, t.lt_length_push name (some cur), rfl⟩

theorem Tracer.current_enterCall {t : Tracer} (h : t.enabled = true) (name : String) :
    (t.enterCall name).2.current = some t.spans.length ∧
      t.spans.length < (t.enterCall name).2.spans.length ∧
      (t.enterCall name).2.enabled = t.enabled := by
  rw [enterCall_of_enabled h]
  exact ⟨rfl, t.lt_length_push name none, rfl⟩

mutual

theorem accords_perform : ∀ (step : Step) (s : Scene) (cur : Nat),
    s.tracer.current = some cur → cur < s.tracer.spans.length →
    (step.account s.tracer.enabled).Accords cur s.tracer (step.perform s).1
      (step.perform s).2.tracer
  | .span name body, s, cur, hcur, hlt => by
    obtain ⟨hresult, htracer⟩ := perform_span name body s
    rw [hresult, htracer, Step.account]
    cases hon : s.tracer.enabled with
    | false =>
      have hidden := Tracer.visible_of_disabled hon
      have hbody := accords_performAll body (s.inBlock name) cur
      rw [Scene.tracer_inBlock, Tracer.enterBlock_of_hidden hidden, hon] at hbody
      rw [Tracer.enterBlock_of_hidden hidden, if_neg Bool.false_ne_true]
      exact hbody hcur hlt
    | true =>
      have hvisible : s.tracer.visible = some cur := by
        rw [Tracer.visible_of_enabled hon, hcur]
      obtain ⟨hcurrent, hin, henabled⟩ := Tracer.current_enterBlock hvisible name
      have hbody := accords_performAll body (s.inBlock name) s.tracer.spans.length hcurrent hin
      rw [Scene.tracer_inBlock, henabled, hon] at hbody
      rw [if_pos rfl]
      exact hbody.inBlock hvisible hlt
  | .record facts, s, cur, hcur, hlt => by
    have htracer : ((Step.record facts).perform s).2.tracer = (s.record facts).tracer := by
      rw [Step.perform]
      rfl
    have hresult : ((Step.record facts).perform s).1 = .ok () := by rw [Step.perform]
    rw [hresult, htracer, Step.account, Scene.tracer_record]
    cases hon : s.tracer.enabled with
    | false =>
      rw [Tracer.visible_of_disabled hon]
      exact ⟨rfl, hon, .refl cur _⟩
    | true =>
      rw [Tracer.visible_of_enabled hon, hcur]
      exact ⟨rfl, hon, .record cur _ facts⟩
  | .enable, s, cur, _, _ => by
    rw [Step.perform, Step.account]
    exact ⟨rfl, rfl, .refl cur _⟩
  | .disable, s, cur, _, _ => by
    rw [Step.perform, Step.account]
    exact ⟨rfl, rfl, .refl cur _⟩
  | .fail message, s, cur, _, _ => by
    rw [Step.perform, Step.account]
    exact ⟨rfl, rfl, .refl cur _⟩
  | .attempt body, s, cur, hcur, hlt => by
    obtain ⟨hresult, htracer⟩ := perform_attempt body s
    have hbody := accords_performAll body s cur hcur hlt
    rw [hresult, htracer, Step.account]
    exact ⟨rfl, hbody.enabled, hbody.grows⟩
  | .call c, s, cur, hcur, hlt => by
    obtain ⟨hresult, htracer⟩ := perform_call c s
    rw [hresult, htracer, Step.account]
    exact accords_performCall c s cur hcur hlt

theorem accords_performAll : ∀ (steps : List Step) (s : Scene) (cur : Nat),
    s.tracer.current = some cur → cur < s.tracer.spans.length →
    (accountAll steps s.tracer.enabled).Accords cur s.tracer (performAll steps s).1
      (performAll steps s).2.tracer
  | [], s, cur, _, _ => by
    rw [performAll, accountAll]
    exact ⟨rfl, rfl, .refl cur _⟩
  | step :: rest, s, cur, hcur, hlt => by
    have hstep := accords_perform step s cur hcur hlt
    rw [accountAll]
    cases hresult : (step.perform s).1 with
    | error m =>
      rw [hresult] at hstep
      rw [performAll_cons_of_error hresult, hstep.failure_of_error, hresult]
      exact hstep
    | ok _ =>
      rw [hresult] at hstep
      have hcur' : (step.perform s).2.tracer.current = some cur := by
        rw [current_perform, hcur]
      have hlt' : cur < (step.perform s).2.tracer.spans.length :=
        Nat.lt_of_lt_of_le hlt hstep.grows.length_le
      have hrest := accords_performAll rest (step.perform s).2 cur hcur' hlt'
      rw [performAll_cons_of_ok hresult, hstep.failure_of_ok]
      rw [hstep.enabled] at hrest
      exact hstep.andThen hlt hrest

theorem accords_performCall : ∀ (c : Call) (s : Scene) (cur : Nat),
    s.tracer.current = some cur → cur < s.tracer.spans.length →
    (c.account s.tracer.enabled).Accords cur s.tracer ((c.perform s).1.map fun _ => ())
      (c.perform s).2.tracer
  | .mk name body returns, s, cur, hcur, hlt => by
    obtain ⟨ok, htracer, hresult⟩ := perform_mk name body returns s
    have hforget : ((Call.mk name body returns).perform s).1.map (fun _ => ()) =
        (performAll body (s.inCall name)).1 := by
      rw [hresult]
      cases (performAll body (s.inCall name)).1 <;> rfl
    rw [hforget, htracer, Call.account]
    cases hon : s.tracer.enabled with
    | false =>
      have hbody := accords_performAll body (s.inCall name) cur
      rw [Scene.tracer_inCall, Tracer.enterCall_of_disabled hon, hon] at hbody
      rw [Tracer.enterCall_of_disabled hon, if_neg Bool.false_ne_true]
      exact hbody hcur hlt
    | true =>
      obtain ⟨hcurrent, hin, henabled⟩ := Tracer.current_enterCall hon name
      have hbody := accords_performAll body (s.inCall name) s.tracer.spans.length hcurrent hin
      rw [Scene.tracer_inCall, henabled, hon] at hbody
      rw [if_pos rfl]
      exact hbody.inCall hon hlt ok

end

/-- A call that is entered while tracing is on fails if its body does, and otherwise returns its
report with a tree among its remarks, where all others are kept.  The root of the tree has the name
of the call.  Below it stands one node for each block that was entered while tracing was on and
outside calls with trees of their own, under the innermost block around it that has a node, in the
order of entry and with the facts that were recorded while that block was current, whether it was
left by its end or by a failure; and every node was ended. -/
theorem call_tree_mirrors_blocks (name : String) (body : List Step) (r : Report) {s : Scene}
    (hon : s.tracer.enabled = true) :
    (∀ m, (accountAll body true).failure = some m →
      ((Call.mk name body (.report r)).perform s).1 = .error m) ∧
    ((accountAll body true).failure = none → ∃ (tree : Tree) (remarks : Fields),
      ((Call.mk name body (.report r)).perform s).1 =
        .ok (.report { r with remarks := some remarks }) ∧
      Fields.get? Report.telemetryKey remarks = some tree.toValue ∧
      (∀ key ≠ Report.telemetryKey,
        Fields.get? key remarks = Fields.get? key (r.remarks.getD [])) ∧
      tree.outline = .node name (.ofPairs (accountAll body true).facts)
        (accountAll body true).blocks ∧
      tree.Ended) := by
  obtain ⟨hcurrent, hin, henabled⟩ := Tracer.current_enterCall hon name
  have hbody := accords_performAll body (s.inCall name) s.tracer.spans.length hcurrent hin
  rw [Scene.tracer_inCall, henabled, hon] at hbody
  obtain ⟨ok, -, hresult⟩ := perform_mk name body (.report r) s
  have hgrows := hbody.grows
  rw [Tracer.enterCall_of_enabled hon] at hgrows
  obtain ⟨tree, hleave, houtline, hended⟩ := Tracer.leaveCall_of_grows hgrows ok
  rw [Tracer.enterCall_of_enabled hon, hleave, hbody.result] at hresult
  constructor
  · intro m hm
    rw [hresult, Account.result, hm]
    rfl
  · intro hnone
    rw [Account.result, hnone] at hresult
    refine ⟨tree, Fields.set Report.telemetryKey tree.toValue (r.remarks.getD []), hresult, ?_, ?_,
      houtline, hended⟩
    · exact Fields.get?_set_self _ _ _
    · intro key hne
      exact Fields.get?_set_of_ne hne.symm _ _

/-- Block `b` is entered while tracing is off and `c` inside it while it is on again, a failure
leaves `d`, `e` belongs to the tree of `g`, and `h` has none, so that `i` stands below `f`. -/
theorem call_tree_mirrors_six :
    let body : List Step :=
      [.record [("k", .int 1)],
        .span "a" [.record [("n", .int 1)], .disable, .span "b" [.enable, .span "c" []],
          .record [("n", .int 2)]],
        .attempt [.span "d" [.fail "x"]],
        .call (.mk "g" [.span "e" []] (.plain .null)),
        .disable,
        .call (.mk "h" [.enable, .span "i" []] (.plain .null))]
    let r : Report :=
      { ok := true, op := "op", remarks := some [("telemetry", .null), ("m", .int 3)] }
    let s : Scene := { tracer := { enabled := true, clock := .every 7 } }
    s.tracer.enabled = true ∧ ∃ (tree : Tree) (remarks : Fields),
      ((Call.mk "f" body (.report r)).perform s).1 =
        .ok (.report { r with remarks := some remarks }) ∧
      Fields.get? "m" remarks = some (.int 3) ∧
      tree.outline = .node "f" [("k", .int 1)]
        [.node "a" [("n", .int 2)] [.node "c" [] []], .node "d" [] [], .node "i" [] []] := by
  intro body r s
  obtain ⟨tree, remarks, hanswer, -, hkept, houtline, -⟩ :=
    (call_tree_mirrors_blocks "f" body r (s := s) rfl).2 rfl
  exact ⟨rfl, tree, remarks, hanswer, hkept "m" (by decide), houtline⟩

end Plateau.Telemetry
