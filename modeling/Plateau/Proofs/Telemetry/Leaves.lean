import Plateau.Proofs.Telemetry.Program
import Plateau.Proofs.Telemetry.Traced

namespace Plateau.Telemetry

namespace Tracer

structure Active (cur : Nat) (t : Tracer) : Prop where
  enabled : t.enabled = true
  current : t.current = some cur
  created : cur < t.spans.length

/-- Span `cur` stays current while facts and blocks are left on it. -/
structure Stays (cur : Nat) (t u : Tracer) (facts : Fields) (blocks : List Outline) : Prop where
  enabled : u.enabled = true
  current : u.current = some cur
  grows : t.spans.Grows cur u.spans facts blocks

variable {cur : Nat} {t u v : Tracer} {facts later : Fields} {blocks rest : List Outline}

theorem Active.visible (h : t.Active cur) : t.visible = some cur := by
  rw [visible_of_enabled h.enabled, h.current]

theorem active_push (hon : t.enabled = true) (name : String) (parent : Option Nat) :
    (t.push name parent).2.Active t.spans.length :=
  ⟨hon, rfl, t.lt_length_push name parent⟩

theorem Active.stays (h : t.Active cur) : t.Stays cur t [] [] :=
  ⟨h.enabled, h.current, .refl cur _⟩

theorem Stays.active (h : t.Stays cur u facts blocks) (ht : t.Active cur) : u.Active cur :=
  ⟨h.enabled, h.current, Nat.lt_of_lt_of_le ht.created h.grows.length_le⟩

theorem Stays.trans (ht : t.Active cur) (h : t.Stays cur u facts blocks)
    (h' : u.Stays cur v later rest) : t.Stays cur v (facts ++ later) (blocks ++ rest) :=
  ⟨h'.enabled, h'.current, h.grows.trans ht.created h'.grows⟩

end Tracer

namespace Traced

variable {ε α β : Type} {x : Traced ε α}

/-- The work logs these messages; and if tracing is on, and the span it was told of is current, it
leaves these facts and blocks on that span. -/
structure Leaves (span : Option Nat) (x : Traced ε α) (messages : List Log.Record)
    (facts : Fields) (blocks : List Outline) : Prop where
  log : ∀ t, (x t).2.log = t.log ++ messages
  stays : ∀ cur ∈ span, ∀ t : Tracer, t.Active cur → t.Stays cur (x t).2 facts blocks

variable {span : Option Nat} {messages more : List Log.Record} {facts later : Fields}
  {blocks rest : List Outline}

theorem leaves_of_still (h : ∀ t, (x t).2 = t) (span : Option Nat) : x.Leaves span [] [] [] where
  log t := by rw [h, List.append_nil]
  stays cur _ t ht := by
    rw [h]
    exact ht.stays

theorem leaves_pure (a : α) (span : Option Nat) : (pure a : Traced ε α).Leaves span [] [] [] :=
  leaves_of_still (fun _ => rfl) span

theorem leaves_log (r : Log.Record) (span : Option Nat) :
    (modify (Tracer.logRecord r) : Traced ε Unit).Leaves span [r] [] [] where
  log _ := rfl
  stays cur _ _ ht := ⟨ht.enabled, ht.current, .refl cur _⟩

theorem leaves_record (id : Nat) (facts : Fields) :
    (modify fun t => { t with spans := t.spans.record id facts } : Traced ε Unit).Leaves
      (some id) [] facts [] where
  log t := (List.append_nil t.log).symm
  stays cur hcur t ht := by
    obtain rfl := Option.some.inj hcur
    exact ⟨ht.enabled, ht.current, .record id _ facts⟩

theorem Leaves.bind_ok {a : α} (hresult : x.Yields (.ok a))
    (hx : x.Leaves span messages facts blocks) {f : α → Traced ε β}
    (hf : (f a).Leaves span more later rest) :
    (x >>= f).Leaves span (messages ++ more) (facts ++ later) (blocks ++ rest) where
  log t := by
    rw [bind_apply_of_ok (hresult t), hf.log, hx.log, List.append_assoc]
  stays cur hcur t ht := by
    have hfirst := hx.stays cur hcur t ht
    have hthen := hf.stays cur hcur (x t).2 (hfirst.active ht)
    rw [bind_apply_of_ok (hresult t)]
    exact hfirst.trans ht hthen

theorem Leaves.bind_error {e : ε} (hresult : x.Yields (.error e))
    (hx : x.Leaves span messages facts blocks) (f : α → Traced ε β) :
    (x >>= f).Leaves span messages facts blocks where
  log t := by
    rw [bind_apply_of_error (hresult t)]
    exact hx.log t
  stays cur hcur t ht := by
    rw [bind_apply_of_error (hresult t)]
    exact hx.stays cur hcur t ht

/-- All that the work inside a block leaves on its span becomes one tree. -/
theorem Leaves.block {name : String} {body : Option Nat → Traced ε α}
    (h : ∀ inner, (body inner).Leaves inner messages facts blocks) (span : Option Nat) :
    (Traced.block name body).Leaves span messages [] [.node name (.ofPairs facts) blocks] where
  log t := by
    unfold Traced.block
    cases hv : t.visible with
    | none =>
      rw [Tracer.enterBlock_of_hidden hv]
      exact (h none).log t
    | some parent =>
      rw [Tracer.enterBlock_of_visible hv]
      exact (h _).log (t.push name (some parent)).2
  stays cur _ t ht := by
    have hin := Tracer.active_push ht.enabled name (some cur)
    have hbody := (h (some t.spans.length)).stays _ rfl _ hin
    unfold Traced.block
    rw [Tracer.enterBlock_of_visible ht.visible]
    exact ⟨hbody.enabled, ht.current, .block ht.created hbody.grows⟩

variable {name : String} {ok : α → Bool} {attach : Value → α → α} {r : Except ε α}

theorem call_of_disabled {t : Tracer} (hoff : t.enabled = false) :
    Traced.call name ok attach x t = x t := by
  obtain ⟨good, hafter, hbefore⟩ := call_apply name ok attach x t
  rw [Tracer.enterCall_of_disabled hoff] at hafter hbefore
  have hsame : (x t).1.map (fun a => a) = (x t).1 := by cases (x t).1 <;> rfl
  exact Prod.ext (hbefore.trans hsame) hafter

theorem call_of_enabled (name : String) (ok : α → Bool) (attach : Value → α → α) {t : Tracer}
    (hon : t.enabled = true) (hresult : x.Yields r)
    (hx : ∀ span, x.Leaves span messages facts blocks) :
    ∃ tree good, tree.outline = .node name (.ofPairs facts) blocks ∧ tree.Ended ∧
      (Traced.call name ok attach x t).1 = r.map (attach tree.toValue) ∧
      (Traced.call name ok attach x t).2.log =
        t.log ++ messages ++ [Tracer.completion tree good] := by
  obtain ⟨good, hafter, hbefore⟩ := call_apply name ok attach x t
  rw [Tracer.enterCall_of_enabled hon] at hafter hbefore
  have hin := Tracer.active_push hon name none
  have hwork := (hx (some t.spans.length)).stays _ rfl _ hin
  have hlog := (hx (some t.spans.length)).log (t.push name none).2
  obtain ⟨tree, hleave, houtline, hended⟩ := Tracer.leaveCall_of_grows hwork.grows good
  refine ⟨tree, good, houtline, hended, ?_, ?_⟩
  · rw [hbefore, hleave, hresult]
  · rw [hafter, hleave]
    exact congrArg (· ++ [Tracer.completion tree good]) hlog

end Traced

end Plateau.Telemetry
