import Plateau.Telemetry.Tracer

namespace Plateau.Telemetry.Traced

variable {ε α β : Type} {x : Traced ε α} {r : Except ε α}

/-- The work has this result, whether tracing is on or off and whatever was traced before. -/
def Yields (x : Traced ε α) (r : Except ε α) : Prop := ∀ t, (x t).1 = r

theorem yields_pure (a : α) : (pure a : Traced ε α).Yields (.ok a) := fun _ => rfl

theorem yields_modify (f : Tracer → Tracer) : (modify f : Traced ε Unit).Yields (.ok ()) :=
  fun _ => rfl

theorem bind_apply (x : Traced ε α) (f : α → Traced ε β) (t : Tracer) :
    (x >>= f) t =
      match x t with
      | (.ok a, u) => f a u
      | (.error e, u) => (.error e, u) := by
  change ExceptT.bindCont f (x t).1 (x t).2 = _
  rcases x t with ⟨_ | _, u⟩ <;> rfl

theorem bind_apply_of_ok {t : Tracer} {a : α} (h : (x t).1 = .ok a) (f : α → Traced ε β) :
    (x >>= f) t = f a (x t).2 := by
  rw [bind_apply]
  rcases hxt : x t with ⟨_ | b, u⟩
  · rw [hxt] at h
    contradiction
  · rw [hxt] at h
    obtain rfl := Except.ok.inj h
    rfl

theorem bind_apply_of_error {t : Tracer} {e : ε} (h : (x t).1 = .error e) (f : α → Traced ε β) :
    (x >>= f) t = (.error e, (x t).2) := by
  rw [bind_apply]
  rcases hxt : x t with ⟨d | b, u⟩
  · rw [hxt] at h
    obtain rfl := Except.error.inj h
    rfl
  · rw [hxt] at h
    contradiction

theorem Yields.bind_ok {a : α} (hx : x.Yields (.ok a)) {f : α → Traced ε β} {s : Except ε β}
    (hf : (f a).Yields s) : (x >>= f).Yields s := by
  intro t
  rw [bind_apply_of_ok (hx t)]
  exact hf (x t).2

theorem Yields.bind_error {e : ε} (hx : x.Yields (.error e)) (f : α → Traced ε β) :
    (x >>= f).Yields (.error e) := by
  intro t
  rw [bind_apply_of_error (hx t)]

def Returns (x : Traced ε α) (p : α → Prop) : Prop := ∀ t a, (x t).1 = .ok a → p a

theorem returns_pure {p : α → Prop} {a : α} (h : p a) : (pure a : Traced ε α).Returns p := by
  intro t b hb
  obtain rfl := Except.ok.inj hb
  exact h

theorem returns_bind (x : Traced ε α) {f : α → Traced ε β} {p : β → Prop}
    (h : ∀ a, (f a).Returns p) : (x >>= f).Returns p := by
  intro t b hb
  cases hx : (x t).1 with
  | error e =>
    rw [bind_apply_of_error hx] at hb
    contradiction
  | ok a =>
    rw [bind_apply_of_ok hx] at hb
    exact h a (x t).2 b hb

theorem Yields.block {name : String} {body : Option Nat → Traced ε α}
    (h : ∀ span, (body span).Yields r) : (block name body).Yields r := by
  intro t
  unfold Traced.block
  rcases t.enterBlock name with ⟨opened, u⟩
  exact h _ u

theorem call_apply (name : String) (ok : α → Bool) (attach : Value → α → α) (x : Traced ε α)
    (t : Tracer) :
    ∃ good, (Traced.call name ok attach x t).2 =
        ((x (t.enterCall name).2).2.leaveCall (t.enterCall name).1 good).2 ∧
      (Traced.call name ok attach x t).1 = (x (t.enterCall name).2).1.map fun a =>
        match ((x (t.enterCall name).2).2.leaveCall (t.enterCall name).1 good).1 with
        | some tree => attach tree.toValue a
        | none => a := by
  unfold Traced.call
  rcases t.enterCall name with ⟨opened, u⟩
  dsimp only
  rcases x u with ⟨e | a, v⟩
  · exact ⟨false, rfl, rfl⟩
  · exact ⟨ok a, rfl, rfl⟩

theorem Yields.exists_call {name : String} {ok : α → Bool} {attach : Value → α → α}
    (hx : x.Yields r) (t : Tracer) :
    ∃ g : α → α, (Traced.call name ok attach x t).1 = r.map g ∧
      (g = id ∨ ∃ tree, g = attach tree) := by
  obtain ⟨good, -, hresult⟩ := call_apply name ok attach x t
  rw [hx] at hresult
  cases htree : ((x (t.enterCall name).2).2.leaveCall (t.enterCall name).1 good).1 with
  | none =>
    rw [htree] at hresult
    exact ⟨id, hresult, .inl rfl⟩
  | some tree =>
    rw [htree] at hresult
    exact ⟨attach tree.toValue, hresult, .inr ⟨tree.toValue, rfl⟩⟩

/-- A call adds to a result what `attach` puts into it, and nothing that `f` keeps. -/
theorem Yields.call {name : String} {ok : α → Bool} {attach : Value → α → α} (hx : x.Yields r)
    {f : α → β} (hf : ∀ tree a, f (attach tree a) = f a) (t : Tracer) :
    (Traced.call name ok attach x t).1.map f = r.map f := by
  obtain ⟨g, hg, hattach⟩ := @Yields.exists_call _ _ _ _ name ok attach hx t
  have hkeeps (a : α) : f (g a) = f a := by
    rcases hattach with rfl | ⟨tree, rfl⟩
    · rfl
    · exact hf tree a
  rw [hg]
  cases r with
  | error e => rfl
  | ok a => exact congrArg Except.ok (hkeeps a)

end Plateau.Telemetry.Traced
