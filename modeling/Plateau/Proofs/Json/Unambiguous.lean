import Plateau.Proofs.Json.Grammar

namespace Plateau.Json

open Numeral (value)

variable {s t rest : List Char}

theorem Whole.unique {ds ds' rest' : List Char} (h : Whole ds) (h' : Whole ds')
    (hrest : Stops rest) (hrest' : Stops rest') (heq : ds ++ rest = ds' ++ rest') :
    ds = ds' ∧ rest = rest' := by
  obtain ⟨htake, hdrop⟩ := span_digits h.isDigit hrest
  obtain ⟨htake', hdrop'⟩ := span_digits h'.isDigit hrest'
  rw [heq] at htake hdrop
  exact ⟨htake.symm.trans htake', hdrop.symm.trans hdrop'⟩

theorem Space.unique {c c' : Char} {s' t' : List Char} (hs : Space s) (hs' : Space s')
    (hc : isSpace c = false) (hc' : isSpace c' = false) (heq : s ++ c :: t = s' ++ c' :: t') :
    c :: t = c' :: t' := by
  have hskip := congrArg skipSpace heq
  rwa [skipSpace_append hs, skipSpace_append hs', skipSpace_cons hc, skipSpace_cons hc'] at hskip

theorem Quotes.unique {cs cs' rest' : List Char} (h : Quotes s cs rest)
    (h' : Quotes s cs' rest') : cs = cs' ∧ rest = rest' := by
  have hread := (readText_of_quotes h).symm.trans (readText_of_quotes h')
  simpa using hread

theorem Spells.same_text {v v' : Value} {s' t' rest' : List Char} (hs : Space s) (hs' : Space s')
    (h : Spells t v rest) (h' : Spells t' v' rest') (heq : s ++ t = s' ++ t') : t = t' := by
  obtain ⟨c, u, rfl, hc, -⟩ := h.starts
  obtain ⟨c', u', rfl, hc', -⟩ := h'.starts
  exact hs.unique hs' hc hc' heq

theorem not_spellsItems_close {vs : List Value} {u : List Char} (hs : Space s) :
    ¬SpellsItems (s ++ ']' :: t) vs u := by
  intro h
  obtain ⟨p, c, v, heq, hp, hc, hclose⟩ := h.starts
  exact hclose (List.cons.inj (hs.unique hp rfl hc heq)).1.symm

theorem not_spellsFields_close {fs : List (String × Value)} {u : List Char} (hs : Space s) :
    ¬SpellsFields (s ++ '}' :: t) fs u := by
  intro h
  obtain ⟨p, v, heq, hp⟩ := h.starts
  exact absurd (List.cons.inj (hs.unique hp rfl rfl heq)).1 (by decide)

theorem Begins.null {v : Value} (h : Begins 'n' v) : v = .null := by
  cases v <;> grind [Begins]

theorem Begins.yes {v : Value} (h : Begins 't' v) : v = .bool true := by
  cases v <;> grind [Begins]

theorem Begins.no {v : Value} (h : Begins 'f' v) : v = .bool false := by
  cases v <;> grind [Begins]

theorem Begins.text {v : Value} (h : Begins '"' v) : ∃ x, v = .text x := by
  cases v <;> grind [Begins]

theorem Begins.list {v : Value} (h : Begins '[' v) : ∃ vs, v = .list vs := by
  cases v <;> grind [Begins]

theorem Begins.record {v : Value} (h : Begins '{' v) : ∃ fs, v = .record fs := by
  cases v <;> grind [Begins]

theorem Begins.int {c : Char} {v : Value} (h : Begins c v) (hc : c.isDigit = true ∨ c = '-') :
    ∃ n, v = .int n := by
  cases v with
  | int n => exact ⟨n, rfl⟩
  | bool b =>
    cases b
    all_goals
      cases h
      simp at hc
  | float x => cases h
  | moment s => cases h
  | _ =>
    cases h
    simp at hc

theorem natural_unique {ds : List Char} {v : Value} {u : List Char} (h : Whole ds)
    (hrest : Stops rest) (h' : Spells (ds ++ rest) v u) :
    .int (value ds) = v ∧ rest = u := by
  obtain ⟨c, t, rfl, hdigit⟩ := h.exists_cons
  obtain ⟨d, text, hcons, hd⟩ := h'.begins
  obtain ⟨rfl, -⟩ := List.cons.inj hcons
  obtain ⟨n, rfl⟩ := hd.int (.inl hdigit)
  generalize htext : c :: t ++ rest = text at h'
  cases h' with
  | natural h' hrest' =>
    obtain ⟨rfl, rfl⟩ := h.unique h' hrest hrest' htext
    exact ⟨rfl, rfl⟩
  | negative _ _ =>
    obtain ⟨rfl, -⟩ := List.cons.inj htext
    contradiction

theorem negative_unique {ds : List Char} {v : Value} {u : List Char} (h : Whole ds)
    (hrest : Stops rest) (h' : Spells ('-' :: (ds ++ rest)) v u) :
    .int (-value ds) = v ∧ rest = u := by
  obtain ⟨d, text, hcons, hd⟩ := h'.begins
  obtain ⟨rfl, -⟩ := List.cons.inj hcons
  obtain ⟨n, rfl⟩ := hd.int (.inr rfl)
  generalize htext : '-' :: (ds ++ rest) = text at h'
  cases h' with
  | natural h' _ =>
    obtain ⟨c, t, rfl, hdigit⟩ := h'.exists_cons
    obtain ⟨rfl, -⟩ := List.cons.inj htext
    contradiction
  | negative h' hrest' =>
    obtain ⟨-, htail⟩ := List.cons.inj htext
    obtain ⟨rfl, rfl⟩ := h.unique h' hrest hrest' htail
    exact ⟨rfl, rfl⟩

theorem same_field {k k' key key' p p' q q' t' u u' s' : List Char} {v v' : Value}
    (hs : Space s) (hs' : Space s') (hk : Quotes k key (p ++ ':' :: (q ++ t)))
    (hk' : Quotes k' key' (p' ++ ':' :: (q' ++ t'))) (hp : Space p) (hp' : Space p')
    (hq : Space q) (hq' : Space q') (hv : Spells t v u) (hv' : Spells t' v' u')
    (heq : s ++ '"' :: k = s' ++ '"' :: k') : key = key' ∧ t = t' := by
  obtain ⟨-, rfl⟩ := List.cons.inj (hs.unique hs' rfl rfl heq)
  obtain ⟨rfl, hcolon⟩ := hk.unique hk'
  obtain ⟨-, hvalue⟩ := List.cons.inj (hp.unique hp' rfl rfl hcolon)
  exact ⟨rfl, Spells.same_text hq hq' hv hv' hvalue⟩

mutual

/-- A text begins with one value at most. -/
theorem Spells.unique {s rest rest' : List Char} {v v' : Value} (h : Spells s v rest)
    (h' : Spells s v' rest') : v = v' ∧ rest = rest' := by
  -- The first character tells the kind of the value.
  obtain ⟨c, t, hcons, hc⟩ := h'.begins
  cases h with
  | natural h hrest => exact natural_unique h hrest h'
  | negative h hrest => exact negative_unique h hrest h'
  | null =>
    obtain ⟨rfl, -⟩ := List.cons.inj hcons
    obtain rfl := hc.null
    generalize htext : 'n' :: _ = text at h'
    cases h'
    simpa using htext
  | yes =>
    obtain ⟨rfl, -⟩ := List.cons.inj hcons
    obtain rfl := hc.yes
    generalize htext : 't' :: _ = text at h'
    cases h'
    simpa using htext
  | no =>
    obtain ⟨rfl, -⟩ := List.cons.inj hcons
    obtain rfl := hc.no
    generalize htext : 'f' :: _ = text at h'
    cases h'
    simpa using htext
  | text h =>
    obtain ⟨rfl, -⟩ := List.cons.inj hcons
    obtain ⟨x, rfl⟩ := hc.text
    generalize htext : '"' :: _ = text at h'
    cases h' with
    | text h' =>
      obtain ⟨-, rfl⟩ := List.cons.inj htext
      obtain ⟨rfl, rfl⟩ := h.unique h'
      exact ⟨rfl, rfl⟩
  | emptyList hs =>
    obtain ⟨rfl, -⟩ := List.cons.inj hcons
    obtain ⟨vs', rfl⟩ := hc.list
    generalize htext : '[' :: _ = text at h'
    cases h' with
    | emptyList hs' =>
      exact ⟨rfl, (List.cons.inj (hs.unique hs' rfl rfl (List.cons.inj htext).2)).2⟩
    | list h' =>
      obtain ⟨-, rfl⟩ := List.cons.inj htext
      exact absurd h' (not_spellsItems_close hs)
  | list h =>
    obtain ⟨rfl, -⟩ := List.cons.inj hcons
    obtain ⟨vs', rfl⟩ := hc.list
    generalize htext : '[' :: _ = text at h'
    cases h' with
    | emptyList hs =>
      obtain ⟨-, rfl⟩ := List.cons.inj htext
      exact absurd h (not_spellsItems_close hs)
    | list h' =>
      obtain ⟨-, rfl⟩ := List.cons.inj htext
      obtain ⟨rfl, rfl⟩ := h.unique h'
      exact ⟨rfl, rfl⟩
  | emptyRecord hs =>
    obtain ⟨rfl, -⟩ := List.cons.inj hcons
    obtain ⟨fs', rfl⟩ := hc.record
    generalize htext : '{' :: _ = text at h'
    cases h' with
    | emptyRecord hs' =>
      exact ⟨rfl, (List.cons.inj (hs.unique hs' rfl rfl (List.cons.inj htext).2)).2⟩
    | record h' =>
      obtain ⟨-, rfl⟩ := List.cons.inj htext
      exact absurd h' (not_spellsFields_close hs)
  | record h hkeys =>
    obtain ⟨rfl, -⟩ := List.cons.inj hcons
    obtain ⟨fs', rfl⟩ := hc.record
    generalize htext : '{' :: _ = text at h'
    cases h' with
    | emptyRecord hs =>
      obtain ⟨-, rfl⟩ := List.cons.inj htext
      exact absurd h (not_spellsFields_close hs)
    | record h' _ =>
      obtain ⟨-, rfl⟩ := List.cons.inj htext
      obtain ⟨rfl, rfl⟩ := h.unique h'
      exact ⟨rfl, rfl⟩

theorem SpellsItems.unique {s rest rest' : List Char} {vs vs' : List Value}
    (h : SpellsItems s vs rest) (h' : SpellsItems s vs' rest') : vs = vs' ∧ rest = rest' := by
  cases h with
  | last hs hv hu =>
    generalize htext : (_ ++ _ : List Char) = text at h'
    cases h' with
    | last hs' hv' hu' =>
      obtain rfl := Spells.same_text hs hs' hv hv' htext
      obtain ⟨rfl, hafter⟩ := hv.unique hv'
      exact ⟨rfl, (List.cons.inj (hu.unique hu' rfl rfl hafter)).2⟩
    | more hs' hv' hu' _ =>
      obtain rfl := Spells.same_text hs hs' hv hv' htext
      obtain ⟨-, hafter⟩ := hv.unique hv'
      exact absurd (List.cons.inj (hu.unique hu' rfl rfl hafter)).1 (by decide)
  | more hs hv hu hlater =>
    generalize htext : (_ ++ _ : List Char) = text at h'
    cases h' with
    | last hs' hv' hu' =>
      obtain rfl := Spells.same_text hs hs' hv hv' htext
      obtain ⟨-, hafter⟩ := hv.unique hv'
      exact absurd (List.cons.inj (hu.unique hu' rfl rfl hafter)).1 (by decide)
    | more hs' hv' hu' hlater' =>
      obtain rfl := Spells.same_text hs hs' hv hv' htext
      obtain ⟨rfl, hafter⟩ := hv.unique hv'
      obtain ⟨-, rfl⟩ := List.cons.inj (hu.unique hu' rfl rfl hafter)
      obtain ⟨rfl, rfl⟩ := hlater.unique hlater'
      exact ⟨rfl, rfl⟩

theorem SpellsFields.unique {s rest rest' : List Char} {fs fs' : List (String × Value)}
    (h : SpellsFields s fs rest) (h' : SpellsFields s fs' rest') : fs = fs' ∧ rest = rest' := by
  cases h with
  | last hs hk hp hq hv hu =>
    generalize htext : (_ ++ _ : List Char) = text at h'
    cases h' with
    | last hs' hk' hp' hq' hv' hu' =>
      obtain ⟨rfl, rfl⟩ := same_field hs hs' hk hk' hp hp' hq hq' hv hv' htext
      obtain ⟨rfl, hafter⟩ := hv.unique hv'
      exact ⟨rfl, (List.cons.inj (hu.unique hu' rfl rfl hafter)).2⟩
    | more hs' hk' hp' hq' hv' hu' _ =>
      obtain ⟨rfl, rfl⟩ := same_field hs hs' hk hk' hp hp' hq hq' hv hv' htext
      obtain ⟨-, hafter⟩ := hv.unique hv'
      exact absurd (List.cons.inj (hu.unique hu' rfl rfl hafter)).1 (by decide)
  | more hs hk hp hq hv hu hlater =>
    generalize htext : (_ ++ _ : List Char) = text at h'
    cases h' with
    | last hs' hk' hp' hq' hv' hu' =>
      obtain ⟨rfl, rfl⟩ := same_field hs hs' hk hk' hp hp' hq hq' hv hv' htext
      obtain ⟨-, hafter⟩ := hv.unique hv'
      exact absurd (List.cons.inj (hu.unique hu' rfl rfl hafter)).1 (by decide)
    | more hs' hk' hp' hq' hv' hu' hlater' =>
      obtain ⟨rfl, rfl⟩ := same_field hs hs' hk hk' hp hp' hq hq' hv hv' htext
      obtain ⟨rfl, hafter⟩ := hv.unique hv'
      obtain ⟨-, rfl⟩ := List.cons.inj (hu.unique hu' rfl rfl hafter)
      obtain ⟨rfl, rfl⟩ := hlater.unique hlater'
      exact ⟨rfl, rfl⟩

end

theorem Document.unique {text : List Char} {v v' : Value} (h : Document text v)
    (h' : Document text v') : v = v' := by
  obtain ⟨s, t, u, rfl, hs, hv, -⟩ := h
  obtain ⟨s', t', u', htext, hs', hv', -⟩ := h'
  obtain rfl := Spells.same_text hs hs' hv hv' htext
  exact (hv.unique hv').1

end Plateau.Json
