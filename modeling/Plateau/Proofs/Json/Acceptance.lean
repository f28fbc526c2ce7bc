import Plateau.Proofs.Json.Grammar

namespace Plateau.Json

open Numeral (digitLimit tooLong value)

variable {s t rest : List Char} {fuel : Nat}

theorem readValue_append (hs : Space s) (fuel : Nat) (t : List Char) :
    readValue fuel (s ++ t) = readValue fuel t := by
  cases fuel with
  | zero => rw [readValue, readValue]
  | succ fuel => rw [readValue, readValue, skipSpace_append hs]

theorem readItems_append (hs : Space s) (fuel : Nat) (t : List Char) :
    readItems fuel (s ++ t) = readItems fuel t := by
  cases fuel with
  | zero => rw [readItems, readItems]
  | succ fuel => rw [readItems, readItems, readValue_append hs]

theorem readFields_append (hs : Space s) (fuel : Nat) (t : List Char) :
    readFields fuel (s ++ t) = readFields fuel t := by
  cases fuel with
  | zero => rw [readFields, readFields]
  | succ fuel => rw [readFields, readFields, skipSpace_append hs]

theorem readFraction_of_stops (h : Stops rest) : readFraction rest = some ([], rest) := by
  unfold readFraction
  split
  · exact absurd rfl (h '.' rfl).2.1
  · rfl

theorem readExponent_of_stops (h : Stops rest) : readExponent rest = some (none, rest) := by
  cases rest with
  | nil => rfl
  | cons c s =>
    obtain ⟨-, -, he, hE⟩ := h c rfl
    simp [readExponent, he, hE]

theorem exists_digitChar {c : Char} (hlow : '0' ≤ c) (hhigh : c ≤ '9') :
    ∃ d < 10, Nat.digitChar d = c ∧ c.toNat - '0'.toNat = d := by
  have hlow : 48 ≤ c.toNat := hlow
  have hhigh : c.toNat ≤ 57 := hhigh
  have hdigit : ∀ d < 10, Nat.digitChar d = Char.ofNat (48 + d) := by decide
  refine ⟨c.toNat - 48, by omega, ?_, rfl⟩
  rw [hdigit _ (by omega), Nat.add_sub_cancel' hlow, Char.ofNat_toNat]

theorem toDigits_value {ds : List Char} (h : Whole ds) : Nat.toDigits 10 (value ds) = ds := by
  induction ds using List.reverseRecOn with
  | nil => exact absurd rfl h.ne_nil
  | append_singleton front c ih =>
    obtain ⟨hlow, hhigh⟩ := h.ascii c (by simp)
    obtain ⟨d, hd, hchar, hdigit⟩ := exists_digitChar hlow hhigh
    have hlast : Nat.toDigits 10 d = [c] := by rw [Nat.toDigits_of_lt_base hd, hchar]
    rw [Numeral.value_concat, hdigit]
    cases front with
    | nil => simpa [value] using hlast
    | cons a as =>
      have hne : a ≠ '0' := by
        rintro rfl
        simpa using h.head rfl
      have hdigits := ih ⟨List.cons_ne_nil a as, fun b hb => h.ascii b (List.mem_append_left _ hb),
        fun hhead => absurd (Option.some.inj hhead) hne⟩
      have hpos : 0 < value (a :: as) := by
        rw [Nat.pos_iff_ne_zero]
        intro hzero
        rw [hzero] at hdigits
        exact hne (List.cons.inj hdigits).1.symm
      rw [← Nat.toDigits_append_toDigits (by decide) hpos hd, hdigits, hlast]

theorem readMagnitude_of_whole (negative : Bool) {ds : List Char} (h : Whole ds)
    (hshort : value ds < tooLong) (hrest : Stops rest) :
    readMagnitude negative (ds ++ rest) =
      some (.int (if negative then -value ds else value ds), rest) := by
  obtain ⟨htake, hdrop⟩ := span_digits h.isDigit hrest
  have hempty : ds.isEmpty = false := List.isEmpty_eq_false_iff.2 h.ne_nil
  have hzero : (decide (ds.length > 1) && ds.head? == some '0') = false := by
    by_cases hhead : ds.head? = some '0'
    · rw [h.head hhead]
      rfl
    · simp [hhead]
  have hlength : ¬ds.length > digitLimit := by
    rw [Numeral.tooLong_eq, ← Nat.length_toDigits_le_iff (by decide) (by decide),
      toDigits_value h] at hshort
    exact Nat.not_lt.2 hshort
  rw [readMagnitude, htake, hdrop, hempty, hzero, readFraction_of_stops hrest]
  simp [readExponent_of_stops hrest, hlength, Numeral.ofDigitChars_eq_value]

theorem readNumber_of_digit {c : Char} (hc : c.isDigit = true) (s : List Char) :
    readNumber (c :: s) = readMagnitude false (c :: s) := by
  rw [readNumber.eq_def]
  split
  case h_3 => rfl
  all_goals
    rename_i heq
    obtain ⟨rfl, -⟩ := List.cons.inj heq
    contradiction

theorem readNumber_of_minus {c : Char} (hc : c.isDigit = true) (s : List Char) :
    readNumber ('-' :: c :: s) = readMagnitude true (c :: s) := by
  rw [readNumber.eq_def]
  split
  · rename_i heq
    obtain ⟨rfl, -⟩ := List.cons.inj (List.cons.inj heq).2
    contradiction
  · rename_i heq
    rw [(List.cons.inj heq).2]
  · rename_i hno
    exact absurd rfl (hno (c :: s))

theorem readValue_of_number {c : Char} (hc : c.isDigit = true ∨ c = '-') (fuel : Nat)
    (s : List Char) : readValue (fuel + 1) (c :: s) = readNumber (c :: s) := by
  rw [readValue, skipSpace_cons (not_space_of_number hc)]
  split
  case h_9 => rfl
  all_goals
    rename_i heq
    obtain ⟨rfl, -⟩ := List.cons.inj heq
    simp at hc

/-- Values that can be told from their text. -/
inductive Faithful : Value → Prop where
  | null : Faithful .null
  | bool (b : Bool) : Faithful (.bool b)
  | int {n : Int} (h : n.natAbs < tooLong) : Faithful (.int n)
  | text (s : String) : Faithful (.text s)
  | list {vs : List Value} (h : ∀ v ∈ vs, Faithful v) : Faithful (.list vs)
  | record {fs : Fields} (hkeys : fs.keys.Nodup) (h : ∀ kv ∈ fs, Faithful kv.2) :
    Faithful (.record fs)

theorem faithful_iff_exact {v : Value} : Faithful v ↔ Exact (fun n => n.natAbs < tooLong) v := by
  constructor
  · intro h
    induction h with
    | null => exact .null
    | bool b => exact .bool b
    | int h => exact .int h
    | text s => exact .text s
    | list _ ih => exact .list ih
    | record hkeys _ ih => exact .record hkeys ih
  · intro h
    induction h with
    | null => exact .null
    | bool b => exact .bool b
    | int h => exact .int h
    | text s => exact .text s
    | list _ ih => exact .list ih
    | record hkeys _ ih => exact .record hkeys ih

theorem Quotes.length_lt {cs : List Char} (h : Quotes s cs rest) : rest.length < s.length := by
  induction h with
  | close rest => exact Nat.lt_succ_self _
  | plain _ _ _ _ ih => exact Nat.lt_succ_of_lt ih
  | escaped _ _ ih =>
    simp only [List.length_cons]
    omega
  | unit _ _ _ _ ih =>
    simp only [List.length_cons]
    omega
  | units _ _ _ _ _ ih =>
    simp only [List.length_cons]
    omega

/-- The text is read as `a` up to `rest`.  Fuel for two steps a character is enough. -/
structure Reads {α : Type} (read : Nat → List Char → Option (α × List Char)) (s : List Char) (a : α)
    (rest : List Char) : Prop where
  shorter : rest.length < s.length
  read : ∀ fuel, 2 * s.length ≤ fuel + 2 * rest.length → read fuel s = some (a, rest)

theorem read_natural {ds : List Char} (h : Whole ds) (hshort : (value ds : Int).natAbs < tooLong)
    (hrest : Stops rest) :
    Reads (fun fuel => readValue (fuel + 1)) (ds ++ rest) (.int (value ds)) rest := by
  have hread := readMagnitude_of_whole false h hshort hrest
  obtain ⟨c, t, rfl, hc⟩ := h.exists_cons
  refine ⟨by simp only [List.length_cons, List.length_append]; omega, fun fuel _ => ?_⟩
  rw [List.cons_append, readValue_of_number (.inl hc), readNumber_of_digit hc]
  exact hread

theorem read_negative {ds : List Char} (h : Whole ds) (hshort : (value ds : Int).natAbs < tooLong)
    (hrest : Stops rest) :
    Reads (fun fuel => readValue (fuel + 1)) ('-' :: (ds ++ rest)) (.int (-value ds)) rest := by
  have hread := readMagnitude_of_whole true h hshort hrest
  obtain ⟨c, t, rfl, hc⟩ := h.exists_cons
  refine ⟨by simp only [List.length_cons, List.length_append]; omega, fun fuel _ => ?_⟩
  rw [List.cons_append, readValue_of_number (.inr rfl), readNumber_of_minus hc]
  exact hread

def afterField (fuel : Nat) (field : String × Value) (s : List Char) :
    Option (Fields × List Char) :=
  match skipSpace s with
  | ',' :: t => (readFields fuel t).map fun (fs, rest) => (field :: fs, rest)
  | '}' :: t => some ([field], t)
  | _ => none

theorem readFields_field {k key p q : List Char} (hs : Space s)
    (hk : Quotes k key (p ++ ':' :: (q ++ t))) (hp : Space p) (hq : Space q) :
    readFields (fuel + 2) (s ++ '"' :: k) = (readValue (fuel + 1) t).bind
      fun (v, rest) => afterField (fuel + 1) (String.ofList key, v) rest := by
  rw [readFields_append hs, readFields, skipSpace_cons rfl]
  simp only [readText_of_quotes hk, Option.bind_eq_bind, Option.bind_some, skipSpace_append hp]
  rw [skipSpace_cons rfl]
  simp only [readValue_append hq]
  rfl

theorem readValue_items {vs : List Value} (h : SpellsItems s vs rest) :
    readValue (fuel + 1) ('[' :: s) =
      (readItems fuel s).map fun (vs, rest) => (.list vs, rest) := by
  obtain ⟨p, c, t, rfl, hp, hc, hclose⟩ := h.starts
  have hskip : skipSpace (p ++ c :: t) = c :: t := by
    rw [skipSpace_append hp, skipSpace_cons hc]
  rw [readValue, skipSpace_cons rfl, readItems_append hp]
  simp only [hskip]
  split
  · rename_i heq
    exact absurd (List.cons.inj heq).1 hclose
  · rfl

theorem readValue_fields {fs : List (String × Value)} (h : SpellsFields s fs rest) :
    readValue (fuel + 1) ('{' :: s) =
      (readFields fuel s).map fun (fs, rest) => (.record (Fields.ofPairs fs), rest) := by
  obtain ⟨p, t, rfl, hp⟩ := h.starts
  have hskip : skipSpace (p ++ '"' :: t) = '"' :: t := by
    rw [skipSpace_append hp, skipSpace_cons rfl]
  rw [readValue, skipSpace_cons rfl, readFields_append hp]
  simp only [hskip]
  rfl

mutual

theorem Spells.read {s rest : List Char} {v : Value} (h : Spells s v rest) (hv : Faithful v) :
    Reads (fun fuel => readValue (fuel + 1)) s v rest := by
  cases h with
  | null =>
    refine ⟨by simp only [List.length_cons]; omega, fun fuel _ => ?_⟩
    rw [readValue, skipSpace_cons rfl]
    rfl
  | yes =>
    refine ⟨by simp only [List.length_cons]; omega, fun fuel _ => ?_⟩
    rw [readValue, skipSpace_cons rfl]
    rfl
  | no =>
    refine ⟨by simp only [List.length_cons]; omega, fun fuel _ => ?_⟩
    rw [readValue, skipSpace_cons rfl]
    rfl
  | natural h hrest =>
    cases hv with
    | int hshort =>
      exact read_natural h hshort hrest
  | negative h hrest =>
    cases hv with
    | int hshort =>
      exact read_negative h (by simpa using hshort) hrest
  | text h =>
    refine ⟨Nat.lt_succ_of_lt h.length_lt, fun fuel _ => ?_⟩
    rw [readValue, skipSpace_cons rfl]
    simp only [readText_of_quotes h, Option.map_some]
  | emptyList hs =>
    refine ⟨by simp only [List.length_cons, List.length_append]; omega, fun fuel _ => ?_⟩
    rw [readValue, skipSpace_cons rfl]
    simp only [skipSpace_append hs]
    rw [skipSpace_cons rfl]
    rfl
  | list h =>
    cases hv with
    | list hvs =>
      obtain ⟨hlength, hread⟩ := h.read hvs
      refine ⟨Nat.lt_succ_of_lt hlength, fun fuel hfuel => ?_⟩
      rw [List.length_cons] at hfuel
      obtain ⟨less, rfl⟩ : ∃ less, fuel = less + 2 := ⟨fuel - 2, by omega⟩
      rw [readValue_items h, hread less (by omega)]
      rfl
  | emptyRecord hs =>
    refine ⟨by simp only [List.length_cons, List.length_append]; omega, fun fuel _ => ?_⟩
    rw [readValue, skipSpace_cons rfl]
    simp only [skipSpace_append hs]
    rw [skipSpace_cons rfl]
    rfl
  | record h hkeys =>
    cases hv with
    | record _ hfs =>
      obtain ⟨hlength, hread⟩ := h.read hfs
      refine ⟨Nat.lt_succ_of_lt hlength, fun fuel hfuel => ?_⟩
      rw [List.length_cons] at hfuel
      obtain ⟨less, rfl⟩ : ∃ less, fuel = less + 2 := ⟨fuel - 2, by omega⟩
      rw [readValue_fields h, hread less (by omega)]
      simp only [Option.map_some, Fields.ofPairs_eq_self hkeys]

theorem SpellsItems.read {s rest : List Char} {vs : List Value} (h : SpellsItems s vs rest)
    (hvs : ∀ v ∈ vs, Faithful v) : Reads (fun fuel => readItems (fuel + 2)) s vs rest := by
  cases h with
  | last hs h hu =>
    obtain ⟨hlength, hread⟩ := h.read (hvs _ List.mem_cons_self)
    simp only [List.length_append, List.length_cons] at hlength hread
    refine ⟨by rw [List.length_append]; omega, fun fuel hfuel => ?_⟩
    rw [List.length_append] at hfuel
    rw [readItems_append hs, readItems, hread fuel (by omega)]
    simp only [Option.bind_eq_bind, Option.bind_some, skipSpace_append hu]
    rw [skipSpace_cons rfl]
    rfl
  | more hs h hu hlater =>
    obtain ⟨hv, hvs⟩ := List.forall_mem_cons.1 hvs
    obtain ⟨hlength, hread⟩ := h.read hv
    obtain ⟨hless, hrest⟩ := hlater.read hvs
    simp only [List.length_append, List.length_cons] at hlength hread
    refine ⟨by rw [List.length_append]; omega, fun fuel hfuel => ?_⟩
    rw [List.length_append] at hfuel
    -- What comes later is shorter by the item and the comma, which pays for the two steps here.
    obtain ⟨less, rfl⟩ : ∃ less, fuel = less + 1 := ⟨fuel - 1, by omega⟩
    rw [readItems_append hs, readItems, hread (less + 1) (by omega)]
    simp only [Option.bind_eq_bind, Option.bind_some, skipSpace_append hu]
    rw [skipSpace_cons rfl]
    simp only [hrest less (by omega)]
    rfl

theorem SpellsFields.read {s rest : List Char} {fs : Fields} (h : SpellsFields s fs rest)
    (hfs : ∀ kv ∈ fs, Faithful kv.2) : Reads (fun fuel => readFields (fuel + 2)) s fs rest := by
  cases h with
  | last hs hk hp hq h hu =>
    have hkey := hk.length_lt
    obtain ⟨hlength, hread⟩ := h.read (hfs _ List.mem_cons_self)
    simp only [List.length_append, List.length_cons] at hkey hlength hread
    refine ⟨by simp only [List.length_append, List.length_cons]; omega, fun fuel hfuel => ?_⟩
    simp only [List.length_append, List.length_cons] at hfuel
    rw [readFields_field hs hk hp hq, hread fuel (by omega)]
    simp only [Option.bind_some, afterField, skipSpace_append hu]
    rw [skipSpace_cons rfl]
    rfl
  | more hs hk hp hq h hu hlater =>
    have hkey := hk.length_lt
    obtain ⟨hlength, hread⟩ := h.read (hfs _ List.mem_cons_self)
    obtain ⟨hless, hrest⟩ := hlater.read fun kv hkv => hfs kv (List.mem_cons_of_mem _ hkv)
    simp only [List.length_append, List.length_cons] at hkey hlength hread
    refine ⟨by simp only [List.length_append, List.length_cons]; omega, fun fuel hfuel => ?_⟩
    simp only [List.length_append, List.length_cons] at hfuel
    obtain ⟨less, rfl⟩ : ∃ less, fuel = less + 1 := ⟨fuel - 1, by omega⟩
    rw [readFields_field hs hk hp hq, hread (less + 1) (by omega)]
    simp only [Option.bind_some, afterField, skipSpace_append hu]
    rw [skipSpace_cons rfl]
    simp only [hrest less (by omega)]
    rfl

end

/-- A document is read as the value that it spells. -/
theorem read?_of_document {text : List Char} {v : Value} (h : Document text v)
    (hv : Faithful v) : read? (String.ofList text) = some v := by
  obtain ⟨s, t, u, rfl, hs, hspells, hu⟩ := h
  obtain ⟨-, hread⟩ := hspells.read hv
  have hskip := skipSpace_append hu []
  rw [List.append_nil] at hskip
  rw [read?, String.toList_ofList]
  simp only [List.length_append]
  rw [readValue_append hs, hread _ (by omega)]
  simp only [hskip]
  rfl

theorem read?_print {l : Layout} (hl : l.Lawful) {v : Value} (h : Faithful v) :
    read? (l.print v) = some v :=
  read?_of_document (document_of_exact hl (faithful_iff_exact.1 h)) h

end Plateau.Json
