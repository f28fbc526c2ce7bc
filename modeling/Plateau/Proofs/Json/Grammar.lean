import Plateau.Proofs.Data.Fields
import Plateau.Proofs.Json.Text
import Plateau.Proofs.Number.Numeral

namespace Plateau

namespace Json

open Numeral (value head_toDigits)

def isSpace (c : Char) : Bool := c == ' ' || c == '\t' || c == '\n' || c == '\r'

theorem isSpace_iff {c : Char} :
    isSpace c = true ↔ c = ' ' ∨ c = '\t' ∨ c = '\n' ∨ c = '\r' := by
  simp only [isSpace, Bool.or_eq_true, beq_iff_eq, or_assoc]

def Space (s : List Char) : Prop := ∀ c ∈ s, isSpace c = true

theorem space_nil : Space [] := by simp [Space]

theorem skipSpace_append {s : List Char} (hs : Space s) (t : List Char) :
    skipSpace (s ++ t) = skipSpace t :=
  List.dropWhile_append_of_pos hs

theorem skipSpace_cons {c : Char} (hc : isSpace c = false) (s : List Char) :
    skipSpace (c :: s) = c :: s :=
  List.dropWhile_cons_of_neg (by rw [← isSpace, hc]; exact Bool.false_ne_true)

variable {s t rest : List Char}

def Stops (rest : List Char) : Prop :=
  ∀ c ∈ rest.head?, c.isDigit = false ∧ c ≠ '.' ∧ c ≠ 'e' ∧ c ≠ 'E'

theorem Stops.cons {c : Char} (hc : c.isDigit = false ∧ c ≠ '.' ∧ c ≠ 'e' ∧ c ≠ 'E')
    (s : List Char) : Stops (c :: s) := by
  rintro d ⟨⟩
  exact hc

theorem Stops.space_append (hs : Space s) (ht : Stops t) : Stops (s ++ t) := by
  cases s with
  | nil => exact ht
  | cons c s =>
    refine .cons ?_ (s ++ t)
    rcases isSpace_iff.1 (hs c List.mem_cons_self) with rfl | rfl | rfl | rfl
    all_goals decide

theorem span_digits {ds : List Char} (hds : ∀ c ∈ ds, c.isDigit = true) (h : Stops rest) :
    (ds ++ rest).takeWhile Char.isDigit = ds ∧ (ds ++ rest).dropWhile Char.isDigit = rest := by
  rw [List.takeWhile_append_of_pos hds, List.dropWhile_append_of_pos hds]
  cases rest with
  | nil => exact ⟨List.append_nil ds, rfl⟩
  | cons c s =>
    obtain ⟨hc, -⟩ := h c rfl
    simp [hc]

/-- ASCII digits, the first of which is no zero, unless it is the only one. -/
structure Whole (ds : List Char) : Prop where
  ne_nil : ds ≠ []
  ascii : ∀ c ∈ ds, '0' ≤ c ∧ c ≤ '9'
  head : ds.head? = some '0' → ds = ['0']

theorem Whole.isDigit {ds : List Char} (h : Whole ds) : ∀ c ∈ ds, c.isDigit = true := fun c hc =>
  (Numeral.isDigit_iff c).2 (h.ascii c hc)

theorem Whole.exists_cons {ds : List Char} (h : Whole ds) :
    ∃ c t, ds = c :: t ∧ c.isDigit = true := by
  obtain ⟨c, t, rfl⟩ := List.exists_cons_of_ne_nil h.ne_nil
  exact ⟨c, t, rfl, h.isDigit c List.mem_cons_self⟩

theorem not_space_of_number {c : Char} (hc : c.isDigit = true ∨ c = '-') : isSpace c = false := by
  rw [Bool.eq_false_iff]
  intro hspace
  rcases isSpace_iff.1 hspace with rfl | rfl | rfl | rfl
  all_goals simp at hc

mutual

/-- The text is a value and what follows it. -/
inductive Spells : List Char → Value → List Char → Prop where
  | null (rest : List Char) : Spells ('n' :: 'u' :: 'l' :: 'l' :: rest) .null rest
  | yes (rest : List Char) : Spells ('t' :: 'r' :: 'u' :: 'e' :: rest) (.bool true) rest
  | no (rest : List Char) : Spells ('f' :: 'a' :: 'l' :: 's' :: 'e' :: rest) (.bool false) rest
  | natural {ds rest : List Char} (h : Whole ds) (hrest : Stops rest) :
    Spells (ds ++ rest) (.int (value ds)) rest
  | negative {ds rest : List Char} (h : Whole ds) (hrest : Stops rest) :
    Spells ('-' :: (ds ++ rest)) (.int (-value ds)) rest
  | text {s cs rest : List Char} (h : Quotes s cs rest) :
    Spells ('"' :: s) (.text (String.ofList cs)) rest
  | emptyList {s : List Char} (hs : Space s) (rest : List Char) :
    Spells ('[' :: (s ++ ']' :: rest)) (.list []) rest
  | list {s rest : List Char} {vs : List Value} (h : SpellsItems s vs rest) :
    Spells ('[' :: s) (.list vs) rest
  | emptyRecord {s : List Char} (hs : Space s) (rest : List Char) :
    Spells ('{' :: (s ++ '}' :: rest)) (.record []) rest
  | record {s rest : List Char} {fs : Fields} (h : SpellsFields s fs rest)
    (hkeys : (fs.map (·.1)).Nodup) : Spells ('{' :: s) (.record fs) rest

inductive SpellsItems : List Char → List Value → List Char → Prop where
  | last {s t u rest : List Char} {v : Value} (hs : Space s) (h : Spells t v (u ++ ']' :: rest))
    (hu : Space u) : SpellsItems (s ++ t) [v] rest
  | more {s t u later rest : List Char} {v : Value} {vs : List Value} (hs : Space s)
    (h : Spells t v (u ++ ',' :: later)) (hu : Space u) (hlater : SpellsItems later vs rest) :
    SpellsItems (s ++ t) (v :: vs) rest

inductive SpellsFields : List Char → List (String × Value) → List Char → Prop where
  | last {s k key p q t u rest : List Char} {v : Value} (hs : Space s)
    (hk : Quotes k key (p ++ ':' :: (q ++ t))) (hp : Space p) (hq : Space q)
    (h : Spells t v (u ++ '}' :: rest)) (hu : Space u) :
    SpellsFields (s ++ '"' :: k) [(String.ofList key, v)] rest
  | more {s k key p q t u later rest : List Char} {v : Value} {fs : List (String × Value)}
    (hs : Space s) (hk : Quotes k key (p ++ ':' :: (q ++ t))) (hp : Space p) (hq : Space q)
    (h : Spells t v (u ++ ',' :: later)) (hu : Space u) (hlater : SpellsFields later fs rest) :
    SpellsFields (s ++ '"' :: k) ((String.ofList key, v) :: fs) rest

end

/-- The text is one value with white space around it. -/
def Document (text : List Char) (v : Value) : Prop :=
  ∃ s t u, text = s ++ t ∧ Space s ∧ Spells t v u ∧ Space u

def Begins (c : Char) : Value → Prop
  | .null => c = 'n'
  | .bool b => c = if b then 't' else 'f'
  | .int _ => c.isDigit = true ∨ c = '-'
  | .text _ => c = '"'
  | .list _ => c = '['
  | .record _ => c = '{'
  | .float _ | .moment _ => False

theorem Spells.begins {v : Value} (h : Spells s v rest) :
    ∃ c t, s = c :: t ∧ Begins c v := by
  cases h with
  | natural h _ =>
    obtain ⟨c, t, rfl, hc⟩ := h.exists_cons
    exact ⟨c, _, List.cons_append, .inl hc⟩
  | negative => exact ⟨'-', _, rfl, .inr rfl⟩
  | _ => exact ⟨_, _, rfl, rfl⟩

theorem Begins.not_space {c : Char} {v : Value} (h : Begins c v) :
    isSpace c = false ∧ c ≠ ']' := by
  cases v with
  | int n =>
    refine ⟨not_space_of_number h, ?_⟩
    rintro rfl
    simp [Begins] at h
  | bool b =>
    cases b
    all_goals
      cases h
      decide
  | float x => cases h
  | moment s => cases h
  | _ =>
    cases h
    decide

theorem Spells.starts {v : Value} (h : Spells s v rest) :
    ∃ c t, s = c :: t ∧ isSpace c = false ∧ c ≠ ']' := by
  obtain ⟨c, t, hcons, hc⟩ := h.begins
  exact ⟨c, t, hcons, hc.not_space⟩

theorem SpellsItems.starts {vs : List Value} (h : SpellsItems s vs rest) :
    ∃ p c t, s = p ++ c :: t ∧ Space p ∧ isSpace c = false ∧ c ≠ ']' := by
  cases h with
  | last hs h _ =>
    obtain ⟨c, t, rfl, hc⟩ := h.starts
    exact ⟨_, c, t, rfl, hs, hc⟩
  | more hs h _ _ =>
    obtain ⟨c, t, rfl, hc⟩ := h.starts
    exact ⟨_, c, t, rfl, hs, hc⟩

theorem SpellsFields.starts {fs : List (String × Value)} (h : SpellsFields s fs rest) :
    ∃ p t, s = p ++ '"' :: t ∧ Space p := by
  cases h with
  | last hs => exact ⟨_, _, rfl, hs⟩
  | more hs => exact ⟨_, _, rfl, hs⟩

variable {p : Int → Prop} {l : Layout}

/-- Between its parts a layout adds no more than white space. -/
structure Layout.Lawful (l : Layout) : Prop where
  comma : ∃ s, l.comma = ',' :: s ∧ Space s
  colon : ∃ s, l.colon = ':' :: s ∧ Space s

theorem Layout.lawful_compact : Layout.compact.Lawful where
  comma := ⟨[], rfl, space_nil⟩
  colon := ⟨[], rfl, space_nil⟩

theorem Layout.lawful_pretty : Layout.pretty.Lawful where
  comma := ⟨[], rfl, space_nil⟩
  colon := ⟨[' '], rfl, by simp [Space, isSpace]⟩

theorem Layout.space_lineStart (l : Layout) (depth : Nat) : Space (l.lineStart depth) := by
  intro c hc
  rw [Layout.lineStart] at hc
  split at hc
  · contradiction
  · rcases List.mem_cons.1 hc with rfl | hc
    · rfl
    · rw [List.eq_of_mem_replicate hc]
      rfl

theorem quoted_append (asciiOnly : Bool) (k : String) (s : List Char) :
    quoted asciiOnly k ++ s = '"' :: (k.toList.flatMap (escape asciiOnly) ++ '"' :: s) := by
  rw [quoted, List.cons_append, List.append_assoc, List.singleton_append]

theorem whole_toDigits (n : Nat) : Whole (Nat.toDigits 10 n) where
  ne_nil := Nat.toDigits_ne_nil
  ascii c hc :=
    (Numeral.isDigit_iff c).1 (Nat.isDigit_of_mem_toDigits (by decide) (by decide) hc)
  head hzero := by
    by_cases hpos : 0 < n
    · exact absurd rfl (Numeral.head_toDigits hpos '0' hzero)
    · obtain rfl : n = 0 := by omega
      rfl

theorem value_toDigits (n : Nat) : value (Nat.toDigits 10 n) = n := by
  rw [← Numeral.ofDigitChars_eq_value, Nat.ofDigitChars_ten_toDigits]

theorem spells_int (n : Int) (h : Stops rest) :
    Spells ((toString n).toList ++ rest) (.int n) rest := by
  cases n with
  | ofNat m =>
    have htext : (toString (Int.ofNat m)).toList = Nat.toDigits 10 m := Numeral.toList_toString m
    have hspells := Spells.natural (whole_toDigits m) h
    rw [value_toDigits] at hspells
    rw [htext]
    exact hspells
  | negSucc m =>
    have htext : (toString (Int.negSucc m)).toList = '-' :: Nat.toDigits 10 (m + 1) := by
      rw [← Numeral.toList_toString (m + 1)]
      exact String.toList_append
    have hspells := Spells.negative (whole_toDigits (m + 1)) h
    rw [value_toDigits] at hspells
    rw [htext]
    exact hspells

/-- Values without fractions and moments, with numbers for which `p` holds, and with different keys
in every record. -/
inductive Exact (p : Int → Prop) : Value → Prop where
  | null : Exact p .null
  | bool (b : Bool) : Exact p (.bool b)
  | int {n : Int} (h : p n) : Exact p (.int n)
  | text (s : String) : Exact p (.text s)
  | list {vs : List Value} (h : ∀ v ∈ vs, Exact p v) : Exact p (.list vs)
  | record {fs : Fields} (hkeys : fs.keys.Nodup) (h : ∀ kv ∈ fs, Exact p kv.2) :
    Exact p (.record fs)

/-- What the layout writes of a value spells it, whatever ends the value. -/
def Layout.Spelled (l : Layout) (v : Value) : Prop :=
  ∀ depth rest, Stops rest → Spells (l.value depth v ++ rest) v rest

theorem spellsItems_items (hl : l.Lawful) (depth : Nat) {v : Value} {vs : List Value} (hs : Space s)
    (hv : l.Spelled v) (hvs : ∀ v ∈ vs, l.Spelled v) {t : List Char} (ht : Space t)
    (rest : List Char) :
    SpellsItems (s ++ (l.value depth v ++ (l.items depth vs ++ (t ++ ']' :: rest))))
      (v :: vs) rest := by
  induction vs generalizing v s with
  | nil =>
    have hstops : Stops (t ++ ']' :: rest) := .space_append ht (.cons (by decide) rest)
    exact .last hs (hv depth _ hstops) ht
  | cons w ws ih =>
    obtain ⟨hw, hws⟩ := List.forall_mem_cons.1 hvs
    obtain ⟨q, hcomma, hq⟩ := hl.comma
    have hspace : Space (q ++ l.lineStart depth) :=
      List.forall_mem_append.2 ⟨hq, l.space_lineStart depth⟩
    have hlater := ih hspace hw hws
    rw [Layout.items, hcomma]
    simp only [List.cons_append, List.append_assoc] at hlater ⊢
    exact .more hs (hv depth _ (.cons (by decide) _)) space_nil hlater

theorem spellsFields_fields (hl : l.Lawful) (depth : Nat) (k : String) {v : Value} {fs : Fields}
    (hs : Space s) (hv : l.Spelled v) (hfs : ∀ kv ∈ fs, l.Spelled kv.2) {t : List Char}
    (ht : Space t) (rest : List Char) :
    SpellsFields (s ++ (quoted l.asciiOnly k ++
        (l.colon ++ (l.value depth v ++ (l.fields depth fs ++ (t ++ '}' :: rest))))))
      ((k, v) :: fs) rest := by
  obtain ⟨c, hcolon, hc⟩ := hl.colon
  obtain ⟨q, hcomma, hq⟩ := hl.comma
  induction fs generalizing k v s with
  | nil =>
    have hstops : Stops (t ++ '}' :: rest) := .space_append ht (.cons (by decide) rest)
    have hlast := SpellsFields.last hs (quotes_flatMap_escape l.asciiOnly k.toList _) space_nil hc
      (hv depth _ hstops) ht
    rw [String.ofList_toList] at hlast
    rw [quoted_append, hcolon]
    exact hlast
  | cons kv fs ih =>
    obtain ⟨key, w⟩ := kv
    obtain ⟨hw, hfs⟩ : l.Spelled w ∧ ∀ kv ∈ fs, l.Spelled kv.2 := List.forall_mem_cons.1 hfs
    have hspace : Space (q ++ l.lineStart depth) :=
      List.forall_mem_append.2 ⟨hq, l.space_lineStart depth⟩
    have hlater := ih key hspace hw hfs
    rw [hcolon] at hlater
    rw [Layout.fields, hcomma, hcolon]
    simp only [List.cons_append, List.append_assoc] at hlater ⊢
    have hmore := SpellsFields.more hs (quotes_flatMap_escape l.asciiOnly k.toList _) space_nil hc
      (hv depth _ (.cons (by decide) _)) space_nil hlater
    rw [String.ofList_toList] at hmore
    rw [quoted_append]
    exact hmore

theorem spelled_list (hl : l.Lawful) {vs : List Value} (hvs : ∀ v ∈ vs, l.Spelled v) :
    l.Spelled (.list vs) := by
  intro depth rest _
  cases vs with
  | nil =>
    rw [Layout.value]
    exact .emptyList space_nil rest
  | cons v vs =>
    obtain ⟨hv, hvs⟩ := List.forall_mem_cons.1 hvs
    have hitems := spellsItems_items hl (depth + 1) (l.space_lineStart (depth + 1)) hv hvs
      (l.space_lineStart depth) rest
    rw [Layout.value]
    simp only [List.cons_append, List.nil_append, List.append_assoc] at hitems ⊢
    exact .list hitems

theorem spelled_record (hl : l.Lawful) {fs : Fields} (hkeys : fs.keys.Nodup)
    (hfs : ∀ kv ∈ fs, l.Spelled kv.2) : l.Spelled (.record fs) := by
  intro depth rest _
  cases fs with
  | nil =>
    rw [Layout.value]
    exact .emptyRecord space_nil rest
  | cons kv fs =>
    obtain ⟨k, v⟩ := kv
    obtain ⟨hv, hfs⟩ : l.Spelled v ∧ ∀ kv ∈ fs, l.Spelled kv.2 := List.forall_mem_cons.1 hfs
    have hfields := spellsFields_fields hl (depth + 1) k (l.space_lineStart (depth + 1)) hv hfs
      (l.space_lineStart depth) rest
    rw [Layout.value]
    simp only [List.cons_append, List.nil_append, List.append_assoc] at hfields ⊢
    exact .record hfields hkeys

theorem spelled_of_exact (hl : l.Lawful) {v : Value} (h : Exact p v) : l.Spelled v := by
  induction h with
  | null =>
    intro depth rest _
    rw [Layout.value]
    exact .null rest
  | bool b =>
    intro depth rest _
    cases b with
    | true =>
      rw [Layout.value]
      exact .yes rest
    | false =>
      rw [Layout.value]
      exact .no rest
  | int _ =>
    intro depth rest hrest
    rw [Layout.value]
    exact spells_int _ hrest
  | text s =>
    intro depth rest _
    have htext := Spells.text (quotes_flatMap_escape l.asciiOnly s.toList rest)
    rw [String.ofList_toList] at htext
    rw [Layout.value, quoted_append]
    exact htext
  | list _ ih => exact spelled_list hl ih
  | record hkeys _ ih => exact spelled_record hl hkeys ih

/-- What is written of a value is one document, and it spells that value. -/
theorem document_of_exact (hl : l.Lawful) {v : Value} (h : Exact p v) :
    Document (l.value 0 v) v := by
  have hstops : Stops [] := by
    intro c hc
    contradiction
  have hspells := spelled_of_exact hl h 0 [] hstops
  rw [List.append_nil] at hspells
  exact ⟨[], _, [], rfl, space_nil, hspells, space_nil⟩

end Json

end Plateau
