import Plateau.Proofs.Json.Grammar
import Plateau.Proofs.Number.Shortest

namespace Plateau

namespace Json

def DigitRun (ds : List Char) : Prop := ds ≠ [] ∧ ∀ c ∈ ds, c.isDigit = true

def Places (s : List Char) : Prop := s = [] ∨ ∃ ds, DigitRun ds ∧ s = '.' :: ds

def Power (s : List Char) : Prop :=
  s = [] ∨ ∃ mark sign ds, mark ∈ ['e', 'E'] ∧ sign ∈ [[], ['+'], ['-']] ∧ DigitRun ds ∧
    s = mark :: (sign ++ ds)

/-- A number without a sign that has a fraction or an exponent. -/
inductive Magnitude : List Char → Prop where
  | mk {whole places power : List Char} (hwhole : Whole whole) (hplaces : Places places)
    (hpower : Power power) (hsome : places ≠ [] ∨ power ≠ []) :
    Magnitude (whole ++ (places ++ power))

def Fractional (s : List Char) : Prop := Magnitude s ∨ ∃ t, s = '-' :: t ∧ Magnitude t

theorem ascii_of_isDigit {ds : List Char} (h : ∀ c ∈ ds, c.isDigit = true) :
    ∀ c ∈ ds, '0' ≤ c ∧ c ≤ '9' := fun c hc => (Numeral.isDigit_iff c).1 (h c hc)

theorem digitRun_replicate_append {n : Nat} {ds : List Char} (h : DigitRun ds) :
    DigitRun (List.replicate n '0' ++ ds) := by
  refine ⟨by simp [h.1], List.forall_mem_append.2 ⟨?_, h.2⟩⟩
  intro c hc
  rw [List.eq_of_mem_replicate hc]
  rfl

theorem digitRun_toDigits (n : Nat) : DigitRun (Nat.toDigits 10 n) :=
  ⟨Nat.toDigits_ne_nil, fun _ hc => Nat.isDigit_of_mem_toDigits (by decide) (by decide) hc⟩

variable {d : Decimal}

theorem whole_of_normal (h : d.Normal) {ds : List Char} (hne : ds ≠ [])
    (hds : ∀ e ∈ ds, e.isDigit = true) (hfirst : ds.head? = d.digits.head?)
    (hone : d = ⟨['0'], 1⟩ → ds = ['0']) : Whole ds := by
  obtain ⟨c, t, hdigits, hzero⟩ := h.head
  refine ⟨hne, ascii_of_isDigit hds, ?_⟩
  intro hhead
  rw [hdigits, hhead] at hfirst
  exact hone (hzero (Option.some.inj hfirst).symm)

theorem magnitude_positional (h : d.Normal) : Magnitude d.positional := by
  obtain ⟨c, t, hdigits, -⟩ := h.head
  have hrun : DigitRun d.digits := ⟨by simp [hdigits], h.isDigit⟩
  unfold Decimal.positional
  dsimp only
  split
  · have hwhole : Whole ['0'] := ⟨by simp, List.forall_mem_singleton.2 (by decide), fun _ => rfl⟩
    have hplaces : Places ('.' :: (List.replicate (-d.point).toNat '0' ++ d.digits)) :=
      .inr ⟨_, digitRun_replicate_append hrun, rfl⟩
    simpa using Magnitude.mk hwhole hplaces (.inl rfl) (.inl (by simp))
  · rename_i hpoint
    split
    · rename_i hinside
      have htake : Whole (d.digits.take d.point.toNat) := by
        apply whole_of_normal h
        · simp [hdigits]
          omega
        · intro e he
          exact h.isDigit e (List.mem_of_mem_take he)
        · rw [List.head?_take, if_neg (by omega)]
        · rintro rfl
          rfl
      have hdrop : Places ('.' :: d.digits.drop d.point.toNat) := by
        refine .inr ⟨_, ⟨?_, ?_⟩, rfl⟩
        · simpa using hinside
        · intro e he
          exact h.isDigit e (List.mem_of_mem_drop he)
      simpa using Magnitude.mk htake hdrop (.inl rfl) (.inl (by simp))
    · have hall : Whole (d.digits ++ List.replicate (d.point.toNat - d.digits.length) '0') := by
        apply whole_of_normal h
        · simp [hdigits]
        · refine List.forall_mem_append.2 ⟨h.isDigit, ?_⟩
          intro e he
          rw [List.eq_of_mem_replicate he]
          rfl
        · rw [hdigits]
          rfl
        · rintro rfl
          rfl
      have hzero : DigitRun ['0'] := ⟨by simp, List.forall_mem_singleton.2 rfl⟩
      have hplaces : Places ['.', '0'] := .inr ⟨['0'], hzero, rfl⟩
      simpa using Magnitude.mk hall hplaces (.inl rfl) (.inl (by simp))

theorem magnitude_scientific (h : d.Normal) (layout : FloatLayout) :
    Magnitude (d.scientific layout) := by
  obtain ⟨c, t, hdigits, hzero⟩ := h.head
  have hc : c.isDigit = true := h.isDigit c (by simp [hdigits])
  have hwhole : Whole [c] := by
    refine ⟨by simp, ascii_of_isDigit (by simpa using hc), ?_⟩
    rintro ⟨⟩
    rfl
  have hplaces : Places (if d.digits.length ≤ 1 then [] else '.' :: d.digits.drop 1) := by
    split
    · exact .inl rfl
    · rename_i hlong
      refine .inr ⟨_, ⟨?_, ?_⟩, rfl⟩
      · rw [Ne, List.drop_eq_nil_iff]
        exact hlong
      · intro e he
        exact h.isDigit e (List.mem_of_mem_drop he)
  have hpower (sign : List Char) (hsign : sign ∈ [[], ['+'], ['-']]) (zeros n : Nat) :
      Power ('e' :: (sign ++ (List.replicate zeros '0' ++ Nat.toDigits 10 n))) :=
    .inr ⟨'e', sign, _, by simp, hsign, digitRun_replicate_append (digitRun_toDigits n), rfl⟩
  have hsign : (if d.point - 1 < 0 then ['-'] else if layout.exponentPlus then ['+'] else []) ∈
      [[], ['+'], ['-']] := by
    split
    · simp
    · split <;> simp
  have hnumber := Magnitude.mk hwhole hplaces (hpower _ hsign
    (layout.exponentWidth - (Nat.toDigits 10 (d.point - 1).natAbs).length) (d.point - 1).natAbs)
    (.inr (by simp))
  have htake : d.digits.take 1 = [c] := by simp [hdigits]
  unfold Decimal.scientific
  simpa [htake] using hnumber

def Finite (x : Float) : Prop :=
  ∃ negative magnitude, Binary64.ofFloat x = .finite negative magnitude

theorem fractional_write {x : Float} (h : Finite x) (layout : FloatLayout) :
    Fractional (layout.write x).toList := by
  obtain ⟨negative, magnitude, hx⟩ := h
  have hnormal : magnitude.shortest.Normal := magnitude.normal_shortest
  have hbody : Magnitude (if layout.lowPoint ≤ magnitude.shortest.point &&
      magnitude.shortest.point ≤ layout.highPoint then magnitude.shortest.positional
      else magnitude.shortest.scientific layout) := by
    split
    · exact magnitude_positional hnormal
    · exact magnitude_scientific hnormal layout
  rw [FloatLayout.write, hx]
  simp only [String.toList_ofList]
  cases negative with
  | true => exact .inr ⟨_, rfl, hbody⟩
  | false => exact .inl hbody

/-- The text of a value with white space around it. -/
structure Part where
  before : List Char
  text : List Char
  after : List Char
  value : Value

namespace Part

def whole (p : Part) : List Char := p.before ++ (p.text ++ p.after)

def Spaced (p : Part) : Prop := Space p.before ∧ Space p.after

end Part

structure Member where
  before : List Char
  label : List Char
  after : List Char
  key : String
  part : Part

namespace Member

def whole (m : Member) : List Char :=
  m.before ++ '"' :: (m.label ++ (m.after ++ ':' :: m.part.whole))

def field (m : Member) : String × Value := (m.key, m.part.value)

structure Labelled (m : Member) : Prop where
  before : Space m.before
  label : Quotes m.label m.key.toList []
  after : Space m.after
  part : m.part.Spaced

end Member

/-- The text is JSON text of the value.  A number with a fraction or an exponent is a double, but
which one is not told. -/
inductive Tells : List Char → Value → Prop where
  | exact {s : List Char} {v : Value} (h : Spells s v []) : Tells s v
  | fractional {s : List Char} (h : Fractional s) (x : Float) : Tells s (.float x)
  | list (p : Part) (ps : List Part) (hspaced : ∀ q ∈ p :: ps, q.Spaced)
    (h : ∀ q ∈ p :: ps, Tells q.text q.value) :
    Tells ('[' :: (p.whole ++ (ps.flatMap (fun q => ',' :: q.whole) ++ [']'])))
      (.list ((p :: ps).map Part.value))
  | record (m : Member) (ms : List Member) (hlabelled : ∀ q ∈ m :: ms, q.Labelled)
    (h : ∀ q ∈ m :: ms, Tells q.part.text q.part.value)
    (hkeys : ((m :: ms).map Member.key).Nodup) :
    Tells ('{' :: (m.whole ++ (ms.flatMap (fun q => ',' :: q.whole) ++ ['}'])))
      (.record ((m :: ms).map Member.field))

/-- Values that JSON text can be written of and read from: their whole numbers are not too long,
their other numbers are finite, and their keys are different. -/
inductive Genuine : Value → Prop where
  | null : Genuine .null
  | bool (b : Bool) : Genuine (.bool b)
  | int {n : Int} (h : Numeral.Short n) : Genuine (.int n)
  | float {x : Float} (h : Finite x) : Genuine (.float x)
  | text (s : String) : Genuine (.text s)
  | list {vs : List Value} (h : ∀ v ∈ vs, Genuine v) : Genuine (.list vs)
  | record {fs : Fields} (hkeys : fs.keys.Nodup) (h : ∀ kv ∈ fs, Genuine kv.2) :
    Genuine (.record fs)

theorem Layout.lawful_log : Layout.log.Lawful where
  comma := ⟨[' '], rfl, by simp [Space, isSpace]⟩
  colon := ⟨[' '], rfl, by simp [Space, isSpace]⟩

theorem tells_of_exact {p : Int → Prop} {l : Layout} (hl : l.Lawful) (depth : Nat) {v : Value}
    (h : Exact p v) : Tells (l.value depth v) v := by
  have hspells := spelled_of_exact hl h depth [] (by simp [Stops])
  rw [List.append_nil] at hspells
  exact .exact hspells

def item (before : List Char) (depth : Nat) (v : Value) : Part :=
  ⟨before, Layout.log.value depth v, [], v⟩

def member (before : List Char) (depth : Nat) (kv : String × Value) : Member :=
  ⟨before, kv.1.toList.flatMap (escape true) ++ ['"'], [], kv.1, item [' '] depth kv.2⟩

theorem spaced_item {before : List Char} (h : Space before) (depth : Nat) (v : Value) :
    (item before depth v).Spaced := ⟨h, space_nil⟩

theorem labelled_member {before : List Char} (h : Space before) (depth : Nat)
    (kv : String × Value) : (member before depth kv).Labelled where
  before := h
  label := quotes_flatMap_escape true kv.1.toList []
  after := space_nil
  part := spaced_item (by simp [Space, isSpace]) depth kv.2

theorem value_list (depth : Nat) (v : Value) (vs : List Value) :
    Layout.log.value depth (.list (v :: vs)) =
      '[' :: ((item [] (depth + 1) v).whole ++
        ((vs.map (item [' '] (depth + 1))).flatMap (fun q => ',' :: q.whole) ++ [']'])) := by
  have hitems : Layout.log.items (depth + 1) vs =
      (vs.map (item [' '] (depth + 1))).flatMap fun q => ',' :: q.whole := by
    induction vs with
    | nil => rfl
    | cons w ws ih =>
      rw [Layout.items, ih]
      simp [Layout.log, Layout.lineStart, item, Part.whole]
  rw [Layout.value, hitems]
  simp [Layout.log, Layout.lineStart, item, Part.whole]

theorem value_record (depth : Nat) (kv : String × Value) (fs : Fields) :
    Layout.log.value depth (.record (kv :: fs)) =
      '{' :: ((member [] (depth + 1) kv).whole ++
        ((fs.map (member [' '] (depth + 1))).flatMap (fun q => ',' :: q.whole) ++ ['}'])) := by
  have hfields : Layout.log.fields (depth + 1) fs =
      (fs.map (member [' '] (depth + 1))).flatMap fun q => ',' :: q.whole := by
    induction fs with
    | nil => rfl
    | cons kv fs ih =>
      rw [Layout.fields, ih]
      simp [Layout.log, Layout.lineStart, member, item, Member.whole, Part.whole, quoted]
  rw [Layout.value, hfields]
  simp [Layout.log, Layout.lineStart, member, item, Member.whole, Part.whole, quoted]

/-- What is written of a value in a log is JSON text of that value. -/
theorem tells_value {v : Value} (h : Genuine v) (depth : Nat) :
    Tells (Layout.log.value depth v) v := by
  have hspace : Space [' '] := by simp [Space, isSpace]
  induction h generalizing depth with
  | null => exact tells_of_exact Layout.lawful_log depth (.null (p := fun _ => True))
  | bool b => exact tells_of_exact Layout.lawful_log depth (.bool (p := fun _ => True) b)
  | int h => exact tells_of_exact Layout.lawful_log depth (.int h)
  | float h =>
    rw [Layout.value]
    exact .fractional (fractional_write h _) _
  | text s => exact tells_of_exact Layout.lawful_log depth (.text (p := fun _ => True) s)
  | @list vs _ ih =>
    cases vs with
    | nil => exact tells_of_exact Layout.lawful_log depth (.list (p := fun _ => True) (by simp))
    | cons v vs =>
      obtain ⟨hv, hvs⟩ := List.forall_mem_cons.1 ih
      have hlist := Tells.list (item [] (depth + 1) v) (vs.map (item [' '] (depth + 1)))
        (List.forall_mem_cons.2 ⟨spaced_item space_nil _ v,
          List.forall_mem_map.2 fun w _ => spaced_item hspace _ w⟩)
        (List.forall_mem_cons.2 ⟨hv _, List.forall_mem_map.2 fun w hw => hvs w hw _⟩)
      rw [value_list]
      simpa [item, Function.comp_def] using hlist
  | @record fs hkeys _ ih =>
    cases fs with
    | nil =>
      exact tells_of_exact Layout.lawful_log depth
        (.record (p := fun _ => True) (by simp [Fields.keys]) (by simp))
    | cons kv fs =>
      obtain ⟨hkv, hfs⟩ := List.forall_mem_cons.1 ih
      have hrecord := Tells.record (member [] (depth + 1) kv) (fs.map (member [' '] (depth + 1)))
        (List.forall_mem_cons.2 ⟨labelled_member space_nil _ kv,
          List.forall_mem_map.2 fun w _ => labelled_member hspace _ w⟩)
        (List.forall_mem_cons.2 ⟨hkv _, List.forall_mem_map.2 fun w hw => hfs w hw _⟩)
        (by simpa [Fields.keys, member, Function.comp_def] using hkeys)
      rw [value_record]
      simpa [member, item, Member.field, Function.comp_def] using hrecord

end Json

end Plateau
