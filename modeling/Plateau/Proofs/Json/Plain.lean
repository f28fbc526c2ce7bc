import Mathlib.Data.List.Basic
import Plateau.Json.Print
import Plateau.Proofs.Json.Text
import Plateau.Proofs.Number.Numeral
import Plateau.Text.Codes

namespace Plateau

def Visible (s : List Char) : Prop := ∀ c ∈ s, 32 ≤ c.toNat

def Plain (s : List Char) : Prop := ∀ c ∈ s, 32 ≤ c.toNat ∨ c = '\n'

namespace Visible

instance (s : List Char) : Decidable (Visible s) :=
  List.decidableBAll (fun c : Char => 32 ≤ c.toNat) s

@[simp] theorem nil : Visible [] := by simp [Visible]

@[simp] theorem append_iff {s t : List Char} : Visible (s ++ t) ↔ Visible s ∧ Visible t :=
  List.forall_mem_append

@[simp] theorem cons_iff {c : Char} {s : List Char} :
    Visible (c :: s) ↔ 32 ≤ c.toNat ∧ Visible s :=
  List.forall_mem_cons

theorem of_subset {s t : List Char} (h : s ⊆ t) (ht : Visible t) : Visible s :=
  fun c hc => ht c (h hc)

theorem of_digits {s : List Char} (h : ∀ c ∈ s, c.isDigit = true) : Visible s := by
  intro c hc
  obtain ⟨h0, -⟩ : 48 ≤ c.toNat ∧ c.toNat ≤ 57 := (Numeral.isDigit_iff c).1 (h c hc)
  omega

theorem toDigits (n : Nat) : Visible (Nat.toDigits 10 n) :=
  of_digits fun _ hc => Nat.isDigit_of_mem_toDigits (by decide) (by decide) hc

theorem replicate {c : Char} (h : 32 ≤ c.toNat) (n : Nat) : Visible (List.replicate n c) := by
  intro d hd
  rw [List.eq_of_mem_replicate hd]
  exact h

theorem newline_notMem {s : List Char} (h : Visible s) : '\n' ∉ s := fun hmem =>
  absurd (h _ hmem) (by decide)

theorem plain {s : List Char} (h : Visible s) : Plain s := fun c hc => .inl (h c hc)

end Visible

namespace Plain

instance (s : List Char) : Decidable (Plain s) :=
  List.decidableBAll (fun c : Char => 32 ≤ c.toNat ∨ c = '\n') s

@[simp] theorem nil : Plain [] := by simp [Plain]

@[simp] theorem append_iff {s t : List Char} : Plain (s ++ t) ↔ Plain s ∧ Plain t :=
  List.forall_mem_append

@[simp] theorem cons_iff {c : Char} {s : List Char} :
    Plain (c :: s) ↔ (32 ≤ c.toNat ∨ c = '\n') ∧ Plain s :=
  List.forall_mem_cons

theorem intercalate {ls : List (List Char)} (h : ∀ l ∈ ls, Plain l) :
    Plain (['\n'].intercalate ls) := by
  induction ls with
  | nil => simp [List.intercalate]
  | cons l ls ih =>
    obtain ⟨hl, hls⟩ := List.forall_mem_cons.1 h
    cases ls with
    | nil => simpa [List.intercalate] using hl
    | cons l' ls =>
      rw [List.intercalate_cons_cons]
      simp [hl, ih hls]

theorem dropCodes_eq_self {s : List Char} (h : Plain s) : Text.dropCodes s = s := by
  apply Text.dropCodes_eq_self
  intro hmem
  exact absurd (h _ hmem) (by decide)

end Plain

theorem visible_toString (n : Int) : Visible (toString n).toList := by
  have hnat (m : Nat) : Visible (toString m).toList := by
    rw [Numeral.toList_toString]
    exact .toDigits m
  cases n with
  | ofNat m => exact hnat m
  | negSucc m =>
    have hminus : (toString (Int.negSucc m)).toList = '-' :: (toString (m + 1)).toList := by
      simp [toString, Int.repr]
    rw [hminus, Visible.cons_iff]
    exact ⟨by decide, hnat _⟩

namespace Decimal

theorem visible_ofGrid (count : Nat) (unit : Int) : Visible (ofGrid count unit).digits := by
  refine Visible.of_subset ?_ (Visible.toDigits count)
  intro c hc
  have hmem := (List.dropWhile_sublist _).subset (List.mem_reverse.1 hc)
  exact List.mem_reverse.1 hmem

theorem visible_shortestFrom (i : Interval) (tries : Nat) (unit : Int) :
    Visible (i.shortestFrom tries unit).digits := by
  induction tries generalizing unit with
  | zero => exact visible_ofGrid _ _
  | succ tries ih =>
    rw [Interval.shortestFrom]
    split
    · exact visible_ofGrid _ _
    · exact ih _

theorem visible_shortest (d : Dyadic) : Visible d.shortest.digits := by
  unfold Dyadic.shortest
  split
  · decide
  · exact visible_shortestFrom _ _ _

variable {d : Decimal} (h : Visible d.digits)
include h

theorem visible_positional : Visible d.positional := by
  have hzeros (n : Nat) : Visible (List.replicate n '0') := .replicate (by decide) n
  have htake (n : Nat) : Visible (d.digits.take n) := .of_subset (List.take_subset n _) h
  have hdrop (n : Nat) : Visible (d.digits.drop n) := .of_subset (List.drop_subset n _) h
  unfold positional
  dsimp only
  split
  · simp [hzeros, h]
  · split
    · simp [htake, hdrop]
    · simp [hzeros, h]

theorem visible_scientific (layout : FloatLayout) : Visible (d.scientific layout) := by
  have hzeros (n : Nat) : Visible (List.replicate n '0') := .replicate (by decide) n
  have htake : Visible (d.digits.take 1) := .of_subset (List.take_subset 1 _) h
  have hdrop : Visible (d.digits.drop 1) := .of_subset (List.drop_subset 1 _) h
  have hsign : Visible
      (if d.point - 1 < 0 then ['-'] else if layout.exponentPlus then ['+'] else []) := by
    split
    · decide
    · split <;> decide
  have htail : Visible (if d.digits.length ≤ 1 then [] else '.' :: d.digits.drop 1) := by
    split
    · exact .nil
    · exact Visible.cons_iff.2 ⟨by decide, hdrop⟩
  have hmark : 32 ≤ 'e'.toNat := by decide
  unfold scientific
  simp only [Visible.append_iff, Visible.cons_iff]
  exact ⟨⟨⟨⟨htake, htail⟩, hmark, hsign⟩, hzeros _⟩, .toDigits _⟩

end Decimal

namespace Json

theorem visible_hex (width n : Nat) : Visible (Text.hex width n) := by
  have hdigit : ∀ d < 16, 32 ≤ (Nat.digitChar d).toNat := by decide
  induction width generalizing n with
  | zero => exact .nil
  | succ width ih =>
    rw [Text.hex, Visible.append_iff]
    exact ⟨ih _, Visible.cons_iff.2 ⟨hdigit _ (Nat.mod_lt n (by decide)), .nil⟩⟩

theorem visible_charEscape (c : Char) : Visible (charEscape c) := by
  have hunit (n : Nat) : Visible (unitEscape n) := by simp [unitEscape, visible_hex]
  unfold charEscape
  dsimp only
  split
  · exact hunit _
  · exact Visible.append_iff.2 ⟨hunit _, hunit _⟩

theorem visible_escape (asciiOnly : Bool) (c : Char) : Visible (escape asciiOnly c) := by
  rcases escape_cases asciiOnly c with ⟨e, he, hc⟩ | he | ⟨he, -, -, hc⟩
  · have hmark : 32 ≤ e.toNat := by
      unfold unescape? at hc
      split at hc <;> first | decide | contradiction
    rw [he]
    exact Visible.cons_iff.2 ⟨by decide, Visible.cons_iff.2 ⟨hmark, .nil⟩⟩
  · rw [he]
    exact visible_charEscape c
  · rw [he]
    exact Visible.cons_iff.2 ⟨hc, .nil⟩

theorem visible_quoted (asciiOnly : Bool) (s : String) : Visible (quoted asciiOnly s) := by
  have hescaped : Visible (s.toList.flatMap (escape asciiOnly)) := by
    intro c hc
    obtain ⟨d, -, hd⟩ := List.mem_flatMap.1 hc
    exact visible_escape asciiOnly d c hd
  simp [quoted, hescaped]

/-- What a layout adds of its own has only characters of a kind, and so has all that is visible. -/
structure Layout.Keeps (l : Layout) (p : Char → Prop) : Prop where
  visible : ∀ c : Char, 32 ≤ c.toNat → p c
  comma : ∀ c ∈ l.comma, p c
  colon : ∀ c ∈ l.colon, p c
  nan : ∀ c ∈ l.floats.nan.toList, p c
  infinity : ∀ c ∈ l.floats.infinity.toList, p c
  negInfinity : ∀ c ∈ l.floats.negInfinity.toList, p c
  lineStart : ∀ depth, ∀ c ∈ l.lineStart depth, p c

section

variable {l : Layout} {p : Char → Prop}

theorem Layout.Keeps.of_visible (hl : l.Keeps p) {s : List Char} (h : Visible s) :
    ∀ c ∈ s, p c := fun c hc => hl.visible c (h c hc)

theorem keeps_float (hl : l.Keeps p) (x : Float) : ∀ c ∈ (l.floats.write x).toList, p c := by
  unfold FloatLayout.write
  split
  · exact hl.nan
  · split
    · exact hl.negInfinity
    · exact hl.infinity
  · rename_i negative magnitude _
    have hdigits := Decimal.visible_shortest magnitude
    have hbody : Visible
        (if l.floats.lowPoint ≤ magnitude.shortest.point &&
            magnitude.shortest.point ≤ l.floats.highPoint then
          magnitude.shortest.positional
        else magnitude.shortest.scientific l.floats) := by
      split
      · exact Decimal.visible_positional hdigits
      · exact Decimal.visible_scientific hdigits _
    rw [String.toList_ofList]
    apply hl.of_visible
    split
    · exact Visible.cons_iff.2 ⟨by decide, hbody⟩
    · exact hbody

mutual

theorem keeps_value (hl : l.Keeps p) (depth : Nat) : ∀ v : Value, ∀ c ∈ l.value depth v, p c
  | .null => by rw [Layout.value]; exact hl.of_visible (by decide)
  | .bool true => by rw [Layout.value]; exact hl.of_visible (by decide)
  | .bool false => by rw [Layout.value]; exact hl.of_visible (by decide)
  | .int n => by rw [Layout.value]; exact hl.of_visible (visible_toString n)
  | .float x => by rw [Layout.value]; exact keeps_float hl x
  | .text s => by rw [Layout.value]; exact hl.of_visible (visible_quoted _ s)
  | .moment s => by rw [Layout.value]; exact hl.of_visible (visible_quoted _ s)
  | .list [] => by rw [Layout.value]; exact hl.of_visible (by decide)
  | .list (v :: vs) => by
    rw [Layout.value]
    simp only [List.forall_mem_append, List.forall_mem_cons, and_assoc]
    exact ⟨hl.visible _ (by decide), hl.lineStart _, keeps_value hl _ v, keeps_items hl _ vs,
      hl.lineStart _, hl.visible _ (by decide), List.forall_mem_nil p⟩
  | .record [] => by rw [Layout.value]; exact hl.of_visible (by decide)
  | .record ((k, v) :: fs) => by
    rw [Layout.value]
    simp only [List.forall_mem_append, List.forall_mem_cons, and_assoc]
    exact ⟨hl.visible _ (by decide), hl.lineStart _, hl.of_visible (visible_quoted _ k), hl.colon,
      keeps_value hl _ v, keeps_fields hl _ fs, hl.lineStart _, hl.visible _ (by decide),
      List.forall_mem_nil p⟩

theorem keeps_items (hl : l.Keeps p) (depth : Nat) : ∀ vs : List Value, ∀ c ∈ l.items depth vs, p c
  | [] => by rw [Layout.items]; exact hl.of_visible (by decide)
  | v :: vs => by
    rw [Layout.items]
    simp only [List.forall_mem_append, and_assoc]
    exact ⟨hl.comma, hl.lineStart _, keeps_value hl _ v, keeps_items hl _ vs⟩

theorem keeps_fields (hl : l.Keeps p) (depth : Nat) :
    ∀ fs : List (String × Value), ∀ c ∈ l.fields depth fs, p c
  | [] => by rw [Layout.fields]; exact hl.of_visible (by decide)
  | (k, v) :: fs => by
    rw [Layout.fields]
    simp only [List.forall_mem_append, and_assoc]
    exact ⟨hl.comma, hl.lineStart _, hl.of_visible (visible_quoted _ k), hl.colon,
      keeps_value hl _ v, keeps_fields hl _ fs⟩

end

end

structure Layout.Clean (l : Layout) : Prop where
  comma : Plain l.comma
  colon : Plain l.colon
  nan : Plain l.floats.nan.toList
  infinity : Plain l.floats.infinity.toList
  negInfinity : Plain l.floats.negInfinity.toList

theorem Layout.clean_pretty : Layout.pretty.Clean := by
  constructor <;> decide

theorem plain_value {l : Layout} (hl : l.Clean) (depth : Nat) (v : Value) :
    Plain (l.value depth v) := by
  refine keeps_value ⟨fun _ => .inl, hl.comma, hl.colon, hl.nan, hl.infinity, hl.negInfinity, ?_⟩
    depth v
  intro depth
  unfold Layout.lineStart
  split
  · simp
  · exact Plain.cons_iff.2 ⟨.inr rfl, fun c hc => .inl (Visible.replicate (by decide) _ c hc)⟩

/-- A log document is one line. -/
theorem visible_value_log (depth : Nat) (v : Value) : Visible (Layout.log.value depth v) := by
  have hmarks : Visible Layout.log.comma ∧ Visible Layout.log.colon := by decide
  have hwords : Visible Layout.log.floats.nan.toList ∧
      Visible Layout.log.floats.infinity.toList ∧
      Visible Layout.log.floats.negInfinity.toList := by decide
  exact keeps_value ⟨fun _ => id, hmarks.1, hmarks.2, hwords.1, hwords.2.1, hwords.2.2,
    fun _ => List.forall_mem_nil _⟩ depth v

end Json

end Plateau
