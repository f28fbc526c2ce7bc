import Plateau.OutcomeJson
import Plateau.Proofs.Json.Acceptance
import Plateau.Proofs.Message

namespace Plateau

open Check (required)

theorem Numeral.natAbs_lt_of_length {n : Int} (h : (toString n).length ≤ digitLimit) :
    n.natAbs < tooLong := by
  rw [← String.length_toList] at h
  rw [tooLong_eq, ← Nat.length_toDigits_le_iff (by decide) (by decide), ← toList_toString]
  cases n with
  | ofNat m => exact h
  | negSucc m =>
    have htext : (toString (Int.negSucc m)).toList = '-' :: (toString (m + 1)).toList :=
      String.toList_append
    rw [htext, List.length_cons] at h
    exact Nat.le_of_succ_le h

theorem Check.items_map {α : Type} {check : Value → Check α} {value : α → Value}
    (h : ∀ a, check (value a) = .valid a) (index : Nat) (as : List α) :
    items check index (as.map value) = .valid as := by
  induction as generalizing index with
  | nil => rfl
  | cons a as ih =>
    rw [List.map_cons, items, h, ih]
    rfl

namespace RunError

theorem detail_cases (e : RunError) :
    ∀ kv ∈ e.detail, (∃ s, kv.2 = .text s) ∨ ∃ n ∈ e.numbers, kv.2 = .int n := by
  cases e <;> simp [detail, numbers]

theorem nodup_keys_toFields (e : RunError) : (Fields.keys e.toFields).Nodup := by
  cases e <;> simp [Fields.keys, toFields, detail]

theorem faithful_toValue {e : RunError} (h : ∀ n ∈ e.numbers, n.natAbs < Numeral.tooLong) :
    Json.Faithful e.toValue := by
  refine .record (nodup_keys_toFields e) (List.forall_mem_cons.2 ⟨.text _, fun kv hkv => ?_⟩)
  rcases detail_cases e kv hkv with ⟨s, hs⟩ | ⟨n, hn, hint⟩
  · rw [hs]
    exact .text s
  · rw [hint]
    exact .int (h n hn)

theorem checkDetail_toFields (e : RunError) : checkDetail e.toFields e.kind = .valid e := by
  cases e <;>
    simp [checkDetail, kind, toFields, detail, required, Fields.get?, Check.int, Check.text]

/-- The tag tells the kind, and the kind tells the fields. -/
theorem ofValue_toValue (e : RunError) : ofValue e.toValue = .valid e := by
  have htag : Fields.get? tag e.toFields = some (.text e.kind.name) := Fields.get?_cons_self _ _ _
  rw [toValue, ofValue, htag]
  simp only [ErrorKind.ofName?_name, checkDetail_toFields, Check.within_valid]

theorem ofJson_of_toJson {e : RunError} (h : ∀ n ∈ e.numbers, n.natAbs < Numeral.tooLong) :
    ofJson e.toJson = .valid e := by
  rw [ofJson, toJson, Check.json, Json.read?_print Json.Layout.lawful_compact (faithful_toValue h)]
  exact ofValue_toValue e

end RunError

namespace Outcome

theorem faithful_toValue {o : Outcome}
    (h : ∀ e ∈ o.error, ∀ n ∈ e.numbers, n.natAbs < Numeral.tooLong) : Json.Faithful o.toValue := by
  obtain ⟨positions, error⟩ := o
  have hpositions : Json.Faithful (.list (positions.map .text)) := by
    refine .list fun v hv => ?_
    obtain ⟨s, -, rfl⟩ := List.mem_map.1 hv
    exact .text s
  refine .record (by simp [Fields.keys]) fun kv hkv => ?_
  rcases List.mem_pair.1 hkv with rfl | rfl
  · exact hpositions
  · cases error with
    | none => exact .null
    | some e => exact RunError.faithful_toValue (h e rfl)

theorem ofValue_toValue (o : Outcome) : ofValue o.toValue = .valid o := by
  obtain ⟨positions, error⟩ := o
  have htext (s : String) : Check.text (.text s) = .valid s := rfl
  have hpositions : Check.list Check.text (.list (positions.map .text)) = .valid positions :=
    Check.items_map htext 0 positions
  cases error with
  | none =>
    rw [toValue, ofValue]
    simp [Check.record, Check.andThen, Check.defaulted, Fields.get?, hpositions, Check.optional]
  | some e =>
    have hsome : Check.optional RunError.ofValue e.toValue = some <$> RunError.ofValue e.toValue :=
      rfl
    have herror : Check.optional RunError.ofValue e.toValue = .valid (some e) := by
      rw [hsome, RunError.ofValue_toValue, Check.map_valid]
    rw [toValue, ofValue]
    simp [Check.record, Check.andThen, Check.defaulted, Fields.get?, hpositions, herror]

/-- An outcome is read back from its document, unless a number in its failure is too long. -/
theorem ofJson_toJson (o : Outcome)
    (h : ∀ e ∈ o.error, ∀ n ∈ e.numbers, (toString n).length ≤ Numeral.digitLimit) :
    ofJson o.toJson = .valid o := by
  have hnumbers : ∀ e ∈ o.error, ∀ n ∈ e.numbers, n.natAbs < Numeral.tooLong :=
    fun e he n hn => Numeral.natAbs_lt_of_length (h e he n hn)
  rw [ofJson, toJson, Check.json,
    Json.read?_print Json.Layout.lawful_compact (faithful_toValue hnumbers)]
  exact ofValue_toValue o

/-- A position with characters that have to be escaped, and a rover below both bounds. -/
theorem ofJson_toJson_of_escapes :
    (∀ n ∈ (RunError.robotOutOfBounds 0 (-1) (-20)).numbers,
        (toString n).length ≤ Numeral.digitLimit) ∧
      ofJson (toJson ⟨["\"\\/\n\x01é😀"], some (.robotOutOfBounds 0 (-1) (-20))⟩) =
        .valid ⟨["\"\\/\n\x01é😀"], some (.robotOutOfBounds 0 (-1) (-20))⟩ := by
  have hshort : ∀ n ∈ (RunError.robotOutOfBounds 0 (-1) (-20)).numbers,
      (toString n).length ≤ Numeral.digitLimit := by decide
  refine ⟨hshort, ofJson_toJson _ ?_⟩
  rintro e ⟨⟩
  exact hshort

end Outcome

end Plateau
