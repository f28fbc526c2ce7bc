import Plateau.Proofs.Json.Unambiguous
import Plateau.Proofs.OutcomeJson
import Plateau.Proofs.Report.Run
import Plateau.Proofs.Telemetry.Steady

namespace Plateau

open Telemetry (Traced Tracer)

theorem Instructions.length_positions_le {text : List Char} {o : Outcome}
    (ho : run {} text = .ok o) : o.positions.length ≤ text.length := by
  cases hread : read text with
  | error e =>
    rw [run_of_read_error hread] at ho
    obtain rfl := Except.ok.inj ho
    exact Nat.zero_le _
  | ok p =>
    obtain ⟨surface, is⟩ := p
    obtain ⟨first, rest, hsplit, -, -, rfl⟩ := read_eq_ok_iff.1 hread
    obtain ⟨o', ho', hstop⟩ := exists_runFrom (writable_of_read hread) 0 (pairs rest)
    rw [run_of_read_ok hread, ho'] at ho
    obtain rfl := Except.ok.inj ho
    have hlines : (first :: rest).length ≤ text.length + 1 := hsplit ▸ length_split_le text
    calc o'.positions.length
        = firstFailure surface (pairs rest) := hstop.length_positions
      _ ≤ (pairs rest).length := List.findIdx_le_length
      _ ≤ rest.length := length_pairs_le rest
      _ ≤ text.length := Nat.le_of_succ_le_succ hlines

theorem RunError.exact_detail {p : Int → Prop} {e : RunError} (h : ∀ n ∈ e.numbers, p n) :
    Json.Exact p (.record e.detail) := by
  have hkeys : (Fields.keys (("kind", .text e.kind.name) :: e.detail)).Nodup :=
    nodup_keys_toFields e
  refine .record (List.nodup_cons.1 hkeys).2 fun kv hkv => ?_
  rcases detail_cases e kv hkv with ⟨s, hs⟩ | ⟨n, hn, hint⟩
  · rw [hs]
    exact .text s
  · rw [hint]
    exact .int (h n hn)

theorem Outcome.exact_data {p : Int → Prop} {o : Outcome} (h : p o.positions.length) :
    Json.Exact p (.record (Service.outcomeData o)) := by
  have hpositions : Json.Exact p (.list (o.positions.map .text)) := by
    refine .list fun v hv => ?_
    obtain ⟨s, -, rfl⟩ := List.mem_map.1 hv
    exact .text s
  refine .record (by simp [Service.outcomeData, Fields.keys]) ?_
  simp only [Service.outcomeData, List.forall_mem_cons]
  exact ⟨.text _, hpositions, .int h, by simp⟩

namespace Report

variable {r : Report} {o : Outcome}

theorem exact_toValue {p : Int → Prop} (h : r.Tells o) (hremarks : r.remarks = none)
    (hcount : p o.positions.length) (hnumbers : ∀ e ∈ o.error, ∀ n ∈ e.numbers, p n) :
    Json.Exact p r.toValue := by
  obtain ⟨ok, op, data, error, remarks⟩ := r
  obtain rfl : remarks = none := hremarks
  obtain rfl : data = Service.outcomeData o := h.data
  have hrecord {v : Value} (hv : Json.Exact p v) : Json.Exact p (.record
      [("ok", .bool ok), ("op", .text op), ("data", .record (Service.outcomeData o)),
        ("error", v), ("meta", .null)]) := by
    refine .record (by simp [Fields.keys]) ?_
    simp only [List.forall_mem_cons]
    exact ⟨.bool ok, .text op, Outcome.exact_data hcount, hv, .null, by simp⟩
  cases he : o.error with
  | none =>
    obtain rfl : error = none := h.no_error he
    exact hrecord .null
  | some e =>
    obtain ⟨message, -, hfailure⟩ := h.error e he
    obtain rfl : error = some ⟨e.kind.name, message, e.detail⟩ := hfailure
    refine hrecord (.record (by simp [Fields.keys]) ?_)
    simp only [List.forall_mem_cons]
    exact ⟨.text _, .text message, RunError.exact_detail (hnumbers e he), by simp⟩

/-- The record has one field for each part of the report, and nothing else. -/
structure ToldBy (r : Report) (fs : Fields) : Prop where
  keys : fs.keys = ["ok", "op", "data", "error", "meta"]
  ok : Fields.get? "ok" fs = some (.bool r.ok)
  op : Fields.get? "op" fs = some (.text r.op)
  data : Fields.get? "data" fs = some (.record r.data)
  no_error : r.error = none → Fields.get? "error" fs = some .null
  error : ∀ f ∈ r.error, Fields.get? "error" fs = some (.record
    [("code", .text f.code), ("message", .text f.message), ("detail", .record f.detail)])
  no_remarks : r.remarks = none → Fields.get? "meta" fs = some .null

theorem exists_toldBy (r : Report) : ∃ fs, r.toValue = .record fs ∧ r.ToldBy fs := by
  refine ⟨_, rfl, rfl, rfl, rfl, rfl, ?_, ?_, ?_⟩
  · intro h
    rw [h]
    rfl
  · intro f hf
    rw [Option.mem_def.1 hf]
    rfl
  · intro h
    rw [h]
    rfl

end Report

namespace Service

variable {config : RunnerConfig} {machine : Machine} {source : String} {text : List Char}
  {t : Tracer} {r : Report}

theorem remarks_run_of_disabled (hoff : t.enabled = false)
    (h : (run config source text machine t).1 = .ok r) : r.remarks = none := by
  have huntraced : run config source text machine t = runBody config source text machine t := by
    rw [run, operation, Traced.call_of_disabled hoff]
  rw [huntraced] at h
  exact returns_runBody config source text t r h

/-- The report of an untraced run is lossless as a document: it is one document that spells the
record of the report and no other value.  No other setting matters, and nothing is written for
what was completed before an error. -/
theorem run_document_lossless (hoff : t.enabled = false)
    (h : (run config source text machine t).1 = .ok r) :
    ∃ out fs, Json.Document out (.record fs) ∧ (∀ v, Json.Document out v → v = .record fs) ∧
      (text.length < Numeral.tooLong → Json.read? (String.ofList out) = some (.record fs)) ∧
      r.ToldBy fs ∧
      (∃ o, Instructions.run config text machine = .ok o ∧ r.Tells o) ∧
      ∀ device (settings : OutputSettings), settings.json = true →
        r.format device settings = .ok out ∧ r.formatPartial device settings = .ok [] := by
  obtain ⟨o, ho, htells, -⟩ := exists_outcome_of_report h
  have hremarks := remarks_run_of_disabled hoff h
  obtain ⟨fs, hvalue, htold⟩ := r.exists_toldBy
  have hdocument : Json.Document (Json.Layout.pretty.value 0 r.toValue) (.record fs) := by
    have hexact : Json.Exact (fun _ => True) r.toValue :=
      Report.exact_toValue htells hremarks trivial fun _ _ _ _ => trivial
    rw [← hvalue]
    exact Json.document_of_exact Json.Layout.lawful_pretty hexact
  refine ⟨_, fs, hdocument, fun v hv => hv.unique hdocument, ?_, htold, ⟨o, ho, htells⟩, ?_⟩
  · intro hlength
    have hcount : (o.positions.length : Int).natAbs < Numeral.tooLong :=
      Nat.lt_of_le_of_lt
        (Instructions.length_positions_le (Instructions.run_of_run_config ho)) hlength
    have hexact := Report.exact_toValue (p := fun n => n.natAbs < Numeral.tooLong) htells hremarks
      hcount fun e he => by
        obtain ⟨message, hmessage, -⟩ := htells.error e he
        exact (RunError.exists_message_iff e).1 ⟨message, hmessage⟩
    rw [hvalue] at hexact
    exact Json.read?_of_document hdocument (Json.faithful_iff_exact.2 hexact)
  · intro device settings hjson
    refine ⟨?_, ?_⟩
    · rw [Report.format, hjson]
      rfl
    · rw [Report.formatPartial, hjson, Bool.or_true]
      rfl

/-- A heading of a quote, a backslash, a control character and one that is not ASCII. -/
theorem run_document_lossless_of_heading :
    ∃ r out fs, (run {} defaultSource "1 1\n0 0 \"\\\x01é\nM".toList {}
        { clock := .every 0 }).1 = .ok r ∧
      r.details = [("rover_id", .int 0), ("direction", .text "\"\\\x01é")] ∧
      Json.Document out (.record fs) ∧ Json.read? (String.ofList out) = some (.record fs) ∧
      r.ToldBy fs ∧
      r.format { terminal := true }
        { json := true, quiet := true, verbose := true, width := some 1 } = .ok out := by
  have ho : Instructions.run {} "1 1\n0 0 \"\\\x01é\nM".toList =
      .ok ⟨[], some (.robotDirectionParse 0 "\"\\\x01é")⟩ := by decide +kernel
  obtain ⟨r, hr, hdetails⟩ := exists_report_of_direction ho { clock := .every 0 }
  obtain ⟨out, fs, hdocument, -, hread, htold, -, hformat⟩ := run_document_lossless rfl hr
  have hlength : "1 1\n0 0 \"\\\x01é\nM".toList.length < Numeral.tooLong :=
    Numeral.lt_tooLong (by decide)
  exact ⟨r, out, fs, hr, hdetails, hdocument, hread hlength, htold,
    (hformat { terminal := true } _ rfl).1⟩

end Service

end Plateau
