import Plateau.Log.Setup
import Plateau.Proofs.Json.Fractions
import Plateau.Proofs.Json.Plain

namespace Plateau.Log

namespace Setup

variable {known : List String} {logger : String}

/-- The program's logger, or one below it. -/
def Descends (logger : String) : Prop :=
  logger = ownLogger ∨ ∃ part, logger = ownLogger ++ "." ++ part

instance (logger : String) : Decidable (Descends logger) :=
  decidable_of_iff (logger = ownLogger ∨ (ownLogger ++ ".").toList <+: logger.toList) <| by
    refine or_congr_right ⟨?_, ?_⟩
    · rintro ⟨part, hpart⟩
      exact ⟨.ofList part, by rw [← String.toList_inj, ← hpart]; simp⟩
    · rintro ⟨part, rfl⟩
      exact ⟨part.toList, by simp⟩

def Doubled (logger : String) : Prop := ∃ part, logger = ownLogger ++ ".." ++ part

theorem exists_of_reachesOwn {name : List Char} (h : reachesOwn known name = true) :
    ∃ inner, name = inner ++ '.' :: ownLogger.toList.reverse := by
  fun_induction reachesOwn known name with
  | case1 c outer name near far =>
    rcases Bool.or_eq_true_iff.1 h with hname | hway
    · have hown : (c :: outer).reverse = ownLogger.toList := by
        rw [← eq_of_beq hname, String.toList_ofList]
      exact ⟨[], by rw [← hown, List.reverse_reverse, List.nil_append]⟩
    · split at hway
      · obtain ⟨inner, hinner⟩ := near hway
        exact ⟨'.' :: inner, by rw [hinner, List.cons_append]⟩
      · obtain ⟨inner, hinner⟩ := far hway
        exact ⟨'.' :: c :: inner, by rw [hinner]; rfl⟩
  | case2 c outer _ ih =>
    obtain ⟨inner, hinner⟩ := ih h
    exact ⟨c :: inner, by rw [hinner, List.cons_append]⟩
  | case3 => contradiction

/-- Before a point that is no second one the way comes to the program's logger, whatever it passes
over further in. -/
theorem reachesOwn_append (known : List String) (inner : List Char)
    (h : inner.getLast? ≠ some '.') :
    reachesOwn known (inner ++ '.' :: ownLogger.toList.reverse) = true := by
  have htail {c : Char} {s : List Char} (hs : (c :: s).getLast? ≠ some '.') :
      s.getLast? ≠ some '.' := by
    cases s with
    | nil => simp
    | cons d s => simpa using hs
  induction inner using reachesOwn.induct with
  | case1 c inner near far =>
    have hnear := near (htail h)
    have hfar := far (htail (htail h))
    rw [List.cons_append] at hnear
    simp [reachesOwn, hnear, hfar]
  | case2 c inner hc ih =>
    rw [List.cons_append, reachesOwn.eq_2]
    · exact ih (htail h)
    · rintro d outer rfl houter
      cases inner with
      | nil => exact h rfl
      | cons e inner => exact hc e inner rfl rfl
  | case3 => simp [ownLogger, reachesOwn]

theorem isOwn_of_descends (hdoubled : ¬Doubled logger) (h : Descends logger) :
    isOwn known logger = true := by
  rcases h with rfl | ⟨part, rfl⟩
  · simp [isOwn]
  · have hlast : part.toList.reverse.getLast? ≠ some '.' := by
      intro hpoint
      rw [List.getLast?_reverse, List.head?_eq_some_iff] at hpoint
      obtain ⟨inner, hinner⟩ := hpoint
      refine hdoubled ⟨.ofList inner, ?_⟩
      rw [← String.toList_inj]
      simp [hinner]
    have hway := reachesOwn_append known _ hlast
    rw [isOwn, Bool.or_eq_true_iff]
    refine .inr ?_
    simpa using hway

theorem descends_of_isOwn (h : isOwn known logger = true) : Descends logger := by
  rcases Bool.or_eq_true_iff.1 h with hname | hway
  · exact .inl (eq_of_beq hname)
  · obtain ⟨inner, hinner⟩ := exists_of_reachesOwn hway
    refine .inr ⟨.ofList inner.reverse, ?_⟩
    rw [← String.toList_inj, ← List.reverse_inj, hinner]
    simp

/-- Which loggers are known makes no difference but for two points after the program's name. -/
theorem isOwn_eq_decide (hdoubled : ¬Doubled logger) (known : List String) :
    isOwn known logger = decide (Descends logger) := by
  rw [Bool.eq_iff_iff, decide_eq_true_iff]
  exact ⟨descends_of_isOwn, isOwn_of_descends hdoubled⟩

end Setup

open Setup (Descends Doubled)

def Options.least (o : Options) (logger : String) : Level :=
  if Descends logger then o.threshold else .warning

/-- The least level that a logger may have.  One with two points after the program's name may have
that of all others. -/
def Options.MayHave (o : Options) (logger : String) (level : Level) : Prop :=
  level = o.least logger ∨ Doubled logger ∧ level = .warning

def Options.among (o : Options) (known : List String) (logger : String) : Level :=
  if Setup.isOwn known logger then o.threshold else .warning

/-- Each record has a level that its logger has among those known when it comes, or had among those
known at a moment before; the loggers come to be known in the order of the records. -/
inductive Options.Leveled (o : Options) :
    List String → List (String × Record) → List Level → Prop
  | nil (known : List String) : o.Leveled known [] []
  | cons {known earlier : List String} {q : String × Record} {rs : List (String × Record)}
    {least : List Level} (hearlier : earlier <:+ known)
    (hrest : o.Leveled (q.2.logger :: known) rs least) :
    o.Leveled known (q :: rs) (o.among earlier q.2.logger :: least)

def Record.Reaches (r : Record) (least : Level) : Prop := least.severity ≤ r.level.severity

instance (r : Record) (least : Level) : Decidable (r.Reaches least) := Nat.decLe _ _

theorem mayHave_among (o : Options) (known : List String) (logger : String) :
    o.MayHave logger (o.among known logger) := by
  rw [Options.among]
  by_cases hdoubled : Doubled logger
  · cases Setup.isOwn known logger with
    | true =>
      left
      obtain ⟨part, rfl⟩ := hdoubled
      have hdescends : Descends (Setup.ownLogger ++ ".." ++ part) :=
        .inr ⟨"." ++ part, by simp [← String.toList_inj]⟩
      simp [Options.least, hdescends]
    | false => exact .inr ⟨hdoubled, rfl⟩
  · left
    rw [Setup.isOwn_eq_decide hdoubled]
    simp [Options.least]

theorem Options.Leveled.mayHave {o : Options} {known : List String} {rs : List (String × Record)}
    {least : List Level} (h : o.Leveled known rs least) :
    List.Forall₂ (fun q level => o.MayHave q.2.logger level) rs least := by
  induction h with
  | nil => exact .nil
  | cons _ _ ih => exact .cons (mayHave_among o _ _) ih

/-- Whatever was decided was decided by a level that the logger had among those known then. -/
def Options.Decided (o : Options) (loggers : Loggers) : Prop :=
  ∀ d ∈ loggers.decided, ∃ earlier, earlier <:+ loggers.known ∧
    d.2 = decide ((o.among earlier d.1.1).severity ≤ d.1.2.severity)

section Decisions

variable {s : Setup} {o : Options} {loggers : Loggers}

theorem exists_writes_configure (hdecided : o.Decided loggers) (r : Record) :
    ∃ earlier, earlier <:+ loggers.known ∧
      (s.configure o).writes loggers r = decide (r.Reaches (o.among earlier r.logger)) := by
  rcases (s.configure o).writes_cases loggers r with hwrites | hmem
  · exact ⟨loggers.known, List.suffix_refl _, hwrites⟩
  · exact hdecided _ hmem

theorem decided_after (hdecided : o.Decided loggers) (r : Record) :
    o.Decided ((s.configure o).after loggers r) := by
  intro d hd
  have hlater {earlier : List String} (h : earlier <:+ loggers.known) :
      earlier <:+ r.logger :: loggers.known := h.trans (List.suffix_cons _ _)
  rcases List.mem_cons.1 hd with rfl | hd
  · obtain ⟨earlier, hearlier, hwrites⟩ := exists_writes_configure (s := s) hdecided r
    exact ⟨earlier, hlater hearlier, hwrites⟩
  · obtain ⟨earlier, hearlier, hwritten⟩ := hdecided d hd
    exact ⟨earlier, hlater hearlier, hwritten⟩

theorem exists_emitFrom_configure (hdecided : o.Decided loggers) (rs : List (String × Record)) :
    ∃ least : List Level, o.Leveled loggers.known rs least ∧
      (s.configure o).emitFrom loggers rs =
        ((rs.zip least).filter fun (q, level) => q.2.Reaches level).flatMap
          fun (q, _) => q.2.line o.form q.1 ++ ['\n'] := by
  induction rs generalizing loggers with
  | nil => exact ⟨[], .nil _, rfl⟩
  | cons q rs ih =>
    obtain ⟨earlier, hearlier, hwrites⟩ := exists_writes_configure (s := s) hdecided q.2
    obtain ⟨least, hleast, hwritten⟩ := ih (decided_after hdecided q.2)
    refine ⟨_, .cons hearlier hleast, ?_⟩
    rw [Setup.emitFrom, hwritten, Setup.emit, hwrites]
    by_cases hreaches : q.2.Reaches (o.among earlier q.2.logger)
    · simp [hreaches]
    · simp [hreaches]

end Decisions

theorem eq_map_least {o : Options} {rs : List (String × Record)} {least : List Level}
    (hdoubled : ∀ q ∈ rs, ¬Doubled q.2.logger)
    (h : List.Forall₂ (fun q level => o.MayHave q.2.logger level) rs least) :
    least = rs.map fun q => o.least q.2.logger := by
  induction h with
  | nil => rfl
  | cons hlevel _ ih =>
    obtain ⟨hq, hrs⟩ := List.forall_mem_cons.1 hdoubled
    rw [List.map_cons, ← ih hrs, hlevel.resolve_right fun hother => hq hother.1]

def reserved : List String :=
  ["event", "level", "logger", "logger_name", "timestamp", "exc_info", "exception", "stack_info",
    "stack", "positional_args", "_record", "_from_structlog", "self", "method_name"]

/-- The values are those of JSON, their keys different and none of them reserved.  Whole numbers
among them have at most 4300 digits: none that is longer can be written, here or anywhere else. -/
structure Record.Sound (r : Record) : Prop where
  keys : r.fields.keys.Nodup
  free : ∀ key ∈ r.fields.keys, key ∉ reserved
  values : ∀ kv ∈ r.fields, Json.Genuine kv.2

inductive Entry.Sound : Entry → Prop where
  | message (logger : String) (level : Level) (format : String) (arguments : List Value) :
    Entry.Sound (.message logger level format arguments)
  | event {logger : String} {level : Level} {event : String} {fields : Fields}
    (h : Record.Sound ⟨logger, level, event, fields⟩) :
    Entry.Sound (.event logger level event fields)

/-- The records of entries, each with its time: the arguments of every message fill its format. -/
def Recorded (entries : List (String × Entry)) (rs : List (String × Record)) : Prop :=
  List.Forall₂ (fun e q => e.1 = q.1 ∧ e.2.record? = some q.2) entries rs

theorem Entry.Sound.record {e : Entry} (h : e.Sound) {r : Record} (hr : e.record? = some r) :
    r.Sound := by
  cases h with
  | message logger level format arguments =>
    obtain ⟨event, -, rfl⟩ := Option.map_eq_some_iff.1 hr
    exact ⟨List.nodup_nil, by simp [Fields.keys], by simp⟩
  | event h =>
    obtain rfl := Option.some.inj hr
    exact h

theorem Recorded.sound {entries : List (String × Entry)} {rs : List (String × Record)}
    (h : Recorded entries rs) (hentries : ∀ e ∈ entries, e.2.Sound) : ∀ q ∈ rs, q.2.Sound := by
  induction h with
  | nil => exact List.forall_mem_nil _
  | cons hq _ ih =>
    obtain ⟨he, hrest⟩ := List.forall_mem_cons.1 hentries
    exact List.forall_mem_cons.2 ⟨he.record hq.2, ih hrest⟩

structure Record.Told (r : Record) (fs : Fields) : Prop where
  event : fs.get? "event" = some (.text r.event)
  level : fs.get? "level" = some (.text r.level.name)
  logger : fs.get? "logger" = some (.text r.loggerName)
  field : ∀ key value, r.fields.get? key = some value → fs.get? key = some value

variable {r : Record}

theorem Record.Sound.exists_document (h : r.Sound) (stamp : String) :
    ∃ fs, r.document stamp = .record fs ∧ Json.Genuine (.record fs) ∧ r.Told fs := by
  obtain ⟨hkeys, hfree, hvalues⟩ := h
  have hadded {key : String} (hkey : key ∈ reserved) (added : Fields) :
      (r.fields ++ added).get? key = added.get? key := by
    rw [Fields.get?_append, Fields.get?_eq_none fun hmem => hfree key hmem hkey]
    rfl
  refine ⟨_, rfl, .record ?_ ?_, ?_⟩
  · have hadds : ∀ key ∈ ["event", "level", "logger", "timestamp"], key ∈ reserved := by decide
    rw [Fields.keys, List.map_append, List.nodup_append]
    refine ⟨hkeys, by simp, ?_⟩
    rintro key hkey _ hadd rfl
    exact hfree key hkey (hadds key hadd)
  · refine List.forall_mem_append.2 ⟨hvalues, ?_⟩
    simp [Json.Genuine.text]
  · refine ⟨hadded (by decide) _, hadded (by decide) _, hadded (by decide) _, ?_⟩
    intro key value hvalue
    rw [Fields.get?_append, hvalue]
    rfl

theorem Record.Sound.line_document (h : r.Sound) (stamp : String) :
    '\n' ∉ r.line .document stamp ∧
      ∃ fs, Json.Tells (r.line .document stamp) (.record fs) ∧ r.Told fs := by
  obtain ⟨fs, hfs, hgenuine, htold⟩ := h.exists_document stamp
  have hline : r.line .document stamp = Json.Layout.log.value 0 (.record fs) := by
    rw [Record.line, hfs]
  rw [hline]
  exact ⟨(Json.visible_value_log 0 _).newline_notMem, fs, Json.tells_value hgenuine 0, htold⟩

/-- A message with a line end on a logger below the program's, and two events on one whose name
only begins alike. -/
def mixed : List (String × Entry) :=
  [("8:00", .message "roverctl.a" .debug "%d%%\n" [.int 50]),
    ("8:01", .event "roverctlx" .info "silent" []),
    ("8:02", .event "roverctlx" .warning "say \"so\"" [("id", .int 1)])]

def mixedRecords : List (String × Record) :=
  [("8:00", ⟨"roverctl.a", .debug, "50%\n", []⟩), ("8:01", ⟨"roverctlx", .info, "silent", []⟩),
    ("8:02", ⟨"roverctlx", .warning, "say \"so\"", [("id", .int 1)]⟩)]

end Plateau.Log
