import Plateau.Proofs.Settings.Environment

namespace Plateau

open Check (Reads seq_eq_valid_iff map_eq_valid_iff defaulted_eq_valid_iff)
open Environment (assigned? plainKeys sections lowered nested sectionOf Whole)

namespace Check

theorem andThen_eq_valid_iff {α β : Type} {c : Check α} {f : α → Check β} {b : β} :
    c.andThen f = valid b ↔ ∃ a, c = valid a ∧ f a = valid b := by
  cases c <;> simp [andThen]

theorem record_eq_valid_iff {expected : Expected} {v : Value} {fs : Fields} :
    record expected v = valid fs ↔ v = .record fs := by
  cases v <;> simp [record, fault]

theorem bool_record (fs : Fields) (b : Bool) : bool (.record fs) ≠ valid b := by
  simp [bool, fault]

theorem intAtLeast_record (least : Int) (fs : Fields) (n : Int) :
    intAtLeast least (.record fs) ≠ valid n := by
  simp [intAtLeast, int, fault, andThen]

theorem le_of_intAtLeast {least : Int} {v : Value} {n : Int} (h : intAtLeast least v = valid n) :
    least ≤ n := by
  obtain ⟨m, -, hm⟩ := andThen_eq_valid_iff.1 h
  split at hm
  · rename_i hle
    obtain rfl := valid.inj hm
    exact hle
  · contradiction

theorem optional_eq_some_iff {α : Type} {check : Value → Check α} {v : Value} {a : α} :
    optional check v = valid (some a) ↔ v ≠ .null ∧ check v = valid a := by
  cases v <;> simp [optional, map_eq_valid_iff]

theorem le_of_reads {least default n : Int} (hdefault : least ≤ default) {found : Option Value}
    (h : Reads (intAtLeast least) default found n) : least ≤ n := by
  cases found with
  | none =>
    obtain rfl : n = default := h
    exact hdefault
  | some v => exact le_of_intAtLeast h

theorem le_of_reads_optional {least : Int} {found : Option Value} {m : Option Int}
    (h : Reads (optional (intAtLeast least)) none found m) : ∀ n ∈ m, least ≤ n := by
  rintro n hn
  obtain rfl := Option.mem_def.1 hn
  cases found with
  | none => contradiction
  | some v => exact le_of_intAtLeast (optional_eq_some_iff.1 h).2

end Check

def sectionFields (found : Option Value) : Fields := (found.getD .null).toFields

theorem RunnerConfig.reads_of_section {expected : Expected} {found : Option Value}
    {c : RunnerConfig} (h : Reads (ofValue expected) {} found c) :
    Reads Check.bool false ((sectionFields found).get? "parallel") c.parallel ∧
      Reads (Check.optional (Check.intAtLeast 1)) none ((sectionFields found).get? "max_workers")
        c.maxWorkers := by
  cases found with
  | none =>
    obtain rfl : c = {} := h
    exact ⟨rfl, rfl⟩
  | some v =>
    obtain ⟨fs, hrecord, hfields⟩ := Check.andThen_eq_valid_iff.1 h
    obtain rfl := Check.record_eq_valid_iff.1 hrecord
    simp only [ofFields, seq_eq_valid_iff, map_eq_valid_iff, defaulted_eq_valid_iff] at hfields
    obtain ⟨_, workers, ⟨parallel, hparallel, rfl⟩, hworkers, rfl⟩ := hfields
    exact ⟨hparallel, hworkers⟩

theorem OutputConfig.reads_of_section {expected : Expected} {found : Option Value}
    {c : OutputConfig} (h : Reads (ofValue expected) {} found c) :
    Reads Check.bool true ((sectionFields found).get? "color") c.color ∧
      Reads (Check.intAtLeast leastWidth) 120 ((sectionFields found).get? "width") c.width := by
  cases found with
  | none =>
    obtain rfl : c = {} := h
    exact ⟨rfl, rfl⟩
  | some v =>
    obtain ⟨fs, hrecord, hfields⟩ := Check.andThen_eq_valid_iff.1 h
    obtain rfl := Check.record_eq_valid_iff.1 hrecord
    simp only [ofFields, seq_eq_valid_iff, map_eq_valid_iff, defaulted_eq_valid_iff] at hfields
    obtain ⟨_, width, ⟨color, hcolor, rfl⟩, hwidth, rfl⟩ := hfields
    exact ⟨hcolor, hwidth⟩

namespace Settings

theorem get?_environmentSections {env : Fields} {known : List (String × List String)} {fs : Fields}
    (h : environmentSections env known = .ok fs) (hnodup : (known.map (·.1)).Nodup) {name : String}
    {keys : List String} (hmem : (name, keys) ∈ known) :
    sectionOf name keys env = .ok (fs.get? name) := by
  induction known generalizing fs with
  | nil => contradiction
  | cons first known ih =>
    obtain ⟨other, names⟩ := first
    obtain ⟨hnot, hnodup⟩ : other ∉ known.map (·.1) ∧ (known.map (·.1)).Nodup :=
      List.nodup_cons.1 hnodup
    have hlater {rest : Fields} (hrest : environmentSections env known = .ok rest) :
        other ∉ rest.keys := fun hin => hnot ((keys_environmentSections hrest).subset hin)
    rw [environmentSections] at h
    rcases List.mem_cons.1 hmem with heq | hmem
    · obtain ⟨rfl, rfl⟩ := Prod.mk.inj heq
      split at h
      · contradiction
      · rename_i hnone
        rw [hnone, Fields.get?_eq_none (hlater h)]
      · rename_i v hsome
        obtain ⟨rest, hrest, hfs⟩ := bind_eq_ok_iff.1 h
        obtain rfl := Except.ok.inj hfs
        rw [hsome, Fields.get?_cons_self]
    · have hne : other ≠ name := by
        rintro rfl
        exact hnot (List.mem_map_of_mem hmem)
      split at h
      · contradiction
      · exact ih h hnodup hmem
      · obtain ⟨rest, hrest, hfs⟩ := bind_eq_ok_iff.1 h
        obtain rfl := Except.ok.inj hfs
        rw [Fields.get?_cons_of_ne hne]
        exact ih hrest hnodup hmem

theorem get?_environmentFields_section {env : List (String × String)} {fs : Fields}
    (h : environmentFields env = .ok fs) {name : String} {keys : List String}
    (hmem : (name, keys) ∈ sections) : sectionOf name keys (lowered env) = .ok (fs.get? name) := by
  obtain ⟨inner, hinner, rfl⟩ := environmentFields_eq_ok h
  have hapart : ∀ k ∈ sections.map (·.1), k ∉ plainKeys := by decide
  have hnot : name ∉ plainKeys := hapart name (List.mem_map_of_mem hmem)
  rw [Fields.get?_append, Fields.get?_filterMap, if_neg hnot, Option.none_or]
  exact get?_environmentSections hinner (by decide) hmem

theorem get?_section {environment flags : Fields} (hnodup : environment.keys.Nodup) {name : String}
    (hflags : name ∉ flags.keys) (file : Fields) :
    (Fields.overlay file (Fields.overlay environment flags)).get? name =
      ((environment.get? name).map (Value.above (file.get? name))).or (file.get? name) := by
  rw [Fields.get?_overlay_eq (Fields.nodup_keys_overlay hnodup flags),
    Fields.get?_overlay_of_not_mem hflags]

theorem get?_sectionFields_above {fs : Fields} (hnodup : fs.keys.Nodup) (low : Option Value)
    (key : String) :
    (sectionFields (some (Value.above low (.record fs)))).get? key =
      ((fs.get? key).map (Value.above ((sectionFields low).get? key))).or
        ((sectionFields low).get? key) := by
  have hbare : fs.get? key = ((fs.get? key).map (Value.above none)).or none := by
    cases hv : fs.get? key with
    | none => rfl
    | some v => cases v <;> simp [Value.above]
  cases low with
  | none =>
    rw [Value.above]
    · exact hbare
    · simp
  | some v =>
    cases v with
    | record below =>
      rw [Value.above]
      exact Fields.get?_overlay_eq hnodup key below
    | _ =>
      rw [Value.above]
      · exact hbare
      · simp

/-- The value that counts for a key of a section: that of its variable, else that of the file. -/
def leaf? (env : List (String × String)) (file : Fields) (name key : String) : Option Value :=
  ((assigned? env (name ++ "__" ++ key)).map .text).or ((sectionFields (file.get? name)).get? key)

section

variable {env : List (String × String)} {environment flags : Fields}
  (henv : environmentFields env = .ok environment) {name : String} {keys : List String}
  (hmem : (name, keys) ∈ sections) (hunset : assigned? env name = none) (hflags : name ∉ flags.keys)
include henv hmem hunset hflags

/-- Under a key of a section stands what its nested variables set, above what the file sets. -/
theorem get?_sectionFields (file : Fields) (key : String) :
    (sectionFields
        ((Fields.overlay file (Fields.overlay environment flags)).get? name)).get? key =
      (((nested name (lowered env)).get? key).map
        (Value.above ((sectionFields (file.get? name)).get? key))).or
          ((sectionFields (file.get? name)).get? key) := by
  have hsection := get?_environmentFields_section henv hmem
  rw [Environment.sectionOf_eq hunset] at hsection
  rw [get?_section (nodup_environmentFields henv) hflags, ← Except.ok.inj hsection]
  split
  · rename_i hnil
    rw [hnil]
    rfl
  · exact get?_sectionFields_above (Environment.nested_lawful name env).1 _ key

/-- What is read from all sources is what is read from the leaf.  Variables for parts of a value do
not count, as the check of a leaf refuses records. -/
theorem reads_leaf {key : String} (hkey : Whole key) {α : Type} {check : Value → Check α}
    (hrecord : ∀ fs a, check (.record fs) ≠ .valid a) {default a : α} {file : Fields}
    (h : Reads check default ((sectionFields
      ((Fields.overlay file (Fields.overlay environment flags)).get? name)).get? key) a) :
    Reads check default (leaf? env file name key) a := by
  rw [get?_sectionFields henv hmem hunset hflags] at h
  unfold leaf?
  cases hvariable : assigned? env (name ++ "__" ++ key) with
  | some s =>
    rw [Environment.get?_nested_of_assigned hkey hvariable] at h
    simpa [Value.above] using h
  | none =>
    cases hplanted : (nested name (lowered env)).get? key with
    | none =>
      rw [hplanted] at h
      exact h
    | some v =>
      obtain ⟨inner, rfl⟩ := Environment.record_of_get?_nested hvariable hplanted
      obtain ⟨fs, hfs⟩ : ∃ fs, Value.above ((sectionFields (file.get? name)).get? key)
          (.record inner) = .record fs := by
        unfold Value.above
        split <;> exact ⟨_, rfl⟩
      rw [hplanted, Option.map_some, hfs] at h
      exact absurd h (hrecord fs a)

end

theorem parallel_runnerConfig (s : Settings) :
    s.runnerConfig.parallel = s.parallel.getD s.runner.parallel := by
  unfold runnerConfig
  cases s.parallel <;> rfl

theorem maxWorkers_runnerConfig (s : Settings) :
    s.runnerConfig.maxWorkers = s.runner.maxWorkers := by
  unfold runnerConfig
  cases s.parallel <;> rfl

variable {h : Host} {explicit : Option String} {start : Option Path} {flags : Fields} {s : Settings}

theorem workers_of_load (hload : load h explicit start flags = .ok s) :
    ∀ n ∈ s.runnerConfig.maxWorkers, 1 ≤ n := by
  obtain ⟨_, _, _, -, -, hchecked⟩ := load_eq_ok_iff.1 hload
  rw [maxWorkers_runnerConfig]
  exact Check.le_of_reads_optional (RunnerConfig.reads_of_section hchecked.runner).2

theorem width_of_load (hload : load h explicit start flags = .ok s) : 20 ≤ s.output.width := by
  obtain ⟨_, _, _, -, -, hchecked⟩ := load_eq_ok_iff.1 hload
  exact Check.le_of_reads (by decide) (OutputConfig.reads_of_section hchecked.output).2

/-- The leaves of both sections, each read by itself. -/
structure Merged (env : List (String × String)) (file : Fields) (s : Settings) : Prop where
  parallel : Reads Check.bool false (leaf? env file "runner" "parallel") s.runner.parallel
  maxWorkers : Reads (Check.optional (Check.intAtLeast 1)) none
    (leaf? env file "runner" "max_workers") s.runner.maxWorkers
  color : Reads Check.bool true (leaf? env file "output" "color") s.output.color
  width : Reads (Check.intAtLeast 20) 120 (leaf? env file "output" "width") s.output.width

theorem merged_of_load (hload : load h explicit start flags = .ok s)
    (hflags : ∀ key ∈ flags.keys, key ∈ plainKeys) (hrunner : assigned? h.env "runner" = none)
    (houtput : assigned? h.env "output" = none) {source : Option Path} {file : Fields}
    (hfile : configuration h explicit start = .ok (source, file)) :
    Merged h.env file s := by
  obtain ⟨source', file', environment, hfile', henv, hchecked⟩ := load_eq_ok_iff.1 hload
  obtain ⟨rfl, rfl⟩ := Prod.mk.inj (Except.ok.inj (hfile.symm.trans hfile'))
  generalize hsaid : flags.filter (fun kv => !kv.2.isNull) = said at hchecked
  have hnot (name : String) (hname : name ∉ plainKeys) : name ∉ Fields.keys said := by
    intro hmem
    rw [← hsaid] at hmem
    exact hname (hflags name ((List.filter_sublist.map _).subset hmem))
  have hrunnerFlag := hnot "runner" (by decide)
  have houtputFlag := hnot "output" (by decide)
  obtain ⟨hparallel, hmaxWorkers⟩ := RunnerConfig.reads_of_section hchecked.runner
  obtain ⟨hcolor, hwidth⟩ := OutputConfig.reads_of_section hchecked.output
  have hoptional (fs : Fields) (m : Option Int) :
      Check.optional (Check.intAtLeast 1) (.record fs) ≠ .valid m := by
    intro hm
    obtain ⟨n, hn, -⟩ := Check.map_eq_valid_iff.1 hm
    exact Check.intAtLeast_record 1 fs n hn
  have hrunnerKeys : ("runner", ["parallel", "max_workers"]) ∈ sections := by decide
  have houtputKeys : ("output", ["color", "width"]) ∈ sections := by decide
  exact ⟨reads_leaf henv hrunnerKeys hrunner hrunnerFlag (by decide) Check.bool_record hparallel,
    reads_leaf henv hrunnerKeys hrunner hrunnerFlag (by decide) hoptional hmaxWorkers,
    reads_leaf henv houtputKeys houtput houtputFlag (by decide) Check.bool_record hcolor,
    reads_leaf henv houtputKeys houtput houtputFlag (by decide) (Check.intAtLeast_record 20) hwidth⟩

end Settings

end Plateau
