import Mathlib.Data.List.Induction
import Plateau.Proofs.Files.Walk
import Plateau.Settings.Load

namespace Plateau

namespace Discovery

@[simp] theorem upward_concat (place : Place) (name : String) :
    upward (place ++ [name]) = (place ++ [name]) :: upward place := by
  simp [upward, upward.go]

variable {h : Host} {place d e : Place}

theorem chosen_of_file {p : Path} (hfile : h.isFile p = .ok true) : chosen p h = .ok (some p) := by
  rw [chosen, firstFile, hfile]

theorem chosen_of_absent {p : Path} (hfile : h.isFile p = .ok false) : chosen p h = .ok none := by
  rw [chosen, firstFile, hfile, firstFile]

theorem chosen_of_fault {p : Path} {fault : FileTree.Fault} (hfault : h.isFile p = .error fault) :
    chosen p h = .error (.system p fault) := by
  rw [chosen, firstFile, hfault]

theorem nearest_nil : nearest [] h = chosen (pathIn []) h := rfl

theorem nearest_concat {name : String} :
    nearest (place ++ [name]) h = firstFile h (pathIn (place ++ [name]) ::
      (upward place).map pathIn) := by
  rw [nearest, upward_concat, List.map_cons]

/-- A search looks into a directory, then into the one around it.  It ends at a file, at a fault of
the system, or at a directory that lies in itself. -/
inductive Searches (h : Host) : Place → Except Fault (Option Path) → Prop where
  | found {place : Place} (hfile : h.isFile (pathIn place) = .ok true) :
    Searches h place (.ok (some (pathIn place)))
  | blocked {place : Place} {fault : FileTree.Fault}
    (hfault : h.isFile (pathIn place) = .error fault) :
    Searches h place (.error (.system (pathIn place) fault))
  | ended {place : Place} (hfile : h.isFile (pathIn place) = .ok false)
    (hroot : place.dropLast = place) : Searches h place (.ok none)
  | outward {place : Place} {r : Except Fault (Option Path)}
    (hfile : h.isFile (pathIn place) = .ok false) (hinner : place.dropLast ≠ place)
    (hlater : Searches h place.dropLast r) : Searches h place r

/-- Every search ends. -/
theorem searches_nearest (h : Host) (place : Place) : Searches h place (nearest place h) := by
  induction place using List.reverseRecOn with
  | nil =>
    rw [nearest_nil, chosen, firstFile, firstFile]
    split
    · exact .blocked ‹_›
    · exact .found ‹_›
    · exact .ended ‹_› rfl
  | append_singleton place name ih =>
    rw [nearest_concat, firstFile]
    split
    · exact .blocked ‹_›
    · exact .found ‹_›
    · refine .outward ‹_› (by simp) ?_
      rwa [List.dropLast_concat]

theorem Searches.unique {r r' : Except Fault (Option Path)} (hr : Searches h place r)
    (hr' : Searches h place r') : r = r' := by
  induction hr with
  | found hfile => cases hr' <;> simp_all
  | blocked hfault => cases hr' <;> simp_all
  | ended hfile hroot => cases hr' <;> simp_all
  | outward hfile hinner _ ih =>
    cases hr' with
    | found hfile' => simp [hfile] at hfile'
    | blocked hfault => simp [hfile] at hfault
    | ended _ hroot => exact absurd hroot hinner
    | outward _ _ hlater => exact ih hlater

/-- The directories from a place upwards that lie below `d` hold no configuration file. -/
def ClearBelow (h : Host) (place d : Place) : Prop :=
  ∀ e, e <+: place → d.length < e.length → h.isFile (pathIn e) = .ok false

/-- The deepest directory around a place, it among them, in which a configuration file stands. -/
def Deepest (h : Host) (place d : Place) : Prop :=
  d <+: place ∧ h.isFile (pathIn d) = .ok true ∧ ClearBelow h place d

/-- The directory at which the system keeps a search from going on. -/
def Blocks (h : Host) (place d : Place) (fault : FileTree.Fault) : Prop :=
  d <+: place ∧ h.isFile (pathIn d) = .error fault ∧ ClearBelow h place d

theorem clearBelow_self : ClearBelow h place place := by
  intro e he hlength
  exact absurd he.length_le (by omega)

theorem clearBelow_concat {name : String} (hd : d <+: place) :
    ClearBelow h (place ++ [name]) d ↔
      h.isFile (pathIn (place ++ [name])) = .ok false ∧ ClearBelow h place d := by
  have hlength : d.length < (place ++ [name]).length := by
    have := hd.length_le
    simp
    omega
  constructor
  · intro hclear
    exact ⟨hclear _ List.prefix_rfl hlength, fun e he => hclear e (he.trans (by simp))⟩
  · rintro ⟨hself, hclear⟩ e he
    rcases List.prefix_concat_iff.1 he with rfl | he
    · exact fun _ => hself
    · exact hclear e he

/-- What a result says of the directories around a place: there is a deepest one with a
configuration file, there is none, or the system keeps the search from telling. -/
def Answers (h : Host) (place : Place) : Except Fault (Option Path) → Prop
  | .ok (some p) => ∃ d, Deepest h place d ∧ p = pathIn d
  | .ok none => ∀ d, d <+: place → h.isFile (pathIn d) = .ok false
  | .error fault => ∃ d system, Blocks h place d system ∧ fault = .system (pathIn d) system

theorem Searches.answers {r : Except Fault (Option Path)} (hr : Searches h place r) :
    Answers h place r := by
  induction hr with
  | found hfile => exact ⟨_, ⟨List.prefix_rfl, hfile, clearBelow_self⟩, rfl⟩
  | blocked hfault => exact ⟨_, _, ⟨List.prefix_rfl, hfault, clearBelow_self⟩, rfl⟩
  | @ended place hfile hroot =>
    intro d hd
    obtain rfl : place = [] := by
      have hlength := congrArg List.length hroot
      rw [List.length_dropLast] at hlength
      exact List.length_eq_zero_iff.1 (by omega)
    rwa [List.prefix_nil.1 hd]
  | @outward place r hfile hinner _ ih =>
    rcases List.eq_nil_or_concat place with rfl | ⟨outer, name, rfl⟩
    · contradiction
    rw [List.concat_eq_append] at *
    rw [List.dropLast_concat] at ih
    cases r with
    | error fault =>
      obtain ⟨d, system, ⟨hd, hfault, hclear⟩, rfl⟩ := ih
      exact ⟨d, system, ⟨hd.trans (by simp), hfault, (clearBelow_concat hd).2 ⟨hfile, hclear⟩⟩, rfl⟩
    | ok found =>
      cases found with
      | none =>
        intro d hd
        rcases List.prefix_concat_iff.1 hd with rfl | hd
        · exact hfile
        · exact ih d hd
      | some p =>
        obtain ⟨d, ⟨hd, hfound, hclear⟩, rfl⟩ := ih
        exact ⟨d, ⟨hd.trans (by simp), hfound, (clearBelow_concat hd).2 ⟨hfile, hclear⟩⟩, rfl⟩

theorem eq_of_clearBelow (hd : d <+: place) (he : e <+: place)
    (hdstop : h.isFile (pathIn d) ≠ .ok false) (hestop : h.isFile (pathIn e) ≠ .ok false)
    (hdclear : ClearBelow h place d) (heclear : ClearBelow h place e) : d = e := by
  have hle : d.length ≤ e.length := by
    by_contra hlt
    exact hdstop (heclear d hd (by omega))
  have hge : e.length ≤ d.length := by
    by_contra hlt
    exact hestop (hdclear e he (by omega))
  exact (List.prefix_of_prefix_length_le hd he hle).eq_of_length (Nat.le_antisymm hle hge)

theorem Answers.stops {r : Except Fault (Option Path)} (hr : Answers h place r) :
    (r = .ok none ∧ ∀ d, d <+: place → h.isFile (pathIn d) = .ok false) ∨
      ∃ d, d <+: place ∧ h.isFile (pathIn d) ≠ .ok false ∧ ClearBelow h place d ∧
        r = chosen (pathIn d) h := by
  rcases r with fault | _ | p
  · obtain ⟨d, system, ⟨hd, hfault, hclear⟩, rfl⟩ := hr
    exact .inr ⟨d, hd, by simp [hfault], hclear, (chosen_of_fault hfault).symm⟩
  · exact .inl ⟨rfl, hr⟩
  · obtain ⟨d, ⟨hd, hfile, hclear⟩, rfl⟩ := hr
    exact .inr ⟨d, hd, by simp [hfile], hclear, (chosen_of_file hfile).symm⟩

theorem Answers.unique {r r' : Except Fault (Option Path)} (hr : Answers h place r)
    (hr' : Answers h place r') : r = r' := by
  rcases hr.stops with ⟨rfl, hnone⟩ | ⟨d, hd, hstop, hclear, rfl⟩ <;>
    rcases hr'.stops with ⟨rfl, hnone'⟩ | ⟨e, he, hstop', hclear', rfl⟩
  · rfl
  · exact absurd (hnone e he) hstop'
  · exact absurd (hnone' d hd) hstop
  · rw [eq_of_clearBelow hd he hstop hstop' hclear hclear']

end Discovery

theorem Host.valueOf?_eq_some_iff {h : Host} {name text : String} :
    h.valueOf? name = some text ↔ h.env.lookup name = some text ∧ text ≠ "" := by
  have hlookup : (h.env.find? (·.1 == name)).map (·.2) = h.env.lookup name := by
    induction h.env with
    | nil => rfl
    | cons v env ih =>
      obtain ⟨key, value⟩ := v
      rw [List.find?_cons, List.lookup_cons, BEq.comm (a := key)]
      cases name == key with
      | true => rfl
      | false => exact ih
  rw [valueOf?, hlookup, Option.filter_eq_some_iff]
  simp

theorem Host.openFile_of_isFile {h : Host} {p : Path} (hfile : h.isFile p = .ok true) :
    (∃ content, h.openFile p.text = .ok content) ∨ h.openFile p.text = .error .denied := by
  rw [isFile] at hfile
  split at hfile
  · contradiction
  · split at hfile
    · rename_i t hlook
      rw [openFile, hlook]
      cases t with
      | file content readable =>
        cases readable with
        | true => exact .inl ⟨content, rfl⟩
        | false => exact .inr rfl
      | directory => cases hfile
      | link => cases hfile
    · split at hfile <;> contradiction

namespace Settings

def gathered (source : Option Path) (file : Except LoadFault Fields)
    (env : List (String × String)) (flags : Fields) : Except LoadFault Settings := do
  let file ← file
  let environment ← environmentFields env
  let flags := flags.filter fun (_, value) => !value.isNull
  ((ofFields source (Fields.overlay file (Fields.overlay environment flags))).toExcept).mapError
    .invalid

theorem load_of_located {h : Host} {explicit : Option String} {start source : Option Path}
    (hsource : Discovery.locate explicit start h = .ok source) (flags : Fields) :
    load h explicit start flags = gathered source (located source h) h.env flags := by
  have hconfiguration : configuration h explicit start = (located source h).map (source, ·) := by
    rw [configuration, hsource]
    rfl
  rw [load, hconfiguration]
  unfold gathered
  cases located source h <;> rfl

theorem load_of_fault {h : Host} {explicit : Option String} {start : Option Path}
    {fault : Discovery.Fault} (hfault : Discovery.locate explicit start h = .error fault)
    (flags : Fields) : load h explicit start flags = .error (.unreachable fault) := by
  rw [load, configuration, hfault]
  rfl

end Settings

namespace Discovery

theorem find_of_choice {h : Host} {text : String}
    (hchoice : h.env.lookup choiceVariable = some text) (htext : text ≠ "")
    (start : Option Path) : find start h = chosen (.ofText text) h := by
  have hvalue := Host.valueOf?_eq_some_iff.2 ⟨hchoice, htext⟩
  unfold find
  rw [hvalue]

theorem find_of_no_choice {h : Host}
    (hchoice : ∀ text, h.env.lookup choiceVariable = some text → text = "")
    (start : Option Path) :
    find start h = (origin start h).bind fun place => nearest place h := by
  have hvalue : h.valueOf? choiceVariable = none := by
    apply Option.eq_none_iff_forall_ne_some.2
    intro text htext
    obtain ⟨hlookup, hne⟩ := Host.valueOf?_eq_some_iff.1 htext
    exact hne (hchoice text hlookup)
  unfold find
  rw [hvalue]
  rfl

/-- A choice whose name is too long for the system is neither used nor passed over. -/
theorem find_of_long_choice {h : Host} {name : String}
    (hchoice : h.env.lookup choiceVariable = some name) (hone : '/' ∉ name.toList)
    (hnull : '\x00' ∉ name.toList) (hlong : FileTree.nameLimit < name.utf8ByteSize)
    (hsize : name.utf8ByteSize ≤ FileTree.pathLimit) {entries : List (String × FileTree)}
    {around : List FileTree} (hdirectory : FileTree.Spot.descend { here := h.files } h.directory =
      some ⟨.directory entries, around⟩) (start : Option Path) :
    find start h = .error (.system (.ofText name) .nameTooLong) := by
  have hne : name ≠ "" := by
    rintro rfl
    contradiction
  rw [find_of_choice hchoice hne]
  exact chosen_of_fault (Host.isFile_of_long_name hone hnull hlong hsize hdirectory)

/-- In a directory that lies open a configuration file is a regular file of its name. -/
theorem isFile_pathIn {h : Host} {d : Place} {entries : List (String × FileTree)}
    (hway : FileTree.Leads d h.files (.directory entries))
    (hsize : (pathIn d).text.utf8ByteSize ≤ FileTree.pathLimit)
    (hlink : ∀ target, FileTree.child? fileName entries ≠ some (.link target)) :
    h.isFile (pathIn d) = .ok ((FileTree.child? fileName entries).any (·.isRegular)) := by
  have hproper : Path.Proper fileName :=
    ⟨by decide, by decide, by decide, by decide, by decide⟩
  exact Host.isFile_entry hway hproper hsize hlink

theorem locate_of_explicit {text : String} (htext : text ≠ "") (start : Option Path) (h : Host) :
    locate (some text) start h = chosen (.ofText text) h := by
  have hgiven : (some text).filter (· != "") = some text := by simp [htext]
  rw [locate, hgiven]

theorem load_of_file {text : String} (htext : text ≠ "") (start : Option Path) (flags : Fields)
    (hfile : h.isFile (.ofText text) = .ok true) :
    (∃ content, h.openFile (Path.ofText text).text = .ok content ∧
      Settings.load h (some text) start flags =
        Settings.gathered (some (.ofText text)) (Settings.fileFields (.ofText text) content)
          h.env flags) ∨
    Settings.load h (some text) start flags =
      .error (.unreachable (.system (.ofText text) .denied)) := by
  have hlocate := locate_of_explicit htext start h
  rw [chosen_of_file hfile] at hlocate
  rcases Host.openFile_of_isFile hfile with ⟨content, hcontent⟩ | hdenied
  · refine .inl ⟨content, hcontent, ?_⟩
    rw [Settings.load_of_located hlocate, Settings.located, hfile, hcontent]
  · refine .inr ?_
    rw [Settings.load_of_located hlocate, Settings.located, hfile, hdenied]
    rfl

theorem load_of_absent {text : String} (htext : text ≠ "") (start : Option Path) (flags : Fields)
    (hfile : h.isFile (.ofText text) = .ok false) :
    Settings.load h (some text) start flags = Settings.gathered none (.ok []) h.env flags := by
  have hlocate := locate_of_explicit htext start h
  rw [chosen_of_absent hfile] at hlocate
  exact Settings.load_of_located hlocate flags

theorem load_of_blocked {text : String} (htext : text ≠ "") (start : Option Path) (flags : Fields)
    {fault : FileTree.Fault} (hfault : h.isFile (.ofText text) = .error fault) :
    Settings.load h (some text) start flags =
      .error (.unreachable (.system (.ofText text) fault)) := by
  have hlocate := locate_of_explicit htext start h
  rw [chosen_of_fault hfault] at hlocate
  exact Settings.load_of_fault hlocate flags

/-- The configuration file that is found.  One that the environment chooses counts if it is a file,
and none does if it is no file.  Without a choice a search from the place where it begins ends in
exactly one way: with the file in the deepest directory that has one, with nothing if no directory
has one, or with the fault of the first directory of which the system does not tell.  Settings with
an explicit file are made of it if it is a file that may be read, and of no file if it is none,
whatever the environment and the tree hold besides. -/
theorem find_deepest (h : Host) (start : Option Path) :
    (∀ text, h.env.lookup choiceVariable = some text → text ≠ "" →
      (h.isFile (.ofText text) = .ok true → find start h = .ok (some (.ofText text))) ∧
      (h.isFile (.ofText text) = .ok false → find start h = .ok none) ∧
      ∀ fault, h.isFile (.ofText text) = .error fault →
        find start h = .error (.system (.ofText text) fault)) ∧
    ((∀ text, h.env.lookup choiceVariable = some text → text = "") →
      (∀ place, origin start h = .ok place → ∀ r,
        (find start h = r ↔ Searches h place r) ∧ (find start h = r ↔ Answers h place r)) ∧
      ∀ fault, origin start h = .error fault → find start h = .error fault) ∧
    ∀ text flags, text ≠ "" →
      (h.isFile (.ofText text) = .ok true →
        (∃ content, h.openFile (Path.ofText text).text = .ok content ∧
          Settings.load h (some text) start flags =
            Settings.gathered (some (.ofText text)) (Settings.fileFields (.ofText text) content)
              h.env flags) ∨
        Settings.load h (some text) start flags =
          .error (.unreachable (.system (.ofText text) .denied))) ∧
      (h.isFile (.ofText text) = .ok false →
        Settings.load h (some text) start flags = Settings.gathered none (.ok []) h.env flags) ∧
      ∀ fault, h.isFile (.ofText text) = .error fault →
        Settings.load h (some text) start flags =
          .error (.unreachable (.system (.ofText text) fault)) := by
  refine ⟨?_, ?_, ?_⟩
  · intro text hchoice htext
    rw [find_of_choice hchoice htext]
    exact ⟨chosen_of_file, chosen_of_absent, fun _ => chosen_of_fault⟩
  · intro hchoice
    rw [find_of_no_choice hchoice]
    constructor
    · intro place horigin r
      rw [horigin]
      have hsearches : Searches h place (nearest place h) := searches_nearest h place
      exact ⟨⟨fun hr => hr ▸ hsearches, hsearches.unique⟩,
        ⟨fun hr => hr ▸ hsearches.answers, hsearches.answers.unique⟩⟩
    · intro fault horigin
      rw [horigin]
      rfl
  · intro text flags htext
    exact ⟨load_of_file htext start flags, load_of_absent htext start flags,
      fun _ => load_of_blocked htext start flags⟩

/-- Around the directory `c`, to which a link leads, there are a directory that bears the name of
the file, a file above it, and one at the root, which lies further up. -/
def nested : Host where
  files := .directory [(fileName, .file [35]), ("link", .link "a/./b/c"), ("a", .directory
    [(fileName, .link "../roverctl.toml"), ("b", .directory [(fileName, .directory []),
      ("c", .directory [])])])]
  directory := ["a", "b"]

/-- A search from the link passes over the directory and does not go on to the root.  A choice that
is no file ends it at once, and so does an explicit one. -/
theorem find_deepest_past_directory :
    origin (some (.ofText "../../link")) nested = .ok ["a", "b", "c"] ∧
      find (some (.ofText "../../link")) nested = .ok (some (pathIn ["a"])) ∧
      Answers nested ["a", "b", "c"] (.ok (some (pathIn ["a"]))) ∧
      find none { nested with env := [(choiceVariable, "..")] } = .ok none ∧
      ∀ flags, Settings.load nested (some "..") none flags =
        Settings.gathered none (.ok []) [] flags := by
  have hfree : ∀ text, nested.env.lookup choiceVariable = some text → text = "" := by
    intro text htext
    contradiction
  have horigin : origin (some (.ofText "../../link")) nested = .ok ["a", "b", "c"] := by
    decide +kernel
  have hfound : find (some (.ofText "../../link")) nested = .ok (some (pathIn ["a"])) := by
    decide +kernel
  obtain ⟨-, hsearch, -⟩ := find_deepest nested (some (.ofText "../../link"))
  obtain ⟨hchosen, -, -⟩ := find_deepest { nested with env := [(choiceVariable, "..")] } none
  obtain ⟨-, -, hexplicit⟩ := find_deepest nested none
  refine ⟨horigin, hfound, ?_, ?_, ?_⟩
  · exact (((hsearch hfree).1 _ horigin _).2).1 hfound
  · exact (hchosen ".." rfl (by decide)).2.1 (by decide +kernel)
  · intro flags
    exact (hexplicit ".." flags (by decide)).2.1 (by decide +kernel)

def overlong : Host where
  env := [(choiceVariable, String.ofList (List.replicate 256 'a'))]

/-- There is no answer, not even that there is no file. -/
theorem find_fails_on_long_name : ¬∃ r, find none overlong = .ok r := by
  have hlong : FileTree.nameLimit < (String.ofList (List.replicate 256 'a')).utf8ByteSize := by
    decide +kernel
  have hsize : (String.ofList (List.replicate 256 'a')).utf8ByteSize ≤ FileTree.pathLimit := by
    decide +kernel
  have hletters (c : Char) (hc : c ≠ 'a') :
      c ∉ (String.ofList (List.replicate 256 'a')).toList := by
    rw [String.toList_ofList]
    exact fun hmem => hc (List.eq_of_mem_replicate hmem)
  have hfind : (find none overlong).isOk = false := by
    rw [find_of_long_choice (h := overlong) rfl (hletters _ (by decide)) (hletters _ (by decide))
      hlong hsize rfl]
    rfl
  rintro ⟨r, hr⟩
  rw [hr] at hfind
  cases hfind

end Discovery

end Plateau
