import Plateau.Files.Host
import Plateau.Proofs.Text.Pieces

namespace Plateau

namespace Path

/-- A name that an entry of a directory can have. -/
structure Proper (name : String) : Prop where
  isName : isName name = true
  onward : name ≠ ".."
  one : '/' ∉ name.toList
  no_null : '\x00' ∉ name.toList
  fits : name.utf8ByteSize ≤ FileTree.nameLimit

theorem parts_eq_self {text : String} (h : '/' ∉ text.toList) : parts text = [text] := by
  have hpieces : Text.pieces (· == '/') text.toList = [text.toList] := by
    have hsplit : (['/'].intercalate [text.toList]).splitOn '/' = [text.toList] :=
      List.splitOn_intercalate '/' (by simpa) (by simp)
    rw [Text.pieces_eq_splitOnP, ← List.splitOn_eq_splitOnP]
    simpa using hsplit
  simp [parts, hpieces]

theorem ofText_name {name : String} (hname : isName name = true) (hone : '/' ∉ name.toList) :
    ofText name = ⟨0, [name]⟩ := by
  have hlead : name.toList.takeWhile (· == '/') = [] := by
    cases hname : name.toList with
    | nil => rfl
    | cons c s =>
      rw [hname] at hone
      have hne : ¬c = '/' := fun h => hone (h ▸ List.mem_cons_self)
      simp [hne]
  rw [ofText, hlead, parts_eq_self hone]
  simp [hname]

theorem text_name {name : String} : (⟨0, [name]⟩ : Path).text = name := by
  rw [← String.toList_inj]
  simp [text]

theorem toList_text_ofPlace (place : Place) :
    (ofPlace place).text.toList = '/' :: ['/'].intercalate (place.map String.toList) := by
  simp [text, ofPlace, String.toList_intercalate]

theorem parts_text_ofPlace {place : Place} (hne : place ≠ [])
    (h : ∀ name ∈ place, '/' ∉ name.toList) : parts (ofPlace place).text = "" :: place := by
  have hpieces : Text.pieces (· == '/') (ofPlace place).text.toList =
      [] :: place.map String.toList := by
    rw [toList_text_ofPlace, Text.pieces, if_pos (beq_self_eq_true _), Text.pieces_eq_splitOnP,
      ← List.splitOn_eq_splitOnP, List.splitOn_intercalate '/' (List.forall_mem_map.2 h) (by simpa)]
  rw [parts, hpieces, List.map_cons, List.map_map]
  simp

end Path

namespace FileTree

/-- The parts of a path lead from one node down to another through directories that may be searched,
and over no link. -/
inductive Leads : Place → FileTree → FileTree → Prop where
  | here {t : FileTree} : Leads [] t t
  | inside {name : String} {place : Place} {entries : List (String × FileTree)} {t u : FileTree}
    (hname : Path.Proper name) (hchild : child? name entries = some t)
    (hlink : ∀ target, t ≠ link target) (hrest : Leads place t u) :
    Leads (name :: place) (directory entries) u

theorem Leads.proper {place : Place} {t u : FileTree} (h : Leads place t u) :
    ∀ name ∈ place, Path.Proper name := by
  induction h with
  | here => simp
  | inside hname _ _ _ ih => exact List.forall_mem_cons.2 ⟨hname, ih⟩

namespace Spot

variable {onward : Spot → List String → Except Fault Spot} {s : Spot} {name : String}
  {entries : List (String × FileTree)}

theorem walk_entry (hname : Path.Proper name) (hs : s.here = .directory entries) {t : FileTree}
    (hchild : child? name entries = some t) (hlink : ∀ target, t ≠ .link target)
    (rest : List String) :
    walk onward s (name :: rest) = walk onward ⟨t, s.here :: s.around⟩ rest := by
  obtain ⟨hempty, hdot⟩ : name ≠ "" ∧ name ≠ "." := by
    simpa [Path.isName] using hname.isName
  rw [walk, hs]
  simp only [beq_eq_false_iff_ne.2 hempty, beq_eq_false_iff_ne.2 hdot,
    beq_eq_false_iff_ne.2 hname.onward, Nat.not_lt.2 hname.fits, hchild, Bool.not_true,
    Bool.false_eq_true, if_false]

theorem walk_missing (hname : Path.Proper name) (hs : s.here = .directory entries)
    (hchild : child? name entries = none) (rest : List String) :
    walk onward s (name :: rest) = .error .missing := by
  obtain ⟨hempty, hdot⟩ : name ≠ "" ∧ name ≠ "." := by
    simpa [Path.isName] using hname.isName
  rw [walk, hs]
  simp [hempty, hdot, hname.onward, Nat.not_lt.2 hname.fits, hchild]

theorem walk_too_long (hlong : nameLimit < name.utf8ByteSize) (hname : Path.isName name = true)
    (hup : name ≠ "..") (hs : s.here = .directory entries) (rest : List String) :
    walk onward s (name :: rest) = .error .nameTooLong := by
  obtain ⟨hempty, hdot⟩ : name ≠ "" ∧ name ≠ "." := by
    simpa [Path.isName] using hname
  rw [walk, hs]
  simp [hempty, hdot, hup, hlong]

theorem walk_empty {t : FileTree} {place : Place} (h : Leads place t (.directory entries))
    (around : List FileTree) (rest : List String) :
    walk onward ⟨t, around⟩ ("" :: rest) = walk onward ⟨t, around⟩ rest := by
  cases h <;> rfl

theorem walk_of_leads {place : Place} {t u : FileTree} (h : Leads place t u)
    (around : List FileTree) (rest : List String) :
    ∃ around', walk onward ⟨t, around⟩ (place ++ rest) = walk onward ⟨u, around'⟩ rest := by
  induction h generalizing around with
  | here => exact ⟨around, rfl⟩
  | @inside name place entries t u hname hchild hlink _ ih =>
    obtain ⟨around', hwalk⟩ := ih (directory entries :: around)
    exact ⟨around', (walk_entry hname rfl hchild hlink _).trans hwalk⟩

theorem exists_follow_eq_walk (links : Nat) : ∃ onward, follow links = walk onward := by
  cases links with
  | zero => exact ⟨_, rfl⟩
  | succ links => exact ⟨_, rfl⟩

end Spot

end FileTree

namespace Host

open FileTree (Leads Spot child?)

variable {h : Host} {place : Place} {name : String} {entries : List (String × FileTree)}

theorem exists_lookUp_eq_walk (hway : Leads place h.files (.directory entries))
    (hname : Path.Proper name)
    (hsize : (Path.ofPlace (place ++ [name])).text.utf8ByteSize ≤ FileTree.pathLimit) :
    ∃ onward around, h.lookUp (Path.ofPlace (place ++ [name])).text =
      (Spot.walk onward ⟨.directory entries, around⟩ [name]).map (·.here) := by
  have hone : ∀ n ∈ place ++ [name], '/' ∉ n.toList := List.forall_mem_append.2
    ⟨fun n hn => (hway.proper n hn).one, List.forall_mem_singleton.2 hname.one⟩
  have hparts : Path.parts (Path.ofPlace (place ++ [name])).text = "" :: (place ++ [name]) :=
    Path.parts_text_ofPlace (by simp) hone
  have hhead := Path.toList_text_ofPlace (place ++ [name])
  have hrooted : Path.isRooted (Path.ofPlace (place ++ [name])).text = true := by
    rw [Path.isRooted, hhead]
    rfl
  have hne : (Path.ofPlace (place ++ [name])).text.isEmpty = false := by
    rw [← Bool.not_eq_true, String.isEmpty_iff]
    intro hempty
    rw [hempty] at hhead
    contradiction
  obtain ⟨onward, hfollow⟩ := Spot.exists_follow_eq_walk FileTree.linkLimit
  obtain ⟨around, hwalk⟩ := @Spot.walk_of_leads onward _ _ _ hway [] [name]
  refine ⟨onward, around, ?_⟩
  rw [lookUp, hne, if_neg (by simp), if_neg (Nat.not_lt.2 hsize), base, hrooted, hparts, hfollow,
    ← hwalk, ← Spot.walk_empty hway]
  rfl

theorem null_notMem_ofPlace (hway : ∀ n ∈ place, Path.Proper n) :
    '\x00' ∉ (Path.ofPlace place).text.toList := by
  rw [Path.toList_text_ofPlace]
  intro hnull
  rcases List.mem_cons.1 hnull with hnull | hnull
  · contradiction
  · rcases Text.mem_intercalate hnull with hnull | ⟨part, hpart, hnull⟩
    · contradiction
    · obtain ⟨name, hname, rfl⟩ := List.mem_map.1 hpart
      exact (hway name hname).no_null hnull

/-- In a directory that lies open there is a file exactly if the directory holds one, as long as
the entry is no link. -/
theorem isFile_entry (hway : Leads place h.files (.directory entries)) (hname : Path.Proper name)
    (hsize : (Path.ofPlace (place ++ [name])).text.utf8ByteSize ≤ FileTree.pathLimit)
    (hlink : ∀ target, child? name entries ≠ some (.link target)) :
    h.isFile (.ofPlace (place ++ [name])) = .ok ((child? name entries).any (·.isRegular)) := by
  have hnull := null_notMem_ofPlace
    (List.forall_mem_append.2 ⟨hway.proper, List.forall_mem_singleton.2 hname⟩)
  obtain ⟨onward, around, hlook⟩ := exists_lookUp_eq_walk hway hname hsize
  rw [isFile, if_neg (by simpa using hnull), hlook]
  cases hchild : child? name entries with
  | none =>
    rw [Spot.walk_missing hname rfl hchild]
    rfl
  | some t =>
    rw [Spot.walk_entry hname rfl hchild fun target ht => hlink target (by rw [hchild, ht])]
    rfl

/-- A name is too long for the system wherever the entries of the working directory can be reached,
whatever they are. -/
theorem isFile_of_long_name (hone : '/' ∉ name.toList) (hnull : '\x00' ∉ name.toList)
    (hlong : FileTree.nameLimit < name.utf8ByteSize)
    (hsize : name.utf8ByteSize ≤ FileTree.pathLimit) {around : List FileTree}
    (hdirectory : Spot.descend { here := h.files } h.directory =
      some ⟨.directory entries, around⟩) :
    h.isFile (.ofText name) = .error .nameTooLong := by
  have hne (short : String) (hshort : short.utf8ByteSize ≤ FileTree.nameLimit) : name ≠ short := by
    rintro rfl
    exact Nat.not_lt.2 hshort hlong
  have hempty : name ≠ "" := hne "" (by decide)
  have hup : name ≠ ".." := hne ".." (by decide)
  have hname : Path.isName name = true := by
    simp [Path.isName, hempty, hne "." (by decide)]
  have hrooted : Path.isRooted name = false := by
    rw [Path.isRooted, beq_eq_false_iff_ne]
    exact fun hhead => hone (List.mem_of_head? hhead)
  obtain ⟨onward, hfollow⟩ := Spot.exists_follow_eq_walk FileTree.linkLimit
  have hlook : h.lookUp name = .error .nameTooLong := by
    rw [lookUp, if_neg (by simpa using hempty), if_neg (Nat.not_lt.2 hsize), base, hrooted,
      hdirectory, Path.parts_eq_self hone, hfollow]
    exact congrArg (Except.map Spot.here) (Spot.walk_too_long hlong hname hup rfl [])
  rw [Path.ofText_name hname hone, isFile, Path.text_name, if_neg (by simpa using hnull), hlook]
  rfl

end Host

end Plateau
