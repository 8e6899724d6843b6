import PipeShell.Proofs.Wildcard.Searching
import PipeShell.Shell.Eval

/-!
# Walks through a tree

A path is followed name by name, and every link on the way is seen through. So what a path leads to
is an entry of what the path without its last name leads to. A tree whose directories have proper
names, none of them twice, therefore answers a search as a tree should; and where a directory can be
read and searched, and its entries have paths that are not too long, the names in it are its
entries.

## Main definitions

* `FileTree.IsProper`: directories have proper names, none of them twice
* `FileTree.stride`: what one name of a path leads to
* `Machine.MaySurvey`: a directory can be read and searched, and its entries can be asked for

## Main results

* `FileTree.walk_cons`: how a walk goes on behind one name
* `FileTree.walk_kept_concat`: the last name of a path
* `view_isTreelike`, `view_lists`: what a search sees of a machine's files
-/

namespace PipeShell

open Wildcard (IsVisible place entryPath)

namespace Machine

namespace FileTree

variable {t : FileTree}

/-- Directories have proper names, none of them twice. -/
structure IsProper (t : FileTree) : Prop where
  nodup : ∀ id, ((t.entries id).map Prod.fst).Nodup
  ne_empty : ∀ id, ∀ e ∈ t.entries id, e.1 ≠ ""
  no_slash : ∀ id, ∀ e ∈ t.entries id, '/' ∉ e.1.toList
  no_nul : ∀ id, ∀ e ∈ t.entries id, '\x00' ∉ e.1.toList
  length_le : ∀ id, ∀ e ∈ t.entries id, e.1.utf8ByteSize ≤ maxName

/-! ## One name -/

/-- What one name of a path leads to: a fault, a node, nothing yet, or a link. -/
inductive Stride where
  | fault (cause : Errno)
  | onto (id : NodeId)
  | missing
  | link (id : NodeId) (target : String)

/-- What one name of a path leads to from a directory. -/
def stride (t : FileTree) (current : NodeId) (part : String) : Stride :=
  match t.directory? current with
  | none => .fault .notDirectory
  | some (parent, entries) =>
    if part = "" then .onto current
    else if !t.allows current .search then .fault .noAccess
    else if part = "." then .onto current
    else if part = ".." then .onto parent
    else if maxName < part.utf8ByteSize then .fault .nameTooLong
    else match entries.lookup part with
      | none => .missing
      | some id =>
        match t.target? id with
        | none => .onto id
        | some target => .link id target

/-- How a walk goes on behind one name, if it makes no file. -/
theorem walk_cons {ending : Ending} (h : ending ≠ .created) (links : Nat) (part : String)
    (rest : List String) (current : NodeId) :
    t.walk ending links (part :: rest) current =
      match t.stride current part with
      | .fault cause => .error cause
      | .onto id => t.walk ending links rest id
      | .missing => if rest.isEmpty then .ok (.vacant current part) else .error .noEntry
      | .link id target =>
        if rest.isEmpty && ending == .kept then .ok (.node id)
        else match links with
          | 0 => .error .tooManyLinks
          | links + 1 =>
            t.walk ending links (partsOf target ++ rest)
              (if isAbsolute target then root else current) := by
  rw [walk, stride]
  cases t.directory? current with
  | none => rfl
  | some directory =>
    simp only [h, false_and, if_false]
    by_cases hempty : part = ""
    · simp only [if_pos hempty]
    by_cases hsearch : (!t.allows current .search) = true
    · simp only [if_neg hempty, if_pos hsearch]
    by_cases hdot : part = "."
    · simp only [if_neg hempty, if_neg hsearch, if_pos hdot]
    by_cases hdots : part = ".."
    · simp only [if_neg hempty, if_neg hsearch, if_neg hdot, if_pos hdots]
    by_cases hlength : maxName < part.utf8ByteSize
    · simp only [if_neg hempty, if_neg hsearch, if_neg hdot, if_neg hdots, if_pos hlength]
    simp only [if_neg hempty, if_neg hsearch, if_neg hdot, if_neg hdots, if_neg hlength]
    cases directory.2.lookup part with
    | none => rfl
    | some id =>
      dsimp only
      cases t.target? id <;> rfl

/-- What the last name of a path leads to, where a link is left alone. -/
def entry (t : FileTree) (current : NodeId) (name : String) : Except Errno Place :=
  match t.stride current name with
  | .fault cause => .error cause
  | .onto id => .ok (.node id)
  | .missing => .ok (.vacant current name)
  | .link id _ => .ok (.node id)

theorem entry_eq_ok_iff {directory id : NodeId} {name : String} (h : IsVisible name) :
    t.entry directory name = .ok (.node id) ↔ t.isDirectory directory = true ∧
      t.allows directory .search = true ∧ name.utf8ByteSize ≤ maxName ∧
        (t.entries directory).lookup name = some id := by
  unfold entry stride isDirectory entries
  cases t.directory? directory with
  | none => simp
  | some content =>
    simp only [h.ne_empty, h.ne_dot, h.ne_dots, if_false]
    by_cases hsearch : t.allows directory .search = true
    · by_cases hlength : maxName < name.utf8ByteSize
      · simp [hsearch, hlength, Nat.not_le.mpr hlength]
      · have hle := Nat.not_lt.mp hlength
        cases content.2.lookup name with
        | none => simp [hsearch, hlength]
        | some entry => cases hlink : t.target? entry <;> simp [hsearch, hlength, hlink, hle]
    · simp [hsearch]

theorem walk_followed_here {links : Nat} {current id : NodeId} :
    t.walk .followed links ["."] current = .ok (.node id) ↔
      id = current ∧ t.isDirectory current = true ∧ t.allows current .search = true := by
  rw [walk, isDirectory]
  cases t.directory? current with
  | none => simp
  | some directory =>
    simp only [walk]
    cases t.allows current .search with
    | false => simp
    | true => simpa using eq_comm

/-! ## Walks -/

/-- **The last name of a path** leads to an entry of what the names in front of it lead to. -/
theorem walk_kept_concat (name : String) (links : Nat) (parts : List String) (current : NodeId) :
    t.walk .kept links (parts ++ [name]) current =
      match t.walk .followed links parts current with
      | .ok (.node id) => t.entry id name
      | .ok (.vacant ..) => .error .noEntry
      | .error cause => .error cause := by
  have hkept : Ending.kept ≠ .created := by decide
  have hfollowed : Ending.followed ≠ .created := by decide
  induction links using Nat.strongRecOn generalizing parts current with
  | ind links ihlinks =>
    induction parts generalizing current with
    | nil =>
      rw [List.nil_append, walk_cons hkept, walk]
      dsimp only [entry]
      cases t.stride current name <;> simp [walk]
    | cons part rest ih =>
      rw [List.cons_append, walk_cons hkept, walk_cons hfollowed]
      cases t.stride current part with
      | fault cause => rfl
      | onto id => exact ih id
      | missing => cases rest <;> rfl
      | link id target =>
        cases links with
        | zero => cases rest <;> rfl
        | succ links =>
          have hbehind := ihlinks links (Nat.lt_succ_self _) (partsOf target ++ rest)
            (if isAbsolute target then root else current)
          rw [List.append_assoc] at hbehind
          cases rest <;> exact hbehind

/-- What can be followed to a node is a node itself, if only a link to it. -/
theorem exists_walk_kept {links : Nat} {parts : List String} {current id : NodeId}
    (h : t.walk .followed links parts current = .ok (.node id)) :
    ∃ kept, t.walk .kept links parts current = .ok (.node kept) := by
  have hkept : Ending.kept ≠ .created := by decide
  have hfollowed : Ending.followed ≠ .created := by decide
  induction links using Nat.strongRecOn generalizing parts current with
  | ind links ihlinks =>
    induction parts generalizing current with
    | nil => exact ⟨current, by rw [walk]⟩
    | cons part rest ih =>
      rw [walk_cons hfollowed] at h
      rw [walk_cons hkept]
      cases hstride : t.stride current part with
      | fault cause => simp [hstride] at h
      | onto next =>
        simp only [hstride] at h ⊢
        exact ih h
      | missing => cases rest <;> simp [hstride] at h
      | link entry target =>
        simp only [hstride] at h ⊢
        cases rest with
        | nil => exact ⟨entry, rfl⟩
        | cons next rest =>
          cases links with
          | zero => cases h
          | succ links => exact ihlinks links (Nat.lt_succ_self _) h

/-! ## Paths made of names -/

theorem malformed?_eq_none_iff {path : String} :
    malformed? path = none ↔
      '\x00' ∉ path.toList ∧ path ≠ "" ∧ path.utf8ByteSize < maxPath := by
  unfold malformed?
  split_ifs <;> simp_all

section Names

variable {names : List String} {name : String} {cwd id : NodeId}

theorem find_place_eq_ok_iff (h : ∀ name ∈ names, IsVisible name) {follow : Bool} :
    t.find cwd follow (place names) = .ok id ↔ malformed? (place names) = none ∧
      t.walk (if follow then .followed else .kept) maxLinks (Wildcard.segments names) cwd =
        .ok (.node id) := by
  have hrelative : isAbsolute (place names) = false := by
    obtain ⟨c, hc, hslash⟩ := Wildcard.exists_head?_place h
    simp [isAbsolute, hc, hslash]
  rw [find, resolve, Wildcard.partsOf_place h, hrelative]
  cases malformed? (place names) with
  | some cause => simp
  | none =>
    simp only [Bool.false_eq_true, if_false, true_and]
    cases t.walk (if follow then .followed else .kept) maxLinks (Wildcard.segments names) cwd with
    | error cause => simp
    | ok found => cases found <;> simp

/-- A path is well formed if the path without its last name is, and it is not too long. -/
theorem malformed?_concat_eq_none_iff (h : ∀ other ∈ names ++ [name], IsVisible other) :
    malformed? (place (names ++ [name])) = none ↔ malformed? (place names) = none ∧
      '\x00' ∉ name.toList ∧ (place (names ++ [name])).utf8ByteSize < maxPath := by
  simp only [malformed?_eq_none_iff]
  by_cases hnames : names = []
  · subst hnames
    have hname : name ≠ "" := (h name (by simp)).ne_empty
    have hpath : place ([] ++ [name]) = name := String.intercalate_singleton
    have hhere : '\x00' ∉ (place []).toList ∧ place [] ≠ "" ∧
        (place []).utf8ByteSize < maxPath := by decide
    rw [hpath]
    exact ⟨fun hwell => ⟨hhere, hwell.1, hwell.2.2⟩, fun hwell => ⟨hwell.2.1, hname, hwell.2.2⟩⟩
  · have hne : place names ≠ "" := Wildcard.place_ne_empty
      fun other hother => h other (by simp [hother])
    have hnul : '\x00' ∈ (place (names ++ [name])).toList ↔
        '\x00' ∈ (place names).toList ∨ '\x00' ∈ name.toList := by
      simp [Wildcard.place_concat hnames]
    have hlength : (place names).utf8ByteSize ≤ (place (names ++ [name])).utf8ByteSize := by
      simp [Wildcard.place_concat hnames, Nat.add_assoc]
    rw [hnul, not_or]
    constructor
    · rintro ⟨⟨hfront, hlast⟩, -, hshort⟩
      exact ⟨⟨hfront, hne, Nat.lt_of_le_of_lt hlength hshort⟩, hlast, hshort⟩
    · rintro ⟨⟨hfront, -, -⟩, hlast, hshort⟩
      exact ⟨⟨hfront, hlast⟩, Wildcard.place_ne_empty h, hshort⟩

/-- **A path leads to an entry** of the directory that the path without its last name leads to. -/
theorem find_concat_eq_ok_iff (h : ∀ other ∈ names ++ [name], IsVisible other) :
    t.find cwd false (place (names ++ [name])) = .ok id ↔
      malformed? (place (names ++ [name])) = none ∧
        ∃ directory, t.find cwd true (place names) = .ok directory ∧
          t.entry directory name = .ok (.node id) := by
  have hfront : ∀ other ∈ names, IsVisible other := fun other hother => h other (by simp [hother])
  have hname : IsVisible name := h name (by simp)
  simp only [find_place_eq_ok_iff h, find_place_eq_ok_iff hfront]
  refine and_congr_right fun hwell => ?_
  have hwell' := ((malformed?_concat_eq_none_iff h).mp hwell).1
  simp only [hwell', true_and, if_true, Bool.false_eq_true, if_false]
  by_cases hnames : names = []
  · subst hnames
    change t.walk .kept maxLinks [name] cwd = _ ↔
      ∃ directory, t.walk .followed maxLinks ["."] cwd = _ ∧ _
    have hwalk : t.walk .kept maxLinks ([] ++ [name]) cwd = t.entry cwd name := by
      rw [walk_kept_concat, walk]
    rw [List.nil_append] at hwalk
    simp only [hwalk, walk_followed_here]
    constructor
    · intro hentry
      obtain ⟨hdirectory, hsearch, -⟩ := (entry_eq_ok_iff hname).mp hentry
      exact ⟨cwd, ⟨rfl, hdirectory, hsearch⟩, hentry⟩
    · rintro ⟨directory, ⟨rfl, -⟩, hentry⟩
      exact hentry
  · rw [Wildcard.segments_of_ne_nil (by simp), Wildcard.segments_of_ne_nil hnames,
      walk_kept_concat]
    cases t.walk .followed maxLinks names cwd with
    | error cause => simp
    | ok found => cases found <;> simp

end Names

end FileTree

/-! ## Searches -/

/-- The directory can be read and searched, and its entries have paths that are not too long. -/
structure MaySurvey (m : Machine) (cwd : NodeId) (path : String) : Prop where
  readable : ∀ id, m.tree.find cwd true path = .ok id → m.tree.allows id .read = true
  searchable : ∀ id, m.tree.find cwd true path = .ok id → m.tree.allows id .search = true
  length_lt : ∀ id, m.tree.find cwd true path = .ok id →
    ∀ e ∈ m.tree.entries id, (entryPath path e.1).utf8ByteSize < FileTree.maxPath

section View

variable {m : Machine} {cwd : NodeId} {path : String}

theorem view_present_iff :
    (m.view cwd).present path = true ↔ ∃ id, m.tree.find cwd false path = .ok id := by
  change (m.tree.find cwd false path).toOption.isSome = true ↔ _
  cases m.tree.find cwd false path <;> simp [Except.toOption]

theorem view_isDirectory_iff :
    (m.view cwd).isDirectory path = true ↔
      ∃ id, m.tree.find cwd true path = .ok id ∧ m.tree.isDirectory id = true := by
  change (m.tree.find cwd true path).toOption.any m.tree.isDirectory = true ↔ _
  cases m.tree.find cwd true path <;> simp [Except.toOption]

theorem view_names_eq (m : Machine) (cwd : NodeId) (path : String) :
    (m.view cwd).names path = [] ∨
      ∃ id, m.tree.find cwd true path = .ok id ∧
        (m.view cwd).names path = (m.tree.entries id).map Prod.fst := by
  change ((m.names cwd path).toOption.getD []) = [] ∨ ∃ id, _ ∧
    (m.names cwd path).toOption.getD [] = _
  unfold names
  cases hfind : m.tree.find cwd true path with
  | error cause => exact .inl rfl
  | ok id =>
    dsimp only
    split_ifs
    · exact .inl rfl
    · exact .inl rfl
    · exact .inr ⟨id, rfl, rfl⟩

/-- **A machine's files answer a search as a tree should.** -/
theorem view_isTreelike (h : m.tree.IsProper) : (m.view cwd).IsTreelike where
  names_nodup path := by
    rcases view_names_eq m cwd path with hnames | ⟨id, -, hnames⟩
    · simp [hnames]
    · exact hnames ▸ h.nodup id
  names_proper path := by
    rcases view_names_eq m cwd path with hnames | ⟨id, -, hnames⟩
    · simp [hnames]
    · rw [hnames]
      intro name hname
      obtain ⟨e, he, rfl⟩ := List.mem_map.mp hname
      exact ⟨h.ne_empty id e he, h.no_slash id e he⟩
  isDirectory_of_present hvisible hpresent := by
    obtain ⟨id, hid⟩ := view_present_iff.mp hpresent
    obtain ⟨-, directory, hdirectory, hentry⟩ := (FileTree.find_concat_eq_ok_iff hvisible).mp hid
    exact view_isDirectory_iff.mpr ⟨directory, hdirectory,
      ((FileTree.entry_eq_ok_iff (hvisible _ (by simp))).mp hentry).1⟩
  present_of_isDirectory hvisible hdirectory := by
    obtain ⟨id, hid, -⟩ := view_isDirectory_iff.mp hdirectory
    obtain ⟨hwell, hwalk⟩ := (FileTree.find_place_eq_ok_iff hvisible).mp hid
    obtain ⟨kept, hkept⟩ := FileTree.exists_walk_kept hwalk
    exact view_present_iff.mpr ⟨kept, (FileTree.find_place_eq_ok_iff hvisible).mpr ⟨hwell, hkept⟩⟩
  length_lt_reach hvisible hdirectory := by
    obtain ⟨id, hid, -⟩ := view_isDirectory_iff.mp hdirectory
    obtain ⟨hwell, -⟩ := (FileTree.find_place_eq_ok_iff hvisible).mp hid
    have hlength := (FileTree.malformed?_eq_none_iff.mp hwell).2.2
    exact Nat.lt_of_le_of_lt (Wildcard.length_le_utf8ByteSize_place hvisible) hlength

/-- **The names in a directory are its entries**, if it can be surveyed. -/
theorem view_lists (h : m.tree.IsProper) {names : List String}
    (hvisible : ∀ name ∈ names, IsVisible name)
    (hdirectory : (m.view cwd).isDirectory (place names) = true)
    (hsurvey : m.MaySurvey cwd (place names)) : (m.view cwd).Lists (place names) := by
  obtain ⟨id, hid, hisDirectory⟩ := view_isDirectory_iff.mp hdirectory
  have hnames : (m.view cwd).names (place names) = (m.tree.entries id).map Prod.fst := by
    change (m.names cwd (place names)).toOption.getD [] = _
    simp [Machine.names, hid, hisDirectory, hsurvey.readable id hid, Except.toOption]
  intro name hname
  have hall : ∀ other ∈ names ++ [name], IsVisible other :=
    List.forall_mem_append.mpr ⟨hvisible, by simpa using hname⟩
  rw [hnames, Wildcard.entryPath_place hvisible, view_present_iff]
  simp only [FileTree.find_concat_eq_ok_iff hall, FileTree.entry_eq_ok_iff hname]
  constructor
  · intro hmem
    obtain ⟨e, he, rfl⟩ := List.mem_map.mp hmem
    have hwell := ((FileTree.find_place_eq_ok_iff hvisible).mp hid).1
    have hlength := hsurvey.length_lt id hid e he
    rw [Wildcard.entryPath_place hvisible] at hlength
    obtain ⟨entry, hlookup⟩ : ∃ entry, (m.tree.entries id).lookup e.1 = some entry := by
      rw [← Option.ne_none_iff_exists', ne_eq, List.lookup_eq_none_iff]
      exact fun hnone => by simpa using hnone e he
    exact ⟨entry, (FileTree.malformed?_concat_eq_none_iff hall).mpr
      ⟨hwell, h.no_nul id e he, hlength⟩, id, hid, hisDirectory, hsurvey.searchable id hid,
      h.length_le id e he, hlookup⟩
  · rintro ⟨entry, -, directory, hdirectory', -, -, -, hlookup⟩
    obtain rfl : id = directory := Except.ok.inj (hid.symm.trans hdirectory')
    obtain ⟨front, back, hentries, -⟩ := List.lookup_eq_some_iff.mp hlookup
    rw [hentries]
    simp

end View

end Machine

end PipeShell
