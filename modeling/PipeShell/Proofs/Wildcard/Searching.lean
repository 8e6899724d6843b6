import PipeShell.Proofs.Wildcard.Paths

/-!
# What a search finds

A search goes through the components of a word from left to right. Each one leads from a directory
to the entries that it describes: a literal component to the one with its name, if there is one, and
any other to those among the names in the directory. So the paths that are found are the trails of
such steps, and none is found twice.

This is so in whatever answers as a tree of files does, as long as the names in a directory are
those of its entries. A directory that cannot be looked into, or whose entries cannot be asked for,
makes a difference, since a literal component asks for an entry and any other one looks for it.

## Main definitions

* `View.IsTreelike`: what is asked is answered as by a tree of files
* `View.Lists`: the names in a directory are those of its entries
* `IsNext`, `Trail`: where one component leads from a directory, and where some in a row do

## Main results

* `search_step`: one component leads to each next entry, once
* `search_trails`: a search finds every trail, once
* `expand_cases`: a word stays, or gives way to the paths that it stands for
-/

namespace PipeShell.Wildcard

/-! ## Trees -/

/-- What is asked is answered as by a tree of files: a directory has no name twice and no name with
a slash; what holds something is a directory, which is something itself; and no directory is further
down than a search goes. -/
structure View.IsTreelike (v : View) : Prop where
  names_nodup : ∀ path, (v.names path).Nodup
  names_proper : ∀ path, ∀ name ∈ v.names path, name ≠ "" ∧ '/' ∉ name.toList
  isDirectory_of_present : ∀ {names : List String} {name : String},
    (∀ other ∈ names ++ [name], IsVisible other) →
      v.present (place (names ++ [name])) = true → v.isDirectory (place names) = true
  present_of_isDirectory : ∀ {names : List String} {name : String},
    (∀ other ∈ names ++ [name], IsVisible other) →
      v.isDirectory (place (names ++ [name])) = true → v.present (place (names ++ [name])) = true
  length_lt_reach : ∀ {names : List String}, (∀ name ∈ names, IsVisible name) →
    v.isDirectory (place names) = true → names.length < reach

/-- The names in a directory that can be seen are those of its entries. -/
def View.Lists (v : View) (path : String) : Prop :=
  ∀ name, IsVisible name → (name ∈ v.names path ↔ v.present (entryPath path name) = true)

variable {v : View}

theorem View.IsTreelike.visible_iff (h : v.IsTreelike) {path name : String} :
    name ∈ v.visible path ↔ name ∈ v.names path ∧ IsVisible name := by
  rw [View.visible, List.mem_filter]
  refine and_congr_right fun hname => ?_
  rw [Bool.not_eq_true', ← Bool.not_eq_true, startsWith_dot_iff]
  obtain ⟨hempty, hslash⟩ := h.names_proper path name hname
  exact ⟨fun hdot => ⟨hempty, hslash, hdot⟩, IsVisible.no_dot⟩

/-! ## One component -/

/-- A component leads from a directory to an entry. -/
structure IsNext (v : View) (names : List String) (part name : String) : Prop where
  isVisible : IsVisible name
  describes : Matches part.toList name.toList
  isDirectory : v.isDirectory (place names) = true
  present : v.present (place (names ++ [name])) = true

section Step

variable {names : List String} {part : String} {depth : Nat} {rest : List Part}

theorem search_literal (hnames : ∀ name ∈ names, IsVisible name)
    (hpart : IsVisible part) (hliteral : IsLiteral part.toList) :
    search v depth (partOf part.toList :: rest) (place names) =
      if v.present (place (names ++ [part])) then search v depth rest (place (names ++ [part]))
      else [] := by
  have hleads : v.leads (place names) part = v.present (place (names ++ [part])) := by
    rw [View.leads, if_neg (by simp [hpart.ne_dot, hpart.ne_dots]), entryPath_place hnames]
  rw [partOf, if_pos hliteral, search, String.ofList_toList, hleads, entryPath_place hnames]

theorem search_described (hnames : ∀ name ∈ names, IsVisible name) (hpart : IsVisible part)
    (hliteral : ¬ IsLiteral part.toList) :
    search v (depth + 1) (partOf part.toList :: rest) (place names) =
      if v.isDirectory (place names) then
        ((v.visible (place names)).filter fun name =>
          Pattern.isMatch (part.toList.map tokenOf) name.toList).flatMap
            fun name => search v depth rest (place (names ++ [name]))
      else [] := by
  rw [partOf, if_neg hliteral, search, specials_map_tokenOf hpart.no_dot, List.flatMap_nil,
    List.append_nil]
  simp only [entryPath_place hnames]

/-- A literal component leads to the entry with its name. -/
theorem isNext_iff_of_isLiteral (hv : v.IsTreelike) (hnames : ∀ name ∈ names, IsVisible name)
    (hpart : IsVisible part) (hliteral : IsLiteral part.toList) {name : String} :
    IsNext v names part name ↔ name = part ∧ v.present (place (names ++ [part])) = true := by
  have hself : Matches part.toList name.toList ↔ name = part :=
    (matches_iff_of_isLiteral hliteral).trans String.toList_inj
  constructor
  · intro hnext
    obtain rfl := hself.mp hnext.describes
    exact ⟨rfl, hnext.present⟩
  · rintro ⟨rfl, hpresent⟩
    have hseen : ∀ seen ∈ names ++ [name], IsVisible seen :=
      List.forall_mem_append.mpr ⟨hnames, by simpa using hpart⟩
    exact ⟨hpart, hself.mpr rfl, hv.isDirectory_of_present hseen hpresent, hpresent⟩

/-- Any other component leads to those names in the directory that it describes. -/
theorem mem_filter_visible_iff (hv : v.IsTreelike) (hnames : ∀ name ∈ names, IsVisible name)
    (hdirectory : v.isDirectory (place names) = true) (hlists : v.Lists (place names))
    {name : String} :
    name ∈ ((v.visible (place names)).filter fun name =>
        Pattern.isMatch (part.toList.map tokenOf) name.toList) ↔ IsNext v names part name := by
  rw [List.mem_filter, hv.visible_iff, isMatch_map_tokenOf]
  constructor
  · rintro ⟨⟨hname, hvisible⟩, hmatch⟩
    refine ⟨hvisible, hmatch, hdirectory, ?_⟩
    rw [← entryPath_place hnames]
    exact (hlists name hvisible).mp hname
  · rintro ⟨hvisible, hmatch, -, hpresent⟩
    rw [← entryPath_place hnames] at hpresent
    exact ⟨⟨(hlists name hvisible).mpr hpresent, hvisible⟩, hmatch⟩

/-- **One component leads to each next entry, once.** -/
theorem search_step (hv : v.IsTreelike) (hnames : ∀ name ∈ names, IsVisible name)
    (hpart : IsVisible part) (hdepth : reach ≤ names.length + depth)
    (hlists : ¬ IsLiteral part.toList → v.isDirectory (place names) = true →
      v.Lists (place names)) (rest : List Part) :
    ∃ (found : List String) (later : Nat), reach ≤ (names.length + 1) + later ∧ found.Nodup ∧
      (∀ name, name ∈ found ↔ IsNext v names part name) ∧
      search v depth (partOf part.toList :: rest) (place names) =
        found.flatMap fun name => search v later rest (place (names ++ [name])) := by
  by_cases hliteral : IsLiteral part.toList
  · refine ⟨if v.present (place (names ++ [part])) then [part] else [], depth, by omega, ?_, ?_, ?_⟩
    · split <;> simp
    · intro name
      rw [isNext_iff_of_isLiteral hv hnames hpart hliteral]
      split <;> simp_all
    · rw [search_literal hnames hpart hliteral]
      split <;> simp
  by_cases hdirectory : v.isDirectory (place names) = true
  · -- A directory is not as far down as the search goes.
    have hlength := hv.length_lt_reach hnames hdirectory
    obtain ⟨later, rfl⟩ : ∃ later, depth = later + 1 := Nat.exists_eq_add_one.mpr (by omega)
    refine ⟨_, later, by omega, ((hv.names_nodup _).filter _).filter _, fun name =>
      mem_filter_visible_iff hv hnames hdirectory (hlists hliteral hdirectory), ?_⟩
    rw [search_described hnames hpart hliteral, if_pos hdirectory]
    rfl
  · refine ⟨[], reach, Nat.le_add_left .., List.nodup_nil, ?_, ?_⟩
    · exact fun name => ⟨nofun, fun hnext => absurd hnext.isDirectory hdirectory⟩
    · cases depth with
      | zero => simp [partOf, if_neg hliteral, search]
      | succ depth => rw [search_described hnames hpart hliteral, if_neg hdirectory]; rfl

end Step

/-! ## Components in a row -/

/-- Components in a row lead from a directory to a path, by names that come behind its own. -/
inductive Trail (v : View) : List String → List String → List String → Prop
  | nil {names} : Trail v names [] []
  | cons {names part name parts behind} (next : IsNext v names part name)
    (rest : Trail v (names ++ [name]) parts behind) : Trail v names (part :: parts) (name :: behind)

/-- The components have to look into a directory for entries, which some of them lead to. -/
def LooksInto (v : View) (start parts names : List String) : Prop :=
  ∃ front part behind, parts = front ++ part :: behind ∧ ¬ IsLiteral part.toList ∧
    Trail v start front names ∧ v.isDirectory (place (start ++ names)) = true

theorem Trail.isVisible {names parts behind : List String} (h : Trail v names parts behind) :
    ∀ name ∈ behind, IsVisible name := by
  induction h with
  | nil => nofun
  | cons next rest ih => exact List.forall_mem_cons.mpr ⟨next.isVisible, ih⟩

/-- Paths that part at a name are different. -/
theorem eq_of_place_eq {names behind others : List String} {name other : String}
    (h : ∀ seen ∈ names ++ name :: behind, IsVisible seen)
    (hothers : ∀ seen ∈ names ++ other :: others, IsVisible seen)
    (hplace : place (names ++ name :: behind) = place (names ++ other :: others)) :
    name = other :=
  (List.cons.inj (List.append_cancel_left (place_injective h hothers hplace))).1

/-- **A search finds every trail, once.** -/
theorem search_trails (hv : v.IsTreelike) (names parts : List String) (depth : Nat)
    (hnames : ∀ name ∈ names, IsVisible name) (hparts : ∀ part ∈ parts, IsVisible part)
    (hdepth : reach ≤ names.length + depth)
    (hlists : ∀ behind, LooksInto v names parts behind → v.Lists (place (names ++ behind))) :
    (search v depth (readParts parts) (place names)).Nodup ∧
      ∀ path, path ∈ search v depth (readParts parts) (place names) ↔
        ∃ behind, Trail v names parts behind ∧ path = place (names ++ behind) := by
  induction parts generalizing names depth with
  | nil =>
    change (search v depth [] (place names)).Nodup ∧
      ∀ path, path ∈ search v depth [] (place names) ↔ _
    rw [search]
    refine ⟨List.nodup_singleton _, fun path => ?_⟩
    rw [List.mem_singleton]
    constructor
    · rintro rfl
      exact ⟨[], .nil, by rw [List.append_nil]⟩
    · rintro ⟨behind, ⟨⟩, rfl⟩
      rw [List.append_nil]
  | cons part parts ih =>
    obtain ⟨found, later, hlater, hnodup, hfound, hsearch⟩ :=
      search_step hv hnames (hparts part List.mem_cons_self) hdepth
        (fun hliteral hdirectory => by
          simpa using hlists [] ⟨[], part, parts, rfl, hliteral, .nil, by simpa using hdirectory⟩)
        (readParts parts)
    -- What is found behind an entry, by the components that are left.
    have hbehind : ∀ name ∈ found,
        (search v later (readParts parts) (place (names ++ [name]))).Nodup ∧
          ∀ path, path ∈ search v later (readParts parts) (place (names ++ [name])) ↔
            ∃ behind, Trail v (names ++ [name]) parts behind ∧
              path = place (names ++ name :: behind) := by
      intro name hname
      have hnext := (hfound name).mp hname
      have hrest := ih (names ++ [name]) later
        (List.forall_mem_append.mpr ⟨hnames, by simpa using hnext.isVisible⟩)
        (fun other hother => hparts other (List.mem_cons_of_mem _ hother)) (by simpa using hlater)
        (by
          rintro behind ⟨front, other, last, hsplit, hliteral, trail, hdirectory⟩
          simpa using hlists (name :: behind) ⟨part :: front, other, last, by rw [hsplit]; rfl,
            hliteral, .cons hnext trail, by simpa using hdirectory⟩)
      simpa using hrest
    have hvisible : ∀ {name behind}, name ∈ found → Trail v (names ++ [name]) parts behind →
        ∀ seen ∈ names ++ name :: behind, IsVisible seen := fun hname trail =>
      List.forall_mem_append.mpr ⟨hnames,
        List.forall_mem_cons.mpr ⟨((hfound _).mp hname).isVisible, trail.isVisible⟩⟩
    rw [readParts_cons, hsearch]
    constructor
    · rw [List.nodup_flatMap]
      refine ⟨fun name hname => (hbehind name hname).1, ?_⟩
      refine hnodup.pairwise_of_forall_ne fun name hname other hother hne path hpath hpath' => ?_
      obtain ⟨behind, trail, rfl⟩ := ((hbehind name hname).2 path).mp hpath
      obtain ⟨others, trail', hplace⟩ := ((hbehind other hother).2 _).mp hpath'
      exact hne (eq_of_place_eq (hvisible hname trail) (hvisible hother trail') hplace)
    · intro path
      rw [List.mem_flatMap]
      constructor
      · rintro ⟨name, hname, hpath⟩
        obtain ⟨behind, trail, rfl⟩ := ((hbehind name hname).2 path).mp hpath
        exact ⟨name :: behind, .cons ((hfound name).mp hname) trail, rfl⟩
      · rintro ⟨_, ⟨⟩ | ⟨next, rest⟩, rfl⟩
        rename_i name behind
        have hname := (hfound name).mpr next
        exact ⟨name, hname, ((hbehind name hname).2 _).mpr ⟨behind, rest, rfl⟩⟩

/-! ## What a word gives way to -/

section Words

variable {word path : String} {paths : List String} {q : Query}

theorem mem_ascending : path ∈ ascending paths ↔ path ∈ paths := (List.mergeSort_perm ..).mem_iff

theorem ascending_eq_nil_iff : ascending paths = [] ↔ paths = [] := by
  simp only [List.eq_nil_iff_forall_not_mem, mem_ascending]

theorem expand_of_not_hasWildcard (v : View) (h : hasWildcard word = false) :
    expand v word = [word] := by
  simp [expand, h]

/-- A word with a wildcard gives way to the paths that it stands for, if there is one. -/
theorem expand_of_query (v : View) (hwildcard : hasWildcard word = true)
    (hquery : Query.ofWord? word = some q) :
    expand v word = if q.paths v = [] then [word] else ascending (q.paths v) := by
  simp only [expand, hwildcard, if_true, hquery]
  split
  case h_1 hnil => rw [if_pos (ascending_eq_nil_iff.mp hnil)]
  case h_2 hne => rw [if_neg fun hnil => hne (ascending_eq_nil_iff.mpr hnil)]

/-- A word stays, or it has a wildcard and gives way to the paths that it stands for. -/
theorem expand_cases (v : View) (word : String) :
    expand v word = [word] ∨ ∃ q, hasWildcard word = true ∧ Query.ofWord? word = some q ∧
      q.paths v ≠ [] ∧ expand v word = ascending (q.paths v) := by
  by_cases hwildcard : hasWildcard word = true
  · cases hquery : Query.ofWord? word with
    | none => exact .inl (by simp [expand, hwildcard, hquery])
    | some q =>
      rw [expand_of_query v hwildcard hquery]
      split
      · exact .inl rfl
      · rename_i hpaths
        exact .inr ⟨q, hwildcard, rfl, hpaths, rfl⟩
  · exact .inl (expand_of_not_hasWildcard v (Bool.eq_false_iff.mpr hwildcard))

/-- No word is lost. -/
theorem expand_ne_nil (v : View) (word : String) : expand v word ≠ [] := by
  rcases expand_cases v word with hstays | ⟨q, -, -, hpaths, hexpand⟩
  · rw [hstays]
    nofun
  · rwa [hexpand, ne_eq, ascending_eq_nil_iff]

/-- A component that describes names leads to those names, where the word has no other one. -/
theorem Query.paths_described (v : View) (pattern : Pattern) :
    Query.paths ⟨false, [.described pattern], false⟩ v =
      if v.isDirectory "." then
        ((v.visible ".").filter (pattern.isMatch ·.toList)).map (entryPath ".") ++
          (specials pattern).map (join ".")
      else [] := by
  simp only [Query.paths, Bool.false_eq_true, if_false, reach]
  rw [search]
  simp only [search, List.map_eq_flatMap]

/-- Such a word gives way to the names in the working directory that it describes. -/
theorem expand_of_described {pattern : Pattern} (hwildcard : hasWildcard word = true)
    (hquery : Query.ofWord? word = some ⟨false, [.described pattern], false⟩)
    (hspecials : specials pattern = []) (hdirectory : v.isDirectory "." = true) :
    expand v word =
      if (v.visible ".").filter (pattern.isMatch ·.toList) = [] then [word]
      else ascending (((v.visible ".").filter (pattern.isMatch ·.toList)).map (entryPath ".")) := by
  rw [expand_of_query v hwildcard hquery, Query.paths_described, if_pos hdirectory, hspecials,
    List.map_nil, List.append_nil]
  simp only [List.map_eq_nil_iff]

end Words

end PipeShell.Wildcard
