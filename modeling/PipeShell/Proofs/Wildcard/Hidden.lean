import PipeShell.Proofs.Wildcard.Expansion

/-!
# Words that begin with a dot

A component that describes names is not compared with names that begin with a dot, so that `*` does
not find what is hidden. They are left out before the component is looked at, which makes no
difference whether it begins with a dot itself. A word of one component that begins with a dot
describes no other names, though, and so it never finds an entry: it gives way to those of `.` and
`..` that it describes, written `./.` and `./..`, or stays as it is.

## Main definitions

* `FindsDots v word`: the word describes one of the entries `.` and `..`
* `IsDotExpansion v word result`: the result is the list of these two, or the word

## Main results

* `isDotExpansion_expand`: what takes the place of a word that begins with a dot
* `hidden_is_missed`: an entry that the word describes is not found
-/

namespace PipeShell

namespace Wildcard

open Text.Utf8 (encode)

variable {v : View} {word : String}

/-- The word describes one of the entries `.` and `..` of the working directory. -/
def FindsDots (v : View) (word : String) : Prop :=
  v.isDirectory "." = true ∧ ∃ name ∈ [".", ".."], Matches word.toList name.toList

/-- Those of the entries `.` and `..` that the word describes, ascending by their bytes, or the word
itself if there is none. No entry with a name of its own is among them. -/
structure IsDotExpansion (v : View) (word : String) (result : List String) : Prop where
  ascending : FindsDots v word → result.Pairwise fun a b => encode a < encode b
  mem_iff : FindsDots v word → ∀ path, path ∈ result ↔
    ∃ name ∈ [".", ".."], Matches word.toList name.toList ∧ path = "./" ++ name
  fallback : ¬ FindsDots v word → result = [word]
  mem_entry_iff : ∀ name : String, '/' ∉ name.toList →
    (name ∈ result ↔ name = word ∧ ¬ FindsDots v word)

/-! ## Descriptions that begin with a dot -/

/-- A dot in front of a component stands for a dot in front of the name. -/
theorem Matches.head?_eq_dot {cs name : List Char} (h : Matches cs name)
    (hdot : cs.head? = some '.') : name.head? = some '.' := by
  cases h <;> simp_all

/-- The name of an entry is not described by a component that begins with a dot, if it is one that a
search looks at. -/
theorem filter_visible_eq_nil (hdot : word.toList.head? = some '.') (path : String) :
    ((v.visible path).filter fun name =>
      Pattern.isMatch (word.toList.map tokenOf) name.toList) = [] := by
  rw [List.filter_eq_nil_iff]
  intro name hname hmatch
  have hseen : ¬ name.startsWith "." = true := by
    simpa using (List.mem_filter.mp hname).2
  rw [startsWith_dot_iff] at hseen
  exact hseen ((isMatch_map_tokenOf.mp hmatch).head?_eq_dot hdot)

theorem mem_specials_iff (hdot : word.toList.head? = some '.') {name : String} :
    name ∈ specials (word.toList.map tokenOf) ↔
      name ∈ [".", ".."] ∧ Matches word.toList name.toList := by
  have hhead : (word.toList.map tokenOf).head? = some (.char '.') := by
    rw [List.head?_map, hdot]
    rfl
  rw [specials, if_pos hhead, List.mem_filter, isMatch_map_tokenOf]

theorem nodup_specials (pattern : Pattern) : (specials pattern).Nodup := by
  unfold specials
  split
  · exact List.Nodup.filter _ (by decide)
  · exact List.nodup_nil

theorem join_here (name : String) : join "." name = "./" ++ name := by
  have hslash : ".".endsWith "/" = false := by
    rw [← Bool.not_eq_true, endsWith_slash_iff]
    decide
  rw [join, hslash, if_neg Bool.false_ne_true]
  rfl

/-! ## Expansions -/

/-- Those of the entries `.` and `..` of the working directory that the word describes. -/
def dots (v : View) (word : String) : List String :=
  if v.isDirectory "." then (specials (word.toList.map tokenOf)).map ("./" ++ ·) else []

theorem nodup_dots (v : View) (word : String) : (dots v word).Nodup := by
  unfold dots
  split
  · refine (nodup_specials _).map fun a b hab => ?_
    have hlist := congrArg String.toList hab
    simp only [String.toList_append, List.append_right_inj] at hlist
    exact String.toList_injective hlist
  · exact List.nodup_nil

theorem not_isLiteral_of_hasWildcard {word : String} (h : hasWildcard word = true) :
    ¬ IsLiteral word.toList := by
  obtain ⟨c, hc, hwild⟩ := List.any_eq_true.mp h
  simp only [IsLiteral, Bool.not_eq_false, List.any_eq_true]
  exact ⟨c, hc, by simp only [isSpecial, hwild, Bool.true_or]⟩

section Dot

variable (hdot : word.toList.head? = some '.')
include hdot

theorem mem_dots_iff {path : String} : path ∈ dots v word ↔ v.isDirectory "." = true ∧
    ∃ name ∈ [".", ".."], Matches word.toList name.toList ∧ path = "./" ++ name := by
  rw [dots]
  split
  case isTrue hhere =>
    simp only [hhere, true_and, List.mem_map, mem_specials_iff hdot, and_assoc, eq_comm (b := path)]
  case isFalse hhere => simp only [hhere, List.not_mem_nil, Bool.false_eq_true, false_and]

theorem dots_eq_nil_iff : dots v word = [] ↔ ¬ FindsDots v word := by
  simp only [List.eq_nil_iff_forall_not_mem, mem_dots_iff hdot]
  constructor
  · rintro hnone ⟨hhere, name, hname, hmatch⟩
    exact hnone _ ⟨hhere, name, hname, hmatch, rfl⟩
  · rintro hnone path ⟨hhere, name, hname, hmatch, -⟩
    exact hnone ⟨hhere, name, hname, hmatch⟩

/-- A word of one component that begins with a dot finds `.` and `..` only. -/
theorem paths_of_dot (v : View) :
    Query.paths ⟨false, [.described (word.toList.map tokenOf)], false⟩ v = dots v word := by
  have hjoin : join "." = ("./" ++ ·) := funext join_here
  rw [Query.paths_described, filter_visible_eq_nil hdot, List.map_nil, List.nil_append, hjoin, dots]

variable (hslash : '/' ∉ word.toList) (hwildcard : hasWildcard word = true)
  (hstars : ¬ HasDoubleStar word.toList)
include hslash hwildcard hstars

theorem expand_of_dot (v : View) :
    expand v word = if dots v word = [] then [word] else ascending (dots v word) := by
  have hne : word ≠ "" := by
    rintro rfl
    cases hdot
  have hcomponent : IsComponent word := ⟨hne, hslash, .inr hstars⟩
  have hquery : Query.ofWord? word =
      some ⟨false, [.described (word.toList.map tokenOf)], false⟩ := by
    rw [hcomponent.ofWord?_eq, componentOf_of_not_hasDoubleStar hstars, partOf,
      if_neg (not_isLiteral_of_hasWildcard hwildcard)]
  rw [expand_of_query v hwildcard hquery, paths_of_dot hdot]

/-- **What takes the place of a word that begins with a dot**, whatever is in the working directory.
An entry that it describes is there only if its name is the word itself. -/
theorem isDotExpansion_expand (v : View) : IsDotExpansion v word (expand v word) := by
  have hexpand := expand_of_dot hdot hslash hwildcard hstars v
  by_cases hfinds : FindsDots v word
  · have hfound : expand v word = ascending (dots v word) := by
      rw [hexpand, if_neg (mt (dots_eq_nil_iff hdot).mp (not_not_intro hfinds))]
    have hmem : ∀ path, path ∈ expand v word ↔
        ∃ name ∈ [".", ".."], Matches word.toList name.toList ∧ path = "./" ++ name := by
      intro path
      rw [hfound, mem_ascending, mem_dots_iff hdot, and_iff_right hfinds.1]
    refine ⟨fun _ => hfound ▸ pairwise_ascending_iff.mpr (nodup_dots v word), fun _ => hmem,
      fun hnot => absurd hfinds hnot, fun name hname => ⟨fun hentry => ?_, fun hentry => ?_⟩⟩
    · obtain ⟨special, -, -, rfl⟩ := (hmem name).mp hentry
      exact absurd (by simp) hname
    · exact absurd hfinds hentry.2
  · have hstays : expand v word = [word] := by
      rw [hexpand, if_pos ((dots_eq_nil_iff hdot).mpr hfinds)]
    exact ⟨fun h => absurd h hfinds, fun h => absurd h hfinds, fun _ => hstays,
      fun name _ => by simp [hstays, hfinds]⟩

end Dot

end Wildcard

namespace Machine

open Wildcard

/-- A machine with a file that is hidden, and no other. -/
def closet : Machine :=
  Machine.onTree ⟨#[⟨.directory FileTree.root [(".hidden", 1)], 0o755⟩, ⟨.file #[], 0o644⟩]⟩ []

/-- The word `.*` finds `.` and `..`. -/
theorem isDotExpansion_expand_closet :
    IsDotExpansion (closet.view FileTree.root) ".*" (expand (closet.view FileTree.root) ".*") :=
  isDotExpansion_expand (by decide) (by decide) (by decide) (by decide) _

/-- **An entry that is described is missed**, for all that the dot in front of its name is written
in front of the word. -/
theorem hidden_is_missed :
    ¬ ∀ (m : Machine) (cwd : NodeId) (word name : String), word.toList.head? = some '.' →
      '/' ∉ word.toList → hasWildcard word = true → ¬ HasDoubleStar word.toList →
      name ∈ (m.view cwd).names "." → name.toList.head? = some '.' →
      Matches word.toList name.toList → name ∈ expand (m.view cwd) word := by
  intro h
  have hnames : (closet.view FileTree.root).names "." = [".hidden"] := by cbv
  have hmatch : Matches ".h*".toList ".hidden".toList :=
    isMatch_map_tokenOf.mp (by decide)
  have hfound := h closet FileTree.root ".h*" ".hidden" (by decide) (by decide) (by decide)
    (by decide) (by simp [hnames]) (by decide) hmatch
  -- Neither `.` nor `..` is described, so the word stays.
  have hspecials : specials (".h*".toList.map tokenOf) = [] := by decide
  have hdots : dots (closet.view FileTree.root) ".h*" = [] := by rw [dots, hspecials]; split <;> rfl
  rw [expand_of_dot (by decide) (by decide) (by decide) (by decide), if_pos hdots] at hfound
  exact absurd hfound (by decide)

end Machine

end PipeShell
