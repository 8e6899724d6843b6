import PipeShell.Proofs.Wildcard.Descending
import PipeShell.Proofs.Wildcard.Expansion

/-!
# What `**` stands for

A word of components that can be seen, one of which is `**` at least, gives way to the paths whose
names align with the components: `**` takes up any number of names, or one at least if it comes
last, and every other component one name, which it describes. The paths ascend by their bytes, and
they are all there are.

They are no set, though. A path is found once for each of its alignments, and nothing takes out the
doubles when the paths are sorted. Where one run of `**` is in the word a path has one alignment,
and comes once; where there are two runs, a path can have more, and comes as often.

## Main definitions

* `DeepWord`: a word with `**`
* `Alignment v w cuts`: names that lead to something, cut into what the components take up
* `IsDeepExpansion v w result`: the result has each path as often as it has alignments

## Main results

* `isDeepExpansion_expand`: the expansion of a word, in whatever answers as a tree
* `IsDeepExpansion.pairwise_of_single_run`: one run of `**` finds no path twice
* `deepExpansion_of_surveyed`: the expansion of a word among a machine's files
* `paths_come_twice`: two runs of `**` find a path twice
-/

namespace PipeShell

namespace Wildcard

open Text.Utf8 (encode)

variable {v : View}

/-- A word of components that can be seen, one of which is `**` at least, and no other one of which
has two stars side by side; perhaps with a slash behind the last one. -/
structure DeepWord where
  parts : List String
  directoriesOnly : Bool
  deep_mem : "**" ∈ parts
  isVisible : ∀ part ∈ parts, IsVisible part
  stars : ∀ part ∈ parts, part = "**" ∨ ¬ HasDoubleStar part.toList

/-- How the word is written. -/
def DeepWord.text (w : DeepWord) : String := written w.parts w.directoriesOnly

/-- The names lead through directories to something, and are cut into what the components take
up. -/
structure Alignment (v : View) (w : DeepWord) (cuts : List (List String)) : Prop where
  aligns : Aligns w.parts cuts
  isVisible : ∀ name ∈ cuts.flatten, IsVisible name
  directories : ∀ front, front <+: cuts.flatten → front ≠ [] → front ≠ cuts.flatten →
    v.isDirectory (place front) = true
  present : v.present (place cuts.flatten) = true
  isDirectory : w.directoriesOnly = true → v.isDirectory (place cuts.flatten) = true
  endsDeep : w.parts.getLast? = some "**" →
    cuts.getLast? ≠ some [] ∧ v.isDirectory (place cuts.flatten) = true

/-- The paths whose names align with the components of a word, each as often as it does, ascending
by their bytes; or the word itself if there is none. -/
structure IsDeepExpansion (v : View) (w : DeepWord) (result : List String) : Prop where
  mem_iff : (∃ cuts, Alignment v w cuts) → ∀ path,
    path ∈ result ↔ ∃ cuts, Alignment v w cuts ∧ path = "/".intercalate cuts.flatten
  alignments : (∃ cuts, Alignment v w cuts) → ∃ found : List (List (List String)), found.Nodup ∧
    (∀ cuts, cuts ∈ found ↔ Alignment v w cuts) ∧
    result.Perm (found.map fun cuts => "/".intercalate cuts.flatten)
  ascending : result.Pairwise fun a b => ¬ encode b < encode a
  strictly_iff : (result.Pairwise fun a b => encode a < encode b) ↔
    ∀ cuts others, Alignment v w cuts → Alignment v w others → cuts.flatten = others.flatten →
      cuts = others
  fallback : (¬ ∃ cuts, Alignment v w cuts) → result = [w.text]

/-! ## Words with `**` -/

theorem mem_toList_intercalate {sep part : String} {parts : List String} {c : Char}
    (hpart : part ∈ parts) (hc : c ∈ part.toList) : c ∈ (sep.intercalate parts).toList := by
  induction parts with
  | nil => cases hpart
  | cons first rest ih =>
    cases rest with
    | nil =>
      obtain rfl := List.mem_singleton.mp hpart
      rwa [String.intercalate_singleton]
    | cons next rest =>
      rw [String.intercalate_cons_cons, String.toList_append, String.toList_append]
      rcases List.mem_cons.mp hpart with rfl | hpart
      · exact List.mem_append_left _ (List.mem_append_left _ hc)
      · exact List.mem_append_right _ (ih hpart)

namespace DeepWord

variable (w : DeepWord)

theorem ne_nil : w.parts ≠ [] := List.ne_nil_of_mem w.deep_mem

/-- What the word asks. -/
def query : Query :=
  { absolute := false
    parts := collapse (w.parts.map componentOf)
    directoriesOnly := w.directoriesOnly }

theorem query_eq : Query.ofWord? w.text = some w.query :=
  IsComponent.ofWord?_written w.ne_nil fun part hpart =>
    ⟨(w.isVisible part hpart).ne_empty, (w.isVisible part hpart).no_slash, w.stars part hpart⟩

theorem hasWildcard_text : hasWildcard w.text = true := by
  rw [hasWildcard, List.any_eq_true]
  refine ⟨'*', ?_, rfl⟩
  rw [text, written, String.toList_append]
  exact List.mem_append_left _ (mem_toList_intercalate w.deep_mem (by decide))

end DeepWord

/-! ## Alignments -/

section Alignments

variable {w : DeepWord} {cuts others : List (List String)}

theorem walks_iff (hv : v.IsTreelike) {names : List String} (hnames : names ≠ []) :
    Walks v [] names ↔ (∀ name ∈ names, IsVisible name) ∧
      (∀ front, front <+: names → front ≠ [] → front ≠ names →
        v.isDirectory (place front) = true) ∧
      v.present (place names) = true := by
  rw [Walks, trail_iff hv hnames, and_iff_right]
  rw [List.forall₂_map_left_iff, List.forall₂_same]
  exact fun name _ => matches_star _

/-- The alignments of a word are the ways of its components, and with a slash behind it those that
lead to directories. -/
theorem alignment_iff (hv : v.IsTreelike) : Alignment v w cuts ↔ Way v [] w.parts cuts ∧
    (w.directoriesOnly = true → v.isDirectory (place cuts.flatten) = true) := by
  constructor
  · intro h
    have hwalks : Walks v [] cuts.flatten := by
      by_cases hnames : cuts.flatten = []
      · rw [hnames]
        exact .nil
      · exact (walks_iff hv hnames).mpr ⟨h.isVisible, h.directories, h.present⟩
    exact ⟨way_iff.mpr ⟨h.aligns, hwalks, h.endsDeep⟩, h.isDirectory⟩
  · rintro ⟨way, honly⟩
    obtain ⟨name, names, hflatten, -⟩ := way.exists_next w.ne_nil
    obtain ⟨haligns, hwalks, hends⟩ := way_iff.mp way
    obtain ⟨hvisible, hdirectories, hpresent⟩ := (walks_iff hv (by simp [hflatten])).mp hwalks
    exact ⟨haligns, hvisible, hdirectories, hpresent, honly, hends⟩

theorem Alignment.flatten_ne_nil (hv : v.IsTreelike) (h : Alignment v w cuts) :
    cuts.flatten ≠ [] := by
  obtain ⟨name, names, hflatten, -⟩ := ((alignment_iff hv).mp h).1.exists_next w.ne_nil
  simp [hflatten]

/-- A query finds the path of each alignment of its word. -/
theorem DeepWord.enumerates_paths (w : DeepWord) (hv : v.IsTreelike)
    (hlists : ∀ names, Visits v [] w.parts names → v.Lists (place names)) :
    Enumerates (pathFrom []) (Alignment v w) (w.query.paths v) := by
  have hsearch : Enumerates (pathFrom []) (Way v [] w.parts)
      (search v reach (collapse (w.parts.map componentOf)) (place [])) :=
    follows hv w.parts w.isVisible [] reach nofun (by simp) hlists
  have hpaths : w.query.paths v =
      if w.directoriesOnly then
        (search v reach (collapse (w.parts.map componentOf)) (place [])).filter v.isDirectory
      else search v reach (collapse (w.parts.map componentOf)) (place []) := rfl
  rw [hpaths]
  split
  case isTrue honly =>
    refine (hsearch.filter v.isDirectory).congr fun cuts => ?_
    rw [alignment_iff hv, pathFrom, List.nil_append]
    simp only [honly, forall_const]
  case isFalse honly =>
    exact hsearch.congr fun cuts => by rw [alignment_iff hv, and_iff_left fun h => absurd h honly]

end Alignments

/-! ## One run of `**` -/

section SingleRun

variable {parts front back : List String} {part : String} {cuts others : List (List String)}

theorem aligns_cons_iff (single : part ≠ "**") : Aligns (part :: parts) cuts ↔
    ∃ name rest, Matches part.toList name.toList ∧ Aligns parts rest ∧ cuts = [name] :: rest := by
  constructor
  · intro h
    cases h with
    | one _ describes rest => exact ⟨_, _, describes, rest, rfl⟩
    | run => exact absurd rfl single
    | again => exact absurd rfl single
  · rintro ⟨name, rest, describes, haligns, rfl⟩
    exact .one single describes haligns

theorem aligns_run_iff (single : parts.head? ≠ some "**") : Aligns ("**" :: parts) cuts ↔
    ∃ run rest, Aligns parts rest ∧ cuts = run :: rest := by
  constructor
  · intro h
    cases h with
    | one single => exact absurd rfl single
    | run run _ rest => exact ⟨_, _, rest, rfl⟩
    | again => exact absurd rfl single
  · rintro ⟨run, rest, haligns, rfl⟩
    exact .run run single haligns

theorem aligns_again_iff : Aligns ("**" :: "**" :: parts) cuts ↔ Aligns ("**" :: parts) cuts := by
  constructor
  · intro h
    cases h with
    | one single => exact absurd rfl single
    | run _ single => exact absurd rfl single
    | again rest => exact rest
  · exact .again

/-- A run of `**` takes up what the components behind it leave. -/
theorem Aligns.unique_of_run {count : Nat} (hback : "**" ∉ back)
    (h : Aligns (List.replicate count "**" ++ back) cuts)
    (h' : Aligns (List.replicate count "**" ++ back) others)
    (hflatten : cuts.flatten = others.flatten) : cuts = others := by
  induction count with
  | zero => rw [(h.eq_of_not_mem hback).1, (h'.eq_of_not_mem hback).1, hflatten]
  | succ count ih =>
    cases count with
    | zero =>
      have single : back.head? ≠ some "**" := fun hhead => hback (List.mem_of_mem_head? hhead)
      obtain ⟨run, cuts, hcuts, rfl⟩ := (aligns_run_iff single).mp h
      obtain ⟨run', others, hothers, rfl⟩ := (aligns_run_iff single).mp h'
      obtain ⟨hcuts, hlength⟩ := hcuts.eq_of_not_mem hback
      obtain ⟨hothers, hlength'⟩ := hothers.eq_of_not_mem hback
      obtain ⟨rfl, hrest⟩ := List.append_inj' hflatten (hlength.trans hlength'.symm)
      rw [hcuts, hothers, hrest]
    | succ count => exact ih (aligns_again_iff.mp h) (aligns_again_iff.mp h')

/-- **Where one run of `**` is among the components**, names align with them in one way. -/
theorem Aligns.unique {count : Nat} (hfront : "**" ∉ front) (hback : "**" ∉ back)
    (h : Aligns (front ++ (List.replicate count "**" ++ back)) cuts)
    (h' : Aligns (front ++ (List.replicate count "**" ++ back)) others)
    (hflatten : cuts.flatten = others.flatten) : cuts = others := by
  induction front generalizing cuts others with
  | nil => exact h.unique_of_run hback h' hflatten
  | cons part front ih =>
    obtain ⟨single, hfront⟩ := not_or.mp (mt List.mem_cons.mpr hfront)
    obtain ⟨name, cuts, -, hcuts, rfl⟩ := (aligns_cons_iff (Ne.symm single)).mp h
    obtain ⟨name', others, -, hothers, rfl⟩ := (aligns_cons_iff (Ne.symm single)).mp h'
    obtain ⟨rfl, hrest⟩ := List.cons.inj hflatten
    rw [ih hfront hcuts hothers hrest]

end SingleRun

/-! ## Expansions -/

variable {w : DeepWord} {result : List String}

/-- **The expansion of a word with `**`** in whatever answers as a tree does, as far as names are
looked for where they can be found. -/
theorem isDeepExpansion_expand (w : DeepWord) (hv : v.IsTreelike)
    (hlists : ∀ names, Visits v [] w.parts names → v.Lists (place names)) :
    IsDeepExpansion v w (expand v w.text) := by
  have hpaths := w.enumerates_paths hv hlists
  have hexpand := expand_of_query v w.hasWildcard_text w.query_eq
  have hpath : ∀ {cuts}, Alignment v w cuts → pathFrom [] cuts = "/".intercalate cuts.flatten :=
    fun h => place_of_ne_nil (h.flatten_ne_nil hv)
  have hunique : (w.query.paths v).Nodup ↔ ∀ cuts others, Alignment v w cuts →
      Alignment v w others → cuts.flatten = others.flatten → cuts = others := by
    rw [hpaths.nodup_iff]
    refine forall₄_congr fun cuts others h h' =>
      imp_congr_left ⟨fun hplace => ?_, fun hflatten => ?_⟩
    · exact place_injective h.isVisible h'.isVisible hplace
    · rw [pathFrom, pathFrom, hflatten]
  by_cases hsome : ∃ cuts, Alignment v w cuts
  · have hfound : expand v w.text = ascending (w.query.paths v) := by
      obtain ⟨cuts, h⟩ := hsome
      rw [hexpand, if_neg (List.ne_nil_of_mem (hpaths.mem_iff.mpr ⟨cuts, h, rfl⟩))]
    refine ⟨fun _ path => ?_, fun _ => ?_, ?_, ?_, fun hnone => absurd hsome hnone⟩
    · rw [hfound, mem_ascending, hpaths.mem_iff]
      exact exists_congr fun cuts => and_congr_right fun h => by rw [hpath h, eq_comm]
    · obtain ⟨found, hnodup, hmem, hvalues⟩ := hpaths
      refine ⟨found, hnodup, hmem, ?_⟩
      rw [hfound, hvalues, List.map_congr_left fun cuts hcuts => hpath ((hmem cuts).mp hcuts)]
      exact List.mergeSort_perm ..
    · rw [hfound]
      exact pairwise_not_lt_ascending _
    · rw [hfound, pairwise_ascending_iff, hunique]
  · have hnothing : w.query.paths v = [] := by
      rw [List.eq_nil_iff_forall_not_mem]
      intro path hpath
      obtain ⟨cuts, h, -⟩ := hpaths.mem_iff.mp hpath
      exact hsome ⟨cuts, h⟩
    have hstays : expand v w.text = [w.text] := by rw [hexpand, if_pos hnothing]
    refine ⟨fun h => absurd h hsome, fun h => absurd h hsome, ?_, ?_, fun _ => hstays⟩
    · simp [hstays]
    · rw [hstays]
      exact iff_of_true (List.pairwise_singleton ..) fun cuts _ h => absurd ⟨cuts, h⟩ hsome

/-- **One run of `**` finds no path twice.** -/
theorem IsDeepExpansion.pairwise_of_single_run (h : IsDeepExpansion v w result)
    {front back : List String} {count : Nat}
    (hparts : w.parts = front ++ (List.replicate count "**" ++ back)) (hfront : "**" ∉ front)
    (hback : "**" ∉ back) : result.Pairwise fun a b => encode a < encode b :=
  h.strictly_iff.mpr fun _ _ hcuts hothers =>
    (hparts ▸ hcuts.aligns).unique hfront hback (hparts ▸ hothers.aligns)

end Wildcard

namespace Machine

open Wildcard
open Text.Utf8 (encode)

/-- **The expansion of a word with `**`** among a machine's files, hidden ones among them: the paths
with names that align with the components, ascending by their bytes, each as often as they do; or
the word itself if there is none, provided that each directory that is looked into can be
surveyed. -/
theorem deepExpansion_of_surveyed {m : Machine} {cwd : NodeId} {w : DeepWord}
    (hproper : m.tree.IsProper)
    (hsurvey : ∀ names, Visits (m.view cwd) [] w.parts names → m.MaySurvey cwd (place names)) :
    IsDeepExpansion (m.view cwd) w (expand (m.view cwd) w.text) :=
  isDeepExpansion_expand w (view_isTreelike hproper) fun names visits =>
    view_lists hproper visits.walks.isVisible visits.isDirectory (hsurvey names visits)

/-! ## Directories in each other -/

/-- A machine with a directory `a`, in which is a directory `b`, in which is a directory `c`. -/
def nest : Machine :=
  Machine.onTree
    ⟨#[⟨.directory FileTree.root [("a", 1)], 0o755⟩, ⟨.directory FileTree.root [("b", 2)], 0o755⟩,
      ⟨.directory 1 [("c", 3)], 0o755⟩, ⟨.directory 2 [], 0o755⟩]⟩ []

/-- The word `**/*/**`. -/
def nestWord : DeepWord where
  parts := ["**", "*", "**"]
  directoriesOnly := false
  deep_mem := by simp
  isVisible part hpart := by
    obtain rfl | rfl | rfl : part = "**" ∨ part = "*" ∨ part = "**" := by simpa using hpart
    all_goals exact ⟨by decide, by decide, by decide⟩
  stars := by decide

theorem text_nestWord : nestWord.text = "**/*/**" := by decide

theorem entries_nest (id : NodeId) : nest.tree.entries id =
    if id = 0 then [("a", 1)]
    else if id = 1 then [("b", 2)] else if id = 2 then [("c", 3)] else [] := by
  rcases id with _ | _ | _ | _ | id
  · rfl
  · rfl
  · rfl
  · rfl
  · simp [nest, Machine.onTree, FileTree.entries, FileTree.directory?, FileTree.content?]

theorem isProper_nest : nest.tree.IsProper := by
  constructor <;> intro id <;> rw [entries_nest] <;> split_ifs <;> decide

/-- The paths of the directories. -/
theorem find_nest {count : Nat} (h : count ≤ 3) :
    nest.tree.find FileTree.root true (place (["a", "b", "c"].take count)) = .ok count := by
  interval_cases count <;> cbv

/-- There is no other directory. -/
theorem exists_take_of_isDirectory {names : List String} (hvisible : ∀ name ∈ names, IsVisible name)
    (hdirectory : (nest.view FileTree.root).isDirectory (place names) = true) :
    ∃ count ≤ 3, names = ["a", "b", "c"].take count := by
  induction names using List.reverseRecOn with
  | nil => exact ⟨0, by simp, rfl⟩
  | append_singleton names name ih =>
    have htree : (nest.view FileTree.root).IsTreelike := view_isTreelike isProper_nest
    have hpresent := htree.present_of_isDirectory hvisible hdirectory
    obtain ⟨count, hcount, rfl⟩ := ih (fun other hother => hvisible other (by simp [hother]))
      (htree.isDirectory_of_present hvisible hpresent)
    obtain ⟨id, hid⟩ := view_present_iff.mp hpresent
    obtain ⟨-, directory, hfind, hentry⟩ := (FileTree.find_concat_eq_ok_iff hvisible).mp hid
    obtain rfl : count = directory := Except.ok.inj ((find_nest hcount).symm.trans hfind)
    have hmem : (name, id) ∈ nest.tree.entries count := by
      obtain ⟨front, back, hentries, -⟩ := List.lookup_eq_some_iff.mp
        ((FileTree.entry_eq_ok_iff (hvisible name (by simp))).mp hentry).2.2.2
      simp [hentries]
    rw [entries_nest] at hmem
    refine ⟨count + 1, ?_⟩
    interval_cases count <;> simp_all

theorem maySurvey_nest {names : List String}
    (visits : Visits (nest.view FileTree.root) [] nestWord.parts names) :
    nest.MaySurvey FileTree.root (place names) := by
  obtain ⟨count, hcount, rfl⟩ :=
    exists_take_of_isDirectory visits.walks.isVisible visits.isDirectory
  have hone : ∀ id,
      nest.tree.find FileTree.root true (place (["a", "b", "c"].take count)) = .ok id →
      id = count := fun id hid => Except.ok.inj (hid.symm.trans (find_nest hcount))
  have hshort : ∀ e ∈ nest.tree.entries count,
      (place (["a", "b", "c"].take count ++ [e.1])).utf8ByteSize < FileTree.maxPath := by
    interval_cases count <;> decide
  refine ⟨fun id hid => ?_, fun id hid => ?_, fun id hid => ?_⟩
  · rw [hone id hid]
    interval_cases count <;> decide
  · rw [hone id hid]
    interval_cases count <;> decide
  · rw [hone id hid]
    simpa only [entryPath_place visits.walks.isVisible] using hshort

theorem deepExpansion_of_surveyed_nest :
    IsDeepExpansion (nest.view FileTree.root) nestWord
      (expand (nest.view FileTree.root) "**/*/**") := by
  rw [← text_nestWord]
  exact deepExpansion_of_surveyed isProper_nest fun names visits => maySurvey_nest visits

theorem isDirectory_nest {count : Nat} (h : count ≤ 3) :
    (nest.view FileTree.root).isDirectory (place (["a", "b", "c"].take count)) = true := by
  refine view_isDirectory_iff.mpr ⟨count, find_nest h, ?_⟩
  interval_cases count <;> decide

/-- However the path of the last directory is cut, it is there. -/
theorem alignment_nest {cuts : List (List String)} (haligns : Aligns nestWord.parts cuts)
    (hflatten : cuts.flatten = ["a", "b", "c"]) (hlast : cuts.getLast? ≠ some []) :
    Alignment (nest.view FileTree.root) nestWord cuts := by
  have hvisible : ∀ name ∈ ["a", "b", "c"], IsVisible name := by
    simp only [List.forall_mem_cons]
    exact ⟨⟨by decide, by decide, by decide⟩, ⟨by decide, by decide, by decide⟩,
      ⟨by decide, by decide, by decide⟩, nofun⟩
  have hwhole : (nest.view FileTree.root).isDirectory (place ["a", "b", "c"]) = true :=
    isDirectory_nest (Nat.le_refl 3)
  have hpresent : (nest.view FileTree.root).present (place (["a", "b"] ++ ["c"])) = true :=
    (view_isTreelike isProper_nest).present_of_isDirectory hvisible hwhole
  refine ⟨haligns, ?_, ?_, ?_, fun _ => ?_, fun _ => ⟨hlast, ?_⟩⟩ <;> rw [hflatten]
  · exact hvisible
  · intro front hfront _ _
    rw [List.prefix_iff_eq_take.mp hfront]
    exact isDirectory_nest hfront.length_le
  · exact hpresent
  · exact hwhole
  · exact hwhole

/-- **Two runs of `**` find a path twice**: the first may take up `a`, or leave it to the star. -/
theorem paths_come_twice :
    ¬ ∀ (m : Machine) (cwd : NodeId) (w : DeepWord), m.tree.IsProper →
      (∀ names, Visits (m.view cwd) [] w.parts names → m.MaySurvey cwd (place names)) →
      (∃ cuts, Alignment (m.view cwd) w cuts) →
      (expand (m.view cwd) w.text).Pairwise fun a b => encode a < encode b := by
  intro h
  have hexpansion : IsDeepExpansion (nest.view FileTree.root) nestWord _ :=
    isDeepExpansion_expand nestWord (view_isTreelike isProper_nest) fun names visits =>
      view_lists isProper_nest visits.walks.isVisible visits.isDirectory (maySurvey_nest visits)
  have hdown : Alignment (nest.view FileTree.root) nestWord [["a"], ["b"], ["c"]] :=
    alignment_nest (.run _ (by decide) (.one (by decide) (matches_star _)
      (.run _ (by decide) .nil)))
      rfl (by decide)
  have hhere : Alignment (nest.view FileTree.root) nestWord [[], ["a"], ["b", "c"]] :=
    alignment_nest (.run _ (by decide) (.one (by decide) (matches_star _)
      (.run _ (by decide) .nil)))
      rfl (by decide)
  have hstrictly := h nest FileTree.root nestWord isProper_nest (fun _ => maySurvey_nest) ⟨_, hdown⟩
  exact absurd (hexpansion.strictly_iff.mp hstrictly _ _ hdown hhere rfl) (by decide)

end Machine

end PipeShell
