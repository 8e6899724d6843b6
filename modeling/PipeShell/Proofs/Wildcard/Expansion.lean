import PipeShell.Proofs.Machine.Walking
import PipeShell.Proofs.Text.Bytes

/-!
# What a wildcard stands for

A word of components that can be seen, one of which has a wildcard, gives way to the paths of names
that its components describe one by one: they lead through directories to something that is there.
Each of these paths comes once, they ascend by their bytes, and if there is none the word stays.

The search looks for names where a component has a wildcard or a bracket, and passes over a
directory that it cannot read, for all that the entries are there. It does see all of them where
directories can be read and searched and paths are not too long.

## Main definitions

* `Denotes v w names`: the names lead to something that the word stands for
* `IsExpansion v w result`: the result is the ascending list of all these paths, or the word

## Main results

* `isExpansion_expand`: the expansion of a word, in whatever answers as a tree
* `expansion_of_surveyed`: the expansion of a word among a machine's files
* `unread_is_unseen`: a directory that cannot be read
-/

namespace PipeShell

namespace Wildcard

open Text.Utf8 (encode)

variable {v : View}

/-- The names lead through directories to something, and each is what its component describes. -/
structure Denotes (v : View) (w : RelativeWord) (names : List String) : Prop where
  describes : List.Forall₂ (fun part name => Matches part.toList name.toList) w.parts names
  isVisible : ∀ name ∈ names, IsVisible name
  directories : ∀ front, front <+: names → front ≠ [] → front ≠ names →
    v.isDirectory (place front) = true
  present : v.present (place names) = true
  isDirectory : w.directoriesOnly = true → v.isDirectory (place names) = true

/-- The paths that a word stands for, each once and ascending by its bytes, or the word itself if
there is none. -/
structure IsExpansion (v : View) (w : RelativeWord) (result : List String) : Prop where
  ascending : (∃ names, Denotes v w names) → result.Pairwise fun a b => encode a < encode b
  mem_iff : (∃ names, Denotes v w names) →
    ∀ path, path ∈ result ↔ ∃ names, Denotes v w names ∧ path = "/".intercalate names
  fallback : (¬ ∃ names, Denotes v w names) → result = [w.text]

/-! ## Trails -/

theorem Trail.describes {start parts names : List String} (h : Trail v start parts names) :
    List.Forall₂ (fun part name => Matches part.toList name.toList) parts names := by
  induction h with
  | nil => exact .nil
  | cons next rest ih => exact .cons next.describes ih

/-- Whatever is on a trail is there, and a directory if the trail goes on. -/
theorem Trail.on_the_way {start parts names : List String} (h : Trail v start parts names) :
    (∀ front, front <+: names → front ≠ names → v.isDirectory (place (start ++ front)) = true) ∧
      ∀ front, front <+: names → front ≠ [] → v.present (place (start ++ front)) = true := by
  induction h with
  | nil =>
    refine ⟨fun front hfront hne => ?_, fun front hfront hne => ?_⟩ <;>
      simp_all [List.prefix_nil]
  | cons next rest ih =>
    rename_i start part name parts behind
    constructor
    · intro front hfront hne
      rcases List.prefix_cons_iff.mp hfront with rfl | ⟨others, rfl, hothers⟩
      · simpa using next.isDirectory
      · simpa using ih.1 others hothers (by simpa using hne)
    · intro front hfront hne
      rcases List.prefix_cons_iff.mp hfront with rfl | ⟨others, rfl, hothers⟩
      · exact absurd rfl hne
      · by_cases hempty : others = []
        · simpa [hempty] using next.present
        · simpa using ih.2 others hothers hempty

/-- Names make up a trail if they are described, and each is there, in a directory. -/
theorem trail_of_forall₂ {start parts names : List String}
    (hdescribes : List.Forall₂ (fun part name => Matches part.toList name.toList) parts names)
    (hvisible : ∀ name ∈ names, IsVisible name)
    (hdirectory : ∀ front, front <+: names → front ≠ names →
      v.isDirectory (place (start ++ front)) = true)
    (hpresent : ∀ front, front <+: names → front ≠ [] →
      v.present (place (start ++ front)) = true) : Trail v start parts names := by
  induction hdescribes generalizing start with
  | nil => exact .nil
  | cons hmatch rest ih =>
    rename_i part name parts names
    refine .cons ⟨hvisible name List.mem_cons_self, hmatch, ?_, ?_⟩ (ih ?_ ?_ ?_)
    · simpa using hdirectory [] List.nil_prefix nofun
    · exact hpresent [name] (by simp) nofun
    · exact fun other hother => hvisible other (List.mem_cons_of_mem _ hother)
    · intro front hfront hne
      simpa using hdirectory (name :: front) (List.cons_prefix_cons.mpr ⟨rfl, hfront⟩)
        (by simpa using hne)
    · intro front hfront _
      simpa using hpresent (name :: front) (List.cons_prefix_cons.mpr ⟨rfl, hfront⟩) nofun

/-- The trails of a word have names, as the word has parts. -/
theorem Trail.names_ne_nil {w : RelativeWord} {start names : List String}
    (h : Trail v start w.parts names) : names ≠ [] := by
  rintro rfl
  exact w.ne_nil (List.forall₂_nil_right_iff.mp h.describes)

/-- **A trail by its names**: they are described, and lead through directories to something. -/
theorem trail_iff (hv : v.IsTreelike) {parts names : List String} (hnames : names ≠ []) :
    Trail v [] parts names ↔
      List.Forall₂ (fun part name => Matches part.toList name.toList) parts names ∧
        (∀ name ∈ names, IsVisible name) ∧
        (∀ front, front <+: names → front ≠ [] → front ≠ names →
          v.isDirectory (place front) = true) ∧
        v.present (place names) = true := by
  constructor
  · exact fun trail => ⟨trail.describes, trail.isVisible, fun front hfront _ =>
      trail.on_the_way.1 front hfront, trail.on_the_way.2 names List.prefix_rfl hnames⟩
  · rintro ⟨hdescribes, hvisible, hdirectories, hwhole⟩
    have hseen : ∀ front, front <+: names → ∀ name ∈ front, IsVisible name :=
      fun front hfront name hname => hvisible name (hfront.subset hname)
    have hpresent : ∀ front, front <+: names → front ≠ [] → v.present (place front) = true := by
      intro front hfront hne
      by_cases hfront' : front = names
      · exact hfront' ▸ hwhole
      · obtain ⟨others, name, rfl⟩ := (List.eq_nil_or_concat' front).resolve_left hne
        exact hv.present_of_isDirectory (hseen _ hfront) (hdirectories _ hfront hne hfront')
    refine trail_of_forall₂ hdescribes hvisible (fun front hfront hne => ?_) hpresent
    by_cases hempty : front = []
    · -- The directory that the search begins in holds the first name.
      subst hempty
      obtain ⟨name, rest, rfl⟩ := List.exists_cons_of_ne_nil (Ne.symm hne)
      have hfirst : v.present (place ([] ++ [name])) = true := hpresent [name] (by simp) nofun
      exact hv.isDirectory_of_present (hseen [name] (by simp)) hfirst
    · exact hdirectories front hfront hempty hne

/-- A word stands for its trails, and with a slash behind it for those that end in directories. -/
theorem denotes_iff (hv : v.IsTreelike) {w : RelativeWord} {names : List String} :
    Denotes v w names ↔ Trail v [] w.parts names ∧
      (w.directoriesOnly = true → v.isDirectory (place names) = true) := by
  constructor
  · intro h
    have hnames : names ≠ [] := by
      rintro rfl
      exact w.ne_nil (List.forall₂_nil_right_iff.mp h.describes)
    exact ⟨(trail_iff hv hnames).mpr ⟨h.describes, h.isVisible, h.directories, h.present⟩,
      h.isDirectory⟩
  · rintro ⟨trail, honly⟩
    obtain ⟨hdescribes, hvisible, hdirectories, hpresent⟩ :=
      (trail_iff hv trail.names_ne_nil).mp trail
    exact ⟨hdescribes, hvisible, hdirectories, hpresent, honly⟩

/-! ## Expansions -/

/-- A query finds the paths that its word stands for, each once. -/
theorem RelativeWord.paths_query (w : RelativeWord) (hv : v.IsTreelike)
    (hlists : ∀ names, LooksInto v [] w.parts names → v.Lists (place names)) :
    (w.query.paths v).Nodup ∧ ∀ path, path ∈ w.query.paths v ↔
      ∃ names, Denotes v w names ∧ path = "/".intercalate names := by
  obtain ⟨hnodup, hmem⟩ := search_trails hv [] w.parts reach (by simp) w.isVisible (by simp) hlists
  have hpaths : w.query.paths v =
      if w.directoriesOnly then
        (search v reach (readParts w.parts) (place [])).filter v.isDirectory
      else search v reach (readParts w.parts) (place []) := rfl
  have hdenotes : ∀ path, (∃ names, Denotes v w names ∧ path = "/".intercalate names) ↔
      ∃ names, Trail v [] w.parts names ∧ path = place names ∧
        (w.directoriesOnly = true → v.isDirectory (place names) = true) := by
    intro path
    refine exists_congr fun names => ?_
    rw [denotes_iff hv, and_assoc, and_comm (a := _ → _)]
    refine and_congr_right fun trail => ?_
    rw [place_of_ne_nil trail.names_ne_nil]
  rw [hpaths]
  constructor
  · split
    · exact hnodup.filter _
    · exact hnodup
  · intro path
    rw [hdenotes]
    cases w.directoriesOnly with
    | false => simpa using hmem path
    | true =>
      simp only [if_true, List.mem_filter, hmem, forall_const]
      constructor
      · rintro ⟨⟨names, trail, rfl⟩, hdirectory⟩
        exact ⟨names, trail, rfl, hdirectory⟩
      · rintro ⟨names, trail, rfl, hdirectory⟩
        exact ⟨⟨names, trail, rfl⟩, hdirectory⟩

/-- Sorting makes paths ascend by their bytes. -/
theorem pairwise_not_lt_ascending (paths : List String) :
    (ascending paths).Pairwise fun a b => ¬ encode b < encode a := by
  have hsorted : (ascending paths).Pairwise fun a b => decide (a ≤ b) = true := by
    refine List.pairwise_mergeSort ?_ ?_ paths
    · intro a b c hab hbc
      exact decide_eq_true (String.le_trans (of_decide_eq_true hab) (of_decide_eq_true hbc))
    · intro a b
      simpa using String.le_total a b
  refine hsorted.imp fun {a b} hab => ?_
  rw [Text.Utf8.encode_lt_encode_iff]
  exact of_decide_eq_true hab

/-- Each path is behind the one in front of it exactly if none comes twice. -/
theorem pairwise_ascending_iff {paths : List String} :
    ((ascending paths).Pairwise fun a b => encode a < encode b) ↔ paths.Nodup := by
  rw [← (List.mergeSort_perm paths fun a b => decide (a ≤ b)).nodup_iff]
  constructor
  · refine fun hlt => hlt.imp fun {a b} hab => ?_
    rintro rfl
    exact String.lt_irrefl a (Text.Utf8.encode_lt_encode_iff.mp hab)
  · intro hdistinct
    refine ((pairwise_not_lt_ascending paths).and hdistinct).imp fun {a b} hab => ?_
    rw [Text.Utf8.encode_lt_encode_iff] at hab ⊢
    by_contra hlt
    exact hab.2 (String.lt_antisymm hlt hab.1)

/-- **The expansion of a word** in whatever answers as a tree does, as far as names are looked for
where they can be found. -/
theorem isExpansion_expand (w : RelativeWord) (hv : v.IsTreelike)
    (hlists : ∀ names, LooksInto v [] w.parts names → v.Lists (place names))
    (hwildcard : hasWildcard w.text = true) : IsExpansion v w (expand v w.text) := by
  obtain ⟨hnodup, hmem⟩ := w.paths_query hv hlists
  have hexpand := expand_of_query v hwildcard w.query_eq
  by_cases hdenotes : ∃ names, Denotes v w names
  · have hfound : expand v w.text = ascending (w.query.paths v) := by
      obtain ⟨names, h⟩ := hdenotes
      rw [hexpand, if_neg (List.ne_nil_of_mem ((hmem _).mpr ⟨names, h, rfl⟩))]
    exact ⟨fun _ => hfound ▸ pairwise_ascending_iff.mpr hnodup,
      fun _ path => by rw [hfound, mem_ascending, hmem], fun hnone => absurd hdenotes hnone⟩
  · have hnothing : w.query.paths v = [] := by
      rw [List.eq_nil_iff_forall_not_mem]
      intro path hpath
      obtain ⟨names, h, -⟩ := (hmem path).mp hpath
      exact hdenotes ⟨names, h⟩
    exact ⟨fun hsome => absurd hsome hdenotes, fun hsome => absurd hsome hdenotes,
      fun _ => by rw [hexpand, if_pos hnothing]⟩

end Wildcard

namespace Machine

open Wildcard

/-- **The expansion of a word** among a machine's files, links and hidden ones among them: the paths
that it stands for, ascending by their bytes, or the word itself if there is none, provided that
each directory in which names are looked for can be surveyed. -/
theorem expansion_of_surveyed {m : Machine} {cwd : NodeId} {w : RelativeWord}
    (hproper : m.tree.IsProper) (hwildcard : hasWildcard w.text = true)
    (hsurvey : ∀ names, LooksInto (m.view cwd) [] w.parts names → m.MaySurvey cwd (place names)) :
    IsExpansion (m.view cwd) w (expand (m.view cwd) w.text) := by
  refine isExpansion_expand w (view_isTreelike hproper) (fun names hinto => ?_) hwildcard
  have hnames := hsurvey names hinto
  obtain ⟨front, part, behind, -, -, trail, hdirectory⟩ := hinto
  exact view_lists hproper trail.isVisible hdirectory hnames

/-! ## Directories that can be read, and others -/

/-- A machine with a directory `d`, which the given permissions are for. In it are a file, a link
that leads nowhere and a file that is hidden. -/
def shelf (mode : Nat) : Machine :=
  Machine.onTree
    ⟨#[⟨.directory FileTree.root [("d", 1)], 0o755⟩,
      ⟨.directory FileTree.root [("x", 2), ("gone", 3), (".hidden", 2)], mode⟩,
      ⟨.file #[], 0o644⟩, ⟨.link "nowhere", 0o777⟩]⟩ []

theorem isVisible_shelf : ∀ name ∈ ["d", "x", "*"], IsVisible name := by
  simp only [List.forall_mem_cons]
  exact ⟨⟨by decide, by decide, by decide⟩, ⟨by decide, by decide, by decide⟩,
    ⟨by decide, by decide, by decide⟩, nofun⟩

theorem isVisible_d : ∀ name ∈ ["d"], IsVisible name := fun name hname =>
  isVisible_shelf name (by revert name; decide)

/-- The word `d/*`. -/
def shelfWord : RelativeWord where
  parts := ["d", "*"]
  directoriesOnly := false
  ne_nil := by simp
  isVisible part hpart := isVisible_shelf part (by revert part; decide)
  not_hasDoubleStar := by decide

theorem text_shelfWord : shelfWord.text = "d/*" := by decide

theorem place_shelf : place ["d"] = "d" ∧ place ["d", "x"] = "d/x" := by decide

theorem entries_shelf (mode : Nat) (id : NodeId) : (shelf mode).tree.entries id =
    if id = 0 then [("d", 1)]
    else if id = 1 then [("x", 2), ("gone", 3), (".hidden", 2)] else [] := by
  rcases id with _ | _ | _ | _ | id
  · rfl
  · rfl
  · rfl
  · rfl
  · simp [shelf, Machine.onTree, FileTree.entries, FileTree.directory?, FileTree.content?]

theorem isProper_shelf (mode : Nat) : (shelf mode).tree.IsProper := by
  constructor <;> intro id <;> rw [entries_shelf] <;> split_ifs <;> decide

theorem find_shelf (mode : Nat) :
    (shelf mode).tree.find FileTree.root true "d" = .ok 1 := by cbv

/-- Names are looked for in `d` only. -/
theorem eq_of_looksInto_shelf {mode : Nat} {names : List String}
    (h : LooksInto ((shelf mode).view FileTree.root) [] shelfWord.parts names) : names = ["d"] := by
  obtain ⟨front, part, behind, hsplit, hliteral, trail, -⟩ := h
  change ["d", "*"] = front ++ part :: behind at hsplit
  rcases front with _ | ⟨first, _ | ⟨second, front⟩⟩
  · obtain ⟨rfl, -⟩ := List.cons.inj hsplit
    exact absurd (by decide) hliteral
  · obtain ⟨rfl, -⟩ := List.cons.inj hsplit
    cases trail with
    | cons next rest =>
      cases rest
      have hname := (matches_iff_of_isLiteral (by decide)).mp next.describes
      rw [String.toList_injective hname]
  · simp at hsplit

theorem maySurvey_shelf : (shelf 0o755).MaySurvey FileTree.root "d" := by
  have hone : ∀ id, (shelf 0o755).tree.find FileTree.root true "d" = .ok id → id = 1 :=
    fun id hid => Except.ok.inj (hid.symm.trans (find_shelf _))
  have hpaths : ∀ e ∈ [("x", 2), ("gone", 3), (".hidden", 2)],
      (entryPath "d" e.1).utf8ByteSize < FileTree.maxPath := by
    have hplace := entryPath_place isVisible_d
    rw [place_shelf.1] at hplace
    simp only [hplace]
    decide
  refine ⟨fun id hid => ?_, fun id hid => ?_, fun id hid => ?_⟩
  · rw [hone id hid]
    decide
  · rw [hone id hid]
    decide
  · rw [hone id hid]
    exact hpaths

theorem expansion_of_surveyed_shelf :
    IsExpansion ((shelf 0o755).view FileTree.root) shelfWord
      (expand ((shelf 0o755).view FileTree.root) "d/*") := by
  rw [← text_shelfWord]
  refine expansion_of_surveyed (isProper_shelf _) (by decide) fun names h => ?_
  rw [eq_of_looksInto_shelf h, place_shelf.1]
  exact maySurvey_shelf

/-- Where `d` may be searched and not read, `d/x` is there. -/
theorem denotes_shelf : Denotes ((shelf 0o111).view FileTree.root) shelfWord ["d", "x"] where
  describes := .cons (.same (by decide) (by decide) .nil) (.cons (.run ['x'] .nil) .nil)
  isVisible name hname := isVisible_shelf name (by revert name; decide)
  directories front hfront hne hwhole := by
    have hdirectory : ((shelf 0o111).view FileTree.root).isDirectory "d" = true := by cbv
    obtain rfl : front = ["d"] := by
      rcases List.prefix_cons_iff.mp hfront with rfl | ⟨rest, rfl, hrest⟩
      · exact absurd rfl hne
      rcases List.prefix_cons_iff.mp hrest with rfl | ⟨behind, rfl, hbehind⟩
      · rfl
      · rw [List.prefix_nil.mp hbehind] at hwhole
        exact absurd rfl hwhole
    rw [place_shelf.1]
    exact hdirectory
  present := by
    have hpresent : ((shelf 0o111).view FileTree.root).present "d/x" = true := by cbv
    rw [place_shelf.2]
    exact hpresent
  isDirectory := nofun

/-- Names are looked for in vain then, and the word stays. -/
theorem expand_shelf : expand ((shelf 0o111).view FileTree.root) shelfWord.text = ["d/*"] := by
  have hnames : ((shelf 0o111).view FileTree.root).names "d" = [] := by cbv
  have hpaths : shelfWord.query.paths ((shelf 0o111).view FileTree.root) = [] := by
    have hreach : reach = 4095 + 1 := rfl
    change search _ reach [partOf "d".toList, partOf "*".toList] (place []) = []
    rw [search_literal (by simp) (isVisible_d "d" List.mem_cons_self) (by decide), List.nil_append,
      hreach, search_described isVisible_d (isVisible_shelf "*" (by simp)) (by decide),
      place_shelf.1, View.visible, hnames]
    simp
  rw [expand_of_query _ (by decide) shelfWord.query_eq, if_pos hpaths, text_shelfWord]

/-- A directory that cannot be read is not seen into, for all that there is a file in it, and that
one can ask for the file. -/
theorem unread_is_unseen :
    ¬ ∀ (m : Machine) (cwd : NodeId) (w : RelativeWord), m.tree.IsProper →
      hasWildcard w.text = true → IsExpansion (m.view cwd) w (expand (m.view cwd) w.text) := by
  intro h
  have hexpansion := h (shelf 0o111) FileTree.root shelfWord (isProper_shelf _) (by decide)
  have hfound := (hexpansion.mem_iff ⟨_, denotes_shelf⟩ "d/x").mpr
    ⟨_, denotes_shelf, place_shelf.2.symm⟩
  rw [expand_shelf] at hfound
  exact absurd hfound (by decide)

end Machine

end PipeShell
