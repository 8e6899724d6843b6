import PipeShell.Machine.FileTree
import PipeShell.Proofs.Text.Words
import PipeShell.Proofs.Wildcard.Matching

/-!
# Paths and the names in them

The path of an entry below the working directory is made of the names that lead to it, with slashes
between them, and the working directory itself is `.`. The names can be told from the path. A word
that describes such paths is made of its components in the same way, perhaps with a slash behind the
last one, and is read as the parts that these are.

## Main definitions

* `IsVisible name`: a name that stands between slashes and is not hidden
* `place names`: the path that the names lead to
* `RelativeWord`: a word of such components, and `RelativeWord.query` what it asks
* `IsComponent`, `written`: what may stand between slashes, and a word made of it

## Main results

* `place_injective`: the path tells the names
* `entryPath_place`: one name more leads to an entry of the directory
* `IsComponent.ofWord?_written`: what components are read as
* `RelativeWord.query_eq`: what a word without `**` and hidden names is read as
-/

namespace PipeShell.Wildcard

/-- A name that stands between slashes, and is not hidden. -/
structure IsVisible (name : String) : Prop where
  ne_empty : name ≠ ""
  no_slash : '/' ∉ name.toList
  no_dot : name.toList.head? ≠ some '.'

theorem startsWith_dot_iff {name : String} :
    name.startsWith "." = true ↔ name.toList.head? = some '.' := by
  rw [String.startsWith_string_iff, List.head?_eq_some_iff]
  exact ⟨fun ⟨rest, h⟩ => ⟨rest, h.symm⟩, fun ⟨rest, h⟩ => ⟨rest, h.symm⟩⟩

theorem endsWith_slash_iff {path : String} :
    path.endsWith "/" = true ↔ path.toList.getLast? = some '/' := by
  rw [← String.endsWith_toSlice, String.Slice.endsWith_string_iff, String.copy_toSlice,
    List.getLast?_eq_some_iff]
  exact ⟨fun ⟨front, h⟩ => ⟨front, h.symm⟩, fun ⟨front, h⟩ => ⟨front, h.symm⟩⟩

namespace IsVisible

variable {name : String}

theorem ne_dot (h : IsVisible name) : name ≠ "." := by
  rintro rfl
  exact h.no_dot rfl

theorem ne_dots (h : IsVisible name) : name ≠ ".." := by
  rintro rfl
  exact h.no_dot rfl

end IsVisible

/-! ## Places -/

/-- The names that the path has between its slashes. -/
def segments : List String → List String
  | [] => ["."]
  | names => names

/-- The path that the names lead to. -/
def place (names : List String) : String := "/".intercalate (segments names)

section Place

variable {names others : List String} {name : String}

theorem segments_of_ne_nil (h : names ≠ []) : segments names = names := by
  cases names with
  | nil => exact absurd rfl h
  | cons name rest => rfl

theorem place_of_ne_nil (h : names ≠ []) : place names = "/".intercalate names := by
  rw [place, segments_of_ne_nil h]

theorem place_concat (h : names ≠ []) (name : String) :
    place (names ++ [name]) = place names ++ "/" ++ name := by
  rw [place_of_ne_nil (by simp), place_of_ne_nil h,
    String.intercalate_append_of_ne_nil h (by simp), String.intercalate_singleton]

theorem isCut_place (h : ∀ name ∈ names, IsVisible name) :
    Text.IsCut '/' (segments names) (place names) := by
  refine ⟨?_, ?_, rfl⟩
  · cases names <;> nofun
  · cases names with
    | nil => simp [segments]
    | cons name rest => exact fun part hpart => (h part hpart).no_slash

theorem partsOf_place (h : ∀ name ∈ names, IsVisible name) :
    Machine.FileTree.partsOf (place names) = segments names :=
  Text.splitAt_eq_iff.mpr (isCut_place h)

/-- **The path tells the names.** -/
theorem place_injective (hnames : ∀ name ∈ names, IsVisible name)
    (hothers : ∀ name ∈ others, IsVisible name) (h : place names = place others) :
    names = others := by
  have hsegments : segments names = segments others := by
    rw [← partsOf_place hnames, ← partsOf_place hothers, h]
  -- No name that can be seen is `.`.
  have hhere : ∀ {names : List String}, (∀ name ∈ names, IsVisible name) → names ≠ ["."] := by
    rintro names hvisible rfl
    exact (hvisible "." List.mem_cons_self).ne_dot rfl
  by_cases hn : names = [] <;> by_cases ho : others = []
  · rw [hn, ho]
  · rw [hn, segments_of_ne_nil ho] at hsegments
    exact absurd hsegments.symm (hhere hothers)
  · rw [ho, segments_of_ne_nil hn] at hsegments
    exact absurd hsegments (hhere hnames)
  · rwa [segments_of_ne_nil hn, segments_of_ne_nil ho] at hsegments

theorem isHere_place_iff (h : ∀ name ∈ names, IsVisible name) :
    isHere (place names) = true ↔ names = [] := by
  have hparts : Text.splitAt '/' (place names) = segments names := partsOf_place h
  rw [isHere, hparts]
  cases names with
  | nil => simp [segments, place]
  | cons name rest =>
    have hname := h name List.mem_cons_self
    simp [segments, hname.ne_dot, hname.ne_empty]

theorem toList_ne_nil_of_mem_segments (h : ∀ name ∈ names, IsVisible name) :
    ∀ part ∈ segments names, part.toList ≠ [] := by
  cases names with
  | nil => simp [segments]
  | cons name rest => exact fun part hpart => by simpa using (h part hpart).ne_empty

/-- No slash begins the path. -/
theorem exists_head?_place (h : ∀ name ∈ names, IsVisible name) :
    ∃ c, (place names).toList.head? = some c ∧ c ≠ '/' := by
  have hcut := isCut_place h
  have hne := toList_ne_nil_of_mem_segments h
  obtain ⟨first, rest, hsegments⟩ := List.exists_cons_of_ne_nil hcut.ne_nil
  rw [hsegments] at hcut hne
  obtain ⟨c, cs, hfirst⟩ := List.exists_cons_of_ne_nil (hne first List.mem_cons_self)
  refine ⟨c, hcut.head?_of_cons (by simp [hfirst]), ?_⟩
  rintro rfl
  exact hcut.not_mem first List.mem_cons_self (by simp [hfirst])

/-- No slash ends it. -/
theorem endsWith_slash_place (h : ∀ name ∈ names, IsVisible name) :
    (place names).endsWith "/" = false := by
  have hcut := isCut_place h
  have hne := toList_ne_nil_of_mem_segments h
  obtain ⟨front, last, hsegments⟩ := (List.eq_nil_or_concat' _).resolve_left hcut.ne_nil
  rw [hsegments] at hcut hne
  obtain ⟨cs, c, hlast⟩ := (List.eq_nil_or_concat' _).resolve_left (hne last (by simp))
  have hend := hcut.getLast?_of_concat (c := c) (by simp [hlast])
  rw [← Bool.not_eq_true, endsWith_slash_iff]
  intro hslash
  obtain rfl : c = '/' := Option.some.inj (hend.symm.trans hslash)
  exact hcut.not_mem last (by simp) (by simp [hlast])

theorem place_ne_empty (h : ∀ name ∈ names, IsVisible name) : place names ≠ "" := by
  obtain ⟨c, hc, -⟩ := exists_head?_place h
  intro hempty
  simp [hempty] at hc

/-- **One name more leads to an entry of the directory.** -/
theorem entryPath_place (h : ∀ name ∈ names, IsVisible name) (name : String) :
    entryPath (place names) name = place (names ++ [name]) := by
  by_cases hnames : names = []
  · subst hnames
    rw [entryPath, if_pos ((isHere_place_iff h).mpr rfl)]
    exact String.intercalate_singleton.symm
  · rw [entryPath, if_neg (mt (isHere_place_iff h).mp hnames), join,
      if_neg (by simp [endsWith_slash_place h]), place_concat hnames]

/-- There is a byte at least in every name. -/
theorem length_le_utf8ByteSize_place (h : ∀ name ∈ names, IsVisible name) :
    names.length ≤ (place names).utf8ByteSize := by
  induction names using List.reverseRecOn with
  | nil => exact Nat.zero_le _
  | append_singleton names name ih =>
    have hname : 0 < name.utf8ByteSize := by
      have := (h name (by simp)).ne_empty
      rw [Nat.pos_iff_ne_zero]
      simpa using this
    by_cases hnames : names = []
    · subst hnames
      simpa [place, segments] using Nat.succ_le_of_lt hname
    · have := ih fun other hother => h other (by simp [hother])
      rw [place_concat hnames]
      simp
      omega

end Place

/-! ## Words -/

/-- A word of components that can be seen, without two stars side by side, and perhaps with a slash
behind the last one. -/
structure RelativeWord where
  parts : List String
  directoriesOnly : Bool
  ne_nil : parts ≠ []
  isVisible : ∀ part ∈ parts, IsVisible part
  not_hasDoubleStar : ∀ part ∈ parts, ¬ HasDoubleStar part.toList

/-- The parts that components are read as. -/
def readParts (parts : List String) : List Part := parts.map fun part => partOf part.toList

theorem readParts_cons (part : String) (parts : List String) :
    readParts (part :: parts) = partOf part.toList :: readParts parts := rfl

/-- Components with slashes between them, and perhaps one behind the last. -/
def written (parts : List String) (directoriesOnly : Bool) : String :=
  "/".intercalate parts ++ if directoriesOnly then "/" else ""

/-- How the word is written. -/
def RelativeWord.text (w : RelativeWord) : String := written w.parts w.directoriesOnly

section Escape

theorem escapeChar_ne_nil (c : Char) : escapeChar c ≠ [] := by
  unfold escapeChar
  split
  · nofun
  · split <;> nofun

/-- **Escaping does not touch the pieces of a word**, wherever it is cut, if not at its brackets. -/
theorem pieces_escape {sep : Char → Bool} (hopening : sep '[' = false) (hclosing : sep ']' = false)
    (cs : List Char) : Text.pieces sep (escape cs) = (Text.pieces sep cs).map escape := by
  induction cs with
  | nil => rfl
  | cons c cs ih =>
    rw [escape_cons]
    cases hc : sep c with
    | true =>
      have bracket : ¬ (c = '[' ∨ c = ']') := by
        rintro (rfl | rfl)
        · cases hc.symm.trans hopening
        · cases hc.symm.trans hclosing
      rw [escapeChar_of_not_bracket bracket, List.singleton_append, Text.pieces_cons_sep _ hc,
        Text.pieces_cons_sep _ hc, ih]
      rfl
    | false =>
      obtain ⟨first, behind, hcs⟩ := Text.exists_pieces_eq_cons sep cs
      have hchar : Text.pieces sep (escapeChar c) = [] ++ [escapeChar c] := by
        refine Text.pieces_of_forall_eq_false fun d hd => ?_
        by_cases bracket : c = '[' ∨ c = ']'
        · have hbrackets : d = '[' ∨ d = c ∨ d = ']' := by
            simpa [escapeChar_of_bracket bracket] using hd
          rcases hbrackets with rfl | rfl | rfl
          exacts [hopening, hc, hclosing]
        · rw [escapeChar_of_not_bracket bracket, List.mem_singleton] at hd
          rwa [hd]
      have hrest : Text.pieces sep (escape cs) = escape first :: behind.map escape := by
        rw [ih, hcs, List.map_cons]
      rw [Text.pieces_append hchar hrest, Text.pieces_cons_other _ hc, hcs, Text.grow,
        List.map_cons, escape_cons, List.nil_append]

end Escape

/-! ### Components -/

/-- What may stand between slashes in a word: `**`, or a text without two stars side by side. -/
structure IsComponent (part : String) : Prop where
  ne_empty : part ≠ ""
  no_slash : '/' ∉ part.toList
  stars : part = "**" ∨ ¬ HasDoubleStar part.toList

/-- The part that a component is read as. -/
def componentOf (part : String) : Part := if part = "**" then .deep else partOf part.toList

theorem IsVisible.isComponent {part : String} (h : IsVisible part)
    (hstars : ¬ HasDoubleStar part.toList) : IsComponent part :=
  ⟨h.ne_empty, h.no_slash, .inr hstars⟩

theorem componentOf_of_not_hasDoubleStar {part : String} (h : ¬ HasDoubleStar part.toList) :
    componentOf part = partOf part.toList := by
  rw [componentOf, if_neg]
  rintro rfl
  exact h (by decide)

theorem partOf_ne_deep (cs : List Char) : partOf cs ≠ .deep := by
  unfold partOf
  split <;> nofun

/-- Of components that are read as parts other than `**`, none is left out. -/
theorem collapse_of_forall_ne_deep {parts : List Part} (h : ∀ part ∈ parts, part ≠ .deep) :
    collapse parts = parts := by
  induction parts with
  | nil => rfl
  | cons part rest ih =>
    have hrest := ih fun other hother => h other (List.mem_cons_of_mem _ hother)
    rw [collapse, hrest]
    rintro others rfl
    exact absurd rfl (h .deep List.mem_cons_self)

namespace IsComponent

variable {part : String} {parts : List String} {directoriesOnly : Bool}

theorem ofChars?_escape_eq (h : IsComponent part) :
    Part.ofChars? (escape part.toList) = some (componentOf part) := by
  rcases h.stars with rfl | hstars
  · rfl
  · rw [ofChars?_escape_eq_partOf hstars, componentOf_of_not_hasDoubleStar hstars]

theorem mapM_ofChars?_escape (h : ∀ part ∈ parts, IsComponent part) :
    (parts.map fun part => escape part.toList).mapM Part.ofChars? =
      some (parts.map componentOf) := by
  induction parts with
  | nil => rfl
  | cons part rest ih =>
    rw [List.map_cons, List.mapM_cons, (h part List.mem_cons_self).ofChars?_escape_eq,
      ih fun other hother => h other (List.mem_cons_of_mem _ hother)]
    rfl

theorem escape_ne_nil (h : IsComponent part) : escape part.toList ≠ [] := by
  obtain ⟨c, cs, hc⟩ := List.exists_cons_of_ne_nil (by simpa using h.ne_empty : part.toList ≠ [])
  rw [hc, escape_cons]
  exact List.append_ne_nil_of_left_ne_nil (escapeChar_ne_nil c) _

theorem pieces_written (hne : parts ≠ []) (h : ∀ part ∈ parts, IsComponent part) :
    Text.pieces (· == '/') (written parts directoriesOnly).toList =
      parts.map String.toList ++ if directoriesOnly then [[]] else [] := by
  have hcut : Text.IsCut '/' (parts ++ if directoriesOnly then [""] else [])
      (written parts directoriesOnly) := by
    refine ⟨by simp [hne], ?_, ?_⟩
    · intro part hpart
      rcases List.mem_append.mp hpart with hpart | hpart
      · exact (h part hpart).no_slash
      · split at hpart <;> simp_all
    · rw [written]
      split
      · rw [String.intercalate_append_of_ne_nil hne (by simp), String.intercalate_singleton,
          String.append_empty]
        rfl
      · rw [List.append_nil, String.append_empty]
        rfl
  have hsplit := congrArg (List.map String.toList) (Text.splitAt_eq_iff.mpr hcut)
  rw [Text.splitAt, List.map_map, List.map_append] at hsplit
  rw [← List.map_id (Text.pieces _ _)]
  refine Eq.trans (List.map_congr_left fun _ _ => ?_) (hsplit.trans ?_)
  · simp
  · split <;> rfl

theorem pieces_escape_written (hne : parts ≠ []) (h : ∀ part ∈ parts, IsComponent part) :
    Text.pieces (· == '/') (escape (written parts directoriesOnly).toList) =
      (parts.map fun part => escape part.toList) ++ if directoriesOnly then [[]] else [] := by
  rw [pieces_escape rfl rfl, pieces_written hne h, List.map_append, List.map_map]
  split <;> rfl

/-- No slash begins the word. -/
theorem head?_escape_written (hne : parts ≠ []) (h : ∀ part ∈ parts, IsComponent part) :
    (escape (written parts directoriesOnly).toList).head? ≠ some '/' := by
  intro hhead
  obtain ⟨rest, hrest⟩ := List.head?_eq_some_iff.mp hhead
  obtain ⟨part, others, rfl⟩ := List.exists_cons_of_ne_nil hne
  have hpieces : Text.pieces (· == '/') (escape (written _ directoriesOnly).toList) = _ :=
    pieces_escape_written hne h
  rw [hrest, Text.pieces_cons_sep _ rfl] at hpieces
  exact (h part List.mem_cons_self).escape_ne_nil (List.cons.inj hpieces).1.symm

/-- A slash ends it if it asks for directories. -/
theorem getLast?_escape_written (hne : parts ≠ []) (h : ∀ part ∈ parts, IsComponent part) :
    (escape (written parts directoriesOnly).toList).getLast? = some '/' ↔
      directoriesOnly = true := by
  constructor
  · intro hlast
    by_contra hnot
    obtain ⟨front, hfront⟩ := List.getLast?_eq_some_iff.mp hlast
    obtain ⟨others, part, rfl⟩ := (List.eq_nil_or_concat' _).resolve_left hne
    have hpieces : Text.pieces (· == '/') (escape (written _ directoriesOnly).toList) = _ :=
      pieces_escape_written hne h
    rw [hfront, Text.pieces_append_cons rfl, if_neg hnot] at hpieces
    simp only [Text.pieces_nil, List.map_append, List.map_cons, List.map_nil,
      List.append_nil] at hpieces
    exact (h part (by simp)).escape_ne_nil (List.append_singleton_inj.mp hpieces).2.symm
  · rintro rfl
    rw [written, if_pos rfl, String.toList_append, escape_append]
    exact List.getLast?_concat ..

theorem terminated_written (hne : parts ≠ []) (h : ∀ part ∈ parts, IsComponent part) :
    Text.terminated (· == '/') (escape (written parts directoriesOnly).toList) =
      parts.map fun part => escape part.toList := by
  have hpieces : Text.pieces (· == '/') (escape (written _ directoriesOnly).toList) = _ :=
    pieces_escape_written hne h
  rw [Text.terminated, hpieces]
  cases directoriesOnly with
  | true => simp
  | false =>
    obtain ⟨others, part, rfl⟩ := (List.eq_nil_or_concat' _).resolve_left hne
    have hlast : escape part.toList ≠ [] := (h part (by simp)).escape_ne_nil
    rw [List.map_append, List.map_singleton, if_neg Bool.false_ne_true, List.append_nil,
      List.getLast?_concat]
    split
    · rename_i heq
      exact absurd (Option.some.inj heq) hlast
    · rfl

/-- **What components are read as.** -/
theorem ofWord?_written (hne : parts ≠ []) (h : ∀ part ∈ parts, IsComponent part) :
    Query.ofWord? (written parts directoriesOnly) =
      some ⟨false, collapse (parts.map componentOf), directoriesOnly⟩ := by
  have habsolute : ((escape (written parts directoriesOnly).toList).head? == some '/') = false :=
    beq_eq_false_iff_ne.mpr (head?_escape_written hne h)
  have honly : ((escape (written parts directoriesOnly).toList).getLast? == some '/') =
      directoriesOnly := by
    rw [Bool.eq_iff_iff, beq_iff_eq, getLast?_escape_written hne h]
  simp only [Query.ofWord?, habsolute, honly, Bool.false_eq_true, if_false,
    terminated_written hne h, mapM_ofChars?_escape h, Option.map_some]

/-- What a component by itself is read as. -/
theorem ofWord?_eq (h : IsComponent part) :
    Query.ofWord? part = some ⟨false, [componentOf part], false⟩ := by
  have hquery : Query.ofWord? (written [part] false) = _ :=
    ofWord?_written (List.cons_ne_nil part []) (by simpa using h)
  have htext : written [part] false = part := by simp [written]
  have hcollapse : collapse [componentOf part] = [componentOf part] := by
    rw [collapse, collapse]
    nofun
  rwa [htext, List.map_singleton, hcollapse] at hquery

end IsComponent

namespace RelativeWord

variable (w : RelativeWord)

/-- What the word asks. -/
def query : Query :=
  { absolute := false
    parts := readParts w.parts
    directoriesOnly := w.directoriesOnly }

theorem isComponent : ∀ part ∈ w.parts, IsComponent part := fun part hpart =>
  (w.isVisible part hpart).isComponent (w.not_hasDoubleStar part hpart)

/-- **What a word is read as.** None of its components is `**`. -/
theorem query_eq : Query.ofWord? w.text = some w.query := by
  have hread : w.parts.map componentOf = readParts w.parts :=
    List.map_congr_left fun part hpart =>
      componentOf_of_not_hasDoubleStar (w.not_hasDoubleStar part hpart)
  have hcollapse : collapse (readParts w.parts) = readParts w.parts := by
    refine collapse_of_forall_ne_deep fun part hpart => ?_
    obtain ⟨text, -, rfl⟩ := List.mem_map.mp hpart
    exact partOf_ne_deep _
  have hquery : Query.ofWord? (written w.parts w.directoriesOnly) = _ :=
    IsComponent.ofWord?_written w.ne_nil w.isComponent
  rwa [hread, hcollapse] at hquery

end RelativeWord

/-- What a word of one component is read as. -/
theorem ofWord?_of_isVisible {part : String} (hvisible : IsVisible part)
    (hstars : ¬ HasDoubleStar part.toList) :
    Query.ofWord? part = some ⟨false, [partOf part.toList], false⟩ := by
  rw [(hvisible.isComponent hstars).ofWord?_eq, componentOf_of_not_hasDoubleStar hstars]

end PipeShell.Wildcard
