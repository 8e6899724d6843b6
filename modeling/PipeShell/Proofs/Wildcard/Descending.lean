import PipeShell.Proofs.Wildcard.Searching

/-!
# What a search finds below directories

A component `**` leads from a directory down through directories, and the component behind it is
compared with the name of whatever is met on the way. Where nothing is behind it, the directories
that are met are found themselves. The same entry can be met in more than one way, when there is
another `**` further on: then one of the two can go down less far and the other one further. A
search follows each way once, and so finds a path as often as there are ways to it.

A way is told by the names that each component takes up, in cuts of the path: one name for most
components, and any number of them for `**`.

## Main definitions

* `Enumerates f P values`: the values of whatever fulfils a condition, one for each
* `Aligns parts cuts`: names, cut into the pieces that the components take up
* `Way v start parts cuts`: components lead from a directory to a path, by names that are cut so
* `Visits v start parts names`: a search looks into the directory that the names lead to

## Main results

* `way_iff`: a way is made of names that align with the components, through directories
* `follows`: a search follows every way, once
-/

namespace PipeShell.Wildcard

/-! ## Enumerations -/

section Enumerates

variable {α β γ : Type} {f : α → β} {P Q : α → Prop} {values others : List β}

/-- The values of whatever fulfils the condition, one for each. -/
def Enumerates (f : α → β) (P : α → Prop) (values : List β) : Prop :=
  ∃ found : List α, found.Nodup ∧ (∀ x, x ∈ found ↔ P x) ∧ values = found.map f

namespace Enumerates

theorem congr (h : Enumerates f P values) (hiff : ∀ x, P x ↔ Q x) : Enumerates f Q values := by
  obtain ⟨found, hnodup, hfound, hvalues⟩ := h
  exact ⟨found, hnodup, fun x => (hfound x).trans (hiff x), hvalues⟩

theorem nil (h : ∀ x, ¬ P x) : Enumerates f P [] :=
  ⟨[], List.nodup_nil, fun x => ⟨nofun, fun hx => absurd hx (h x)⟩, rfl⟩

theorem singleton (x : α) : Enumerates f (· = x) [f x] :=
  ⟨[x], List.nodup_singleton x, fun _ => List.mem_singleton, rfl⟩

theorem append (h : Enumerates f P values) (h' : Enumerates f Q others)
    (hdisjoint : ∀ x, P x → ¬ Q x) : Enumerates f (fun x => P x ∨ Q x) (values ++ others) := by
  obtain ⟨found, hnodup, hfound, rfl⟩ := h
  obtain ⟨found', hnodup', hfound', rfl⟩ := h'
  refine ⟨found ++ found', hnodup.append hnodup' fun x hx hx' => ?_, fun x => ?_, ?_⟩
  · exact hdisjoint x ((hfound x).mp hx) ((hfound' x).mp hx')
  · rw [List.mem_append, hfound, hfound']
  · rw [List.map_append]

/-- What is enumerated for each of some keys, if none of it is there for two of them. -/
theorem flatMap {keys : List γ} {R : γ → α → Prop} {g : γ → List β} (hnodup : keys.Nodup)
    (h : ∀ key ∈ keys, Enumerates f (R key) (g key))
    (hdisjoint : ∀ {key other x}, R key x → R other x → key = other) :
    Enumerates f (fun x => ∃ key ∈ keys, R key x) (keys.flatMap g) := by
  induction keys with
  | nil => exact nil (by simp)
  | cons key keys ih =>
    obtain ⟨hkey, hnodup⟩ := List.nodup_cons.mp hnodup
    obtain ⟨hfirst, hrest⟩ := List.forall_mem_cons.mp h
    rw [List.flatMap_cons]
    refine (hfirst.append (ih hnodup hrest) ?_).congr fun x => by simp
    rintro x hx ⟨other, hother, hx'⟩
    exact hkey (hdisjoint hx hx' ▸ hother)

/-- What is enumerated is enumerated in another form, if the form tells what it is of. -/
theorem map {f' : γ → β} {g : α → γ} (h : Enumerates f P values)
    (hinj : ∀ {x y}, P x → P y → g x = g y → x = y) (hf : ∀ {x}, P x → f' (g x) = f x) :
    Enumerates f' (fun y => ∃ x, P x ∧ y = g x) values := by
  obtain ⟨found, hnodup, hfound, rfl⟩ := h
  refine ⟨found.map g, hnodup.map_on fun x hx y hy => ?_, fun y => ?_, ?_⟩
  · exact hinj ((hfound x).mp hx) ((hfound y).mp hy)
  · simp only [List.mem_map, hfound, eq_comm (a := y)]
  · rw [List.map_map]
    exact List.map_congr_left fun x hx => (hf ((hfound x).mp hx)).symm

theorem filter (h : Enumerates f P values) (p : β → Bool) :
    Enumerates f (fun x => P x ∧ p (f x) = true) (values.filter p) := by
  obtain ⟨found, hnodup, hfound, rfl⟩ := h
  refine ⟨found.filter fun x => p (f x), hnodup.filter _, fun x => ?_, ?_⟩
  · rw [List.mem_filter, hfound]
  · rw [List.filter_map]
    rfl

theorem mem_iff (h : Enumerates f P values) {value : β} :
    value ∈ values ↔ ∃ x, P x ∧ f x = value := by
  obtain ⟨found, -, hfound, rfl⟩ := h
  simp only [List.mem_map, hfound]

/-- A value comes twice if it is that of two things. -/
theorem nodup_iff (h : Enumerates f P values) :
    values.Nodup ↔ ∀ x y, P x → P y → f x = f y → x = y := by
  obtain ⟨found, hnodup, hfound, rfl⟩ := h
  constructor
  · intro hvalues x y hx hy
    exact List.inj_on_of_nodup_map hvalues ((hfound x).mpr hx) ((hfound y).mpr hy)
  · intro hinj
    exact hnodup.map_on fun x hx y hy => hinj x y ((hfound x).mp hx) ((hfound y).mp hy)

end Enumerates

end Enumerates

/-! ## Names and components -/

variable {v : View}

/-- The names, cut into the pieces that the components take up: one name for a component, which
describes it, and any number of them for `**`. Where `**` stands more than once in a row it takes up
as much as one of them. -/
inductive Aligns : List String → List (List String) → Prop
  | nil : Aligns [] []
  | one {part name parts cuts} (single : part ≠ "**") (describes : Matches part.toList name.toList)
    (rest : Aligns parts cuts) : Aligns (part :: parts) ([name] :: cuts)
  | run (run : List String) {parts cuts} (single : parts.head? ≠ some "**")
    (rest : Aligns parts cuts) : Aligns ("**" :: parts) (run :: cuts)
  | again {parts cuts} (rest : Aligns ("**" :: parts) cuts) : Aligns ("**" :: "**" :: parts) cuts

/-- The names lead from one directory to the next, and to something at last. -/
def Walks (v : View) (start names : List String) : Prop :=
  Trail v start (names.map fun _ => "*") names

/-- Components lead from a directory to a path, by names that are cut into the pieces that the
components take up. A last `**` leads to a directory that is further down. -/
inductive Way (v : View) : List String → List String → List (List String) → Prop
  | nil {start} : Way v start [] []
  | one {start part name parts cuts} (single : part ≠ "**") (next : IsNext v start part name)
    (rest : Way v (start ++ [name]) parts cuts) : Way v start (part :: parts) ([name] :: cuts)
  | past {start part name parts cuts} (single : part ≠ "**") (next : IsNext v start part name)
    (rest : Way v (start ++ [name]) parts cuts) :
    Way v start ("**" :: part :: parts) ([] :: [name] :: cuts)
  | last {start name} (next : IsNext v start "*" name)
    (isDirectory : v.isDirectory (place (start ++ [name])) = true) : Way v start ["**"] [[name]]
  | down {start name parts run cuts} (single : parts.head? ≠ some "**")
    (next : IsNext v start "*" name)
    (rest : Way v (start ++ [name]) ("**" :: parts) (run :: cuts)) :
    Way v start ("**" :: parts) ((name :: run) :: cuts)
  | again {start parts cuts} (rest : Way v start ("**" :: parts) cuts) :
    Way v start ("**" :: "**" :: parts) cuts

section Names

variable {start names parts : List String} {part name : String} {cuts : List (List String)}

theorem matches_star (name : List Char) : Matches "*".toList name := by
  simpa using Matches.run name .nil

theorem isNext_iff : IsNext v start part name ↔
    Matches part.toList name.toList ∧ IsNext v start "*" name :=
  ⟨fun h => ⟨h.describes, h.isVisible, matches_star _, h.isDirectory, h.present⟩,
    fun ⟨hmatch, h⟩ => ⟨h.isVisible, hmatch, h.isDirectory, h.present⟩⟩

theorem walks_cons_iff : Walks v start (name :: names) ↔
    IsNext v start "*" name ∧ Walks v (start ++ [name]) names :=
  ⟨fun | .cons next rest => ⟨next, rest⟩, fun ⟨next, rest⟩ => .cons next rest⟩

theorem Walks.nil : Walks v start [] := Trail.nil

/-- Components that none of is `**` take up one name each. -/
theorem Aligns.eq_of_not_mem (h : Aligns parts cuts) (hparts : "**" ∉ parts) :
    cuts = cuts.flatten.map ([·]) ∧ cuts.flatten.length = parts.length := by
  induction h with
  | nil => exact ⟨rfl, rfl⟩
  | one single describes rest ih =>
    obtain ⟨hcuts, hlength⟩ := ih fun hmem => hparts (List.mem_cons_of_mem _ hmem)
    constructor
    · rw [List.flatten_cons, List.singleton_append, List.map_cons, ← hcuts]
    · simp [hlength]
  | run => exact absurd List.mem_cons_self hparts
  | again => exact absurd List.mem_cons_self hparts

/-! ### What is taken up first -/

theorem Way.exists_run (h : Way v start ("**" :: parts) cuts) :
    ∃ run rest, cuts = run :: rest := by
  generalize hwhole : "**" :: parts = whole at h
  induction h generalizing parts with
  | nil => cases hwhole
  | one => exact ⟨_, _, rfl⟩
  | past => exact ⟨_, _, rfl⟩
  | last => exact ⟨_, _, rfl⟩
  | down => exact ⟨_, _, rfl⟩
  | again rest ih => exact ih rfl

/-- The first name that is taken up leads to an entry. -/
theorem Way.exists_next (h : Way v start parts cuts) (hparts : parts ≠ []) :
    ∃ name names, cuts.flatten = name :: names ∧ IsNext v start "*" name := by
  induction h with
  | nil => exact absurd rfl hparts
  | one single next rest => exact ⟨_, _, rfl, (isNext_iff.mp next).2⟩
  | past single next rest => exact ⟨_, _, rfl, (isNext_iff.mp next).2⟩
  | last next isDirectory => exact ⟨_, _, rfl, next⟩
  | down single next rest => exact ⟨_, _, rfl, next⟩
  | again rest ih => exact ih (by simp)

theorem Way.isDirectory (h : Way v start parts cuts) (hparts : parts ≠ []) :
    v.isDirectory (place start) = true := by
  obtain ⟨name, names, -, next⟩ := h.exists_next hparts
  exact IsNext.isDirectory next

theorem way_nil_iff : Way v start [] cuts ↔ cuts = [] :=
  ⟨fun | .nil => rfl, fun h => h ▸ .nil⟩

theorem way_cons_iff (single : part ≠ "**") : Way v start (part :: parts) cuts ↔
    ∃ name, IsNext v start part name ∧
      ∃ rest, Way v (start ++ [name]) parts rest ∧ cuts = [name] :: rest := by
  constructor
  · intro h
    cases h with
    | one _ next rest => exact ⟨_, next, _, rest, rfl⟩
    | past => exact absurd rfl single
    | last => exact absurd rfl single
    | down => exact absurd rfl single
    | again => exact absurd rfl single
  · rintro ⟨name, next, rest, way, rfl⟩
    exact .one single next way

theorem way_again_iff :
    Way v start ("**" :: "**" :: parts) cuts ↔ Way v start ("**" :: parts) cuts := by
  constructor
  · intro h
    cases h with
    | one single => exact absurd rfl single
    | past single => exact absurd rfl single
    | down single => exact absurd rfl single
    | again rest => exact rest
  · exact .again

/-- `**` is left at the name, which the component behind it describes, or which is a directory where
no component is behind. -/
def Turns (v : View) (start : List String) (name : String) : List String → List (List String) → Prop
  | [], cuts => v.isDirectory (place (start ++ [name])) = true ∧ cuts = [[name]]
  | part :: parts, cuts => IsNext v start part name ∧
      ∃ rest, Way v (start ++ [name]) parts rest ∧ cuts = [] :: [name] :: rest

/-- `**` goes down to an entry, or is left there. -/
theorem way_deep_iff (single : parts.head? ≠ some "**") : Way v start ("**" :: parts) cuts ↔
    ∃ name, IsNext v start "*" name ∧
      ((∃ rest, Way v (start ++ [name]) ("**" :: parts) rest ∧
          cuts = rest.modifyHead (name :: ·)) ∨
        Turns v start name parts cuts) := by
  constructor
  · intro h
    cases h with
    | one single => exact absurd rfl single
    | past _ next rest => exact ⟨_, (isNext_iff.mp next).2, .inr ⟨next, _, rest, rfl⟩⟩
    | last next isDirectory => exact ⟨_, next, .inr ⟨isDirectory, rfl⟩⟩
    | down _ next rest => exact ⟨_, next, .inl ⟨_, rest, rfl⟩⟩
    | again => exact absurd rfl single
  · rintro ⟨name, next, ⟨rest, way, rfl⟩ | hturn⟩
    · obtain ⟨run, cuts, rfl⟩ := way.exists_run
      exact .down single next way
    · cases parts with
      | nil =>
        obtain ⟨hdirectory, rfl⟩ := hturn
        exact .last next hdirectory
      | cons part parts =>
        obtain ⟨next, rest, way, rfl⟩ := hturn
        exact .past (by simpa using single) next way

end Names

/-! ### Ways by their names -/

section Ways

variable {start names parts run : List String} {part name : String} {cuts : List (List String)}

/-- A last `**` takes up names, and leads to a directory. -/
def EndsDeep (v : View) (start parts : List String) (cuts : List (List String)) : Prop :=
  parts.getLast? = some "**" →
    cuts.getLast? ≠ some [] ∧ v.isDirectory (place (start ++ cuts.flatten)) = true

theorem Aligns.ne_nil (h : Aligns parts cuts) (hparts : parts ≠ []) : cuts ≠ [] := by
  induction h with
  | nil => exact absurd rfl hparts
  | one => nofun
  | run => nofun
  | again rest ih => exact ih nofun

theorem Aligns.getLast?_cons (h : Aligns parts cuts) (hparts : parts ≠ []) (part : String)
    (cut : List String) :
    (part :: parts).getLast? = parts.getLast? ∧ (cut :: cuts).getLast? = cuts.getLast? := by
  obtain ⟨first, others, rfl⟩ := List.exists_cons_of_ne_nil hparts
  obtain ⟨piece, pieces, rfl⟩ := List.exists_cons_of_ne_nil (h.ne_nil hparts)
  exact ⟨List.getLast?_cons_cons, List.getLast?_cons_cons⟩

/-- The end is the same with one component more in front. -/
theorem endsDeep_one_iff (h : Aligns parts cuts) (single : part ≠ "**") :
    EndsDeep v start (part :: parts) ([name] :: cuts) ↔
      EndsDeep v (start ++ [name]) parts cuts := by
  unfold EndsDeep
  by_cases hparts : parts = []
  · subst hparts
    simp [single]
  · obtain ⟨hpart, hcut⟩ := h.getLast?_cons hparts part [name]
    simp only [hpart, hcut, List.flatten_cons, List.append_assoc, List.singleton_append]

/-- The end is the same if `**` takes up nothing. -/
theorem endsDeep_past_iff (h : Aligns parts cuts) (hparts : parts ≠ []) :
    EndsDeep v start ("**" :: parts) ([] :: cuts) ↔ EndsDeep v start parts cuts := by
  obtain ⟨hpart, hcut⟩ := h.getLast?_cons hparts "**" []
  unfold EndsDeep
  rw [hpart, hcut, List.flatten_cons, List.nil_append]

/-- The end is the same if `**` takes up one name more. -/
theorem endsDeep_down_iff (h : Aligns parts cuts) (hmore : run ≠ [] ∨ parts ≠ []) :
    EndsDeep v start ("**" :: parts) ((name :: run) :: cuts) ↔
      EndsDeep v (start ++ [name]) ("**" :: parts) (run :: cuts) := by
  unfold EndsDeep
  by_cases hparts : parts = []
  · subst hparts
    cases h
    simp [hmore.resolve_right (not_not_intro rfl)]
  · obtain ⟨hpart, hcut⟩ := h.getLast?_cons hparts "**" run
    obtain ⟨-, hcut'⟩ := h.getLast?_cons hparts "**" (name :: run)
    simp only [hpart, hcut, hcut', List.flatten_cons, List.append_assoc, List.cons_append,
      List.nil_append]

theorem Way.aligns (h : Way v start parts cuts) : Aligns parts cuts := by
  induction h with
  | nil => exact .nil
  | one single next rest ih => exact .one single next.describes ih
  | past single next rest ih =>
    exact .run [] (by simpa using single) (.one single next.describes ih)
  | last => exact .run _ (by simp) .nil
  | down single next rest ih =>
    cases ih with
    | one single' => exact absurd rfl single'
    | run run _ rest => exact .run _ single rest
    | again => exact absurd rfl single
  | again rest ih => exact .again ih

theorem Way.walks (h : Way v start parts cuts) : Walks v start cuts.flatten := by
  induction h with
  | nil => exact .nil
  | one single next rest ih => exact walks_cons_iff.mpr ⟨(isNext_iff.mp next).2, ih⟩
  | past single next rest ih => exact walks_cons_iff.mpr ⟨(isNext_iff.mp next).2, ih⟩
  | last next isDirectory => exact walks_cons_iff.mpr ⟨next, .nil⟩
  | down single next rest ih => exact walks_cons_iff.mpr ⟨next, ih⟩
  | again rest ih => exact ih

theorem Way.endsDeep (h : Way v start parts cuts) : EndsDeep v start parts cuts := by
  induction h with
  | nil => nofun
  | one single next rest ih => exact (endsDeep_one_iff rest.aligns single).mpr ih
  | past single next rest ih =>
    refine (endsDeep_past_iff (.one single next.describes rest.aligns) nofun).mpr ?_
    exact (endsDeep_one_iff rest.aligns single).mpr ih
  | last next isDirectory => exact fun _ => ⟨by simp, by simpa using isDirectory⟩
  | @down start name parts run cuts single next rest ih =>
    have haligns : Aligns parts cuts := by
      cases rest.aligns with
      | one single' => exact absurd rfl single'
      | run run _ rest => exact rest
      | again => exact absurd rfl single
    refine (endsDeep_down_iff haligns ?_).mpr ih
    by_contra hnone
    obtain ⟨rfl, rfl⟩ : run = [] ∧ parts = [] := by simpa using hnone
    cases haligns
    exact (ih rfl).1 rfl
  | again rest ih => exact fun hlast => ih (by simpa using hlast)

/-- **A way is made of names that align with the components**, and lead from directory to
directory. -/
theorem way_iff : Way v start parts cuts ↔
    Aligns parts cuts ∧ Walks v start cuts.flatten ∧ EndsDeep v start parts cuts := by
  refine ⟨fun h => ⟨h.aligns, h.walks, h.endsDeep⟩, ?_⟩
  rintro ⟨haligns, hwalks, hends⟩
  induction haligns generalizing start with
  | nil => exact .nil
  | one single describes rest ih =>
    obtain ⟨next, hwalks⟩ := walks_cons_iff.mp hwalks
    exact .one single (isNext_iff.mpr ⟨describes, next⟩)
      (ih hwalks ((endsDeep_one_iff rest single).mp hends))
  | again rest ih => exact .again (ih hwalks fun hlast => hends (by simpa using hlast))
  | @run run parts cuts single rest ih =>
    -- `**` goes down name by name, and is then left.
    induction run generalizing start with
    | nil =>
      cases parts with
      | nil =>
        cases rest
        exact absurd rfl (hends rfl).1
      | cons part parts =>
        have hpart : part ≠ "**" := by simpa using single
        have hway := ih hwalks ((endsDeep_past_iff rest nofun).mp hends)
        obtain ⟨name, next, cuts, way, rfl⟩ := (way_cons_iff hpart).mp hway
        exact .past hpart next way
    | cons name run ihrun =>
      obtain ⟨next, hwalks⟩ := walks_cons_iff.mp hwalks
      by_cases hmore : run ≠ [] ∨ parts ≠ []
      · exact .down single next (ihrun hwalks ((endsDeep_down_iff rest hmore).mp hends))
      · obtain ⟨rfl, rfl⟩ : run = [] ∧ parts = [] := by simpa using hmore
        cases rest
        exact .last next (by simpa using (hends rfl).2)

end Ways

/-! ## Searching -/

/-- A search looks into the directory that the names lead to: some components have taken them up,
and the next one is to be compared with the names in it, or `**` may go further down. -/
structure Visits (v : View) (start parts names : List String) : Prop where
  walks : Walks v start names
  isDirectory : v.isDirectory (place (start ++ names)) = true
  taken : ∃ front behind cuts, parts = front ++ behind ∧ Aligns front cuts ∧ cuts.flatten = names ∧
    (front.getLast? = some "**" ∨ ∃ part ∈ behind.head?, ¬ IsLiteral part.toList)

section Visits

variable {start names parts : List String} {part name : String}

theorem visits_nil (hliteral : ¬ IsLiteral part.toList)
    (hdirectory : v.isDirectory (place start) = true) : Visits v start (part :: parts) [] where
  walks := .nil
  isDirectory := by simpa using hdirectory
  taken := ⟨[], part :: parts, [], rfl, .nil, rfl, .inr ⟨part, rfl, hliteral⟩⟩

namespace Visits

theorem one (h : Visits v (start ++ [name]) parts names) (single : part ≠ "**")
    (next : IsNext v start part name) : Visits v start (part :: parts) (name :: names) where
  walks := walks_cons_iff.mpr ⟨(isNext_iff.mp next).2, h.walks⟩
  isDirectory := by simpa using h.isDirectory
  taken := by
    obtain ⟨front, behind, cuts, rfl, haligns, rfl, hlooks⟩ := h.taken
    refine ⟨part :: front, behind, [name] :: cuts, rfl, .one single next.describes haligns, rfl,
      hlooks.imp_left fun hlast => ?_⟩
    rw [List.getLast?_cons, hlast, Option.getD_some]

theorem past (h : Visits v (start ++ [name]) parts names) (single : part ≠ "**")
    (next : IsNext v start part name) :
    Visits v start ("**" :: part :: parts) (name :: names) where
  walks := walks_cons_iff.mpr ⟨(isNext_iff.mp next).2, h.walks⟩
  isDirectory := by simpa using h.isDirectory
  taken := by
    obtain ⟨front, behind, cuts, rfl, haligns, rfl, hlooks⟩ := h.taken
    refine ⟨"**" :: part :: front, behind, [] :: [name] :: cuts, rfl,
      .run [] (by simpa using single) (.one single next.describes haligns), rfl,
      hlooks.imp_left fun hlast => ?_⟩
    rw [List.getLast?_cons_cons, List.getLast?_cons, hlast, Option.getD_some]

theorem down (h : Visits v (start ++ [name]) ("**" :: parts) names)
    (single : parts.head? ≠ some "**") (next : IsNext v start "*" name) :
    Visits v start ("**" :: parts) (name :: names) where
  walks := walks_cons_iff.mpr ⟨next, h.walks⟩
  isDirectory := by simpa using h.isDirectory
  taken := by
    obtain ⟨front, behind, cuts, hsplit, haligns, rfl, hlooks⟩ := h.taken
    cases haligns with
    | nil => exact ⟨["**"], parts, [[name]], rfl, .run _ (by simp) .nil, rfl, .inl rfl⟩
    | one single' =>
      obtain ⟨rfl, -⟩ := List.cons.inj hsplit
      exact absurd rfl single'
    | run run single' rest =>
      exact ⟨_, behind, _, hsplit, .run (name :: run) single' rest, rfl, hlooks⟩
    | again =>
      obtain ⟨-, rfl⟩ := List.cons.inj hsplit
      exact absurd rfl single

theorem again (h : Visits v start ("**" :: parts) names) :
    Visits v start ("**" :: "**" :: parts) names where
  walks := h.walks
  isDirectory := h.isDirectory
  taken := by
    obtain ⟨front, behind, cuts, hsplit, haligns, hnames, hlooks⟩ := h.taken
    cases front with
    | nil =>
      obtain rfl : "**" :: parts = behind := hsplit
      exact ⟨[], "**" :: "**" :: parts, cuts, rfl, haligns, hnames, .inr ⟨"**", rfl, by decide⟩⟩
    | cons first front =>
      obtain ⟨rfl, rfl⟩ := List.cons.inj hsplit
      refine ⟨"**" :: "**" :: front, behind, cuts, rfl, .again haligns, hnames,
        hlooks.imp_left fun hlast => ?_⟩
      rw [List.getLast?_cons_cons, hlast]

end Visits

end Visits

section Search

variable {start parts : List String} {part name : String} {depth : Nat} {rest : List Part}

/-- Where `**` is left at an entry: it is a directory, or the next component describes its name. -/
def turns (v : View) (depth : Nat) (rest : List Part) (name entry : String) : List String :=
  match rest with
  | [] => if v.isDirectory entry then [entry] else []
  | part :: later => if part.isMatch name then search v depth later entry else []

theorem search_deep_of_not_isDirectory {path : String} (h : ¬ v.isDirectory path = true) :
    search v depth (.deep :: rest) path = [] := by
  cases depth with
  | zero => simp only [search]
  | succ depth => rw [search, if_neg h]

/-- `**` is tried on every name in a directory, and goes down or is left there. -/
theorem search_deep (hstart : ∀ name ∈ start, IsVisible name) :
    search v (depth + 1) (.deep :: rest) (place start) =
      if v.isDirectory (place start) then
        (v.visible (place start)).flatMap fun name =>
          search v depth (.deep :: rest) (place (start ++ [name])) ++
            turns v depth rest name (place (start ++ [name]))
      else [] := by
  have hbelow : ∀ name,
      (if v.isDirectory (place (start ++ [name])) then
        search v depth (.deep :: rest) (place (start ++ [name])) else []) =
      search v depth (.deep :: rest) (place (start ++ [name])) := by
    intro name
    split
    · rfl
    · rename_i hnot
      exact (search_deep_of_not_isDirectory hnot).symm
  rw [search]
  simp only [entryPath_place hstart, hbelow]
  cases rest <;> rfl

theorem componentOf_eq_deep_iff : componentOf part = .deep ↔ part = "**" := by
  rw [componentOf, ite_eq_left_iff]
  exact ⟨fun h => by_contra fun hne => partOf_ne_deep _ (h hne), fun h hne => absurd h hne⟩

theorem collapse_cons_of_ne {part : Part} (h : part ≠ .deep ∨ rest.head? ≠ some .deep) :
    collapse (part :: rest) = part :: collapse rest := by
  rw [collapse]
  rintro others rfl rfl
  simp at h

theorem collapse_single (single : part ≠ "**") (parts : List String) :
    collapse ((part :: parts).map componentOf) =
      partOf part.toList :: collapse (parts.map componentOf) := by
  rw [List.map_cons, collapse_cons_of_ne (.inl (mt componentOf_eq_deep_iff.mp single)), componentOf,
    if_neg single]

theorem collapse_deep (single : parts.head? ≠ some "**") :
    collapse (("**" :: parts).map componentOf) = .deep :: collapse (parts.map componentOf) := by
  rw [List.map_cons, componentOf_eq_deep_iff.mpr rfl, collapse_cons_of_ne (.inr ?_)]
  rw [List.head?_map]
  intro hhead
  obtain ⟨part, hpart, hdeep⟩ := Option.map_eq_some_iff.mp hhead
  rw [componentOf_eq_deep_iff.mp hdeep] at hpart
  exact single hpart

theorem collapse_again (parts : List String) :
    collapse (("**" :: "**" :: parts).map componentOf) =
      collapse (("**" :: parts).map componentOf) := by
  simp only [List.map_cons, componentOf_eq_deep_iff.mpr, collapse]

theorem isMatch_partOf {cs : List Char} :
    (partOf cs).isMatch name = true ↔ Matches cs name.toList := by
  unfold partOf
  split
  case isTrue hliteral =>
    rw [matches_iff_of_isLiteral hliteral, Part.isMatch, beq_iff_eq, ← String.toList_inj,
      String.toList_ofList, eq_comm]
  case isFalse => exact isMatch_map_tokenOf

theorem mem_visible_iff (hv : v.IsTreelike) (hstart : ∀ name ∈ start, IsVisible name)
    (hdirectory : v.isDirectory (place start) = true) (hlists : v.Lists (place start)) :
    name ∈ v.visible (place start) ↔ IsNext v start "*" name := by
  rw [← mem_filter_visible_iff hv hstart hdirectory hlists, List.mem_filter,
    isMatch_map_tokenOf, and_iff_left (matches_star _)]

/-- The path of a cut path, from a directory. -/
def pathFrom (start : List String) (cuts : List (List String)) : String :=
  place (start ++ cuts.flatten)

/-- The name that `**` goes down by, or is left at, is the first that is taken up. -/
theorem name_eq_of_way {name : String} {cuts : List (List String)}
    (h : (∃ rest, Way v (start ++ [name]) ("**" :: parts) rest ∧
      cuts = rest.modifyHead (name :: ·)) ∨ Turns v start name parts cuts) :
    ∃ names, cuts.flatten = name :: names := by
  rcases h with ⟨rest, way, rfl⟩ | hturns
  · obtain ⟨run, cuts, rfl⟩ := way.exists_run
    exact ⟨_, rfl⟩
  · cases parts with
    | nil => exact ⟨[], by rw [hturns.2]; rfl⟩
    | cons part parts =>
      obtain ⟨-, rest, -, rfl⟩ := hturns
      exact ⟨_, rfl⟩

/-- `**` does not both go down to an entry and end there. -/
theorem not_turns_of_way {name : String} {behind : List (List String)}
    (h : Way v (start ++ [name]) ("**" :: parts) behind) :
    ¬ Turns v start name parts (behind.modifyHead (name :: ·)) := by
  obtain ⟨below, names, hflatten, -⟩ := h.exists_next nofun
  obtain ⟨run, cuts, rfl⟩ := h.exists_run
  cases parts with
  | nil =>
    rintro ⟨-, hcuts⟩
    simp_all
  | cons part parts =>
    rintro ⟨-, rest, -, hcuts⟩
    simp_all

/-- A search by the components follows every way, once, from wherever it begins, if the names in the
directories that it looks into are those of their entries. -/
def Follows (v : View) (parts : List String) : Prop :=
  ∀ start depth, (∀ name ∈ start, IsVisible name) → reach ≤ start.length + depth →
    (∀ names, Visits v start parts names → v.Lists (place (start ++ names))) →
    Enumerates (pathFrom start) (Way v start parts)
      (search v depth (collapse (parts.map componentOf)) (place start))

theorem follows_nil (v : View) : Follows v [] := by
  intro start depth _ _ _
  have hsearch : search v depth (collapse (List.map componentOf [])) (place start) =
      [pathFrom start []] := by
    rw [List.map_nil, collapse, search, pathFrom, List.flatten_nil, List.append_nil]
  rw [hsearch]
  exact (Enumerates.singleton []).congr fun cuts => way_nil_iff.symm

theorem Follows.again (h : Follows v ("**" :: parts)) : Follows v ("**" :: "**" :: parts) := by
  intro start depth hstart hdepth hlists
  rw [collapse_again]
  exact (h start depth hstart hdepth fun names visits => hlists names visits.again).congr
    fun cuts => way_again_iff.symm

section Steps

variable (hv : v.IsTreelike)
include hv

/-- One component more in front leads to each next entry, from which the others go on. -/
theorem Follows.one (h : Follows v parts) (hpart : IsVisible part) (single : part ≠ "**") :
    Follows v (part :: parts) := by
  intro start depth hstart hdepth hlists
  obtain ⟨found, later, hlater, hnodup, hfound, hsearch⟩ :=
    search_step hv hstart hpart hdepth
      (fun hliteral hdirectory => by
        simpa using hlists [] (visits_nil hliteral hdirectory))
      (collapse (parts.map componentOf))
  rw [collapse_single single, hsearch]
  refine (Enumerates.flatMap (R := fun name cuts => IsNext v start part name ∧
    ∃ rest, Way v (start ++ [name]) parts rest ∧ cuts = [name] :: rest) hnodup
    (fun name hname => ?_) ?_).congr fun cuts => ?_
  · have next := (hfound name).mp hname
    have hrest := h (start ++ [name]) later
      (List.forall_mem_append.mpr ⟨hstart, List.forall_mem_singleton.mpr next.isVisible⟩)
      (by rwa [List.length_append, List.length_singleton])
      fun names visits => by simpa using hlists (name :: names) (visits.one single next)
    refine (hrest.map (g := ([name] :: ·)) (fun _ _ hcuts => (List.cons.inj hcuts).2) ?_).congr
      fun cuts => (and_iff_right next).symm
    simp [pathFrom]
  · rintro name other cuts ⟨-, rest, -, rfl⟩ ⟨-, rest', -, hcuts⟩
    simpa using (List.cons.inj hcuts).1
  · rw [way_cons_iff single]
    exact exists_congr fun name =>
      ⟨fun ⟨_, next, way⟩ => ⟨next, way⟩, fun ⟨next, way⟩ => ⟨(hfound name).mpr next, next, way⟩⟩

/-- `**` goes down from a directory to each directory in it, if the search is right about where it
is left. -/
theorem follows_deep (single : parts.head? ≠ some "**")
    (hturns : ∀ start name depth, (∀ other ∈ start, IsVisible other) →
      reach ≤ (start.length + 1) + depth → IsNext v start "*" name →
      (∀ names, Visits v start ("**" :: parts) names → v.Lists (place (start ++ names))) →
      Enumerates (pathFrom start) (Turns v start name parts)
        (turns v depth (collapse (parts.map componentOf)) name (place (start ++ [name])))) :
    Follows v ("**" :: parts) := by
  intro start depth hstart hdepth hlists
  rw [collapse_deep single]
  -- The search has a depth to go, which is more than there are directories in each other. It leaves
  -- `**` wherever it is, and goes on further down with a depth of one less.
  induction depth generalizing start with
  | zero =>
    have hnot : ¬ v.isDirectory (place start) = true := fun hdirectory =>
      absurd (hv.length_lt_reach hstart hdirectory) (by omega)
    rw [search_deep_of_not_isDirectory hnot]
    exact .nil fun cuts way => hnot (way.isDirectory nofun)
  | succ depth ih =>
    rw [search_deep hstart]
    split
    case isFalse hnot => exact .nil fun cuts way => hnot (way.isDirectory nofun)
    case isTrue hdirectory =>
      have hmem : ∀ name, name ∈ v.visible (place start) ↔ IsNext v start "*" name := fun name =>
        mem_visible_iff hv hstart hdirectory
          (by simpa using hlists [] (visits_nil (by decide) hdirectory))
      refine (Enumerates.flatMap
        (R := fun name cuts => (∃ rest, Way v (start ++ [name]) ("**" :: parts) rest ∧
          cuts = rest.modifyHead (name :: ·)) ∨ Turns v start name parts cuts)
        ((hv.names_nodup _).filter _) (fun name hname => ?_) ?_).congr fun cuts => ?_
      · have next := (hmem name).mp hname
        have hbelow := ih (start ++ [name])
          (List.forall_mem_append.mpr ⟨hstart, List.forall_mem_singleton.mpr next.isVisible⟩)
          (by rw [List.length_append, List.length_singleton]; omega)
          fun names visits => by simpa using hlists (name :: names) (visits.down single next)
        refine (hbelow.map (fun {x y} hx hy hxy => ?_) fun {x} hx => ?_).append
          (hturns start name depth hstart (by omega) next hlists) ?_
        · obtain ⟨run, cuts, rfl⟩ := hx.exists_run
          obtain ⟨run', cuts', rfl⟩ := hy.exists_run
          simpa using hxy
        · obtain ⟨run, cuts, rfl⟩ := hx.exists_run
          simp [pathFrom]
        · rintro _ ⟨rest, way, rfl⟩
          exact not_turns_of_way way
      · intro name other cuts h h'
        obtain ⟨names, hnames⟩ := name_eq_of_way h
        obtain ⟨names', hnames'⟩ := name_eq_of_way h'
        exact (List.cons.inj (hnames.symm.trans hnames')).1
      · rw [way_deep_iff single]
        exact exists_congr fun name => and_congr_left fun _ => hmem name

theorem follows_last : Follows v ["**"] := by
  refine follows_deep hv (by simp) fun start name depth _ _ _ _ => ?_
  have hpath : place (start ++ [name]) = pathFrom start [[name]] := by simp [pathFrom]
  rw [List.map_nil, collapse, turns]
  split
  case isTrue hdirectory =>
    rw [hpath]
    exact (Enumerates.singleton [[name]]).congr fun cuts => (and_iff_right hdirectory).symm
  case isFalse hnot => exact .nil fun cuts hturns => hnot hturns.1

theorem Follows.past (h : Follows v parts) (single : part ≠ "**") :
    Follows v ("**" :: part :: parts) := by
  refine follows_deep hv (by simpa using single)
    fun start name depth hstart hdepth next hlists => ?_
  rw [collapse_single single, turns]
  split
  case isTrue hmatch =>
    have hnext : IsNext v start part name := isNext_iff.mpr ⟨isMatch_partOf.mp hmatch, next⟩
    have hrest := h (start ++ [name]) depth
      (List.forall_mem_append.mpr ⟨hstart, List.forall_mem_singleton.mpr next.isVisible⟩)
      (by rwa [List.length_append, List.length_singleton])
      fun names visits => by simpa using hlists (name :: names) (visits.past single hnext)
    refine (hrest.map (g := ([] :: [name] :: ·)) (fun _ _ hcuts => ?_) ?_).congr
      fun cuts => (and_iff_right hnext).symm
    · simpa using hcuts
    · simp [pathFrom]
  case isFalse hnot =>
    exact .nil fun cuts hturns => hnot (isMatch_partOf.mpr (isNext_iff.mp hturns.1).1)

/-- **A search follows every way, once.** -/
theorem follows (parts : List String) (hparts : ∀ part ∈ parts, IsVisible part) :
    Follows v parts := by
  induction parts using List.twoStepInduction with
  | nil => exact follows_nil v
  | singleton part =>
    by_cases hpart : part = "**"
    · subst hpart
      exact follows_last hv
    · exact (follows_nil v).one hv (hparts part List.mem_cons_self) hpart
  | cons_cons part next parts ihlater ihrest =>
    obtain ⟨hfirst, hrest⟩ := List.forall_mem_cons.mp hparts
    by_cases hpart : part = "**"
    · subst hpart
      by_cases hnext : next = "**"
      · subst hnext
        exact (ihrest "**" hrest).again
      · exact (ihlater (List.forall_mem_cons.mp hrest).2).past hv hnext
    · exact (ihrest next hrest).one hv hfirst hpart

end Steps

end Search

end PipeShell.Wildcard
