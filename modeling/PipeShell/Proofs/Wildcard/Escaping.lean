import PipeShell.Proofs.Wildcard.Paths

/-!
# What escaping does to a word

A pattern knows bracket classes, a word does not. So the brackets of a word are escaped before it is
read as a pattern, and each escape is made of brackets again: `[[]` and `[]]`. However many brackets
stand side by side, a reader that goes from left to right meets a class exactly where a bracket has
been escaped, and finds the end of that class right behind its only member. So the pattern describes
what the word describes, with `*` and `?` as its only wildcards.

Escaping neither makes nor takes away a slash, a star or a question mark. So the pattern has the
components of the word and its runs of stars, and can be read whenever these runs are in order.

## Main definitions

* `Describes pattern name`: what a pattern describes, read from left to right
* `HasProperStars cs`: each run of two stars or more is a component `**`
* `isMark c`: a slash, a star or a question mark

## Main results

* `describes_iff_isMatch`: reading a pattern and matching it is one way to tell what it describes
* `describes_escape_iff`: an escaped word describes what the word describes
* `ofChars?_escape_eq_none_iff`, `ofWord?_eq_none_iff`: what makes a component and a word malformed
* `escape_faithful`: what escaping keeps
-/

namespace PipeShell.Wildcard

/-! ## Patterns -/

/-- What a pattern describes, read from left to right: `*` any run, `?` one character, a bracket
class one character that it accepts, and any other character itself. -/
inductive Describes : (pattern name : List Char) → Prop
  | nil : Describes [] []
  | run (run : List Char) {pattern name} (rest : Describes pattern name) :
    Describes ('*' :: pattern) (run ++ name)
  | one (c : Char) {pattern name} (rest : Describes pattern name) :
    Describes ('?' :: pattern) (c :: name)
  | member {members pattern t c name} (read : class? members = some (t, pattern))
    (accepts : t.accepts c = true) (rest : Describes pattern name) :
    Describes ('[' :: members) (c :: name)
  | same {c pattern name} (star : c ≠ '*') (mark : c ≠ '?') (bracket : c ≠ '[')
    (rest : Describes pattern name) : Describes (c :: pattern) (c :: name)

section Describes

variable {pattern name : List Char}

theorem describes_nil_iff : Describes [] name ↔ name = [] :=
  ⟨fun | .nil => rfl, fun h => h ▸ .nil⟩

theorem describes_star_iff :
    Describes ('*' :: pattern) name ↔ ∃ run rest, name = run ++ rest ∧ Describes pattern rest := by
  constructor
  · intro h
    cases h with
    | run run rest => exact ⟨run, _, rfl, rest⟩
    | same star => exact absurd rfl star
  · rintro ⟨run, rest, rfl, h⟩
    exact .run run h

/-! For the others, what is described is one character that a token accepts, and the rest. -/

theorem describes_mark_iff :
    Describes ('?' :: pattern) name ↔
      ∃ d rest, name = d :: rest ∧ Token.anyChar.accepts d = true ∧ Describes pattern rest := by
  constructor
  · intro h
    cases h with
    | one d rest => exact ⟨d, _, rfl, rfl, rest⟩
    | same _ mark => exact absurd rfl mark
  · rintro ⟨d, rest, rfl, -, h⟩
    exact .one d h

theorem describes_class_iff {members : List Char} {t : Token}
    (hread : class? members = some (t, pattern)) :
    Describes ('[' :: members) name ↔
      ∃ d rest, name = d :: rest ∧ t.accepts d = true ∧ Describes pattern rest := by
  constructor
  · intro h
    cases h with
    | member read accepts rest =>
      cases hread.symm.trans read
      exact ⟨_, _, rfl, accepts, rest⟩
    | same _ _ bracket => exact absurd rfl bracket
  · rintro ⟨d, rest, rfl, haccepts, h⟩
    exact .member hread haccepts h

theorem describes_other_iff {c : Char} (star : c ≠ '*') (mark : c ≠ '?') (bracket : c ≠ '[') :
    Describes (c :: pattern) name ↔
      ∃ d rest, name = d :: rest ∧ (Token.char c).accepts d = true ∧ Describes pattern rest := by
  constructor
  · intro h
    cases h with
    | run => exact absurd rfl star
    | one => exact absurd rfl mark
    | member => exact absurd rfl bracket
    | same _ _ _ rest => exact ⟨c, _, rfl, by simp [Token.accepts], rest⟩
  · rintro ⟨d, rest, rfl, haccepts, h⟩
    obtain rfl : c = d := by simpa [Token.accepts] using haccepts
    exact .same star mark bracket h

theorem class?_ne_anyRun {members after : List Char} {t : Token}
    (h : class? members = some (t, after)) : t ≠ .anyRun := by
  unfold class? at h
  split at h
  all_goals
    simp only [Option.map_eq_some_iff, Prod.mk.injEq, reduceCtorEq] at h
  all_goals
    obtain ⟨_, -, rfl, -⟩ := h
    nofun

/-- **A pattern that can be read** describes what its tokens describe. -/
theorem describes_iff_isMatch {tokens : Pattern} (h : Pattern.ofChars? pattern = some tokens) :
    Describes pattern name ↔ tokens.isMatch name = true := by
  -- By the clauses of the reader. Those that give no tokens have nothing to show.
  fun_induction Pattern.ofChars? pattern generalizing tokens name with
  | case1 =>
    cases h
    rw [describes_nil_iff]
    cases name <;> simp
  | case2 rest ih =>
    obtain ⟨p, hp, rfl⟩ := Option.map_eq_some_iff.mp h
    have hone : Token.anyChar ≠ .anyRun := nofun
    rw [describes_mark_iff, Pattern.isMatch_token_iff hone]
    simp only [ih hp]
  | case3 => cases h
  | case4 rest _ ih =>
    obtain ⟨p, hp, rfl⟩ := Option.map_eq_some_iff.mp h
    rw [describes_star_iff, Pattern.isMatch_anyRun_iff]
    simp only [ih hp]
  | case5 members t after hread _ ih =>
    obtain ⟨p, hp, rfl⟩ := Option.map_eq_some_iff.mp h
    rw [describes_class_iff hread, Pattern.isMatch_token_iff (class?_ne_anyRun hread)]
    simp only [ih hp]
  | case6 => cases h
  | case7 c rest mark _ star bracket ih =>
    obtain ⟨p, hp, rfl⟩ := Option.map_eq_some_iff.mp h
    have hsame : Token.char c ≠ .anyRun := nofun
    rw [describes_other_iff star mark bracket, Pattern.isMatch_token_iff hsame]
    simp only [ih hp]

end Describes

/-! ## Escaped words -/

theorem escapeChar_append_inj {c d : Char} {cs ds : List Char}
    (h : escapeChar c ++ cs = escapeChar d ++ ds) : c = d ∧ cs = ds := by
  by_cases hc : c = '[' ∨ c = ']' <;> by_cases hd : d = '[' ∨ d = ']'
  · rw [escapeChar_of_bracket hc, escapeChar_of_bracket hd] at h
    simpa using h
  · rw [escapeChar_of_bracket hc, escapeChar_of_not_bracket hd] at h
    exact absurd (.inl (List.cons.inj h).1.symm) hd
  · rw [escapeChar_of_not_bracket hc, escapeChar_of_bracket hd] at h
    exact absurd (.inl (List.cons.inj h).1) hc
  · rw [escapeChar_of_not_bracket hc, escapeChar_of_not_bracket hd] at h
    simpa using h

/-- Words that are escaped alike are alike. -/
theorem escape_injective : Function.Injective escape := by
  intro cs ds h
  induction cs generalizing ds with
  | nil =>
    cases ds with
    | nil => rfl
    | cons d ds =>
      rw [escape_cons] at h
      exact absurd (List.append_eq_nil_iff.mp h.symm).1 (escapeChar_ne_nil d)
  | cons c cs ih =>
    cases ds with
    | nil =>
      rw [escape_cons] at h
      exact absurd (List.append_eq_nil_iff.mp h).1 (escapeChar_ne_nil c)
    | cons d ds =>
      rw [escape_cons, escape_cons] at h
      obtain ⟨rfl, hbehind⟩ := escapeChar_append_inj h
      rw [ih hbehind]

/-- What has been escaped is met as one character, whatever comes behind it. -/
theorem describes_escapeChar_iff {c : Char} (star : c ≠ '*') {pattern name : List Char} :
    Describes (escapeChar c ++ pattern) name ↔
      ∃ d rest, name = d :: rest ∧ (tokenOf c).accepts d = true ∧ Describes pattern rest := by
  by_cases mark : c = '?'
  · subst mark
    exact describes_mark_iff
  by_cases bracket : c = '[' ∨ c = ']'
  · rw [escapeChar_of_bracket bracket, tokenOf_of_bracket bracket]
    exact describes_class_iff (class?_bracket bracket pattern)
  · rw [escapeChar_of_not_bracket bracket, tokenOf_of_not_bracket star mark bracket]
    exact describes_other_iff star mark (not_or.mp bracket).1

/-- **An escaped word describes what the word describes.** -/
theorem describes_escape_iff {word name : List Char} :
    Describes (escape word) name ↔ Matches word name := by
  -- Both sides take the characters of the word one by one, so its tokens stand between them.
  rw [← isMatch_map_tokenOf]
  induction word generalizing name with
  | nil => rw [escape, List.flatMap_nil, describes_nil_iff]; cases name <;> simp
  | cons c word ih =>
    rw [escape_cons, List.map_cons]
    by_cases star : c = '*'
    · subst star
      rw [tokenOf_star, Pattern.isMatch_anyRun_iff]
      simp only [← ih]
      exact describes_star_iff
    · rw [describes_escapeChar_iff star,
        Pattern.isMatch_token_iff (mt tokenOf_eq_anyRun_iff.mp star)]
      simp only [ih]

/-! ## Runs of stars -/

theorem replicate_star_prefix_escape_iff {n : ℕ} {word : List Char} :
    List.replicate n '*' <+: escape word ↔ List.replicate n '*' <+: word := by
  induction word generalizing n with
  | nil => rfl
  | cons c word ih =>
    cases n with
    | zero => simp
    | succ n =>
      rw [escape_cons, List.replicate_succ, List.cons_prefix_cons]
      by_cases bracket : c = '[' ∨ c = ']'
      · rw [escapeChar_of_bracket bracket, List.cons_append, List.cons_prefix_cons]
        rcases bracket with rfl | rfl <;> simp
      · rw [escapeChar_of_not_bracket bracket, List.singleton_append, List.cons_prefix_cons, ih]

/-- A run of stars does not begin at another character. -/
theorem replicate_star_infix_cons_iff {n : ℕ} (hn : n ≠ 0) {c : Char} (star : c ≠ '*')
    {cs : List Char} : List.replicate n '*' <:+: c :: cs ↔ List.replicate n '*' <:+: cs := by
  obtain ⟨n, rfl⟩ := Nat.exists_eq_succ_of_ne_zero hn
  rw [List.infix_cons_iff, List.replicate_succ, List.cons_prefix_cons]
  exact or_iff_right fun h => star h.1.symm

/-- **Escaping keeps the runs of stars.** -/
theorem replicate_star_infix_escape_iff {n : ℕ} {word : List Char} :
    List.replicate n '*' <:+: escape word ↔ List.replicate n '*' <:+: word := by
  by_cases hn : n = 0
  · subst hn
    simp
  induction word with
  | nil => rfl
  | cons c word ih =>
    rw [escape_cons]
    by_cases bracket : c = '[' ∨ c = ']'
    · -- No star is among the three characters in front.
      have star : c ≠ '*' := by rcases bracket with rfl | rfl <;> decide
      rw [escapeChar_of_bracket bracket, replicate_star_infix_cons_iff hn star, ← ih]
      simp only [List.cons_append, List.nil_append]
      rw [replicate_star_infix_cons_iff hn (by decide), replicate_star_infix_cons_iff hn star,
        replicate_star_infix_cons_iff hn (by decide)]
    · -- The same character is in front, and the same stars behind it.
      have hprefix :
          List.replicate n '*' <+: escape (c :: word) ↔ List.replicate n '*' <+: c :: word :=
        replicate_star_prefix_escape_iff
      rw [escape_cons, escapeChar_of_not_bracket bracket, List.singleton_append] at hprefix
      rw [escapeChar_of_not_bracket bracket, List.singleton_append, List.infix_cons_iff, hprefix,
        ih, ← List.infix_cons_iff]

/-- **An escaped component cannot be read** where two stars stand side by side, and only there. -/
theorem ofChars?_escape_eq_none_iff {cs : List Char} :
    Pattern.ofChars? (escape cs) = none ↔ HasDoubleStar cs := by
  refine ⟨fun hnone => ?_, fun hdouble => ?_⟩
  · by_contra hdouble
    cases hnone.symm.trans (ofChars?_escape hdouble)
  · induction cs with
    | nil => cases List.eq_nil_of_infix_nil hdouble
    | cons c cs ih =>
      rw [escape_cons]
      by_cases hfront : c = '*' ∧ (escape cs).head? = some '*'
      · obtain ⟨rfl, hhead⟩ := hfront
        obtain ⟨rest, hrest⟩ := List.head?_eq_some_iff.mp hhead
        rw [hrest, escapeChar_of_not_bracket (by decide), List.singleton_append, Pattern.ofChars?]
      · -- The stars are not these two, so they stand behind.
        have hbehind : HasDoubleStar cs := by
          refine (List.infix_cons_iff.mp hdouble).resolve_left fun h => hfront ?_
          obtain ⟨rfl, rest, rfl⟩ := List.cons_prefix_cons.mp h
          exact ⟨rfl, head?_escape_eq_star_iff.mpr rfl⟩
        rw [Pattern.ofChars?_escapeChar_append fun star hhead => hfront ⟨star, hhead⟩, ih hbehind]
        rfl

/-! ## Words of several components -/

/-- Each run of two stars or more is a component `**`. -/
def HasProperStars (cs : List Char) : Prop :=
  ∀ part ∈ Text.pieces (· == '/') cs, part = ['*', '*'] ∨ ¬ HasDoubleStar part

theorem Part.ofChars?_escape_eq_none_iff {cs : List Char} :
    Part.ofChars? (escape cs) = none ↔ ¬ (cs = ['*', '*'] ∨ ¬ HasDoubleStar cs) := by
  have hdeep : escape cs = escape ['*', '*'] ↔ cs = ['*', '*'] := escape_injective.eq_iff
  change escape cs = ['*', '*'] ↔ _ at hdeep
  unfold Part.ofChars?
  split
  case isTrue h => simp [hdeep.mp h]
  case isFalse h =>
    rw [Option.map_eq_none_iff, PipeShell.Wildcard.ofChars?_escape_eq_none_iff]
    simp [mt hdeep.mpr h]

theorem mapM_eq_none_iff {α β : Type} {f : α → Option β} {xs : List α} :
    xs.mapM f = none ↔ ∃ x ∈ xs, f x = none := by
  induction xs with
  | nil => simp
  | cons x xs ih =>
    rw [List.mapM_cons]
    cases hx : f x with
    | none => simp [hx]
    | some y => cases hxs : xs.mapM f <;> simp_all

/-- **A word can be read** if its runs of stars are in order, and only then. -/
theorem ofWord?_eq_none_iff {word : String} :
    Query.ofWord? word = none ↔ ¬ HasProperStars word.toList := by
  -- The pieces that the reading leaves out are empty, and so could be read.
  have hne : ∀ {part}, Part.ofChars? part = none → part ≠ [] := by
    rintro _ hnone rfl
    simp [Part.ofChars?, Pattern.ofChars?] at hnone
  calc Query.ofWord? word = none
      ↔ ∃ part ∈ Text.pieces (· == '/') (escape word.toList), Part.ofChars? part = none := by
        simp only [Query.ofWord?, Option.map_eq_none_iff, mapM_eq_none_iff]
        refine exists_congr fun part => and_congr_left fun hnone => ?_
        rw [Text.mem_terminated_iff (hne hnone)]
        split
        · exact Text.mem_pieces_dropWhile_iff (hne hnone)
        · rfl
    _ ↔ ∃ part ∈ Text.pieces (· == '/') word.toList, Part.ofChars? (escape part) = none := by
        rw [pieces_escape rfl rfl]
        simp only [List.mem_map, exists_exists_and_eq_and]
    _ ↔ ¬ HasProperStars word.toList := by
        simp only [Part.ofChars?_escape_eq_none_iff, HasProperStars, not_forall, exists_prop]

/-! ## What escaping keeps -/

/-- A slash, a star or a question mark. -/
def isMark (c : Char) : Bool := c == '/' || c == '*' || c == '?'

theorem filter_isMark_escape (word : List Char) :
    (escape word).filter isMark = word.filter isMark := by
  induction word with
  | nil => rfl
  | cons c word ih =>
    rw [escape_cons, List.filter_append, ih, ← List.singleton_append, List.filter_append]
    by_cases bracket : c = '[' ∨ c = ']'
    · rcases bracket with rfl | rfl <;> rfl
    · rw [escapeChar_of_not_bracket bracket]

/-- **Escaping is faithful.** Whatever brackets are in a word, and wherever they stand, the pattern
describes what the word describes, and so do its tokens where the pattern can be read. It has the
slashes, the stars and the question marks of the word and no other, and between them the texts that
stood there, each escaped; so it has the components of the word and runs of as many stars, and it is
the stars of a word alone that make it malformed. -/
theorem escape_faithful (word : String) :
    (∀ name, Describes (escape word.toList) name ↔ Matches word.toList name) ∧
    (match Pattern.ofChars? (escape word.toList) with
      | none => HasDoubleStar word.toList
      | some tokens => ¬ HasDoubleStar word.toList ∧
          ∀ name, tokens.isMatch name = true ↔ Matches word.toList name) ∧
    (escape word.toList).filter isMark = word.toList.filter isMark ∧
    Text.pieces isMark (escape word.toList) = (Text.pieces isMark word.toList).map escape ∧
    Text.pieces (· == '/') (escape word.toList) =
      (Text.pieces (· == '/') word.toList).map escape ∧
    (∀ n, List.replicate n '*' <:+: escape word.toList ↔ List.replicate n '*' <:+: word.toList) ∧
    ((Query.ofWord? word).isSome = true ↔ HasProperStars word.toList) := by
  refine ⟨fun name => describes_escape_iff, ?_, filter_isMark_escape _,
    pieces_escape rfl rfl _, pieces_escape rfl rfl _, fun n => replicate_star_infix_escape_iff, ?_⟩
  · cases hread : Pattern.ofChars? (escape word.toList) with
    | none => exact ofChars?_escape_eq_none_iff.mp hread
    | some tokens =>
      refine ⟨fun hdouble => ?_, fun name => ?_⟩
      · cases hread.symm.trans (ofChars?_escape_eq_none_iff.mpr hdouble)
      · rw [← describes_iff_isMatch hread, describes_escape_iff]
  · rw [Option.isSome_iff_ne_none, ne_eq, ofWord?_eq_none_iff, not_not]

end PipeShell.Wildcard
