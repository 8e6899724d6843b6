import Mathlib
import PipeShell.Wildcard.Search

/-!
# What a component describes

In a component of a word `*` stands for any run of characters, `?` for one character, and every
other character for itself, brackets included. The search takes a way round: brackets are escaped,
what comes out is read as a pattern, and the pattern is matched from its end to its front. It
arrives at the same names, unless two stars stand side by side, in which case the component is
malformed.

## Main definitions

* `Matches cs name`: the component describes the name
* `tokenOf c`: the token that a character of a component is read as

## Main results

* `isMatch_map_tokenOf`: the tokens of a component describe what the component describes
* `ofChars?_escape`: a component is read as the tokens of its characters
* `ofChars?_escape_eq_partOf`: the part that a component of a word is
-/

namespace PipeShell.Wildcard

/-- The component describes the name. -/
inductive Matches : List Char → List Char → Prop
  | nil : Matches [] []
  | run (run : List Char) {cs name} (rest : Matches cs name) : Matches ('*' :: cs) (run ++ name)
  | one (c : Char) {cs name} (rest : Matches cs name) : Matches ('?' :: cs) (c :: name)
  | same {c cs name} (star : c ≠ '*') (mark : c ≠ '?') (rest : Matches cs name) :
    Matches (c :: cs) (c :: name)

/-! ## Characters and tokens -/

/-- The token that a character of a component is read as. -/
def tokenOf (c : Char) : Token :=
  if c = '*' then .anyRun
  else if c = '?' then .anyChar
  else if c = '[' ∨ c = ']' then .within [(c, c)]
  else .char c

@[simp] theorem tokenOf_star : tokenOf '*' = .anyRun := rfl

theorem tokenOf_eq_anyRun_iff {c : Char} : tokenOf c = .anyRun ↔ c = '*' := by
  unfold tokenOf
  split
  case isTrue h => simp [h]
  case isFalse h => split <;> [simp [h]; (split <;> simp [h])]

/-- Any other character than `*` and `?` stands for itself. -/
theorem accepts_tokenOf {c : Char} (star : c ≠ '*') (mark : c ≠ '?') (d : Char) :
    (tokenOf c).accepts d = true ↔ d = c := by
  unfold tokenOf
  rw [if_neg star, if_neg mark]
  split
  · simp only [Token.accepts, List.any_cons, List.any_nil, Bool.or_false, Bool.and_eq_true,
      decide_eq_true_eq]
    exact ⟨fun h => Char.le_antisymm h.2 h.1, fun h => h ▸ ⟨Char.le_refl _, Char.le_refl _⟩⟩
  · rw [Token.accepts, beq_iff_eq, eq_comm]

/-! ## Matching -/

/-- A star describes the runs in front of what the tokens behind it describe. -/
theorem Pattern.isMatch_anyRun_iff {p : Pattern} {cs : List Char} :
    isMatch (.anyRun :: p) cs = true ↔ ∃ run rest, cs = run ++ rest ∧ isMatch p rest = true := by
  induction cs with
  | nil => simp [isMatch_cons_nil]
  | cons c cs ih =>
    rw [isMatch_anyRun_cons, Bool.or_eq_true, ih]
    constructor
    · rintro (h | ⟨run, rest, rfl, h⟩)
      · exact ⟨[], _, rfl, h⟩
      · exact ⟨c :: run, rest, rfl, h⟩
    · rintro ⟨run, rest, hcs, h⟩
      cases run with
      | nil => exact .inl (hcs ▸ h)
      | cons d run =>
        obtain ⟨rfl, rfl⟩ := List.cons.inj hcs
        exact .inr ⟨run, rest, rfl, h⟩

/-- Any other token describes one character in front. -/
theorem Pattern.isMatch_token_iff {t : Token} (h : t ≠ .anyRun) {p : Pattern} {cs : List Char} :
    isMatch (t :: p) cs = true ↔
      ∃ c rest, cs = c :: rest ∧ t.accepts c = true ∧ isMatch p rest = true := by
  cases cs with
  | nil => simp [isMatch_cons_nil, h]
  | cons c cs => simp [isMatch_token_cons h]

/-- **The tokens of a component describe what the component describes.** -/
theorem isMatch_map_tokenOf {cs name : List Char} :
    Pattern.isMatch (cs.map tokenOf) name = true ↔ Matches cs name := by
  induction cs generalizing name with
  | nil =>
    cases name with
    | nil => simpa using Matches.nil
    | cons c name => simpa using nofun
  | cons c cs ih =>
    rw [List.map_cons]
    by_cases star : c = '*'
    · subst star
      rw [tokenOf_star, Pattern.isMatch_anyRun_iff]
      constructor
      · rintro ⟨run, rest, rfl, h⟩
        exact .run run (ih.mp h)
      · intro h
        cases h with
        | run run rest => exact ⟨run, _, rfl, ih.mpr rest⟩
        | same star => exact absurd rfl star
    rw [Pattern.isMatch_token_iff (mt tokenOf_eq_anyRun_iff.mp star)]
    by_cases mark : c = '?'
    · subst mark
      constructor
      · rintro ⟨d, rest, rfl, -, h⟩
        exact .one d (ih.mp h)
      · intro h
        cases h with
        | one d rest => exact ⟨d, _, rfl, rfl, ih.mpr rest⟩
        | same _ mark => exact absurd rfl mark
    · constructor
      · rintro ⟨d, rest, rfl, haccepts, h⟩
        rw [(accepts_tokenOf star mark d).mp haccepts]
        exact .same star mark (ih.mp h)
      · intro h
        cases h with
        | run => exact absurd rfl star
        | one => exact absurd rfl mark
        | same _ _ rest => exact ⟨c, _, rfl, (accepts_tokenOf star mark c).mpr rfl, ih.mpr rest⟩

/-! ## Reading components -/

/-- Two stars stand side by side. -/
def HasDoubleStar (cs : List Char) : Prop := ['*', '*'] <:+: cs

instance (cs : List Char) : Decidable (HasDoubleStar cs) :=
  inferInstanceAs (Decidable (['*', '*'] <:+: cs))

theorem HasDoubleStar.cons {cs : List Char} (h : HasDoubleStar cs) (c : Char) :
    HasDoubleStar (c :: cs) :=
  List.infix_cons h

/-! ### Escaped characters -/

theorem escape_cons (c : Char) (cs : List Char) : escape (c :: cs) = escapeChar c ++ escape cs :=
  List.flatMap_cons

theorem escape_append (cs ds : List Char) : escape (cs ++ ds) = escape cs ++ escape ds :=
  List.flatMap_append

theorem escapeChar_of_bracket {c : Char} (h : c = '[' ∨ c = ']') :
    escapeChar c = ['[', c, ']'] := by
  rcases h with rfl | rfl <;> rfl

theorem escapeChar_of_not_bracket {c : Char} (h : ¬ (c = '[' ∨ c = ']')) : escapeChar c = [c] := by
  obtain ⟨opening, closing⟩ := not_or.mp h
  simp [escapeChar, opening, closing]

theorem tokenOf_of_bracket {c : Char} (h : c = '[' ∨ c = ']') : tokenOf c = .within [(c, c)] := by
  rcases h with rfl | rfl <;> rfl

theorem tokenOf_of_not_bracket {c : Char} (star : c ≠ '*') (mark : c ≠ '?')
    (h : ¬ (c = '[' ∨ c = ']')) : tokenOf c = .char c := by
  simp [tokenOf, star, mark, h]

/-- Escaping leaves a star in front where there was one, and makes none. -/
theorem head?_escape_eq_star_iff {cs : List Char} :
    (escape cs).head? = some '*' ↔ cs.head? = some '*' := by
  cases cs with
  | nil => rfl
  | cons c cs =>
    rw [escape_cons]
    by_cases bracket : c = '[' ∨ c = ']'
    · rw [escapeChar_of_bracket bracket]
      rcases bracket with rfl | rfl <;> simp
    · rw [escapeChar_of_not_bracket bracket]
      simp

/-- An escaped bracket is read as the class of which it is the only member: the class ends right
behind it, although it may be a closing bracket itself. -/
theorem class?_bracket {c : Char} (h : c = '[' ∨ c = ']') (cs : List Char) :
    class? (c :: ']' :: cs) = some (.within [(c, c)], cs) := by
  rcases h with rfl | rfl <;> simp [class?, untilBracket?, ranges]

namespace Pattern

theorem ofChars?_star {cs : List Char} (h : cs.head? ≠ some '*') :
    ofChars? ('*' :: cs) = (ofChars? cs).map (.anyRun :: ·) := by
  rw [ofChars?]
  rintro rest rfl
  exact h rfl

theorem ofChars?_class {members after : List Char} {t : Token}
    (h : class? members = some (t, after)) :
    ofChars? ('[' :: members) = (ofChars? after).map (t :: ·) := by
  rw [ofChars?]
  split
  case h_1 t' after' heq =>
    obtain ⟨rfl, rfl⟩ := Prod.mk.inj (Option.some.inj (h.symm.trans heq))
    rfl
  case h_2 heq => cases h.symm.trans heq

theorem ofChars?_other {c : Char} (star : c ≠ '*') (mark : c ≠ '?') (bracket : c ≠ '[')
    (cs : List Char) : ofChars? (c :: cs) = (ofChars? cs).map (.char c :: ·) := by
  rw [ofChars?] <;> simp_all

/-- **What has been escaped is read as its token**, whatever comes behind it, as long as no two
stars stand side by side. -/
theorem ofChars?_escapeChar_append {c : Char} {cs : List Char}
    (h : c = '*' → cs.head? ≠ some '*') :
    ofChars? (escapeChar c ++ cs) = (ofChars? cs).map (tokenOf c :: ·) := by
  by_cases bracket : c = '[' ∨ c = ']'
  · rw [escapeChar_of_bracket bracket, tokenOf_of_bracket bracket]
    exact ofChars?_class (class?_bracket bracket cs)
  rw [escapeChar_of_not_bracket bracket, List.singleton_append]
  by_cases star : c = '*'
  · subst star
    exact ofChars?_star (h rfl)
  by_cases mark : c = '?'
  · subst mark
    rw [ofChars?]
    rfl
  · rw [tokenOf_of_not_bracket star mark bracket]
    exact ofChars?_other star mark (not_or.mp bracket).1 cs

end Pattern

/-- **A component is read as the tokens of its characters.** -/
theorem ofChars?_escape {cs : List Char} (h : ¬ HasDoubleStar cs) :
    Pattern.ofChars? (escape cs) = some (cs.map tokenOf) := by
  induction cs with
  | nil => simp [escape, Pattern.ofChars?]
  | cons c cs ih =>
    have hhead : c = '*' → (escape cs).head? ≠ some '*' := by
      rw [ne_eq, head?_escape_eq_star_iff]
      rintro rfl hhead
      obtain ⟨rest, rfl⟩ := List.head?_eq_some_iff.mp hhead
      exact h ⟨[], rest, rfl⟩
    rw [escape_cons, Pattern.ofChars?_escapeChar_append hhead, ih fun hdouble => h (hdouble.cons c)]
    rfl

/-! ## Literal components -/

/-- A character that stands for something else in a pattern. -/
def isSpecial (c : Char) : Bool := c == '*' || c == '?' || c == '[' || c == ']'

/-- The component is a name: no wildcard and no bracket is in it. -/
def IsLiteral (cs : List Char) : Prop := cs.any isSpecial = false

instance (cs : List Char) : Decidable (IsLiteral cs) := instDecidableEqBool _ _

theorem isLiteral_cons {c : Char} {cs : List Char} :
    IsLiteral (c :: cs) ↔ isSpecial c = false ∧ IsLiteral cs := by
  rw [IsLiteral, List.any_cons, Bool.or_eq_false_iff, IsLiteral]

theorem tokenOf_of_not_isSpecial {c : Char} (h : isSpecial c = false) : tokenOf c = .char c := by
  simp only [isSpecial, Bool.or_eq_false_iff, beq_eq_false_iff_ne] at h
  simp [tokenOf, h]

/-- The part that a component is. -/
def partOf (cs : List Char) : Part :=
  if IsLiteral cs then .literal (String.ofList cs) else .described (cs.map tokenOf)

theorem spelled?_map_tokenOf (cs : List Char) :
    Part.spelled? (cs.map tokenOf) = if IsLiteral cs then some cs else none := by
  induction cs with
  | nil => rfl
  | cons c cs ih =>
    rw [List.map_cons]
    by_cases hc : isSpecial c = true
    · have hspecial : ¬ IsLiteral (c :: cs) := by simp [isLiteral_cons, hc]
      rw [if_neg hspecial]
      simp only [isSpecial, Bool.or_eq_true, beq_iff_eq, or_assoc] at hc
      rcases hc with rfl | rfl | rfl | rfl <;> rfl
    · have hplain := Bool.eq_false_iff.mpr hc
      have hiff : IsLiteral (c :: cs) ↔ IsLiteral cs := isLiteral_cons.trans (and_iff_right hplain)
      rw [tokenOf_of_not_isSpecial hplain, Part.spelled?, ih]
      split <;> simp_all

/-- **The part that a component of a word is**, once it has been escaped. -/
theorem ofChars?_escape_eq_partOf {cs : List Char} (h : ¬ HasDoubleStar cs) :
    Part.ofChars? (escape cs) = some (partOf cs) := by
  have hdeep : escape cs ≠ ['*', '*'] := by
    intro hescape
    have hread := ofChars?_escape h
    rw [hescape] at hread
    simp [Pattern.ofChars?] at hread
  rw [Part.ofChars?, if_neg hdeep, ofChars?_escape h, Option.map_some, spelled?_map_tokenOf, partOf]
  by_cases hliteral : IsLiteral cs <;> simp [hliteral]

/-- A literal component describes its own name and no other. -/
theorem matches_iff_of_isLiteral {cs name : List Char} (h : IsLiteral cs) :
    Matches cs name ↔ name = cs := by
  induction cs generalizing name with
  | nil => exact ⟨fun | .nil => rfl, fun hname => hname ▸ .nil⟩
  | cons c cs ih =>
    obtain ⟨hplain, hliteral⟩ := isLiteral_cons.mp h
    have hrest : ∀ name, Matches cs name ↔ name = cs := fun name => ih hliteral
    constructor
    · intro hmatch
      cases hmatch with
      | run => cases hplain
      | one => cases hplain
      | same _ _ rest => rw [(hrest _).mp rest]
    · rintro rfl
      exact .same (by rintro rfl; cases hplain) (by rintro rfl; cases hplain)
        ((hrest _).mpr rfl)

/-- The entries `.` and `..` are described by no component that does not begin with a dot. -/
theorem specials_map_tokenOf {cs : List Char} (h : cs.head? ≠ some '.') :
    specials (cs.map tokenOf) = [] := by
  refine if_neg fun hhead => h ?_
  cases cs with
  | nil => simp at hhead
  | cons c cs =>
    have htoken : tokenOf c = .char '.' := by simpa using hhead
    unfold tokenOf at htoken
    split_ifs at htoken
    exact congrArg some (Token.char.inj htoken)

end PipeShell.Wildcard
