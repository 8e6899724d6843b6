/-!
# Patterns for one name

A pattern is a row of tokens. In its written form `*` stands for any run of characters, `?` for one
character, and a bracket class such as `[abc]`, `[a-z]` or `[!abc]` for one character in or outside
a set. A word of the shell knows only `*` and `?`, so its brackets are escaped before it is read as
a pattern: a class with a single member stands for that member.

## Main definitions

* `Token`, `Pattern`: one unit of a pattern, and a row of them
* `escape`: writes a word as a pattern in which brackets stand for themselves
* `Pattern.ofChars?`: reads the written form
* `Pattern.isMatch`: the pattern describes the whole of a name

## Main results

* `isMatch_token_cons`, `isMatch_anyRun_cons`, …: the equations of matching, one for each token
-/

namespace PipeShell.Wildcard

/-- One unit of a pattern. The sets of a class are ranges of characters, ends included. -/
inductive Token where
  | char (c : Char)
  | anyChar
  | anyRun
  | within (ranges : List (Char × Char))
  | except (ranges : List (Char × Char))
  deriving DecidableEq, Repr

/-- A row of tokens. -/
abbrev Pattern := List Token

/-! ## Escaping brackets -/

/-- A bracket is written as the class of which it is the only member. -/
def escapeChar (c : Char) : List Char :=
  if c = '[' then ['[', '[', ']'] else if c = ']' then ['[', ']', ']'] else [c]

/-- Writes a word as a pattern in which brackets stand for themselves. -/
def escape (word : List Char) : List Char := word.flatMap escapeChar

/-! ## Reading a pattern -/

/-- Cuts a text at its first closing bracket, which neither part contains. -/
def untilBracket? : List Char → Option (List Char × List Char)
  | [] => none
  | c :: rest =>
    if c = ']' then some ([], rest)
    else (untilBracket? rest).map fun (before, after) => (c :: before, after)

theorem length_untilBracket? {cs before after : List Char}
    (h : untilBracket? cs = some (before, after)) : after.length < cs.length := by
  induction cs generalizing before after with
  | nil => simp [untilBracket?] at h
  | cons c rest ih =>
    simp only [untilBracket?] at h
    split at h
    · simp only [Option.some.injEq, Prod.mk.injEq] at h
      simp [← h.2]
    · simp only [Option.map_eq_some_iff, Prod.mk.injEq, Prod.exists] at h
      obtain ⟨b, a, hr, _, rfl⟩ := h
      exact Nat.lt_succ_of_lt (ih hr)

/-- The ranges of a class: `a-z` is one range, any other character a range by itself. -/
def ranges : List Char → List (Char × Char)
  | a :: '-' :: z :: rest => (a, z) :: ranges rest
  | c :: rest => (c, c) :: ranges rest
  | [] => []

/-- Reads the class that follows an opening bracket: its token and the rest. The first member may be
a closing bracket. -/
def class? : List Char → Option (Token × List Char)
  | '!' :: c :: rest =>
    (untilBracket? rest).map fun (before, after) => (.except (ranges (c :: before)), after)
  | ['!'] => none
  | c :: rest =>
    (untilBracket? rest).map fun (before, after) => (.within (ranges (c :: before)), after)
  | [] => none

theorem length_class? {cs after : List Char} {t : Token} (h : class? cs = some (t, after)) :
    after.length < cs.length := by
  unfold class? at h
  split at h
  · simp only [Option.map_eq_some_iff, Prod.mk.injEq, Prod.exists] at h
    obtain ⟨b, a, hr, _, rfl⟩ := h
    have := length_untilBracket? hr
    simp only [List.length_cons]; omega
  · simp at h
  · simp only [Option.map_eq_some_iff, Prod.mk.injEq, Prod.exists] at h
    obtain ⟨b, a, hr, _, rfl⟩ := h
    have := length_untilBracket? hr
    simp only [List.length_cons]; omega
  · simp at h

/-- Reads the written form of a pattern. Two neighbouring stars and an open class are malformed. -/
def Pattern.ofChars? : List Char → Option Pattern
  | [] => some []
  | '?' :: rest => (ofChars? rest).map (.anyChar :: ·)
  | '*' :: '*' :: _ => none
  | '*' :: rest => (ofChars? rest).map (.anyRun :: ·)
  | '[' :: rest =>
    match h : class? rest with
    | some (t, after) =>
      have := length_class? h
      (ofChars? after).map (t :: ·)
    | none => none
  | c :: rest => (ofChars? rest).map (.char c :: ·)
termination_by cs => cs.length
decreasing_by all_goals simp only [List.length_cons]; omega

/-! ## Matching

A text is matched from its end to its front: for a row of tokens and a text, `rows` holds for each
rest of the text whether the tokens describe that rest. -/

/-- The characters that a token other than `anyRun` describes. -/
def Token.accepts (c : Char) : Token → Bool
  | char d => d == c
  | anyChar => true
  | anyRun => false
  | within rs => rs.any fun r => r.1 ≤ c && c ≤ r.2
  | except rs => !rs.any fun r => r.1 ≤ c && c ≤ r.2

/-- Puts a token in front of a row of tokens: `row` tells for each rest of the text whether the
tokens after this one describe it. -/
def Token.advance (t : Token) : List Char → List Bool → List Bool
  | [], row => [decide (t = anyRun) && row.headD false]
  | c :: cs, row =>
    let later := t.advance cs row.tail
    (if t = anyRun then row.headD false || later.headD false
      else t.accepts c && row.tail.headD false) :: later

/-- For each rest of the text, from the whole to the empty one, whether the pattern describes it. -/
def Pattern.rows (p : Pattern) (cs : List Char) : List Bool :=
  p.foldr (fun t row => t.advance cs row) (cs.foldr (fun _ row => false :: row) [true])

/-- The pattern describes the whole text. -/
def Pattern.isMatch (p : Pattern) (cs : List Char) : Bool := (p.rows cs).headD false

namespace Pattern

@[simp] theorem rows_nil_nil : rows [] [] = [true] := rfl

@[simp] theorem rows_cons (t : Token) (p : Pattern) (cs : List Char) :
    rows (t :: p) cs = t.advance cs (rows p cs) := rfl

/-- The rests of a text with one character more in front are the text itself and the rests it
had. -/
theorem tail_rows (p : Pattern) (c : Char) (cs : List Char) :
    (rows p (c :: cs)).tail = rows p cs := by
  induction p with
  | nil => rfl
  | cons t p ih => simp [Token.advance, ih]

@[simp] theorem isMatch_nil_nil : isMatch [] [] = true := rfl

@[simp] theorem isMatch_nil_cons (c : Char) (cs : List Char) : isMatch [] (c :: cs) = false := rfl

/-- The empty text is described by rows of stars only. -/
theorem isMatch_cons_nil (t : Token) (p : Pattern) :
    isMatch (t :: p) [] = (decide (t = .anyRun) && isMatch p []) := rfl

/-- A star describes the empty run, or one character and what a star describes. -/
theorem isMatch_anyRun_cons (p : Pattern) (c : Char) (cs : List Char) :
    isMatch (.anyRun :: p) (c :: cs) = (isMatch p (c :: cs) || isMatch (.anyRun :: p) cs) := by
  simp [isMatch, Token.advance, tail_rows]

/-- Any other token describes one character. -/
theorem isMatch_token_cons {t : Token} (h : t ≠ .anyRun) (p : Pattern) (c : Char)
    (cs : List Char) : isMatch (t :: p) (c :: cs) = (t.accepts c && isMatch p cs) := by
  simp [isMatch, Token.advance, tail_rows, h]

end Pattern

end PipeShell.Wildcard
