/-!
# Redirections

A redirection is one of four operators together with an operand: a path, or for `<<` the line that
closes the text to be captured. A plan is a command whose redirections have been taken out of its
words: its arguments, and for each redirection the descriptor it binds and what it binds it to.

## Main definitions

* `RedirectKind`, `RedirectKind.operator`: the four operators and how they are written
* `splitOperator? word`: the operator a word begins with, and the rest of the word
* `Redirect`, `Source`, `Binding`, `Plan`: redirections before and after resolution

## Main results

* `splitOperator?_isSome_iff`: exactly the words beginning with `<` or `>` begin with an operator
-/

namespace PipeShell

/-- What a redirection does. -/
inductive RedirectKind where
  | input
  | output
  | append
  | heredoc
  deriving DecidableEq, Repr, Inhabited

namespace RedirectKind

/-- How the operator is written. -/
def operator : RedirectKind → String
  | input => "<"
  | output => ">"
  | append => ">>"
  | heredoc => "<<"

/-- The operator that a whole word is. -/
def ofOperator? (word : String) : Option RedirectKind :=
  if word = "<" then some input
  else if word = ">" then some output
  else if word = ">>" then some append
  else if word = "<<" then some heredoc
  else none

/-- The descriptor that the redirection replaces: standard input or standard output. -/
def targetFd : RedirectKind → Nat
  | input | heredoc => 0
  | output | append => 1

@[simp] theorem ofOperator?_operator (k : RedirectKind) : ofOperator? k.operator = some k := by
  cases k <;> rfl

end RedirectKind

/-- The operator that a text begins with, the longer one first, and the rest of the text. -/
def splitOperatorChars? : List Char → Option (RedirectKind × List Char)
  | '<' :: '<' :: rest => some (.heredoc, rest)
  | '>' :: '>' :: rest => some (.append, rest)
  | '<' :: rest => some (.input, rest)
  | '>' :: rest => some (.output, rest)
  | _ => none

/-- The operator that a word begins with, the longer one first, and the rest of the word. -/
def splitOperator? (word : String) : Option (RedirectKind × String) :=
  (splitOperatorChars? word.toList).map fun (kind, rest) => (kind, String.ofList rest)

/-- A character that begins an operator. -/
def isOperatorChar (c : Char) : Bool := c == '<' || c == '>'

theorem splitOperatorChars?_isSome_iff (cs : List Char) :
    (splitOperatorChars? cs).isSome = true ↔
      ∃ c rest, cs = c :: rest ∧ isOperatorChar c = true := by
  constructor
  · intro h
    unfold splitOperatorChars? at h
    split at h
    · exact ⟨_, _, rfl, rfl⟩
    · exact ⟨_, _, rfl, rfl⟩
    · exact ⟨_, _, rfl, rfl⟩
    · exact ⟨_, _, rfl, rfl⟩
    · simp at h
  · rintro ⟨c, rest, rfl, hc⟩
    simp only [isOperatorChar, Bool.or_eq_true, beq_iff_eq] at hc
    rcases hc with rfl | rfl
    · rcases rest with _ | ⟨d, rest⟩
      · rfl
      · by_cases hd : d = '<'
        · subst hd; rfl
        · simp [splitOperatorChars?, hd]
    · rcases rest with _ | ⟨d, rest⟩
      · rfl
      · by_cases hd : d = '>'
        · subst hd; rfl
        · simp [splitOperatorChars?, hd]

/-- A word begins with an operator if and only if its first character is `<` or `>`. -/
theorem splitOperator?_isSome_iff (word : String) :
    (splitOperator? word).isSome = true ↔
      ∃ c rest, word.toList = c :: rest ∧ isOperatorChar c = true := by
  simp only [splitOperator?, Option.isSome_map, splitOperatorChars?_isSome_iff]

/-- An operator with its operand. -/
structure Redirect where
  kind : RedirectKind
  target : String
  deriving DecidableEq, Repr

/-- What a descriptor is bound to: a file, opened only where the plan is carried out, or a captured
text, which is at hand already. -/
inductive Source (κ : Type) where
  | file (path : String) (kind : RedirectKind)
  | captured (body : κ)
  deriving DecidableEq, Repr

/-- One descriptor, what it is bound to, and the redirection that asked for it. -/
structure Binding (κ : Type) where
  fd : Nat
  source : Source κ
  redirect : Redirect
  deriving DecidableEq, Repr

/-- A command without its redirections: the arguments, the first of which names the program, and
the bindings in the order in which they were written. -/
structure Plan (κ : Type) where
  args : List String
  bindings : List (Binding κ)
  deriving DecidableEq, Repr

namespace Plan

variable {κ : Type}

/-- A plan with nothing in it. -/
def empty : Plan κ := ⟨[], []⟩

/-- Puts an argument in front. -/
def consArg (arg : String) (p : Plan κ) : Plan κ := { p with args := arg :: p.args }

/-- Puts a binding in front. -/
def consBinding (b : Binding κ) (p : Plan κ) : Plan κ := { p with bindings := b :: p.bindings }

/-- The program that the plan names. -/
def program? (p : Plan κ) : Option String := p.args.head?

@[simp] theorem args_consArg (arg : String) (p : Plan κ) :
    (p.consArg arg).args = arg :: p.args := rfl

@[simp] theorem bindings_consArg (arg : String) (p : Plan κ) :
    (p.consArg arg).bindings = p.bindings := rfl

@[simp] theorem args_consBinding (b : Binding κ) (p : Plan κ) :
    (p.consBinding b).args = p.args := rfl

@[simp] theorem bindings_consBinding (b : Binding κ) (p : Plan κ) :
    (p.consBinding b).bindings = b :: p.bindings := rfl

end Plan

end PipeShell
