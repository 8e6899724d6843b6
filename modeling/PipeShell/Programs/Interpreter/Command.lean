import PipeShell.Text.Octets

/-!
# Commands

What a command is made of: words, which are written out only when the command is carried out,
redirections, and commands inside commands. Everything is bytes.

## Main definitions

* `Part`, `Word`: a word and its parts
* `Redirect`: a redirection
* `Command`: a command
-/

namespace PipeShell.Programs.Interpreter

open PipeShell.Text (Octets)

/-- What is done with a parameter's value where it stands in a word. `colon` tells that an empty
value counts as none. -/
inductive Treatment where
  | plain
  | length
  | default (colon : Bool)
  | assign (colon : Bool)
  | demand (colon : Bool)
  | alternative (colon : Bool)
  | cutStart (longest : Bool)
  | cutEnd (longest : Bool)
  | malformed
  deriving DecidableEq, Repr

/-- How a redirection opens what it names. -/
inductive Opening where
  | read
  | write
  | clobber
  | append
  | both
  deriving DecidableEq, Repr

mutual

/-- A part of a word. What is quoted is not cut into fields, and its characters stand for
themselves. `quotes` marks that there were quotes, which keep an empty word. -/
inductive Part where
  | text (cs : Octets) (quoted : Bool)
  | quotes
  | parameter (name : Octets) (treatment : Treatment) (word : List Part) (quoted : Bool)
  | output (body : Option Command) (quoted : Bool)
  | arithmetic (expression : List Part) (quoted : Bool)

/-- A redirection of a descriptor: to a file, to what another descriptor stands for, to nothing, to
a descriptor named by a word, or to a text that has been read before and is known by its number. -/
inductive Redirect where
  | file (fd : Nat) (opening : Opening) (target : List Part)
  | copy (fd : Nat) (source : Nat)
  | closing (fd : Nat)
  | copyNamed (fd : Nat) (source : List Part)
  | here (fd : Nat) (number : Nat)

/-- A command, with the line in which it begins where this may be told. -/
inductive Command where
  | simple (line : Nat) (assignments : List (Octets × List Part)) (words : List (List Part))
      (redirects : List Redirect)
  | pipeline (members : List Command) (background : Bool)
  | negated (c : Command)
  | both (a b : Command)
  | either (a b : Command)
  | sequence (a b : Command)
  | background (c : Command)
  | subshell (line : Nat) (c : Command) (redirects : List Redirect)
  | redirected (line : Nat) (c : Command) (redirects : List Redirect)
  | conditional (test : Command) (then_ : Command) (else_ : Option Command)
  | loop (inverse : Bool) (test body : Command)
  | forEach (line : Nat) (name : Octets) (words : List (List Part)) (body : Command)
  | select (line : Nat) (word : List Part) (cases : List (List (List Part) × Option Command))
  | define (line : Nat) (name : Octets) (body : Command)

end

/-- A word: its parts in order. -/
abbrev Word := List Part

instance : Inhabited Part := ⟨.quotes⟩

/-- The part stands between quotes. -/
def Part.isQuoted : Part → Bool
  | text _ quoted | parameter _ _ _ quoted | output _ quoted | arithmetic _ quoted => quoted
  | quotes => false

instance : Inhabited Command := ⟨.simple 0 [] [] []⟩

end PipeShell.Programs.Interpreter
