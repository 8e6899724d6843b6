import PipeShell.Programs.Interpreter.Command

/-!
# Patterns

A star stands for any text, a question mark for one character, and brackets for one of a set. What
is quoted stands for itself, and so does what follows a backslash, and a bracket that is not closed.

## Main definitions

* `Field`: characters, each with a mark that tells whether it was quoted
* `Glob.accepts`: a text matches a pattern
-/

namespace PipeShell.Programs.Interpreter

open PipeShell.Text (Octets)

/-- Characters, each with a mark that tells whether it was quoted. -/
abbrev Field := List (Char × Bool)

namespace Field

/-- The characters without their marks. -/
def text (f : Field) : Octets := f.map Prod.fst

/-- The character has a meaning of its own in a pattern. -/
def isSign (c : Char × Bool) : Bool := !c.2 && (c.1 == '*' || c.1 == '?' || c.1 == '[')

/-- There is something in the text that makes it a pattern. -/
def isPattern (f : Field) : Bool := f.any isSign

end Field

namespace Glob

/-- The characters of a named class. -/
def classOf? (name : String) : Option (Char → Bool) :=
  match name with
  | "alnum" => some Char.isAlphanum
  | "alpha" => some Char.isAlpha
  | "blank" => some fun c => c == ' ' || c == '\t'
  | "cntrl" => some fun c => c.toNat < 32 || c.toNat == 127
  | "digit" => some Char.isDigit
  | "graph" => some fun c => '!' ≤ c && c ≤ '~'
  | "lower" => some Char.isLower
  | "print" => some fun c => ' ' ≤ c && c ≤ '~'
  | "punct" => some fun c => '!' ≤ c && c ≤ '~' && !c.isAlphanum
  | "space" => some fun c => c == ' ' || ('\t' ≤ c && c ≤ '\r')
  | "upper" => some Char.isUpper
  | "xdigit" => some fun c => c.isDigit || ('a' ≤ c && c ≤ 'f') || ('A' ≤ c && c ≤ 'F')
  | _ => none

/-- A named class at the beginning of a pattern whose bracket has been read: its test, and what
follows it. -/
def named? (p : Field) : Option ((Char → Bool) × Field) :=
  match p with
  | (':', false) :: rest =>
    let name := rest.takeWhile fun c => c.1 != ':'
    match rest.drop name.length, classOf? (String.ofList (Field.text name)) with
    | (':', _) :: (']', false) :: rest, some test => some (test, rest)
    | _, _ => none
  | _ => none

/-- Whether the members of a set, up to its end, have a character, and what follows the set; nothing
if it has no end. At least one member comes before the end. -/
def members? (c : Char) : (count : Nat) → (first found : Bool) → Field → Option (Bool × Field)
  | 0, _, _, _ => none
  | count + 1, first, found, p =>
    match p with
    | [] => none
    | (m, quoted) :: rest =>
      if m == ']' && !quoted && !first then some (found, rest)
      else match (if m == '[' && !quoted then named? rest else none) with
        | some (test, rest) => members? c count false (found || test c) rest
        | none =>
          match rest with
          | ('-', false) :: (high, quotedHigh) :: more =>
            if high == ']' && !quotedHigh then members? c count false (found || m == c) rest
            else members? c count false (found || (m ≤ c && c ≤ high)) more
          | rest => members? c count false (found || m == c) rest

/-- Whether a set, whose opening has been read, has a character, and what follows the set. -/
def set? (c : Char) (p : Field) : Option (Bool × Field) :=
  match p with
  | ('!', false) :: rest =>
    (members? c (rest.length + 1) true false rest).map fun (found, rest) => (!found, rest)
  | p => members? c (p.length + 1) true false p

/-- A text matches a pattern; `fuel` is at least as much as both are long. -/
def matchesWithin : (fuel : Nat) → Field → Octets → Bool
  | 0, _, _ => false
  | _ + 1, [], cs => cs.isEmpty
  | fuel + 1, ('*', false) :: p, cs =>
    matchesWithin fuel p cs ||
      match cs with
      | [] => false
      | _ :: cs => matchesWithin fuel (('*', false) :: p) cs
  | fuel + 1, ('?', false) :: p, cs =>
    match cs with
    | [] => false
    | _ :: cs => matchesWithin fuel p cs
  | fuel + 1, ('[', false) :: p, cs =>
    match cs with
    | [] => false
    | c :: rest =>
      match set? c p with
      | some (found, p) => found && matchesWithin fuel p rest
      | none => c == '[' && matchesWithin fuel p rest
  | fuel + 1, ('\\', false) :: (m, _) :: p, cs | fuel + 1, (m, _) :: p, cs =>
    match cs with
    | [] => false
    | c :: rest => c == m && matchesWithin fuel p rest

/-- A text matches a pattern. -/
def accepts (p : Field) (cs : Octets) : Bool := matchesWithin (p.length + cs.length + 1) p cs

end Glob

end PipeShell.Programs.Interpreter
