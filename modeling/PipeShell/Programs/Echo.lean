import PipeShell.Programs.Calls

/-!
# echo, true and false

`echo` writes its arguments; `true` and `false` write nothing and leave with 0 and 1.

## Main definitions

* `Escapes.digits`: the value of a few digits
* `Echo.unescape`: a text with its escapes resolved
* `echo`, `succeed`, `fail`: the programs
-/

namespace PipeShell.Programs

open PipeShell.Machine
open PipeShell.Text (Octets)

namespace Escapes

/-- The value of a digit, of any base up to 16. -/
def digit? (c : Char) : Option Nat :=
  if c.isDigit then some (c.toNat - '0'.toNat)
  else if 'a' ≤ c ∧ c ≤ 'f' then some (c.toNat - 'a'.toNat + 10)
  else if 'A' ≤ c ∧ c ≤ 'F' then some (c.toNat - 'A'.toNat + 10)
  else none

/-- The value of up to `count` digits of a base, and the rest. -/
def digits (base : Nat) : (count : Nat) → (value : Nat) → Octets → Nat × Octets
  | 0, value, cs => (value, cs)
  | _, value, [] => (value, [])
  | count + 1, value, c :: rest =>
    match (digit? c).filter (· < base) with
    | some digit => digits base count (value * base + digit) rest
    | none => (value, c :: rest)

theorem length_digits_le (base count value : Nat) (cs : Octets) :
    (digits base count value cs).2.length ≤ cs.length := by
  induction count generalizing value cs with
  | zero => simp [digits]
  | succ count ih =>
    cases cs with
    | nil => simp [digits]
    | cons c rest =>
      simp only [digits]
      split
      · exact Nat.le_succ_of_le (ih ..)
      · simp

/-- The character of a number, which counts as a byte. -/
def charOf (n : Nat) : Char := Char.ofNat (n % 256)

/-- The character that a letter behind a backslash stands for. -/
def letter? (c : Char) : Option Char :=
  match c with
  | 'a' => some '\x07'
  | 'b' => some '\x08'
  | 'e' => some '\x1b'
  | 'f' => some '\x0c'
  | 'n' => some '\n'
  | 'r' => some '\r'
  | 't' => some '\t'
  | 'v' => some '\x0b'
  | '\\' => some '\\'
  | _ => none

end Escapes

namespace Echo

open Escapes

/-- A text with its escapes resolved, onto what stands before it in reverse, and whether one of the
escapes ends all output. -/
def unescapeOnto (before : Octets) : Octets → Octets × Bool
  | [] => (before.reverse, false)
  | '\\' :: 'c' :: _ => (before.reverse, true)
  | '\\' :: 'x' :: rest =>
    let read := digits 16 2 0 rest
    if read.2.length = rest.length then unescapeOnto ('x' :: '\\' :: before) rest
    else unescapeOnto (charOf read.1 :: before) read.2
  | '\\' :: '0' :: rest =>
    let read := digits 8 3 0 rest
    unescapeOnto (charOf read.1 :: before) read.2
  | '\\' :: c :: rest =>
    if '1' ≤ c ∧ c ≤ '7' then
      let read := digits 8 2 (c.toNat - 48) rest
      unescapeOnto (charOf read.1 :: before) read.2
    else match letter? c with
      | some meant => unescapeOnto (meant :: before) rest
      | none => unescapeOnto (c :: '\\' :: before) rest
  | c :: rest => unescapeOnto (c :: before) rest
termination_by cs => cs.length
decreasing_by
  all_goals simp only [List.length_cons]
  · omega
  · have := length_digits_le 16 2 0 rest; omega
  · have := length_digits_le 8 3 0 rest; omega
  · have := length_digits_le 8 2 (c.toNat - 48) rest; omega
  · omega
  · omega
  · omega

/-- A text with its escapes resolved, and whether one of them ends all output. -/
def unescape (text : Octets) : Octets × Bool := unescapeOnto [] text

/-- The letters of an argument that is an option. -/
def optionLetters? : Octets → Option (List Char)
  | '-' :: c :: rest =>
    if (c :: rest).all fun c => c == 'n' || c == 'e' || c == 'E' then some (c :: rest) else none
  | _ => none

/-- The options in front of the words. -/
def options (letters : List Char) : List Octets → List Char × List Octets
  | [] => (letters, [])
  | arg :: rest =>
    match optionLetters? arg with
    | some more => options (letters ++ more) rest
    | none => (letters, arg :: rest)

end Echo

open Echo in
/-- Writes its arguments with blanks between them. -/
def echo : Main := Call.program fun c => do
  let strict := c.isStrict
  let (letters, words) :=
    if strict && c.args.head? != some ['-', 'n'] then ([], c.args) else options [] c.args
  let text := [' '].intercalate words
  let escaped := strict || (letters.filter (· != 'n')).getLast? == some 'e'
  let (text, stop) := if escaped then unescape text else (text, false)
  c.emit 1 (Octets.toBytes (if stop || letters.contains 'n' then text else text ++ ['\n']))
  pure 0

def succeed : Main := fun _ _ => .leave 0

def fail : Main := fun _ _ => .leave 1

end PipeShell.Programs
