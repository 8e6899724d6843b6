import PipeShell.Text.Octets

/-!
# Whole numbers in arguments

A whole number may have blanks and a plus sign in front and a letter behind it that multiplies it.
Without digits the letter alone stands for its unit. Numbers up to 64 bits can be kept.

## Main definitions

* `Numbers.read`: reads a number with the letters that are allowed
-/

namespace PipeShell.Programs.Numbers

open PipeShell.Text (Octets)

/-- What reading a number comes to. A number that is too large is kept as the largest. -/
inductive Outcome where
  | number (n : Nat)
  | tooLarge
  | invalid
  deriving DecidableEq, Repr

/-- The largest number that can be kept. -/
def largest : Nat := 18446744073709551615

/-- White space in front of a number. -/
def isSpace (c : Char) : Bool := c == ' ' || ('\t' ≤ c && c ≤ '\r')

/-- The value of decimal digits. -/
def valueOf (digits : Octets) : Nat := digits.foldl (fun n c => n * 10 + (c.toNat - 48)) 0

/-- The power of its base that a letter stands for. -/
def power? (c : Char) : Option Nat :=
  match c with
  | 'k' | 'K' => some 1
  | 'm' | 'M' => some 2
  | 'g' | 'G' => some 3
  | 't' | 'T' => some 4
  | 'P' => some 5
  | 'E' => some 6
  | 'Z' => some 7
  | 'Y' => some 8
  | 'R' => some 9
  | 'Q' => some 10
  | _ => none

/-- The factor that a suffix stands for, if there is nothing behind it. -/
def factor? (letters : List Char) : Octets → Option Nat
  | [] => some 1
  | c :: rest =>
    if !letters.contains c then none
    else if c == 'b' then (if rest.isEmpty then some 512 else none)
    else match power? c with
      | none => none
      | some n =>
        match rest with
        | [] => some (Nat.pow 1024 n)
        | ['B'] => some (Nat.pow 1000 n)
        | ['D'] => some (Nat.pow 1000 n)
        | ['i', 'B'] => some (Nat.pow 1024 n)
        | _ => none

/-- Reads a number with the given letters behind it. -/
def read (letters : String) (text : Octets) : Outcome :=
  let body := text.dropWhile isSpace
  let unsigned := match body with
    | '+' :: rest => rest
    | rest => rest
  let digits := unsigned.takeWhile Char.isDigit
  let number? : Option (Nat × Octets) :=
    if digits.isEmpty then
      match text with
      | c :: _ => if letters.toList.contains c then some (1, text) else none
      | [] => none
    else some (valueOf digits, unsigned.drop digits.length)
  match number? with
  | none => .invalid
  | some (n, suffix) =>
    match factor? letters.toList suffix with
    | none => .invalid
    | some factor => if largest < n * factor then .tooLarge else .number (n * factor)

end PipeShell.Programs.Numbers
