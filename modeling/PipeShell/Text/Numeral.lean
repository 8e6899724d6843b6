/-!
# Signed 32-bit numerals

A numeral is an optional sign and then ASCII digits only, at least one, whose value fits into 32
bits with sign. Leading zeros do not matter.
-/

namespace PipeShell.Text.Numeral

/-- The value of a run of ASCII digits, read onto the value of the digits before it. -/
def digits? (value : Nat) : List Char → Option Nat
  | [] => some value
  | c :: rest => if c.isDigit then digits? (value * 10 + (c.toNat - '0'.toNat)) rest else none

/-- The value of a non-empty run of ASCII digits. -/
def natural? (cs : List Char) : Option Nat :=
  if cs.isEmpty then none else digits? 0 cs

/-- The integer that fits into 32 bits with sign. -/
def fit? (n : Int) : Option Int :=
  if -2147483648 ≤ n ∧ n ≤ 2147483647 then some n else none

/-- Reads a numeral. -/
def signed? (text : String) : Option Int :=
  match text.toList with
  | '-' :: rest => (natural? rest).bind fun n => fit? (-(n : Int))
  | '+' :: rest => (natural? rest).bind fun n => fit? n
  | cs => (natural? cs).bind fun n => fit? n

end PipeShell.Text.Numeral
