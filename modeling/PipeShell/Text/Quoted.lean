import PipeShell.Text.Hidden

/-!
# Quoted text

A text in double quotes, on one line and with every character visible: the quote and the backslash
are escaped, NUL, tab, line feed and carriage return have escapes of their own, and any other
character without a glyph is written by its code point in hexadecimal.
-/

namespace PipeShell.Text.Quoted

/-- The hexadecimal digits of a number, lower case, without leading zeros. -/
def hexDigits (n : Nat) : String := String.ofList (Nat.toDigits 16 n)

/-- How one character is written between the quotes. -/
def escape (c : Char) : String :=
  match c with
  | '"' => "\\\""
  | '\\' => "\\\\"
  | '\x00' => "\\0"
  | '\t' => "\\t"
  | '\n' => "\\n"
  | '\r' => "\\r"
  | c => if isHidden c then "\\u\x7b" ++ hexDigits c.toNat ++ "\x7d" else c.toString

/-- The text in quotes. -/
def encode (text : String) : String :=
  "\"" ++ String.join (text.toList.map escape) ++ "\""

end PipeShell.Text.Quoted
