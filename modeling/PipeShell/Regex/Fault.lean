import PipeShell.Text.Blank

/-!
# What can be wrong with a written regular expression

A fault has a kind and marks one part of the expression, or two where one part clashes with an
earlier one. It is reported with the lines of the expression, the marked parts underlined.

## Main definitions

* `Place`, `Span`: parts of an expression
* `Problem`, `Problem.message`: the kinds of faults
* `Fault`, `Fault.report`: a fault, and the text that reports it
-/

namespace PipeShell.Regex

/-- A place in an expression; lines and columns count from 1. -/
structure Place where
  line : Nat
  column : Nat
  deriving DecidableEq, Repr

/-- The place behind a character. -/
def Place.after (p : Place) (c : Char) : Place :=
  if c == '\n' then ⟨p.line + 1, 1⟩ else ⟨p.line, p.column + 1⟩

/-- A part of an expression. -/
structure Span where
  first : Place
  last : Place
  deriving DecidableEq, Repr

/-- The part ends in the line in which it begins. -/
def Span.isWithinLine (s : Span) : Bool := s.first.line == s.last.line

/-- The one part begins before the other, or where it does and ends no later. -/
def Span.isBefore (a b : Span) : Bool :=
  a.first.column < b.first.column ||
    (a.first.column == b.first.column && a.last.column ≤ b.last.column)

/-- The kinds of faults. -/
inductive Problem where
  | badClassEscape
  | badClassRange
  | badRangeBoundary
  | openClass
  | badNumber
  | emptyHex
  | badHex
  | badHexDigit
  | endInEscape
  | unknownEscape
  | danglingNegation
  | repeatedFlag
  | repeatedNegation
  | endInFlags
  | unknownFlag
  | repeatedName
  | emptyName
  | badName
  | openName
  | openGroup
  | closedGroup
  | tooDeep
  | badCount
  | noCount
  | openCount
  | nothingRepeated
  | openWordEdge
  | unknownWordEdge
  | endInBrace
  | badProperty
  | reference
  | lookAround
  | noUnicode
  | brokenUtf8
  | unknownProperty
  | unknownPropertyValue
  | perlClass
  | foldedCase
  deriving DecidableEq, Repr

/-- The deepest nesting of an expression. -/
def nestingLimit : Nat := 250

def Problem.message : Problem → String
  | badClassEscape => "invalid escape sequence found in character class"
  | badClassRange => "invalid character class range, the start must be <= the end"
  | badRangeBoundary => "invalid range boundary, must be a literal"
  | openClass => "unclosed character class"
  | badNumber => "decimal literal invalid"
  | emptyHex => "hexadecimal literal empty"
  | badHex => "hexadecimal literal is not a Unicode scalar value"
  | badHexDigit => "invalid hexadecimal digit"
  | endInEscape => "incomplete escape sequence, reached end of pattern prematurely"
  | unknownEscape => "unrecognized escape sequence"
  | danglingNegation => "dangling flag negation operator"
  | repeatedFlag => "duplicate flag"
  | repeatedNegation => "flag negation operator repeated"
  | endInFlags => "expected flag but got end of regex"
  | unknownFlag => "unrecognized flag"
  | repeatedName => "duplicate capture group name"
  | emptyName => "empty capture group name"
  | badName => "invalid capture group character"
  | openName => "unclosed capture group name"
  | openGroup => "unclosed group"
  | closedGroup => "unopened group"
  | tooDeep =>
    "exceed the maximum number of nested parentheses/brackets (" ++ Nat.repr nestingLimit ++ ")"
  | badCount => "invalid repetition count range, the start must be <= the end"
  | noCount => "repetition quantifier expects a valid decimal"
  | openCount => "unclosed counted repetition"
  | nothingRepeated => "repetition operator missing expression"
  | openWordEdge =>
    "special word boundary assertion is either unclosed or contains an invalid character"
  | unknownWordEdge =>
    "unrecognized special word boundary assertion, valid choices are: start, end, start-half " ++
      "or end-half"
  | endInBrace =>
    "found either the beginning of a special word boundary or a bounded repetition on a \\b " ++
      "with an opening brace, but no closing brace"
  | badProperty => "invalid Unicode character class"
  | reference => "backreferences are not supported"
  | lookAround => "look-around, including look-ahead and look-behind, is not supported"
  | noUnicode => "Unicode not allowed here"
  | brokenUtf8 => "pattern can match invalid UTF-8"
  | unknownProperty => "Unicode property not found"
  | unknownPropertyValue => "Unicode property value not found"
  | perlClass =>
    "Unicode-aware Perl class not found (make sure the unicode-perl feature is enabled)"
  | foldedCase =>
    "Unicode-aware case insensitivity matching is not available (make sure the unicode-case " ++
      "feature is enabled)"

/-- A fault: its kind, the part that it marks, and the earlier part that this part clashes with. -/
structure Fault where
  problem : Problem
  span : Span
  earlier : Option Span := none

namespace Fault

/-- The marked parts. -/
def spans (f : Fault) : List Span := f.span :: f.earlier.toList

def fill (count : Nat) (c : Char) : String := String.ofList (List.replicate count c)

/-- The line that underlines parts, given how far it is indented already. -/
def underline : (column : Nat) → List Span → String
  | _, [] => ""
  | column, s :: rest =>
    let start := max column s.first.column
    let width := max 1 (s.last.column - s.first.column)
    fill (start - column) ' ' ++ fill width '^' ++ underline (start + width) rest

/-- The lines of an expression. A line feed at its end begins no line. -/
def linesOf (pattern : String) : List String :=
  match (Text.splitAt '\n' pattern).reverse with
  | "" :: rest => rest.reverse
  | lines => lines.reverse

/-- The lines of an expression with the marked parts underlined, and with numbers if there is more
than one line. -/
def notated (f : Fault) (pattern : String) : String :=
  let lines := linesOf pattern
  let count := lines.length + (if pattern.endsWith "\n" then 1 else 0)
  let width := if count ≤ 1 then 0 else (Nat.repr count).length
  String.join (lines.zipIdx.map fun (line, i) =>
    let number := Nat.repr (i + 1)
    let label := if width = 0 then fill 4 ' '
      else fill (width - number.length) ' ' ++ number ++ ": "
    let marked := (f.spans.filter fun s => s.isWithinLine && s.first.line == i + 1).mergeSort
      Span.isBefore
    label ++ line ++ "\n" ++
      (if marked.isEmpty then "" else fill label.length ' ' ++ underline 1 marked ++ "\n"))

/-- The text that reports a fault. -/
def report (f : Fault) (pattern : String) : String :=
  let body := notated f pattern
  "regex parse error:\n" ++
    (if pattern.toList.contains '\n' then
      let divider := fill 79 '~' ++ "\n"
      let notes := (f.spans.filter fun s => !s.isWithinLine).map fun s =>
        "on line " ++ Nat.repr s.first.line ++ " (column " ++ Nat.repr s.first.column ++
          ") through line " ++ Nat.repr s.last.line ++ " (column " ++
          Nat.repr (s.last.column - 1) ++ ")"
      divider ++ body ++ divider ++
        (if notes.isEmpty then "" else "\n".intercalate notes ++ "\n")
    else body) ++ "error: " ++ f.problem.message

end Fault

end PipeShell.Regex
