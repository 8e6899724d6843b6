import PipeShell.Regex.Basic
import PipeShell.Regex.Fault

/-!
# Written regular expressions

What an expression says, part by part, before flags are taken into account. Every part knows where
it stands.

## Main definitions

* `WrittenChar`: a character, and whether it was written as a byte
* `CharClass`: a class of characters
* `Flag`, `Written`: an expression
* `Written.tooDeep?`: the first part that is nested too deeply
-/

namespace PipeShell.Regex

/-- A character, possibly written as the value of a byte. -/
structure WrittenChar where
  span : Span
  char : Char
  isByte : Bool := false
  deriving Repr

/-- The classes that a letter behind a backslash stands for. -/
inductive PerlClass where
  | digit
  | space
  | word
  deriving DecidableEq, Repr

/-- What may stand between two classes. -/
inductive ClassOperation where
  | intersection
  | difference
  | differing
  deriving DecidableEq, Repr

/-- A class of characters. A `property` is one that is not known; the problem says why. -/
inductive CharClass where
  | char (c : WrittenChar)
  | range (span : Span) (low high : WrittenChar)
  | named (span : Span) (set : CharSet) (negated : Bool)
  | perl (span : Span) (kind : PerlClass) (negated : Bool)
  | property (span : Span) (problem : Problem)
  | bracketed (span : Span) (negated : Bool) (content : CharClass)
  | blank (span : Span)
  | union (span : Span) (members : List CharClass)
  | operation (kind : ClassOperation) (a b : CharClass)
  deriving Repr

/-- Where a class stands. -/
def CharClass.span : CharClass → Span
  | char c => c.span
  | range span .. => span
  | named span .. => span
  | perl span .. => span
  | property span _ => span
  | bracketed span .. => span
  | blank span => span
  | union span .. => span
  | operation _ a b => ⟨a.span.first, b.span.last⟩

/-- What an expression can be told about how it is to be read and matched. -/
inductive Flag where
  | anyCase
  | multiLine
  | dotMatchesAll
  | swapGreed
  | unicode
  | returns
  | spaced
  deriving DecidableEq, Repr

/-- Flags that are turned on or off. -/
abbrev Flags := List (Flag × Bool)

/-- Whether flags turn one flag on or off, if they mention it. -/
def Flags.state? (flags : Flags) (flag : Flag) : Option Bool := flags.lookup flag

/-- Anchors as written; what they mean depends on flags. -/
inductive WrittenAnchor where
  | caret
  | dollar
  | textStart
  | textEnd
  | wordEdge
  | noWordEdge
  | wordStart
  | wordEnd
  | wordStartHalf
  | wordEndHalf
  deriving DecidableEq, Repr

/-- An expression. A row and a choice have at least two members. -/
inductive Written where
  | blank
  | flags (flags : Flags)
  | char (c : WrittenChar)
  | dot (span : Span)
  | anchor (span : Span) (a : WrittenAnchor)
  | set (c : CharClass)
  | repeated (span : Span) (r : Written) (least : Nat) (most : Option Nat)
  | group (span : Span) (flags : Flags) (r : Written)
  | choice (span : Span) (members : List Written)
  | sequence (span : Span) (members : List Written)
  deriving Repr

/-- Where a part stands that may be repeated or stand in a row; nowhere in particular for others. -/
def Written.span? : Written → Option Span
  | blank | flags _ => none
  | char c => some c.span
  | dot span => some span
  | anchor span _ => some span
  | set c => some c.span
  | repeated span .. => some span
  | group span .. => some span
  | choice span _ => some span
  | sequence span _ => some span

mutual

/-- The first part of a class that is nested too deeply. -/
def CharClass.tooDeep? (depth : Nat) : CharClass → Option Span
  | .bracketed span _ content =>
    if nestingLimit ≤ depth then some span else content.tooDeep? (depth + 1)
  | .union span members =>
    if nestingLimit ≤ depth then some span else CharClass.anyTooDeep? (depth + 1) members
  | .operation _ a b =>
    if nestingLimit ≤ depth then some ⟨a.span.first, b.span.last⟩
    else (a.tooDeep? (depth + 1)).or (b.tooDeep? (depth + 1))
  | _ => none

/-- The first part of some classes that is nested too deeply. -/
def CharClass.anyTooDeep? (depth : Nat) : List CharClass → Option Span
  | [] => none
  | c :: cs => (c.tooDeep? depth).or (CharClass.anyTooDeep? depth cs)

end

mutual

/-- The first part that is nested too deeply. -/
def Written.tooDeep? (depth : Nat) : Written → Option Span
  | .set c => c.tooDeep? depth
  | .repeated span r _ _ => if nestingLimit ≤ depth then some span else r.tooDeep? (depth + 1)
  | .group span _ r => if nestingLimit ≤ depth then some span else r.tooDeep? (depth + 1)
  | .choice span rs =>
    if nestingLimit ≤ depth then some span else Written.anyTooDeep? (depth + 1) rs
  | .sequence span rs =>
    if nestingLimit ≤ depth then some span else Written.anyTooDeep? (depth + 1) rs
  | _ => none

/-- The first part of a row that is nested too deeply. -/
def Written.anyTooDeep? (depth : Nat) : List Written → Option Span
  | [] => none
  | r :: rs => (r.tooDeep? depth).or (Written.anyTooDeep? depth rs)

end

end PipeShell.Regex
