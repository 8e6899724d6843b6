import PipeShell.Regex.Basic
import PipeShell.Text.Octets

/-!
# Basic and extended regular expressions

The two forms differ in which characters have a meaning as they are and which behind a backslash. In
the basic form a sign of repetition stands for itself where there is nothing to repeat; in the
extended form it is skipped there, with a warning. Both have references to groups, intervals, and
the backslash letters for words, blanks and edges.

## Main definitions

* `Dialect`: the two forms, and whether the case of letters matters
* `Posix.Fault`: what can be wrong with an expression
* `Posix.parse`: reads an expression
-/

namespace PipeShell.Regex.Posix

/-- The form of an expression, and whether either case of a letter stands for both. -/
structure Dialect where
  extended : Bool
  anyCase : Bool

/-- What can be wrong with an expression. -/
inductive Fault where
  | malformed
  | collation
  | className
  | trailingBackslash
  | reference
  | openBracket
  | openGroup
  | openInterval
  | badInterval
  | badRange
  | tooBig
  | closedGroup
  | lonelyClass
  deriving DecidableEq, Repr

def Fault.message : Fault → String
  | malformed => "Invalid regular expression"
  | collation => "Invalid collation character"
  | className => "Invalid character class name"
  | trailingBackslash => "Trailing backslash"
  | reference => "Invalid back reference"
  | openBracket => "Unmatched [, [^, [:, [., or [="
  | openGroup => "Unmatched ( or \\("
  | openInterval => "Unmatched \\\x7b"
  | badInterval => "Invalid content of \\\x7b\\\x7d"
  | badRange => "Invalid range end"
  | tooBig => "Regular expression too big"
  | closedGroup => "Unmatched ) or \\)"
  | lonelyClass => "character class syntax is [[:space:]], not [:space:]"

/-! ## Brackets -/

/-- The set of a named class. -/
def namedSet? (name : String) : Option CharSet :=
  match name with
  | "alnum" => some (.ofRanges [('0', '9'), ('A', 'Z'), ('a', 'z')])
  | "alpha" => some (.ofRanges [('A', 'Z'), ('a', 'z')])
  | "blank" => some (.ofList ['\t', ' '])
  | "cntrl" => some (.ofRanges [('\x00', '\x1f'), ('\x7f', '\x7f')])
  | "digit" => some (.range '0' '9')
  | "graph" => some (.range '!' '~')
  | "lower" => some (.range 'a' 'z')
  | "print" => some (.range ' ' '~')
  | "punct" => some (.ofRanges [('!', '/'), (':', '@'), ('[', '\x60'), ('\x7b', '~')])
  | "space" => some (.ofRanges [('\t', '\r'), (' ', ' ')])
  | "upper" => some (.range 'A' 'Z')
  | "xdigit" => some (.ofRanges [('0', '9'), ('A', 'F'), ('a', 'f')])
  | _ => none

/-- A member of a bracket: a character, which may begin or end a range, or a set. -/
inductive Member where
  | char (c : Char)
  | set (s : CharSet)

/-- The name between the signs of a named member, and what follows it. -/
def nameOf (sign : Char) : (name : List Char) → List Char → Option (List Char × List Char)
  | name, c :: ']' :: rest =>
    if c = sign then some (name.reverse, rest) else nameOf sign (c :: name) (']' :: rest)
  | name, c :: rest => nameOf sign (c :: name) rest
  | _, [] => none

/-- Reads a member. A dash must be the first member or the last or the end of a range. -/
def member (dashAllowed : Bool) : List Char → Except Fault (Member × List Char)
  | [] => .error .openBracket
  | '[' :: ':' :: rest =>
    match nameOf ':' [] rest with
    | none => .error .openBracket
    | some (name, rest) =>
      match namedSet? (String.ofList name) with
      | some s => .ok (.set s, rest)
      | none => .error .className
  | '[' :: '=' :: rest => named rest '=' fun c => .set (.single c)
  | '[' :: '.' :: rest => named rest '.' .char
  | '-' :: rest =>
    if !dashAllowed && rest.head? != some ']' then .error .badRange else .ok (.char '-', rest)
  | c :: rest => .ok (.char c, rest)
where
  /-- A member that is named by a character between two signs. -/
  named (rest : List Char) (sign : Char) (make : Char → Member) :
      Except Fault (Member × List Char) :=
    match nameOf sign [] rest with
    | some ([c], rest) => .ok (make c, rest)
    | some _ => .error .collation
    | none => .error .openBracket

/-- Reads the members up to the closing bracket; `first` tells that none has been read. -/
def members : (count : Nat) → (first : Bool) → CharSet → List Char →
    Except Fault (CharSet × List Char)
  | 0, _, _, _ => .error .openBracket
  | count + 1, first, set, cs =>
    match cs with
    | [] => .error .openBracket
    | c :: rest =>
      if c == ']' && !first then .ok (set, rest)
      else do
        let (low, rest) ← member first cs
        match low, rest with
        | _, [] => .error .openBracket
        | .set s, rest => members count false (.either set s) rest
        | .char _, '-' :: [] => .error .openBracket
        | .char low, '-' :: ']' :: rest =>
          .ok (.either set (.either (.single low) (.single '-')), rest)
        | .char low, '-' :: rest => do
          match ← member true rest with
          | (.char high, rest) =>
            if high < low then .error .badRange
            else members count false (.either set (.range low high)) rest
          | (.set _, _) => .error .badRange
        | .char c, rest => members count false (.either set (.single c)) rest

/-- The content of a bracket looks like the name of a class with its colons. -/
def looksNamed (content : List Char) : Bool :=
  3 ≤ content.length && content.head? == some ':' && content.getLast? == some ':' &&
    !content.contains '-' && !content.contains '['

/-- Reads a bracket, whose opening has been read. -/
def bracket (d : Dialect) (cs : List Char) : Except Fault (CharSet × List Char) := do
  let negated := cs.head? == some '^'
  let inner := if negated then cs.drop 1 else cs
  if inner.isEmpty then .error .malformed
  else
    let (set, rest) ← members (inner.length + 1) true .none inner
    if looksNamed (inner.take (inner.length - rest.length - 1)) then .error .lonelyClass
    else
      let set := if d.anyCase then set.withBothCases else set
      .ok (if negated then .other (.either set (.single '\n')) else set, rest)

/-! ## Intervals -/

/-- The largest count in an interval. -/
def maxCount : Nat := 32767

/-- A number in an interval: there may be none, or something else in its place. -/
inductive Count where
  | missing
  | bad
  | number (n : Nat)
  deriving DecidableEq

/-- What a number in an interval ends with. -/
inductive CountEnd where
  | nothing
  | comma
  | close
  deriving DecidableEq

/-- Reads a number in an interval, what it ends with, and the rest. -/
def count (d : Dialect) : Count → List Char → Count × CountEnd × List Char
  | _, [] => (.bad, .nothing, [])
  | n, ',' :: rest => (n, .comma, rest)
  | n, '\\' :: '\x7d' :: rest => if d.extended then count d .bad rest else (n, .close, rest)
  | n, c :: rest =>
    if d.extended && c == '\x7d' then (n, .close, rest)
    else if c.isDigit then
      let digit := c.toNat - 48
      count d (match n with
        | .bad => .bad
        | .missing => .number digit
        | .number n => .number (min (maxCount + 1) (n * 10 + digit))) rest
    else count d .bad rest

/-- Reads an interval, whose opening brace has been read. In the extended form an interval that is
none stands for its characters. -/
def interval? (d : Dialect) (cs : List Char) :
    Except Fault (Option ((Nat × Option Nat) × List Char)) :=
  let bad := fun (atEnd : Bool) =>
    if d.extended then .ok none else .error (if atEnd then Fault.openInterval else .badInterval)
  let finish := fun (least : Nat) (most : Option Nat) (closed : Bool) (rest : List Char) =>
    if most.any (· < least) || !closed then .error .badInterval
    else if maxCount < most.getD least then .error .tooBig
    else .ok (some ((least, most), rest))
  match count d .missing cs with
  | (.missing, .comma, rest) => second bad (finish 0) rest
  | (.missing, _, _) => .error .badInterval
  | (.bad, ending, _) => bad (ending == .nothing)
  | (.number n, .comma, rest) => second bad (finish n) rest
  | (.number n, _, rest) => finish n (some n) true rest
where
  /-- The number behind the comma. -/
  second (bad : Bool → Except Fault (Option ((Nat × Option Nat) × List Char)))
      (finish : Option Nat → Bool → List Char → Except Fault
        (Option ((Nat × Option Nat) × List Char)))
      (cs : List Char) : Except Fault (Option ((Nat × Option Nat) × List Char)) :=
    match count d .missing cs with
    | (.bad, ending, _) => bad (ending == .nothing)
    | (.missing, ending, rest) => finish none (ending == .close) rest
    | (.number n, ending, rest) => finish (some n) (ending == .close) rest

/-! ## Expressions -/

/-- Where reading stands: what is left, how many groups have been opened, which have been closed,
and the signs that had nothing to repeat. -/
structure State where
  rest : List Char
  opened : Nat := 0
  closed : List Nat := []
  idle : List String := []

/-- A step of reading. -/
abbrev Reading := StateT State (Except Fault)

/-- A character that is matched. -/
def literal (d : Dialect) (c : Char) : Regex :=
  .one (if d.anyCase then (CharSet.single c).withBothCases else .single c)

/-- A character of a word. -/
def wordSet : CharSet := .ofRanges [('0', '9'), ('A', 'Z'), ('_', '_'), ('a', 'z')]

/-- A blank. -/
def spaceSet : CharSet := .ofRanges [('\t', '\r'), (' ', ' ')]

/-- What a letter behind a backslash stands for, if it has a meaning of its own. -/
def letter? (c : Char) : Option Regex :=
  match c with
  | 'w' => some (.one wordSet)
  | 'W' => some (.one (.other wordSet))
  | 's' => some (.one spaceSet)
  | 'S' => some (.one (.other spaceSet))
  | 'b' => some (.anchor .wordEdge)
  | 'B' => some (.anchor .noWordEdge)
  | '<' => some (.anchor .wordStart)
  | '>' => some (.anchor .wordEnd)
  | '\x60' => some (.anchor .textStart)
  | '\'' => some (.anchor .textEnd)
  | _ => none

/-- A sign that has a meaning of its own. -/
inductive Sign where
  | open
  | close
  | bar
  | brace
  | repetition (name : String) (least : Nat) (most : Option Nat)

/-- The sign that a character stands for, behind a backslash or not. -/
def sign? (d : Dialect) (escaped : Bool) (c : Char) : Option Sign :=
  if c == '*' && !escaped then some (.repetition "*" 0 none)
  else if d.extended == escaped then none
  else match c with
    | '(' => some .open
    | ')' => some .close
    | '|' => some .bar
    | '\x7b' => some .brace
    | '+' => some (.repetition "+" 1 none)
    | '?' => some (.repetition "?" 0 (some 1))
    | _ => none

/-- Repeats the last part of a row, the latest first. -/
def repeatLast (least : Nat) (most : Option Nat) : List Regex → List Regex
  | [] => []
  | r :: rs => .repeated r least most :: rs

/-- The end of a line stands here in the basic form. -/
def isBasicEnd (rest : List Char) : Bool :=
  match rest with
  | [] => true
  | '\\' :: c :: _ => c == ')' || c == '|'
  | _ => false

/-- The row of parts that have been read, the latest first. -/
def rowOf (parts : List Regex) : Regex := Regex.ofSequence parts.reverse

/-- Reads alternatives up to the end or the parenthesis that closes the group around them; `start`
tells that there is nothing to repeat yet. -/
def alternatives (d : Dialect) : (fuel : Nat) → (depth : Nat) → (start : Bool) →
    (parts : List Regex) → Reading Regex
  | 0, _, _, parts => pure (rowOf parts)
  | fuel + 1, depth, start, parts => do
    let s ← get
    let goOn := fun (rest : List Char) (part : Regex) => do
      set { s with rest }
      alternatives d fuel depth false (part :: parts)
    let sign := fun (sign : Sign) (c : Char) (rest : List Char) => do
      match sign with
      | .open => do
        let number := s.opened + 1
        set { s with rest, opened := number }
        let inner ← alternatives d fuel (depth + 1) true []
        match (← get).rest with
        | [] => throw .openGroup
        | rest => do
          modify fun s => { s with
            rest := rest.drop (if d.extended then 1 else 2), closed := number :: s.closed }
          alternatives d fuel depth false (.group number inner :: parts)
      | .close =>
        if depth = 0 then if d.extended then goOn rest (literal d c) else throw .closedGroup
        else return rowOf parts
      | .bar => do
        set { s with rest }
        return .choice (rowOf parts) (← alternatives d fuel depth true [])
      | .brace =>
        if start && !d.extended then goOn rest (literal d c)
        else match ← MonadExcept.ofExcept (if start then .ok ((interval? d rest).toOption.bind id)
            else interval? d rest) with
          | none => goOn rest (literal d c)
          | some ((least, most), rest) => do
            let idle := if start then s.idle ++ ["\x7b...\x7d"] else s.idle
            set { s with rest, idle }
            alternatives d fuel depth start (if start then parts else repeatLast least most parts)
      | .repetition name least most =>
        if start && !d.extended then goOn rest (literal d c)
        else do
          let idle := if start then s.idle ++ [name] else s.idle
          set { s with rest, idle }
          alternatives d fuel depth start (if start then parts else repeatLast least most parts)
    match s.rest with
    | [] => return rowOf parts
    | '\\' :: [] => throw .trailingBackslash
    | '\\' :: c :: rest =>
      match sign? d true c with
      | some found => sign found c rest
      | none =>
        if '1' ≤ c && c ≤ '9' then
          let number := c.toNat - 48
          if s.closed.contains number then goOn rest (.again number d.anyCase)
          else throw .reference
        else goOn rest ((letter? c).getD (literal d c))
    | '[' :: rest => do
      let (found, rest) ← MonadExcept.ofExcept (bracket d rest)
      goOn rest (.one found)
    | '.' :: rest => goOn rest (.one .all)
    | '^' :: rest =>
      if start || d.extended then do
        set { s with rest }
        alternatives d fuel depth start (.anchor .textStart :: parts)
      else goOn rest (literal d '^')
    | '$' :: rest =>
      if d.extended || isBasicEnd rest then goOn rest (.anchor .textEnd)
      else goOn rest (literal d '$')
    | c :: rest =>
      match sign? d false c with
      | some found => sign found c rest
      | none => goOn rest (literal d c)

/-- A group is referred to somewhere. -/
def refersBack : Regex → Bool
  | .again .. => true
  | .sequence a b | .choice a b => refersBack a || refersBack b
  | .repeated r .. | .group _ r => refersBack r
  | _ => false

/-- The expression without memory of its groups. -/
def forget : Regex → Regex
  | .sequence a b => .sequence (forget a) (forget b)
  | .choice a b => .choice (forget a) (forget b)
  | .repeated r least most => .repeated (forget r) least most
  | .group _ r => forget r
  | r => r

/-- Reads an expression, and tells the signs that had nothing to repeat. Groups are remembered only
where one is referred to. -/
def parse (d : Dialect) (text : List Char) : Except Fault (Regex × List String) :=
  match (alternatives d (2 * text.length + 2) 0 true []).run { rest := text } with
  | .error fault => .error fault
  | .ok (r, s) => .ok (if refersBack r then r else forget r, s.idle)

end PipeShell.Regex.Posix
