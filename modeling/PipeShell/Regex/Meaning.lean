import PipeShell.Regex.Reader

/-!
# What a written regular expression means

Flags hold from where they stand to the end of the group around them, in all its alternatives. No
tables of Unicode properties are at hand: letters of other scripts have no case, and the classes and
edges of words are known only where Unicode is turned off, when nothing may match a part of a
character.

## Main definitions

* `Settings`: the flags that hold
* `Written.meaning`: the expression that is meant
* `Refusal`, `Regex.ofPattern`: reads an expression, or tells why not
-/

namespace PipeShell.Regex

/-- The flags that hold. Greed makes no difference to where matches may end. -/
structure Settings where
  anyCase : Bool := false
  multiLine : Bool := false
  dotMatchesAll : Bool := false
  unicode : Bool := true
  returns : Bool := false
  /-- An edge of a word was asked for under Unicode. -/
  unicodeWords : Bool := false

/-- Turns flags on and off. -/
def Settings.take (s : Settings) (flags : Flags) : Settings :=
  flags.foldl (fun s f =>
    match f.1 with
    | .anyCase => { s with anyCase := f.2 }
    | .multiLine => { s with multiLine := f.2 }
    | .dotMatchesAll => { s with dotMatchesAll := f.2 }
    | .unicode => { s with unicode := f.2 }
    | .returns => { s with returns := f.2 }
    | .swapGreed | .spaced => s) s

/-- A step of finding out what is meant. -/
abbrev Meaning := StateT Settings (Except Fault)

namespace Meaning

/-- A fault that marks a part. -/
def fail {α : Type} (problem : Problem) (span : Span) : Meaning α := throw ⟨problem, span, none⟩

/-- A set in both cases of letters, if that is wanted. -/
def folded (span : Span) (set : CharSet) : Meaning CharSet := do
  let s ← get
  if !s.anyCase then return set
  else if s.unicode then fail .foldedCase span
  else return set.withBothCases

/-- A set or what is not in it. -/
def negated (negated : Bool) (set : CharSet) : CharSet := if negated then .other set else set

/-- A set that is matched byte by byte has no bytes beyond ASCII. -/
def checked (span : Span) (set : CharSet) : Meaning CharSet := do
  if !(← get).unicode && (List.range 128).any (fun i => set.contains (Char.ofNat (i + 128))) then
    fail .brokenUtf8 span
  else return set

/-- A character that is matched. -/
def char (c : WrittenChar) : Meaning Char := do
  if !(← get).unicode && c.isByte && 0x7F < c.char.toNat then fail .brokenUtf8 c.span
  else return c.char

/-- A character in a class. -/
def member (c : WrittenChar) : Meaning Char := do
  let char ← char c
  if !(← get).unicode && 0x7F < char.toNat then fail .noUnicode c.span else return char

/-- The set of a class that a letter behind a backslash stands for. -/
def perlSet (kind : PerlClass) : CharSet :=
  match kind with
  | .digit => .range '0' '9'
  | .space => .ofRanges [('\t', '\r'), (' ', ' ')]
  | .word => .ofRanges [('0', '9'), ('A', 'Z'), ('_', '_'), ('a', 'z')]

end Meaning

open Meaning

mutual

/-- The set of a class. -/
def CharClass.meaning : CharClass → Meaning CharSet
  | .char c => do return .single (← member c)
  | .range _ low high => do return .range (← member low) (← member high)
  | .named span set isNegated => do checked span (negated isNegated (← folded span set))
  | .perl span kind isNegated => do
    if (← get).unicode then Meaning.fail .perlClass span
    else checked span (negated isNegated (perlSet kind))
  | .property span problem => do
    Meaning.fail (if (← get).unicode then problem else .noUnicode) span
  | .bracketed span isNegated content => do
    checked span (negated isNegated (← folded span (← content.meaning)))
  | .blank _ => return .none
  | .union _ members => CharClass.unionMeaning members
  | .operation kind a b => do
    let left ← a.meaning
    let right ← b.meaning
    let right ← folded b.span right
    let left ← folded a.span left
    match kind with
    | .intersection => return .both left right
    | .difference => return left.minus right
    | .differing => return left.differing right

/-- The set of all members. -/
def CharClass.unionMeaning : List CharClass → Meaning CharSet
  | [] => return .none
  | c :: cs => do
    let first ← c.meaning
    return .either first (← CharClass.unionMeaning cs)

end

/-- The anchor that is meant. -/
def WrittenAnchor.meaning (a : WrittenAnchor) : Meaning Anchor := do
  let s ← get
  let word := fun (anchor : Anchor) => do
    if s.unicode then set { s with unicodeWords := true } else pure ()
    return anchor
  match a with
  | caret =>
    return if !s.multiLine then .textStart else if s.returns then .returnStart else .lineStart
  | dollar =>
    return if !s.multiLine then .textEnd else if s.returns then .returnEnd else .lineEnd
  | textStart => return .textStart
  | textEnd => return .textEnd
  | wordEdge => word .wordEdge
  | noWordEdge => word .noWordEdge
  | wordStart => word .wordStart
  | wordEnd => word .wordEnd
  | wordStartHalf => word .noWordBefore
  | wordEndHalf => word .noWordAfter

/-- The set that a dot stands for. -/
def dotSet (span : Span) : Meaning CharSet := do
  let s ← get
  if !s.unicode then Meaning.fail .brokenUtf8 span
  else if s.dotMatchesAll then return .all
  else if s.returns then return .other (.ofList ['\n', '\r'])
  else return .other (.single '\n')

/-- The set that a character stands for. -/
def charSet (c : WrittenChar) : Meaning CharSet := do
  let char ← Meaning.char c
  let s ← get
  if !s.anyCase then return .single char
  else if s.unicode then Meaning.fail .foldedCase c.span
  else if 0x7F < char.toNat then Meaning.fail .noUnicode c.span
  else return (CharSet.single char).withBothCases

mutual

/-- The expression that is meant. -/
def Written.meaning : Written → Meaning Regex
  | .blank => return .empty
  | .flags changes => do
    modify fun s => s.take changes
    return .empty
  | .char c => do return .one (← charSet c)
  | .dot span => do return .one (← dotSet span)
  | .anchor _ a => do return .anchor (← a.meaning)
  | .set c => do return .one (← c.meaning)
  | .repeated _ r least most => do
    let before := (← get).unicodeWords
    let r ← r.meaning
    if most == some 0 then do
      modify fun s => { s with unicodeWords := before }
      return .empty
    else return .repeated r least most
  | .group _ changes r => do
    let before ← getModify fun s => s.take changes
    let r ← r.meaning
    modify fun s => { before with unicodeWords := s.unicodeWords }
    return r
  | .choice _ members => do return Regex.ofChoices (← Written.allMeanings members)
  | .sequence _ members => do return Regex.ofSequence (← Written.allMeanings members)

/-- The expressions that are meant by parts in order. -/
def Written.allMeanings : List Written → Meaning (List Regex)
  | [] => return []
  | w :: ws => do
    let first ← w.meaning
    return first :: (← Written.allMeanings ws)

end

/-- Why an expression is not accepted: there is a fault in it, it asks for what there are no tables
for, or it takes too much room. -/
inductive Refusal where
  | fault (f : Fault)
  | noTables
  | tooBig

/-- The most bytes that an expression may take. -/
def roomLimit : Nat := 10485760

/-- There are surely no characters beyond ASCII in the set. -/
def CharSet.isAscii (set : CharSet) : Bool :=
  match set with
  | .range _ high => high.toNat < 128
  | .none => true
  | .either a b => CharSet.isAscii a && CharSet.isAscii b
  | .both a b => CharSet.isAscii a || CharSet.isAscii b
  | .other _ => false

/-- The bytes that an expression takes, about 32 for each byte of a character that is matched. -/
def room : Regex → Nat
  | nothing | empty | again .. => 32
  | one (.range low high) =>
    if low = high then 32 * low.utf8Size else if high.toNat < 128 then 32 else 368
  | one set => if CharSet.isAscii set then 48 else 368
  | anchor _ => 32
  | sequence a b => room a + room b
  | choice a b => room a + room b + 36
  | repeated r least most =>
    match most with
    | none => room r * max 1 least + 40
    | some most => room r * most + 40 * (most - least)
  | group _ r => room r + 64

/-- Reads an expression, or tells why not. -/
def ofPattern (text : String) : Except Refusal Regex :=
  match Written.ofString text with
  | .error fault => .error (.fault fault)
  | .ok written =>
    match written.meaning.run {} with
    | .error fault => .error (.fault fault)
    | .ok (r, s) =>
      if s.unicodeWords then .error .noTables
      else if roomLimit < room r then .error .tooBig
      else .ok r

/-- The text that reports a refusal. -/
def Refusal.report (pattern : String) : Refusal → String
  | fault f => f.report pattern
  | noTables => "error building NFA"
  | tooBig => "Compiled regex exceeds size limit of " ++ Nat.repr roomLimit ++ " bytes."

end PipeShell.Regex
