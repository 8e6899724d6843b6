import PipeShell.Regex.Written

/-!
# Reading regular expressions

Characters stand for themselves except `\ . + * ? ( ) | [ { ^ $`. An expression is read in one pass;
what has been opened and not yet closed, groups and choices on the one hand and classes on the
other, waits on a stack. Flags can have blanks and comments between the parts skipped.

## Main definitions

* `Cursor`, `Reading`: where reading stands, and a step of it
* `readEscape`, `readClass`, `readGroup`, `readCounted`: the parts
* `Written.ofString`: reads an expression
-/

namespace PipeShell.Regex

/-- Where reading stands: what is left, the place of it, whether blanks and comments are skipped,
and the names of groups so far. -/
structure Cursor where
  rest : List Char
  place : Place := ⟨1, 1⟩
  spaced : Bool := false
  names : List (String × Span) := []

/-- A step of reading. -/
abbrev Reading := StateT Cursor (Except Fault)

namespace Cursor

/-- Goes on by one character. -/
def bump (c : Cursor) : Cursor :=
  match c.rest with
  | [] => c
  | first :: rest => { c with rest, place := c.place.after first }

/-- Goes on by a number of characters. -/
def skip : (count : Nat) → Cursor → Cursor
  | 0, c => c
  | count + 1, c => skip count c.bump

/-- How many characters of blanks and comments a text begins with. -/
def gap : (comment : Bool) → List Char → Nat
  | _, [] => 0
  | true, c :: cs => gap (c != '\n') cs + 1
  | false, c :: cs =>
    if Text.isBlank c then gap false cs + 1 else if c == '#' then gap true cs + 1 else 0

/-- Goes on behind blanks and comments, where they are skipped. -/
def skipGap (c : Cursor) : Cursor := if c.spaced then c.skip (gap false c.rest) else c

/-- The next character. -/
def char? (c : Cursor) : Option Char := c.rest.head?

/-- The character after the next, behind blanks and comments where they are skipped. -/
def peekBehindGap (c : Cursor) : Option Char := c.bump.skipGap.char?

/-- From a place up to here. -/
def since (c : Cursor) (first : Place) : Span := ⟨first, c.place⟩

/-- Nothing but the present place. -/
def here (c : Cursor) : Span := ⟨c.place, c.place⟩

/-- The next character's part. -/
def charSpan (c : Cursor) : Span := ⟨c.place, c.bump.place⟩

end Cursor

namespace Reading

/-- A fault that marks a part. -/
def fail {α : Type} (problem : Problem) (span : Span) : Reading α := throw ⟨problem, span, none⟩

/-- A fault that marks the present place. -/
def failHere {α : Type} (problem : Problem) : Reading α := do fail problem (← get).here

/-- A fault that marks the next character. -/
def failAtChar {α : Type} (problem : Problem) : Reading α := do fail problem (← get).charSpan

/-- A fault that marks everything from a place on. -/
def failSince {α : Type} (problem : Problem) (first : Place) : Reading α := do
  fail problem ((← get).since first)

def char? : Reading (Option Char) := do return (← get).char?

def place : Reading Place := do return (← get).place

/-- Goes on by one character. -/
def bump : Reading Unit := modify Cursor.bump

/-- Goes on by one character and behind blanks and comments. -/
def advance : Reading Unit := modify fun c => c.bump.skipGap

/-- Takes a text that stands next, if it does. -/
def take? (text : String) : Reading Bool := do
  let c ← get
  if text.toList.isPrefixOf c.rest then
    set (c.skip text.length)
    return true
  else return false

/-- Takes the first of some texts that stands next, if one does. -/
def takeOne? : List String → Reading Bool
  | [] => pure false
  | text :: rest => do if ← take? text then return true else takeOne? rest

/-- Takes characters as long as they are of a kind, up to a number of them. -/
def takeWithin (p : Char → Bool) : (count : Nat) → Reading (List Char)
  | 0 => pure []
  | count + 1 => do
    match ← char? with
    | some c =>
      if p c then do
        advance
        return c :: (← takeWithin p count)
      else return []
    | none => return []

/-- Takes characters as long as they are of a kind. -/
def takeWhile (p : Char → Bool) : Reading (List Char) := do takeWithin p (← get).rest.length

end Reading

open Reading

/-! ## Numbers and escapes -/

/-- The value of digits that satisfy what is asked of them. -/
def valueOf (base : Nat) (digits : List Char) : Nat :=
  digits.foldl (fun n c =>
    n * base + (if c.isDigit then c.toNat - 48 else c.toLower.toNat - 87)) 0

/-- A number in braces. What is wrong with it is told only where the number is needed. -/
def readDecimal : Reading (Except Fault Nat) := do
  let c ← get
  set (c.skip (c.rest.takeWhile Text.isBlank).length)
  let first ← place
  let digits ← takeWhile Char.isDigit
  let span := (← get).since first
  let _ ← takeWhile Text.isBlank
  if digits.isEmpty then return .error ⟨.noCount, span, none⟩
  else if valueOf 10 digits < Nat.pow 2 32 then return .ok (valueOf 10 digits)
  else return .error ⟨.badNumber, span, none⟩

def isHex (c : Char) : Bool := c.isDigit || ('a' ≤ c && c ≤ 'f') || ('A' ≤ c && c ≤ 'F')

/-- The character of a number. -/
def scalar? (n : Nat) : Option Char := if n.isValidChar then some (Char.ofNat n) else none

/-- A given number of hexadecimal digits. -/
def readHexDigits : (count : Nat) → Reading (List Char)
  | 0 => pure []
  | count + 1 => do
    match ← char? with
    | none => failHere .endInEscape
    | some c =>
      if isHex c then do
        advance
        return c :: (← readHexDigits count)
      else failAtChar .badHexDigit

/-- A character by its number, the letter behind the backslash coming next. -/
def readHex (start : Place) (count : Nat) : Reading WrittenChar := do
  advance
  let first ← place
  match ← char? with
  | none => failHere .endInEscape
  | some '\x7b' => do
    advance
    let digits ← takeWhile isHex
    let last ← place
    match ← char? with
    | none => failSince .endInEscape first
    | some '\x7d' => do
      advance
      if digits.isEmpty then failSince .emptyHex first
      else match scalar? (valueOf 16 digits) with
        | some char => return ⟨(← get).since start, char, false⟩
        | none => fail .badHex ⟨⟨first.line, first.column + 1⟩, last⟩
    | some _ => failAtChar .badHexDigit
  | some _ => do
    let digits ← readHexDigits count
    match scalar? (valueOf 16 digits) with
    | some char => return ⟨(← get).since start, char, count == 2⟩
    | none => failSince .badHex first

/-- Why the property of a name is not known. -/
def propertyProblem (name : List Char) : Problem :=
  let plain := (name.filter fun c => !(c == ' ' || c == '_' || c == '-')).map Char.toLower
  let bare := if ['i', 's'].isPrefixOf plain && plain != "isc".toList then plain.drop 2 else plain
  if ["cf", "sc", "lc"].contains (String.ofList bare) then .unknownPropertyValue
  else .unknownProperty

/-- A class by the name of a property, the letter behind the backslash coming next. -/
def readProperty (start : Place) : Reading CharClass := do
  advance
  match ← char? with
  | none => failHere .endInEscape
  | some '\x7b' => do
    advance
    let name ← takeWhile (· != '\x7d')
    if (← char?).isNone then failHere .endInEscape
    else do
      bump
      return .property ((← get).since start) (propertyProblem name)
  | some '\\' => failAtChar .badProperty
  | some c => do
    advance
    return .property ((← get).since start) (propertyProblem [c])

/-- What stands for one character, or for an anchor, or for a class. -/
inductive Atom where
  | char (c : WrittenChar)
  | anchor (span : Span) (a : WrittenAnchor)
  | set (c : CharClass)

def Atom.span : Atom → Span
  | char c => c.span
  | anchor span _ => span
  | set c => c.span

def Atom.written : Atom → Written
  | char c => .char c
  | anchor span a => .anchor span a
  | set c => .set c

/-- The name in braces behind the sign of a word's edge, where there may also be a count. -/
def readWordEdge? (start : Place) : Reading (Option WrittenAnchor) := do
  let c ← get
  let isLetter := fun (c : Char) => c.isAlpha || c == '-'
  advance
  let first ← place
  match ← char? with
  | none => failSince .endInBrace start
  | some next =>
    if !isLetter next then do
      set c
      return none
    else do
      let name ← takeWhile isLetter
      if (← char?) != some '\x7d' then failSince .openWordEdge c.place
      else do
        let last ← place
        bump
        match String.ofList name with
        | "start" => return some .wordStart
        | "end" => return some .wordEnd
        | "start-half" => return some .wordStartHalf
        | "end-half" => return some .wordEndHalf
        | _ => fail .unknownWordEdge ⟨first, last⟩

/-- The characters with a meaning of their own. -/
def isMeta (c : Char) : Bool := "\\.+*?()|[]\x7b\x7d^$#&-~".toList.contains c

/-- What a backslash and a character stand for. -/
def readEscape : Reading Atom := do
  let start ← place
  bump
  match ← char? with
  | none => failSince .endInEscape start
  | some c =>
    if c.isDigit then do
      bump
      failSince .reference start
    else match c with
      | 'x' => return .char (← readHex start 2)
      | 'u' => return .char (← readHex start 4)
      | 'U' => return .char (← readHex start 8)
      | 'p' | 'P' => return .set (← readProperty start)
      | _ => do
        bump
        let span := (← get).since start
        let char := fun (c : Char) => pure (Atom.char ⟨span, c, false⟩)
        let perl := fun (kind : PerlClass) (negated : Bool) =>
          pure (Atom.set (.perl span kind negated))
        let anchor := fun (a : WrittenAnchor) => pure (Atom.anchor span a)
        match c with
        | 'd' => perl .digit false
        | 'D' => perl .digit true
        | 's' => perl .space false
        | 'S' => perl .space true
        | 'w' => perl .word false
        | 'W' => perl .word true
        | 'a' => char '\x07'
        | 'f' => char '\x0c'
        | 't' => char '\t'
        | 'n' => char '\n'
        | 'r' => char '\r'
        | 'v' => char '\x0b'
        | 'A' => anchor .textStart
        | 'z' => anchor .textEnd
        | 'B' => anchor .noWordEdge
        | '<' => anchor .wordStart
        | '>' => anchor .wordEnd
        | 'b' =>
          if (← char?) == some '\x7b' then do
            match ← readWordEdge? start with
            | some a => return .anchor ((← get).since start) a
            | none => anchor .wordEdge
          else anchor .wordEdge
        | c =>
          if isMeta c || (c.toNat < 128 && !c.isAlphanum) then char c
          else fail .unknownEscape span

/-! ## Classes -/

/-- Members of a class that stand side by side, the latest first. -/
structure Members where
  span : Span
  items : List CharClass := []

def Members.add (m : Members) (c : CharClass) : Members :=
  ⟨⟨if m.items.isEmpty then c.span.first else m.span.first, c.span.last⟩, c :: m.items⟩

/-- The class that members make up. -/
def Members.class (m : Members) : CharClass :=
  match m.items with
  | [] => .blank m.span
  | [c] => c
  | items => .union m.span items.reverse

/-- What waits for a class to be closed: an opened class with the members before it, or the left
side of an operation. -/
inductive ClassFrame where
  | opened (outer : Members) (span : Span) (negated : Bool)
  | operation (kind : ClassOperation) (left : CharClass)

/-- The part that marks the innermost class that is still open. -/
def openClassSpan (fallback : Span) : List ClassFrame → Span
  | .opened _ span _ :: _ => span
  | .operation .. :: rest => openClassSpan fallback rest
  | [] => fallback

/-- Dashes at the beginning of a class stand for themselves. -/
def readDashes (start : Place) : (count : Nat) → Members → Reading Members
  | 0, m => pure m
  | count + 1, m => do
    if (← char?) == some '-' then do
      let m := m.add (.char ⟨(← get).charSpan, '-', false⟩)
      advance
      if (← char?).isNone then fail .openClass ⟨start, start⟩
      else readDashes start count m
    else return m

/-- The beginning of a class: what it marks, whether it is negated, and its first members. -/
def readClassOpening : Reading (Span × Bool × Members) := do
  let start ← place
  advance
  if (← char?).isNone then failSince .openClass start
  else do
    let negated := (← char?) == some '^'
    if negated then do
      advance
      if (← char?).isNone then failSince .openClass start else pure ()
    else pure ()
    let c ← get
    let m ← readDashes start c.rest.length ⟨c.here, []⟩
    if m.items.isEmpty && (← char?) == some ']' then do
      let m := m.add (.char ⟨(← get).charSpan, ']', false⟩)
      advance
      if (← char?).isNone then failSince .openClass start
      else return ((← get).since start, negated, m)
    else return ((← get).since start, negated, m)

/-- The set of a named class. -/
def namedSet? (name : String) : Option CharSet :=
  let lower : Char × Char := ('a', 'z')
  let upper : Char × Char := ('A', 'Z')
  let digit : Char × Char := ('0', '9')
  match name with
  | "alnum" => some (.ofRanges [digit, upper, lower])
  | "alpha" => some (.ofRanges [upper, lower])
  | "ascii" => some (.range '\x00' '\x7f')
  | "blank" => some (.ofList ['\t', ' '])
  | "cntrl" => some (.ofRanges [('\x00', '\x1f'), ('\x7f', '\x7f')])
  | "digit" => some (.ofRanges [digit])
  | "graph" => some (.range '!' '~')
  | "lower" => some (.ofRanges [lower])
  | "print" => some (.range ' ' '~')
  | "punct" => some (.ofRanges [('!', '/'), (':', '@'), ('[', '\x60'), ('\x7b', '~')])
  | "space" => some (.ofRanges [('\t', '\r'), (' ', ' ')])
  | "upper" => some (.ofRanges [upper])
  | "word" => some (.ofRanges [digit, upper, ('_', '_'), lower])
  | "xdigit" => some (.ofRanges [digit, ('A', 'F'), ('a', 'f')])
  | _ => none

/-- A class that stands in a class by its name, if one does. -/
def readNamed? : Reading (Option CharClass) := do
  let c ← get
  match c.rest with
  | '[' :: ':' :: rest =>
    let negated := rest.head? == some '^'
    let rest := if negated then rest.drop 1 else rest
    let name := rest.takeWhile (· != ':')
    match namedSet? (String.ofList name), rest.drop name.length with
    | some named, ':' :: ']' :: _ =>
      let after := c.skip (name.length + (if negated then 5 else 4))
      set after
      return some (.named ⟨c.place, after.place⟩ named negated)
    | _, _ => return none
  | _ => return none

/-- A fault: the class has not been closed. -/
def failOpenClass {α : Type} (stack : List ClassFrame) : Reading α := do
  fail .openClass (openClassSpan (← get).here stack)

/-- One end of a range, or a member of a class. -/
def readMember : Reading Atom := do
  match ← char? with
  | some '\\' => readEscape
  | some c => do
    let span := (← get).charSpan
    bump
    return .char ⟨span, c, false⟩
  | none => failHere .openClass

/-- The end of a range must be a character. -/
def boundary : Atom → Reading WrittenChar
  | .char c => pure c
  | a => fail .badRangeBoundary a.span

/-- A member of a class or a range. -/
def readRange (stack : List ClassFrame) : Reading CharClass := do
  let first ← readMember
  modify Cursor.skipGap
  match ← char? with
  | none => failOpenClass stack
  | some c =>
    let next := (← get).peekBehindGap
    if c != '-' || next == some ']' || next == some '-' then
      match first with
      | .char c => return .char c
      | .set c => return c
      | .anchor span _ => fail .badClassEscape span
    else do
      advance
      if (← char?).isNone then failOpenClass stack
      else do
        let last ← readMember
        let span : Span := ⟨first.span.first, last.span.last⟩
        let low ← boundary first
        let high ← boundary last
        if high.char < low.char then fail .badClassRange span
        else return .range span low high

/-- The left side of an operation joined with its right side. -/
def closeOperation (right : CharClass) : List ClassFrame → CharClass × List ClassFrame
  | .operation kind left :: stack => (.operation kind left right, stack)
  | stack => (right, stack)

/-- The sign of an operation between classes. -/
def readOperation? : Reading (Option ClassOperation) := do
  if ← take? "&&" then return some .intersection
  else if ← take? "--" then return some .difference
  else if ← take? "~~" then return some .differing
  else return none

/-- The rest of a class. Every round takes at least one character. -/
def readClassWithin : (rounds : Nat) → List ClassFrame → Members → Reading CharClass
  | 0, stack, _ => failOpenClass stack
  | rounds + 1, stack, m => do
    modify Cursor.skipGap
    match ← char? with
    | none => failOpenClass stack
    | some '[' => do
      let named ← if stack.isEmpty then pure none else readNamed?
      match named with
      | some c => readClassWithin rounds stack (m.add c)
      | none => do
        let (span, negated, inner) ← readClassOpening
        readClassWithin rounds (.opened m span negated :: stack) inner
    | some ']' =>
      match closeOperation m.class stack with
      | (content, .opened outer span negated :: stack) => do
        bump
        let c : CharClass := .bracketed ((← get).since span.first) negated content
        if stack.isEmpty then return c else readClassWithin rounds stack (outer.add c)
      | (_, stack) => failOpenClass stack
    | some _ => do
      match ← readOperation? with
      | some kind => do
        let (left, stack) := closeOperation m.class stack
        readClassWithin rounds (.operation kind left :: stack) ⟨(← get).here, []⟩
      | none => do
        let c ← readRange stack
        readClassWithin rounds stack (m.add c)

/-- A class in brackets. -/
def readClass : Reading CharClass := do
  let c ← get
  readClassWithin (c.rest.length + 1) [] ⟨c.here, []⟩

/-! ## Groups and flags -/

def flag? (c : Char) : Option Flag :=
  match c with
  | 'i' => some .anyCase
  | 'm' => some .multiLine
  | 's' => some .dotMatchesAll
  | 'U' => some .swapGreed
  | 'u' => some .unicode
  | 'R' => some .returns
  | 'x' => some .spaced
  | _ => none

/-- Flags up to a colon or a parenthesis; `seen` are those so far with the places where they stand,
and `negation` the place of a dash. -/
def readFlagsWithin : (count : Nat) → (seen : List (Flag × Bool × Span)) →
    (negation : Option Span) → (dangling : Bool) → Reading Flags
  | 0, _, _, _ => failHere .endInFlags
  | count + 1, seen, negation, dangling => do
    let span := (← get).charSpan
    let goOn := fun seen negation dangling => do
      bump
      if (← char?).isNone then failHere .endInFlags
      else readFlagsWithin count seen negation dangling
    match ← char?, negation with
    | none, _ => failHere .endInFlags
    | some ':', _ | some ')', _ =>
      if dangling then fail .danglingNegation (negation.getD span)
      else return seen.reverse.map fun f => (f.1, f.2.1)
    | some '-', some earlier => throw ⟨.repeatedNegation, span, some earlier⟩
    | some '-', none => goOn seen (some span) true
    | some c, negation =>
      match flag? c with
      | none => fail .unknownFlag span
      | some f =>
        match seen.lookup f with
        | some (_, earlier) => throw ⟨.repeatedFlag, span, some earlier⟩
        | none => goOn ((f, negation.isNone, span) :: seen) negation false

/-- Flags up to a colon or a parenthesis. -/
def readFlags : Reading Flags := do readFlagsWithin ((← get).rest.length + 1) [] none false

/-- A letter, or a character beyond ASCII that is taken for one. -/
def isLetter (c : Char) : Bool := c.isAlpha || (0x7F < c.toNat && !Text.isBlank c)

/-- A character that may stand in the name of a group. -/
def isNameChar (first : Bool) (c : Char) : Bool :=
  c == '_' || isLetter c || (!first && (c == '.' || c == '[' || c == ']' || c.isDigit))

/-- The characters of a name up to its end. -/
def readNameWithin : (count : Nat) → (first : Bool) → Reading (List Char)
  | 0, _ => pure []
  | count + 1, first => do
    match ← char? with
    | none | some '>' => return []
    | some c =>
      if isNameChar first c then do
        bump
        return c :: (← readNameWithin count false)
      else failAtChar .badName

/-- The name of a group. -/
def readName : Reading Unit := do
  let start ← place
  let cs ← readNameWithin (← get).rest.length true
  let span := (← get).since start
  if (← char?).isNone then failHere .openName
  else do
    bump
    if cs.isEmpty then fail .emptyName ⟨start, start⟩
    else do
      let c ← get
      let name := String.ofList cs
      match c.names.lookup name with
      | some earlier => throw ⟨.repeatedName, span, some earlier⟩
      | none => set { c with names := (name, span) :: c.names }

/-- What a parenthesis opens: flags for the rest of the group around it, or a group with flags of
its own. -/
inductive Opening where
  | flags (flags : Flags)
  | group (span : Span) (flags : Flags)

/-- What a parenthesis opens. -/
def readOpening : Reading Opening := do
  let opened := (← get).charSpan
  bump
  modify Cursor.skipGap
  let inner := (← get).here
  if ← takeOne? ["?=", "?!", "?<=", "?<!"] then failSince .lookAround opened.first
  else if ← takeOne? ["?P<", "?<"] then do
    readName
    return .group opened []
  else if ← take? "?" then do
    if (← char?).isNone then fail .openGroup opened
    else do
      let flags ← readFlags
      let closes := (← char?) == some ')'
      bump
      if !closes then return .group opened flags
      else if flags.isEmpty then fail .nothingRepeated inner
      else return .flags flags
  else return .group opened []

/-! ## Expressions -/

/-- Parts in a row, the latest first, and where they begin. -/
structure Row where
  first : Place
  items : List Written := []

def Row.add (r : Row) (w : Written) : Row := { r with items := w :: r.items }

/-- The expression that a row makes up. -/
def Row.written (r : Row) (last : Place) : Written :=
  match r.items with
  | [] => .blank
  | [w] => w
  | items => .sequence ⟨r.first, last⟩ items.reverse

/-- What waits for a part to be closed: a group with the row before it, or the alternatives so
far. -/
inductive Frame where
  | group (outer : Row) (span : Span) (flags : Flags) (spaced : Bool)
  | choice (first : Place) (members : List Written)

/-- The expression between the bars so far and the present place, and what waits beside it. -/
def closeChoice (r : Row) (last : Place) : List Frame → Written × List Frame
  | .choice first members :: stack =>
    (.choice ⟨first, last⟩ (r.written last :: members).reverse, stack)
  | stack => (r.written last, stack)

/-- Takes the last part of a row, which is to be repeated. -/
def takeRepeated (r : Row) : Reading (Written × Row) :=
  match r.items with
  | .blank :: _ | .flags _ :: _ | [] => failHere .nothingRepeated
  | w :: items => pure (w, { r with items })

/-- A sign behind a repetition that asks for few rounds, which makes no difference to where matches
may end. -/
def skipGreed : Reading Unit := do
  if (← char?) == some '?' then bump else pure ()

/-- Adds a repetition of the last part. -/
def addRepetition (r : Row) (w : Written) (least : Nat) (most : Option Nat) : Reading Row := do
  let first := (w.span?.map Span.first).getD r.first
  return r.add (.repeated ((← get).since first) w least most)

/-- A repetition without a count. -/
def readUncounted (r : Row) (least : Nat) (most : Option Nat) : Reading Row := do
  let (w, r) ← takeRepeated r
  bump
  skipGreed
  addRepetition r w least most

/-- A repetition with a count in braces. -/
def readCounted (r : Row) : Reading Row := do
  let start ← place
  let (w, r) ← takeRepeated r
  advance
  if (← char?).isNone then failSince .openCount start
  else do
    let least ← readDecimal
    match ← char? with
    | none => failSince .openCount start
    | some ',' => do
      advance
      match ← char? with
      | none => failSince .openCount start
      | some '\x7d' => finish start w r (← MonadExcept.ofExcept least) none
      | some _ => do
        let least ← MonadExcept.ofExcept least
        let most ← MonadExcept.ofExcept (← readDecimal)
        finish start w r least (some most)
    | some _ => do
      let least ← MonadExcept.ofExcept least
      finish start w r least (some least)
where
  /-- The end of a count. -/
  finish (start : Place) (w : Written) (r : Row) (least : Nat) (most : Option Nat) :
      Reading Row := do
    if (← char?) != some '\x7d' then failSince .openCount start
    else do
      advance
      skipGreed
      if most.any (· < least) then failSince .badCount start
      else addRepetition r w least most

/-- The rest of an expression. Every round but the last takes at least one character. -/
def readWithin : (rounds : Nat) → List Frame → Row → Reading Written
  | 0, _, _ => pure .blank
  | rounds + 1, stack, r => do
    modify Cursor.skipGap
    let last ← place
    match ← char? with
    | none =>
      match closeChoice r last stack with
      | (w, []) => return w
      | (_, .group _ span _ _ :: _) => fail .openGroup span
      | (w, _) => return w
    | some '(' => do
      match ← readOpening with
      | .flags flags => do
        modify fun c => { c with spaced := (flags.state? .spaced).getD c.spaced }
        readWithin rounds stack (r.add (.flags flags))
      | .group span flags => do
        let spaced := (← get).spaced
        modify fun c => { c with spaced := (flags.state? .spaced).getD c.spaced }
        readWithin rounds (.group r span flags spaced :: stack) ⟨← place, []⟩
    | some ')' =>
      match closeChoice r last stack with
      | (w, .group outer span flags spaced :: stack) => do
        modify fun c => { c.bump with spaced }
        readWithin rounds stack (outer.add (.group ((← get).since span.first) flags w))
      | _ => failAtChar .closedGroup
    | some '|' => do
      let stack := match stack with
        | .choice first members :: stack => .choice first (r.written last :: members) :: stack
        | stack => .choice r.first [r.written last] :: stack
      bump
      readWithin rounds stack ⟨← place, []⟩
    | some '[' => do
      let c ← readClass
      readWithin rounds stack (r.add (.set c))
    | some '?' => readWithin rounds stack (← readUncounted r 0 (some 1))
    | some '*' => readWithin rounds stack (← readUncounted r 0 none)
    | some '+' => readWithin rounds stack (← readUncounted r 1 none)
    | some '\x7b' => readWithin rounds stack (← readCounted r)
    | some '\\' => do
      let a ← readEscape
      readWithin rounds stack (r.add a.written)
    | some c => do
      let span := (← get).charSpan
      bump
      readWithin rounds stack (r.add (match c with
        | '.' => .dot span
        | '^' => .anchor span .caret
        | '$' => .anchor span .dollar
        | c => .char ⟨span, c, false⟩))

/-- Reads an expression. -/
def Written.ofString (text : String) : Except Fault Written :=
  let cs := text.toList
  match (readWithin (cs.length + 1) [] ⟨⟨1, 1⟩, []⟩).run { rest := cs } with
  | .error fault => .error fault
  | .ok (w, _) =>
    match w.tooDeep? 0 with
    | some span => .error ⟨.tooDeep, span, none⟩
    | none => .ok w

end PipeShell.Regex
