import PipeShell.Programs.Interpreter.Arithmetic
import PipeShell.Programs.Interpreter.Glob

/-!
# Writing words out

Parameters, the output of commands and arithmetic expressions are put in their places. What comes of
them is cut into fields where it is not quoted, and fields with signs of a pattern stand for the
paths that match it, if there are any.

## Main definitions

* `Piece`: what words are written out as, before they are cut
* `Writing`: writes words out, given how the output of commands is had
* `fieldsOf`: cuts pieces into fields
* `pathsOf`: the paths that match a field
* `Writing.fields`, `Writing.single`: the fields of words, and the text of a word that is not cut
-/

namespace PipeShell.Programs.Interpreter

open PipeShell.Machine
open PipeShell.Text (Octets)
open Act

/-- What words are written out as: a character, with whether it was quoted and whether fields may be
cut at it; a mark that there were quotes; the edge between two arguments, with whether an empty
field next to it counts; and the beginning of something at which fields may be cut, with whether it
is made of arguments that are kept apart. -/
inductive Piece where
  | char (c : Char) (quoted splits : Bool)
  | quotes
  | edge (quoted : Bool)
  | region (apart : Bool)
  deriving DecidableEq

/-- How a word is begun: home directories stand nowhere, at its beginning, or behind colons too. -/
inductive Homes where
  | none
  | start
  | colons
  deriving DecidableEq

/-! ## Cutting -/

/-- The characters at which fields are cut. -/
def separators (m : Memory) : Octets :=
  match m.valueOf? "IFS" with
  | some value => value
  | none => [' ', '\t', '\n']

/-- A character that is a blank where it separates fields. -/
def isGap (c : Char) : Bool := c == ' ' || c == '\t' || c == '\n'

/-- What follows a separator and goes with it: blanks, and one separator of another kind if the
first one was a blank. -/
def afterSeparator (ifs : Octets) : (gap : Bool) → List Piece → List Piece
  | gap, .char c q true :: rest =>
    if !ifs.contains c then .char c q true :: rest
    else if isGap c then afterSeparator ifs gap rest
    else if gap then afterSeparator ifs false rest
    else .char c q true :: rest
  | _, pieces => pieces

theorem length_afterSeparator_le (ifs : Octets) (gap : Bool) (pieces : List Piece) :
    (afterSeparator ifs gap pieces).length ≤ pieces.length := by
  fun_induction afterSeparator ifs gap pieces <;> simp_all <;> omega

/-- Where cutting stands: the characters of the present field, the latest first, whether it counts
even if it is empty, whether every separator counts here by itself, and whether the latest region
was made of arguments that are kept apart. -/
structure Cutting where
  field : Field := []
  present : Bool := false
  strict : Bool := false
  apart : Bool := false

/-- The next field is begun. -/
def Cutting.next (k : Cutting) : Cutting := { k with field := [], present := false }

/-- Cuts pieces into fields. Behind arguments that are kept apart every separator counts by
itself. -/
def fieldsFrom (ifs : Octets) (k : Cutting) : List Piece → List Field
  | [] => if k.field.isEmpty && !k.present then [] else [k.field.reverse]
  | .quotes :: rest => fieldsFrom ifs { k with present := true } rest
  | .region apart :: rest => fieldsFrom ifs { k with strict := k.apart, apart } rest
  | .edge quoted :: rest =>
    -- An empty argument counts only where it is quoted.
    if k.field.isEmpty && !k.present && !quoted then fieldsFrom ifs k.next rest
    else k.field.reverse :: fieldsFrom ifs k.next rest
  | .char c quoted splits :: rest =>
    if splits && ifs.contains c then
      -- Blanks in front of a field separate nothing, and those around a separator belong to it,
      -- unless every separator counts.
      if k.strict then k.field.reverse :: fieldsFrom ifs k.next rest
      else if k.field.isEmpty && !k.present && isGap c then fieldsFrom ifs k.next rest
      else k.field.reverse :: fieldsFrom ifs k.next (afterSeparator ifs (isGap c) rest)
    else fieldsFrom ifs { k with field := (c, quoted) :: k.field } rest
termination_by pieces => pieces.length
decreasing_by
  all_goals simp only [List.length_cons]
  all_goals try omega
  have := length_afterSeparator_le ifs (isGap c) rest
  omega

/-- Cuts pieces into fields. -/
def fieldsOf (ifs : Octets) (pieces : List Piece) : List Field := fieldsFrom ifs {} pieces

/-- The pieces as one field. -/
def wholeOf (pieces : List Piece) : Field :=
  pieces.filterMap fun
    | .char c quoted _ => some (c, quoted)
    | .edge _ => some (' ', true)
    | .quotes | .region _ => none

/-! ## Paths -/

/-- The part of a path up to a slash, and what follows the slash, if there is one. -/
def component (f : Field) : Field × Option Field :=
  let first := f.takeWhile fun c => c.1 != '/'
  match f.drop first.length with
  | [] => (first, none)
  | _ :: rest => (first, some rest)

/-- There is something at a path. -/
def isThere (path : Octets) : Act Bool := do
  match ← ask (Script.inspect (Octets.toString path) false) with
  | .ok _ => return true
  | .error _ => return false

/-- The paths that match what is left of a field, with what comes before them. -/
def pathsWithin : (fuel : Nat) → (before : Octets) → (checked : Bool) → Field → Act (List Octets)
  | 0, _, _, _ => pure []
  | fuel + 1, before, checked, f => do
    match component f with
    | (first, rest?) =>
      let goOn := fun (name : Octets) => do
        match rest? with
        | none => if ← isThere (before ++ name) then return [before ++ name] else return []
        | some rest => pathsWithin fuel (before ++ name ++ ['/']) true rest
      if !first.isPattern then
        -- A text without any pattern is not looked up at all.
        if !checked && rest?.isNone then return [before ++ first.text] else goOn first.text
      else do
        let directory := if before.isEmpty then "." else Octets.toString before
        match ← ask (Script.names directory) with
        | .error _ => return []
        | .ok names =>
          -- Hidden names match only a pattern that begins with a dot.
          let names := (["", "."].map (fun dot => ('.' :: dot.toList)) ++
            names.map Octets.ofString).filter fun name =>
              (name.head? != some '.' || first.head?.any fun c => c.1 == '.') &&
                Glob.accepts first name
          let found ← names.mapM fun name => do
            match rest? with
            | none => return [before ++ name]
            | some _ => goOn name
          return found.flatten

/-- The order of texts, byte by byte. -/
def isBefore : Octets → Octets → Bool
  | [], _ => true
  | _, [] => false
  | a :: as, b :: bs => if a = b then isBefore as bs else a < b

/-- The paths that match a field in order, or the field itself if there are none. -/
def pathsOf (f : Field) : Act (List Octets) := do
  if (← get).isOn 'f' || !f.isPattern then return [f.text]
  else do
    match ← pathsWithin (f.length + 1) [] false f with
    | [] => return [f.text]
    | paths => return paths.mergeSort isBefore

/-! ## Parameters -/

/-- The value of a parameter: nothing, one text, or the arguments. -/
inductive Value where
  | unset
  | one (text : Octets)
  | arguments (all : List Octets)

/-- The letters of the options that are on. -/
def optionLetters (m : Memory) : Octets :=
  ((optionNames.map Prod.fst).filter fun c => m.isOn c && ' ' < c).reverse

/-- The value of a digit. -/
def positional (m : Memory) (n : Nat) : Value :=
  if n = 0 then .one m.own
  else match m.arguments[n - 1]? with
    | some text => .one text
    | none => .unset

/-- The value of a parameter. -/
def parameterValue (m : Memory) (name : Octets) : Value :=
  let number := fun (n : Nat) => Value.one (Nat.repr n).toList
  match name with
  | ['@'] | ['*'] => .arguments m.arguments
  | ['#'] => number m.arguments.length
  | ['?'] => number m.status
  | ['$'] => number m.process
  | ['-'] => .one (optionLetters m)
  | ['!'] =>
    match m.background with
    | some n => number n
    | none => .unset
  | name =>
    if name.head?.any Char.isDigit then positional m (Arithmetic.valueOf 10 name)
    else match m.value? name with
      | some text => .one text
      | none => .unset

/-- The pieces of a text. -/
def piecesOf (quoted : Bool) (text : Octets) : List Piece :=
  let pieces := text.map fun c => Piece.char c quoted (!quoted)
  if quoted then pieces else .region false :: pieces

/-- Where the value of a parameter stands: the parameter joins the arguments, the value is quoted,
and fields are made of it. -/
structure Setting where
  star : Bool
  quoted : Bool
  full : Bool

/-- The arguments become one text. -/
def Setting.joins (s : Setting) : Bool := (s.star && s.quoted) || !s.full

/-- What stands between arguments that become one text. -/
def joint (m : Memory) : Octets :=
  match m.valueOf? "IFS" with
  | none => [' ']
  | some ifs => ifs.take 1

/-- The value with its arguments as one text if that is what becomes of them. -/
def Value.settled (m : Memory) (s : Setting) : Value → Value
  | arguments [] => arguments []
  | arguments all => if s.joins then one ((joint m).intercalate all) else arguments all
  | v => v

/-- The pieces of a value. -/
def Value.pieces (s : Setting) : Value → List Piece
  | unset => if s.quoted then [] else [.region false]
  | one text => piecesOf s.quoted text
  | arguments [] => []
  | arguments all =>
    let each := all.map fun a =>
      (if s.quoted then [Piece.quotes] else []) ++ a.map fun c => Piece.char c s.quoted (!s.quoted)
    .region s.quoted :: [Piece.edge s.quoted].intercalate each

/-- The number of characters in a value. -/
def Value.length : Value → Nat
  | unset => 0
  | one text => text.length
  | arguments all => (['\x00'].intercalate all).length

/-- The value counts as one that is there; where there are no arguments, nothing is still
something. -/
def Value.counts (colon : Bool) : Value → Bool
  | unset => false
  | v => !colon || v.length != 0

/-- The place in a text from which on something is cut off, or up to which: the first of some places
at which a pattern matches what is between there and the start or end. What is looked at ends with
the argument it begins in. -/
def cutPlace? (atStart longest : Bool) (p : Field) (text : Octets) : Option Nat :=
  let places := List.range (text.length + 1)
  (if atStart == longest then places.reverse else places).find? fun n =>
    Glob.accepts p ((if atStart then text.take n else text.drop n).takeWhile (· != '\x00'))

/-- A text without what matches a pattern at its start or end. -/
def cut (atStart longest : Bool) (p : Field) (text : Octets) : Octets :=
  match cutPlace? atStart longest p text with
  | some n => if atStart then text.drop n else text.take n
  | none => text

/-- A value without what matches a pattern at its start or end. Arguments count as one text. -/
def Value.cut (atStart longest : Bool) (p : Field) : Value → Value
  | unset => unset
  | one text => one (Interpreter.cut atStart longest p text)
  | arguments all =>
    arguments ((Interpreter.cut atStart longest p (['\x00'].intercalate all)).splitOn '\x00')

/-! ## Words -/

/-- Writes words out; `output` is how the output of a command is had. -/
structure Writing where
  output : Command → Act Octets

/-- The home directory, quoted, and the rest of a text that begins with a tilde. -/
def homeOf (m : Memory) (ends : Char → Bool) (whole : Bool) (cs : Octets) :
    Option (Octets × Octets) :=
  match cs with
  | '~' :: rest =>
    let user := rest.takeWhile fun c => !(c == '/' || ends c)
    let rest := rest.drop user.length
    if !user.isEmpty || (rest.isEmpty && !whole) then none
    else (m.valueOf? "HOME").map fun home => (home, rest)
  | _ => none

/-- The pieces of a text that is not quoted; `start` tells that it stands at the beginning of a
word, and `whole` that the word ends with it. -/
def textPieces (m : Memory) (homes : Homes) (splits whole : Bool) :
    (start : Bool) → Octets → (fuel : Nat) → List Piece
  | _, _, 0 => []
  | _, [], _ => []
  | start, c :: cs, fuel + 1 =>
    let ends := fun (c : Char) => homes == .colons && c == ':'
    let home? := if start && homes != .none then homeOf m ends whole (c :: cs) else none
    match home? with
    | some (home, rest) =>
      piecesOf true home ++ textPieces m homes splits whole false rest fuel
    | none =>
      .char c false splits :: textPieces m homes splits whole (ends c) cs fuel

/-- A parameter has to be set. -/
def requireSet (name : Octets) (v : Value) : Act Unit := do
  match v with
  | .unset =>
    if (← get).isOn 'u' then fault (name ++ ": parameter not set".toList) else pure ()
  | _ => pure ()

mutual

/-- The pieces of parts in order. `full` tells that fields are made of them, `inWord` that they
stand in the word of a parameter, where fields may be cut at any blank, and `start` that nothing
comes before them. -/
def Writing.pieces (w : Writing) (homes : Homes) (full inWord : Bool) :
    (fuel : Nat) → (start : Bool) → List Part → Act (List Piece)
  | 0, _, _ => pure []
  | _, _, [] => pure []
  | fuel + 1, start, part :: rest => do
    let m ← get
    let first ← match part, rest with
      -- Without arguments there is no field at all, although there are quotes.
      | .quotes, .parameter ['@'] .plain _ true :: after =>
        pure (if m.arguments.isEmpty && !after.head?.any Part.isQuoted then [] else [Piece.quotes])
      | .text cs false, rest =>
        pure ((if inWord then [.region false] else []) ++
          textPieces m homes inWord rest.isEmpty start cs cs.length)
      | part, _ => w.part full fuel part
    let others ← w.pieces homes full inWord fuel false rest
    return first ++ others
termination_by structural fuel => fuel

/-- The pieces of a part. -/
def Writing.part (w : Writing) (full : Bool) : (fuel : Nat) → Part → Act (List Piece)
  | 0, _ => pure []
  | fuel + 1, part => do
    match part with
    | .text cs quoted => return cs.map fun c => .char c quoted (!quoted)
    | .quotes => return [.quotes]
    | .output body quoted => do
      let text ← match body with
        | some c => w.output c
        | none => pure []
      -- Line feeds at the end are dropped, and so are zero bytes.
      let text := (text.reverse.dropWhile (· == '\n')).reverse
      return piecesOf quoted (text.filter (· != '\x00'))
    | .arithmetic expression quoted => do
      let inner ← w.pieces .none false false fuel false expression
      let n ← Arithmetic.evaluate (wholeOf inner).text
      return piecesOf quoted (Arithmetic.textOf n)
    | .parameter name treatment word quoted => do
      let m ← get
      let setting : Setting := ⟨name == ['*'], quoted, full⟩
      let v := (parameterValue m name).settled m setting
      let homes : Homes := if quoted then .none else .start
      let inner := w.pieces homes full (!quoted) fuel true word
      let text := w.pieces homes false (!quoted) fuel true word
      let pattern := w.pieces .none false false fuel false word
      match treatment with
      | .malformed => fault "Bad substitution".toList
      | .plain => do
        requireSet name v
        let pieces := v.pieces setting
        if word.isEmpty then return pieces else return pieces ++ (← inner)
      | .length => do
        requireSet name v
        let v := (parameterValue m name).settled m { setting with full := false }
        return piecesOf quoted (Nat.repr v.length).toList
      | .default colon => if v.counts colon then return v.pieces setting else inner
      | .alternative colon => if v.counts colon then inner else return []
      | .assign colon =>
        if v.counts colon then return v.pieces setting
        else do
          let text := (wholeOf (← text)).text
          if !isName name then fault (name ++ ": bad variable name".toList)
          else do
            setVariable name text false
            return piecesOf quoted text
      | .demand colon =>
        if v.counts colon then return v.pieces setting
        else do
          let text := (wholeOf (← text)).text
          let problem := if word.isEmpty then
              "parameter not set".toList ++ (if colon then " or null".toList else [])
            else text
          fault (name ++ ": ".toList ++ problem)
      | .cutStart longest => do
        requireSet name v
        if v matches .unset then return v.pieces setting
        else return (v.cut true longest (wholeOf (← pattern))).pieces setting
      | .cutEnd longest => do
        requireSet name v
        if v matches .unset then return v.pieces setting
        else return (v.cut false longest (wholeOf (← pattern))).pieces setting
termination_by structural fuel => fuel

end

/-- More than any word is deep or long. -/
def wordFuel : Nat := 1000000000

/-- The fields of a word, and the paths that match them. -/
def Writing.fields (w : Writing) (word : Word) : Act (List Octets) := do
  let pieces ← w.pieces .start true false wordFuel true word
  let found ← (fieldsOf (separators (← get)) pieces).mapM pathsOf
  return found.flatten

/-- The fields of words. -/
def Writing.allFields (w : Writing) (words : List Word) : Act (List Octets) := do
  return (← words.mapM w.fields).flatten

/-- The text of a word that is not cut into fields. -/
def Writing.single (w : Writing) (homes : Homes) (word : Word) : Act Octets := do
  return (wholeOf (← w.pieces homes false false wordFuel true word)).text

/-- The pattern that a word is. -/
def Writing.pattern (w : Writing) (word : Word) : Act Field := do
  return wholeOf (← w.pieces .start false false wordFuel true word)

end PipeShell.Programs.Interpreter
