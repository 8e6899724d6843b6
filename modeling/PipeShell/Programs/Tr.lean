import PipeShell.Programs.Calls
import PipeShell.Programs.Echo
import PipeShell.Programs.Numbers

/-!
# tr

Replaces, squeezes or deletes bytes. A set of bytes is written as a row of elements: single bytes,
ranges, named classes, and bytes that are repeated, in the second set as often as the first set
needs. The bytes of the first set become the bytes at the same places of the second.

## Main definitions

* `Tr.Element`, `Tr.readSet`: the elements of a set, and how they are written
* `Tr.Problem`: what is wrong with sets
* `Tr.pair`: the bytes of two sets side by side
* `tr`: the program
-/

namespace PipeShell.Programs

open PipeShell.Machine
open PipeShell.Text (Octets)

namespace Tr

/-! ## Elements -/

/-- The bytes of the case that a class stands for. -/
inductive Case where
  | upper
  | lower
  deriving DecidableEq

/-- A part of a set. A byte repeated 0 times is repeated as often as is needed. -/
inductive Element where
  | single (c : Char)
  | range (first last : Char)
  | named (name : String)
  | same (c : Char)
  | repeated (c : Char) (count : Nat)

/-- A byte belongs to a named class. -/
def inClass (name : String) (c : Char) : Bool :=
  let n := c.toNat
  let upper := 65 ≤ n && n ≤ 90
  let lower := 97 ≤ n && n ≤ 122
  let digit := 48 ≤ n && n ≤ 57
  match name with
  | "alnum" => upper || lower || digit
  | "alpha" => upper || lower
  | "blank" => n == 32 || n == 9
  | "cntrl" => n < 32 || n == 127
  | "digit" => digit
  | "graph" => 33 ≤ n && n ≤ 126
  | "lower" => lower
  | "print" => 32 ≤ n && n ≤ 126
  | "punct" => 33 ≤ n && n ≤ 126 && !(upper || lower || digit)
  | "space" => n == 32 || (9 ≤ n && n ≤ 13)
  | "upper" => upper
  | "xdigit" => digit || (65 ≤ n && n ≤ 70) || (97 ≤ n && n ≤ 102)
  | _ => false

/-- The names of the classes. -/
def classNames : List String :=
  ["alnum", "alpha", "blank", "cntrl", "digit", "graph", "lower", "print", "punct", "space",
   "upper", "xdigit"]

/-- All bytes in order. -/
def allBytes : List Char := (List.range 256).map Char.ofNat

/-- The bytes from one to another. -/
def between (first last : Char) : List Char :=
  (List.range (last.toNat + 1 - first.toNat)).map fun i => Char.ofNat (first.toNat + i)

/-- More places than sets have that bytes can be told apart by. -/
def manyPlaces : Nat := 65536

/-- The bytes of an element; a byte repeated as often as is needed is repeated `fill` times. -/
def Element.chars (fill : Nat) : Element → List Char
  | single c => [c]
  | range first last => between first last
  | named name => allBytes.filter (inClass name)
  | same c => [c]
  | repeated c count => List.replicate (min manyPlaces (if count = 0 then fill else count)) c

/-- The number of bytes of an element, where that does not depend on another set. -/
def Element.length : Element → Nat
  | repeated _ count => count
  | e => (e.chars 0).length

/-- The case that an element is a class of. -/
def Element.case? : Element → Option Case
  | named "upper" => some .upper
  | named "lower" => some .lower
  | _ => none

/-- What is wrong with a set. -/
inductive Problem where
  | emptyClass
  | emptySame
  | unknownClass (name : Octets)
  | longSame (text : Octets)
  | badCount (text : Octets)
  | reversed (first last : Char)

/-! ## Reading a set -/

/-- A byte of a set, and whether it was escaped. -/
abbrev Mark := Char × Bool

/-- What reading the escapes of a set yields: the bytes, and warnings. -/
structure Unescaped where
  marks : List Mark
  warnings : List Octets

def Unescaped.cons (c : Char) (escaped : Bool) (u : Unescaped) : Unescaped :=
  { u with marks := (c, escaped) :: u.marks }

def Unescaped.warn (warning : Octets) (u : Unescaped) : Unescaped :=
  { u with warnings := warning :: u.warnings }

def isOctal (c : Char) : Bool := '0' ≤ c && c ≤ '7'

def octalValue (cs : List Char) : Nat := cs.foldl (fun n c => n * 8 + (c.toNat - 48)) 0

/-- Resolves the escapes of a set. -/
def unescape : Octets → Unescaped
  | [] => ⟨[], []⟩
  | '\\' :: [] =>
    ⟨[('\\', false)],
      ["warning: an unescaped backslash at end of string is not portable".toList]⟩
  | '\\' :: a :: rest =>
    if isOctal a then
      match rest with
      | b :: c :: more =>
        if isOctal b then
          if isOctal c then
            if octalValue [a, b, c] < 256 then
              (unescape more).cons (Char.ofNat (octalValue [a, b, c])) true
            else
              ((unescape (c :: more)).cons (Char.ofNat (octalValue [a, b])) true).warn
                ("warning: the ambiguous octal escape \\".toList ++ [a, b, c] ++
                  " is being\n\tinterpreted as the 2-byte sequence \\0".toList ++ [a, b] ++
                  ", ".toList ++ [c])
          else (unescape (c :: more)).cons (Char.ofNat (octalValue [a, b])) true
        else (unescape (b :: c :: more)).cons (Char.ofNat (octalValue [a])) true
      | [b] =>
        if isOctal b then (unescape []).cons (Char.ofNat (octalValue [a, b])) true
        else (unescape [b]).cons (Char.ofNat (octalValue [a])) true
      | [] => (unescape []).cons (Char.ofNat (octalValue [a])) true
    else
      (unescape rest).cons (if a == 'e' then 'e' else (Escapes.letter? a).getD a) true
  | c :: rest => (unescape rest).cons c false

/-- What stands in front of `closing` and a bracket, and what follows them. -/
def splitAtClosing (closing : Char) (before : List Char) :
    List Mark → Option (List Char × List Mark)
  | (c, false) :: (']', false) :: rest =>
    if c == closing then some (before.reverse, rest)
    else splitAtClosing closing (c :: before) ((']', false) :: rest)
  | (c, _) :: rest => splitAtClosing closing (c :: before) rest
  | [] => none

/-- The text of a count up to a bracket, and what follows. -/
def countText (before : List Char) : List Mark → Option (List Char × List Mark)
  | (']', false) :: rest => some (before.reverse, rest)
  | (c, false) :: rest => countText (c :: before) rest
  | _ => none

/-- The count that a text stands for; no text stands for 0. -/
def countOf? (text : List Char) : Option Nat :=
  match text with
  | [] => some 0
  | '0' :: _ => if text.all isOctal then some (octalValue text) else none
  | _ =>
    match Numbers.read "" text with
    | .number n => some n
    | _ => none

/-- Reads a repeated byte behind its opening bracket. -/
def repeated? : List Mark → Option (Except Problem (Element × List Mark))
  | (c, _) :: ('*', false) :: rest =>
    match countText [] rest with
    | none => none
    | some (text, rest) =>
      match countOf? text with
      | none => some (.error (.badCount text))
      | some n => some (.ok (.repeated c n, rest))
  | _ => none

/-- The rest looks like a repeated byte with a count of digits. -/
def looksRepeated : List Mark → Bool
  | ('*', false) :: rest =>
    ((rest.dropWhile fun m => m.1.isDigit && !m.2).head?).any (· == (']', false))
  | _ => false

/-- Reads a class or an equivalence behind its opening bracket; nothing where it is neither. -/
def enclosed? : List Mark → Option (Except Problem (Element × List Mark))
  | (':', false) :: rest =>
    match splitAtClosing ':' [] rest with
    | none => none
    | some ([], _) => some (.error .emptyClass)
    | some (name, after) =>
      if classNames.contains (String.ofList name) then
        some (.ok (.named (String.ofList name), after))
      else if looksRepeated rest then none
      else some (.error (.unknownClass name))
  | ('=', false) :: rest =>
    match splitAtClosing '=' [] rest with
    | none => none
    | some ([], _) => some (.error .emptySame)
    | some ([c], after) => some (.ok (.same c, after))
    | some (text, _) => if looksRepeated rest then none else some (.error (.longSame text))
  | _ => none

/-- Reads one element. -/
def element? : List Mark → Option (Except Problem (Element × List Mark))
  | [] => none
  | ('[', false) :: rest =>
    match (if 2 ≤ rest.length then (enclosed? rest).or (repeated? rest) else none) with
    | some result => some result
    | none => some (plain '[' rest)
  | (c, _) :: rest => some (plain c rest)
where
  plain (c : Char) : List Mark → Except Problem (Element × List Mark)
    | ('-', false) :: (last, _) :: rest =>
      if last.toNat < c.toNat then .error (.reversed c last) else .ok (.range c last, rest)
    | rest => .ok (.single c, rest)

/-- Reads elements; `fuel` is the number of bytes. -/
def elements : (fuel : Nat) → List Mark → Except Problem (List Element)
  | 0, _ => .ok []
  | fuel + 1, marks =>
    match element? marks with
    | none => .ok []
    | some (.error problem) => .error problem
    | some (.ok (e, rest)) => (elements fuel rest).map (e :: ·)

/-- A text with bytes that cannot be shown written by their values. -/
def printable (text : Octets) : Octets :=
  text.flatMap fun c => if c == '\\' then ['\\', '\\'] else (Quoting.escape? c).getD [c]

/-- One byte, written by its value where it cannot be shown. -/
def printableChar (c : Char) : Octets :=
  if Quoting.isVisible c then [c] else '\\' :: Quoting.octal c

def Problem.message : Problem → Octets
  | emptyClass => "missing character class name '[::]'".toList
  | emptySame => "missing equivalence class character '[==]'".toList
  | unknownClass name =>
    "invalid character class ".toList ++ Quoting.literal (printable name)
  | longSame text =>
    printable text ++ ": equivalence class operand must be a single character".toList
  | badCount text =>
    "invalid repeat count ".toList ++ Quoting.literal (printable text) ++
      " in [c*n] construct".toList
  | reversed first last =>
    "range-endpoints of '".toList ++ printableChar first ++ '-' :: printableChar last ++
      "' are in reverse collating sequence order".toList

/-- Reads a set, or complains and leaves. -/
def readSet (c : Call) (text : Octets) : Script (List Element) := do
  let u := unescape text
  for warning in u.warnings do
    c.complain warning
  match elements u.marks.length u.marks with
  | .ok es => pure es
  | .error problem => c.fail 1 problem.message

/-! ## Sets side by side -/

/-- The number of bytes of a set. -/
def lengthOf (es : List Element) : Nat := (es.map Element.length).foldl (· + ·) 0

/-- How many elements are repeated as often as is needed. -/
def openCount (es : List Element) : Nat :=
  (es.filter fun
    | .repeated _ 0 => true
    | _ => false).length

/-- All bytes of a set. -/
def charsOf (fill : Nat) (es : List Element) : List Char := es.flatMap (Element.chars fill)

/-- What is left of an element: its bytes, its case, and whether none has been used yet. -/
structure Run where
  chars : List Char
  case : Option Case
  isWhole : Bool := true

def runsOf (fill : Nat) (es : List Element) : List Run :=
  (es.map fun e => { chars := e.chars fill, case := e.case? : Run }).filter (!·.chars.isEmpty)

/-- The first byte of runs, the run it belongs to, and the runs without it. -/
def nextChar : List Run → Option (Char × Run × List Run)
  | [] => none
  | r :: rest =>
    match r.chars with
    | [] => none
    | [c] => some (c, r, rest)
    | c :: more => some (c, r, ⟨more, r.case, false⟩ :: rest)

/-- Two bytes side by side, or two classes. -/
inductive Pair where
  | bytes (a b : Char)
  | cases (a : Option Case) (b : Case)

/-- The bytes of two sets side by side, with the classes of the second set as a whole, and whether
each of these stands beside the beginning of a class. -/
def pair : (fuel : Nat) → List Run → List Run → List Pair × Bool
  | 0, _, _ => ([], true)
  | fuel + 1, first, second =>
    match nextChar first, nextChar second with
    | some (a, ra, restA), some (b, rb, restB) =>
      match rb.case with
      | some case =>
        let aligned := !rb.isWhole || (ra.isWhole && ra.case.isSome)
        let (pairs, others) := pair fuel first.tail second.tail
        (.cases ra.case case :: pairs, aligned && others)
      | none =>
        let (pairs, others) := pair fuel restA restB
        (.bytes a b :: pairs, others)
    | none, some (_, rb, _) => ([], !(rb.case.isSome && rb.isWhole))
    | _, none => ([], true)

/-- The number of bytes of a class of one case. -/
def caseSize : Nat := 26

/-- Puts pairs into effect, later ones over earlier ones: what becomes of each byte. -/
def translation (pairs : List Pair) : Array Char :=
  pairs.foldl (fun table p =>
    match p with
    | .bytes a b => table.setIfInBounds a.toNat b
    | .cases (some .lower) .upper =>
      (List.range 26).foldl (fun t i => t.setIfInBounds (97 + i) (Char.ofNat (65 + i))) table
    | .cases (some .upper) .lower =>
      (List.range 26).foldl (fun t i => t.setIfInBounds (65 + i) (Char.ofNat (97 + i))) table
    | .cases .. => table) allBytes.toArray

/-- The byte with which a set that is too short goes on. -/
def lastChar? : List Element → Option (Except Unit Char)
  | [] => none
  | es =>
    match es.getLast? with
    | some (.single c) | some (.same c) | some (.repeated c _) => some (.ok c)
    | some (.range _ last) => some (.ok last)
    | some (.named _) => some (.error ())
    | none => none

/-- Both sets all consist of one byte. -/
def isUniform (chars : List Char) : Bool :=
  match chars with
  | [] => true
  | c :: rest => rest.all (· == c)

/-- What two sets come to: what becomes of each byte, and the bytes of the second set. -/
structure Translation where
  table : Array Char
  second : List Char

def Element.isClass : Element → Bool
  | named _ => true
  | _ => false

def Element.isSame : Element → Bool
  | same _ => true
  | _ => false

def Pair.isCases : Pair → Bool
  | cases .. => true
  | _ => false

/-- Why two sets cannot stand side by side, whatever their lengths are. -/
def elementFault? (first second : List Element) : Option String :=
  if 0 < openCount first then
    some "the [c*] repeat construct may not appear in string1"
  else if 1 < openCount second then
    some "only one [c*] repeat construct may appear in string2"
  else if second.any Element.isSame then
    some "[=c=] expressions may not appear in string2 when translating"
  else if second.any fun e => e.isClass && e.case?.isNone then
    some ("when translating, the only character classes that may appear in\n" ++
      "string2 are 'upper' and 'lower'")
  else none

/-- A second set that goes on with its last byte for `more` bytes. -/
def extend (second : List Element) (more : Nat) : Except String (List Element) :=
  match lastChar? second with
  | none => .error "when not truncating set1, string2 must be non-empty"
  | some (.error ()) =>
    .error ("when translating with string1 longer than string2,\n" ++
      "the latter string must not end with a character class")
  | some (.ok c) => .ok (second ++ [.repeated c more])

/-- What two sets come to, or why they do not fit. Classes that stand side by side count as one byte
each where lengths are compared. -/
def translate (complement truncate : Bool) (first second : List Element) :
    Except String Translation :=
  match elementFault? first second with
  | some fault => .error fault
  | none =>
    let others := allBytes.filter (!(charsOf 0 first).contains ·)
    let need := if complement then others.length else lengthOf first
    let fill := need - lengthOf second
    let given := if openCount second = 1 then max need (lengthOf second) else lengthOf second
    let side := fun (second : List Element) =>
      pair (need + lengthOf second + fill + 2) (runsOf 0 first) (runsOf fill second)
    let (pairs, aligned) := side second
    let checked := !complement && second.any Element.isClass
    let discount := if checked then (pairs.filter Pair.isCases).length * (caseSize - 1) else 0
    let (need, given) := (need - discount, given - discount)
    if checked && !aligned then .error "misaligned [:upper:] and/or [:lower:] construct"
    else
      let extended := if need ≤ given || truncate then .ok second else extend second (need - given)
      match extended with
      | .error e => .error e
      | .ok extended =>
        let chars := charsOf fill extended
        let length := if need ≤ given || truncate then given else need
        if complement && first.any Element.isClass && !(length == need && isUniform chars) then
          .error ("when translating with complemented character classes,\n" ++
            "string2 must map all characters in the domain to one")
        else if complement then
          .ok ⟨translation ((others.zip chars).map fun (a, b) => .bytes a b), chars⟩
        else .ok ⟨translation (side extended).1, chars⟩

/-! ## Running -/

/-- What is asked for. -/
structure Style where
  complement : Bool := false
  delete : Bool := false
  squeeze : Bool := false
  truncate : Bool := false

def table : List OptionSpec :=
  [⟨"c", some 'c', some "complement", .nothing⟩, ⟨"c", some 'C', none, .nothing⟩,
   Options.both 'd' "delete", Options.both 's' "squeeze-repeats",
   Options.both 't' "truncate-set1", Options.short 'A']

def Style.take (s : Style) (g : Options.Given) : Style :=
  match g.key with
  | "c" => { s with complement := true }
  | "d" => { s with delete := true }
  | "s" => { s with squeeze := true }
  | "t" => { s with truncate := true }
  | _ => s

/-- A set of bytes, as an answer for each byte. -/
abbrev Members := Array Bool

/-- No byte. -/
def Members.none : Members := Array.replicate 256 false

/-- The given bytes, or all others. -/
def Members.of (complement : Bool) (chars : List Char) : Members :=
  chars.foldl (fun (t : Array Bool) c => t.setIfInBounds c.toNat !complement)
    (Array.replicate 256 complement)

def Members.has (m : Members) (c : Char) : Bool := m.getD c.toNat false

/-- What is done to each byte: it is deleted, or replaced, and of neighbouring equal bytes one is
left. -/
structure Work where
  deleted : Members := .none
  replaced : Array Char := allBytes.toArray
  squeezed : Members := .none

/-- What becomes of a run of bytes, given the last one written. -/
def Work.run (w : Work) (last : Option Char) (bytes : Bytes) : Option Char × Bytes :=
  let (last, out) := bytes.foldl (fun (last, out) b =>
    let c := Octets.charOf b
    if w.deleted.has c then (last, out)
    else
      let c := w.replaced.getD c.toNat c
      if last == some c && w.squeezed.has c then (last, out)
      else (some c, Octets.byteOf c :: out)) (last, ([] : Bytes))
  (last, out.reverse)

/-- Does the work on everything that is left to read. -/
def perform (c : Call) (w : Work) : Script Nat :=
  Script.iterate (fun (last : Option Char) => do
    match ← Script.read 0 65536 with
    | .ok [] => pure (.inr 0)
    | .ok bytes => do
      let (last, out) := w.run last bytes
      c.emit 1 out
      pure (.inl last)
    | .error cause => do
      c.complainOf "read error".toList cause
      pure (.inr 1)) none

/-- What is wrong with the number of sets, with a line of explanation. -/
def countFault? (s : Style) (operands : List Octets) : Option (Octets × Option String) :=
  let least := if s.delete == s.squeeze then 2 else 1
  let most := if s.delete && !s.squeeze then 1 else 2
  match operands with
  | [] => some ("missing operand".toList, none)
  | _ =>
    if operands.length < least then
      some ("missing operand after ".toList ++ Quoting.literal (operands.getLastD []),
        some (if s.squeeze then
            "Two strings must be given when both deleting and squeezing repeats."
          else "Two strings must be given when translating."))
    else match operands[most]? with
      | some extra =>
        some ("extra operand ".toList ++ Quoting.literal extra,
          if operands.length = 2 then
            some "Only one string may be given when deleting without squeezing repeats."
          else none)
      | none => none

/-- What is to be done with the sets, or why they do not fit. -/
def workOf (s : Style) (first : List Element) (second : Option (List Element)) :
    Except String Work :=
  let members := Members.of s.complement (charsOf 0 first)
  if 0 < openCount first then .error "the [c*] repeat construct may not appear in string1"
  else match second with
    | none => .ok (if s.delete then { deleted := members } else { squeezed := members })
    | some second =>
      if s.delete then
        if 1 < openCount second then
          .error "only one [c*] repeat construct may appear in string2"
        else if 0 < openCount second then
          .error "the [c*] construct may appear in string2 only when translating"
        else .ok { deleted := members, squeezed := Members.of false (charsOf 0 second) }
      else
        (translate s.complement s.truncate first second).map fun t =>
          { replaced := t.table
            squeezed := if s.squeeze then Members.of false t.second else .none }

end Tr

open Tr in
/-- Replaces, squeezes or deletes bytes. -/
def tr : Main := Call.program fun c => do
  let p := Options.parse table true c.args
  let style := p.given.foldl Style.take {}
  c.settle 1 p
  match countFault? style p.operands with
  | some (text, more) => do
    c.complain text
    match more with
    | some more => Call.sayOctets 2 (more.toList ++ ['\n'])
    | none => pure ()
    c.hint
    pure 1
  | none => do
    let first ← readSet c (p.operands.headD [])
    let second ← match p.operands[1]? with
      | some text => do
        let es ← readSet c text
        pure (some es)
      | none => pure none
    match workOf style first second with
    | .error text => c.fail 1 text.toList
    | .ok work => perform c work

end PipeShell.Programs
