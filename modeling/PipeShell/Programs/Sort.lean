import PipeShell.Programs.Calls
import PipeShell.Programs.Floating
import PipeShell.Programs.Versions
import PipeShell.Text.Blank

/-!
# sort

Sorts lines, checks that they are sorted, or merges sorted files. Lines are compared by keys, which
are parts of them, each in its own way; lines with equal keys are compared as a whole, unless only
one of them is kept or their order is.

## Main definitions

* `Sorting.Ordering`: how a key is compared
* `Sorting.KeySpec`, `Sorting.KeySpec.extract`: which part of a line a key is
* `Sorting.Value`: what a key is compared as
* `sort`: the program
-/

namespace PipeShell.Programs

open PipeShell.Machine
open PipeShell.Text (Octets)

namespace Sorting

/-! ## How keys are compared -/

/-- Which characters of a key count. -/
inductive Counting where
  | all
  | dictionary
  | visible
  deriving DecidableEq

/-- How a key is compared. -/
structure Manner where
  skipStart : Bool := false
  skipEnd : Bool := false
  counting : Counting := .all
  fold : Bool := false
  general : Bool := false
  human : Bool := false
  month : Bool := false
  numeric : Bool := false
  random : Bool := false
  reverse : Bool := false
  version : Bool := false
  deriving DecidableEq

/-- Nothing but possibly the direction has been asked for. -/
def Manner.isOrdinary (m : Manner) : Bool := { m with reverse := false } = {}

/-- Takes note of a letter, for the beginning of a key, its end, or both. -/
def Manner.take? (start finish : Bool) (m : Manner) (letter : Char) : Option Manner :=
  match letter with
  | 'b' => some { m with skipStart := m.skipStart || start, skipEnd := m.skipEnd || finish }
  | 'd' => some { m with counting := .dictionary }
  | 'f' => some { m with fold := true }
  | 'g' => some { m with general := true }
  | 'h' => some { m with human := true }
  | 'i' => some (if m.counting = .all then { m with counting := .visible } else m)
  | 'M' => some { m with month := true }
  | 'n' => some { m with numeric := true }
  | 'R' => some { m with random := true }
  | 'r' => some { m with reverse := true }
  | 'V' => some { m with version := true }
  | _ => none

/-- Takes note of letters as far as they are known, and tells what follows them. -/
def Manner.takeAll (start finish : Bool) (m : Manner) : Octets → Manner × Octets
  | [] => (m, [])
  | c :: rest =>
    match m.take? start finish c with
    | some m => takeAll start finish m rest
    | none => (m, c :: rest)

/-- The letters of manners that exclude each other. -/
def Manner.conflict? (m : Manner) : Option String :=
  let one := fun (b : Bool) => if b then 1 else 0
  let special := m.version || m.random || m.counting != .all
  if one m.numeric + one m.general + one m.human + one m.month + one special ≤ 1 then none
  else
    let letter := fun (b : Bool) (l : String) => if b then l else ""
    some (letter (m.counting == .dictionary) "d" ++ letter m.fold "f" ++ letter m.general "g" ++
      letter m.human "h" ++ letter (m.counting == .visible) "i" ++ letter m.month "M" ++
      letter m.numeric "n" ++ letter m.random "R" ++ letter m.version "V")

/-! ## Keys -/

/-- A part of a line: from a character of a field on, both counted from 0, to a character of a
field, where 0 characters stand for the whole field before it; without an end, to the end of the
line. -/
structure KeySpec where
  field : Nat := 0
  char : Nat := 0
  last? : Option (Nat × Nat) := none
  manner : Manner := {}

def isGap (b : UInt8) : Bool := b == 32 || b == 9 || b == 10

/-- What follows a number of fields. Without a separator a field has the blanks in front of it. -/
def dropFields (separator : Option UInt8) : (count : Nat) → Bytes → Bytes
  | 0, line => line
  | count + 1, line =>
    match line with
    | [] => []
    | line =>
      match separator with
      | some s => dropFields separator count ((line.dropWhile (· != s)).drop 1)
      | none => dropFields separator count ((line.dropWhile isGap).dropWhile (!isGap ·))

/-- How much of a line is left behind the end of a key. -/
def restAfter (separator : Option UInt8) (skip : Bool) (field char : Nat) (line : Bytes) : Nat :=
  if char = 0 then
    match separator with
    | some s => ((dropFields separator field line).dropWhile (· != s)).length
    | none => (dropFields separator (field + 1) line).length
  else
    let rest := dropFields separator field line
    let rest := if skip then rest.dropWhile isGap else rest
    (rest.drop char).length

/-- The key of a line. -/
def KeySpec.extract (k : KeySpec) (separator : Option UInt8) (line : Bytes) : Bytes :=
  let start := dropFields separator (min k.field (line.length + 1)) line
  let start := if k.manner.skipStart then start.dropWhile isGap else start
  let start := start.drop k.char
  match k.last? with
  | none => start
  | some (field, char) =>
    let after := restAfter separator k.manner.skipEnd (min field (line.length + 1)) char line
    start.take (start.length - after)

/-! ## Values -/

/-- A decimal number: its sign, its whole part, and the digits behind the point without zeros at
their end. -/
structure Decimal where
  negative : Bool
  whole : Nat
  fraction : Octets
  deriving DecidableEq

def Decimal.isZero (d : Decimal) : Bool := d.whole = 0 && d.fraction.isEmpty

/-- Compares digits behind a point. -/
def compareFraction : Octets → Octets → Ordering
  | [], [] => .eq
  | [], _ => .lt
  | _, [] => .gt
  | a :: as, b :: bs => if a = b then compareFraction as bs else compare a.toNat b.toNat

/-- Where two decimal numbers stand to each other. -/
def Decimal.compare (a b : Decimal) : Ordering :=
  let size := fun (a b : Decimal) =>
    (Ord.compare a.whole b.whole).then (compareFraction a.fraction b.fraction)
  if a.isZero && b.isZero then .eq
  else match a.negative && !a.isZero, b.negative && !b.isZero with
    | true, false => .lt
    | false, true => .gt
    | false, false => size a b
    | true, true => size b a

/-- Reads the decimal number that a text begins with, 0 if there is none, and what follows it. -/
def Decimal.read (text : Octets) : Decimal × Octets :=
  let (negative, unsigned) := match text with
    | '-' :: rest => (true, rest)
    | rest => (false, rest)
  let digits := unsigned.takeWhile Char.isDigit
  let whole := digits.foldl (fun n c => n * 10 + (c.toNat - 48)) 0
  let rest := unsigned.drop digits.length
  match rest with
  | '.' :: more =>
    let fraction := more.takeWhile Char.isDigit
    (⟨negative, whole, (fraction.reverse.dropWhile (· == '0')).reverse⟩,
      more.drop fraction.length)
  | rest => (⟨negative, whole, []⟩, rest)

/-- The rank of a unit behind a number. -/
def unitRank (rest : Octets) : Nat :=
  match rest with
  | 'K' :: _ | 'k' :: _ => 1
  | 'M' :: _ => 2
  | 'G' :: _ => 3
  | 'T' :: _ => 4
  | 'P' :: _ => 5
  | 'E' :: _ => 6
  | 'Z' :: _ => 7
  | 'Y' :: _ => 8
  | 'R' :: _ => 9
  | 'Q' :: _ => 10
  | _ => 0

/-- The number of a month, 0 if there is none. -/
def monthOf (text : Octets) : Nat :=
  match ["JAN", "FEB", "MAR", "APR", "MAY", "JUN", "JUL", "AUG", "SEP", "OCT", "NOV",
      "DEC"].findIdx? (fun m => m.toList.isPrefixOf (text.map Char.toUpper)) with
  | some i => i + 1
  | none => 0

/-- What a key is compared as. -/
inductive Value where
  | text (bytes : Bytes)
  | decimal (d : Decimal)
  | human (rank : Int) (d : Decimal)
  | general (number : Option Floating)
  | month (n : Nat)
  | version (text : Octets)

def upper (b : UInt8) : UInt8 := if 97 ≤ b && b ≤ 122 then b - 32 else b

/-- A byte counts. -/
def Counting.admits (c : Counting) (b : UInt8) : Bool :=
  match c with
  | .all => true
  | .dictionary =>
    isGap b || (48 ≤ b && b ≤ 57) || (65 ≤ b && b ≤ 90) || (97 ≤ b && b ≤ 122)
  | .visible => 32 ≤ b && b ≤ 126

/-- What a key is compared as. -/
def Manner.value (m : Manner) (key : Bytes) : Value :=
  let counted := if m.counting = .all then key else key.filter m.counting.admits
  let folded := if m.fold then counted.map upper else counted
  let text := fun (_ : Unit) => Octets.ofBytes (folded.dropWhile isGap)
  if m.numeric then .decimal (Decimal.read (text ())).1
  else if m.general then .general ((Floating.readPrefix? Floating.extended (text ())).map Prod.fst)
  else if m.human then
    let (d, rest) := Decimal.read (text ())
    let rank : Int := if d.isZero then 0 else unitRank rest
    .human (if d.negative then -rank else rank) d
  else if m.month then .month (monthOf (text ()))
  else if m.version then .version (Octets.ofBytes folded)
  else .text folded

/-- Where two texts stand to each other, byte by byte. -/
def compareBytes : Bytes → Bytes → Ordering
  | [], [] => .eq
  | [], _ => .lt
  | _, [] => .gt
  | a :: as, b :: bs => if a = b then compareBytes as bs else if a < b then .lt else .gt

/-- Where two values stand to each other. What is no number comes before what is not defined, and
this before all numbers. -/
def Value.compare : Value → Value → Ordering
  | text a, text b => compareBytes a b
  | decimal a, decimal b => a.compare b
  | human ra a, human rb b => (Ord.compare ra rb).then (a.compare b)
  | general a, general b =>
    match a, b with
    | none, none => .eq
    | none, _ => .lt
    | _, none => .gt
    | some .undefined, some .undefined => .eq
    | some .undefined, _ => .lt
    | _, some .undefined => .gt
    | some a, some b => (Floating.compare? a b).getD .eq
  | month a, month b => Ord.compare a b
  | version a, version b => Versions.compare a b
  | _, _ => .eq

/-! ## Lines -/

/-- What is asked for. -/
structure Style where
  manner : Manner := {}
  keys : List KeySpec := []
  separator : Option UInt8 := none
  check : Option Char := none
  merge : Bool := false
  output : Option Octets := none
  stable : Bool := false
  unique : Bool := false
  terminator : UInt8 := 10

/-- A line with the values of its keys, each with its direction. -/
structure Line where
  bytes : Bytes
  values : List (Value × Bool)

/-- The keys that lines are compared by: a key that asks for nothing is compared as the whole line
would be. -/
def Style.allKeys (s : Style) : List KeySpec :=
  if s.keys.isEmpty then (if s.manner.isOrdinary then [] else [{ manner := s.manner }])
  else s.keys.map fun k =>
    if k.manner.isOrdinary && !k.manner.reverse then { k with manner := s.manner } else k

def lineOf (keys : List KeySpec) (separator : Option UInt8) (bytes : Bytes) : Line :=
  ⟨bytes, keys.map fun k => (k.manner.value (k.extract separator bytes), k.manner.reverse)⟩

def turned (reverse : Bool) (o : Ordering) : Ordering := if reverse then o.swap else o

/-- Where two lines stand to each other by their keys. -/
def compareKeys : List (Value × Bool) → List (Value × Bool) → Ordering
  | (a, reverse) :: as, (b, _) :: bs => (turned reverse (a.compare b)).then (compareKeys as bs)
  | _, _ => .eq

/-- Where two lines stand to each other. -/
def Style.compare (s : Style) (a b : Line) : Ordering :=
  if a.values.isEmpty then turned s.manner.reverse (compareBytes a.bytes b.bytes)
  else
    let order := compareKeys a.values b.values
    if order != .eq || s.unique || s.stable then order
    else turned s.manner.reverse (compareBytes a.bytes b.bytes)

/-- Of neighbours that are equal the first is left. -/
def firstOfEqual (same : Line → Line → Bool) (lines : List Line) : List Line :=
  (lines.foldl (fun (kept : List Line) line =>
    match kept with
    | last :: _ => if same last line then kept else line :: kept
    | [] => [line]) []).reverse

/-- The lines of sorted files, the least of their first lines always first, and of equal ones that
of the earlier file. -/
def mergeFiles (le : Line → Line → Bool) (files : List (List Line)) : List Line :=
  files.foldl (fun merged file => List.merge merged file le) []

/-! ## Arguments -/

def table : List OptionSpec :=
  [Options.both 'b' "ignore-leading-blanks", Options.short 'c', Options.short 'C',
   Options.long "check" .perhaps, Options.both 'd' "dictionary-order",
   Options.both 'f' "ignore-case", Options.both 'g' "general-numeric-sort",
   Options.both 'h' "human-numeric-sort", Options.both 'i' "ignore-nonprinting",
   Options.both 'k' "key" .value, Options.both 'm' "merge", Options.both 'M' "month-sort",
   Options.both 'n' "numeric-sort", Options.both 'o' "output" .value,
   Options.both 'r' "reverse", Options.both 'R' "random-sort",
   Options.long "random-source" .value, Options.both 's' "stable",
   Options.both 'S' "buffer-size" .value, Options.long "sort" .value,
   Options.both 't' "field-separator" .value, Options.both 'T' "temporary-directory" .value,
   Options.both 'u' "unique", Options.both 'V' "version-sort",
   Options.both 'z' "zero-terminated", Options.long "batch-size" .value,
   Options.long "compress-program" .value, Options.long "parallel" .value,
   Options.short 'y' .perhaps]

/-- Reads a number at the beginning of a part of a key; a text without one is a fault unless it may
be missing. -/
def countAt (c : Call) (problem : String) (text : Octets) : Script (Nat × Octets) :=
  let unsigned := match text.dropWhile fun c => c == ' ' || c == '\t' || c == '\n' with
    | '+' :: rest => rest
    | rest => rest
  let digits := unsigned.takeWhile Char.isDigit
  if digits.isEmpty then
    c.fail 2 (problem.toList ++ ": invalid count at start of ".toList ++ Quoting.literal text)
  else
    pure (digits.foldl (fun n c => n * 10 + (c.toNat - 48)) 0, unsigned.drop digits.length)

/-- Reads a key. -/
def readKey (c : Call) (text : Octets) : Script KeySpec := do
  let bad : {α : Type} → String → Script α := fun problem =>
    c.fail 2 (problem.toList ++ ": invalid field specification ".toList ++ Quoting.literal text)
  let (field, rest) ← countAt c "invalid number at field start" text
  if field = 0 then bad "field number is zero" else pure ()
  let (char, rest) ← match rest with
    | '.' :: more => do
      let (char, rest) ← countAt c "invalid number after '.'" more
      if char = 0 then bad "character offset is zero" else pure ()
      pure (char - 1, rest)
    | rest => pure (0, rest)
  let (manner, rest) := Manner.takeAll true false {} rest
  let k : KeySpec := { field := field - 1, char, manner }
  match rest with
  | ',' :: more => do
    let (field, rest) ← countAt c "invalid number after ','" more
    if field = 0 then bad "field number is zero" else pure ()
    let (char, rest) ← match rest with
      | '.' :: more => countAt c "invalid number after '.'" more
      | rest => pure (0, rest)
    let (manner, rest) := Manner.takeAll false true manner rest
    if rest.isEmpty then pure { k with manner, last? := some (field - 1, char) }
    else bad "stray character in field spec"
  | [] => pure k
  | _ => bad "stray character in field spec"

/-- Two options exclude each other. -/
def incompatible {α : Type} (c : Call) (letters : String) : Script α :=
  c.fail 2 ("options '-" ++ letters ++ "' are incompatible").toList

/-- Takes note of a wish to check. -/
def Style.takeCheck (c : Call) (s : Style) (letter : Char) : Script Style :=
  match s.check with
  | some other => if other = letter then pure s else incompatible c "cC"
  | none => pure { s with check := some letter }

/-- Takes note of a separator. -/
def Style.takeSeparator (c : Call) (s : Style) (text : Octets) : Script Style := do
  let tab ← match text with
    | [] => c.fail 2 "empty tab".toList
    | [t] => pure (Octets.byteOf t)
    | ['\\', '0'] => pure (0 : UInt8)
    | _ => c.fail 2 ("multi-character tab ".toList ++ Quoting.literal text)
  match s.separator with
  | some other => if other = tab then pure s else c.fail 2 "incompatible tabs".toList
  | none => pure { s with separator := some tab }

/-- Takes note of one option. -/
def Style.take (c : Call) (s : Style) (g : Options.Given) : Script Style := do
  match g.key with
  | "c" => s.takeCheck c 'c'
  | "C" => s.takeCheck c 'C'
  | "check" =>
    let letter ← match g.value with
      | none => pure 'c'
      | some text =>
        c.choice 2 "--check" text [("quiet", 'C'), ("silent", 'C'), ("diagnose-first", 'c')]
    s.takeCheck c letter
  | "k" => return { s with keys := s.keys ++ [(← readKey c g.text)] }
  | "m" => return { s with merge := true }
  | "o" =>
    if s.output.any (· != g.text) then c.fail 2 "multiple output files specified".toList
    else return { s with output := some g.text }
  | "s" => return { s with stable := true }
  | "sort" =>
    let letter ← c.choice 2 "--sort" g.text
      [("general-numeric", 'g'), ("human-numeric", 'h'), ("month", 'M'), ("numeric", 'n'),
       ("random", 'R'), ("version", 'V')]
    return { s with manner := (s.manner.take? true true letter).getD s.manner }
  | "t" => s.takeSeparator c g.text
  | "u" => return { s with unique := true }
  | "z" => return { s with terminator := 0 }
  | key =>
    match key.toList with
    | [letter] => return { s with manner := (s.manner.take? true true letter).getD s.manner }
    | _ => return s

/-! ## Files -/

/-- All lines of an operand. -/
def linesOf (c : Call) (s : Style) (operand : Octets) : Script (List Bytes) := do
  match ← Call.openOperand operand with
  | .error cause => do
    c.complainOf ("open failed: ".toList ++ Quoting.shellIfNeeded operand) cause
    Script.leave 2
  | .ok fd => do
    match ← Script.slurp fd with
    | .error cause => do
      c.complainOf ("read failed: ".toList ++ Quoting.shellIfNeeded operand) cause
      Script.leave 2
    | .ok bytes => do
      Call.closeOperand operand fd
      pure (Text.terminated (· == s.terminator) bytes)

/-- Leaves unless all operands can be read. -/
def checkInputs (c : Call) : List Octets → Script Unit
  | [] => pure ()
  | operand :: rest => do
    if operand == ['-'] then checkInputs c rest
    else
      let cause? ← match ← Script.inspect (Octets.toString operand) true with
        | .error cause => pure (some cause)
        | .ok found => pure (if found.allows .read then none else some Errno.noAccess)
      match cause? with
      | none => checkInputs c rest
      | some cause => do
        c.complainOf ("cannot read: ".toList ++ Quoting.shellIfNeeded operand) cause
        Script.leave 2

/-- The first line that is out of order, with its number. -/
def disorder? (s : Style) : (number : Nat) → List Line → Option (Nat × Line)
  | number, a :: b :: rest =>
    let order := s.compare a b
    if order == .gt || (s.unique && order == .eq) then some (number + 1, b)
    else disorder? s (number + 1) (b :: rest)
  | _, _ => none

/-- Writes lines to a descriptor, or complains and leaves. -/
def writeLines (c : Call) (s : Style) (fd : Nat) (name : Octets) (lines : List Bytes) :
    Script Unit := do
  let bytes := lines.flatMap fun line => line ++ [s.terminator]
  match ← Script.write fd bytes with
  | .ok () => pure ()
  | .error cause => do
    let problem := if bytes.length < 4096 then "fflush failed: " else "write failed: "
    c.complainOf (problem.toList ++ Quoting.shellIfNeeded name) cause
    Script.leave 2

end Sorting

open Sorting in
/-- Sorts lines. -/
def sort : Main := Call.program fun c => do
  let p := c.parse table
  let style ← c.process 2 p (Style.take c) {}
  let keys := style.allKeys
  match keys.findSome? fun k => k.manner.conflict? with
  | some letters => incompatible c letters
  | none => do
    let operands := Call.inputs p.operands
    let load := fun (operand : Octets) => do
      let lines ← linesOf c style operand
      pure (lines.map (lineOf keys style.separator))
    match style.check with
    | some letter =>
      match operands with
      | _ :: extra :: _ =>
        c.fail 2 ("extra operand ".toList ++ Quoting.literal extra ++
          " not allowed with -".toList ++ [letter])
      | _ =>
        if style.output.isSome then incompatible c (String.ofList [letter, 'o'])
        else do
          let operand := operands.headD ['-']
          let lines ← load operand
          match disorder? style 1 lines with
          | none => pure 0
          | some (number, line) => do
            if letter == 'c' then
              Call.sayOctets 2 (c.own ++ ": ".toList ++ operand ++ ':' ::
                (Nat.repr number).toList ++
                ": disorder: ".toList ++ Octets.ofBytes line.bytes ++ ['\n'])
            else pure ()
            pure 1
    | none => do
      checkInputs c operands
      let target ← match style.output with
        | none => pure none
        | some path => do
          match ← Script.openFile (Octets.toString path) .append with
          | .ok fd => do
            Script.close fd
            pure (some path)
          | .error cause => do
            c.complainOf ("open failed: ".toList ++ Quoting.shellIfNeeded path) cause
            Script.leave 2
      let files ← operands.mapM load
      let le := fun a b => style.compare a b != .gt
      let sorted := if style.merge then mergeFiles le files else files.flatten.mergeSort le
      let kept := if style.unique then firstOfEqual (fun a b => style.compare a b == .eq) sorted
        else sorted
      let out := kept.map Line.bytes
      match target with
      | none => writeLines c style 1 "standard output".toList out
      | some path => do
        match ← Script.openFile (Octets.toString path) .overwrite with
        | .ok fd => writeLines c style fd path out
        | .error cause => do
          c.complainOf ("open failed: ".toList ++ Quoting.shellIfNeeded path) cause
          Script.leave 2
      pure 0

end PipeShell.Programs
