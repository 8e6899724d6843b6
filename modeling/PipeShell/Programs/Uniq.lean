import PipeShell.Programs.Calls
import PipeShell.Programs.Numbers
import PipeShell.Text.Blank

/-!
# uniq

Writes one of several equal lines in a row, or only those that are repeated, or only those that are
not, or all of them in groups. What is compared may begin behind some fields and bytes and may be
limited in length.

## Main definitions

* `Uniq.Style`: what is asked for
* `Uniq.groups`: the runs of equal lines
* `uniq`: the program
-/

namespace PipeShell.Programs

open PipeShell.Machine
open PipeShell.Text (Octets)

namespace Uniq

/-- Where an empty line stands between groups of repeated lines. -/
inductive Division where
  | none
  | before
  | between
  | after
  | around
  deriving DecidableEq

/-- What is asked for: which lines, how they are counted and divided, and what is compared. -/
structure Style where
  count : Bool := false
  unique : Bool := true
  firsts : Bool := true
  others : Bool := false
  selected : Bool := false
  division : Division := .none
  groups : Option Division := none
  fields : Nat := 0
  fieldsByDigits : Bool := false
  skip : Nat := 0
  limit : Option Nat := none
  ignoreCase : Bool := false
  terminator : UInt8 := 10

def table : List OptionSpec :=
  [Options.both 'c' "count", Options.both 'd' "repeated", Options.both 'u' "unique",
   Options.short 'D', ⟨"D", none, some "all-repeated", .perhaps⟩, Options.long "group" .perhaps,
   Options.both 'f' "skip-fields" .value, Options.both 'i' "ignore-case",
   Options.both 's' "skip-chars" .value, Options.both 'w' "check-chars" .value,
   Options.both 'z' "zero-terminated"] ++ "0123456789".toList.map fun c => Options.short c

/-- A number that an option takes. -/
def sizeOf (c : Call) (complaint : String) (text : Octets) : Script Nat :=
  match Numbers.read "" text with
  | .number n => pure n
  | .tooLarge => pure Numbers.largest
  | .invalid => c.fail 1 (text ++ ": ".toList ++ complaint.toList)

/-- Takes note of one option. -/
def Style.take (c : Call) (s : Style) (g : Options.Given) : Script Style := do
  match g.key with
  | "c" => return { s with count := true, selected := true }
  | "d" => return { s with unique := false, selected := true }
  | "u" => return { s with firsts := false, selected := true }
  | "D" =>
    let division ← match g.value with
      | none => pure Division.none
      | some text =>
        c.choice 1 "--all-repeated" text
          [("none", Division.none), ("prepend", .before), ("separate", .between)]
    return { s with unique := false, others := true, division, selected := true }
  | "group" =>
    let division ← match g.value with
      | none => pure Division.between
      | some text =>
        c.choice 1 "--group" text
          [("prepend", Division.before), ("append", .after), ("separate", .between),
           ("both", .around)]
    return { s with groups := some division }
  | "f" =>
    let fields ← sizeOf c "invalid number of fields to skip" g.text
    return { s with fields, fieldsByDigits := false }
  | "i" => return { s with ignoreCase := true }
  | "s" => return { s with skip := (← sizeOf c "invalid number of bytes to skip" g.text) }
  | "w" => return { s with limit := some (← sizeOf c "invalid number of bytes to compare" g.text) }
  | "z" => return { s with terminator := 0 }
  | key =>
    let digit := Numbers.valueOf key.toList
    let before := if s.fieldsByDigits then s.fields else 0
    return { s with fields := min Numbers.largest (before * 10 + digit), fieldsByDigits := true }

/-- Two wishes exclude each other. -/
def Style.conflict? (s : Style) : Option String :=
  if s.groups.isSome && s.selected then
    some "--group is mutually exclusive with -c/-d/-D/-u"
  else if s.count && s.others then
    some "printing all duplicated lines and repeat counts is meaningless"
  else none

/-! ## Comparing -/

def isGap (b : UInt8) : Bool := b == 32 || b == 9 || b == 10

/-- What follows `count` fields, each with the blanks in front of it. -/
def dropFields : (count : Nat) → Bytes → Bytes
  | 0, bytes => bytes
  | count + 1, bytes =>
    if bytes.isEmpty then [] else dropFields count ((bytes.dropWhile isGap).dropWhile (!isGap ·))

def lower (b : UInt8) : UInt8 := if 65 ≤ b && b ≤ 90 then b + 32 else b

/-- What is compared of a line. -/
def Style.key (s : Style) (line : Bytes) : Bytes :=
  let rest := (dropFields (min s.fields line.length) line).drop s.skip
  let rest := match s.limit with
    | some limit => rest.take limit
    | none => rest
  if s.ignoreCase then rest.map lower else rest

/-- The runs of lines with equal keys. -/
def groups (key : Bytes → Bytes) (lines : List Bytes) : List (List Bytes) :=
  (lines.foldr (fun line (acc : List (Bytes × List Bytes)) =>
    let k := key line
    match acc with
    | (next, members) :: rest =>
      if k == next then (k, line :: members) :: rest else (k, [line]) :: acc
    | [] => [(k, [line])]) []).map Prod.snd

/-! ## Writing -/

/-- A count in front of a line. -/
def label (n : Nat) : Bytes :=
  let digits := Nat.repr n
  Text.Utf8.encode (String.ofList (List.replicate (7 - digits.length) ' ') ++ digits ++ " ")

/-- What is written of a group, given whether an earlier one was written with repetitions. -/
def Style.group (s : Style) (earlier : Bool) (members : List Bytes) : List Bytes :=
  let shown := fun (line : Bytes) => if s.count then label members.length ++ line else line
  match members with
  | [] => []
  | [line] => if s.unique then [shown line] else []
  | first :: rest =>
    let divided := s.division == .before || (s.division == .between && earlier)
    let leading := if s.others then (first :: rest).dropLast else []
    let last := if s.others then (first :: rest).getLast?.toList else [first]
    (if divided then [[]] else []) ++ leading ++ if s.firsts then last.map shown else []

/-- The lines of all groups, divided. -/
def Style.body (s : Style) (all : List (List Bytes)) : List Bytes :=
  match s.groups with
  | some division =>
    let between := if division == .none then [] else [[]]
    let inner := List.intercalate between all
    let front := if division == .before || division == .around then [[]] else []
    let back := if division == .after || division == .around then [[]] else []
    if all.isEmpty then [] else front ++ inner ++ back
  | none =>
    ((all.foldl (fun (earlier, written) members =>
      (earlier || 1 < members.length, s.group earlier members :: written))
      (false, ([] : List (List Bytes)))).2.reverse).flatten

end Uniq

open Uniq in
/-- Writes lines without repetitions. -/
def uniq : Main := Call.program fun c => do
  let p := c.parse table
  let style ← c.process 1 p (Style.take c) {}
  let (style, operands) := p.operands.foldl (fun (s, (operands : List Octets)) o =>
    match o with
    | '+' :: digits =>
      match Numbers.read "" digits with
      | .number n => ({ s with skip := n }, operands)
      | _ => (s, operands ++ [o])
    | _ => (s, operands ++ [o])) (style, [])
  match operands[2]? with
  | some extra => c.refuse 1 ("extra operand ".toList ++ Quoting.literal extra)
  | none => do
    match style.conflict? with
    | some text => c.refuse 1 text.toList
    | none => do
      let input := operands.headD ['-']
      match ← Call.openOperand input with
      | .error cause => do
        c.complainOf (Quoting.shellIfNeeded input) cause
        pure 1
      | .ok fd => do
        let output := (operands[1]?).getD ['-']
        if output != ['-'] then
          match ← Script.openFile (Octets.toString output) .overwrite with
          | .error cause => do
            c.complainOf (Quoting.shellIfNeeded output) cause
            Script.leave 1
          | .ok target => do
            let _ ← Script.duplicate target 1
            pure ()
        else pure ()
        match ← Script.slurp fd with
        | .error cause => do
          c.complainOf ("error reading ".toList ++ Quoting.shell input) cause
          pure 1
        | .ok bytes => do
          let lines := Text.terminated (· == style.terminator) bytes
          let body := style.body (groups style.key lines)
          c.emit 1 (body.flatMap fun line => line ++ [style.terminator])
          pure 0

end PipeShell.Programs
