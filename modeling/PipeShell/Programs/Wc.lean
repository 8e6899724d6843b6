import PipeShell.Programs.Calls

/-!
# wc

Counts lines, words, bytes and the widest line of files, and their totals. A word is a run of bytes
without white space, at least one of which can be shown.

## Main definitions

* `Wc.Counts`, `Wc.Counter`: what has been counted
* `Wc.columnWidth`: how wide the numbers are written
* `wc`: the program
-/

namespace PipeShell.Programs

open PipeShell.Machine
open PipeShell.Text (Octets)

namespace Wc

/-- What is counted in a file. -/
structure Counts where
  lines : Nat := 0
  words : Nat := 0
  bytes : Nat := 0
  width : Nat := 0

/-- Counts of several files together. -/
def Counts.add (a b : Counts) : Counts :=
  ⟨a.lines + b.lines, a.words + b.words, a.bytes + b.bytes, max a.width b.width⟩

/-- Counts so far: whether the last byte belonged to a word, and the width of the unfinished
line. -/
structure Counter where
  counts : Counts := {}
  inWord : Bool := false
  column : Nat := 0

/-- The word that is being read ends. -/
def Counter.endWord (c : Counter) : Counter :=
  { c with
    inWord := false
    counts := { c.counts with words := c.counts.words + if c.inWord then 1 else 0 } }

/-- The line that is being read ends. -/
def Counter.endLine (c : Counter) : Counter :=
  { c with column := 0, counts := { c.counts with width := max c.counts.width c.column } }

/-- Counts one byte. -/
def Counter.byte (c : Counter) (b : UInt8) : Counter :=
  match b.toNat with
  | 10 =>
    ({ c with counts := { c.counts with lines := c.counts.lines + 1 } }).endLine.endWord
  | 13 | 12 => c.endLine.endWord
  | 9 => { c with column := c.column + 8 - c.column % 8 }.endWord
  | 32 => { c with column := c.column + 1 }.endWord
  | 11 => c.endWord
  | n => if 32 < n ∧ n < 127 then { c with column := c.column + 1, inWord := true } else c

/-- Counts a run of bytes. -/
def Counter.run (c : Counter) (bytes : Bytes) : Counter :=
  let c := bytes.foldl Counter.byte c
  { c with counts := { c.counts with bytes := c.counts.bytes + bytes.length } }

/-- What has been counted at the end of a file. -/
def Counter.finish (c : Counter) : Counts := c.endLine.endWord.counts

/-- When totals are written. -/
inductive Totals where
  | several
  | always
  | only
  | never
  deriving DecidableEq

/-- Which counts are written, in their order, and when totals are. -/
structure Style where
  lines : Bool := false
  words : Bool := false
  chars : Bool := false
  bytes : Bool := false
  width : Bool := false
  totals : Totals := .several

def table : List OptionSpec :=
  [Options.both 'c' "bytes", Options.both 'm' "chars", Options.both 'l' "lines",
   Options.both 'w' "words", Options.both 'L' "max-line-length", Options.long "total" .value]

/-- Takes note of one option. -/
def Style.take (c : Call) (s : Style) (g : Options.Given) : Script Style :=
  match g.key with
  | "c" => pure { s with bytes := true }
  | "m" => pure { s with chars := true }
  | "l" => pure { s with lines := true }
  | "w" => pure { s with words := true }
  | "L" => pure { s with width := true }
  | _ => do
    let totals ← c.choice 1 "--total" g.text
      [("auto", Totals.several), ("always", .always), ("only", .only), ("never", .never)]
    return { s with totals }

/-- The counts to be written. -/
def Style.select (s : Style) (c : Counts) : List Nat :=
  (if s.lines then [c.lines] else []) ++ (if s.words then [c.words] else []) ++
    (if s.chars then [c.bytes] else []) ++ (if s.bytes then [c.bytes] else []) ++
    if s.width then [c.width] else []

/-- A number with blanks in front up to a width. -/
def alignRight (width n : Nat) : Octets :=
  let digits := (Nat.repr n).toList
  List.replicate (width - digits.length) ' ' ++ digits

/-- The line that shows counts. -/
def Style.line (s : Style) (width : Nat) (name : Option Octets) (c : Counts) : Octets :=
  let numbers := [' '].intercalate ((s.select c).map (alignRight width))
  match name with
  | none => numbers ++ ['\n']
  | some name =>
    numbers ++ ' ' :: (if name.contains '\n' then Quoting.shellIfNeeded name else name) ++ ['\n']

/-- What is known of a file before it is read. -/
def inspectInput (operand : Octets) : Script (Option Inspection) := do
  let found ← if operand == ['-'] then Script.inspectFd 0
    else Script.inspect (Octets.toString operand) true
  return found.toOption

/-- The width of the columns: that of the sum of the sizes, and at least 7 if a file has none. -/
def columnWidth (found : List (Option Inspection)) : Nat :=
  let known := found.filterMap id
  let total := (known.map fun i => if i.kind = .regular then i.size else 0).foldl (· + ·) 0
  let least := if known.all fun i => i.kind == .regular then 1 else 7
  max (Nat.repr total).length least

/-- Counts everything that is left to read. -/
def countRest (fd : Nat) : Script (Counts × Option Errno) :=
  Script.iterate (fun (counter : Counter) => do
    match ← Script.read fd 16384 with
    | .ok [] => pure (.inr (counter.finish, none))
    | .ok bytes => pure (.inl (counter.run bytes))
    | .error cause => pure (.inr (counter.finish, some cause))) {}

/-- Counts what is left to read. Where only bytes are counted, the size of a file tells their number
unless it might be an approximation, and then nothing is read. -/
def countFd (s : Style) (fd : Nat) : Script (Counts × Option Errno) := do
  if s.bytes && !s.chars && !s.lines && !s.words && !s.width then
    match ← Script.inspectFd fd with
    | .ok { kind := .regular, size, offset, .. } =>
      if size % 4096 ≠ 0 then pure ({ bytes := size - offset }, none) else countRest fd
    | _ => countRest fd
  else countRest fd

/-- Counts one file, and adds the line that shows it. -/
def countFile (c : Call) (s : Style) (width : Nat) (sink : Call.Sink) (operand : Octets)
    (name : Option Octets) : Script (Call.Sink × Counts × Nat) := do
  match ← Call.openOperand operand with
  | .error cause => do
    c.complainOf (Quoting.shellIfNeeded operand) cause
    pure (sink, {}, 1)
  | .ok fd => do
    let (counts, fault) ← countFd s fd
    Call.closeOperand operand fd
    match fault with
    | none => pure ()
    | some cause => c.complainOf (Quoting.shellIfNeeded (name.getD "standard input".toList)) cause
    let sink ← if s.totals == .only then pure sink
      else c.feed 1 "write error" sink (Octets.toBytes (s.line width name counts))
    pure (sink, counts, if fault.isSome then 1 else 0)

end Wc

open Wc in
/-- Counts lines, words and bytes. -/
def wc : Main := Call.program fun c => do
  let p := c.parse table
  let style ← c.process 1 p (Style.take c) {}
  let style := if (style.select {}).isEmpty then
      { style with lines := true, words := true, bytes := true }
    else style
  let inputs := if p.operands.isEmpty then [(['-'], none)]
    else p.operands.map fun o => (o, some o)
  let single := inputs.length = 1 ∧ (style.select {}).length = 1
  let found ← if single then pure [] else inputs.mapM fun i => inspectInput i.1
  let width := if single || style.totals == .only then 1 else columnWidth found
  let (sink, total, status) ← inputs.foldlM (fun (sink, total, worst) (operand, name) => do
    let (sink, counts, status) ← Wc.countFile c style width sink operand name
    return (sink, total.add counts, max worst status)) (({} : Call.Sink), ({} : Counts), 0)
  let withTotal := style.totals != .never && (style.totals != .several || 1 < inputs.length)
  let sink ← if withTotal then
      let name := if style.totals == .only then none else some "total".toList
      c.feed 1 "write error" sink (Octets.toBytes (style.line width name total))
    else pure sink
  c.drain 1 sink
  pure status

end PipeShell.Programs
