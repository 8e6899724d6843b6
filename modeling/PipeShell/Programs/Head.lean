import PipeShell.Programs.Calls
import PipeShell.Programs.Numbers

/-!
# head

Writes the first lines or bytes of files, or all but the last. Of a file that has positions no more
is taken than is written; of a pipe as much as one step of reading brings.

## Main definitions

* `Head.Style`: what is asked for
* `head`: the program
-/

namespace PipeShell.Programs

open PipeShell.Machine
open PipeShell.Text (Octets)

namespace Head

/-- When the name of a file is written above it. -/
inductive Titles where
  | several
  | always
  | never
  deriving DecidableEq

/-- What is asked for: how many lines or bytes, from the beginning or all but so many, the byte that
ends a line, and when names are written. -/
structure Style where
  count : Nat := 10
  lines : Bool := true
  butLast : Bool := false
  terminator : UInt8 := 10
  titles : Titles := .several

def table : List OptionSpec :=
  [Options.both 'c' "bytes" .value, Options.both 'n' "lines" .value, Options.both 'q' "quiet",
   ⟨"q", none, some "silent", .nothing⟩, Options.both 'v' "verbose",
   Options.both 'z' "zero-terminated"] ++
    "0123456789".toList.map fun c => Options.short c

/-- A number of lines or bytes. -/
def countOf (c : Call) (lines : Bool) (text : Octets) : Script Nat :=
  let subject := (if lines then "invalid number of lines: " else "invalid number of bytes: ").toList
  match Numbers.read "bkKmMGTPEZYRQ0" text with
  | .number n => pure n
  | .invalid => c.fail 1 (subject ++ Quoting.literal text)
  | .tooLarge =>
    c.fail 1 (subject ++ Quoting.literal text ++ ": Value too large for defined data type".toList)

/-- Takes note of one option. -/
def Style.take (c : Call) (s : Style) (g : Options.Given) : Script Style := do
  let counted := fun (lines : Bool) => do
    let (butLast, text) := match g.text with
      | '-' :: rest => (true, rest)
      | text => (false, text)
    let count ← countOf c lines text
    return { s with count, lines, butLast }
  match g.key with
  | "c" => counted false
  | "n" => counted true
  | "q" => return { s with titles := .never }
  | "v" => return { s with titles := .always }
  | "z" => return { s with terminator := 0 }
  | key => c.refuse 1 ("invalid trailing option -- ".toList ++ key.toList)

/-- Takes note of the letters behind a number; the last of some letters multiplies it. -/
def Style.takeLetters (c : Call) : Style → Option Char → Octets → Script (Style × Option Char)
  | s, unit, [] => pure (s, unit)
  | s, unit, letter :: rest =>
    match letter with
    | 'c' => takeLetters c { s with lines := false } none rest
    | 'b' | 'k' | 'm' => takeLetters c { s with lines := false } (some letter) rest
    | 'l' => takeLetters c { s with lines := true } unit rest
    | 'q' => takeLetters c { s with titles := .never } unit rest
    | 'v' => takeLetters c { s with titles := .always } unit rest
    | 'z' => takeLetters c { s with terminator := 0 } unit rest
    | letter => c.refuse 1 ("invalid trailing option -- ".toList ++ [letter])

/-- A first argument that is a number with letters behind it. -/
def Style.takeNumber (c : Call) (s : Style) : Script (Style × List Octets) :=
  match c.args with
  | ('-' :: digit :: more) :: rest =>
    if digit.isDigit then do
      let digits := (digit :: more).takeWhile Char.isDigit
      let (s, unit) ← takeLetters c s none ((digit :: more).drop digits.length)
      let count ← countOf c s.lines (digits ++ unit.toList)
      return ({ s with count }, rest)
    else pure (s, c.args)
  | args => pure (s, args)

/-! ## Reading -/

/-- How many of some bytes make up the first `count` lines, and how many lines are missing. -/
def extentOfLines (terminator : UInt8) : (count : Nat) → Bytes → Nat × Nat
  | count, bytes =>
    let (taken, missing) := bytes.foldl (fun (taken, missing) b =>
      if missing = 0 then (taken, missing)
      else (taken + 1, if b == terminator then missing - 1 else missing)) (0, count)
    (taken, missing)

/-- Moves back to the end of what was wanted, where that can be done. -/
def stepBack (fd surplus : Nat) : Script Unit := do
  if surplus = 0 then pure ()
  else match ← Script.inspectFd fd with
    | .ok found => do
      let _ ← Script.seek fd (found.offset - surplus)
      pure ()
    | .error _ => pure ()

/-- Adds output. -/
def write (c : Call) (sink : Call.Sink) (bytes : Bytes) : Script Call.Sink :=
  c.feed 1 "error writing 'standard output'" sink bytes

/-- Writes the first lines or bytes. -/
def copyFirst (c : Call) (s : Style) (fd : Nat) (sink : Call.Sink) :
    Script (Call.Sink × Option Errno) :=
  Script.iterate (fun ((sink, missing) : Call.Sink × Nat) => do
    if missing = 0 then pure (.inr (sink, none))
    else
      match ← Script.read fd (if s.lines then 8192 else min 8192 missing) with
      | .error cause => pure (.inr (sink, some cause))
      | .ok [] => pure (.inr (sink, none))
      | .ok bytes => do
        let (taken, missing) :=
          if s.lines then extentOfLines s.terminator missing bytes
          else (bytes.length, missing - bytes.length)
        stepBack fd (bytes.length - taken)
        let sink ← write c sink (bytes.take taken)
        pure (.inl (sink, missing))) (sink, s.count)

/-- How many bytes are left when the last `count` lines are taken away. A last line without an end
is a line too. -/
def extentWithoutLines (terminator : UInt8) (count : Nat) (bytes : Bytes) : Nat :=
  if count = 0 then bytes.length
  else
    let backwards := bytes.reverse
    let wanted := if backwards.head? == some terminator || bytes.isEmpty then count + 1 else count
    let (passed, missing) := backwards.foldl (fun (passed, missing) b =>
      if missing = 0 then (passed, missing)
      else if b == terminator then
        (if missing = 1 then (passed, 0) else (passed + 1, missing - 1))
      else (passed + 1, missing)) (0, wanted)
    if missing = 0 then bytes.length - passed else 0

/-- Writes all but the last lines or bytes. -/
def copyButLast (c : Call) (s : Style) (fd : Nat) (sink : Call.Sink) :
    Script (Call.Sink × Option Errno) := do
  match ← Script.slurp fd with
  | .error cause => pure (sink, some cause)
  | .ok bytes => do
    let extent := if s.lines then extentWithoutLines s.terminator s.count bytes
      else bytes.length - s.count
    let sink ← write c sink (bytes.take extent)
    stepBack fd (bytes.length - extent)
    pure (sink, none)

/-- Writes the beginning of one file, its name above it if `titled`. -/
def writeFile (c : Call) (s : Style) (titled first : Bool) (sink : Call.Sink) (operand : Octets) :
    Script (Call.Sink × Bool × Nat) := do
  let name := if operand == ['-'] then "standard input".toList else operand
  match ← Call.openOperand operand with
  | .error cause => do
    c.complainOf ("cannot open ".toList ++ Quoting.shell operand ++ " for reading".toList) cause
    pure (sink, first, 1)
  | .ok fd => do
    let title := (if first then "==> " else "\n==> ").toList ++ name ++ " <==\n".toList
    let sink ← if titled then write c sink (Octets.toBytes title) else pure sink
    let (sink, fault) ← if s.butLast then copyButLast c s fd sink else copyFirst c s fd sink
    Call.closeOperand operand fd
    match fault with
    | none => pure (sink, false, 0)
    | some cause => do
      c.complainOf ("error reading ".toList ++ Quoting.shell name) cause
      pure (sink, false, 1)

end Head

open Head in
/-- Writes the beginning of files. -/
def head : Main := Call.program fun c => do
  let (style, args) ← Style.takeNumber c {}
  let p := Options.parse table c.isStrict args
  let style ← c.process 1 p (Style.take c) style
  let operands := Call.inputs p.operands
  let titled := style.titles == .always || (style.titles == .several && 1 < p.operands.length)
  let (sink, _, status) ← operands.foldlM (fun (sink, first, worst) operand => do
    let (sink, first, status) ← Head.writeFile c style titled first sink operand
    return (sink, first, max worst status)) (({} : Call.Sink), true, 0)
  c.drain 1 sink
  pure status

end PipeShell.Programs
