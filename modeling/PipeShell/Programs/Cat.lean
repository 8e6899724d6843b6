import PipeShell.Programs.Calls

/-!
# cat

Writes files one after another. On request lines are numbered, line ends and tabs are shown, bytes
that cannot be seen are written in a visible form, and of several empty lines in a row one is left.
What is known of the last line is carried over from file to file.

## Main definitions

* `Cat.Style`: what is asked for
* `Cat.transform`: what becomes of a run of bytes
* `cat`: the program
-/

namespace PipeShell.Programs

open PipeShell.Machine
open PipeShell.Text (Octets)

namespace Cat

/-- What is asked for. -/
structure Style where
  number : Bool := false
  numberFull : Bool := false
  showEnds : Bool := false
  showTabs : Bool := false
  showHidden : Bool := false
  squeeze : Bool := false

/-- Nothing is asked for. -/
def Style.isPlain (s : Style) : Bool :=
  !(s.number || s.numberFull || s.showEnds || s.showTabs || s.showHidden || s.squeeze)

def table : List OptionSpec :=
  [Options.both 'b' "number-nonblank", Options.both 'n' "number",
   Options.both 's' "squeeze-blank", Options.both 'v' "show-nonprinting",
   Options.both 'E' "show-ends", Options.both 'T' "show-tabs", Options.both 'A' "show-all",
   Options.short 'e', Options.short 't', Options.short 'u']

def Style.take (s : Style) (g : Options.Given) : Style :=
  match g.key with
  | "b" => { s with numberFull := true }
  | "n" => { s with number := true }
  | "s" => { s with squeeze := true }
  | "v" => { s with showHidden := true }
  | "E" => { s with showEnds := true }
  | "T" => { s with showTabs := true }
  | "A" => { s with showHidden := true, showEnds := true, showTabs := true }
  | "e" => { s with showHidden := true, showEnds := true }
  | "t" => { s with showHidden := true, showTabs := true }
  | _ => s

/-- What is known of the bytes so far: the number of the last numbered line, whether a line has been
begun, how many empty lines there were since, up to two, and whether a carriage return is held
back. -/
structure State where
  line : Nat := 0
  begun : Bool := false
  empty : Nat := 0
  held : Bool := false

/-- A number in front of a line. -/
def label (n : Nat) : Bytes :=
  let digits := Nat.repr n
  Text.Utf8.encode (String.ofList (List.replicate (6 - digits.length) ' ') ++ digits ++ "\t")

/-- A byte in a visible form. -/
def visible (b : UInt8) : Bytes :=
  let low := fun (b : UInt8) =>
    if b < 32 then [94, b + 64] else if b == 127 then [94, 63] else [b]
  if b < 128 then low b else [77, 45] ++ low (b - 128)

/-- What is written, the latest first, with the state. -/
structure Output where
  state : State
  written : Bytes

def Output.write (o : Output) (bytes : Bytes) : Output :=
  { o with written := bytes.reverse ++ o.written }

/-- Writes the number of the next line. -/
def Output.writeLabel (o : Output) : Output :=
  let line := o.state.line + 1
  { o with state := { o.state with line } }.write (label line)

/-- A line feed. -/
def Output.lineFeed (s : Style) (o : Output) : Output :=
  let finish := fun (o : Output) =>
    let o := if s.showEnds && o.state.held then
        { o with state := { o.state with held := false } }.write [94, 77]
      else o
    (if s.showEnds then o.write [36] else o).write [10]
  if o.state.begun then
    finish { o with state := { o.state with begun := false, empty := 0 } }
  else
    let empty := min 2 (o.state.empty + 1)
    let o := { o with state := { o.state with empty } }
    if empty == 2 && s.squeeze then o
    else finish (if s.number && !s.numberFull then o.writeLabel else o)

/-- A byte of a line. -/
def Output.byte (s : Style) (o : Output) (b : UInt8) : Output :=
  let o := if o.state.held then { o with state := { o.state with held := false } }.write [13] else o
  let o := if !o.state.begun && (s.number || s.numberFull) then o.writeLabel else o
  let o := { o with state := { o.state with begun := true } }
  if b == 9 then o.write (if s.showTabs then [94, 73] else [9])
  else if s.showHidden then o.write (visible b)
  else if b == 13 && s.showEnds then { o with state := { o.state with held := true } }
  else o.write [b]

/-- What becomes of a run of bytes. -/
def transform (s : Style) (state : State) (bytes : Bytes) : State × Bytes :=
  let o := bytes.foldl (fun o b => if b == 10 then o.lineFeed s else o.byte s b)
    { state, written := [] : Output }
  (o.state, o.written.reverse)

/-- Writing the file would read what it writes. -/
def feedsItself (fd : Nat) : Script Bool := do
  match ← Script.inspectFd fd, ← Script.inspectFd 1 with
  | .ok source, .ok target =>
    let goal := if target.appends then target.size else target.offset
    pure (source.kind != .pipe && source.node.isSome && source.node == target.node &&
      source.kind == .regular && source.offset < goal)
  | _, _ => pure false

/-- Writes everything that is left of a file. -/
def copy (c : Call) (s : Style) (subject : Octets) (fd : Nat) (start : State) :
    Script (State × Nat) :=
  Script.iterate (fun (state : State) => do
    match ← Script.read fd 131072 with
    | .ok [] => pure (.inr (state, 0))
    | .ok bytes => do
      let (state, bytes) := if s.isPlain then (state, bytes) else transform s state bytes
      c.emit 1 bytes
      pure (.inl state)
    | .error cause => do
      c.complainOf (Quoting.shellIfNeeded subject) cause
      pure (.inr (state, 1))) start

/-- Writes one file. -/
def writeFile (c : Call) (s : Style) (state : State) (operand : Octets) : Script (State × Nat) := do
  match ← Call.openOperand operand with
  | .error cause => do
    c.complainOf (Quoting.shellIfNeeded operand) cause
    pure (state, 1)
  | .ok fd => do
    match ← Script.inspectFd fd with
    | .error cause => do
      c.complainOf (Quoting.shellIfNeeded operand) cause
      pure (state, 1)
    | .ok _ =>
      if ← feedsItself fd then do
        c.complain (Quoting.shellIfNeeded operand ++ ": input file is output file".toList)
        Call.closeOperand operand fd
        pure (state, 1)
      else do
        let result ← copy c s operand fd state
        Call.closeOperand operand fd
        pure result

end Cat

open Cat in
/-- Writes files one after another. -/
def cat : Main := Call.program fun c => do
  let p := c.parse table
  let style := p.given.foldl Style.take {}
  c.settle 1 p
  match ← Script.inspectFd 1 with
  | .error cause => do
    c.complainOf "standard output".toList cause
    pure 1
  | .ok _ => do
    let (state, status) ← (Call.inputs p.operands).foldlM (fun (state, worst) operand => do
      let (state, status) ← Cat.writeFile c style state operand
      return (state, max worst status)) (({} : State), 0)
    if state.held then c.emit 1 [13] else pure ()
    if (Call.inputs p.operands).contains ['-'] then
      match ← Script.inspectFd 0 with
      | .error cause => do
        c.complainOf "closing standard input".toList cause
        pure 1
      | .ok _ => pure status
    else pure status

end PipeShell.Programs
