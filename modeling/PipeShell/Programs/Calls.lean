import PipeShell.Machine.Program
import PipeShell.Programs.Options
import PipeShell.Programs.Quoting

/-!
# How programs are called and what they say

A program knows its own name, its arguments and its environment. It complains on standard error
under its own name, and leaves with a status.

## Main definitions

* `Call`: how a program was called
* `Call.program`: a program file made of a script
* `Call.settle`, `Call.process`: options, and complaints about them
* `Call.choice`: the value of an option that is one of a few words
* `Call.emit`, `Call.feed`: write to standard output or leave
-/

namespace PipeShell.Programs

open PipeShell.Machine
open PipeShell.Text (Octets)

/-- How a program was called: by which name, with which arguments and in which environment. -/
structure Call where
  own : Octets
  args : List Octets
  environment : Environment

namespace Call

/-- A program file made of a script that ends in a status. -/
def program (body : Call → Script Nat) : Main := fun args environment =>
  (body
    { own := Octets.ofString (args.headD "")
      args := args.tail.map Octets.ofString
      environment }).program

/-- Writes a text of octets; a failure goes unnoticed. -/
def sayOctets (fd : Nat) (text : Octets) : Script Unit := Script.put fd (Octets.toBytes text)

/-- Complains on standard error. -/
def complain (c : Call) (text : Octets) : Script Unit :=
  sayOctets 2 (c.own ++ ": ".toList ++ text ++ ['\n'])

/-- Complains about a cause. -/
def complainOf (c : Call) (subject : Octets) (cause : Errno) : Script Unit :=
  c.complain (subject ++ ": ".toList ++ cause.systemText.toList)

/-- Complains and leaves. -/
def fail {α : Type} (c : Call) (status : Nat) (text : Octets) : Script α := do
  c.complain text
  Script.leave status

/-- Says where more can be read. -/
def hint (c : Call) : Script Unit :=
  sayOctets 2 ("Try '".toList ++ c.own ++ " --help' for more information.\n".toList)

/-- Complains, says where more can be read, and leaves. -/
def refuse {α : Type} (c : Call) (status : Nat) (text : Octets) : Script α := do
  c.complain text
  c.hint
  Script.leave status

/-- All options stand in front of the operands. -/
def isStrict (c : Call) : Bool := (c.environment.lookup "POSIXLY_CORRECT").isSome

/-- Reads the arguments. -/
def parse (c : Call) (table : List OptionSpec) : Options.Parsed :=
  Options.parse table c.isStrict c.args

/-- Leaves if there is something wrong with the arguments. -/
def settle (c : Call) (status : Nat) (p : Options.Parsed) : Script Unit :=
  match p.fault with
  | none => pure ()
  | some fault => c.refuse status fault.message

/-- Takes note of the options in order, and then leaves if something is wrong with the arguments. -/
def process {σ : Type} (c : Call) (status : Nat) (p : Options.Parsed)
    (step : σ → Options.Given → Script σ) (start : σ) : Script σ := do
  let result ← p.given.foldlM step start
  c.settle status p
  pure result

/-! ## Choices -/

/-- The value of an option that is one of a few words, of which as much is enough as tells it from
words that mean something else. -/
def choice {α : Type} [BEq α] (c : Call) (status : Nat) (option : String) (text : Octets)
    (words : List (String × α)) : Script α :=
  let refused := fun (problem : String) => do
    c.complain (problem.toList ++ " argument ".toList ++ Quoting.literal text ++ " for ".toList ++
      Quoting.literal option.toList)
    sayOctets 2 "Valid arguments are:".toList
    let _ ← words.foldlM (fun (last : Option α) (word, meaning) => do
      let name := Quoting.literal word.toList
      if last.any (· == meaning) then sayOctets 2 (", ".toList ++ name)
      else sayOctets 2 ("\n  - ".toList ++ name)
      return some meaning) none
    sayOctets 2 ['\n']
    c.hint
    Script.leave status
  match words.find? fun w => w.1.toList == text with
  | some (_, meaning) => pure meaning
  | none =>
    match words.filter fun w => text.isPrefixOf w.1.toList with
    | [] => refused "invalid"
    | first :: others =>
      if others.all fun w => w.2 == first.2 then pure first.2 else refused "ambiguous"

/-! ## Files -/

/-- The descriptor of an operand; a dash is standard input. -/
def openOperand (operand : Octets) : Script (Except Errno Nat) :=
  if operand == ['-'] then pure (.ok 0) else Script.openFile (Octets.toString operand) .read

/-- Closes the descriptor of an operand. -/
def closeOperand (operand : Octets) (fd : Nat) : Script Unit :=
  if operand == ['-'] then pure () else Script.close fd

/-- The operands, or standard input where there are none. -/
def inputs (operands : List Octets) : List Octets := if operands.isEmpty then [['-']] else operands

/-- Writes to standard output, or complains and leaves. -/
def emitOr (c : Call) (status : Nat) (subject : String) (bytes : Bytes) : Script Unit := do
  match ← Script.write 1 bytes with
  | .ok () => pure ()
  | .error cause => do
    c.complainOf subject.toList cause
    Script.leave status

/-- Writes to standard output, or complains of a write error and leaves. -/
def emit (c : Call) (status : Nat) (bytes : Bytes) : Script Unit :=
  c.emitOr status "write error" bytes

/-! ## Output in blocks -/

/-- What waits to be written to standard output, the latest first, and how many bytes there are. -/
structure Sink where
  chunks : List Bytes := []
  size : Nat := 0

/-- The bytes that wait. -/
def Sink.bytes (s : Sink) : Bytes := s.chunks.reverse.flatten

/-- The number of bytes from which on they do not wait any longer. -/
def Sink.block : Nat := 4096

/-- Adds bytes, and writes all of them once a block is full. -/
def feed (c : Call) (status : Nat) (subject : String) (s : Sink) (bytes : Bytes) : Script Sink := do
  let s : Sink := ⟨bytes :: s.chunks, s.size + bytes.length⟩
  if s.size < Sink.block then pure s
  else do
    c.emitOr status subject s.bytes
    pure {}

/-- Writes what waits. -/
def drain (c : Call) (status : Nat) (s : Sink) : Script Unit :=
  if s.size = 0 then pure () else c.emit status s.bytes

/-- Does something for each member, and keeps the highest status. -/
def each {α : Type} (f : α → Script Nat) (members : List α) : Script Nat :=
  members.foldlM (fun worst a => do return max worst (← f a)) 0

end Call

end PipeShell.Programs
