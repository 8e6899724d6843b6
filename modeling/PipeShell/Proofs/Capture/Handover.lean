import Mathlib.Logic.Relation
import PipeShell.Machine.Child
import PipeShell.Proofs.Capture.Exactness
import PipeShell.Proofs.Machine.Growth

/-!
# Handing a text over

A text is captured by two processes. The copier reads the lines and writes them to a pipe; the shell
reads the pipe into a file without a name. Each lets go of the end that it does not need. When the
shell has met the end of the pipe it lets go of its own end, goes back to the beginning of the file,
and only then waits for the copier.

The two take their steps in any order. A step of reading takes any number of bytes, and so does a
step of writing, as far as there is room in the pipe. The ends of the pipe may be known under any
numbers that are not in use.

## Main definitions

* `CaptureTask`: what is to be captured, and on which machine
* `Drain`, `Copier`: how far the shell and the copier have come
* `Handover`: a machine with the two of them
* `DrainStep`, `CopyStep`: one step of the shell, and one of the copier
* `Reaches`: what a handover may come to
* `WaitsForRoom`, `WaitsForBytes`, `WaitsForEnd`: there is nothing to do but wait
-/

namespace PipeShell.Machine

/-- What is to be captured: the lines of an input up to a delimiter, on a machine whose shell stands
in the directory `cwd`; and the numbers under which the ends of the pipe are known. -/
structure CaptureTask where
  initial : Machine
  cwd : NodeId
  promptText : String
  delimiter : String
  input : Input
  reader : Nat
  writer : Nat

/-- How far the shell has come:

* `closing`: it holds both ends of the pipe
* `making`: it has no file yet
* `draining`: it reads from the pipe
* `storing`: it writes what it has read to the file
* `dropping`: it has met the end, or a failure
* `rewinding`: it holds no end of the pipe any more
* `awaiting`: it waits for the copier
* `done`: it knows how the copier has ended, and the capture is over -/
inductive Drain where
  | closing
  | making
  | draining (file : Nat)
  | storing (file : Nat) (bytes : Bytes)
  | dropping (held : Except Errno Nat)
  | rewinding (held : Except Errno Nat)
  | awaiting (held : Except Errno Nat)
  | done (held : Except Errno Nat) (status : ExitStatus)

/-- How far the copier has come with its input:

* `closing`: it holds both ends of the pipe
* `prompting`: it is about to ask for a line
* `reading`: it is about to read the line
* `passing`: it writes what is left of the line
* `complaining`: it has failed
* `releasing`: it writes no more
* `leaving`: it holds no end of the pipe any more
* `ended`: it has ended -/
inductive Copier where
  | closing (i : Input)
  | prompting (i : Input)
  | reading (i : Input)
  | passing (left : Bytes) (i : Input)
  | complaining (cause : Errno) (rest : Input)
  | releasing (failure : Option Errno) (rest : Input)
  | leaving (failure : Option Errno) (rest : Input)
  | ended (failure : Option Errno) (rest : Input)

/-- A machine with a shell and a copier, and the bytes that the copier has written to the pipe. -/
structure Handover where
  machine : Machine
  drain : Drain
  copier : Copier
  sent : Bytes

namespace CaptureTask

/-- The number of the process that copies. -/
def pid (t : CaptureTask) : Nat := t.initial.processes.size

/-- The number of the pipe. -/
def pipe (t : CaptureTask) : Nat := t.initial.pipes.size

/-- The open file of the reading end. -/
def readerFile (t : CaptureTask) : Nat := t.initial.files.size

/-- The open file of the writing end. -/
def writerFile (t : CaptureTask) : Nat := t.initial.files.size + 1

end CaptureTask

/-- How the copier ends. -/
def exitOf : Option Errno → ExitStatus
  | none => .exited 0
  | some _ => .exited 1

namespace Handover

/-- The pipe has been made and the copier started, with a copy of the shell's table. -/
def start (t : CaptureTask) : Handover :=
  let m := t.initial.openPipe.2
  let descriptors :=
    (m.descriptors.place t.reader t.initial.openPipe.1.1).place t.writer t.initial.openPipe.1.2
  let copier : Process :=
    { descriptors, cwd := t.cwd, umask := m.umask, image := .running (.leave 0) }
  { machine := ({ m with descriptors }.addProcess copier).2
    drain := .closing
    copier := .closing t.input
    sent := [] }

/-! ## Steps -/

/-- One step of the shell. -/
inductive DrainStep (t : CaptureTask) : Handover → Handover → Prop where
  | close {s : Handover} (hdrain : s.drain = .closing) :
    DrainStep t s { s with
      machine := { s.machine with descriptors := s.machine.descriptors.drop t.writer }
      drain := .making }
  | make {s : Handover} (hdrain : s.drain = .making)
    (hroom : s.machine.temporaryFault? t.cwd = none) :
    DrainStep t s { s with
      machine := (s.machine.openNameless #[]).2
      drain := .draining (s.machine.openNameless #[]).1 }
  | noFile {s : Handover} {cause : Errno} (hdrain : s.drain = .making)
    (hfault : s.machine.temporaryFault? t.cwd = some cause) :
    DrainStep t s { s with drain := .dropping (.error cause) }
  | read {s : Handover} {file source count : Nat} {bytes : Bytes} {m : Machine}
    (hdrain : s.drain = .draining file)
    (hsource : s.machine.descriptors.get? t.reader = some source) (hcount : 0 < count)
    (hread : s.machine.readChunk source count false = (.bytes bytes, m)) :
    DrainStep t s { s with machine := m, drain := .storing file bytes }
  | drained {s : Handover} {file source count : Nat} {m : Machine}
    (hdrain : s.drain = .draining file)
    (hsource : s.machine.descriptors.get? t.reader = some source) (hcount : 0 < count)
    (hread : s.machine.readChunk source count false = (.ending, m)) :
    DrainStep t s { s with machine := m, drain := .dropping (.ok file) }
  | noRead {s : Handover} {file source count : Nat} {cause : Errno} {m : Machine}
    (hdrain : s.drain = .draining file)
    (hsource : s.machine.descriptors.get? t.reader = some source) (hcount : 0 < count)
    (hread : s.machine.readChunk source count false = (.failed cause, m)) :
    DrainStep t s { s with machine := m, drain := .dropping (.error cause) }
  | store {s : Handover} {file count : Nat} {bytes : Bytes} {m : Machine}
    (hdrain : s.drain = .storing file bytes) (hbytes : bytes ≠ []) (hcount : 0 < count)
    (hwrite : s.machine.writeChunk file (bytes.take count) = (.all, m)) :
    DrainStep t s { s with machine := m, drain := .storing file (bytes.drop count) }
  | noStore {s : Handover} {file count : Nat} {bytes : Bytes} {cause : Errno} {m : Machine}
    (hdrain : s.drain = .storing file bytes) (hbytes : bytes ≠ []) (hcount : 0 < count)
    (hwrite : s.machine.writeChunk file (bytes.take count) = (.failed cause, m)) :
    DrainStep t s { s with machine := m, drain := .dropping (.error cause) }
  | stored {s : Handover} {file : Nat} (hdrain : s.drain = .storing file []) :
    DrainStep t s { s with drain := .draining file }
  | drop {s : Handover} {held : Except Errno Nat} (hdrain : s.drain = .dropping held) :
    DrainStep t s { s with
      machine := { s.machine with descriptors := s.machine.descriptors.drop t.reader }
      drain := .rewinding held }
  | rewind {s : Handover} {file : Nat} (hdrain : s.drain = .rewinding (.ok file)) :
    DrainStep t s { s with machine := s.machine.seek file 0, drain := .awaiting (.ok file) }
  | noRewind {s : Handover} {cause : Errno} (hdrain : s.drain = .rewinding (.error cause)) :
    DrainStep t s { s with drain := .awaiting (.error cause) }
  | await {s : Handover} {held : Except Errno Nat} {status : ExitStatus}
    (hdrain : s.drain = .awaiting held) (hending : s.machine.ending? t.pid = some status) :
    DrainStep t s { s with drain := .done held status }

/-- One step of the copier. What it says goes to the standard error that it shares with the
shell. -/
inductive CopyStep (t : CaptureTask) : Handover → Handover → Prop where
  | close {s : Handover} {i : Input} {p : Process} (hcopier : s.copier = .closing i)
    (hprocess : s.machine.processes[t.pid]? = some p) :
    CopyStep t s { s with
      machine := s.machine.setDescriptors t.pid (p.descriptors.drop t.reader)
      copier := .prompting i }
  | prompt {s : Handover} {i : Input} (hcopier : s.copier = .prompting i) :
    CopyStep t s { s with machine := s.machine.complain t.promptText, copier := .reading i }
  | line {s : Handover} {i rest : Input} {line : String} (hcopier : s.copier = .reading i)
    (hline : i.readLine none = (.ok (.text line), rest)) (hother : Text.trim line ≠ t.delimiter) :
    CopyStep t s { s with
      copier := .passing (Text.Utf8.encode line ++ [Input.lineFeed]) rest }
  | delimiter {s : Handover} {i rest : Input} {line : String} (hcopier : s.copier = .reading i)
    (hline : i.readLine none = (.ok (.text line), rest)) (hlast : Text.trim line = t.delimiter) :
    CopyStep t s { s with copier := .releasing none rest }
  | ending {s : Handover} {i rest : Input} {l : Line} (hcopier : s.copier = .reading i)
    (hline : i.readLine none = (.ok l, rest)) (hlast : l = .endOfInput ∨ l = .tooLong) :
    CopyStep t s { s with copier := .releasing none rest }
  | noLine {s : Handover} {i rest : Input} {cause : Errno} (hcopier : s.copier = .reading i)
    (hline : i.readLine none = (.error cause, rest)) :
    CopyStep t s { s with copier := .complaining cause rest }
  | pass {s : Handover} {i : Input} {left : Bytes} {p : Process} {sink count : Nat} {m : Machine}
    (hcopier : s.copier = .passing left i) (hleft : left ≠ [])
    (hprocess : s.machine.processes[t.pid]? = some p)
    (hsink : p.descriptors.get? t.writer = some sink) (hcount : 0 < count)
    (hwrite : s.machine.writeChunk sink (left.take count) = (.all, m)) :
    CopyStep t s { s with
      machine := m, sent := s.sent ++ left.take count, copier := .passing (left.drop count) i }
  | passPart {s : Handover} {i : Input} {left more : Bytes} {p : Process} {sink count : Nat}
    {m : Machine} (hcopier : s.copier = .passing left i) (hleft : left ≠ [])
    (hprocess : s.machine.processes[t.pid]? = some p)
    (hsink : p.descriptors.get? t.writer = some sink) (hcount : 0 < count)
    (hwrite : s.machine.writeChunk sink (left.take count) = (.part more, m)) :
    CopyStep t s { s with
      machine := m
      sent := s.sent ++ (left.take count).take ((left.take count).length - more.length)
      copier := .passing (more ++ left.drop count) i }
  | broken {s : Handover} {i : Input} {left : Bytes} {p : Process} {sink count : Nat} {m : Machine}
    (hcopier : s.copier = .passing left i) (hleft : left ≠ [])
    (hprocess : s.machine.processes[t.pid]? = some p)
    (hsink : p.descriptors.get? t.writer = some sink) (hcount : 0 < count)
    (hwrite : s.machine.writeChunk sink (left.take count) = (.broken, m)) :
    CopyStep t s { s with machine := m, copier := .complaining .brokenPipe i }
  | noPass {s : Handover} {i : Input} {left : Bytes} {p : Process} {sink count : Nat}
    {cause : Errno} {m : Machine} (hcopier : s.copier = .passing left i) (hleft : left ≠ [])
    (hprocess : s.machine.processes[t.pid]? = some p)
    (hsink : p.descriptors.get? t.writer = some sink) (hcount : 0 < count)
    (hwrite : s.machine.writeChunk sink (left.take count) = (.failed cause, m)) :
    CopyStep t s { s with machine := m, copier := .complaining cause i }
  | passed {s : Handover} {i : Input} (hcopier : s.copier = .passing [] i) :
    CopyStep t s { s with copier := .prompting i }
  | complain {s : Handover} {cause : Errno} {rest : Input}
    (hcopier : s.copier = .complaining cause rest) :
    CopyStep t s { s with
      machine := s.machine.complain ("heredoc: " ++ cause.systemMessage ++ "\n")
      copier := .releasing (some cause) rest }
  | release {s : Handover} {failure : Option Errno} {rest : Input} {p : Process}
    (hcopier : s.copier = .releasing failure rest)
    (hprocess : s.machine.processes[t.pid]? = some p) :
    CopyStep t s { s with
      machine := s.machine.setDescriptors t.pid (p.descriptors.drop t.writer)
      copier := .leaving failure rest }
  | leave {s : Handover} {failure : Option Errno} {rest : Input}
    (hcopier : s.copier = .leaving failure rest) :
    CopyStep t s { s with
      machine := s.machine.finish t.pid (exitOf failure), copier := .ended failure rest }

/-- One step of either. -/
def Step (t : CaptureTask) (s s' : Handover) : Prop := DrainStep t s s' ∨ CopyStep t s s'

/-- What a handover may come to. -/
def Reaches (t : CaptureTask) : Handover → Prop := Relation.ReflTransGen (Step t) (start t)

/-! ## Waiting -/

/-- The copier has something to write, and there is no room for any of it. -/
def WaitsForRoom (t : CaptureTask) (s : Handover) : Prop :=
  ∃ left i p sink, s.copier = .passing left i ∧ left ≠ [] ∧
    s.machine.processes[t.pid]? = some p ∧ p.descriptors.get? t.writer = some sink ∧
    ∀ count, 0 < count → (s.machine.writeChunk sink (left.take count)).1 = .waiting

/-- The shell wants to read, and there is nothing to be read yet. -/
def WaitsForBytes (t : CaptureTask) (s : Handover) : Prop :=
  ∃ file source, s.drain = .draining file ∧ s.machine.descriptors.get? t.reader = some source ∧
    ∀ count, 0 < count → (s.machine.readChunk source count false).1 = .waiting

/-- The shell waits for the copier, which has not ended. -/
def WaitsForEnd (t : CaptureTask) (s : Handover) : Prop :=
  ∃ held, s.drain = .awaiting held ∧ s.machine.ending? t.pid = none

end Handover

end PipeShell.Machine
