import PipeShell.Errno
import PipeShell.Status
import PipeShell.Text.Utf8

/-!
# Programs

A program is a tree: it ends, or asks the machine for something and goes on with the answer, or
starts a child beside itself. Only the machine knows how a request is met, and meeting it may take
several steps: a request that reads or writes carries what it has got hold of so far.

## Main definitions

* `Access`: how a file is opened
* `Disposition`: what a process does about a signal
* `Request`, `Request.Answer`: what a program may ask for, and what it gets
* `Program`: the tree
* `Script`: a program with a gap at its end, which gives programs the notation of sequences
-/

namespace PipeShell

/-- How a file is opened. Writing creates a missing file; `overwrite` empties an existing one. -/
inductive Access where
  | read
  | overwrite
  | append
  | both
  deriving DecidableEq, Repr

/-- Reading is allowed. -/
def Access.reads (a : Access) : Bool := a = read ∨ a = both

/-- Writing is allowed. -/
def Access.writes (a : Access) : Bool := a ≠ read

namespace Machine

/-- The variables of the environment. -/
abbrev Environment := List (String × String)

/-- What a path or descriptor leads to. -/
inductive Kind where
  | directory
  | regular
  | link
  | device
  | pipe
  deriving DecidableEq, Repr

/-- A permission, as the bit that grants it to a file's owner. Searching a directory and running a
file are granted by the same bit. -/
inductive Permission where
  | read
  | write
  | search
  deriving DecidableEq, Repr

def Permission.bit : Permission → Nat
  | read => 0o400
  | write => 0o200
  | search => 0o100

/-- What can be learnt about a file: its kind, its size, its permission bits, the node it is, and
for an open file the position in it and whether writing appends. -/
structure Inspection where
  kind : Kind
  size : Nat := 0
  mode : Nat := 0
  node : Option Nat := none
  offset : Nat := 0
  appends : Bool := false

/-- The owner has the permission. -/
def Inspection.allows (i : Inspection) (p : Permission) : Bool := i.mode &&& p.bit != 0

/-- What a process does about a signal: what the system has in store for it, nothing, or it takes
note of the signal and goes on. -/
inductive Disposition where
  | standard
  | ignored
  | noted
  deriving DecidableEq, Repr

/-- What a program may ask for.

* `read`: at least one byte and at most `count`, or none at the end
* `line`: bytes up to and with a line feed and no further, or up to the end; `held` are those read
  so far
* `write`: all the bytes to a descriptor
* `seek`: to move the position in an open file
* `openFile`: a descriptor for a path; new files get the bits `mode` without those of the mask
* `duplicate`: `target` to stand for what `source` stands for
* `lift`: a copy of a descriptor under the least unused number from `least` on
* `closeFrom`: to let go of all descriptors from a number on
* `exec`: to become the program at a path; an answer comes only where that fails
* `enter`, `place`: to stand in another directory, and the path of the present one
* `mask`: the bits that new files do not get, and to change them
* `signal`: to send a signal to a process
* `dispose`: what to do about a signal from now on
* `noted`: the signals that were taken note of, which are then forgotten
* the others do what their names say -/
inductive Request where
  | read (fd count : Nat)
  | line (fd : Nat) (held : Bytes)
  | write (fd : Nat) (bytes : Bytes)
  | seek (fd offset : Nat)
  | openFile (path : String) (access : Access) (mode : Nat)
  | duplicate (source target : Nat)
  | lift (source least : Nat)
  | close (fd : Nat)
  | closeFrom (least : Nat)
  | pipe
  | inspectFd (fd : Nat)
  | inspect (path : String) (follow : Bool)
  | names (path : String)
  | remove (path : String)
  | removeDirectory (path : String)
  | exec (path : String) (args : List String) (environment : Environment)
  | wait (child : Nat)
  | identity
  | enter (path : String)
  | place
  | mask (new : Option Nat)
  | signal (process number : Nat)
  | dispose (number : Nat) (disposition : Disposition)
  | noted

/-- What a request is answered with. -/
def Request.Answer : Request → Type
  | read .. => Except Errno Bytes
  | line .. => Except Errno Bytes
  | write .. => Except Errno Unit
  | seek .. => Except Errno Unit
  | openFile .. => Except Errno Nat
  | duplicate .. => Except Errno Unit
  | lift .. => Except Errno Nat
  | close .. => Unit
  | closeFrom .. => Unit
  | pipe => Nat × Nat
  | inspectFd .. => Except Errno Inspection
  | inspect .. => Except Errno Inspection
  | names .. => Except Errno (List String)
  | remove .. => Except Errno Unit
  | removeDirectory .. => Except Errno Unit
  | exec .. => Errno
  | wait .. => ExitStatus
  | identity => Nat
  | enter .. => Except Errno Unit
  | place => Option String
  | mask .. => Nat
  | signal .. => Except Errno Unit
  | dispose .. => Unit
  | noted => List Nat

/-- A program: it leaves with a status, ends itself by a signal, asks for something, or starts a
child and learns its number. -/
inductive Program where
  | leave (status : Nat)
  | raise (signal : Nat)
  | ask (request : Request) (next : request.Answer → Program)
  | fork (child : Program) (next : Nat → Program)

/-- A program file: what it does, given its arguments, its own name first, and the environment. -/
abbrev Main := List String → Environment → Program

/-- A program with a gap at its end: given what comes after, the whole program. -/
def Script (α : Type) := (α → Program) → Program

namespace Script

instance : Monad Script where
  pure a := fun next => next a
  bind s f := fun next => s fun a => f a next

instance {α : Type} [Inhabited α] : Inhabited (Script α) := ⟨fun next => next default⟩

/-- Leaves with a status; what would come after is never reached. -/
def leave {α : Type} (status : Nat) : Script α := fun _ => .leave status

/-- Ends by a signal. -/
def raise {α : Type} (signal : Nat) : Script α := fun _ => .raise signal

/-- Asks for something. -/
def ask (request : Request) : Script request.Answer := fun next => .ask request next

/-- Starts a child and learns its number. -/
def fork (child : Program) : Script Nat := fun next => .fork child next

/-- The program that leaves with the status that the script ends in. -/
def program (s : Script Nat) : Program := s .leave

/-- More rounds than any loop takes that ends. -/
def patience : Nat := 1000000000000

/-- At most `rounds` rounds of a loop. -/
def iterateWithin {α β : Type} (step : α → Script (α ⊕ β)) : (rounds : Nat) → α → Script β
  | 0, _ => leave 1
  | rounds + 1, a => do
    match ← step a with
    | .inl a => iterateWithin step rounds a
    | .inr b => pure b

/-- Goes on from one value to the next until there is a result. -/
def iterate {α β : Type} (step : α → Script (α ⊕ β)) (a : α) : Script β :=
  iterateWithin step patience a

/-! ### Requests by name -/

/-- At least one byte and at most `count`, or none at the end. -/
def read (fd count : Nat) : Script (Except Errno Bytes) := ask (.read fd count)

/-- One line, its line feed included. -/
def line (fd : Nat) : Script (Except Errno Bytes) := ask (.line fd [])

/-- Writes bytes. -/
def write (fd : Nat) (bytes : Bytes) : Script (Except Errno Unit) := ask (.write fd bytes)

/-- Writes bytes; a failure goes unnoticed. -/
def put (fd : Nat) (bytes : Bytes) : Script Unit := do
  let _ ← write fd bytes
  pure ()

/-- Writes a text; a failure goes unnoticed. -/
def say (fd : Nat) (text : String) : Script Unit := put fd (Text.Utf8.encode text)

def seek (fd offset : Nat) : Script (Except Errno Unit) := ask (.seek fd offset)

def openFile (path : String) (access : Access) : Script (Except Errno Nat) :=
  ask (.openFile path access 0o666)

def duplicate (source target : Nat) : Script (Except Errno Unit) := ask (.duplicate source target)

def lift (source least : Nat) : Script (Except Errno Nat) := ask (.lift source least)

def close (fd : Nat) : Script Unit := ask (.close fd)

def closeFrom (least : Nat) : Script Unit := ask (.closeFrom least)

/-- A new pipe: its reading end and its writing end. -/
def pipe : Script (Nat × Nat) := ask .pipe

def inspectFd (fd : Nat) : Script (Except Errno Inspection) := ask (.inspectFd fd)

/-- What a path leads to, links followed or not. -/
def inspect (path : String) (follow : Bool) : Script (Except Errno Inspection) :=
  ask (.inspect path follow)

def names (path : String) : Script (Except Errno (List String)) := ask (.names path)

def remove (path : String) : Script (Except Errno Unit) := ask (.remove path)

def removeDirectory (path : String) : Script (Except Errno Unit) := ask (.removeDirectory path)

/-- Becomes another program; comes back only with the reason why not. -/
def exec (path : String) (args : List String) (environment : Environment) : Script Errno :=
  ask (.exec path args environment)

def wait (child : Nat) : Script ExitStatus := ask (.wait child)

/-- The number of the process itself. -/
def identity : Script Nat := ask .identity

def enter (path : String) : Script (Except Errno Unit) := ask (.enter path)

/-- The path of the directory that the process stands in, if names still lead to it. -/
def place : Script (Option String) := ask .place

def mask (new : Option Nat) : Script Nat := ask (.mask new)

def signal (process number : Nat) : Script (Except Errno Unit) := ask (.signal process number)

def dispose (number : Nat) (disposition : Disposition) : Script Unit :=
  ask (.dispose number disposition)

/-- The signals taken note of since the last time. -/
def noted : Script (List Nat) := ask .noted

/-- Everything that is left to read, in chunks, the latest first. -/
def chunks (fd : Nat) : Script (Except Errno (List Bytes)) :=
  iterate (fun held => do
    match ← read fd 65536 with
    | .ok [] => pure (.inr (.ok held))
    | .ok bytes => pure (.inl (bytes :: held))
    | .error cause => pure (.inr (.error cause))) []

/-- Everything that is left to read. -/
def slurp (fd : Nat) : Script (Except Errno Bytes) := do
  let result ← chunks fd
  pure (result.map fun held => held.reverse.flatten)

end Script

end Machine

end PipeShell
