import PipeShell.Error
import PipeShell.Machine.Basic

/-!
# Opening redirections

The bindings of a plan are carried out in order, either onto a descriptor table, where a later
binding of the same descriptor wins, or for a command that runs inside the shell, where only the
file that receives its output matters. Both open the same files in the same way. The first file that
cannot be opened ends the work; what was done before stays done.

A captured text is an open file.

## Main definitions

* `bind`, `apply`: bindings carried out on a descriptor table
* `openKeeping`, `openForBuiltin`: bindings carried out for a command inside the shell
-/

namespace PipeShell

/-- How the file of a redirection is opened. -/
def RedirectKind.access : RedirectKind → Access
  | input | heredoc => .read
  | output => .overwrite
  | append => .append

namespace Machine

/-- The permission bits of a file that a redirection makes, before the mask takes some away. -/
def redirectMode : Nat := 0o644

/-- Opens the file that a binding names, for one who has the given descriptors. -/
def openTarget (m : Machine) (d : Descriptors) (cwd : NodeId) (path : String) (kind : RedirectKind)
    (redirect : Redirect) : Except RedirectionError Nat × Machine :=
  match m.openPath d cwd path kind.access (FileTree.masked m.umask redirectMode) with
  | (.error cause, m) => (.error (.openFailed redirect.target cause), m)
  | (.ok file, m) => (.ok file, m)

/-- Makes a descriptor stand for a newly opened file: the file is opened under the least unused
number and moved from there. -/
def adopt (d : Descriptors) (fd file : Nat) : Descriptors :=
  let (opened, d) := d.insertLeast file
  if opened = fd then d else (d.place fd file).drop opened

/-- Carries out one binding on a descriptor table. -/
def bind (m : Machine) (cwd : NodeId) (d : Descriptors) (b : Binding Nat) :
    Except RedirectionError Unit × Descriptors × Machine :=
  match b.source with
  | .file path kind =>
    match m.openTarget d cwd path kind b.redirect with
    | (.error e, m) => (.error e, d, m)
    | (.ok file, m) => (.ok (), adopt d b.fd file, m)
  | .captured file => (.ok (), d.place b.fd file, m)

/-- Carries out bindings in order on a descriptor table. -/
def apply (cwd : NodeId) :
    List (Binding Nat) → Descriptors → Machine →
      Except RedirectionError Unit × Descriptors × Machine
  | [], d, m => (.ok (), d, m)
  | b :: rest, d, m =>
    match m.bind cwd d b with
    | (.error e, d, m) => (.error e, d, m)
    | (.ok (), d, m) => apply cwd rest d m

/-- The shell's table while it keeps an open file under a number. -/
def keeping (d : Descriptors) : Option (Nat × Nat) → Descriptors
  | none => d
  | some (fd, file) => d.place fd file

/-- What the shell keeps when it has opened the file of a binding: that file, under the number that
it was opened under, if it is bound to standard output. Nothing is done with other files. -/
def keptWith {κ : Type} (d : Descriptors) (b : Binding κ) (file : Nat) (kept : Option (Nat × Nat)) :
    Option (Nat × Nat) :=
  if b.fd = 1 then some ((keeping d kept).vacancy, file) else kept

/-- Opens the files of bindings in order for a command inside the shell, and keeps the one last
bound to standard output. Captured texts have no reader here. -/
def openKeeping {κ : Type} (cwd : NodeId) :
    List (Binding κ) → (kept : Option (Nat × Nat)) → Machine →
      Except RedirectionError (Option (Nat × Nat)) × Machine
  | [], kept, m => (.ok kept, m)
  | b :: rest, kept, m =>
    match b.source with
    | .captured _ => openKeeping cwd rest kept m
    | .file path kind =>
      match m.openTarget (keeping m.descriptors kept) cwd path kind b.redirect with
      | (.error e, after) => (.error e, after)
      | (.ok file, after) => openKeeping cwd rest (keptWith m.descriptors b file kept) after

/-- Carries out bindings in order for a command inside the shell: the file last bound to standard
output, if one is. -/
def openForBuiltin {κ : Type} (cwd : NodeId) (bindings : List (Binding κ))
    (kept : Option (Nat × Nat)) (m : Machine) : Except RedirectionError (Option Nat) × Machine :=
  let (kept, m) := openKeeping cwd bindings kept m
  (kept.map (·.map Prod.snd), m)

end Machine

end PipeShell
