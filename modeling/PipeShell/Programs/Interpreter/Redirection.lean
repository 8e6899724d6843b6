import PipeShell.Programs.Interpreter.Expansion

/-!
# Redirections

The words of a redirection are written out before anything is opened. What a descriptor stood for
may be kept under another descriptor, and brought back when the command is over; both happen also
where a later redirection fails.

## Main definitions

* `Ready`, `Writing.ready`: a redirection whose words have been written out
* `Writing.redirect`: carries out redirections for a process that will not need what was there
  before
* `Writing.redirectKeeping`, `bringBack`: carries out redirections for a while
-/

namespace PipeShell.Programs.Interpreter

open PipeShell.Machine
open PipeShell.Text (Octets)
open Act

/-- A redirection whose words have been written out. A descriptor stands from then on for what
another one stands for, or for nothing. -/
inductive Ready where
  | file (fd : Nat) (opening : Opening) (path : Octets)
  | copy (fd : Nat) (source : Option Nat)
  | here (fd number : Nat)

/-- The descriptor that is redirected. -/
def Ready.fd : Ready → Nat
  | file fd .. | copy fd _ | here fd _ => fd

/-- Writes out the words of a redirection. -/
def Writing.ready (w : Writing) : Redirect → Act Ready
  | .file fd opening target => return .file fd opening (← w.single .start target)
  | .copy fd source => return .copy fd (some source)
  | .closing fd => return .copy fd none
  | .here fd number => return .here fd number
  | .copyNamed fd source => do
    match ← w.single .start source with
    | ['-'] => return .copy fd none
    | cs => do
      match cs with
      | [d] =>
        if d.isDigit then return .copy fd (some (d.toNat - 48)) else refused
      | _ => refused
where
  refused : Act Ready := do
    modify fun m => { m with line := m.reached }
    fault "Syntax error: Bad fd number".toList

/-! ## Opening -/

/-- Why a file cannot be opened, in the words of the interpreter. -/
def openProblem (creates : Bool) (path : Octets) (cause : Errno) : Octets :=
  let reason := if cause = .noEntry ∨ cause = .notDirectory then
      (if creates then "Directory nonexistent" else "No such file")
    else cause.systemText
  (if creates then "cannot create " else "cannot open ").toList ++ path ++ ": ".toList ++
    reason.toList

/-- The descriptor of a file that has been opened, if it could be. -/
def openAs (creates : Bool) (path : Octets) (access : Access) : Act Nat := do
  match ← ask (Script.openFile (Octets.toString path) access) with
  | .ok fd => return fd
  | .error cause => fault (openProblem creates path cause)

/-- Opens a file to write it anew, unless it is there already. -/
def openNew (path : Octets) : Act Nat := do
  match ← ask (Script.inspect (Octets.toString path) true) with
  | .error _ =>
    if (← isThere path) then fault (openProblem true path .alreadyThere)
    else openAs true path .overwrite
  | .ok found =>
    if found.kind == .regular then fault (openProblem true path .alreadyThere)
    else openAs false path .overwrite

/-- The most bytes that are written to a pipe without anybody reading it. -/
def pipeRoom : Nat := 4096

/-- The reading end of a pipe that a text has been written to. -/
def openText (bytes : Bytes) : Act Nat := do
  let (reader, writer) ← ask Script.pipe
  if bytes.length ≤ pipeRoom then ask (Script.put writer bytes)
  else
    let _ ← ask (Script.fork (Script.program do
      Script.close reader
      Script.dispose 13 .standard
      Script.put writer bytes
      pure 0))
    pure ()
  ask (Script.close writer)
  return reader

/-- The descriptor that another one is to become a copy of, if it is not to be closed. -/
def Writing.source (w : Writing) : Ready → Act (Option Nat)
  | .file _ opening path =>
    match opening with
    | .read => some <$> openAs false path .read
    | .both => some <$> openAs true path .both
    | .append => some <$> openAs true path .append
    | .clobber => some <$> openAs true path .overwrite
    | .write => do
      if (← get).isOn 'C' then some <$> openNew path else some <$> openAs true path .overwrite
  | .copy _ source => return source
  | .here _ number => do
    let text ← w.single .none (((← get).texts.lookup number).getD [])
    some <$> openText (Octets.toBytes text)

/-! ## Redirecting -/

/-- Keeps what a descriptor stands for, unless that has been done or it stands for nothing; tells
whether the descriptor has been let go of. -/
def keep (fd : Nat) (source : Option Nat) : Act Bool := do
  match (← get).kept with
  | [] => return false
  | frame :: rest =>
    if frame.any fun k => k.1 == fd then return false
    else
      let remember := fun (k : Kept) => modify fun m =>
        { m with kept := ((fd, k) :: frame) :: rest }
      if source == some fd then do
        remember .nothing
        return false
      else do
        match ← ask (Script.lift fd 10) with
        | .ok copy => do
          remember (.copy copy)
          ask (Script.close fd)
          return true
        | .error _ => do
          remember .nothing
          return true

/-- Carries out a redirection, keeping what was there before if that is wanted. -/
def Writing.redirectOne (w : Writing) (keeps : Bool) (r : Ready) : Act Unit := do
  let fd := r.fd
  match r with
  | .copy _ (some source) =>
    if source = fd then pure ()
    else do
      let _ ← if keeps then keep fd (some source) else pure false
      match ← ask (Script.duplicate source fd) with
      | .ok () => pure ()
      | .error cause =>
        fault ((Nat.repr source).toList ++ ": ".toList ++ cause.systemText.toList)
  | .copy _ none => do
    let gone ← if keeps then keep fd none else pure false
    if gone then pure () else ask (Script.close fd)
  | r => do
    match ← w.source r with
    | none => pure ()
    | some opened => do
      let _ ← if keeps then keep fd (some opened) else pure false
      if opened = fd then pure ()
      else do
        let _ ← ask (Script.duplicate opened fd)
        ask (Script.close opened)

/-- Carries out redirections. -/
def Writing.redirect (w : Writing) (rs : List Ready) : Act Unit := rs.forM (w.redirectOne false)

/-- Carries out redirections, keeping what was there before, and tells with which status that ends:
2 if one of them fails. -/
def Writing.redirectKeeping (w : Writing) (rs : List Ready) : Act Nat := do
  modify fun m => { m with kept := [] :: m.kept }
  match ← attempt (rs.forM (w.redirectOne true)) with
  | .ok () => return 0
  | .error .error => return 2
  | .error j => throw j

/-- Brings back what descriptors stood for, or gives it up if they are to stay as they are. -/
def bringBack (stays : Bool) : Act Unit := do
  match (← get).kept with
  | [] => pure ()
  | frame :: rest => do
    modify fun m => { m with kept := rest }
    frame.forM fun (fd, kept) =>
      match kept with
      | .nothing => if stays then pure () else ask (Script.close fd)
      | .copy copy => do
        if stays then pure ()
        else
          let _ ← ask (Script.duplicate copy fd)
          pure ()
        ask (Script.close copy)

end PipeShell.Programs.Interpreter
