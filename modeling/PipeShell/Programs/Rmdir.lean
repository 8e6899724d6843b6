import PipeShell.Programs.Calls

/-!
# rmdir

Removes empty directories, on request together with the directories above them on their paths.
-/

namespace PipeShell.Programs

open PipeShell.Machine
open PipeShell.Text (Octets)

namespace Rmdir

def table : List OptionSpec :=
  [Options.both 'p' "parents", ⟨"p", none, some "path", .nothing⟩, Options.both 'v' "verbose",
   Options.long "ignore-fail-on-non-empty"]

/-- What is asked for. -/
structure Style where
  parents : Bool
  verbose : Bool
  tolerant : Bool

/-- A failure that may only mean that the directory is not empty. -/
def meansOccupied (cause : Errno) : Bool :=
  cause = .notEmpty || cause = .alreadyThere || cause = .noAccess || cause = .notPermitted ||
    cause = .readOnly || cause = .busy

/-- There is something in the directory. -/
def isOccupied (path : Octets) : Script Bool := do
  match ← Script.names (Octets.toString path) with
  | .ok names => return !names.isEmpty
  | .error _ => return false

/-- The failure may be ignored. -/
def isIgnored (s : Style) (cause : Errno) (path : Octets) : Script Bool := do
  if !s.tolerant then pure false
  else if cause = .notEmpty || cause = .alreadyThere then pure true
  else if meansOccupied cause then isOccupied path
  else pure false

/-- Says that a directory is about to be removed. -/
def announce (c : Call) (s : Style) (sink : Call.Sink) (path : Octets) : Script Call.Sink :=
  if s.verbose then
    c.feed 1 "write error" sink (Octets.toBytes
      (c.own ++ ": removing directory, ".toList ++ Quoting.shell path ++ ['\n']))
  else pure sink

/-- Without slashes at the end. -/
def withoutSlashes (path : Octets) : Octets :=
  match path.reverse.dropWhile (· == '/') with
  | [] => path.take 1
  | rest => rest.reverse

/-- The path of the directory above, if the path names one. -/
def above? (path : Octets) : Option Octets :=
  let rest := path.reverse.dropWhile (· != '/')
  match rest with
  | [] => none
  | slashes =>
    match slashes.dropWhile (· == '/') with
    | [] => none
    | dir => some dir.reverse

/-- Removes the directories above a path. -/
def removeAbove (c : Call) (s : Style) : (fuel : Nat) → Call.Sink → Octets →
    Script (Call.Sink × Nat)
  | 0, sink, _ => pure (sink, 0)
  | fuel + 1, sink, path =>
    match above? path with
    | none => pure (sink, 0)
    | some dir => do
      let sink ← announce c s sink dir
      match ← Script.removeDirectory (Octets.toString dir) with
      | .ok () => removeAbove c s fuel sink dir
      | .error cause =>
        if ← isIgnored s cause dir then pure (sink, 0)
        else do
          c.complainOf ("failed to remove directory ".toList ++ Quoting.shell dir) cause
          pure (sink, 1)

/-- What is said of a link with a slash behind it, which is not removed although it leads to a
directory. -/
def isSlashedLink (cause : Errno) (path : Octets) : Script Bool := do
  if cause = .notDirectory && path.getLast? == some '/' then
    match ← Script.inspect (Octets.toString path) true with
    | .error _ => pure false
    | .ok found =>
      if found.kind != .directory then pure false
      else match ← Script.inspect (Octets.toString (withoutSlashes path)) false with
        | .ok found => return found.kind == .link
        | .error _ => pure false
  else pure false

/-- Removes one directory. -/
def removeOne (c : Call) (s : Style) (sink : Call.Sink) (path : Octets) :
    Script (Call.Sink × Nat) := do
  let sink ← announce c s sink path
  match ← Script.removeDirectory (Octets.toString path) with
  | .ok () =>
    if s.parents then
      let path := withoutSlashes path
      removeAbove c s path.length sink path
    else pure (sink, 0)
  | .error cause =>
    if ← isIgnored s cause path then pure (sink, 0)
    else do
      if ← isSlashedLink cause path then
        c.complain ("failed to remove ".toList ++ Quoting.shell path ++
          ": Symbolic link not followed".toList)
      else c.complainOf ("failed to remove ".toList ++ Quoting.shell path) cause
      pure (sink, 1)

end Rmdir

open Rmdir in
/-- Removes empty directories. -/
def rmdir : Main := Call.program fun c => do
  let p := c.parse table
  c.settle 1 p
  let style : Style := ⟨p.has "p", p.has "v", p.has "ignore-fail-on-non-empty"⟩
  if p.operands.isEmpty then c.refuse 1 "missing operand".toList
  else do
    let (sink, status) ← p.operands.foldlM (fun (sink, worst) path => do
      let (sink, status) ← removeOne c style sink path
      return (sink, max worst status)) (({} : Call.Sink), 0)
    c.drain 1 sink
    pure status

end PipeShell.Programs
