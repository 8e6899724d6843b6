import PipeShell.Programs.Calls

/-!
# rm

Removes files, on request directories too, with all that is in them. It can be made to ask before
anything is removed; an answer that begins with `y` agrees.

## Main definitions

* `Rm.Style`: what is asked for
* `Rm.removeTree`: removes a file or a directory
* `rm`: the program
-/

namespace PipeShell.Programs

open PipeShell.Machine
open PipeShell.Text (Octets)

namespace Rm

/-- When questions are asked. -/
inductive Asking where
  | ordinary
  | never
  | once
  | always
  deriving DecidableEq

/-- What is asked for. -/
structure Style where
  asking : Asking := .ordinary
  tolerant : Bool := false
  recursive : Bool := false
  emptyDirectories : Bool := false
  verbose : Bool := false

def table : List OptionSpec :=
  [Options.both 'd' "dir", Options.both 'f' "force", Options.short 'i', Options.short 'I',
   Options.long "interactive" .perhaps, Options.long "one-file-system",
   Options.long "no-preserve-root", Options.long "preserve-root" .perhaps,
   ⟨"r", some 'r', some "recursive", .nothing⟩, ⟨"r", some 'R', none, .nothing⟩,
   Options.both 'v' "verbose"]

/-- Takes note of one option. -/
def Style.take (c : Call) (s : Style) (g : Options.Given) : Script Style := do
  match g.key with
  | "d" => return { s with emptyDirectories := true }
  | "f" => return { s with asking := .never, tolerant := true }
  | "i" => return { s with asking := .always, tolerant := false }
  | "I" => return { s with asking := .once, tolerant := false }
  | "interactive" =>
    let asking ← match g.value with
      | none => pure Asking.always
      | some text =>
        c.choice 1 "--interactive" text
          [("never", Asking.never), ("no", .never), ("none", .never), ("once", .once),
           ("always", .always), ("yes", .always)]
    return { s with asking }
  | "r" => return { s with recursive := true }
  | "v" => return { s with verbose := true }
  | _ => return s

/-- Asks a question on standard error and reads the answer. -/
def agrees (c : Call) (question : Octets) : Script Bool := do
  Call.sayOctets 2 (c.own ++ ": ".toList ++ question ++ "? ".toList)
  match ← Script.line 0 with
  | .ok (b :: _) => return b == 121 || b == 89
  | _ => return false

/-- What is said of a kind of file. -/
def kindName (found : Inspection) : String :=
  match found.kind with
  | .regular => if found.size = 0 then "regular empty file" else "regular file"
  | .directory => "directory"
  | .link => "symbolic link"
  | .device => "character special file"
  | .pipe => "fifo"

/-- Nobody may write to the file. -/
def isProtected (found : Inspection) : Bool :=
  found.kind != .link && !found.allows .write

/-- The question before something is removed. -/
def question (verb : String) (found : Inspection) (path : Octets) : Octets :=
  (verb ++ " " ++ (if isProtected found then "write-protected " else "") ++ kindName found ++
    " ").toList ++ Quoting.shell path

/-- What removing something came to. -/
inductive Outcome where
  | done
  | declined
  | failed
  deriving DecidableEq

/-- The last part of a path. -/
def lastPart (path : Octets) : Octets :=
  ((path.reverse.dropWhile (· == '/')).takeWhile (· != '/')).reverse

/-- A path with one more name. -/
def join (path name : Octets) : Octets :=
  if path.getLast? == some '/' then path ++ name else path ++ '/' :: name

/-- What a program says when something has been removed. -/
def announce (c : Call) (s : Style) (what : String) (path : Octets) (sink : Call.Sink) :
    Script Call.Sink :=
  if s.verbose then
    c.feed 1 "write error" sink (Octets.toBytes (what.toList ++ Quoting.shell path ++ ['\n']))
  else pure sink

/-- Complains that something cannot be removed. -/
def complain (c : Call) (path : Octets) (cause : Errno) : Script Unit :=
  c.complainOf ("cannot remove ".toList ++ Quoting.shell path) cause

/-- Asks unless there is no need to. -/
def mayGoOn (c : Call) (s : Style) (question : Octets) : Script Bool :=
  if s.asking = .always then agrees c question else pure true

/-- Removes anything but a directory. -/
def removeFile (c : Call) (s : Style) (found : Option Inspection) (path : Octets)
    (sink : Call.Sink) : Script (Outcome × Call.Sink) := do
  let agreed ← match found with
    | some found => mayGoOn c s (question "remove" found path)
    | none => pure true
  if !agreed then pure (.declined, sink)
  else match ← Script.remove (Octets.toString path) with
    | .ok () => do
      let sink ← announce c s "removed " path sink
      pure (.done, sink)
    | .error cause =>
      if s.tolerant && (cause = .noEntry || cause = .notDirectory) then pure (.done, sink)
      else do
        complain c path cause
        pure (.failed, sink)

/-- Removes a directory that should be empty; `unreadable` is why it could not be read. -/
def removeEmptied (c : Call) (s : Style) (unreadable : Option Errno) (path : Octets)
    (sink : Call.Sink) : Script (Outcome × Call.Sink) := do
  match ← Script.removeDirectory (Octets.toString path) with
  | .ok () => do
    let sink ← announce c s "removed directory " path sink
    pure (.done, sink)
  | .error cause => do
    complain c path (if cause = .notEmpty then unreadable.getD cause else cause)
    pure (.failed, sink)

/-- The worse of two outcomes. -/
def Outcome.worse (a b : Outcome) : Outcome :=
  if a = .failed ∨ b = .failed then .failed
  else if a = .declined ∨ b = .declined then .declined else .done

/-- Removes whatever a path leads to, directories up to `depth` levels down. -/
def removeTree (c : Call) (s : Style) : (depth : Nat) → (top : Bool) → (path : Octets) → Call.Sink →
    Script (Outcome × Call.Sink)
  | 0, _, _, sink => pure (.failed, sink)
  | depth + 1, top, path, sink => do
    match ← Script.inspect (Octets.toString path) false with
    | .error cause =>
      if s.tolerant && (cause = .noEntry || cause = .notDirectory) then pure (.done, sink)
      else do
        complain c path cause
        pure (.failed, sink)
    | .ok found =>
      if found.kind != .directory then removeFile c s (some found) path sink
      else
        match ← Script.names (Octets.toString path) with
        | .error cause =>
          if !s.recursive then do
            complain c path (if s.emptyDirectories then .notEmpty else .isDirectory)
            pure (.failed, sink)
          else if ← mayGoOn c s (question "remove" found path) then
            removeEmptied c s (some cause) path sink
          else pure (.declined, sink)
        | .ok names =>
          if !s.recursive && !(s.emptyDirectories && names.isEmpty) then do
            complain c path (if s.emptyDirectories then .notEmpty else .isDirectory)
            pure (.failed, sink)
          else if top && (lastPart path == ['.'] || lastPart path == ['.', '.']) then do
            c.complain ("refusing to remove '.' or '..' directory: skipping ".toList ++
              Quoting.shell path)
            pure (.failed, sink)
          else if top && lastPart path == [] then do
            c.complain ("it is dangerous to operate recursively on ".toList ++ Quoting.shell path)
            c.complain "use --no-preserve-root to override this failsafe".toList
            pure (.failed, sink)
          else if names.isEmpty then
            if ← mayGoOn c s (question "remove" found path) then
              removeEmptied c s none path sink
            else pure (.declined, sink)
          else if !(← mayGoOn c s (question "descend into" found path)) then
            pure (.declined, sink)
          else do
            let (inner, sink) ← names.foldlM (fun (worst, sink) name => do
              let (outcome, sink) ←
                removeTree c s depth false (join path (Octets.ofString name)) sink
              return (Outcome.worse worst outcome, sink)) (Outcome.done, sink)
            if inner ≠ .done then pure (inner, sink)
            else if ← mayGoOn c s (question "remove" found path) then
              removeEmptied c s none path sink
            else pure (.declined, sink)

/-- The most levels of directories. -/
def maxDepth : Nat := 4096

/-- For each argument that looks like an option and is the name of a file, how to name the file. -/
def suggest (c : Call) : Script Unit :=
  c.args.forM fun arg =>
    match arg with
    | '-' :: _ :: _ => do
      match ← Script.inspect (Octets.toString arg) false with
      | .ok _ =>
        Call.sayOctets 2 ("Try '".toList ++ c.own ++ " ./".toList ++ Quoting.shellIfNeeded arg ++
          "' to remove the file ".toList ++ Quoting.shell arg ++ ".\n".toList)
      | .error _ => pure ()
    | _ => pure ()

end Rm

open Rm in
/-- Removes files. -/
def rm : Main := Call.program fun c => do
  let p := c.parse table
  let style ← p.given.foldlM (Style.take c) {}
  match p.fault with
  | some fault => do
    c.complain fault.message
    suggest c
    c.hint
    pure 1
  | none =>
    let count := p.operands.length
    if count = 0 then
      if style.tolerant then pure 0 else c.refuse 1 "missing operand".toList
    else do
      let asked := style.asking = .once && (style.recursive || 3 < count)
      let goOn ← if asked then
          agrees c (("remove " ++ toString count ++
            (if count = 1 then " argument" else " arguments") ++
            if style.recursive then " recursively" else "").toList)
        else pure true
      if !goOn then pure 0
      else do
        let (worst, sink) ← p.operands.foldlM (fun (worst, sink) path => do
          let (outcome, sink) ← removeTree c style maxDepth true path sink
          return (Outcome.worse worst outcome, sink)) (Outcome.done, ({} : Call.Sink))
        c.drain 1 sink
        pure (if worst = .failed then 1 else 0)

end PipeShell.Programs
