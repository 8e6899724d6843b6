import PipeShell.Programs.Interpreter.Redirection
import PipeShell.Machine.Loading

/-!
# What the name of a command stands for

A name with a slash in it is a path. Any other name stands for a function, for one of the
interpreter's own commands, or for the first program of that name in the directories that are
searched.

## Main definitions

* `ownCommands`: the interpreter's own commands
* `locate`: looks for a program
* `Found`, `find`: what a name stands for
* `describe`: tells what a name stands for
* `become`: the interpreter becomes a program
-/

namespace PipeShell.Programs.Interpreter

open PipeShell.Machine
open PipeShell.Text (Octets)
open Act

/-- What sets one of the interpreter's own commands apart: an error in a special one ends the
interpreter, and the arguments of some that look like assignments are treated as such. -/
structure OwnCommand where
  special : Bool := false
  assigns : Bool := false
  deriving DecidableEq

/-- The interpreter's own commands. -/
def ownCommands : List (String × OwnCommand) :=
  [".", ":", "break", "continue", "eval", "exec", "exit", "return", "set", "shift", "times", "trap",
    "unset"].map (·, ⟨true, false⟩) ++
  ["export", "readonly", "local"].map (·, ⟨true, true⟩) ++
  ["alias", "bg", "cd", "chdir", "command", "echo", "false", "fg", "getopts", "hash", "jobs",
    "kill",
    "printf", "pwd", "read", "test", "[", "true", "type", "ulimit", "umask", "unalias",
    "wait"].map (·, ⟨false, false⟩)

/-- The command of the interpreter that a name stands for. -/
def ownCommand? (name : Octets) : Option OwnCommand := ownCommands.lookup (String.ofList name)

/-- The directories that are searched where none have been named. -/
def usualDirectories : Octets :=
  "/usr/local/sbin:/usr/local/bin:/usr/sbin:/usr/bin:/sbin:/bin".toList

/-- The texts between colons. -/
def directoriesOf (text : Octets) : List Octets :=
  (Text.splitAt ':' (String.ofList text)).map String.toList

/-- The directories that are searched. -/
def searched (m : Memory) : List Octets := directoriesOf ((m.valueOf? "PATH").getD [])

/-- The path of a name in a directory. -/
def within (directory name : Octets) : Octets :=
  if directory.isEmpty then name else directory ++ '/' :: name

/-- Looks for a program in directories, and gives its path or why there is none. -/
def locate (name : Octets) : (cause : Errno) → List Octets → Act (Except Errno Octets)
  | cause, [] => return .error cause
  | cause, directory :: rest => do
    let path := within directory name
    match ← ask (Script.inspect (Octets.toString path) true) with
    | .error new =>
      locate name (if new = .noEntry ∨ new = .notDirectory then cause else new) rest
    | .ok found =>
      if found.kind == .regular && found.allows .search then return .ok path
      else locate name .noAccess rest

/-- What the name of a command stands for. -/
inductive Found where
  | function (body : Command)
  | own (c : OwnCommand)
  | program (path : Octets)
  | nothing (cause : Errno)

/-- What the name of a command stands for, where functions may be passed over and directories other
than usual be searched. -/
def find (passesFunctions : Bool) (directories : Option (List Octets)) (name : Octets) :
    Act Found := do
  let m ← get
  if name.contains '/' then return .program name
  else match (if passesFunctions then none else m.functions.lookup name) with
    | some body => return .function body
    | none =>
      match ownCommand? name with
      | some c => return .own c
      | none =>
        match (if directories.isNone then m.located.lookup name else none) with
        | some path => return .program path
        | none =>
          match ← locate name .noEntry (directories.getD (searched m)) with
          | .error cause => return .nothing cause
          | .ok path => do
            if directories.isNone then
              modify fun m => { m with located := m.located ++ [(name, path)] }
            else pure ()
            return .program path

/-- Why a program cannot be run, in the words of the interpreter. -/
def runProblem (name : Octets) (cause : Errno) : Octets :=
  name ++ ": ".toList ++ (if cause = .noEntry ∨ cause = .notDirectory then "not found"
    else cause.systemText).toList

/-- Tells what a name stands for, in words or as short as possible. -/
def describe (verbose : Bool) (directories : Option (List Octets)) (name : Octets) : Act Nat := do
  let m ← get
  let tell := fun (words : String) (short : Octets) => do
    say ((if verbose then name ++ words.toList else short) ++ ['\n'])
    return 0
  let missing : Act Nat := do
    if verbose then say (name ++ ": not found\n".toList) else pure ()
    return 127
  if keywords.contains (String.ofList name) then tell " is a shell keyword" name
  else match m.aliases.lookup name with
    | some value =>
      tell (" is an alias for " ++ String.ofList value)
        ("alias ".toList ++ name ++ '=' :: inQuotes value)
    | none =>
      let tracked := directories.isNone && (m.located.lookup name).isSome
      match ← (if directories.isNone && !tracked then find false (some (searched m)) name
        else find false directories name) with
      | .function _ => tell " is a shell function" name
      | .own c =>
        tell (if c.special then " is a special shell builtin" else " is a shell builtin") name
      | .nothing _ => missing
      | .program path =>
        if name.contains '/' && !(← exists_ name) then missing
        else
          tell (" is " ++ (if tracked then "a tracked alias for " else "") ++ String.ofList path)
            path
where
  /-- There is something behind a path. -/
  exists_ (path : Octets) : Act Bool := do
    match ← ask (Script.inspect (Octets.toString path) true) with
    | .ok _ => return true
    | .error _ => return false

/-! ## Becoming a program -/

/-- Tries to become the program at a path; what comes back is why not. -/
def tryToBecome (path : Octets) (args : List Octets) (env : Environment) : Act Errno := do
  let texts := args.map Octets.toString
  let cause ← ask (Script.exec (Octets.toString path) texts env)
  if cause = .noExec then
    ask (Script.exec shellPath (shellPath :: Octets.toString path :: texts.tail) env)
  else return cause

/-- Tries to become the first of some programs that can be; `last` is why the ones before could
not. -/
def tryEach (args : List Octets) (env : Environment) : (last : Errno) → List Octets → Act Errno
  | last, [] => return last
  | last, path :: rest => do
    let cause ← tryToBecome path args env
    tryEach args env (if cause = .noEntry ∨ cause = .notDirectory then last else cause) rest

/-- The interpreter becomes a program, or says why it cannot and ends. -/
def become {α : Type} (directories : List Octets) (args : List Octets) : Act α := do
  let name := args.headD []
  let env := (← get).environment
  ask (Script.closeFrom 10)
  let cause ← if name.contains '/' then tryToBecome name args env
    else tryEach args env .noEntry (directories.map (within · name))
  warn (runProblem name cause)
  leaveWith (if cause = .tooManyLinks ∨ cause = .nameTooLong ∨ cause = .noEntry ∨
    cause = .notDirectory then 127 else 126)

end PipeShell.Programs.Interpreter
