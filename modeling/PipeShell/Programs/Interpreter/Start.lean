import PipeShell.Programs.Interpreter.Run

/-!
# Starting an interpreter

Commands come from an argument, from a file or from standard input. A file is read in blocks, and no
further than needed for the next command: what the commands themselves read from standard input is
what has not been read as commands before.

## Main definitions

* `initialMemory`: what an interpreter knows when it starts
* `carryOutFile`: carries out the commands in an open file
* `sh`: the program
-/

namespace PipeShell.Programs

namespace Interpreter

open PipeShell.Machine
open PipeShell.Text (Octets)
open Act

/-- The variables that every interpreter starts out with, those for programs only if they were
given. -/
def initialVariables (environment : Environment) : List Variable :=
  let given := environment.filterMap fun (name, value) =>
    let name := Octets.ofString name
    if isName name then
      some { name, value := some (Octets.ofString value), exported := true : Variable }
    else none
  let usual : List (String × Octets × Bool) :=
    [("IFS", [' ', '\t', '\n'], true), ("OPTIND", ['1'], true), ("PATH", usualDirectories, false),
     ("PPID", ['1'], true), ("PS1", "$ ".toList, false), ("PS2", "> ".toList, false),
     ("PS4", "+ ".toList, false)]
  usual.foldl (fun vs (name, value, always) =>
    match vs.find? fun v => v.name == name.toList with
    | some v =>
      if always then vs.map fun old =>
        if old.name == v.name then { old with value := some value } else old
      else vs
    | none => vs ++ [{ name := name.toList, value := some value }])
    (given.foldl (fun vs v => vs.filter (fun old => old.name != v.name) ++ [v]) [])

/-- What an interpreter knows when it starts. -/
def initialMemory (own : Octets) (environment : Environment) : Memory :=
  { own, line := 0, reached := 0, allVariables := initialVariables environment }

/-- Finds out where the interpreter stands: a path that was handed down is as good as any if it
leads there. -/
def findPlace : Act Unit := do
  let present ← ask Script.place
  let here ← ask (Script.inspect "." true)
  let handed ← match (← get).valueOf? "PWD" with
    | some path =>
      if path.head? == some '/' then do
        match here, ← ask (Script.inspect (Octets.toString path) true) with
        | .ok a, .ok b => pure (if a.node.isSome && a.node == b.node then some path else none)
        | _, _ => pure none
      else pure none
    | none => pure none
  let place := match handed with
    | some path => some path
    | none => present.map Octets.ofString
  modify fun m => { m with place }
  setVariable "PWD".toList (place.getD []) true

/-- The most bytes that are read in one step. -/
def blockSize : Nat := 8192

/-- Shows the text that has been read, if that is wanted. -/
def showText (before after : Source) : Act Unit := do
  if (← get).isOn 'v' then
    tell (before.rest.take (before.rest.length - after.rest.length))
  else pure ()

/-- Carries out the commands in an open file. -/
def carryOutFile (fd : Nat) : Act Unit :=
  iterate (fun (source : Source) => do
    let m ← get
    match readCommand { source with texts := [], nextText := m.nextText, aliases := m.aliases } with
    | .error .more => do
      match ← ask (Script.read fd blockSize) with
      | .error _ | .ok [] => return .inl { source with ended := true }
      | .ok bytes =>
        let more := (Octets.ofBytes bytes).filter (· != '\x00')
        return .inl { source with rest := source.rest ++ more }
    | .error (.wrong line text) => Run.complainOf line text
    | .error (.lacking line what) =>
      Run.complainOf line ("Syntax error: " ++ what.message).toList
    | .ok (listed, after) => do
      showText source after
      Run.takeOver after
      match listed with
      | .ended => return .inr ()
      | .nothing => return .inl after
      | .command c => do
        let _ ← runner {} (.command c)
        if (← get).skip.isSome then do
          modify fun m => { m with skip := none }
          return .inr ()
        else return .inl after) { rest := [], ended := false }

/-- Carries out what the arguments say. -/
def start (args : List Octets) : Act Unit := do
  let process ← ask Script.identity
  modify fun m => { m with process }
  findPlace
  let settled ← Own.setOptions true false args
  let useArguments := fun (operands : List Octets) =>
    modify fun m => { m with arguments := operands }
  let name := fun (operands : List Octets) => do
    match operands with
    | own :: rest => do
      modify fun m => { m with own }
      useArguments rest
    | [] => pure ()
  match settled.isText, settled.operands with
  | true, [] => fault "-c requires an argument".toList
  | true, text :: rest => do
    name rest
    let reads := (← get).isOn 's'
    let _ ← runner { last := !reads } (.text text)
    if reads then carryOutFile 0 else pure ()
  | false, [] => do
    Own.setOption 's' true
    carryOutFile 0
  | false, operands => do
    if (← get).isOn 's' then do
      useArguments operands
      carryOutFile 0
    else do
      let fd ← openAs false (operands.headD []) .read
      name operands
      match ← ask (Script.lift fd 10) with
      | .ok copy => do
        ask (Script.close fd)
        carryOutFile copy
      | .error _ => carryOutFile fd

end Interpreter

open Interpreter in
/-- Carries out commands. -/
def sh : Machine.Main := fun args environment =>
  let args := args.map Text.Octets.ofString
  Act.program (initialMemory (args.headD []) environment) do
    match ← Act.attempt (start args.tail) with
    | .ok () => Run.conclude runner .ended
    | .error j => Run.conclude runner j

end PipeShell.Programs
