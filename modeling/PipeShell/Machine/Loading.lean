import PipeShell.Machine.FileTree

/-!
# Becoming a program

A name with a slash in it is a path; any other name is looked for in the directories of `PATH`. A
file that begins with `#!` is run by the interpreter it names, and an executable file of no known
form by `/bin/sh`. Arguments and environment together must not be too long.

## Main definitions

* `interpreter?`: the interpreter that a script names
* `load`: the program at a path
* `become`: the program that a list of arguments stands for
-/

namespace PipeShell.Machine

/-! ## Interpreters -/

/-- A space or a tab. -/
def isGap (b : UInt8) : Bool := b == 32 || b == 9

/-- A byte that ends a word of a script's first line. -/
def isTerminator (b : UInt8) : Bool := isGap b || b == 0

/-- The number of bytes at the beginning of a file that tell its form. -/
def headSize : Nat := 256

/-- What tells a file's form: its first bytes, with zeros behind them if it is shorter. -/
def headOf (data : Array UInt8) : List UInt8 :=
  let bytes := (data.extract 0 headSize).toList
  bytes ++ List.replicate (headSize - bytes.length) 0

/-- The first line behind `#!`, without blanks at its end: up to the line feed, or where no line
feed comes before a zero, all but the last byte of the head, provided that the interpreter's name
ends in the head. -/
def interpreterLine? (head : List UInt8) : Option (List UInt8) :=
  let first := head.takeWhile fun b => b != 10 && b != 0
  let trimmed := fun (line : List UInt8) => (line.reverse.dropWhile isGap).reverse
  if (head.drop first.length).head? = some 10 then some (trimmed first)
  else if (head.dropWhile isGap).any isTerminator then some (trimmed head.dropLast)
  else none

/-- The interpreter that a script names in its first line, with its one argument, if it has one. -/
def interpreter? (data : Array UInt8) : Option (String × List String) :=
  match headOf data with
  | 35 :: 33 :: head =>
    match interpreterLine? head with
    | none => none
    | some line =>
      match line.dropWhile isGap with
      | [] => none
      | named =>
        let name := named.takeWhile (!isTerminator ·)
        let rest := named.drop name.length
        let option := if rest.head?.any isGap then (rest.dropWhile isGap).takeWhile (· != 0) else []
        some (Text.Utf8.decode name, if option.isEmpty then [] else [Text.Utf8.decode option])
  | _ => none

/-- The most interpreters in a row. -/
def maxInterpreters : Nat := 5

/-! ## Sizes -/

/-- The most bytes in an argument, the zero behind it included. -/
def maxArgument : Nat := 131072

/-- The most bytes in all arguments and variables, and the places where each begins. -/
def maxArguments : Nat := 2097152

/-- The bytes that a text takes, the zero behind it included. -/
def storedSize (text : String) : Nat := text.utf8ByteSize + 1

/-- The environment as texts. -/
def settings (env : Environment) : List String := env.map fun (name, value) => name ++ "=" ++ value

/-- Arguments and environment are too long to be passed on. -/
def isTooLong (path : String) (args : List String) (env : Environment) : Bool :=
  let texts := args ++ settings env
  texts.any (fun text => maxArgument < storedSize text) ||
    maxArguments < ((path :: texts).map storedSize).foldl (· + ·) 0 + 8 * texts.length

/-! ## Programs -/

/-- The program at a path, given its arguments, its own name first. -/
def load (t : FileTree) (cwd : NodeId) (env : Environment) :
    (depth : Nat) → (path : String) → (args : List String) → Except Errno Program
  | depth, path, args =>
    match t.find cwd true path with
    | .error cause => .error cause
    | .ok id =>
      if t.isDirectory id || !t.allows id .search then .error .noAccess
      else if isTooLong path args env then .error .tooManyArguments
      else match t.content? id with
        | some (.program main) => .ok (main args env)
        | some (.file data) =>
          match interpreter? data with
          | none => .error .noExec
          | some (interpreter, option) =>
            match depth with
            | 0 => .error .tooManyLinks
            | depth + 1 =>
              -- The interpreter gets the path in the place of the name that the program was called
              -- by.
              load t cwd env depth interpreter (interpreter :: option ++ path :: args.tail)
        | _ => .error .noAccess

/-- The shell that runs files of no known form. -/
def shellPath : String := "/bin/sh"

/-- The program at a path, one of no known form being left to the shell. -/
def loadOrInterpret (t : FileTree) (cwd : NodeId) (env : Environment) (path : String)
    (args : List String) : Except Errno Program :=
  match load t cwd env maxInterpreters path args with
  | .error cause =>
    if cause = .noExec then
      load t cwd env maxInterpreters shellPath (shellPath :: path :: args.tail)
    else .error cause
  | program => program

/-- Looks for a program in directories, in order. A directory that has none is passed over; that a
file may not be run is remembered, and told only if no directory has one that may. -/
def searchPath (t : FileTree) (cwd : NodeId) (env : Environment) (name : String)
    (args : List String) : (denied : Bool) → (last : Errno) → List String → Except Errno Program
  | denied, last, [] => .error (if denied then .noAccess else last)
  | denied, _, directory :: rest =>
    let path := if directory.isEmpty then name else directory ++ "/" ++ name
    match loadOrInterpret t cwd env path args with
    | .ok program => .ok program
    | .error cause =>
      if cause = .noAccess then searchPath t cwd env name args true cause rest
      else if cause = .noEntry ∨ cause = .notDirectory then
        searchPath t cwd env name args denied cause rest
      else .error cause

/-- The directories that are searched where the environment names none. -/
def defaultPath : String := "/bin:/usr/bin"

/-- The program that a list of arguments stands for, the first of which names it. -/
def become (t : FileTree) (cwd : NodeId) (env : Environment) (args : List String) :
    Except Errno Program :=
  match args with
  | [] => .error .noEntry
  | name :: _ =>
    if name.isEmpty then .error .noEntry
    else if name.toList.contains '/' then loadOrInterpret t cwd env name args
    else if FileTree.maxName < name.utf8ByteSize then .error .nameTooLong
    else
      searchPath t cwd env name args false .noEntry
        (Text.splitAt ':' ((env.lookup "PATH").getD defaultPath))

end PipeShell.Machine
