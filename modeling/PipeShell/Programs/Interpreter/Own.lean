import PipeShell.Programs.Interpreter.Printing
import PipeShell.Programs.Interpreter.Search
import PipeShell.Programs.Interpreter.Signals
import PipeShell.Programs.Interpreter.Testing

/-!
# The interpreter's own commands

What the interpreter does itself, without running a program. A command is given its own name and its
arguments and ends in a status; how a text is carried out as commands is left to a runner.

## Main definitions

* `Standing`, `Task`, `Runner`: carrying out commands and texts
* `optionsOf`: the options of a command
* `Own.command`: what a command of the interpreter does
-/

namespace PipeShell.Programs.Interpreter

open PipeShell.Machine
open PipeShell.Text (Octets)
open Act

/-- How a command stands among others: whether somebody looks at its status, which then does not end
the interpreter; and whether nothing comes after it. -/
structure Standing where
  tested : Bool := false
  last : Bool := false

/-- What can be carried out: a command, or a text as commands. -/
inductive Task where
  | command (c : Command)
  | text (cs : Octets)

/-- Carries out a task and gives the status that it ends with. -/
abbrev Runner := Standing → Task → Act Nat

namespace Own

/-! ## Arguments -/

/-- The options in an argument behind its dash, and the one whose own argument has to follow. -/
def optionCluster (letters : String) : Octets → Act (List (Char × Octets) × Option Char)
  | [] => return ([], none)
  | c :: cs => do
    match letters.toList.dropWhile (· != c) with
    | _ :: ':' :: _ => return if cs.isEmpty then ([], some c) else ([(c, cs)], none)
    | _ :: _ => do
      let (given, lacking) ← optionCluster letters cs
      return ((c, []) :: given, lacking)
    | [] => fault ("Illegal option -".toList ++ [c])

/-- The options among the arguments, each with its own argument where a colon follows its letter,
and the operands. -/
def optionsOf (letters : String) : (args : List Octets) → Act (List (Char × Octets) × List Octets)
  | ['-', '-'] :: rest => return ([], rest)
  | ('-' :: c :: cs) :: rest => do
    let (given, lacking) ← optionCluster letters (c :: cs)
    match lacking, rest with
    | none, rest => do
      let (others, operands) ← optionsOf letters rest
      return (given ++ others, operands)
    | some option, value :: rest => do
      let (others, operands) ← optionsOf letters rest
      return (given ++ (option, value) :: others, operands)
    | some option, [] => fault ("No arg for -".toList ++ option :: " option".toList)
  | operands => return ([], operands)

/-- A count that an argument gives. -/
def numberOf (text : Octets) : Act Nat :=
  if !text.isEmpty && text.all Char.isDigit then return Arithmetic.valueOf 10 text
  else fault ("Illegal number: ".toList ++ text)

/-- Members in the order of a table with a number of rows, in which a name finds its row by its
characters. -/
def tableOrder {α : Type} (rows : Nat) (members : List (Octets × α)) : List (Octets × α) :=
  let row := fun (name : Octets) =>
    (name.foldl (fun n c => n + c.toNat) ((name.head?.map Char.toNat).getD 0 * 16)) % rows
  members.mergeSort fun a b => row a.1 ≤ row b.1

/-! ## Directories -/

/-- The path that a text leads to from a directory, with dots resolved by name. -/
def resolved (start text : Octets) : Octets :=
  let parts := ((if text.head? == some '/' then text else start ++ '/' :: text).splitOn '/')
  let kept := parts.foldl (fun (kept : List Octets) part =>
    if part.isEmpty || part == ['.'] then kept
    else if part == ['.', '.'] then kept.drop 1
    else part :: kept) []
  '/' :: ['/'].intercalate kept.reverse

/-- Enters a directory and remembers the one before; tells whether that worked. -/
def enterDirectory (physical : Bool) (text : Octets) : Act Bool := do
  let old := (← get).place
  let named := if physical then none else old.map fun place => resolved place text
  match ← ask (Script.enter (Octets.toString (named.getD text))) with
  | .error _ => return false
  | .ok () => do
    let place ← match named with
      | some place => pure (some place)
      | none => do pure ((← ask Script.place).map Octets.ofString)
    modify fun m => { m with place, located := [] }
    setVariable "OLDPWD".toList (old.getD []) true
    setVariable "PWD".toList (place.getD []) true
    return true

/-- The path begins at the root or with dots that stand for directories. -/
def isAnchored (text : Octets) : Bool :=
  match text with
  | '/' :: _ | ['.'] | '.' :: '/' :: _ | ['.', '.'] | '.' :: '.' :: '/' :: _ => true
  | _ => false

/-- The path at which a directory is found among directories that are searched, and whether it is to
be told. -/
def searchDirectory (text : Octets) : List Octets → Act (Option (Octets × Bool))
  | [] => return none
  | directory :: rest => do
    let path := within directory text
    match ← ask (Script.inspect (Octets.toString path) true) with
    | .ok found =>
      if found.kind == .directory then return some (path, !directory.isEmpty)
      else searchDirectory text rest
    | .error _ => searchDirectory text rest

/-- The directory that the interpreter stands in. -/
def presentPlace (physical : Bool) : Act Octets := do
  if physical then return ((← ask Script.place).map Octets.ofString).getD []
  else return (← get).place.getD []

def changeDirectory (args : List Octets) : Act Nat := do
  let (given, operands) ← optionsOf "LP" args
  let physical := given.getLast?.any fun o => o.1 == 'P'
  let m ← get
  let (text, tells) := match operands with
    | [] => ((m.valueOf? "HOME").getD [], false)
    | ['-'] :: _ => ((m.valueOf? "OLDPWD").getD [], true)
    | text :: _ => (text, false)
  let (path, tells) ← if isAnchored text then pure (text, tells)
    else do
      let name := if text.isEmpty then ['.'] else text
      let directories := directoriesOf ((m.valueOf? "CDPATH").getD [])
      match ← searchDirectory name directories with
      | some (path, tells') => pure (path, tells || tells')
      | none => pure (text, tells)
  if ← enterDirectory physical path then
    if tells then say ((← presentPlace false) ++ ['\n']) else pure ()
    return 0
  else fault ("can't cd to ".toList ++ text)

def printPlace (args : List Octets) : Act Nat := do
  let (given, _) ← optionsOf "LP" args
  say ((← presentPlace (given.getLast?.any fun o => o.1 == 'P')) ++ ['\n'])
  return 0

/-! ## Variables -/

/-- The name and the value in an argument. -/
def assignmentIn (arg : Octets) : Octets × Option Octets :=
  let name := arg.takeWhile (· != '=')
  match arg.drop name.length with
  | [] => (name, none)
  | _ :: value => (name, some value)

/-- Refuses what is no name. -/
def checkName (name : Octets) : Act Unit :=
  if isName name then pure () else fault (name ++ ": bad variable name".toList)

/-- Lists variables in order. -/
def listVariables (lead : Octets) (vs : List Variable) : Act Unit := do
  let ordered := vs.mergeSort fun a b => isBefore a.name b.name
  say (ordered.flatMap fun v =>
    lead ++ v.name ++ (match v.value with
      | some value => '=' :: inQuotes value
      | none => []) ++ ['\n'])

/-- Marks variables as known to programs or as fixed, giving them values where there are some. -/
def markVariables (name : Octets) (fixes : Bool) (args : List Octets) : Act Nat := do
  let (given, operands) ← optionsOf "p" args
  let m ← get
  if !given.isEmpty || operands.isEmpty then
    listVariables (name ++ [' ']) (m.allVariables.filter fun v =>
      if fixes then v.fixed else v.exported)
    return 0
  else
    operands.forM fun arg => do
      let (name, value) := assignmentIn arg
      checkName name
      match value with
      | some value => setVariable name value false
      | none => pure ()
      let old := ((← get).lookUp? name).getD { name, value := none }
      modify fun m => m.place_ { old with
        exported := old.exported || !fixes
        fixed := old.fixed || fixes }
    return 0

def unset (args : List Octets) : Act Nat := do
  let (given, operands) ← optionsOf "vf" args
  let functions := given.getLast?.any fun o => o.1 == 'f'
  operands.forM fun name => do
    if functions then
      modify fun m => { m with functions := m.functions.filter fun f => f.1 != name }
    else do
      checkName name
      unsetVariable name
  return 0

/-- Makes variables local to the function that is being carried out. -/
def makeLocal (args : List Octets) : Act Nat := do
  if (← get).hidden.isEmpty then fault "not in a function".toList
  else
    args.forM fun arg => do
      let (name, value) := assignmentIn arg
      if arg == ['-'] then pure ()
      else do
        checkName name
        hide name
        match value with
        | some value => setVariable name value false
        | none => pure ()
    return 0

/-! ## Options of the interpreter -/

/-- Lists the options with their state, or as the commands that would bring them about. -/
def listOptions (asCommands : Bool) : Act Unit := do
  let m ← get
  let lines := optionNames.map fun (letter, name) =>
    let on := m.isOn letter
    if asCommands then "set " ++ (if on then "-o " else "+o ") ++ name ++ "\n"
    else name ++ "".pushn ' ' (16 - name.length) ++ (if on then "on" else "off") ++ "\n"
  say ((if asCommands then "" else "Current option settings\n") ++ String.join lines).toList

/-- Turns an option on or off. -/
def setOption (letter : Char) (on : Bool) : Act Unit :=
  modify fun m => { m with
    options := m.options.filter (fun c => c != letter) ++ (if on then [letter] else []) }

/-- Turns the option of a name on or off. -/
def setNamedOption (name : Octets) (on : Bool) : Act Unit :=
  match optionNames.find? fun o => o.2.toList == name with
  | some (letter, _) => setOption letter on
  | none => fault ("Illegal option -o ".toList ++ name)

/-- What becomes of the arguments after the options: whether they replace the parameters even if
there are none, and, where the interpreter is being started, whether the first of them is a text to
be carried out. -/
structure Settled where
  operands : List Octets
  replaces : Bool := false
  isText : Bool := false

/-- Turns options on and off as arguments say; `starting` tells that the interpreter is being
started. -/
def setOptions (starting : Bool) (isText : Bool) : (args : List Octets) → Act Settled
  | [] => return { operands := [], isText }
  | ['-'] :: rest => do
    if starting then pure ()
    else do
      setOption 'x' false
      setOption 'v' false
    return { operands := rest, isText }
  | ['-', '-'] :: rest => return { operands := rest, replaces := true, isText }
  | (sign :: letters) :: rest => do
    if sign != '-' && sign != '+' then return { operands := (sign :: letters) :: rest, isText }
    else do
      let on := sign == '-'
      let (named, text) ← letters.foldlM (fun ((named : Nat), text) c => do
        if starting && on && c == 'c' then return (named, true)
        else if starting && on && c == 'l' then return (named, text)
        else if c == 'o' then do
          match rest[named]? with
          | some name => setNamedOption name on
          | none => listOptions !on
          return (named + 1, text)
        else if (optionNames.lookup c).isSome && ' ' < c then do
          setOption c on
          return (named, text)
        else fault ("Illegal option -".toList ++ [c])) (0, isText)
      match named, rest with
      | 0, rest => setOptions starting text rest
      | _, [] => return { operands := [], isText := text }
      | _, _ :: rest => setOptions starting text rest
  | args => return { operands := args, isText }

def setParameters (args : List Octets) : Act Nat := do
  if args.isEmpty then
    let vs := (← get).allVariables.filter fun v => v.value.isSome
    listVariables [] vs
    return 0
  else do
    let settled ← setOptions false false args
    if !settled.operands.isEmpty || settled.replaces then
      modify fun m => { m with
        arguments := settled.operands
        optionIndex := 1
        optionOffset := none }
    else pure ()
    return 0

def shift (args : List Octets) : Act Nat := do
  let n ← match args with
    | [] => pure 1
    | text :: _ => numberOf text
  let m ← get
  if m.arguments.length < n then fault "can't shift that many".toList
  else
    set { m with
      arguments := m.arguments.drop n
      optionIndex := 1
      optionOffset := none }
    return 0

/-! ## Reading -/

/-- The first field of some pieces, and those that follow it. -/
def firstField (ifs : Octets) (pieces : List Piece) : Field × List Piece :=
  let separates := fun (p : Piece) => match p with
    | .char c _ splits => splits && ifs.contains c
    | _ => false
  let pieces := pieces.dropWhile fun p => separates p && (match p with
    | .char c .. => isGap c
    | _ => false)
  let field := pieces.takeWhile (!separates ·)
  let rest := match pieces.drop field.length with
    | .char c .. :: rest => afterSeparator ifs (isGap c) rest
    | _ => []
  (wholeOf field, rest)

/-- What is left for the last variable: a field, if there is only one, or everything but the blanks
at both ends. -/
def lastField (ifs : Octets) (pieces : List Piece) : Field :=
  match fieldsOf ifs pieces with
  | [] => []
  | [field] => field
  | _ =>
    let isBlank := fun (p : Piece) => match p with
      | .char c _ splits => splits && ifs.contains c && isGap c
      | _ => false
    wholeOf ((pieces.dropWhile isBlank).reverse.dropWhile isBlank).reverse

/-- Shares pieces out among variables. -/
def shareOut (ifs : Octets) : (names : List Octets) → List Piece → Act Unit
  | [], _ => pure ()
  | [name], pieces => setVariable name (lastField ifs pieces).text false
  | name :: names, pieces => do
    let (field, rest) := firstField ifs pieces
    setVariable name field.text false
    shareOut ifs names rest

/-- The characters of a line, those behind a backslash quoted; and whether the line goes on. -/
def protect : Octets → List Piece × Bool
  | [] => ([], false)
  | ['\\'] => ([], true)
  | '\\' :: c :: cs =>
    let (pieces, more) := protect cs
    (.char c true false :: pieces, more)
  | c :: cs =>
    let (pieces, more) := protect cs
    (.char c false true :: pieces, more)

/-- Reads a line from standard input, joined with the next one where a backslash ends it, and tells
whether it ended. -/
def readLine (raw : Bool) : Act (List Piece × Bool) :=
  iterate (fun (held : List Piece) => do
    match ← ask (Script.line 0) with
    | .error _ => return .inr (held, false)
    | .ok bytes => do
      let cs := (Octets.ofBytes bytes).filter (· != '\x00')
      let ends := cs.getLast? == some '\n'
      let line := if ends then cs.dropLast else cs
      if raw then return .inr (held ++ line.map (Piece.char · false true), ends)
      else
        let (pieces, more) := protect line
        if more && ends then return .inl (held ++ pieces)
        else return .inr (held ++ pieces, ends)) []

def read (args : List Octets) : Act Nat := do
  let (given, names) ← optionsOf "p:r" args
  if names.isEmpty then fault "arg count".toList
  else do
    let (pieces, ended) ← readLine (given.any fun o => o.1 == 'r')
    names.forM checkName
    shareOut (separators (← get)) names pieces
    return if ended then 0 else 1

/-- Takes the next option out of arguments. -/
def nextOption (letters name : Octets) (args : List Octets) : Act Nat := do
  let m ← get
  let quiet := letters.head? == some ':'
  let index := if args.length + 1 < m.optionIndex then 1 else m.optionIndex
  let offset := if args.length + 1 < m.optionIndex then none else m.optionOffset
  let finish := fun (result : Char) (index : Nat) (offset : Option Nat) (status : Nat) => do
    setVariable "OPTIND".toList (Nat.repr index).toList false
    modify fun m => { m with optionIndex := index, optionOffset := offset }
    checkName name
    setVariable name [result] false
    return status
  let current := match offset with
    | some o => ((args[index - 2]?).getD []).drop o
    | none => []
  let (rest, index) := match current, args[index - 1]? with
    | [], some ('-' :: c :: cs) =>
      if c == '-' && cs.isEmpty then ([], index + 1) else (c :: cs, index + 1)
    | [], _ => ([], index)
    | current, _ => (current, index)
  let word := (args[index - 2]?).getD []
  match rest with
  | [] => finish '?' index none 1
  | c :: cs => do
    let offset := if cs.isEmpty then none else some (word.length - cs.length)
    let known := if c == ':' then [] else letters.dropWhile (· != c)
    match known with
    | [] => do
      if quiet then setVariable "OPTARG".toList [c] false
      else do
        tell ("Illegal option -".toList ++ [c, '\n'])
        unsetVariable "OPTARG".toList
      finish '?' index offset 0
    | _ :: ':' :: _ =>
      if !cs.isEmpty then do
        setVariable "OPTARG".toList cs false
        finish c index none 0
      else match args[index - 1]? with
        | some value => do
          setVariable "OPTARG".toList value false
          finish c (index + 1) none 0
        | none => do
          if quiet then do
            setVariable "OPTARG".toList [c] false
            finish ':' index none 0
          else do
            tell ("No arg for -".toList ++ c :: " option\n".toList)
            unsetVariable "OPTARG".toList
            finish '?' index none 0
    | _ => do
      setVariable "OPTARG".toList [] false
      finish c index offset 0

def getOption (args : List Octets) : Act Nat := do
  let m ← get
  match args with
  | letters :: name :: rest =>
    nextOption letters name (if rest.isEmpty then m.arguments else rest)
  | _ => fault "Usage: getopts optstring var [arg...]".toList

/-! ## Permissions -/

/-- The bits of the letters that name permissions, for all classes of users. -/
def permissionBits (present : Nat) (c : Char) : Nat :=
  match c with
  | 'r' => 0o444
  | 'w' => 0o222
  | 'x' => 0o111
  | 'X' => if present &&& 0o111 != 0 then 0o111 else 0
  | 'u' => (present >>> 6 &&& 7) * 0o111
  | 'g' => (present >>> 3 &&& 7) * 0o111
  | 'o' => (present &&& 7) * 0o111
  | _ => 0

/-- The bits of a class of users. -/
def classBits (c : Char) : Nat :=
  match c with
  | 'u' => 0o700
  | 'g' => 0o070
  | 'o' => 0o007
  | _ => 0o777

/-- What permissions become by one clause of a mode: classes, and operators with permissions;
nothing if it is no clause. -/
def clause? (present : Nat) (cs : Octets) : Option Nat :=
  let classes := cs.takeWhile fun c => "ugoa".toList.contains c
  let of := if classes.isEmpty then 0o777 else (classes.map classBits).foldl (· ||| ·) 0
  let actions := cs.drop classes.length
  let isSign := fun (c : Char) => c == '+' || c == '-' || c == '='
  if !(actions.isEmpty || actions.head?.any isSign) ||
      !actions.all (fun c => isSign c || "rwxXstugo".toList.contains c) then none
  else
    let (result, _) := actions.foldl (fun ((present : Nat), sign) c =>
      if isSign c then
        (if c == '=' then present - (present &&& of) else present, c)
      else
        let bits := permissionBits present c &&& of
        (if sign == '-' then present - (present &&& bits) else present ||| bits, sign))
          (present, '+')
    some result

/-- The permissions by letters. -/
def permissionLetters (bits : Nat) : Octets :=
  (if bits &&& 4 != 0 then ['r'] else []) ++ (if bits &&& 2 != 0 then ['w'] else []) ++
    (if bits &&& 1 != 0 then ['x'] else [])

/-- A number in octal with at least four digits. -/
def octal (n : Nat) : Octets :=
  let digits := Nat.toDigits 8 n
  List.replicate (4 - digits.length) '0' ++ digits

def permissions (args : List Octets) : Act Nat := do
  let (given, operands) ← optionsOf "S" args
  let old ← ask (Script.mask none)
  match operands with
  | [] => do
    let granted := 0o777 - (old &&& 0o777)
    say (if given.isEmpty then octal old ++ ['\n']
      else "u=".toList ++ permissionLetters (granted >>> 6 &&& 7) ++ ",g=".toList ++
        permissionLetters (granted >>> 3 &&& 7) ++ ",o=".toList ++
        permissionLetters (granted &&& 7) ++ ['\n'])
    return 0
  | text :: _ => do
    let new ← if text.head?.any Char.isDigit then
        if text.all fun c => '0' ≤ c && c ≤ '7' then pure (Arithmetic.valueOf 8 text &&& 0o777)
        else fault ("Illegal number: ".toList ++ text)
      else
        match (text.splitOn ',').foldlM clause? (0o777 - (old &&& 0o777)) with
        | some granted => pure (0o777 - (granted &&& 0o777))
        | none => fault ("Illegal mode: ".toList ++ text)
    let _ ← ask (Script.mask (some new))
    return 0

/-! ## Signals and children -/

/-- The usage of `kill`. -/
def killUsage : Octets :=
  ("Usage: kill [-s sigspec | -signum | -sigspec] [pid | job]... or\n" ++
    "kill -l [exitstatus]").toList

/-- Sends a signal to processes. -/
def sendTo (signal : Nat) : (status : Nat) → List Octets → Act Nat
  | status, [] => return status
  | status, text :: rest => do
    let number ← numberOf text
    match ← ask (Script.signal number signal) with
    | .ok () => sendTo signal status rest
    | .error cause => do
      warn (cause.systemText.toList ++ ['\n'])
      sendTo signal 1 rest

/-- Lists the names of signals. -/
def listSignals (operands : List Octets) : Act Nat := do
  match operands with
  | [] => do
    say ("0\n".toList ++
      (List.range Signal.last).flatMap fun i => Signal.name (i + 1) ++ ['\n'])
    return 0
  | text :: _ => do
    let n ← numberOf text
    let n := if 128 < n then n - 128 else n
    if 0 < n && n ≤ Signal.last then
      say (Signal.name n ++ ['\n'])
      return 0
    else fault ("invalid signal number or exit status: ".toList ++ text)

def kill (args : List Octets) : Act Nat := do
  let direct := match args with
    | ('-' :: text) :: rest => (Signal.number? 1 text).map fun n => (n, rest)
    | _ => none
  match args, direct with
  | [], _ => fault killUsage
  | _, some (n, operands) => if operands.isEmpty then fault killUsage else sendTo n 0 operands
  | args, none => do
    let (given, operands) ← if (args.head?.bind List.head?) == some '-' then optionsOf "ls:" args
      else pure ([], args)
    let signal ← given.foldlM (fun (signal : Option Nat) (option, text) => do
      if option != 's' then return signal
      else match Signal.number? 1 text with
        | some n => return some n
        | none => fault ("invalid signal number or name: ".toList ++ text)) none
    if given.any fun o => o.1 == 'l' then
      if signal.isSome && !operands.isEmpty then fault killUsage else listSignals operands
    else if operands.isEmpty then fault killUsage
    else sendTo (signal.getD 15) 0 operands

/-- Agrees on what is done about a signal. -/
def setTrap (number : Nat) (action : Option Octets) : Act Unit := do
  modify fun m => { m with
    traps := m.traps.filter (fun t => t.1 != number) ++ (match action with
      | some action => [(number, action)]
      | none => []) }
  if number = 0 then pure ()
  else ask (Script.dispose number (match action with
    | none => .standard
    | some [] => .ignored
    | some _ => .noted))

/-- Sets traps for signals as long as they are signals. -/
def setTraps (action : Option Octets) : List Octets → Act Nat
  | [] => return 0
  | text :: rest => do
    match Signal.number? 0 text with
    | some n => do
      setTrap n action
      setTraps action rest
    | none => do
      tell ("trap: ".toList ++ text ++ ": bad trap\n".toList)
      return 1

def trap (args : List Octets) : Act Nat := do
  let (_, operands) ← optionsOf "" args
  match operands with
  | [] => do
    let ordered := (← get).traps.mergeSort fun a b => a.1 ≤ b.1
    say (ordered.flatMap fun (n, action) =>
      "trap -- ".toList ++ inQuotes action ++ ' ' :: Signal.name n ++ ['\n'])
    return 0
  | [signal] => setTraps none [signal]
  | action :: signals =>
    if !action.isEmpty && action.all Char.isDigit then setTraps none operands
    else setTraps (if action == ['-'] then none else some action) signals

/-- The status of a command that ended in some way. -/
def statusOf : ExitStatus → Nat
  | .exited status => status.toNat
  | .signaled signal => 128 + signal.toNat

/-- Waits for the processes of a job, and remembers how the last of them ended. -/
def waitForJob (job : Job) : Act Nat := do
  match job.ending with
  | some ending => return statusOf ending
  | none => do
    let endings ← job.processes.mapM fun pid => ask (Script.wait pid)
    let ending := endings.getLast?.getD (.exited 0)
    modify fun m => { m with jobs := m.jobs.map fun place => place.map fun j =>
      if j.processes == job.processes then { j with ending := some ending } else j }
    return statusOf ending

/-- The job that an argument names, by its number behind a percent sign or its last process. -/
def jobOf (text : Octets) : Act (Option Job) := do
  match text with
  | '%' :: number => do
    let jobs := (← get).jobs
    let n := Arithmetic.valueOf 10 number
    let found := if number.isEmpty || number == ['%'] || number == ['+'] then
        (jobs.filterMap id).getLast?
      else if number.all Char.isDigit && n != 0 then jobs[n - 1]?.join
      else none
    match found with
    | some job => return some job
    | none => fault ("No such job: ".toList ++ text)
  | text => do
    let n ← numberOf text
    return ((← get).jobs.filterMap id).find? fun job => job.processes.getLast? == some n

def wait (args : List Octets) : Act Nat := do
  let (_, operands) ← optionsOf "" args
  if operands.isEmpty then do
    ((← get).jobs.filterMap id).forM fun job => do
      let _ ← waitForJob job
      pure ()
    return 0
  else
    operands.foldlM (fun (status : Nat) text => do
      match ← jobOf text with
      | some job => waitForJob job
      | none => return status) 127

/-! ## Names -/

def alias_ (args : List Octets) : Act Nat := do
  let line := fun (name value : Octets) => name ++ '=' :: inQuotes value ++ ['\n']
  if args.isEmpty then do
    say ((tableOrder 39 (← get).aliases).flatMap fun (name, value) => line name value)
    return 0
  else
    args.foldlM (fun (status : Nat) arg => do
      let name := arg.take 1 ++ (arg.drop 1).takeWhile (· != '=')
      match arg.drop name.length with
      | _ :: value => do
        modify fun m => { m with
          aliases := if (m.aliases.lookup name).isSome then
              m.aliases.map fun a => if a.1 == name then (name, value) else a
            else m.aliases ++ [(name, value)] }
        return status
      | [] =>
        match (← get).aliases.lookup name with
        | some value => do
          say (line name value)
          return status
        | none => do
          tell ("alias: ".toList ++ name ++ " not found\n".toList)
          return 1) 0

def unalias (args : List Octets) : Act Nat := do
  let (given, operands) ← optionsOf "a" args
  if !given.isEmpty then do
    modify fun m => { m with aliases := [] }
    return 0
  else
    operands.foldlM (fun (status : Nat) name => do
      if ((← get).aliases.lookup name).isSome then do
        modify fun m => { m with aliases := m.aliases.filter fun a => a.1 != name }
        return status
      else do
        tell ("unalias: ".toList ++ name ++ " not found\n".toList)
        return 1) 0

def hash (args : List Octets) : Act Nat := do
  let (given, operands) ← optionsOf "r" args
  if !given.isEmpty then do
    modify fun m => { m with located := [] }
    return 0
  else if operands.isEmpty then do
    say ((tableOrder 31 (← get).located).flatMap fun (_, path) => path ++ ['\n'])
    return 0
  else
    operands.foldlM (fun (status : Nat) name => do
      modify fun m => { m with located := m.located.filter fun l => l.1 != name }
      match ← find false none name with
      | .nothing cause => do
        warn (runProblem name cause)
        return 1
      | _ => return status) 0

def type (args : List Octets) : Act Nat :=
  args.foldlM (fun (status : Nat) name => do return status ||| (← describe true none name)) 0

/-- The command that is given no command to carry out, but tells what a name stands for. -/
def command (args : List Octets) : Act Nat := do
  let (given, operands) ← optionsOf "pvV" args
  let has := fun (c : Char) => given.any fun o => o.1 == c
  match operands with
  | name :: _ =>
    if has 'v' || has 'V' then
      describe (has 'V') (if has 'p' then some (directoriesOf usualDirectories) else none) name
    else return 0
  | [] => return 0

/-! ## The course of commands -/

/-- Leaves out the rest of loops, or of a round. -/
def leaveLoops (round : Bool) (args : List Octets) : Act Nat := do
  let n ← match args with
    | [] => pure 1
    | text :: _ => numberOf text
  if n = 0 then fault ("Illegal number: ".toList ++ args.headD [])
  else do
    let count := min n (← get).loops
    if count = 0 then return 0
    else
      modify fun m => { m with skip := some (if round then .round count else .loops count) }
      return 0

def return_ (args : List Octets) : Act Nat := do
  let status ← match args with
    | [] => pure (← get).status
    | text :: _ => numberOf text
  modify fun m => { m with skip := some (.rest !args.isEmpty) }
  return status

def exit (args : List Octets) : Act Nat := do
  match args with
  | [] => pure ()
  | text :: _ => do
    let n ← numberOf text
    modify fun m => { m with promised := some (n % 256) }
  throw .asked

def eval (run : Runner) (standing : Standing) (args : List Octets) : Act Nat :=
  match args with
  | [] => return 0
  | args => run { standing with last := false } (.text ([' '].intercalate args))

/-- The file that a name stands for where commands are read from a file. -/
def fileOf (name : Octets) : Act Octets := do
  if name.contains '/' then return name
  else search (searched (← get))
where
  search : List Octets → Act Octets
    | [] => fault (name ++ ": not found".toList)
    | directory :: rest => do
      match ← ask (Script.inspect (Octets.toString (within directory name)) true) with
      | .ok found => if found.kind == .regular then return within directory name else search rest
      | .error _ => search rest

/-- Carries out the commands in a file. -/
def source (run : Runner) (args : List Octets) : Act Nat := do
  let (_, operands) ← optionsOf "" args
  match operands with
  | [] => return 0
  | name :: _ => do
    let path ← fileOf name
    let fd ← openAs false path .read
    let bytes ← ask (Script.slurp fd)
    ask (Script.close fd)
    modify fun m => { m with builtin := some path }
    let text := Octets.ofBytes (bytes.toOption.getD [])
    let status ← run {} (.text (text.filter (· != '\x00')))
    modify fun m => { m with skip := match m.skip with
      | some (.rest _) => none
      | other => other }
    return status

def exec (args : List Octets) : Act Nat := do
  let (_, operands) ← optionsOf "" args
  match operands with
  | [] => return 0
  | operands => become (searched (← get)) operands

/-! ## All of them -/

/-- What a command of the interpreter does. -/
def carryOut (run : Runner) (standing : Standing) (name : Octets) (args : List Octets) : Act Nat :=
  match String.ofList name with
  | ":" | "true" => return 0
  | "false" => return 1
  | "." => source run args
  | "break" => leaveLoops false args
  | "continue" => leaveLoops true args
  | "eval" => eval run standing args
  | "exec" => exec args
  | "exit" => exit args
  | "export" => markVariables name false args
  | "readonly" => markVariables name true args
  | "return" => return_ args
  | "set" => setParameters args
  | "shift" => shift args
  | "times" => do
    say "0m0.000000s 0m0.000000s\n0m0.000000s 0m0.000000s\n".toList
    return 0
  | "trap" => trap args
  | "unset" => unset args
  | "local" => makeLocal args
  | "alias" => alias_ args
  | "unalias" => unalias args
  | "bg" | "fg" => do
    match args with
    | [] => fault "No current job".toList
    | text :: _ => do
      let _ ← jobOf text
      fault ("job ".toList ++ text ++ " not created under job control".toList)
  | "jobs" => return 0
  | "cd" | "chdir" => changeDirectory args
  | "pwd" => printPlace args
  | "command" => command args
  | "echo" => do
    say (Printing.echo args)
    return 0
  | "getopts" => getOption args
  | "hash" => hash args
  | "kill" => kill args
  | "printf" => do
    let (_, operands) ← optionsOf "" args
    Printing.printf operands
  | "read" => read args
  | "test" => do return if ← Testing.evaluate args then 0 else 1
  | "[" => do
    if args.getLast? == some [']'] then return if ← Testing.evaluate args.dropLast then 0 else 1
    else fault "missing ]".toList
  | "type" => type args
  | "ulimit" => do
    say "unlimited\n".toList
    return 0
  | "umask" => permissions args
  | "wait" => wait args
  | _ => return 0

end Own

end PipeShell.Programs.Interpreter
