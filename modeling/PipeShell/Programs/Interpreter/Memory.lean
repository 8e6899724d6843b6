import PipeShell.Programs.Calls
import PipeShell.Programs.Interpreter.Reader

/-!
# What an interpreter remembers

Variables, functions, positional parameters, options, traps and what else outlives a command; and
the ways in which a command can cut short what is going on around it. A child has a copy of it all.

## Main definitions

* `Variable`, `Memory`: what is remembered
* `Jump`: what cuts a command short
* `Act`: a step of an interpreter
* `Act.fault`: something is wrong, which ends all but the interpreter itself
-/

namespace PipeShell.Programs.Interpreter

open PipeShell.Machine
open PipeShell.Text (Octets)

/-- A variable: its value, if it has one, whether programs get to know it, and whether it can be
changed. -/
structure Variable where
  name : Octets
  value : Option Octets
  exported : Bool := false
  fixed : Bool := false

/-- The letters and names of the options. -/
def optionNames : List (Char × String) :=
  [('e', "errexit"), ('f', "noglob"), ('I', "ignoreeof"), ('i', "interactive"), ('m', "monitor"),
   ('n', "noexec"), ('s', "stdin"), ('x', "xtrace"), ('v', "verbose"), ('V', "vi"), ('E', "emacs"),
   ('C', "noclobber"), ('a', "allexport"), ('b', "notify"), ('u', "nounset"), ('p', "privileged"),
   ('\x00', "nolog"), ('\x01', "debug")]

/-- What is left out from now on: the rest of a number of loops or of one round, or the rest of a
function or of a text, with whether it was said how that ends. -/
inductive Skip where
  | loops (count : Nat)
  | round (count : Nat)
  | rest (told : Bool)
  deriving DecidableEq

/-- What a descriptor stood for before it was redirected: nothing, or what the copy stands for that
was made of it. -/
inductive Kept where
  | nothing
  | copy (fd : Nat)

/-- A command that is not waited for: its processes, and how each of them ended that has been waited
for. -/
structure Job where
  processes : List Nat
  ending : Option ExitStatus := none

/-- What outlives a command. `own` is the name in messages, `builtin` the command that is being
carried out if it is one of the interpreter's own, and `line` its line; reading has come to the line
`reached`. `status` tells how the last command ended, and `promised` how the interpreter is to end.
`hidden` holds what local variables hide, for each function that is being carried out, and `kept`
what descriptors stood for before they were redirected, for each command with redirections.
`located` are the programs that have been found, each with its path. -/
structure Memory where
  own : Octets
  line : Nat := 1
  reached : Nat := 1
  builtin : Option Octets := none
  allVariables : List Variable := []
  functions : List (Octets × Command) := []
  aliases : List (Octets × Octets) := []
  located : List (Octets × Octets) := []
  arguments : List Octets := []
  options : List Char := []
  status : Nat := 0
  promised : Option Nat := none
  fromSubstitution : Nat := 0
  process : Nat := 0
  background : Option Nat := none
  jobs : List (Option Job) := []
  traps : List (Nat × Octets) := []
  pending : List Nat := []
  texts : List (Nat × Word) := []
  nextText : Nat := 0
  loops : Nat := 0
  skip : Option Skip := none
  hidden : List (List (Octets × Option Variable)) := []
  kept : List (List (Nat × Kept)) := []
  tracesTo : Nat := 2
  place : Option Octets := none
  optionIndex : Nat := 1
  optionOffset : Option Nat := none
  outputFailed : Bool := false

/-- What cuts everything short: the interpreter ends, as it is, or as a command has asked for; or
something is wrong, which ends it too unless something holds it up. -/
inductive Jump where
  | ended
  | asked
  | error
  deriving DecidableEq

/-- A step of an interpreter. -/
abbrev Act := ExceptT Jump (StateT Memory Script)

namespace Act

/-- Asks the machine. -/
def ask {α : Type} (s : Script α) : Act α := ExceptT.lift (StateT.lift s)

/-- The interpreter ends with a status. -/
def leaveWith {α : Type} (status : Nat) : Act α := do
  modify fun m => { m with status }
  throw .ended

/-- Writes a text to standard error. -/
def tell (text : Octets) : Act Unit := ask (Call.sayOctets 2 text)

/-- Warns under the interpreter's name. -/
def warn (text : Octets) : Act Unit := do
  let m ← get
  let named := match m.builtin with
    | some name => name ++ ": ".toList
    | none => []
  tell (m.own ++ ": ".toList ++ (Nat.repr m.line).toList ++ ": ".toList ++ named ++ text ++ ['\n'])

/-- Something is wrong: it is told, and what is going on ends with status 2. -/
def fault {α : Type} (text : Octets) : Act α := do
  warn text
  modify fun m => { m with status := 2 }
  throw .error

/-- Carries out a step, and gives back what cut it short, if something did. -/
def attempt {α : Type} (act : Act α) : Act (Except Jump α) := fun m => do
  let (result, m) ← act m
  pure (.ok result, m)

/-- Goes on with the result of an attempt. -/
def resume {α : Type} : Except Jump α → Act α
  | .ok a => pure a
  | .error j => throw j

/-- Carries out a step and then another one, whatever cuts the first one short. -/
def finally_ {α : Type} (act : Act α) (after : Act Unit) : Act α := do
  let result ← attempt act
  after
  resume result

/-- Repeats a step until it has a result. -/
def iterate {α β : Type} (step : α → Act (α ⊕ β)) (a : α) : Act β := fun m =>
  Script.iterate (fun ((a, m) : α × Memory) => do
    match ← step a m with
    | (.ok (.inl a), m) => pure (.inl (a, m))
    | (.ok (.inr b), m) => pure (.inr (.ok b, m))
    | (.error j, m) => pure (.inr (.error j, m))) (a, m)

/-- The program that ends with the status that a step ends in. -/
def program (m : Memory) (act : Act Nat) : Program :=
  Script.program do
    let (result, m) ← act m
    pure (match result with
      | .ok status => status
      | .error _ => m.status)

/-- Writes to standard output; that it failed is remembered until the command is over. -/
def say (text : Octets) : Act Unit :=
  if text.isEmpty then pure ()
  else do
    match ← ask (Script.write 1 (Octets.toBytes text)) with
    | .ok () => pure ()
    | .error _ => modify fun m => { m with outputFailed := true }

end Act

open Act

/-! ## Texts -/

/-- A text between single quotes as far as it has none itself; those it has stand between double
quotes. At most `count` pieces. -/
def inQuotesWithin : (count : Nat) → Octets → Octets
  | 0, _ => []
  | count + 1, cs =>
    let plain := cs.takeWhile (· != '\'')
    let first := '\'' :: plain ++ ['\'']
    match cs.drop plain.length with
    | [] => first
    | rest =>
      let marks := rest.takeWhile (· == '\'')
      let both := first ++ '"' :: marks ++ ['"']
      match rest.drop marks.length with
      | [] => both
      | more => both ++ inQuotesWithin count more

/-- A text in quotes. -/
def inQuotes (cs : Octets) : Octets := inQuotesWithin (cs.length + 1) cs

/-! ## Variables -/

namespace Memory

/-- A variable that has been set or exported. -/
def lookUp? (m : Memory) (name : Octets) : Option Variable :=
  m.allVariables.find? fun v => v.name == name

/-- The value of a variable. -/
def value? (m : Memory) (name : Octets) : Option Octets :=
  (m.lookUp? name).bind Variable.value

/-- The value of a variable under a name without special characters. -/
def valueOf? (m : Memory) (name : String) : Option Octets := m.value? name.toList

/-- Puts a variable in the place of the one of its name. -/
def place_ (m : Memory) (v : Variable) : Memory :=
  if (m.lookUp? v.name).isSome then
    { m with allVariables := m.allVariables.map fun old => if old.name == v.name then v else old }
  else { m with allVariables := m.allVariables ++ [v] }

/-- Takes a variable away. -/
def without (m : Memory) (name : Octets) : Memory :=
  { m with allVariables := m.allVariables.filter fun v => v.name != name }

/-- An option is on. -/
def isOn (m : Memory) (letter : Char) : Bool := m.options.contains letter

/-- The environment of programs. -/
def environment (m : Memory) : Environment :=
  m.allVariables.filterMap fun v =>
    if v.exported then v.value.map fun value => (Octets.toString v.name, Octets.toString value)
    else none

end Memory

/-- Sets a variable, keeping what else is known of it. -/
def setVariable (name value : Octets) (export_ : Bool) : Act Unit := do
  let m ← get
  let old := (m.lookUp? name).getD { name, value := none }
  if old.fixed then fault (name ++ ": is read only".toList)
  else do
    let v := { old with
      value := some value
      exported := old.exported || export_ || m.isOn 'a' }
    modify fun m => m.place_ v
    if name == "OPTIND".toList then
      let given := value.takeWhile Char.isDigit
      let n := given.foldl (fun n c => n * 10 + (c.toNat - 48)) 0
      modify fun m => { m with optionIndex := if n = 0 then 1 else n, optionOffset := none }
    else pure ()

/-- Takes a variable away. -/
def unsetVariable (name : Octets) : Act Unit := do
  match (← get).lookUp? name with
  | some v =>
    if v.fixed then fault (name ++ ": is read only".toList)
    else modify fun m => m.without name
  | none => pure ()

/-- Remembers what a local variable hides, in the innermost function. -/
def hide (name : Octets) : Act Unit := do
  let m ← get
  match m.hidden with
  | [] => pure ()
  | frame :: rest =>
    if frame.any fun h => h.1 == name then pure ()
    else set { m with hidden := ((name, m.lookUp? name) :: frame) :: rest }

/-- Begins to remember what local variables hide. -/
def openFrame : Act Unit := modify fun m => { m with hidden := [] :: m.hidden }

/-- Brings back what local variables have hidden. -/
def closeFrame : Act Unit := modify fun m =>
  match m.hidden with
  | [] => m
  | frame :: rest =>
    frame.foldl (fun m (name, old) =>
      match old with
      | some v => m.place_ v
      | none => m.without name) { m with hidden := rest }

end PipeShell.Programs.Interpreter
