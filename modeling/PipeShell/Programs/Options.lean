import PipeShell.Text.Octets

/-!
# Options

An argument that begins with one dash is a row of one-letter options, one that begins with two is an
option with a long name, of which as much is enough as tells it from the others. An option may take
a value: a letter takes the rest of its argument or else the next argument, a long name what follows
an equals sign or else the next argument. Options may stand among the operands, unless they must
come first; behind an argument `--` there are none.

## Main definitions

* `OptionSpec`: one option of a program
* `Options.parse`: reads arguments
* `Options.Fault.message`: what is said of arguments that cannot be read
-/

namespace PipeShell.Programs

open PipeShell.Text (Octets)

/-- Whether an option takes a value; a value that may be missing belongs to the same argument. -/
inductive Need where
  | nothing
  | value
  | perhaps
  deriving DecidableEq, Repr

/-- An option: the key it is known by, its letter, its long name, and whether it takes a value. -/
structure OptionSpec where
  key : String
  letter : Option Char
  long : Option String
  need : Need := .nothing

namespace Options

/-- An option with a letter and a long name, known by its letter. -/
def both (letter : Char) (long : String) (need : Need := .nothing) : OptionSpec :=
  ⟨letter.toString, some letter, some long, need⟩

/-- An option with a letter only. -/
def short (letter : Char) (need : Need := .nothing) : OptionSpec :=
  ⟨letter.toString, some letter, none, need⟩

/-- An option with a long name only, known by it. -/
def long (name : String) (need : Need := .nothing) : OptionSpec := ⟨name, none, some name, need⟩

/-- What is wrong with arguments. -/
inductive Fault where
  | unknown (letter : Char)
  | unvalued (letter : Char)
  | unknownLong (text : Octets)
  | ambiguous (text : Octets) (names : List String)
  | overvalued (name : String)
  | unvaluedLong (name : String)

/-- An option that was given, with its value. -/
structure Given where
  key : String
  value : Option Octets

/-- The value, or no text where there is none. -/
def Given.text (g : Given) : Octets := g.value.getD []

/-- Arguments that have been read: options and operands in order, and the fault that ended the
reading. -/
structure Parsed where
  given : List Given := []
  operands : List Octets := []
  fault : Option Fault := none

/-- One more option in front. -/
def Parsed.consGiven (key : String) (value : Option Octets) (p : Parsed) : Parsed :=
  { p with given := ⟨key, value⟩ :: p.given }

/-- More options in front. -/
def Parsed.prepend (given : List Given) (p : Parsed) : Parsed :=
  { p with given := given ++ p.given }

/-- One more operand in front. -/
def Parsed.consOperand (operand : Octets) (p : Parsed) : Parsed :=
  { p with operands := operand :: p.operands }

/-- The options of one argument; the option at its end that still needs a value; and the fault. -/
def letters (table : List OptionSpec) :
    Octets → List Given × Option OptionSpec × Option Fault
  | [] => ([], none, none)
  | c :: rest =>
    match table.find? fun o => o.letter == some c with
    | none => ([], none, some (.unknown c))
    | some o =>
      match o.need, rest with
      | .nothing, rest =>
        let (given, pending, fault) := letters table rest
        (⟨o.key, none⟩ :: given, pending, fault)
      | .value, [] => ([], some o, none)
      | .perhaps, [] => ([⟨o.key, none⟩], none, none)
      | _, rest => ([⟨o.key, some rest⟩], none, none)

/-- The option that a long name stands for. -/
def named (table : List OptionSpec) (text name : Octets) : Except Fault OptionSpec :=
  let nameOf := fun (o : OptionSpec) => (o.long.getD "").toList
  match table.find? fun o => o.long.isSome && nameOf o == name with
  | some o => .ok o
  | none =>
    match table.filter fun o => o.long.isSome && name.isPrefixOf (nameOf o) with
    | [] => .error (.unknownLong text)
    | first :: others =>
      if others.all fun o => o.key == first.key then .ok first
      else .error (.ambiguous text ((first :: others).filterMap OptionSpec.long))

/-- Reads arguments. Where `inOrder` holds, the first operand ends the options. -/
def parse (table : List OptionSpec) (inOrder : Bool) : List Octets → Parsed
  | [] => {}
  | arg :: rest =>
    match arg with
    | ['-', '-'] => { operands := rest }
    | '-' :: '-' :: text =>
      let name := text.takeWhile (· != '=')
      match named table text name, (text.drop name.length).tail?, rest with
      | .error fault, _, _ => { fault := some fault }
      | .ok o, value, rest =>
        match o.need, value, rest with
        | .nothing, some _, _ => { fault := some (.overvalued (o.long.getD "")) }
        | .value, none, [] => { fault := some (.unvaluedLong (o.long.getD "")) }
        | .value, none, value :: rest => (parse table inOrder rest).consGiven o.key (some value)
        | _, value, rest => (parse table inOrder rest).consGiven o.key value
    | '-' :: c :: more =>
      match letters table (c :: more), rest with
      | (given, _, some fault), _ => { given, fault := some fault }
      | (given, none, none), rest => (parse table inOrder rest).prepend given
      | (given, some o, none), [] =>
        { given, fault := some (.unvalued (o.letter.getD '-')) }
      | (given, some o, none), value :: rest =>
        ((parse table inOrder rest).consGiven o.key (some value)).prepend given
    | operand =>
      if inOrder then { operands := operand :: rest }
      else (parse table inOrder rest).consOperand operand

/-- What is said of a fault. -/
def Fault.message : Fault → Octets
  | unknown letter => "invalid option -- '".toList ++ [letter, '\'']
  | unvalued letter => "option requires an argument -- '".toList ++ [letter, '\'']
  | unknownLong text => "unrecognized option '--".toList ++ text ++ ['\'']
  | ambiguous text names =>
    "option '--".toList ++ text ++ "' is ambiguous; possibilities:".toList ++
      (names.flatMap fun name => (" '--" ++ name ++ "'").toList)
  | overvalued name => ("option '--" ++ name ++ "' doesn't allow an argument").toList
  | unvaluedLong name => ("option '--" ++ name ++ "' requires an argument").toList

/-- An option was given. -/
def Parsed.has (p : Parsed) (key : String) : Bool := p.given.any fun g => g.key == key

/-- The value of an option, the last one given. -/
def Parsed.value? (p : Parsed) (key : String) : Option Octets :=
  (p.given.reverse.find? fun g => g.key == key).map Given.text

end Options

end PipeShell.Programs
