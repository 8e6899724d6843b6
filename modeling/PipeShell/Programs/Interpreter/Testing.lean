import PipeShell.Programs.Interpreter.Arithmetic

/-!
# Conditions

What `test` finds of its arguments: texts, whole numbers and files are looked at and compared, and
conditions are joined. With three arguments of which the second is an operator the others are its
operands, whatever they look like.

## Main definitions

* `Testing.Operator`: the operators
* `Testing.evaluate`: whether the condition holds
-/

namespace PipeShell.Programs.Interpreter.Testing

open PipeShell.Machine
open PipeShell.Text (Octets)
open Act

/-- The operators, by what they stand between. -/
inductive Operator where
  | unary (letter : Char)
  | binary (name : String)
  | not_
  | and_
  | or_
  | opening
  | closing
  deriving DecidableEq

/-- The operator that a text is. -/
def operator? (cs : Octets) : Option Operator :=
  match cs with
  | ['!'] => some .not_
  | ['('] => some .opening
  | [')'] => some .closing
  | ['-', 'a'] => some .and_
  | ['-', 'o'] => some .or_
  | ['-', c] => if "rwxefdcbpugkstznhOGLS".toList.contains c then some (.unary c) else none
  | cs =>
    let name := String.ofList cs
    if ["=", "!=", "<", ">", "-eq", "-ne", "-gt", "-ge", "-lt", "-le", "-nt", "-ot", "-ef"].contains
      name then some (.binary name) else none

def isBinary (cs : Octets) : Bool :=
  match operator? cs with
  | some (.binary _) => true
  | _ => false

/-- What the first of some arguments is: nothing where there is none; an operator; or an operand. An
operator that has nothing to work on, or stands in front of another one, is an operand. -/
inductive Reading where
  | nothing
  | operand
  | operator (o : Operator)
  deriving DecidableEq

def reading (args : List Octets) : Reading :=
  match args with
  | [] => .nothing
  | first :: rest =>
    match operator? first with
    | none => .operand
    | some o =>
      let stands := match o, rest with
        | .unary _, [] => true
        | .unary _, [_] => false
        | .unary _, next :: _ => isBinary next
        | .opening, [] => true
        | _, _ => false
      if stands then .operand else .operator o

/-- A step of evaluating: the arguments from the present one on. -/
abbrev Condition := StateT (List Octets) Act

def failWith {α : Type} (text : Octets) : Condition α := StateT.lift (fault text)

/-- A whole number. -/
def number (cs : Octets) : Condition Int :=
  match Arithmetic.integer? false cs with
  | some n => pure n
  | none => failWith ("Illegal number: ".toList ++ cs)

/-- What can be learnt about a path. -/
def look (path : Octets) (follow : Bool) : Condition (Option Inspection) := do
  match ← StateT.lift (ask (Script.inspect (Octets.toString path) follow)) with
  | .ok found => return some found
  | .error _ => return none

/-- What is found of a single operand. -/
def unary (letter : Char) (cs : Octets) : Condition Bool := do
  let kindIs := fun (kind : Kind) => do return (← look cs true).any fun i => i.kind == kind
  match letter with
  | 'z' => return cs.isEmpty
  | 'n' => return !cs.isEmpty
  | 't' => do
    let _ ← number cs
    return false
  | 'h' | 'L' => return (← look cs false).any fun i => i.kind == .link
  | 'e' | 'O' | 'G' => return (← look cs true).isSome
  | 'r' => return (← look cs true).any fun i => i.allows .read
  | 'w' => return (← look cs true).any fun i => i.allows .write
  | 'x' => return (← look cs true).any fun i => i.allows .search
  | 'f' => kindIs .regular
  | 'd' => kindIs .directory
  | 'c' => kindIs .device
  | 'p' => kindIs .pipe
  | 's' => return (← look cs true).any fun i => 0 < i.size
  | _ => return false

/-- The order of texts, byte by byte. -/
def isLess : Octets → Octets → Bool
  | _, [] => false
  | [], _ => true
  | a :: as, b :: bs => if a = b then isLess as bs else a < b

/-- What is found of two operands. -/
def binary (name : String) (a b : Octets) : Condition Bool := do
  let numbers := fun (test : Int → Int → Bool) => do
    let m ← number a
    let n ← number b
    return test m n
  match name with
  | "=" => return a == b
  | "!=" => return a != b
  | "<" => return isLess a b
  | ">" => return isLess b a
  | "-eq" => numbers (· == ·)
  | "-ne" => numbers (· != ·)
  | "-gt" => numbers fun m n => n < m
  | "-ge" => numbers fun m n => n ≤ m
  | "-lt" => numbers fun m n => m < n
  | "-le" => numbers fun m n => m ≤ n
  | "-ef" => do
    match ← look a true, ← look b true with
    | some a, some b => return a.node.isSome && a.node == b.node
    | _, _ => return false
  | _ => return false

/-- Goes on by a number of arguments, and tells what comes then. -/
def move (count : Nat) : Condition Reading := do
  modify fun args => args.drop count
  return reading (← get)

/-- What comes after the present argument. -/
def ahead : Condition Reading := do return reading ((← get).drop 1)

mutual

/-- Conditions of which one must hold. -/
def anyOf : (fuel : Nat) → Reading → Condition Bool
  | 0, _ => pure false
  | fuel + 1, r => do
    let first ← allOf fuel r
    if (← ahead) == .operator .or_ then do
      let rest ← anyOf fuel (← move 2)
      return first || rest
    else return first
termination_by structural fuel => fuel

/-- Conditions that must all hold. -/
def allOf : (fuel : Nat) → Reading → Condition Bool
  | 0, _ => pure false
  | fuel + 1, r => do
    let first ← negation fuel r
    if (← ahead) == .operator .and_ then do
      let rest ← allOf fuel (← move 2)
      return first && rest
    else return first
termination_by structural fuel => fuel

/-- A condition that may be negated. -/
def negation : (fuel : Nat) → Reading → Condition Bool
  | 0, _ => pure false
  | fuel + 1, r => do
    if r == .operator .not_ then do
      let next ← ahead
      if next != .nothing then modify fun args => args.drop 1 else pure ()
      return !(← negation fuel next)
    else primary fuel r
termination_by structural fuel => fuel

/-- A condition by itself. -/
def primary : (fuel : Nat) → Reading → Condition Bool
  | 0, _ => pure false
  | fuel + 1, r => do
    match r with
    | .nothing => return false
    | .operator .opening => do
      let inner ← move 1
      if inner == .operator .closing then return false
      else do
        let result ← anyOf fuel inner
        if (← move 1) != .operator .closing then failWith "closing paren expected".toList
        else return result
    | .operator (.unary letter) => do
      let args ← get
      modify fun args => args.drop 1
      match args with
      | _ :: operand :: _ => unary letter operand
      | _ => failWith (['-', letter] ++ ": argument expected".toList)
    | _ =>
      match ← ahead with
      | .operator (.binary name) => operands name
      | _ => return ((← get).head?.getD []) != []
termination_by structural fuel => fuel

/-- An operator between two operands. -/
def operands (name : String) : Condition Bool := do
  let args ← get
  modify fun args => args.drop 2
  match args with
  | a :: _ :: b :: _ => binary name a b
  | _ => failWith (name.toList ++ ": argument expected".toList)

end

/-- Whether the condition holds. -/
def evaluate (args : List Octets) : Act Bool := do
  if args.isEmpty then return false
  else
    let start : List Octets × Reading := match args with
      | [a, o, b] =>
        if isBinary o then (args, .operand)
        else if a == ['('] && b == [')'] then ([o], reading [o])
        else (args, reading args)
      | [a, b, c, d] =>
        if a == ['('] && d == [')'] then ([b, c], reading [b, c]) else (args, reading args)
      | args => (args, reading args)
    let (result, rest) ← (anyOf (4 * args.length + 8) start.2).run start.1
    match rest with
    | here :: _ :: _ => fault (here ++ ": unexpected operator".toList)
    | _ => return result

end PipeShell.Programs.Interpreter.Testing
