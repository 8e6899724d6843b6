import PipeShell.Programs.Interpreter.Memory

/-!
# Arithmetic

Whole numbers of 64 bits with the operators, conditions and assignments of arithmetic expressions. A
name stands for the number that its variable holds, and for 0 if it holds nothing. What a condition
leaves out is read and not evaluated.

## Main definitions

* `wrapped`: a whole number within 64 bits
* `readNumber`: a number with its base
* `evaluate`: the value of an expression
-/

namespace PipeShell.Programs.Interpreter

open PipeShell.Text (Octets)

namespace Arithmetic

/-- The number within 64 bits that a whole number comes to when it overflows. -/
def wrapped (n : Int) : Int := Int.bmod n (Nat.pow 2 64)

/-- The nearest number within 64 bits. -/
def clamped (n : Int) : Int := max (-(Nat.pow 2 63)) (min n (Nat.pow 2 63 - 1))

/-- The value of a digit of any base. -/
def digitOf (c : Char) : Nat :=
  if c.isDigit then c.toNat - 48
  else if c.isLower then c.toNat - 87
  else if c.isUpper then c.toNat - 55
  else 99

/-- The value of digits. -/
def valueOf (base : Nat) (digits : Octets) : Nat :=
  digits.foldl (fun n c => n * base + digitOf c) 0

/-- The number that a text begins with, its base being told by what it begins with, and the rest. -/
def readNumber (cs : Octets) : Nat × Octets :=
  let of := fun (base : Nat) (cs : Octets) =>
    let digits := cs.takeWhile fun c => digitOf c < base
    (valueOf base digits, cs.drop digits.length)
  match cs with
  | '0' :: x :: d :: rest =>
    if (x == 'x' || x == 'X') && digitOf d < 16 then of 16 (d :: rest) else of 8 cs
  | '0' :: _ => of 8 cs
  | cs => of 10 cs

/-- The whole number that a text is, blanks around it aside; `base` is 10 where no other one is
possible. -/
def integer? (anyBase : Bool) (cs : Octets) : Option Int :=
  let isBlank := fun (c : Char) => c == ' ' || ('\t' ≤ c && c ≤ '\r')
  let body := cs.dropWhile isBlank
  let (negative, unsigned) := match body with
    | '-' :: rest => (true, rest)
    | '+' :: rest => (false, rest)
    | rest => (false, rest)
  if body.isEmpty then if anyBase then some 0 else none
  else if !unsigned.head?.any Char.isDigit then none
  else
    let (n, rest) := if anyBase then readNumber unsigned
      else
        let digits := unsigned.takeWhile Char.isDigit
        (valueOf 10 digits, unsigned.drop digits.length)
    if (rest.dropWhile isBlank).isEmpty then
      some (clamped (if negative then -(n : Int) else n))
    else none

/-- What expressions are made of. -/
inductive Sign where
  | number (n : Int)
  | name (cs : Octets)
  | operator (text : String)
  | bad
  deriving DecidableEq

/-- The operators, longer ones first. -/
def operators : List String :=
  ["<<=", ">>=", "==", "!=", "<=", ">=", "<<", ">>", "&&", "||", "*=", "/=", "%=", "+=", "-=", "&=",
   "^=", "|=", "=", "<", ">", "!", "~", "*", "/", "%", "+", "-", "&", "^", "|", "?", ":", "(", ")"]

/-- Cuts an expression into signs; at most `count` of them. -/
def signs : (count : Nat) → Octets → List Sign
  | 0, _ => []
  | count + 1, cs =>
    match cs.dropWhile fun c => c == ' ' || c == '\t' || c == '\n' with
    | [] => []
    | c :: rest =>
      let cs := c :: rest
      if c.isDigit then
        let (n, rest) := readNumber cs
        .number (clamped n) :: signs count rest
      else if isNameStart c then
        let name := cs.takeWhile isNameChar
        .name name :: signs count (cs.drop name.length)
      else match operators.find? fun o => o.toList.isPrefixOf cs with
        | some o => .operator o :: signs count (cs.drop o.length)
        | none => .bad :: signs count rest

/-- How loosely an operator between two values binds. -/
def looseness? (o : String) : Option Nat :=
  match o with
  | "*" | "/" | "%" => some 0
  | "+" | "-" => some 1
  | "<<" | ">>" => some 2
  | "<" | "<=" | ">" | ">=" => some 3
  | "==" | "!=" => some 4
  | "&" => some 5
  | "^" => some 6
  | "|" => some 7
  | _ => none

/-- The bits of a number as a natural number. -/
def bitsOf (n : Int) : Nat := (n % Nat.pow 2 64).toNat

/-- The number with the given bits. -/
def ofBits (n : Nat) : Int := wrapped n

/-- 1 for a condition that holds, and 0 otherwise. -/
def truth (b : Bool) : Int := if b then 1 else 0

/-- The value of an operator between two values; nothing if a number is to be divided by 0. -/
def outcome? (o : String) (a b : Int) : Option Int :=
  match o with
  | "*" => some (wrapped (a * b))
  | "/" => if b = 0 then none else some (wrapped (a.tdiv b))
  | "%" => if b = 0 then none else some (a.tmod b)
  | "+" => some (wrapped (a + b))
  | "-" => some (wrapped (a - b))
  | "<<" => some (ofBits (bitsOf a <<< (bitsOf b % 64)))
  | ">>" => some (a >>> (bitsOf b % 64))
  | "<" => some (truth (a < b))
  | "<=" => some (truth (a ≤ b))
  | ">" => some (truth (b < a))
  | ">=" => some (truth (b ≤ a))
  | "==" => some (truth (a = b))
  | "!=" => some (truth (a ≠ b))
  | "&" => some (ofBits (bitsOf a &&& bitsOf b))
  | "^" => some (ofBits (bitsOf a ^^^ bitsOf b))
  | "|" => some (ofBits (bitsOf a ||| bitsOf b))
  | _ => some b

/-- A step of evaluating: the signs that are left. -/
abbrev Evaluation := StateT (List Sign) Act

/-- Something is wrong with an expression. -/
def wrong {α : Type} (whole : Octets) (problem : String) : Evaluation α :=
  StateT.lift (Act.fault ("arithmetic expression: ".toList ++ problem.toList ++ ": \"".toList ++
    whole ++ ['"']))

/-- Takes the next sign. -/
def next : Evaluation (Option Sign) := do
  match ← get with
  | [] => return none
  | s :: rest =>
    set rest
    return some s

/-- The number that a variable holds. -/
def lookup (name : Octets) : Evaluation Int := do
  let m ← StateT.lift (get : Act Memory)
  match m.value? name with
  | none =>
    if m.isOn 'u' then StateT.lift (Act.fault (name ++ ": parameter not set".toList)) else return 0
  | some value =>
    match integer? true value with
    | some n => return n
    | none => StateT.lift (Act.fault ("Illegal number: ".toList ++ value))

/-- The text of a whole number. -/
def textOf (n : Int) : Octets := (toString n).toList

/-- The operator that an assignment combines with, if it is one. -/
def assigned? (o : String) : Option String :=
  match o with
  | "=" => some ""
  | "*=" => some "*"
  | "/=" => some "/"
  | "%=" => some "%"
  | "+=" => some "+"
  | "-=" => some "-"
  | "<<=" => some "<<"
  | ">>=" => some ">>"
  | "&=" => some "&"
  | "^=" => some "^"
  | "|=" => some "|"
  | _ => none

/-- Combines two values where they are evaluated. -/
def combine (whole : Octets) (skip : Bool) (o : String) (a b : Int) : Evaluation Int :=
  if skip then pure b
  else match outcome? o a b with
    | some n => pure n
    | none => wrong whole "division by zero"

mutual

/-- An assignment or a condition. -/
def assignment (whole : Octets) : (fuel : Nat) → (skip : Bool) → Evaluation Int
  | 0, _ => wrong whole "expecting primary"
  | fuel + 1, skip => do
    match ← get with
    | .name name :: .operator o :: rest =>
      match assigned? o with
      | some o => do
        set rest
        let b ← assignment whole fuel skip
        if skip then return b
        else do
          let a ← if o.isEmpty then pure 0 else lookup name
          let n ← combine whole skip o a b
          StateT.lift (setVariable name (textOf n) false)
          return n
      | none => condition whole fuel skip
    | _ => condition whole fuel skip
termination_by structural fuel => fuel

/-- A choice between two values. -/
def condition (whole : Octets) : (fuel : Nat) → (skip : Bool) → Evaluation Int
  | 0, _ => wrong whole "expecting primary"
  | fuel + 1, skip => do
    let a ← anyOf whole fuel skip
    match ← get with
    | .operator "?" :: rest => do
      set rest
      let b ← assignment whole fuel (skip || a == 0)
      if (← next) != some (.operator ":") then wrong whole "expecting ':'"
      else do
        let c ← condition whole fuel (skip || a != 0)
        return if a != 0 then b else c
    | _ => return a
termination_by structural fuel => fuel

/-- Values of which one must be true. -/
def anyOf (whole : Octets) : (fuel : Nat) → (skip : Bool) → Evaluation Int
  | 0, _ => wrong whole "expecting primary"
  | fuel + 1, skip => do
    let a ← allOf whole fuel skip
    match ← get with
    | .operator "||" :: rest => do
      set rest
      let b ← anyOf whole fuel (skip || a != 0)
      return truth (a != 0 || b != 0)
    | _ => return a
termination_by structural fuel => fuel

/-- Values that must all be true. -/
def allOf (whole : Octets) : (fuel : Nat) → (skip : Bool) → Evaluation Int
  | 0, _ => wrong whole "expecting primary"
  | fuel + 1, skip => do
    let a ← binary whole fuel skip 8
    match ← get with
    | .operator "&&" :: rest => do
      set rest
      let b ← allOf whole fuel (skip || a == 0)
      return truth (a != 0 && b != 0)
    | _ => return a
termination_by structural fuel => fuel

/-- Values with operators between them that bind more tightly than `bound`. -/
def binary (whole : Octets) : (fuel : Nat) → (skip : Bool) → (bound : Nat) → Evaluation Int
  | 0, _, _ => wrong whole "expecting primary"
  | fuel + 1, skip, bound => do
    let a ← primary whole fuel skip
    binaryFrom whole fuel skip bound a
termination_by structural fuel => fuel

/-- The operators behind a value. -/
def binaryFrom (whole : Octets) : (fuel : Nat) → (skip : Bool) → (bound : Nat) → Int →
    Evaluation Int
  | 0, _, _, a => pure a
  | fuel + 1, skip, bound, a => do
    match ← get with
    | .operator o :: rest =>
      match looseness? o with
      | some loose =>
        if loose < bound then do
          set rest
          let b ← binary whole fuel skip loose
          binaryFrom whole fuel skip bound (← combine whole skip o a b)
        else return a
      | none => return a
    | _ => return a
termination_by structural fuel => fuel

/-- A value by itself. -/
def primary (whole : Octets) : (fuel : Nat) → (skip : Bool) → Evaluation Int
  | 0, _ => wrong whole "expecting primary"
  | fuel + 1, skip => do
    match ← next with
    | some (.number n) => return n
    | some (.name name) => if skip then return 0 else lookup name
    | some (.operator "(") => do
      let n ← assignment whole fuel skip
      if (← next) != some (.operator ")") then wrong whole "expecting ')'" else return n
    | some (.operator "+") => primary whole fuel skip
    | some (.operator "-") => return wrapped (-(← primary whole fuel skip))
    | some (.operator "!") => return truth ((← primary whole fuel skip) == 0)
    | some (.operator "~") => return -1 - (← primary whole fuel skip)
    | _ => wrong whole "expecting primary"
termination_by structural fuel => fuel

end

/-- The value of an expression. -/
def evaluate (text : Octets) : Act Int := do
  let parts := signs text.length text
  let (n, rest) ← (assignment text (10 * parts.length + 20) false).run parts
  if rest.isEmpty then return n
  else Act.fault ("arithmetic expression: expecting EOF: \"".toList ++ text ++ ['"'])

end Arithmetic

end PipeShell.Programs.Interpreter
