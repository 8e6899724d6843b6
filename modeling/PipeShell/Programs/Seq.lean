import PipeShell.Programs.Calls
import PipeShell.Programs.Floating

/-!
# seq

Writes the numbers from one to another, a step apart. Numbers are written with as many places behind
the point as the first one and the step have. Whole numbers that are not negative are counted
exactly; all others with extended precision.

## Main definitions

* `Counting.Operand`: a number as it was given
* `Counting.Format`: how numbers are written
* `seq`: the program
-/

namespace PipeShell.Programs

open PipeShell.Machine
open PipeShell.Text (Octets)

namespace Counting

/-- A number as it was given: its value, its width and the places behind its point, where these can
be told. -/
structure Operand where
  value : Floating
  width : Int := 1
  places : Option Nat := some 0

/-- The number 1. -/
def one : Operand := { value := Floating.ofNat Floating.extended 1 }

/-- The exponent that a text gives. -/
def exponentOf (text : Octets) : Int :=
  let (negative, ds) := match text with
    | '-' :: ds => (true, ds)
    | '+' :: ds => (false, ds)
    | ds => (false, ds)
  let n := (Floating.digits 10 0 0 ds).1
  if negative then -(n : Int) else n

/-- Width and places of a number that is not written in base 16. -/
def shape (text : Octets) (places : Option Nat) : Int × Option Nat :=
  let whole := text.takeWhile (· != '.')
  let point := whole.length < text.length
  let fraction := (text.drop (whole.length + 1)).takeWhile fun c => c != 'e' && c != 'E'
  let width : Int := text.length
  let (width, places) :=
    if point then
      (width + (if fraction.isEmpty then -1
          else if whole.getLast?.any Char.isDigit then 0 else 1),
        some fraction.length)
    else (width, places)
  let mantissa := text.takeWhile (· != 'e')
  let mantissa := if mantissa.length < text.length then mantissa else text.takeWhile (· != 'E')
  if mantissa.length = text.length then (width, places)
  else
    let e := exponentOf (text.drop (mantissa.length + 1))
    let places := places.map fun p =>
      if e < 0 then p + e.natAbs else p - min p e.natAbs
    let width := width - (text.length - mantissa.length : Nat)
    let width := if e < 0 then
        (if point then (if fraction.isEmpty then width + 1 else width) else width + 1)
      else width
    (width + e.natAbs, places)

/-- Reads a number, or complains and leaves. -/
def operand (c : Call) (arg : Octets) : Script Operand :=
  match Floating.read? Floating.extended arg with
  | none => c.refuse 1 ("invalid floating point argument: ".toList ++ Quoting.literal arg)
  | some .undefined =>
    c.refuse 1 ("invalid 'not-a-number' argument: ".toList ++ Quoting.literal arg)
  | some value =>
    let text := arg.dropWhile fun c => c == ' ' || ('\t' ≤ c && c ≤ '\r') || c == '+'
    let places := if text.contains '.' || text.contains 'p' then none else some 0
    if !(text.contains 'x' || text.contains 'X') && value.isFinite then
      let (width, places) := shape text places
      pure { value, width, places }
    else pure { value, width := 0, places }

/-! ## How numbers are written -/

/-- A directive for numbers: its flags, least width, digits, and letter. -/
structure Directive where
  flags : List Char
  width : Nat
  places : Option Nat
  letter : Char

/-- A format: a directive between two texts. -/
structure Format where
  before : Octets := []
  directive : Directive
  after : Octets := []

/-- A number in the form of a directive. -/
def Directive.apply (d : Directive) (value : Floating) : Octets :=
  let upper := d.letter.isUpper
  let point := d.flags.contains '#'
  let negative := match value with
    | .finite negative .. => negative
    | .infinite negative => negative
    | .undefined => false
  let letter := if upper then 'E' else 'e'
  let body := match value with
    | .finite _ s e =>
      match d.letter.toLower with
      | 'f' => Floating.fixed (d.places.getD 6) point s e
      | 'e' => Floating.scientific letter (d.places.getD 6) point s e
      | _ => Floating.general letter (d.places.getD 6) point s e
    | .infinite _ => (if upper then "INF" else "inf").toList
    | .undefined => (if upper then "NAN" else "nan").toList
  let sign := if negative then ['-'] else if d.flags.contains '+' then ['+']
    else if d.flags.contains ' ' then [' '] else []
  let missing := d.width - (sign.length + body.length)
  if d.flags.contains '-' then sign ++ body ++ List.replicate missing ' '
  else if d.flags.contains '0' && value.isFinite then sign ++ List.replicate missing '0' ++ body
  else List.replicate missing ' ' ++ sign ++ body

def Format.apply (f : Format) (value : Floating) : Octets :=
  f.before ++ f.directive.apply value ++ f.after

/-- The text up to the first directive, and what follows its percent sign. -/
def beforeDirective (before : Octets) : Octets → Option (Octets × Octets)
  | [] => none
  | '%' :: '%' :: rest => beforeDirective ('%' :: before) rest
  | '%' :: rest => some (before.reverse, rest)
  | c :: rest => beforeDirective (c :: before) rest

/-- Reads a format, or complains and leaves. -/
def readFormat (c : Call) (text : Octets) : Script Format :=
  let complain := fun (problem : Octets) =>
    c.fail 1 ("format ".toList ++ Quoting.literal text ++ problem)
  match beforeDirective [] text with
  | none => complain " has no % directive".toList
  | some (before, rest) =>
    let flags := rest.takeWhile fun c => "-+#0 '".toList.contains c
    let rest := rest.drop flags.length
    let (width, _, rest) := Floating.digits 10 0 0 rest
    let (places, rest) := match rest with
      | '.' :: more =>
        let (n, _, more) := Floating.digits 10 0 0 more
        (some n, more)
      | rest => (none, rest)
    let rest := match rest with
      | 'L' :: more => more
      | rest => rest
    match rest with
    | [] => complain " ends in %".toList
    | letter :: rest =>
      if !"efgaEFGA".toList.contains letter then
        complain (" has unknown %".toList ++ [letter] ++ " directive".toList)
      else match beforeDirective [] rest with
        | some _ => complain " has too many % directives".toList
        | none =>
          let after := rest.foldr (fun c (acc : Octets) =>
            if c == '%' && acc.head? == some '%' then acc else c :: acc) []
          pure { before, directive := { flags, width, places, letter }, after }

/-- The format that follows from the operands. -/
def defaultFormat (sameWidth : Bool) (first step last : Operand) : Format :=
  match first.places, step.places, last.places with
  | some p1, some p2, some p3 =>
    let places := max p1 p2
    let firstWidth := first.width + (places - p1 : Nat) + if p1 = 0 && places ≠ 0 then 1 else 0
    let lastWidth := last.width + ((places : Int) - p3) +
      (if p3 ≠ 0 && places = 0 then -1 else if p3 = 0 && places ≠ 0 then 1 else 0)
    if sameWidth then
      { directive := ⟨['0'], (max firstWidth lastWidth).toNat, some places, 'f'⟩ }
    else { directive := ⟨[], 0, some places, 'f'⟩ }
  | _, _, _ => { directive := ⟨[], 0, none, 'g'⟩ }

/-! ## Counting -/

/-- How many numbers are written at once. -/
def blockSize : Nat := 1024

/-- Whole numbers from one on, at most `count` of them, each with a line feed or what else stands
between. -/
def wholeBlock (separator : Char) (step : Nat) (last : Option Nat) :
    (count n : Nat) → Octets → Octets × Option Nat
  | 0, n, done => (done, some n)
  | count + 1, n, done =>
    let done := ((Nat.repr n).toList.reverse) ++ done
    let next := n + step
    if last.any (· < next) then ('\n' :: done, none)
    else wholeBlock separator step last count next (separator :: done)

/-- Writes whole numbers; without a last one there is no end. -/
def countWhole (c : Call) (separator : Char) (first step : Nat) (last : Option Nat) : Script Nat :=
  if last.any (· < first) then pure 0
  else Script.iterate (fun n => do
    let (text, next) := wholeBlock separator step last blockSize n []
    c.emit 1 (Octets.toBytes text.reverse)
    match next with
    | some n => pure (.inl n)
    | none => pure (.inr 0)) first

/-- A sequence of numbers. -/
structure Plan where
  format : Format
  separator : Octets
  first : Floating
  step : Floating
  last : Floating

/-- A number is past the last one. -/
def Plan.isPast (p : Plan) (x : Floating) : Bool :=
  if p.step.isNegative then x.lt p.last else p.last.lt x

/-- The number `i` steps from the first. -/
def Plan.number (p : Plan) (i : Nat) : Floating :=
  Floating.add Floating.extended p.first
    (Floating.mul Floating.extended (Floating.ofNat Floating.extended i) p.step)

/-- A number past the last one that is written like the last one, and not like the one before it. -/
def Plan.looksLast (p : Plan) (before x : Floating) : Bool :=
  let text := p.format.directive.apply x
  Floating.read? Floating.extended text == some p.last ||
      (match Floating.read? Floating.extended text with
        | some y => Floating.compare? y p.last == some .eq
        | none => false) &&
    p.format.directive.apply before != text

/-- Numbers from number `i` on, at most `count` of them, in reverse. -/
def Plan.block (p : Plan) : (count i : Nat) → (x : Floating) → Octets →
    Octets × Option (Nat × Floating)
  | 0, i, x, done => (done, some (i, x))
  | count + 1, i, x, done =>
    let done := (p.format.apply x).reverse ++ done
    let next := p.number (i + 1)
    if p.isPast next then
      if p.looksLast x next then
        ('\n' :: (p.format.apply next).reverse ++ p.separator.reverse ++ done, none)
      else ('\n' :: done, none)
    else Plan.block p count (i + 1) next (p.separator.reverse ++ done)

/-- Writes a sequence. -/
def Plan.run (c : Call) (p : Plan) : Script Nat :=
  if p.isPast p.first then pure 0
  else Script.iterate (fun ((i, x) : Nat × Floating) => do
    let (text, next) := p.block blockSize i x []
    c.emit 1 (Octets.toBytes text.reverse)
    match next with
    | some state => pure (.inl state)
    | none => pure (.inr 0)) (0, p.first)

/-! ## Arguments -/

def table : List OptionSpec :=
  [Options.both 'f' "format" .value, Options.both 's' "separator" .value,
   Options.both 'w' "equal-width"]

/-- An argument that is a negative number rather than an option. -/
def isNegativeNumber : Octets → Bool
  | '-' :: c :: _ => c == '.' || c.isDigit
  | _ => false

/-- The arguments in front of the first negative number that is not the value of an option, and the
others. -/
def cut : List Octets → List Octets × List Octets
  | [] => ([], [])
  | arg :: rest =>
    if isNegativeNumber arg then ([], arg :: rest)
    else match arg with
      | ['-', 'f'] | ['-', 's'] =>
        match rest with
        | value :: rest =>
          let (front, back) := cut rest
          (arg :: value :: front, back)
        | [] => ([arg], [])
      | '-' :: _ :: _ =>
        if arg == "--".toList then ([arg], rest)
        else
          let (front, back) := cut rest
          (arg :: front, back)
      | _ => ([], arg :: rest)

def allDigits (text : Octets) : Bool := !text.isEmpty && text.all Char.isDigit

/-- The largest step for which whole numbers are counted exactly. -/
def exactStep : Nat := 200

/-- A whole number that is counted exactly. -/
def whole? (o : Operand) : Option (Option Nat) :=
  match o.places, o.value with
  | some 0, .finite negative s e =>
    if negative && s ≠ 0 then none
    else some (some (if 0 ≤ e then s * Nat.pow 2 e.toNat
      else Floating.roundRatio s (Nat.pow 2 (-e).toNat)))
  | some 0, .infinite false => some none
  | _, _ => none

end Counting

open Counting in
/-- Writes numbers. -/
def seq : Main := Call.program fun c => do
  let (front, back) := cut c.args
  let p := Options.parse table true front
  c.settle 1 p
  let numbers := p.operands ++ back
  let sameWidth := p.has "w"
  let separator := (p.value? "s").getD ['\n']
  match numbers with
  | [] => c.refuse 1 "missing operand".toList
  | _ :: _ :: _ :: extra :: _ => c.refuse 1 ("extra operand ".toList ++ Quoting.literal extra)
  | _ => do
    let format ← match p.value? "f" with
      | none => pure none
      | some text => do
        let f ← readFormat c text
        pure (some f)
    if format.isSome && sameWidth then
      c.refuse 1 "format string may not be specified when printing equal width strings".toList
    else
      let simple := !sameWidth && format.isNone && separator.length = 1
      let mark := separator.headD '\n'
      let value := fun (text : Octets) => (Floating.digits 10 0 0 text).1
      let stepArg := match numbers with
        | [_, step, _] => step
        | _ => ['1']
      if simple && numbers.all allDigits && 0 < value stepArg && value stepArg ≤ exactStep then
        let first := if numbers.length = 1 then 1 else value (numbers.headD [])
        countWhole c mark first (value stepArg) (some (value (numbers.getLastD [])))
      else do
        let (first, step, last) ← match numbers with
          | [last] => do
            let last ← operand c last
            pure (one, one, last)
          | [first, last] => do
            let first ← operand c first
            let last ← operand c last
            pure (first, one, last)
          | first :: step :: last :: _ => do
            let first ← operand c first
            let stepText := step
            let step ← operand c step
            if step.value.isZero then
              c.refuse 1 ("invalid Zero increment value: ".toList ++ Quoting.literal stepText)
            else pure ()
            let last ← operand c last
            pure (first, step, last)
          | [] => pure (one, one, one)
        match (if simple then some (whole? first, whole? step, whole? last) else none) with
        | some (some (some f), some (some s), some l) =>
          if 0 < s && s ≤ exactStep then countWhole c mark f s l
          else
            Plan.run c ⟨defaultFormat sameWidth first step last, separator, first.value, step.value,
              last.value⟩
        | _ =>
          Plan.run c ⟨format.getD (defaultFormat sameWidth first step last), separator, first.value,
            step.value, last.value⟩

end PipeShell.Programs
