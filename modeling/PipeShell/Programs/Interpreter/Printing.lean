import PipeShell.Programs.Echo
import PipeShell.Programs.Floating
import PipeShell.Programs.Interpreter.Arithmetic

/-!
# Texts with escapes and formats

A text with escapes may end all output. A format is used again as long as there are arguments left,
and an argument that is missing counts as empty.

## Main definitions

* `Printing.unescape`: a text with its escapes resolved
* `Printing.echo`, `Printing.printf`: what is written for arguments
-/

namespace PipeShell.Programs.Interpreter.Printing

open PipeShell.Text (Octets)
open Act

/-! ## Escapes -/

/-- What a backslash in front of a text stands for, and the rest; a backslash in front of anything
unknown stands for itself. -/
def escape (cs : Octets) : Char × Octets :=
  match cs with
  | [] => ('\\', [])
  | c :: rest =>
    if '0' ≤ c && c ≤ '7' then
      let (n, rest) := Escapes.digits 8 3 0 (c :: rest)
      (Escapes.charOf n, rest)
    else match Escapes.letter? c with
      | some meant => (meant, rest)
      | none => ('\\', c :: rest)

theorem length_escape_le (cs : Octets) : (escape cs).2.length ≤ cs.length := by
  unfold escape
  split
  · simp
  · split
    · exact Escapes.length_digits_le 8 3 0 _
    · split <;> simp

/-- What is read behind a zero: more digits, or the zero itself if none follow. -/
def behindZero (d : Char) (rest : Octets) : Octets :=
  if '0' ≤ d ∧ d ≤ '7' then d :: rest else '0' :: d :: rest

theorem length_behindZero_le (d : Char) (rest : Octets) :
    (behindZero d rest).length ≤ rest.length + 2 := by
  unfold behindZero
  split <;> simp

/-- A text with its escapes resolved, onto what stands before it in reverse, and whether one of the
escapes ends all output. A zero may stand in front of the digits of an escape. -/
def unescapeOnto (before : Octets) : Octets → Octets × Bool
  | [] => (before.reverse, false)
  | '\\' :: 'c' :: _ => (before.reverse, true)
  | '\\' :: '0' :: d :: rest =>
    let read := escape (behindZero d rest)
    unescapeOnto (read.1 :: before) read.2
  | '\\' :: rest =>
    let read := escape rest
    unescapeOnto (read.1 :: before) read.2
  | c :: rest => unescapeOnto (c :: before) rest
termination_by cs => cs.length
decreasing_by
  all_goals simp only [List.length_cons]
  · have read := length_escape_le (behindZero d rest)
    have := length_behindZero_le d rest
    omega
  · have := length_escape_le rest
    omega
  · omega

/-- A text with its escapes resolved, and whether one of them ends all output. -/
def unescape (text : Octets) : Octets × Bool := unescapeOnto [] text

/-- A format with its escapes resolved, onto what stands before it in reverse. -/
def unescapeFormat (before : Octets) : Octets → Octets
  | [] => before.reverse
  | '\\' :: rest =>
    let read := escape rest
    unescapeFormat (read.1 :: before) read.2
  | c :: rest => unescapeFormat (c :: before) rest
termination_by cs => cs.length
decreasing_by
  all_goals simp only [List.length_cons]
  · have := length_escape_le rest
    omega
  · omega

/-- What is written for words with blanks between them. -/
def echo (args : List Octets) : Octets :=
  let (newline, words) := match args with
    | ['-', 'n'] :: words => ([], words)
    | words => (['\n'], words)
  let (text, stops) := words.zipIdx.foldl (fun ((text : Octets), stops) (word, i) =>
    if stops then (text, stops)
    else
      let (word, stops) := unescape word
      (text ++ (if i = 0 then [] else [' ']) ++ word, stops)) (([] : Octets), false)
  if stops then text else text ++ newline

/-! ## Formats -/

/-- How a value is written: the signs in front, the least width, and the places behind the point. -/
structure Shape where
  flags : Octets := []
  width : Nat := 0
  places : Option Nat := none

def Shape.has (s : Shape) (c : Char) : Bool := s.flags.contains c

/-- A text made as wide as it has to be; `digits` tells that zeros may stand in front, behind a
sign. -/
def Shape.fill (s : Shape) (digits : Bool) (sign body : Octets) : Octets :=
  let missing := s.width - (sign.length + body.length)
  if s.has '-' then sign ++ body ++ List.replicate missing ' '
  else if s.has '0' && digits then sign ++ List.replicate missing '0' ++ body
  else List.replicate missing ' ' ++ sign ++ body

/-- The sign of a number that may have one. -/
def Shape.sign (s : Shape) (negative : Bool) : Octets :=
  if negative then ['-'] else if s.has '+' then ['+'] else if s.has ' ' then [' '] else []

/-- A whole number with as many digits as are asked for. -/
def Shape.whole (s : Shape) (sign body : Octets) : Octets :=
  match s.places with
  | none => s.fill true sign body
  | some places =>
    let body := if places = 0 && body == ['0'] then [] else body
    ({ s with flags := s.flags.filter (· != '0') } : Shape).fill false sign
      (List.replicate (places - body.length) '0' ++ body)

/-- What writing with a format has come to: the arguments that are left, whether one of them was no
number, and what has been written, the latest first. -/
structure Progress where
  args : List Octets
  failed : Bool := false
  written : List Octets := []

/-- Why writing with a format ends early: an escape asks for it, or the format is malformed. -/
inductive Ending where
  | asked
  | malformed

/-- A step of writing with a format. -/
abbrev Formatting := ExceptT Ending (StateT Progress Act)

/-- Does something that has nothing to do with the format. -/
def perform {α : Type} (act : Act α) : Formatting α := ExceptT.lift (StateT.lift act)

/-- Writes a text. -/
def put (text : Octets) : Formatting Unit :=
  modify fun p => { p with written := text :: p.written }

/-- The format is malformed. -/
def malformed {α : Type} (problem : Octets) : Formatting α := do
  perform (warn problem)
  throw .malformed

/-- The next argument. -/
def nextText : Formatting Octets := do
  match (← get).args with
  | [] => return []
  | text :: args =>
    modify fun p => { p with args }
    return text

/-- Says that an argument is no number. -/
def complain (text : Octets) (problem : String) : Formatting Unit := do
  perform (warn (text ++ ": ".toList ++ problem.toList))
  modify fun p => { p with failed := true }

/-- Complains unless a number took up all of a text and was not too great. -/
def checkRest (text rest : Octets) (fits : Bool) : Formatting Unit :=
  if rest.isEmpty then
    if fits then pure () else complain text "Numerical result out of range"
  else if rest.length == text.length then complain text "expected numeric value"
  else complain text "not completely converted"

/-- The character behind a quote at the beginning of a text, as a number. -/
def quotedChar? (text : Octets) : Option Nat :=
  match text with
  | '"' :: rest | '\'' :: rest => some ((rest.head?.map Char.toNat).getD 0)
  | _ => none

/-- The next argument as a whole number, of those with a sign or of those without. -/
def nextWhole (signed : Bool) : Formatting Int := do
  let text ← nextText
  match quotedChar? text with
  | some n => return n
  | none => do
    let body := text.dropWhile fun c => c == ' ' || ('\t' ≤ c && c ≤ '\r')
    let (negative, unsigned) := match body with
      | '-' :: rest => (true, rest)
      | '+' :: rest => (false, rest)
      | rest => (false, rest)
    if !unsigned.head?.any Char.isDigit then do
      checkRest text text true
      return 0
    else do
      let (n, rest) := Arithmetic.readNumber unsigned
      let value : Int := if negative then -(n : Int) else n
      let fits := if signed then Arithmetic.clamped value == value else n < Nat.pow 2 64
      checkRest text rest fits
      return if signed then Arithmetic.clamped value else if fits then value else -1

/-- The next argument as a floating-point number. -/
def nextFloating : Formatting Floating := do
  let text ← nextText
  match quotedChar? text with
  | some n => return Floating.ofNat Floating.double n
  | none =>
    match Floating.readPrefix? Floating.double text with
    | some (x, rest) => do
      let number := text.take (text.length - rest.length)
      let said := number.any fun c => c == 'n' || c == 'N'
      let nothing := (number.takeWhile fun c => c != 'e' && c != 'E' && c != 'p' && c != 'P').all
        fun c => !('1' ≤ c && c ≤ '9')
      checkRest text rest (said || (x.isFinite && (nothing || !x.isZero)))
      return x
    | none => do
      checkRest text text true
      return Floating.ofNat Floating.double 0

/-- A floating-point number as text. -/
def Shape.floating (s : Shape) (letter : Char) (x : Floating) : Octets :=
  let upper := letter.isUpper
  let word := fun (text : String) => (if upper then text.map Char.toUpper else text).toList
  match x with
  | .undefined => s.fill false [] (word "nan")
  | .infinite negative => s.fill false (s.sign negative) (word "inf")
  | .finite negative m e =>
    let point := s.has '#'
    let places := s.places.getD 6
    let body := match letter.toLower with
      | 'a' => Floating.hexadecimal upper s.places point m e
      | 'f' => Floating.fixed places point m e
      | 'e' => Floating.scientific letter places point m e
      | _ => Floating.general (if upper then 'E' else 'e') (max 1 places) point m e
    s.fill true (s.sign negative) body

/-- The digits of a number in a base. -/
def digitsOf (base n : Nat) : Octets := Nat.toDigits base n

/-- A number in a format, a star standing for the next argument. -/
def readCount (cs : Octets) : Formatting (Option Int × Octets) := do
  match cs with
  | '*' :: rest => return (some (← nextWhole true), rest)
  | cs =>
    let digits := cs.takeWhile Char.isDigit
    return (if digits.isEmpty then none else some (Arithmetic.valueOf 10 digits),
      cs.drop digits.length)

/-- Writes what a directive stands for. -/
def directive (whole : Octets) (shape : Shape) (letter : Char) : Formatting Unit := do
  let cut := fun (text : Octets) => match shape.places with
    | some n => text.take n
    | none => text
  let unsigned := fun (base : Nat) (lead : Octets) (upper : Bool) => do
    let n ← nextWhole false
    let digits := digitsOf base (Arithmetic.bitsOf n)
    let digits := if upper then digits.map Char.toUpper else digits
    put (shape.whole (if shape.has '#' && n != 0 then lead else []) digits)
  match letter with
  | 'b' => do
    let (text, stops) := unescape (← nextText)
    put (shape.fill false [] (cut text))
    if stops then throw .asked else pure ()
  | 'c' => do put (shape.fill false [] [(← nextText).headD '\x00'])
  | 's' => do put (shape.fill false [] (cut (← nextText)))
  | 'd' | 'i' => do
    let n ← nextWhole true
    put (shape.whole (shape.sign (n < 0)) (Nat.repr n.natAbs).toList)
  | 'o' => unsigned 8 ['0'] false
  | 'u' => unsigned 10 [] false
  | 'x' => unsigned 16 ['0', 'x'] false
  | 'X' => unsigned 16 ['0', 'X'] true
  | 'a' | 'A' | 'e' | 'E' | 'f' | 'F' | 'g' | 'G' => do put (shape.floating letter (← nextFloating))
  | _ => malformed (whole ++ ": invalid directive".toList)

/-- Writes what a format stands for once; at most `count` steps. -/
def formatOnce : (count : Nat) → Octets → Formatting Unit
  | 0, _ => pure ()
  | count + 1, cs =>
    match cs with
    | [] => pure ()
    | '%' :: '%' :: rest => do
      put ['%']
      formatOnce count rest
    | '%' :: rest => do
      let flags := rest.takeWhile fun c => "#-+ 0".toList.contains c
      let (width, rest) ← readCount (rest.drop flags.length)
      let (places, rest) ← match rest with
        | '.' :: rest => do
          let (n, rest) ← readCount rest
          pure (some (n.getD 0), rest)
        | rest => pure (none, rest)
      let flags := if width.any (· < 0) then '-' :: flags else flags
      let shape : Shape := ⟨flags, (width.getD 0).natAbs,
        places.bind fun n => if n < 0 then none else some n.toNat⟩
      match rest with
      | [] => malformed "missing format character".toList
      | letter :: rest => do
        directive (cs.take (cs.length - rest.length)) shape letter
        formatOnce count rest
    | c :: rest => do
      put [c]
      formatOnce count rest

/-- Writes what a format and its arguments stand for: it is used again as long as it uses up
arguments; at most `count` times. -/
def formatAll (format : Octets) : (count : Nat) → Formatting Unit
  | 0 => pure ()
  | count + 1 => do
    let before := (← get).args.length
    formatOnce (format.length + 1) format
    let after := (← get).args.length
    if after == 0 || after == before then pure () else formatAll format count

/-- Writes what a format and its arguments stand for, and tells how that ends. -/
def printf (args : List Octets) : Act Nat := do
  match args with
  | [] => fault "usage: printf format [arg ...]".toList
  | format :: args => do
    let format := unescapeFormat [] format
    let (ending, p) ← (formatAll format (args.length + 1)).run.run { args }
    say p.written.reverse.flatten
    match ending with
    | .error .malformed => do
      modify fun m => { m with status := 2 }
      throw .error
    | _ => return if p.failed then 1 else 0

end PipeShell.Programs.Interpreter.Printing
