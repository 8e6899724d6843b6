import PipeShell.Text.Octets

/-!
# Floating-point numbers

A floating-point number is a whole number of some power of two, kept to the binary digits of a
format; what does not fit is rounded to the nearest, and halfway to the even one. Besides there are
two infinities, which stand for all that is too great, and what is no number.

## Main definitions

* `Floating`: the numbers
* `Floating.Format`: how many binary digits are kept, and between which powers of two
* `Floating.read?`: reads one
* `Floating.add`, `Floating.mul`, `Floating.lt`: arithmetic
* `Floating.fixed`, `Floating.scientific`, `Floating.general`: how numbers are written
-/

namespace PipeShell.Programs

open PipeShell.Text (Octets)

/-- A floating-point number: `significand * 2 ^ exponent` with a sign, or none. -/
inductive Floating where
  | finite (negative : Bool) (significand : Nat) (exponent : Int)
  | infinite (negative : Bool)
  | undefined
  deriving DecidableEq, Repr

namespace Floating

/-- A format: numbers have at most `bits` binary digits and are below `2 ^ top`, and all of them are
whole numbers of `2 ^ bottom`. -/
structure Format where
  bits : Nat
  top : Int
  bottom : Int

/-- The extended and the usual format. -/
def extended : Format := ⟨64, 16384, -16445⟩

def double : Format := ⟨53, 1024, -1074⟩

/-- A fraction, rounded to a whole number. -/
def roundRatio (n d : Nat) : Nat :=
  let q := n / d
  let r := n % d
  if 2 * r < d then q else if d < 2 * r then q + 1 else q + q % 2

/-- A number that has as many binary digits as the format keeps, unless it is too great. -/
def bounded (f : Format) (negative : Bool) (significand : Nat) (exponent : Int) : Floating :=
  if significand != 0 && f.top ≤ (significand.log2 : Int) + exponent then .infinite negative
  else .finite negative significand exponent

/-- `n / d * 2 ^ e`, kept to the digits of a format. -/
def ofRatio (f : Format) (negative : Bool) (n d : Nat) (e : Int) : Floating :=
  if n = 0 then .finite negative 0 0
  else
    let guess : Int := (n.log2 : Int) - (d.log2 : Int) - (f.bits : Int)
    let scaled := fun (shift : Int) =>
      if 0 ≤ shift then (n, d * Nat.pow 2 shift.toNat) else (n * Nat.pow 2 (-shift).toNat, d)
    let shift := if (scaled guess).1 / (scaled guess).2 < Nat.pow 2 f.bits then guess else guess + 1
    let shift := max shift (f.bottom - e)
    let (n, d) := scaled shift
    bounded f negative (roundRatio n d) (shift + e)

/-- Keeps a number to the digits of a format. -/
def round (f : Format) (negative : Bool) (significand : Nat) (exponent : Int) : Floating :=
  if significand < Nat.pow 2 f.bits && f.bottom ≤ exponent then
    bounded f negative significand exponent
  else ofRatio f negative significand 1 exponent

def ofNat (f : Format) (n : Nat) : Floating := round f false n 0

/-- The number as a whole number of `2 ^ e`, for an exponent `e` that is low enough. -/
def scaledTo (negative : Bool) (significand : Nat) (exponent e : Int) : Int :=
  let n : Int := significand * Nat.pow 2 (exponent - e).toNat
  if negative then -n else n

/-! ## Arithmetic -/

def isNegative : Floating → Bool
  | finite negative significand _ => negative && significand != 0
  | infinite negative => negative
  | undefined => false

def isZero : Floating → Bool
  | finite _ 0 _ => true
  | _ => false

def isFinite : Floating → Bool
  | finite .. => true
  | _ => false

/-- Where two numbers stand to each other; nothing where one is none. -/
def compare? : Floating → Floating → Option Ordering
  | undefined, _ | _, undefined => none
  | infinite a, infinite b => some (compare b a)
  | infinite a, _ => some (if a then .lt else .gt)
  | _, infinite b => some (if b then .gt else .lt)
  | finite na sa ea, finite nb sb eb =>
    let e := min ea eb
    some (compare (scaledTo na sa ea e) (scaledTo nb sb eb e))

def lt (a b : Floating) : Bool := compare? a b == some .lt

def add (f : Format) : Floating → Floating → Floating
  | undefined, _ | _, undefined => .undefined
  | infinite a, infinite b => if a = b then .infinite a else .undefined
  | infinite a, _ => .infinite a
  | _, infinite b => .infinite b
  | finite na sa ea, finite nb sb eb =>
    let e := min ea eb
    let sum := scaledTo na sa ea e + scaledTo nb sb eb e
    round f (if sum = 0 then na && nb else sum < 0) sum.natAbs e

def mul (f : Format) : Floating → Floating → Floating
  | undefined, _ | _, undefined => .undefined
  | finite na sa ea, finite nb sb eb => round f (na != nb) (sa * sb) (ea + eb)
  | a, b =>
    if a.isZero || b.isZero then .undefined
    else
      let sign := fun
        | finite n _ _ => n
        | infinite n => n
        | undefined => false
      .infinite (sign a != sign b)

/-! ## Reading -/

/-- The value of a digit, of any base up to 16. -/
def digit? (base : Nat) (c : Char) : Option Nat :=
  let n := if c.isDigit then some (c.toNat - 48)
    else if 'a' ≤ c ∧ c ≤ 'f' then some (c.toNat - 87)
    else if 'A' ≤ c ∧ c ≤ 'F' then some (c.toNat - 55)
    else none
  n.filter (· < base)

/-- The value of a row of digits, how many there are, and the rest. -/
def digits (base : Nat) : (value count : Nat) → Octets → Nat × Nat × Octets
  | value, count, [] => (value, count, [])
  | value, count, c :: rest =>
    match digit? base c with
    | some d => digits base (value * base + d) (count + 1) rest
    | none => (value, count, c :: rest)

/-- Reads an exponent behind one of two letters; without digits there is none. -/
def exponent (lower upper : Char) : Octets → Int × Octets
  | [] => (0, [])
  | c :: rest =>
    if c == lower || c == upper then
      let (negative, unsigned) := match rest with
        | '-' :: more => (true, more)
        | '+' :: more => (false, more)
        | more => (false, more)
      let (value, count, after) := digits 10 0 0 unsigned
      if count = 0 then (0, c :: rest) else (if negative then -(value : Int) else value, after)
    else (0, c :: rest)

/-- The rest behind a word in upper or lower case. -/
def word? (word : String) (cs : Octets) : Option Octets :=
  if (cs.take word.length).map Char.toLower == word.toList then some (cs.drop word.length) else none

/-- No exponent beyond this makes a difference. -/
def clampExponent (e : Int) : Int := max (-20000) (min 20000 e)

/-- Reads a number without a sign, and what follows it. -/
def readUnsigned? (f : Format) (negative : Bool) (cs : Octets) : Option (Floating × Octets) :=
  let mantissa := fun (base : Nat) (cs : Octets) =>
    let (whole, n, rest) := digits base 0 0 cs
    match rest with
    | '.' :: more =>
      let (value, m, after) := digits base whole 0 more
      if n + m = 0 then none else some (value, m, after)
    | rest => if n = 0 then none else some (whole, 0, rest)
  let decimal := (mantissa 10 cs).map fun (value, places, rest) =>
    let (e, rest) := exponent 'e' 'E' rest
    let e := clampExponent (e - places)
    (if 0 ≤ e then ofRatio f negative (value * Nat.pow 10 e.toNat) 1 0
      else ofRatio f negative value (Nat.pow 10 (-e).toNat) 0, rest)
  match cs with
  | '0' :: x :: more =>
    if x == 'x' || x == 'X' then
      match mantissa 16 more with
      | some (value, places, rest) =>
        let (e, rest) := exponent 'p' 'P' rest
        some (ofRatio f negative value 1 (clampExponent e - 4 * places), rest)
      | none => decimal
    else decimal
  | _ =>
    match word? "infinity" cs, word? "inf" cs, word? "nan" cs with
    | some rest, _, _ => some (.infinite negative, rest)
    | none, some rest, _ => some (.infinite negative, rest)
    | none, none, some rest => some (.undefined, rest)
    | none, none, none => decimal

/-- Reads a number with blanks and a sign in front, and tells what follows it. -/
def readPrefix? (f : Format) (cs : Octets) : Option (Floating × Octets) :=
  match cs.dropWhile fun c => c == ' ' || ('\t' ≤ c && c ≤ '\r') with
  | '-' :: rest => readUnsigned? f true rest
  | '+' :: rest => readUnsigned? f false rest
  | rest => readUnsigned? f false rest

/-- Reads a number that makes up the whole text. -/
def read? (f : Format) (cs : Octets) : Option Floating :=
  match readPrefix? f cs with
  | some (n, []) => some n
  | _ => none

/-! ## Writing -/

/-- A number of binary digits as a fraction. -/
def ratio (significand : Nat) (exponent : Int) : Nat × Nat :=
  if 0 ≤ exponent then (significand * Nat.pow 2 exponent.toNat, 1)
  else (significand, Nat.pow 2 (-exponent).toNat)

/-- Decimal digits with at least `width` of them. -/
def padded (width n : Nat) : Octets :=
  let ds := (Nat.repr n).toList
  List.replicate (width - ds.length) '0' ++ ds

/-- A number without its sign, with `places` digits behind the point. -/
def fixed (places : Nat) (point : Bool) (significand : Nat) (exponent : Int) : Octets :=
  let (n, d) := ratio significand exponent
  let ds := padded (places + 1) (roundRatio (n * Nat.pow 10 places) d)
  let whole := ds.take (ds.length - places)
  whole ++ (if places = 0 && !point then [] else '.' :: ds.drop (ds.length - places))

/-- The digits of a positive fraction, `count` of them, and the exponent of the first. -/
def leading (count n d : Nat) : Nat × Int :=
  let guess : Int := (((Nat.repr n).length : Int) - (Nat.repr d).length)
  let digitsAt := fun (e : Int) =>
    let places : Int := (count : Int) - 1 - e
    if 0 ≤ places then roundRatio (n * Nat.pow 10 places.toNat) d
    else roundRatio n (d * Nat.pow 10 (-places).toNat)
  let low := if n * (if guess < 0 then Nat.pow 10 (-guess).toNat else 1) <
      d * (if 0 ≤ guess then Nat.pow 10 guess.toNat else 1) then guess - 1 else guess
  if Nat.pow 10 count ≤ digitsAt low then (digitsAt (low + 1), low + 1) else (digitsAt low, low)

/-- A number without its sign as digits times a power of ten. -/
def scientific (letter : Char) (places : Nat) (point : Bool) (significand : Nat) (exponent : Int) :
    Octets :=
  let (n, d) := ratio significand exponent
  let (value, e) := if significand = 0 then (0, 0) else leading (places + 1) n d
  let ds := padded (places + 1) value
  ds.take 1 ++ (if places = 0 && !point then [] else '.' :: ds.drop 1) ++
    letter :: (if e < 0 then '-' else '+') :: padded 2 e.natAbs

/-- Without zeros at the end behind a point, and without a point at the end. -/
def stripZeros (cs : Octets) : Octets :=
  if cs.contains '.' then
    match cs.reverse.dropWhile (· == '0') with
    | '.' :: rest => rest.reverse
    | rest => rest.reverse
  else cs

/-- A number without its sign in the shorter of the two forms, with `digits` digits. -/
def general (letter : Char) (digits : Nat) (point : Bool) (significand : Nat) (exponent : Int) :
    Octets :=
  let digits := max 1 digits
  let (n, d) := ratio significand exponent
  let e := if significand = 0 then 0 else (leading digits n d).2
  if e < -4 || (digits : Int) ≤ e then
    let text := scientific letter (digits - 1) point significand exponent
    if point then text
    else
      let mantissa := text.takeWhile (· != letter)
      stripZeros mantissa ++ text.drop mantissa.length
  else
    let text := fixed ((digits : Int) - 1 - e).toNat point significand exponent
    if point then text else stripZeros text

/-- A number of the usual format without its sign, by its binary digits in groups of four: all that
are not zero, or as many groups behind the point as are asked for. -/
def hexadecimal (upper : Bool) (places : Option Nat) (point : Bool) (significand : Nat)
    (exponent : Int) : Octets :=
  let groups := 13
  let first : Int := if significand = 0 then 0 else max (-1022) (significand.log2 + exponent)
  let shift := exponent - (first - 52)
  let whole := if 0 ≤ shift then significand * Nat.pow 2 shift.toNat
    else roundRatio significand (Nat.pow 2 (-shift).toNat)
  let count := places.getD groups
  let value := if count < groups then roundRatio whole (Nat.pow 16 (groups - count))
    else whole * Nat.pow 16 (count - groups)
  let digits := (Nat.toDigits 16 value)
  let digits := List.replicate (count + 1 - digits.length) '0' ++ digits
  let behind := digits.drop 1
  let behind := if places.isSome then behind else (behind.reverse.dropWhile (· == '0')).reverse
  let text := '0' :: 'x' :: digits.take 1 ++
    (if behind.isEmpty && !point then [] else '.' :: behind) ++
    'p' :: (if first < 0 then '-' else '+') :: (Nat.repr first.natAbs).toList
  if upper then text.map Char.toUpper else text

end Floating

end PipeShell.Programs
