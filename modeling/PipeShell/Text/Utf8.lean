/-!
# Bytes and text

Text is stored as UTF-8. Reading bytes as text never fails: each maximal run of bytes that begins
like a character and is not one is read as one replacement character.

## Main definitions

* `encode text`: the bytes of a text
* `decode bytes`: the text of any bytes, with replacement characters
* `decode? bytes`: the text of bytes that are valid throughout
-/

namespace PipeShell

/-- A run of bytes. -/
abbrev Bytes := List UInt8

namespace Text.Utf8

/-- The bytes of a text. -/
def encode (text : String) : Bytes := text.toUTF8.toList

/-- U+FFFD, which stands for bytes that are no character. -/
def replacement : Char := '\ufffd'

/-- What a first byte announces: how many bytes follow it, which values the first of them may have,
and the bits of the code point that the first byte itself carries. -/
structure Lead where
  tails : Nat
  low : UInt8
  high : UInt8
  bits : Nat

/-- The first bytes of characters of two, three and four bytes. The bounds on the second byte keep
out overlong forms, surrogates and code points past U+10FFFF. -/
def lead? (b : UInt8) : Option Lead :=
  let n := b.toNat
  if 0xC2 ≤ n ∧ n ≤ 0xDF then some ⟨1, 0x80, 0xBF, n - 0xC0⟩
  else if n = 0xE0 then some ⟨2, 0xA0, 0xBF, 0⟩
  else if n = 0xED then some ⟨2, 0x80, 0x9F, 0xD⟩
  else if 0xE1 ≤ n ∧ n ≤ 0xEF then some ⟨2, 0x80, 0xBF, n - 0xE0⟩
  else if n = 0xF0 then some ⟨3, 0x90, 0xBF, 0⟩
  else if n = 0xF4 then some ⟨3, 0x80, 0x8F, 4⟩
  else if 0xF1 ≤ n ∧ n ≤ 0xF3 then some ⟨3, 0x80, 0xBF, n - 0xF0⟩
  else none

/-- Reads up to `tails` continuation bytes, of which the next must lie between `low` and `high`:
the code point and the rest after a whole character, or the rest at the byte that broke it. -/
def takeTails (bits : Nat) : (tails : Nat) → (low high : UInt8) → Bytes → Option Nat × Bytes
  | 0, _, _, rest => (some bits, rest)
  | _ + 1, _, _, [] => (none, [])
  | tails + 1, low, high, b :: rest =>
    if low ≤ b ∧ b ≤ high then
      takeTails (bits * 64 + (b.toNat - 0x80)) tails 0x80 0xBF rest
    else (none, b :: rest)

theorem length_takeTails_le (bits tails : Nat) (low high : UInt8) (bytes : Bytes) :
    (takeTails bits tails low high bytes).2.length ≤ bytes.length := by
  induction tails generalizing bits low high bytes with
  | zero => simp [takeTails]
  | succ tails ih =>
    cases bytes with
    | nil => simp [takeTails]
    | cons b rest =>
      simp only [takeTails]
      split
      · exact Nat.le_succ_of_le (ih ..)
      · simp

/-- The first character of some bytes, or nothing where they begin with none, and the rest. -/
def next (b : UInt8) (rest : Bytes) : Option Char × Bytes :=
  if b < 0x80 then (some (Char.ofNat b.toNat), rest)
  else match lead? b with
    | none => (none, rest)
    | some l =>
      let (point, rest) := takeTails l.bits l.tails l.low l.high rest
      (point.map Char.ofNat, rest)

theorem length_next_le (b : UInt8) (rest : Bytes) : (next b rest).2.length ≤ rest.length := by
  unfold next
  split
  · simp
  · split
    · simp
    · exact length_takeTails_le ..

/-- Decodes onto the characters read so far, the latest first. -/
def decodeOnto (sofar : List Char) : Bytes → List Char
  | [] => sofar
  | b :: rest =>
    decodeOnto ((next b rest).1.getD replacement :: sofar) (next b rest).2
termination_by bytes => bytes.length
decreasing_by exact Nat.lt_succ_of_le (length_next_le b rest)

/-- The text of any bytes. -/
def decode (bytes : Bytes) : String := String.ofList (decodeOnto [] bytes).reverse

/-- The bytes are those of a text. -/
def isValid : Bytes → Bool
  | [] => true
  | b :: rest => (next b rest).1.isSome && isValid (next b rest).2
termination_by bytes => bytes.length
decreasing_by exact Nat.lt_succ_of_le (length_next_le b rest)

/-- The text of bytes that are valid throughout. -/
def decode? (bytes : Bytes) : Option String :=
  if isValid bytes then some (decode bytes) else none

end Text.Utf8

end PipeShell
