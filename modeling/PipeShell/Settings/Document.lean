/-!
# Settings documents

A document is a row of lines, each blank, a comment, or a key with its value. A key is bare or
quoted; a value is an integer in decimal, hexadecimal, octal or binary notation, a truth value, or a
text in single or double quotes, which may be tripled to let it run over several lines. Tables,
dotted keys, arrays, fractions and dates are not taken: no setting could have such a value, so a
document that contains one is refused as a whole anyway.

## Main definitions

* `Value`: what a key may stand for
* `Document`: keys with their values, in order
* `Document.ofText?`: reads a document
-/

namespace PipeShell.Settings

/-- What a key may stand for. -/
inductive Value where
  | integer (n : Int)
  | truth (b : Bool)
  | text (s : String)
  deriving DecidableEq, Repr

/-- Keys with their values, in the order in which they are written. -/
abbrev Document := List (String × Value)

namespace Document

/-! ## Characters -/

/-- A space or a tab. -/
def isGap (c : Char) : Bool := c == ' ' || c == '\t'

/-- A character that may stand in a comment or a text: any but the control characters, the tab
excepted. -/
def isPlain (c : Char) : Bool := c == '\t' || (' ' ≤ c && c != '\x7f')

/-- A character of a bare key. -/
def isKeyChar (c : Char) : Bool := c.isAlphanum || c == '_' || c == '-'

def skipGaps (cs : List Char) : List Char := cs.dropWhile isGap

/-- What follows a line break. -/
def lineBreak? : List Char → Option (List Char)
  | '\n' :: rest => some rest
  | '\r' :: '\n' :: rest => some rest
  | _ => none

theorem length_lineBreak? {cs rest : List Char} (h : lineBreak? cs = some rest) :
    rest.length < cs.length := by
  unfold lineBreak? at h
  split at h
  · cases h
    exact Nat.lt_succ_self _
  · cases h
    exact Nat.lt_add_of_pos_right Nat.two_pos
  · cases h

/-- What follows the end of a line, in front of which there may be blanks and a comment. -/
def lineEnd? (cs : List Char) : Option (List Char) :=
  let cs := skipGaps cs
  let cs := if cs.head? = some '#' then cs.dropWhile isPlain else cs
  if cs.isEmpty then some [] else lineBreak? cs

/-! ## Texts -/

/-- The value of a hexadecimal digit. -/
def hexDigit? (c : Char) : Option Nat :=
  if c.isDigit then some (c.toNat - '0'.toNat)
  else if 'a' ≤ c ∧ c ≤ 'f' then some (c.toNat - 'a'.toNat + 10)
  else if 'A' ≤ c ∧ c ≤ 'F' then some (c.toNat - 'A'.toNat + 10)
  else none

/-- The character whose code point has the first `count` characters as its hexadecimal digits, and
the rest. -/
def codePoint? (count : Nat) (cs : List Char) : Option (Char × List Char) :=
  if cs.length < count then none
  else
    match (cs.take count).mapM hexDigit? with
    | none => none
    | some digits =>
      let n := digits.foldl (fun n d => n * 16 + d) 0
      if n.isValidChar then some (Char.ofNat n, cs.drop count) else none

/-- The character that an escape stands for, and the rest. -/
def escape? : List Char → Option (Char × List Char)
  | 'b' :: rest => some ('\x08', rest)
  | 't' :: rest => some ('\t', rest)
  | 'n' :: rest => some ('\n', rest)
  | 'f' :: rest => some ('\x0c', rest)
  | 'r' :: rest => some ('\r', rest)
  | '"' :: rest => some ('"', rest)
  | '\\' :: rest => some ('\\', rest)
  | 'u' :: rest => codePoint? 4 rest
  | 'U' :: rest => codePoint? 8 rest
  | _ => none

theorem length_codePoint? {count : Nat} {cs rest : List Char} {c : Char}
    (h : codePoint? count cs = some (c, rest)) : rest.length ≤ cs.length := by
  unfold codePoint? at h
  split at h
  · simp at h
  · split at h
    · simp at h
    · simp only [Option.ite_none_right_eq_some, Option.some.injEq, Prod.mk.injEq] at h
      obtain ⟨_, _, rfl⟩ := h
      simp only [List.length_drop]
      omega

theorem length_escape? {cs rest : List Char} {c : Char} (h : escape? cs = some (c, rest)) :
    rest.length < cs.length := by
  unfold escape? at h
  split at h
  case h_8 | h_9 =>
    exact Nat.lt_succ_of_le (length_codePoint? h)
  case h_10 => simp at h
  all_goals
    simp only [Option.some.injEq, Prod.mk.injEq] at h
    simp [← h.2]

/-- Reads the rest of a text in double quotes onto its characters so far, the latest first. -/
def quotedOnto (sofar : List Char) : List Char → Option (String × List Char)
  | [] => none
  | '"' :: rest => some (String.ofList sofar.reverse, rest)
  | '\\' :: rest =>
    match _h : escape? rest with
    | some (c, rest) => quotedOnto (c :: sofar) rest
    | none => none
  | c :: rest => if isPlain c then quotedOnto (c :: sofar) rest else none
termination_by cs => cs.length
decreasing_by
  · have := length_escape? _h; simp only [List.length_cons]; omega
  · simp

/-- Reads the rest of a text in single quotes, which knows no escapes. -/
def rawOnto (sofar : List Char) : List Char → Option (String × List Char)
  | [] => none
  | '\'' :: rest => some (String.ofList sofar.reverse, rest)
  | c :: rest => if isPlain c then rawOnto (c :: sofar) rest else none

/-- Without the blanks and line breaks in front. -/
def skipBreaks : List Char → List Char
  | ' ' :: rest => skipBreaks rest
  | '\t' :: rest => skipBreaks rest
  | '\n' :: rest => skipBreaks rest
  | '\r' :: '\n' :: rest => skipBreaks rest
  | cs => cs

theorem length_skipBreaks_le (cs : List Char) : (skipBreaks cs).length ≤ cs.length := by
  fun_induction skipBreaks cs <;> simp_all <;> omega

/-- What follows a backslash that ends a line: the next character that is neither blank nor line
break. -/
def joinedLine? (cs : List Char) : Option (List Char) :=
  (lineBreak? (skipGaps cs)).map skipBreaks

theorem length_joinedLine? {cs rest : List Char} (h : joinedLine? cs = some rest) :
    rest.length < cs.length + 1 := by
  unfold joinedLine? at h
  obtain ⟨r, hr, rfl⟩ := Option.map_eq_some_iff.mp h
  have h1 := length_lineBreak? hr
  have h2 := length_skipBreaks_le r
  have h3 : (skipGaps cs).length ≤ cs.length := (List.dropWhile_sublist isGap).length_le
  omega

/-- The end of a text in tripled quotes, of which three have been read. One or two more in front of
what follows belong to the text. -/
def closing (quote : Char) (sofar : List Char) (rest : List Char) : String × List Char :=
  let extra := ((rest.take 2).takeWhile (· == quote)).length
  (String.ofList (List.replicate extra quote ++ sofar).reverse, rest.drop extra)

/-- Reads the rest of a text in tripled double quotes. -/
def longQuotedOnto (sofar : List Char) : List Char → Option (String × List Char)
  | [] => none
  | '"' :: '"' :: '"' :: rest => some (closing '"' sofar rest)
  | '\r' :: '\n' :: rest => longQuotedOnto ('\n' :: sofar) rest
  | '\n' :: rest => longQuotedOnto ('\n' :: sofar) rest
  | '\\' :: rest =>
    match _h : escape? rest with
    | some (c, rest) => longQuotedOnto (c :: sofar) rest
    | none =>
      match _h' : joinedLine? rest with
      | some rest => longQuotedOnto sofar rest
      | none => none
  | c :: rest => if isPlain c then longQuotedOnto (c :: sofar) rest else none
termination_by cs => cs.length
decreasing_by
  · simp only [List.length_cons]; omega
  · simp
  · have := length_escape? _h; simp only [List.length_cons]; omega
  · have := length_joinedLine? _h'; simp only [List.length_cons]; omega
  · simp

/-- Reads the rest of a text in tripled single quotes. -/
def longRawOnto (sofar : List Char) : List Char → Option (String × List Char)
  | [] => none
  | '\'' :: '\'' :: '\'' :: rest => some (closing '\'' sofar rest)
  | '\r' :: '\n' :: rest => longRawOnto ('\n' :: sofar) rest
  | '\n' :: rest => longRawOnto ('\n' :: sofar) rest
  | c :: rest => if isPlain c then longRawOnto (c :: sofar) rest else none

/-- A line break right behind tripled quotes does not belong to the text. -/
def withoutBreak (cs : List Char) : List Char := (lineBreak? cs).getD cs

/-- Reads a text. -/
def text? : List Char → Option (String × List Char)
  | '"' :: '"' :: '"' :: rest => longQuotedOnto [] (withoutBreak rest)
  | '\'' :: '\'' :: '\'' :: rest => longRawOnto [] (withoutBreak rest)
  | '"' :: rest => quotedOnto [] rest
  | '\'' :: rest => rawOnto [] rest
  | _ => none

/-! ## Integers -/

/-- The value of digits of a base, between which there may be single underscores. -/
def digitsOnto? (base : Nat) (value : Nat) : List Char → Option Nat
  | [] => some value
  | '_' :: c :: rest => do
    let d ← hexDigit? c
    if d < base then digitsOnto? base (value * base + d) rest else none
  | c :: rest => do
    let d ← hexDigit? c
    if d < base then digitsOnto? base (value * base + d) rest else none

/-- The value of a row of digits that begins and ends with one. -/
def digits? (base : Nat) : List Char → Option Nat
  | [] => none
  | '_' :: _ => none
  | cs => digitsOnto? base 0 cs

/-- The value of a decimal number without sign, which has no needless zero in front. -/
def decimal? : List Char → Option Nat
  | ['0'] => some 0
  | '0' :: _ => none
  | cs => digits? 10 cs

/-- The integer that fits into 64 bits with sign. -/
def fit? (n : Int) : Option Int :=
  if -9223372036854775808 ≤ n ∧ n ≤ 9223372036854775807 then some n else none

/-- The value of an integer's text. -/
def integer? (cs : List Char) : Option Int :=
  let value : Option Int :=
    match cs with
    | '0' :: 'x' :: ds => (digits? 16 ds).map Int.ofNat
    | '0' :: 'o' :: ds => (digits? 8 ds).map Int.ofNat
    | '0' :: 'b' :: ds => (digits? 2 ds).map Int.ofNat
    | '-' :: ds => (decimal? ds).map fun n => -(n : Int)
    | '+' :: ds => (decimal? ds).map Int.ofNat
    | ds => (decimal? ds).map Int.ofNat
  value.bind fit?

/-! ## Lines -/

/-- Reads a value. -/
def value? (cs : List Char) : Option (Value × List Char) :=
  if cs.head? = some '"' ∨ cs.head? = some '\'' then
    (text? cs).map fun (s, rest) => (.text s, rest)
  else
    let word := cs.takeWhile fun c => c.isAlphanum || c == '_' || c == '+' || c == '-'
    let rest := cs.dropWhile fun c => c.isAlphanum || c == '_' || c == '+' || c == '-'
    if word = "true".toList then some (.truth true, rest)
    else if word = "false".toList then some (.truth false, rest)
    else (integer? word).map fun n => (.integer n, rest)

/-- Reads a key. -/
def key? : List Char → Option (String × List Char)
  | '"' :: rest => quotedOnto [] rest
  | '\'' :: rest => rawOnto [] rest
  | cs =>
    let name := cs.takeWhile isKeyChar
    if name.isEmpty then none else some (String.ofList name, cs.dropWhile isKeyChar)

/-- Reads a key with its value, up to the value's end. -/
def entry? (cs : List Char) : Option ((String × Value) × List Char) :=
  match key? cs with
  | none => none
  | some (key, rest) =>
    match skipGaps rest with
    | '=' :: rest => (value? (skipGaps rest)).map fun (v, rest) => ((key, v), rest)
    | _ => none

/-- Reads lines onto the entries so far, the latest first. Every line takes up a character, so
`fuel` need not exceed the number of characters by more than one. -/
def linesOnto? (sofar : Document) : (fuel : Nat) → List Char → Option Document
  | 0, _ => none
  | fuel + 1, cs =>
    match skipGaps cs with
    | [] => some sofar.reverse
    | c :: rest =>
      if c = '#' ∨ c = '\n' ∨ c = '\r' then
        (lineEnd? (c :: rest)).bind (linesOnto? sofar fuel)
      else
        match entry? (c :: rest) with
        | none => none
        | some (entry, rest) => (lineEnd? rest).bind (linesOnto? (entry :: sofar) fuel)

/-- Reads a document. A byte order mark in front is passed over. -/
def ofText? (text : String) : Option Document :=
  let cs := text.toList
  let cs := if cs.head? = some '\ufeff' then cs.tail else cs
  linesOnto? [] (cs.length + 1) cs

end Document

end PipeShell.Settings
