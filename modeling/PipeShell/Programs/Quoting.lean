import PipeShell.Text.Octets

/-!
# Names in messages

What a program says of a name stays on one line and could be typed into a shell: a name of harmless
characters stands as it is, any other is quoted, and bytes that cannot be shown are written by their
values.

## Main definitions

* `Quoting.shell`: a name in quotes that a shell takes away
* `Quoting.shellIfNeeded`: a name, in quotes only where it needs them
* `Quoting.literal`: a text in quotes with escapes
-/

namespace PipeShell.Programs.Quoting

open PipeShell.Text (Octets)

/-- A byte that can be shown. -/
def isVisible (c : Char) : Bool := ' ' ≤ c && c ≤ '~'

/-- The three octal digits of a byte. -/
def octal (c : Char) : Octets :=
  let n := c.toNat
  [Char.ofNat (48 + n / 64), Char.ofNat (48 + n / 8 % 8), Char.ofNat (48 + n % 8)]

/-- The letter of the escape that a character has of its own. -/
def escapeLetter? (c : Char) : Option Char :=
  match c.toNat with
  | 7 => some 'a'
  | 8 => some 'b'
  | 9 => some 't'
  | 10 => some 'n'
  | 11 => some 'v'
  | 12 => some 'f'
  | 13 => some 'r'
  | _ => none

/-- What stands for a character behind a backslash, if it cannot stand for itself. -/
def escape? (c : Char) : Option Octets :=
  match escapeLetter? c with
  | some letter => some ['\\', letter]
  | none => if isVisible c then none else some ('\\' :: octal c)

/-- A text in quotes with escapes. -/
def literal (cs : Octets) : Octets :=
  '\'' :: cs.flatMap (fun c =>
    if c == '\'' || c == '\\' then ['\\', c] else (escape? c).getD [c]) ++ ['\'']

/-- A character that neither a shell nor double quotes change. -/
def isHarmless (c : Char) : Bool :=
  c.isAlphanum || " %+,-./:]_'@".toList.contains c

/-- The name inside single quotes; `escaped` tells that bytes written by their values have just been
quoted in the other way. -/
def shellInside : (escaped : Bool) → Octets → Octets
  | _, [] => []
  | escaped, c :: rest =>
    match escape? c with
    | some text => (if escaped then text else "'$'".toList ++ text) ++ shellInside true rest
    | none =>
      (if c == '\'' then "'\\''".toList
        else if escaped then ['\'', '\'', c] else [c]) ++ shellInside false rest

/-- A name in quotes that a shell takes away. A name with a quote in it and otherwise harmless is
put in double quotes. -/
def shell (cs : Octets) : Octets :=
  let compatible := cs.zipIdx.all fun (c, i) => isHarmless c || (i == 0 && (c == '#' || c == '~'))
  if cs.contains '\'' && compatible then '"' :: cs ++ ['"']
  else '\'' :: shellInside false cs ++ ['\'']

/-- A character that has to be quoted, given whether it is the first of the name and whether it is
the only one. -/
def isSpecial (first only : Bool) (c : Char) : Bool :=
  (!isVisible c) || " !\"$&()*;<=>?[\\^`|':".toList.contains c ||
    (first && (c == '#' || c == '~')) || (only && (c == '\x7b' || c == '\x7d'))

/-- A name, in quotes only where it needs them. -/
def shellIfNeeded (cs : Octets) : Octets :=
  let special := cs.zipIdx.any fun (c, i) => isSpecial (i == 0) (cs.length == 1) c
  if cs.isEmpty || special then shell cs else cs

end PipeShell.Programs.Quoting
