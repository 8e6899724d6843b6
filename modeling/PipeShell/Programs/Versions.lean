import PipeShell.Text.Octets

/-!
# Names with version numbers

Names are compared so that numbers in them count by their values. Suffixes such as `.tar.gz` count
only where the rest does not decide.

## Main definitions

* `Versions.compare`: where two names stand to each other
-/

namespace PipeShell.Programs.Versions

open PipeShell.Text (Octets)

/-- The rank of a character that is no digit; the end of a name ranks above a tilde and below all
else, as a digit does but for one. -/
def rank : Option Char → Int
  | none => -1
  | some c =>
    if c.isDigit then 0
    else if c.isAlpha then c.toNat
    else if c == '~' then -2
    else c.toNat + 256

/-- Compares what stands in front of the next numbers: the order, and what follows. -/
def compareText : Octets → Octets → Ordering × Octets × Octets
  | [], [] => (.eq, [], [])
  | [], b :: bs =>
    if b.isDigit then (.eq, [], b :: bs) else (Ord.compare (rank none) (rank (some b)), [], [])
  | a :: as, [] =>
    if a.isDigit then (.eq, a :: as, []) else (Ord.compare (rank (some a)) (rank none), [], [])
  | a :: as, b :: bs =>
    if a.isDigit && b.isDigit then (.eq, a :: as, b :: bs)
    else if rank (some a) = rank (some b) then compareText as bs
    else (Ord.compare (rank (some a)) (rank (some b)), [], [])

/-- Compares parts by turns, texts and numbers. `fuel` is the number of characters. -/
def compareParts : (fuel : Nat) → Octets → Octets → Ordering
  | 0, _, _ => .eq
  | fuel + 1, a, b =>
    if a.isEmpty && b.isEmpty then .eq
    else
      let (order, a, b) := compareText a b
      if order != .eq then order
      else
        let digits := fun (cs : Octets) => cs.takeWhile Char.isDigit
        let value := fun (cs : Octets) => cs.foldl (fun n c => n * 10 + (c.toNat - 48)) 0
        let order := Ord.compare (value (digits a)) (value (digits b))
        if order != .eq then order
        else compareParts fuel (a.drop (digits a).length) (b.drop (digits b).length)

/-- A piece of a suffix behind its dot. -/
def isSuffixPiece : Octets → Bool
  | c :: rest => (c.isAlpha || c == '~') && rest.all fun c => c.isAlphanum || c == '~'
  | [] => false

/-- A name without its suffixes. What is left is never empty. -/
def withoutSuffix (name : Octets) : Octets :=
  let pieces := name.foldr (fun c (acc : List Octets) =>
    match acc with
    | piece :: rest => if c == '.' then [] :: piece :: rest else (c :: piece) :: rest
    | [] => if c == '.' then [[], []] else [[c]]) []
  match pieces with
  | [] => []
  | first :: rest =>
    let kept := (rest.reverse.dropWhile isSuffixPiece).reverse
    let text := ['.'].intercalate (first :: kept)
    if text.isEmpty then
      match rest with
      | piece :: _ => '.' :: piece
      | [] => []
    else text

/-- Names that begin with a dot come first, and of those the shortest two. -/
def dotRank (name : Octets) : Nat :=
  match name with
  | [] => 0
  | ['.'] => 1
  | ['.', '.'] => 2
  | '.' :: _ => 3
  | _ => 4

/-- Where two names stand to each other. -/
def compare (a b : Octets) : Ordering :=
  if dotRank a ≠ dotRank b then Ord.compare (dotRank a) (dotRank b)
  else
    let fuel := a.length + b.length + 1
    let (pa, pb) := (withoutSuffix a, withoutSuffix b)
    let order := compareParts fuel pa pb
    if order != .eq then order else compareParts fuel a b

end PipeShell.Programs.Versions
