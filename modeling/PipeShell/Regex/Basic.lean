/-!
# Regular expressions

A regular expression is matched by walking sets of spots: from a set of spots in a text to the spots
where a match that begins at one of them may end. Nothing is tried twice, and no alternative is
preferred to another. Groups that something refers back to are remembered with a spot, and tell
spots at the same place apart.

## Main definitions

* `CharSet`: a set of characters
* `Anchor`: a condition on the characters on either side of a spot
* `Regex`: a regular expression
* `Spot`, `Regex.reach`: spots, and where matches that begin at them may end
* `Regex.occursIn`: a match begins somewhere in a text
-/

namespace PipeShell

/-- A set of characters. -/
inductive CharSet where
  | none
  | range (low high : Char)
  | either (a b : CharSet)
  | both (a b : CharSet)
  | other (a : CharSet)
  deriving Repr, DecidableEq

namespace CharSet

def contains : CharSet → Char → Bool
  | none, _ => false
  | range low high, c => low ≤ c && c ≤ high
  | either a b, c => a.contains c || b.contains c
  | both a b, c => a.contains c && b.contains c
  | other a, c => !a.contains c

/-- One character. -/
def single (c : Char) : CharSet := range c c

/-- Every character. -/
def all : CharSet := other none

/-- The characters of some ranges. -/
def ofRanges (ranges : List (Char × Char)) : CharSet :=
  ranges.foldr (fun r set => either (range r.1 r.2) set) none

/-- The given characters. -/
def ofList (cs : List Char) : CharSet := cs.foldr (fun c set => either (single c) set) none

/-- What is in the one set and not in the other. -/
def minus (a b : CharSet) : CharSet := both a (other b)

/-- What is in exactly one of two sets. -/
def differing (a b : CharSet) : CharSet := either (minus a b) (minus b a)

/-- An upper case letter as lower case, and the other way round. -/
def swapCase (c : Char) : Char := if c.isUpper then c.toLower else c.toUpper

/-- The ranges with the letters of the other case, of letters without accents. -/
def withBothCases (a : CharSet) : CharSet :=
  either a (ofList (((List.range 26).flatMap fun i =>
    [Char.ofNat (65 + i), Char.ofNat (97 + i)]).filter fun c => a.contains (swapCase c)))

@[simp] theorem contains_all (c : Char) : all.contains c = true := rfl

@[simp] theorem contains_single (c d : Char) : (single c).contains d = decide (c = d) := by
  rw [Bool.eq_iff_iff]
  simp only [single, contains, Bool.and_eq_true, decide_eq_true_eq]
  exact ⟨fun h => Char.le_antisymm h.1 h.2, fun h => h ▸ ⟨Char.le_refl _, Char.le_refl _⟩⟩

end CharSet

/-- A condition on the characters on either side of a spot: the beginning or the end of the text or
of a line, where a line may also end in a carriage return; the edge of a word, or the place inside
one or between two; and what stands on one side only. -/
inductive Anchor where
  | textStart
  | textEnd
  | lineStart
  | lineEnd
  | returnStart
  | returnEnd
  | wordEdge
  | noWordEdge
  | wordStart
  | wordEnd
  | noWordBefore
  | noWordAfter
  deriving DecidableEq, Repr

namespace Anchor

/-- A character of a word. -/
def isWord (c : Char) : Bool := c.isAlphanum || c == '_'

/-- The condition holds between two characters, or at an end of the text. -/
def holds (a : Anchor) (before after : Option Char) : Bool :=
  let word := fun (c : Option Char) => c.any isWord
  match a with
  | textStart => before.isNone
  | textEnd => after.isNone
  | lineStart => before.all (· == '\n')
  | lineEnd => after.all (· == '\n')
  | returnStart => before.all fun c => c == '\n' || (c == '\r' && after != some '\n')
  | returnEnd => after.all fun c => c == '\r' || (c == '\n' && before != some '\r')
  | wordEdge => word before != word after
  | noWordEdge => word before == word after
  | wordStart => !word before && word after
  | wordEnd => word before && !word after
  | noWordBefore => !word before
  | noWordAfter => !word after

end Anchor

/-- A regular expression. A group with a number is remembered, and `again` stands for what the group
has matched, in either case of letters where that is wanted. -/
inductive Regex where
  | nothing
  | empty
  | one (set : CharSet)
  | anchor (a : Anchor)
  | sequence (a b : Regex)
  | choice (a b : Regex)
  | repeated (r : Regex) (least : Nat) (most : Option Nat)
  | group (number : Nat) (r : Regex)
  | again (number : Nat) (anyCase : Bool)
  deriving Repr

/-- A spot in a text: the character before it, what comes after it and how much that is, and what
the groups so far have matched. -/
structure Spot where
  before : Option Char
  after : List Char
  left : Nat
  groups : List (Nat × List Char)
  deriving DecidableEq

namespace Spot

/-- The beginning of a text. -/
def start (text : List Char) : Spot := ⟨none, text, text.length, []⟩

/-- The spot behind a character of the set. -/
def pass? (set : CharSet) (s : Spot) : Option Spot :=
  match s.after with
  | c :: cs =>
    if set.contains c then some ⟨some c, cs, s.left - 1, s.groups⟩ else none
  | [] => none

/-- All spots of a text, from a spot on. -/
def onwardsOf (before : Option Char) (left : Nat) : List Char → List Spot
  | [] => [⟨before, [], left, []⟩]
  | c :: cs => ⟨before, c :: cs, left, []⟩ :: onwardsOf (some c) (left - 1) cs

/-- All spots of a text, from a spot on. -/
def onwards (s : Spot) : List Spot := onwardsOf s.before s.left s.after

/-- The spot behind a given text. -/
def passText? (anyCase : Bool) : List Char → Spot → Option Spot
  | [], s => some s
  | c :: cs, s =>
    let same := if anyCase then CharSet.ofList [c, CharSet.swapCase c] else CharSet.single c
    match s.pass? same with
    | some s => passText? anyCase cs s
    | none => none

/-- Remembers what a group has matched, which began at `first`. -/
def remember (first : Spot) (number : Nat) (s : Spot) : Spot :=
  { s with groups := (number, first.after.take (first.left - s.left)) ::
      s.groups.filter fun g => g.1 != number }

/-! ### Sets of spots

A set is a list without repetitions in which spots nearer to the beginning stand first. -/

/-- The spot is the first of the list, or one of those at the same place behind it. -/
def isAmongFirst (s : Spot) : List Spot → Bool
  | [] => false
  | t :: ts => t.left == s.left && (t.groups == s.groups || s.isAmongFirst ts)

/-- What is in one of two sets. -/
def merge : List Spot → List Spot → List Spot
  | [], ts => ts
  | ss, [] => ss
  | s :: ss, t :: ts =>
    if t.left < s.left then s :: merge ss (t :: ts)
    else if t.isAmongFirst (s :: ss) then merge (s :: ss) ts
    else t :: merge (s :: ss) ts

/-- What is in the first set and not in the second. -/
def minus : List Spot → List Spot → List Spot
  | [], _ => []
  | ss, [] => ss
  | s :: ss, t :: ts =>
    if s.left < t.left then minus (s :: ss) ts
    else if s.isAmongFirst (t :: ts) then minus ss (t :: ts)
    else s :: minus ss (t :: ts)

/-- The set of the members of a list. -/
def setOf (spots : List Spot) : List Spot := spots.foldl (fun set s => merge set [s]) []

end Spot

namespace Regex

/-- Does a step a number of times. -/
def steps (step : List Spot → List Spot) : (times : Nat) → List Spot → List Spot
  | 0, spots => spots
  | times + 1, spots => if spots.isEmpty then [] else steps step times (step spots)

/-- The spots that up to a number of steps lead to; `fresh` are those from which no step has been
taken yet. -/
def spread (step : List Spot → List Spot) : (times : Nat) → (seen fresh : List Spot) → List Spot
  | 0, seen, _ => seen
  | times + 1, seen, fresh =>
    if fresh.isEmpty then seen
    else
      let new := Spot.minus (step fresh) seen
      spread step times (Spot.merge seen new) new

/-- More steps than are needed to find nothing new: of every two at least one leads on in the
text. -/
def stepLimit (spots : List Spot) : Nat :=
  2 * (spots.foldl (fun most s => max most s.left) 0 + 2)

/-- The spots where matches that begin at the given spots may end. -/
def reach : Regex → List Spot → List Spot
  | nothing, _ => []
  | empty, spots => spots
  | one set, spots => spots.filterMap (Spot.pass? set)
  | anchor a, spots => spots.filter fun s => a.holds s.before s.after.head?
  | sequence a b, spots => reach b (reach a spots)
  | choice a b, spots => Spot.merge (reach a spots) (reach b spots)
  | repeated r least most, spots =>
    let reached := steps (reach r) least spots
    let times := match most with
      | some most => most - least
      | none => stepLimit reached
    spread (reach r) times reached reached
  | group number r, spots =>
    spots.foldl (fun reached s => Spot.merge reached (Spot.setOf
      ((reach r [s]).map (s.remember number)))) []
  | again number anyCase, spots =>
    Spot.setOf (spots.filterMap fun s =>
      match s.groups.lookup number with
      | some text => s.passText? anyCase text
      | none => none)

/-- A match begins somewhere in the text. -/
def occursIn (r : Regex) (text : List Char) : Bool :=
  !(r.reach (Spot.start text).onwards).isEmpty

/-- A row of expressions. -/
def ofSequence (rs : List Regex) : Regex := rs.foldr sequence empty

/-- One of several expressions. -/
def ofChoices : List Regex → Regex
  | [] => nothing
  | [r] => r
  | r :: rs => choice r (ofChoices rs)

/-- One given character. -/
def single (c : Char) : Regex := one (.single c)

end Regex

end PipeShell
