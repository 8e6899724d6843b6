/-!
# Blanks, pieces and words

White space is the Unicode property `White_Space`. Text is cut into pieces at separators; the words
of a text are its pieces between blanks that hold at least one character.

## Main definitions

* `isBlank c`: the character is white space
* `pieces sep xs`: the runs between separators, empty ones included
* `words text`: the non-empty runs between blanks
* `trim text`: the text without blanks at its two ends

## Main results

* `pieces_cons_sep`, `pieces_cons_other`: how one more element in front changes the pieces
* `length_pieces`: there is one more piece than there are separators
-/

namespace PipeShell.Text

/-- The Unicode property `White_Space`. -/
def isBlank (c : Char) : Bool :=
  let n := c.toNat
  (0x09 ≤ n && n ≤ 0x0D) || n == 0x20 || n == 0x85 || n == 0xA0 || n == 0x1680 ||
    (0x2000 ≤ n && n ≤ 0x200A) || n == 0x2028 || n == 0x2029 || n == 0x202F || n == 0x205F ||
    n == 0x3000

/-! ## Pieces between separators -/

section Pieces

variable {α : Type} (sep : α → Bool)

/-- Puts one more element in front of a text that is already cut into pieces. -/
def grow (x : α) : List (List α) → List (List α)
  | [] => [[x]]
  | piece :: rest => (x :: piece) :: rest

/-- The runs between separators, in order. Neighbouring separators have an empty run between them,
and so does a separator and the end of the text next to it. -/
def pieces (xs : List α) : List (List α) :=
  xs.foldr (fun x acc => if sep x then [] :: acc else grow x acc) [[]]

@[simp] theorem pieces_nil : pieces sep [] = [[]] := rfl

theorem pieces_cons (x : α) (xs : List α) :
    pieces sep (x :: xs) = if sep x then [] :: pieces sep xs else grow x (pieces sep xs) := rfl

theorem pieces_cons_sep {x : α} (h : sep x = true) (xs : List α) :
    pieces sep (x :: xs) = [] :: pieces sep xs := by
  simp [pieces_cons, h]

theorem pieces_cons_other {x : α} (h : sep x = false) (xs : List α) :
    pieces sep (x :: xs) = grow x (pieces sep xs) := by
  simp [pieces_cons, h]

@[simp] theorem length_grow (x : α) {ps : List (List α)} (h : ps ≠ []) :
    (grow x ps).length = ps.length := by
  cases ps with
  | nil => exact absurd rfl h
  | cons p rest => rfl

theorem pieces_ne_nil (xs : List α) : pieces sep xs ≠ [] := by
  cases xs with
  | nil => simp
  | cons x xs =>
    rw [pieces_cons]
    split
    · simp
    · cases pieces sep xs <;> simp [grow]

/-- There is one more piece than there are separators. -/
theorem length_pieces (xs : List α) : (pieces sep xs).length = xs.countP sep + 1 := by
  induction xs with
  | nil => rfl
  | cons x xs ih =>
    cases h : sep x with
    | true => simp [pieces_cons_sep sep h, ih, h]
    | false => simp [pieces_cons_other sep h, length_grow _ (pieces_ne_nil sep xs), ih, h]

/-- The pieces of a text, leaving out an empty piece at the very end: the reading in which a
separator ends a piece. -/
def terminated (xs : List α) : List (List α) :=
  match (pieces sep xs).getLast? with
  | some [] => (pieces sep xs).dropLast
  | _ => pieces sep xs

end Pieces

/-! ## Words -/

/-- The pieces of a string at one character. -/
def splitAt (c : Char) (text : String) : List String :=
  (pieces (· == c) text.toList).map String.ofList

/-- The non-empty runs between blanks. -/
def words (text : String) : List String :=
  ((pieces isBlank text.toList).filter (!·.isEmpty)).map String.ofList

/-- The text without the blanks at its two ends. -/
def trim (text : String) : String :=
  String.ofList ((text.toList.dropWhile isBlank).reverse.dropWhile isBlank).reverse

end PipeShell.Text
