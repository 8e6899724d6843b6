import PipeShell.Proofs.Reading.Runs

/-!
# How lines end

A line may end in a line feed, or in a carriage return and a line feed. The carriage return is no
part of the line that is given, but it is counted: the limit is held against all bytes in front of
the line feed. So a script reads the same with either ending, except for lines that are exactly as
long as the limit. With the carriage return these are too long.

## Main definitions

* `script ending lines`: the lines, each with its ending
* `answers limits bytes`: what reading the lines of some bytes gives

## Main results

* `getElem?_answers_script`: what is given for each line of a script
* `endings_agree_off_limit`: with either ending the same is given, except at the limit
* `endings_differ_at_limit`: at the limit it is not
-/

namespace PipeShell

open Input (lineFeed lineOf)

/-- The byte that may stand in front of a line feed. -/
def carriageReturn : UInt8 := 13

/-- The lines, each with its ending. -/
def script (ending : Bytes) (lines : List Bytes) : Bytes := lines.flatMap (· ++ ending)

/-- What reading the lines of some bytes gives, with a limit for each. -/
def answers (limits : List (Option Nat)) (bytes : Bytes) : List (Except Errno Line) :=
  ((Input.ofBytes bytes).readLines limits).map LineReading.answer

/-! ## Reading a script -/

section Script

variable {lines : List Bytes}

/-- A script is split into its lines again. -/
theorem splitLines_script {mark : Bytes} (hmark : lineFeed ∉ mark)
    (clean : ∀ line ∈ lines, lineFeed ∉ line) :
    splitLines (script (mark ++ [lineFeed]) lines) = lines.map (· ++ (mark ++ [lineFeed])) := by
  induction lines with
  | nil => rfl
  | cons line lines ih =>
    obtain ⟨hline, hlines⟩ := List.forall_mem_cons.mp clean
    have hfront : lineFeed ∉ line ++ mark := by simp [hline, hmark]
    have hsplit := splitLines_append_lineFeed hfront (script (mark ++ [lineFeed]) lines)
    rw [ih hlines] at hsplit
    simpa [script] using hsplit

/-- What is given for each line of a script: the mark in front of the line feed is counted. -/
theorem getElem?_answers_script (mark : Bytes) (hmark : lineFeed ∉ mark)
    (clean : ∀ line ∈ lines, lineFeed ∉ line) (limits : List (Option Nat)) (k : Nat) :
    (answers limits (script (mark ++ [lineFeed]) lines))[k]? = limits[k]?.map fun max =>
      .ok (lines[k]?.elim .endOfInput fun line => lineOf max (line ++ mark)) := by
  have hrest (bytes : Bytes) : (Input.ofBytes bytes).rest = bytes := by
    simp [Input.rest, Input.ofBytes]
  rw [answers, List.getElem?_map, Input.getElem?_readLines, Option.map_map]
  congr 1
  funext max
  rw [Function.comp_apply, Input.answer_reading, Input.firstLine_behind, Input.failure_behind,
    hrest, splitLines_script hmark clean, List.getElem?_map]
  cases lines[k]? with
  | none => simp [Input.answerTo, Input.ofBytes]
  | some line => simp [Input.answerTo, ← List.append_assoc]

end Script

/-! ## Two endings -/

section Limit

variable {line : Bytes}

theorem withoutReturn_append_carriageReturn (line : Bytes) :
    Input.withoutReturn (line ++ [carriageReturn]) = line := by
  simp [Input.withoutReturn, carriageReturn]

theorem withoutReturn_of_not_mem (h : carriageReturn ∉ line) : Input.withoutReturn line = line :=
  if_neg fun hlast => h (List.mem_of_getLast? hlast)

/-- Within the limit, a line is given. -/
theorem lineOf_length (h : carriageReturn ∉ line) :
    lineOf (some line.length) line = .text (Text.Utf8.decode line) := by
  simp [lineOf, withoutReturn_of_not_mem h]

/-- With its carriage return a line that is as long as the limit is too long. -/
theorem lineOf_length_carriageReturn (line : Bytes) :
    lineOf (some line.length) (line ++ [carriageReturn]) = .tooLong := by
  simp [lineOf]

/-- At any other limit the carriage return makes no difference. -/
theorem lineOf_append_carriageReturn (h : carriageReturn ∉ line) {max : Option Nat}
    (hmax : max ≠ some line.length) : lineOf max (line ++ [carriageReturn]) = lineOf max line := by
  unfold lineOf
  rw [withoutReturn_append_carriageReturn, withoutReturn_of_not_mem h]
  cases max with
  | none => rfl
  | some limit =>
    -- One byte more passes the limit only where the line is as long as the limit.
    have hne : limit ≠ line.length := fun h => hmax (congrArg some h)
    have hcount : limit < (line ++ [carriageReturn]).length ↔ limit < line.length := by
      rw [List.length_append, List.length_singleton]
      omega
    simp only [Option.any_some, hcount]

end Limit

/-- A line feed alone. -/
def feedOnly : Bytes := [lineFeed]

/-- A carriage return and a line feed. -/
def returnAndFeed : Bytes := [carriageReturn, lineFeed]

/-- A line is exactly as long as the limit that it is read with. -/
def AtLimit (limits : List (Option Nat)) (lines : List Bytes) (k : Nat) : Prop :=
  ∃ line, lines[k]? = some line ∧ limits[k]? = some (some line.length)

section Endings

variable {lines : List Bytes}
  (clean : ∀ line ∈ lines, lineFeed ∉ line ∧ carriageReturn ∉ line) (limits : List (Option Nat))

include clean

theorem getElem?_answers_feedOnly (k : Nat) :
    (answers limits (script feedOnly lines))[k]? = limits[k]?.map fun max =>
      .ok (lines[k]?.elim .endOfInput (lineOf max)) := by
  have h := getElem?_answers_script [] (by simp) (fun line hline => (clean line hline).1) limits k
  simpa [feedOnly] using h

theorem getElem?_answers_returnAndFeed (k : Nat) :
    (answers limits (script returnAndFeed lines))[k]? = limits[k]?.map fun max =>
      .ok (lines[k]?.elim .endOfInput fun line => lineOf max (line ++ [carriageReturn])) :=
  getElem?_answers_script [carriageReturn] (by decide) (fun line hline => (clean line hline).1)
    limits k

theorem answers_eq_of_not_atLimit {k : Nat} (h : ¬ AtLimit limits lines k) :
    (answers limits (script returnAndFeed lines))[k]? =
      (answers limits (script feedOnly lines))[k]? := by
  rw [getElem?_answers_returnAndFeed clean, getElem?_answers_feedOnly clean]
  cases hline : lines[k]? with
  | none => rfl
  | some line =>
    cases hmax : limits[k]? with
    | none => rfl
    | some max =>
      have hne : max ≠ some line.length := by
        rintro rfl
        exact h ⟨line, hline, hmax⟩
      have hreturn := (clean line (List.mem_of_getElem? hline)).2
      simp [lineOf_append_carriageReturn hreturn hne]

theorem answers_of_atLimit {k : Nat} {line : Bytes} (hline : lines[k]? = some line)
    (hmax : limits[k]? = some (some line.length)) :
    (answers limits (script returnAndFeed lines))[k]? = some (.ok .tooLong) ∧
      (answers limits (script feedOnly lines))[k]? =
        some (.ok (.text (Text.Utf8.decode line))) := by
  have hreturn := (clean line (List.mem_of_getElem? hline)).2
  rw [getElem?_answers_returnAndFeed clean, getElem?_answers_feedOnly clean, hline, hmax]
  simp [lineOf_length hreturn, lineOf_length_carriageReturn]

/-- **Endings agree off the limit.** Lines that end in a carriage return and a line feed are read
like lines that end in a line feed, but for those that are exactly as long as their limit: these are
given with the one ending, and are too long with the other. -/
theorem endings_agree_off_limit :
    (∀ k, ¬ AtLimit limits lines k →
      (answers limits (script returnAndFeed lines))[k]? =
        (answers limits (script feedOnly lines))[k]?) ∧
    (∀ (k : Nat) (line : Bytes), lines[k]? = some line → limits[k]? = some (some line.length) →
      (answers limits (script returnAndFeed lines))[k]? = some (.ok .tooLong) ∧
        (answers limits (script feedOnly lines))[k]? =
          some (.ok (.text (Text.Utf8.decode line)))) ∧
    (answers limits (script returnAndFeed lines) = answers limits (script feedOnly lines) ↔
      ∀ k, ¬ AtLimit limits lines k) := by
  refine ⟨fun k => answers_eq_of_not_atLimit clean limits,
    fun k line => answers_of_atLimit clean limits, ?_, ?_⟩
  · rintro heq k ⟨line, hline, hmax⟩
    obtain ⟨htooLong, htext⟩ := answers_of_atLimit clean limits hline hmax
    rw [heq, htext] at htooLong
    cases htooLong
  · intro h
    exact List.ext_getElem? fun k => answers_eq_of_not_atLimit clean limits (h k)

end Endings

/-- Three lines, of which the second is three bytes long. -/
def threeLines : List Bytes := [[97, 98], [97, 98, 99], []]

/-- With a limit of three the second line is given with the one ending only, and the third with
either. -/
theorem endings_agree_off_limit_threeLines :
    (∀ line ∈ threeLines, lineFeed ∉ line ∧ carriageReturn ∉ line) ∧
      (answers [some 3, some 3, some 3] (script returnAndFeed threeLines))[1]? =
        some (.ok .tooLong) ∧
      (answers [some 3, some 3, some 3] (script feedOnly threeLines))[1]? =
        some (.ok (.text "abc")) ∧
      (answers [some 3, some 3, some 3] (script returnAndFeed threeLines))[2]? =
        (answers [some 3, some 3, some 3] (script feedOnly threeLines))[2]? := by
  have hclean : ∀ line ∈ threeLines, lineFeed ∉ line ∧ carriageReturn ∉ line := by decide
  obtain ⟨hoff, hat, -⟩ := endings_agree_off_limit hclean [some 3, some 3, some 3]
  obtain ⟨htooLong, htext⟩ := hat 1 [97, 98, 99] rfl rfl
  have habc : Text.Utf8.decode [97, 98, 99] = "abc" := by decide +kernel
  refine ⟨hclean, htooLong, habc ▸ htext, hoff 2 ?_⟩
  rintro ⟨line, hline, hmax⟩
  obtain rfl : [] = line := Option.some.inj hline
  cases hmax

/-- A line of four bytes is read with a limit of four with the one ending only. -/
theorem endings_differ_at_limit :
    ¬ ∀ (lines : List Bytes) (max : Option Nat) (calls : Nat),
      (∀ line ∈ lines, lineFeed ∉ line ∧ carriageReturn ∉ line) →
        answers (List.replicate calls max) (script returnAndFeed lines) =
          answers (List.replicate calls max) (script feedOnly lines) := by
  intro h
  have hclean : ∀ line ∈ [[97, 98, 99, 100]], lineFeed ∉ line ∧ carriageReturn ∉ line := by decide
  have heq := h [[97, 98, 99, 100]] (some 4) 1 hclean
  obtain ⟨htooLong, htext⟩ :=
    answers_of_atLimit hclean (List.replicate 1 (some 4)) (k := 0) rfl rfl
  rw [heq, htext] at htooLong
  cases htooLong

end PipeShell
