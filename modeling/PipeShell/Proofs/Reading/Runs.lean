import Mathlib.Data.List.Forall2
import PipeShell.Proofs.Reading.Passages

/-!
# Lines read one after the other

Each time a line is asked for, the next of the lines of the input is taken, whole and with its line
feed. The limit has no part in that: it decides only whether the line is given or reported as too
long. Neither has the failure that the input may end with: it takes the place of the line that it
cuts short, whose bytes are taken all the same.

## Main definitions

* `LineReading`: one reading of a line, with the input that it finds and the input that it leaves
* `Input.readLines`: reads lines one after the other, with a limit for each
* `Input.answerTo`: what reading gives for a line
* `LineReading.IsRight`: what is given is right for what is taken

## Main results

* `Input.readLine_eq_answerTo`: one reading, with any limit and any failure
* `Input.getElem?_readLines`: each of the readings
* `Input.readLines_exact`: the readings take the lines, and what they give is right
-/

namespace PipeShell

open Input (lineFeed)

/-! ## The first line -/

/-- The first of the lines of some bytes, and no bytes where there is none. -/
def firstLine (bytes : Bytes) : Bytes := (splitLines bytes).headD []

theorem FirstLine.firstLine_append {front line rest : Bytes} (h : FirstLine front line rest) :
    firstLine (line ++ rest) = line := by
  rw [firstLine, h.splitLines_append, List.headD_cons]

theorem firstLine_cases (bytes : Bytes) :
    bytes = [] ∧ firstLine bytes = [] ∨
      ∃ front line rest, bytes = line ++ rest ∧ FirstLine front line rest ∧
        firstLine bytes = line := by
  by_cases hnil : bytes = []
  · subst hnil
    exact .inl ⟨rfl, rfl⟩
  · obtain ⟨front, line, rest, rfl, hfirst⟩ := exists_firstLine hnil
    exact .inr ⟨front, line, rest, rfl, hfirst, hfirst.firstLine_append⟩

theorem firstLine_of_not_mem {bytes : Bytes} (clean : lineFeed ∉ bytes) :
    firstLine bytes = bytes := by
  cases bytes with
  | nil => rfl
  | cons byte rest =>
    rw [firstLine, splitLines_of_not_mem clean (List.cons_ne_nil _ _), List.headD_cons]

theorem take_length_firstLine (bytes : Bytes) :
    bytes.take (firstLine bytes).length = firstLine bytes := by
  rcases firstLine_cases bytes with ⟨rfl, -⟩ | ⟨front, line, rest, rfl, -, hline⟩
  · rfl
  · rw [hline, List.take_left]

theorem firstLine_eq_nil_iff (bytes : Bytes) : firstLine bytes = [] ↔ bytes = [] := by
  rcases firstLine_cases bytes with ⟨rfl, hline⟩ | ⟨front, line, rest, rfl, hfirst, hline⟩
  · simp [hline]
  · simp [hline, hfirst.ne_nil]

/-- The first line is ended if there is a line feed at all. -/
theorem getLast?_firstLine_iff (bytes : Bytes) :
    (firstLine bytes).getLast? = some lineFeed ↔ lineFeed ∈ bytes := by
  rcases firstLine_cases bytes with ⟨rfl, hline⟩ | ⟨front, line, rest, rfl, hfirst, hline⟩
  · simp [hline]
  · rw [hline]
    cases hfirst with
    | ended rest clean => simp
    | unended clean nonempty => simp [clean, getLast?_ne_of_not_mem clean]

theorem flatten_take_one_splitLines (bytes : Bytes) :
    ((splitLines bytes).take 1).flatten = firstLine bytes := by
  unfold firstLine
  cases splitLines bytes <;> simp

/-! ## Readings -/

/-- One reading of a line: the input that it finds, what it gives, and the input that it leaves. -/
structure LineReading where
  before : Input
  answer : Except Errno Line
  after : Input

/-- The bytes that a reading takes off the input. -/
def LineReading.taken (r : LineReading) : Bytes := r.before.rest.take (r.after.pos - r.before.pos)

namespace Input

variable (i : Input) (max : Option Nat)

/-- The reading of a line. -/
def reading : LineReading := ⟨i, (i.readLine max).1, (i.readLine max).2⟩

@[simp] theorem before_reading : (i.reading max).before = i := rfl

/-- Reads lines one after the other, with a limit for each. -/
def readLines : Input → List (Option Nat) → List LineReading
  | _, [] => []
  | i, max :: limits => i.reading max :: (i.reading max).after.readLines limits

/-- What reading gives for a line, which is no bytes where no line is left. -/
def answerTo (failure : Option Errno) (max : Option Nat) (line : Bytes) : Except Errno Line :=
  if line.getLast? = some lineFeed ∨ failure = none ∧ line ≠ [] then
    .ok (lineOf max (withoutFeed line))
  else failure.elim (.ok .endOfInput) .error

/-- **One reading** takes the first line, whatever the limit and the failure. -/
theorem readLine_eq_answerTo :
    i.readLine max =
      (answerTo i.failure max (firstLine i.rest), i.advance (firstLine i.rest).length) := by
  rcases i.readLine_cases max with ⟨front, rest, hrest, hclean, hread⟩ | ⟨hclean, hread⟩
  · have hfirst := (FirstLine.ended rest hclean).firstLine_append
    rw [List.append_assoc, List.singleton_append] at hfirst
    rw [hread, hrest, hfirst]
    simp [answerTo]
  · -- No line feed is left: what is left is the line, if it is anything at all.
    rw [hread, firstLine_of_not_mem hclean, answerTo]
    have hlast := getLast?_ne_of_not_mem hclean
    by_cases hnil : i.rest = []
    · simp [hnil]
    · cases i.failure <;> simp [hnil, hlast, withoutFeed_of_not_mem hclean]

theorem answer_reading :
    (i.reading max).answer = answerTo i.failure max (firstLine i.rest) := by
  simp [reading, readLine_eq_answerTo]

theorem after_reading : (i.reading max).after = i.advance (firstLine i.rest).length := by
  simp [reading, readLine_eq_answerTo]

@[simp] theorem taken_reading : (i.reading max).taken = firstLine i.rest := by
  rw [LineReading.taken, after_reading]
  simp [take_length_firstLine]

/-! ## Behind some lines -/

/-- The input behind its first lines. -/
def behind (k : Nat) : Input := i.advance ((splitLines i.rest).take k).flatten.length

@[simp] theorem failure_behind (k : Nat) : (i.behind k).failure = i.failure := rfl

theorem splitLines_behind (k : Nat) :
    splitLines (i.behind k).rest = (splitLines i.rest).drop k := by
  rw [behind, rest_advance, splitLines_drop_take]

theorem firstLine_behind (k : Nat) :
    firstLine (i.behind k).rest = (splitLines i.rest)[k]?.getD [] := by
  rw [firstLine, splitLines_behind, List.headD_eq_head?_getD, List.head?_drop]

theorem behind_behind (k l : Nat) : (i.behind k).behind l = i.behind (k + l) := by
  rw [behind, splitLines_behind, behind, advance_advance, behind, List.take_add,
    List.flatten_append, List.length_append]

theorem after_reading_eq_behind : (i.reading max).after = i.behind 1 := by
  rw [after_reading, behind, flatten_take_one_splitLines]

/-- **Each of the readings** finds the input behind the lines in front. -/
theorem getElem?_readLines (limits : List (Option Nat)) (k : Nat) :
    (i.readLines limits)[k]? = limits[k]?.map (i.behind k).reading := by
  induction limits generalizing i k with
  | nil => rfl
  | cons max limits ih =>
    cases k with
    | zero => rfl
    | succ k =>
      rw [readLines, List.getElem?_cons_succ, List.getElem?_cons_succ, ih,
        after_reading_eq_behind, behind_behind, Nat.add_comm]

theorem lineOf_eq_tooLong_iff (max : Option Nat) (front : Bytes) :
    lineOf max front = .tooLong ↔ ∃ limit, max = some limit ∧ limit < front.length := by
  unfold lineOf
  cases max <;> simp

theorem lineOf_eq_text_iff (max : Option Nat) (front : Bytes) (text : String) :
    lineOf max front = .text text ↔ (∀ limit, max = some limit → front.length ≤ limit) ∧
      text = Text.Utf8.decode (withoutReturn front) := by
  unfold lineOf
  cases max with
  | none => simp [eq_comm]
  | some limit =>
    by_cases h : limit < front.length
    · simp [h, Nat.not_le.mpr h]
    · simp [h, Nat.not_lt.mp h, eq_comm]

end Input

/-! ## What is right -/

/-- What is read is complete: a line feed is still to come, or there are bytes left and the input
ends behind them without a failure. -/
def LineReading.FindsLine (r : LineReading) : Prop :=
  lineFeed ∈ r.before.rest ∨ r.before.failure = none ∧ r.before.rest ≠ []

/-- What a reading gives is right for what it takes, and it takes it off the input and does nothing
else. A line is too long if it has more bytes in front of its line feed than the limit; else it is
given without the carriage return that it may end with. The input is at its end if no byte is left,
and it fails if it does so before a line feed. -/
structure LineReading.IsRight (max : Option Nat) (r : LineReading) : Prop where
  after_eq : r.after = r.before.advance r.taken.length
  tooLong_iff : r.answer = .ok .tooLong ↔
    r.FindsLine ∧ ∃ limit, max = some limit ∧ limit < (withoutFeed r.taken).length
  text_iff : ∀ text, r.answer = .ok (.text text) ↔
    r.FindsLine ∧ (∀ limit, max = some limit → (withoutFeed r.taken).length ≤ limit) ∧
      text = Text.Utf8.decode (Input.withoutReturn (withoutFeed r.taken))
  endOfInput_iff : r.answer = .ok .endOfInput ↔ r.before.failure = none ∧ r.before.rest = []
  error_iff : ∀ cause, r.answer = .error cause ↔
    r.before.failure = some cause ∧ lineFeed ∉ r.before.rest

namespace LineReading

variable {max : Option Nat} {r : LineReading}

theorem findsLine_iff (htaken : r.taken = firstLine r.before.rest) :
    r.FindsLine ↔ r.taken.getLast? = some lineFeed ∨ r.before.failure = none ∧ r.taken ≠ [] := by
  rw [htaken, getLast?_firstLine_iff, ne_eq, firstLine_eq_nil_iff]
  rfl

/-- Where there is a line, the limit decides. -/
theorem isRight_of_findsLine (hafter : r.after = r.before.advance r.taken.length)
    (hline : r.FindsLine) (hanswer : r.answer = .ok (Input.lineOf max (withoutFeed r.taken))) :
    r.IsRight max where
  after_eq := hafter
  tooLong_iff := by simp [hanswer, hline, Input.lineOf_eq_tooLong_iff]
  text_iff text := by simp [hanswer, hline, Input.lineOf_eq_text_iff]
  endOfInput_iff := by
    simp only [hanswer, Except.ok.injEq, Input.lineOf_ne_endOfInput, false_iff]
    rintro ⟨-, hnil⟩
    simp [FindsLine, hnil] at hline
  error_iff cause := by
    simp only [hanswer, reduceCtorEq, false_iff]
    rintro ⟨hfailure, hclean⟩
    simp [FindsLine, hfailure, hclean] at hline

/-- Where there is none, the input is at its end, or fails. -/
theorem isRight_of_not_findsLine (hafter : r.after = r.before.advance r.taken.length)
    (hline : ¬ r.FindsLine)
    (hanswer : r.answer = r.before.failure.elim (.ok .endOfInput) Except.error) :
    r.IsRight max := by
  obtain ⟨hclean, hrest⟩ := not_or.mp hline
  cases hfailure : r.before.failure with
  | none =>
    rw [hfailure] at hanswer
    have hnil : r.before.rest = [] := Decidable.not_not.mp fun h => hrest ⟨hfailure, h⟩
    constructor <;> simp [hafter, hanswer, hline, hfailure, hnil]
  | some cause =>
    rw [hfailure] at hanswer
    constructor <;> simp [hafter, hanswer, hline, hfailure, hclean]

end LineReading

/-- What the readings of lines give is right. -/
theorem Input.isRight_reading (i : Input) (max : Option Nat) : (i.reading max).IsRight max := by
  have hafter : (i.reading max).after = i.advance (i.reading max).taken.length := by
    rw [taken_reading, after_reading]
  have hanswer : (i.reading max).answer = answerTo i.failure max (i.reading max).taken := by
    rw [taken_reading, answer_reading]
  have hfinds := LineReading.findsLine_iff (i.taken_reading max)
  by_cases hline : (i.reading max).FindsLine
  · refine LineReading.isRight_of_findsLine hafter hline (hanswer.trans ?_)
    exact if_pos (hfinds.mp hline)
  · refine LineReading.isRight_of_not_findsLine hafter hline (hanswer.trans ?_)
    exact if_neg (mt hfinds.mpr hline)

/-! ## Lines in a row -/

theorem flatten_map_range_getD (lines : List Bytes) (n : Nat) :
    ((List.range n).map fun k => lines[k]?.getD []).flatten = (lines.take n).flatten := by
  induction n with
  | zero => simp
  | succ n ih =>
    rw [List.range_succ, List.map_append, List.flatten_append, ih, List.take_add_one,
      List.flatten_append]
    cases hline : lines[n]? <;> simp [hline]

namespace Input

variable (i : Input) (limits : List (Option Nat))

/-- The readings take the lines, whatever the limits, and behind the last line they take nothing. -/
theorem map_taken_readLines :
    (i.readLines limits).map LineReading.taken =
      (List.range limits.length).map fun k => (splitLines i.rest)[k]?.getD [] := by
  refine List.ext_getElem? fun k => ?_
  rw [List.getElem?_map, getElem?_readLines, List.getElem?_map]
  by_cases hk : k < limits.length
  · simp [hk, firstLine_behind]
  · simp [hk]

theorem forall₂_isRight_readLines :
    List.Forall₂ LineReading.IsRight limits (i.readLines limits) := by
  induction limits generalizing i with
  | nil => exact .nil
  | cons max limits ih => exact .cons (i.isRight_reading max) (ih _)

/-- **Lines are read exactly.** Of the readings of lines, whatever their limits, each takes the next
line of the input with its line feed, and what it gives is right for that line. So what they take is
the beginning of the input, and all of it once there are as many readings as lines. -/
theorem readLines_exact :
    (i.readLines limits).map LineReading.taken =
        (List.range limits.length).map (fun k => (splitLines i.rest)[k]?.getD []) ∧
      ((i.readLines limits).map LineReading.taken).flatten <+: i.rest ∧
      ((splitLines i.rest).length ≤ limits.length →
        ((i.readLines limits).map LineReading.taken).flatten = i.rest) ∧
      List.Forall₂ LineReading.IsRight limits (i.readLines limits) := by
  have htaken := i.map_taken_readLines limits
  have hflatten : ((i.readLines limits).map LineReading.taken).flatten =
      ((splitLines i.rest).take limits.length).flatten := by
    rw [htaken, flatten_map_range_getD]
  refine ⟨htaken, ?_, ?_, i.forall₂_isRight_readLines limits⟩
  · refine ⟨((splitLines i.rest).drop limits.length).flatten, ?_⟩
    rw [hflatten, ← List.flatten_append, List.take_append_drop, flatten_splitLines]
  · intro hlength
    rw [hflatten, List.take_of_length_le hlength, flatten_splitLines]

/-- Three lines, of which the last is cut short by a failure. -/
def brokenInput : Input := ⟨(Text.Utf8.encode "ab\r\nlong\nx").toArray, 0, some .inputOutput⟩

/-- The second line is too long and the third is not given, but both are taken, and the readings
behind them take nothing. -/
theorem readLines_exact_brokenInput :
    (splitLines brokenInput.rest).length ≤ [some 3, some 3, none, some 0].length ∧
      ((brokenInput.readLines [some 3, some 3, none, some 0]).map LineReading.taken).flatten =
        Text.Utf8.encode "ab\r\nlong\nx" := by
  have hrest : brokenInput.rest = Text.Utf8.encode "ab\r\nlong\nx" := by decide +kernel
  have hlines : (splitLines brokenInput.rest).length ≤ [some 3, some 3, none, some 0].length := by
    decide +kernel
  have hexact := readLines_exact brokenInput [some 3, some 3, none, some 0]
  exact ⟨hlines, (hexact.2.2.1 hlines).trans hrest⟩

end Input

end PipeShell
