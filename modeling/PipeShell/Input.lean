import PipeShell.Errno
import PipeShell.Text.Utf8

/-!
# Reading lines

Input is a row of bytes with a position, after whose end reading either finds the end or fails. A
line is read up to its line feed and no further, so what follows it is still there for another
reader. A line over the limit is skipped whole and reported as too long.

## Main definitions

* `Input`: bytes, a position, and what happens at their end
* `Input.readLine`: reads one line

## Main results

* `Input.unread_readLine_lt`: a line that is read, or skipped, takes up at least one byte
-/

namespace PipeShell

/-- A row of bytes being read. Where `failure` is given, reading past the bytes fails with it. -/
structure Input where
  data : Array UInt8
  pos : Nat
  failure : Option Errno
  deriving Repr

/-- One line of input, or why there is none. -/
inductive Line where
  | text (line : String)
  | tooLong
  | endOfInput
  deriving DecidableEq, Repr

namespace Input

/-- Input at its beginning. -/
def ofBytes (bytes : Bytes) : Input := ⟨bytes.toArray, 0, none⟩

/-- The number of bytes not read yet. -/
def unread (i : Input) : Nat := i.data.size - i.pos

/-- The bytes not read yet. -/
def rest (i : Input) : Bytes := i.data.toList.drop i.pos

/-- The byte that ends a line. -/
def lineFeed : UInt8 := 10

/-- Reads up to the next line feed, onto the bytes read so far, the latest first: the bytes in
front of the line feed, whether there was one, and the position behind it. -/
def scan (data : Array UInt8) (pos : Nat) (sofar : Bytes) : Bytes × Bool × Nat :=
  if h : pos < data.size then
    if data[pos] = lineFeed then (sofar.reverse, true, pos + 1)
    else scan data (pos + 1) (data[pos] :: sofar)
  else (sofar.reverse, false, pos)
termination_by data.size - pos

/-- Reading on never goes back, and goes forward where a byte is left. -/
theorem le_scan (data : Array UInt8) (pos : Nat) (sofar : Bytes) :
    pos ≤ (scan data pos sofar).2.2 ∧
      (pos < data.size → pos < (scan data pos sofar).2.2) := by
  fun_induction scan data pos sofar with
  | case1 => simp
  | case2 pos sofar h hne ih => exact ⟨by omega, fun _ => by omega⟩
  | case3 pos sofar h => simp [h]

/-- Without the one carriage return that may end it. -/
def withoutReturn (bytes : Bytes) : Bytes :=
  if bytes.getLast? = some 13 then bytes.dropLast else bytes

/-- What the bytes in front of a line feed, or of the end of input, are as a line. -/
def lineOf (max : Option Nat) (bytes : Bytes) : Line :=
  if max.any (· < bytes.length) then .tooLong
  else .text (Text.Utf8.decode (withoutReturn bytes))

/-- Reads one line, of at most `max` bytes if a limit is given. The limit counts the bytes in front
of the line feed. Input that fails before the line feed fails the whole line. -/
def readLine (max : Option Nat) (i : Input) : Except Errno Line × Input :=
  let (bytes, ended, pos) := scan i.data i.pos []
  let after := { i with pos }
  -- A failure matters only where it comes before the line feed.
  if ended then (.ok (lineOf max bytes), after)
  else
    match i.failure with
    | some cause => (.error cause, after)
    | none => (.ok (if bytes.isEmpty then .endOfInput else lineOf max bytes), after)

@[simp] theorem data_readLine (max : Option Nat) (i : Input) :
    (i.readLine max).2.data = i.data := by
  unfold readLine
  simp only
  split
  · rfl
  · split <;> rfl

theorem pos_readLine (max : Option Nat) (i : Input) :
    (i.readLine max).2.pos = (scan i.data i.pos []).2.2 := by
  unfold readLine
  simp only
  split
  · rfl
  · split <;> rfl

/-- At the end of the bytes there is no line. -/
theorem readLine_of_unread_eq_zero {max : Option Nat} {i : Input} (h : i.unread = 0) :
    (i.readLine max).1 = match i.failure with
      | some cause => .error cause
      | none => .ok .endOfInput := by
  have hs : scan i.data i.pos [] = ([], false, i.pos) := by
    unfold scan
    have : ¬ i.pos < i.data.size := by unfold unread at h; omega
    simp [this]
  unfold readLine
  simp only [hs]
  cases i.failure <;> rfl

/-- A line that is read or skipped takes up at least one byte. -/
theorem unread_readLine_lt {max : Option Nat} {i after : Input} {line : Line}
    (h : i.readLine max = (.ok line, after)) (hne : line ≠ .endOfInput) :
    after.unread < i.unread := by
  have hafter : after = (i.readLine max).2 := by rw [h]
  have hpos : 0 < i.unread := by
    rcases Nat.eq_zero_or_pos i.unread with h0 | h0
    · have := @readLine_of_unread_eq_zero max _ h0
      rw [h] at this
      cases hf : i.failure with
      | none => simp [hf] at this; exact absurd this hne
      | some c => simp [hf] at this
    · exact h0
  have hlt : i.pos < i.data.size := by unfold unread at hpos; omega
  have := (le_scan i.data i.pos []).2 hlt
  subst hafter
  unfold unread
  rw [data_readLine, pos_readLine]
  omega

end Input

end PipeShell
