import PipeShell.Proofs.Reading.Runs

/-!
# Reading a line byte by byte

A line can be read without ever holding more of it than its limit: once there have been too many
bytes, those that were held are given up, and the rest of the line is passed over. What is given in
the end is what reading the whole line and looking at its length gives.

## Main definitions

* `Gathered`: a line as far as it has been read
* `Gathered.ofBytes max front`: what is held once the bytes `front` have been read
* `gather`: reads bytes up to the next line feed, one at a time

## Main results

* `Gathered.push_ofBytes`: one more byte
* `Gathered.length_held_le`: no more is held than the limit
* `Input.readLine_eq_gather`: a line that is read byte by byte is the line
-/

namespace PipeShell

open Input (lineFeed)

/-! ## One byte -/

/-- A line as far as it has been read: the bytes that are held of it, whether they have been given
up for being too many, and whether there has been any byte at all. -/
structure Gathered where
  held : Bytes
  overflow : Bool
  any : Bool

namespace Gathered

/-- Nothing has been read. -/
def nothing : Gathered := ⟨[], false, false⟩

/-- One more byte of the line. -/
def push (max : Option Nat) (g : Gathered) (byte : UInt8) : Gathered :=
  if g.overflow then { g with any := true }
  else if max.any (· < (g.held ++ [byte]).length) then ⟨[], true, true⟩
  else ⟨g.held ++ [byte], false, true⟩

/-- The line that has been read. -/
def line (g : Gathered) : Line :=
  if !g.any then .endOfInput
  else if g.overflow then .tooLong
  else .text (Text.Utf8.decode (Input.withoutReturn g.held))

/-- What is held once some bytes of a line have been read: all of them up to the limit, and none
beyond it. -/
def ofBytes (max : Option Nat) (front : Bytes) : Gathered :=
  if max.any (· < front.length) then ⟨[], true, true⟩ else ⟨front, false, !front.isEmpty⟩

variable {max : Option Nat} {front : Bytes}

theorem ofBytes_of_over (h : max.any (· < front.length) = true) :
    ofBytes max front = ⟨[], true, true⟩ := if_pos h

theorem ofBytes_of_not_over (h : ¬ max.any (· < front.length) = true) :
    ofBytes max front = ⟨front, false, !front.isEmpty⟩ := if_neg h

@[simp] theorem ofBytes_nil (max : Option Nat) : ofBytes max [] = nothing := by
  cases max <;> rfl

/-- A line that is over the limit stays so. -/
theorem over_append (h : max.any (· < front.length) = true) (byte : UInt8) :
    max.any (· < (front ++ [byte]).length) = true := by
  cases max with
  | none => cases h
  | some limit =>
    have hlt : limit < front.length := of_decide_eq_true h
    simpa using Nat.lt_succ_of_lt hlt

/-- **One more byte** is held if the limit allows it, and else none is. -/
theorem push_ofBytes (max : Option Nat) (front : Bytes) (byte : UInt8) :
    (ofBytes max front).push max byte = ofBytes max (front ++ [byte]) := by
  by_cases hover : max.any (· < front.length) = true
  · rw [ofBytes_of_over hover, ofBytes_of_over (over_append hover byte)]
    rfl
  · have hsome : (!(front ++ [byte]).isEmpty) = true := by simp
    rw [ofBytes_of_not_over hover, push, if_neg Bool.false_ne_true, ofBytes, hsome]

theorem foldl_push (max : Option Nat) (front bytes : Bytes) :
    bytes.foldl (push max) (ofBytes max front) = ofBytes max (front ++ bytes) := by
  induction bytes generalizing front with
  | nil => rw [List.append_nil, List.foldl_nil]
  | cons byte rest ih => rw [List.foldl_cons, push_ofBytes, ih, ← List.append_cons]

/-- **No more is held than the limit**, however many bytes have been read. -/
theorem length_held_le (limit : Nat) (bytes : Bytes) :
    (bytes.foldl (push (some limit)) nothing).held.length ≤ limit := by
  rw [← ofBytes_nil, foldl_push, ofBytes]
  split
  · exact Nat.zero_le limit
  · rename_i hover
    simpa using hover

/-- Where there has been a byte, the limit decides. -/
theorem line_ofBytes (max : Option Nat) (front : Bytes) :
    (ofBytes max front).line = if front = [] then .endOfInput else Input.lineOf max front := by
  by_cases hnil : front = []
  · subst hnil
    simp [line, nothing]
  · rw [if_neg hnil, ofBytes, Input.lineOf]
    split <;> simp [line, hnil]

/-- A line feed is a byte, too. -/
theorem line_ofBytes_ended (max : Option Nat) (front : Bytes) :
    { ofBytes max front with any := true }.line = Input.lineOf max front := by
  rw [ofBytes, Input.lineOf]
  split <;> simp [line]

end Gathered

/-! ## A line -/

theorem firstLine_lineFeed_cons (rest : Bytes) : firstLine (lineFeed :: rest) = [lineFeed] := by
  simp [firstLine, splitLines]

theorem firstLine_cons {byte : UInt8} (hbyte : byte ≠ lineFeed) (rest : Bytes) :
    firstLine (byte :: rest) = byte :: firstLine rest := by
  rw [firstLine, firstLine, splitLines, if_neg hbyte]
  cases splitLines rest <;> rfl

/-- Reads bytes up to the next line feed, one at a time, onto what has been read of the line: the
line and the bytes behind it. Bytes that run out have no line if they do so with a failure. -/
def gather (failure : Option Errno) (max : Option Nat) :
    Gathered → Bytes → Except Errno Line × Bytes
  | g, [] => (failure.elim (.ok g.line) .error, [])
  | g, byte :: rest =>
    if byte = lineFeed then (.ok { g with any := true }.line, rest)
    else gather failure max (g.push max byte) rest

/-- What has been read of a line is the front of it. -/
theorem gather_ofBytes (failure : Option Errno) (max : Option Nat) {front : Bytes}
    (clean : lineFeed ∉ front) (bytes : Bytes) :
    gather failure max (.ofBytes max front) bytes =
      (Input.answerTo failure max (front ++ firstLine bytes),
        bytes.drop (firstLine bytes).length) := by
  induction bytes generalizing front with
  | nil =>
    have hlast := getLast?_ne_of_not_mem clean
    have hline : firstLine [] = [] := rfl
    cases failure with
    | none =>
      rw [gather, Option.elim_none, Gathered.line_ofBytes]
      by_cases hnil : front = []
      · simp [hline, Input.answerTo, hnil]
      · simp [hline, Input.answerTo, hlast, withoutFeed_of_not_mem clean, hnil]
    | some cause => simp [gather, hline, Input.answerTo, hlast]
  | cons byte rest ih =>
    by_cases hbyte : byte = lineFeed
    · subst hbyte
      rw [firstLine_lineFeed_cons, gather, if_pos rfl, Gathered.line_ofBytes_ended]
      simp [Input.answerTo]
    · have hclean : lineFeed ∉ front ++ [byte] := by simp [clean, Ne.symm hbyte]
      rw [firstLine_cons hbyte, gather, if_neg hbyte, Gathered.push_ofBytes, ih hclean]
      simp

/-- **A line that is read byte by byte** is the line, and what is left is what is behind it. -/
theorem Input.readLine_eq_gather (i : Input) (max : Option Nat) :
    i.readLine max =
      ((gather i.failure max .nothing i.rest).1,
        i.advance (i.rest.length - (gather i.failure max .nothing i.rest).2.length)) := by
  have hclean : lineFeed ∉ ([] : Bytes) := List.not_mem_nil
  have hgather := gather_ofBytes i.failure max hclean i.rest
  rw [Gathered.ofBytes_nil, List.nil_append] at hgather
  have hlength : (firstLine i.rest).length ≤ i.rest.length := by
    rw [← take_length_firstLine, List.length_take]
    exact Nat.min_le_right _ _
  rw [readLine_eq_answerTo, hgather, List.length_drop, Nat.sub_sub_self hlength]

end PipeShell
