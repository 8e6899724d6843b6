import PipeShell.Input
import PipeShell.Text.Blank

/-!
# Captured text

The text of a `<<` is the lines of the input up to the first one that, without the blanks at its
ends, is the delimiter. The delimiter line is read and left out; where there is none, the text ends
with the input. A prompt is written before every line that is read, the last one included.

Whoever reads the lines passes them on at once. Where the one who takes them has gone, reading ends
with the first line that would still have to be passed on. How many have been passed on by then is a
matter of who is faster.

## Main definitions

* `Heredoc.copy`: reads lines up to the delimiter
* `Heredoc.copyAhead`: the same where the one who takes the lines goes
-/

namespace PipeShell.Heredoc

/-- What reading up to a delimiter yields: the text, each of its lines ended by a line feed, how
often the prompt was written, the failure that cut the reading short, if any, and the input that is
left. -/
structure Copied where
  body : Array UInt8
  prompts : Nat
  failure : Option Errno
  rest : Input
  deriving Repr

/-- Reads lines up to the delimiter onto the text read so far. -/
def copyOnto (delimiter : String) (body : Array UInt8) (prompts : Nat) (i : Input) : Copied :=
  match _h : i.readLine none with
  | (.error cause, rest) => ⟨body, prompts + 1, some cause, rest⟩
  | (.ok .endOfInput, rest) => ⟨body, prompts + 1, none, rest⟩
  -- Without a limit no line is too long.
  | (.ok .tooLong, rest) => ⟨body, prompts + 1, none, rest⟩
  | (.ok (.text line), rest) =>
    if Text.trim line = delimiter then ⟨body, prompts + 1, none, rest⟩
    else copyOnto delimiter (body ++ (Text.Utf8.encode line).toArray |>.push Input.lineFeed)
      (prompts + 1) rest
termination_by i.unread
decreasing_by exact Input.unread_readLine_lt _h (by simp)

/-- Reads lines up to the delimiter. -/
def copy (delimiter : String) (i : Input) : Copied := copyOnto delimiter #[] 0 i

/-- Reads lines up to the delimiter for one who goes: by then `ahead` lines have been passed on, or
as many as there is room for, with `room` for so many bytes. No text comes of it. -/
def copyAhead (delimiter : String) : (ahead room : Nat) → Input → Copied
  | ahead, room, i =>
    match i.readLine none with
    | (.error cause, rest) => ⟨#[], 1, some cause, rest⟩
    | (.ok .endOfInput, rest) | (.ok .tooLong, rest) => ⟨#[], 1, none, rest⟩
    | (.ok (.text line), rest) =>
      if Text.trim line = delimiter then ⟨#[], 1, none, rest⟩
      else
        let size := (Text.Utf8.encode line).length + 1
        match ahead with
        | 0 => ⟨#[], 1, some .brokenPipe, rest⟩
        | ahead + 1 =>
          if room < size then ⟨#[], 1, some .brokenPipe, rest⟩
          else
            let later := copyAhead delimiter ahead (room - size) rest
            { later with prompts := later.prompts + 1 }

end PipeShell.Heredoc
