import PipeShell.Regex.Meaning
import PipeShell.Text.Blank

/-!
# Log messages and the filter on them

A message has a level and the name of the place it comes from. A filter is a list of rules, each a
level for the places whose names begin with a given text; the rule with the longest such text
counts. It is written as rules with commas between them: a level for everything, a place for all its
messages, or `place=level`. After a slash there may be a regular expression, which every message
shown must match somewhere.

## Main definitions

* `LogMessage`: a message, and the line that shows it
* `LogFilter.ofSpec`: reads a filter, and tells what it could not read
* `LogFilter.allows`: the message is shown
* `Journal`: the messages that are shown, and whether in colors
-/

namespace PipeShell

/-- How much a message matters, from nothing at all to everything. -/
inductive LogLevel where
  | off
  | error
  | warn
  | info
  | debug
  | trace
  deriving DecidableEq, Repr

namespace LogLevel

/-- The place in the order: the higher, the more is shown. -/
def rank : LogLevel → Nat
  | off => 0
  | error => 1
  | warn => 2
  | info => 3
  | debug => 4
  | trace => 5

def name : LogLevel → String
  | off => "OFF"
  | error => "ERROR"
  | warn => "WARN"
  | info => "INFO"
  | debug => "DEBUG"
  | trace => "TRACE"

/-- Reads a level's name in upper or lower case. -/
def ofName? (text : String) : Option LogLevel :=
  [off, error, warn, info, debug, trace].find? fun l => l.name == text.map Char.toUpper

end LogLevel

/-- A message for the log. -/
structure LogMessage where
  level : LogLevel
  place : String
  text : String
  deriving DecidableEq, Repr

/-- The level's name, as wide as the widest one. -/
def LogLevel.label (l : LogLevel) : String :=
  l.name ++ String.ofList (List.replicate (5 - l.name.length) ' ')

/-- The number of a level's color. -/
def LogLevel.color : LogLevel → String
  | off | info => "32"
  | error => "1;31"
  | warn => "33"
  | debug => "34"
  | trace => "36"

/-- A text in a color of the terminal. -/
def painted (color text : String) : String := "\x1b[" ++ color ++ "m" ++ text ++ "\x1b[0m"

/-- The line that shows a message. -/
def LogMessage.line (m : LogMessage) (colored : Bool) : String :=
  let paint := fun (color text : String) => if colored then painted color text else text
  paint "90" "[" ++ paint m.level.color m.level.label ++ " " ++ m.place ++ paint "90" "]" ++ " " ++
    m.text

/-- A level for the places whose names begin with a text; without a text, for all places. -/
structure LogRule where
  place : Option String
  level : LogLevel
  deriving DecidableEq, Repr

/-- Rules, of which the last that applies counts, and what messages must match. -/
structure LogFilter where
  rules : List LogRule
  matched : Option Regex
  deriving Repr

namespace LogFilter

/-- Reads one rule: nothing where the text is blank. -/
def rule? (text : String) : Except String (Option LogRule) :=
  let text := Text.trim text
  if text.isEmpty then .ok none
  else
    match Text.splitAt '=' text with
    | [one] =>
      match LogLevel.ofName? one with
      | some level => .ok (some ⟨none, level⟩)
      | none => .ok (some ⟨some one, .trace⟩)
    | [place, level] =>
      let level := Text.trim level
      if level.isEmpty then .ok (some ⟨some place, .trace⟩)
      else match LogLevel.ofName? level with
        | some level => .ok (some ⟨some place, level⟩)
        | none => .error level
    | _ => .error text

/-- Adds a rule; of two for the same text the later one takes the earlier one's place. -/
def addRule (rules : List LogRule) (rule : LogRule) : List LogRule :=
  if rules.any fun r => r.place == rule.place then
    rules.map fun r => if r.place == rule.place then rule else r
  else rules ++ [rule]

/-- The number of bytes in the text that a rule asks for. -/
def weight (rule : LogRule) : Nat := (rule.place.map String.utf8ByteSize).getD 0

/-- The rules in the order in which they count. Without any, errors are shown. -/
def arrange (rules : List LogRule) : List LogRule :=
  if rules.isEmpty then [⟨none, .error⟩]
  else rules.mergeSort fun a b => weight a ≤ weight b

/-- Reads a filter, and tells what was not understood. -/
def ofSpec (spec : String) : LogFilter × List String :=
  let quoted := fun (text : String) => "invalid logging spec '" ++ text ++ "'"
  match Text.splitAt '/' spec with
  | body :: more =>
    if 1 < more.length then (⟨arrange [], none⟩, [quoted spec ++ " (too many '/'s)"])
    else
      let read := (Text.splitAt ',' body).map rule?
      let rules := read.filterMap fun
        | .ok rule => rule
        | .error _ => none
      let faults := read.filterMap fun
        | .ok _ => none
        | .error text => some (quoted text)
      let filter : LogFilter := ⟨arrange (rules.foldl addRule []), none⟩
      match more with
      | [] => (filter, faults)
      | pattern :: _ =>
        match Regex.ofPattern pattern with
        | .ok r => ({ filter with matched := some r }, faults)
        | .error refusal =>
          (filter, faults ++ ["invalid regex filter - " ++ refusal.report pattern])
  | [] => (⟨arrange [], none⟩, [])

/-- The message is shown. -/
def allows (f : LogFilter) (m : LogMessage) : Bool :=
  let rule? := f.rules.reverse.find? fun r => r.place.all fun start => m.place.startsWith start
  rule?.any (fun rule => m.level.rank ≤ rule.level.rank) &&
    f.matched.all fun r => r.occursIn m.text.toList

end LogFilter

/-- What is shown of messages, and whether in colors. -/
structure Journal where
  filter : LogFilter
  colored : Bool

namespace Journal

/-- The line that shows a message, if it is shown. -/
def line? (j : Journal) (m : LogMessage) : Option String :=
  if j.filter.allows m then some (m.line j.colored) else none

/-- The variables that say whether colors are wanted. -/
def variableNames : List String := ["RUST_LOG_STYLE", "NO_COLOR", "CLICOLOR_FORCE"]

/-- Colors are wanted though there is no terminal: the style is given by the first variable, and
where this leaves it open, colors can be forced unless they are forbidden. -/
def wantsColor (lookup : String → Option String) : Bool :=
  let isSet := fun (name : String) => !((lookup name).getD "").isEmpty
  match lookup "RUST_LOG_STYLE" with
  | some "always" => true
  | some "never" => false
  | _ => !isSet "NO_COLOR" && isSet "CLICOLOR_FORCE"

end Journal

end PipeShell
