import PipeShell.Error
import PipeShell.Text.Blank

/-!
# Lines as pipelines

A line is cut into stages at every `|`, and a stage into words at blanks. Each word gives way to the
words that expansion puts in its place, where it stood. A stage without words is a syntax error.

## Main definitions

* `Pipeline`: the stages, each the words of one command, redirections included
* `Pipeline.ofLine?`: reads a line
-/

namespace PipeShell

/-- The words of one stage. The first names the program. -/
abbrev Command := List String

/-- The stages of a line, from left to right. -/
structure Pipeline where
  commands : List Command
  deriving DecidableEq, Repr

/-- The first word of a command. -/
def Command.name? (c : Command) : Option String := List.head? c

namespace Pipeline

/-- The number of stages. -/
def length (p : Pipeline) : Nat := p.commands.length

/-- The words of the text of one stage. -/
def commandWords (expand : String → List String) (text : String) : Command :=
  (Text.words text).flatMap expand

/-- Reads one stage. -/
def command? (expand : String → List String) (text : String) : Except ParseError Command :=
  if (commandWords expand text).isEmpty then .error .emptyPipeline
  else .ok (commandWords expand text)

/-- Reads a line, given the words that take the place of each word. -/
def ofLine? (expand : String → List String) (line : String) : Except ParseError Pipeline :=
  ((Text.splitAt '|' line).mapM (command? expand)).map Pipeline.mk

end Pipeline

end PipeShell
