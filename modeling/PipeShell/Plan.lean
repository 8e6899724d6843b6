import PipeShell.Error
import PipeShell.Redirect

/-!
# Resolving redirections

The words of a command are read from left to right. A word that begins with an operator is a
redirection, whose operand is the rest of the word or else the next word, which must not begin with
an operator itself; every other word is an argument. Files are only recorded. The text of a `<<` is
captured at once, so that it has been read before any program runs.

Capturing may change a state and may fail. A failure ends the reading of this command.

## Main definitions

* `Capture`: how a text is captured
* `Plan.resolve`: reads the words of one command
* `Plan.resolveAll`: reads the commands of a pipeline, in order, each whatever became of the others
-/

namespace PipeShell

/-- Captures the lines up to a delimiter: what was captured, or why nothing was, and the state that
the attempt leaves. -/
abbrev Capture (σ κ : Type) := String → σ → Except Errno κ × σ

variable {σ κ : Type}

/-- What the operand of an operator stands for. -/
def Source.ofOperand (capture : Capture σ κ) (kind : RedirectKind) (operand : String) (s : σ) :
    Except RedirectionError (Source κ) × σ :=
  match kind with
  | .heredoc =>
    match capture operand s with
    | (.ok body, s) => (.ok (.captured body), s)
    | (.error cause, s) => (.error (.heredoc cause), s)
  -- Files are opened later, by the process itself.
  | kind => (.ok (.file operand kind), s)

namespace Plan

/-- The binding that an operator with its operand asks for. -/
def binding (kind : RedirectKind) (operand : String) (source : Source κ) : Binding κ :=
  { fd := kind.targetFd, source, redirect := { kind, target := operand } }

/-- Reads the words of one command. -/
def resolve (capture : Capture σ κ) : List String → σ → Except RedirectionError (Plan κ) × σ
  | [], s => (.ok .empty, s)
  | word :: rest, s =>
    match splitOperator? word with
    | none =>
      let (plan, s) := resolve capture rest s
      (plan.map (consArg word), s)
    | some (kind, glued) =>
      if glued ≠ "" then
        match Source.ofOperand capture kind glued s with
        | (.error e, s) => (.error e, s)
        | (.ok source, s) =>
          let (plan, s) := resolve capture rest s
          (plan.map (consBinding (binding kind glued source)), s)
      else
        -- The operator stands alone, so the operand is the next word.
        match rest with
        | [] => (.error (.missingOperand kind), s)
        | operand :: rest =>
          if (splitOperator? operand).isSome then (.error (.missingOperand kind), s)
          else
            match Source.ofOperand capture kind operand s with
            | (.error e, s) => (.error e, s)
            | (.ok source, s) =>
              let (plan, s) := resolve capture rest s
              (plan.map (consBinding (binding kind operand source)), s)

/-- Reads the commands of a pipeline in order. -/
def resolveAll (capture : Capture σ κ) :
    List (List String) → σ → List (Except RedirectionError (Plan κ)) × σ
  | [], s => ([], s)
  | words :: rest, s =>
    let (plan, s) := resolve capture words s
    let (plans, s) := resolveAll capture rest s
    (plan :: plans, s)

end Plan

end PipeShell
