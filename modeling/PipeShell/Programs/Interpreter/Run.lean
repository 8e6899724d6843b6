import PipeShell.Programs.Interpreter.Own

/-!
# Carrying out commands

A command is carried out by a step that leaves the commands inside it to a runner, and the runner is
such a step with a runner that may go one level less deep. So each rule is said for one command
alone.

A command ends in a status. What has to be left out behind it, the rest of a loop or of a function,
is remembered, and every rule looks at that before it goes on; until then the status stays as it is.
Signals are looked at before and after each command.

## Main definitions

* `Run.command`, `Run.text`: what a command and a text do
* `runner`: carries out commands and texts
* `conclude`: how an interpreter ends
-/

namespace PipeShell.Programs.Interpreter

open PipeShell.Machine
open PipeShell.Text (Octets)
open Act

namespace Run

/-! ## Unwinding -/

/-- Brings back descriptors and variables until no more commands with redirections and functions are
being carried out than the given numbers say. -/
def unwindTo (redirected localized : Nat) : Act Unit := do
  let m ← get
  (List.range (m.kept.length - redirected)).forM fun _ => bringBack false
  (List.range (m.hidden.length - localized)).forM fun _ => closeFrame

/-- Something has cut short what was going on, which is settled: a status that was promised is kept
if that was what the interpreter was asked for. -/
def settle (j : Jump) : Act Unit := do
  unwindTo 0 (← get).hidden.length
  modify fun m => { m with
    status := match m.promised with
      | some s => if j == .asked || m.skip == some (.rest false) then s else m.status
      | none => m.status
    promised := none
    skip := none
    loops := 0 }

/-- Ends the interpreter: what is to be done at the end is done, and the status is told. -/
def conclude (run : Runner) (j : Jump) : Act Nat := do
  settle j
  match (← get).traps.lookup 0 with
  | some action => do
    -- What is done at the end is done once, even if it ends the interpreter itself.
    Own.setTrap 0 none
    modify fun m => { m with promised := some m.status, builtin := none }
    match ← attempt (run {} (.text action)) with
    | .ok _ => do
      modify fun m => { m with skip := some (.rest false) }
      settle .ended
    | .error j => settle j
  | none => pure ()
  return (← get).status

/-! ## Signals -/

/-- There is something to be done about some signal. -/
def hasTraps (m : Memory) : Bool := m.traps.any fun t => !t.2.isEmpty

/-- Does what is to be done about signals, in order, as long as nothing is left out. -/
def answerSignals (run : Runner) : (signals : List Nat) → Act Unit
  | [] => pure ()
  | signal :: rest => do
    let m ← get
    -- What is left has to wait until that which cut this short has been settled.
    if m.skip.isSome then set { m with pending := signal :: rest }
    else
      match m.traps.lookup signal with
      | none => answerSignals run rest
      | some action => do
        -- The commands here see the status from before, and leave it behind unless they have ended.
        let status := m.promised.getD m.status
        let _ ← run {} (.text action)
        modify fun m => if m.skip == some (.rest true) then m else { m with status }
        answerSignals run rest

/-- Looks at the signals that have come, and does what is to be done about them. -/
def checkSignals (run : Runner) : Act Unit := do
  if hasTraps (← get) then do
    let signals := (← get).pending ++ (← ask Script.noted)
    if signals.isEmpty || (← get).skip.isSome then modify fun m => { m with pending := signals }
    else do
      let m ← get
      set { m with pending := [], promised := some (m.promised.getD m.status) }
      answerSignals run (signals.eraseDups.mergeSort (· ≤ ·))
      modify fun after => { after with promised := m.promised }
  else pure ()

/-! ## Children -/

/-- What a child does first: it forgets what was to be done about signals, and, if nobody waits for
it, does not read what others read. -/
def enterChild (background first : Bool) : Act Unit := do
  let m ← get
  m.traps.forM fun (n, action) =>
    if action.isEmpty then pure () else Own.setTrap n none
  modify fun m => { m with kept := [], pending := [], jobs := [] }
  if background then do
    ask (Script.dispose 2 .ignored)
    ask (Script.dispose 3 .ignored)
    if first then do
      -- Number 0 is the least one that is free now, as a rule.
      ask (Script.close 0)
      match ← ask (Script.openFile "/dev/null" .read) with
      | .ok 0 => pure ()
      | .ok fd => do
        let _ ← ask (Script.duplicate fd 0)
        ask (Script.close fd)
      | .error _ => pure ()
    else pure ()
  else pure ()

/-- Starts a child that does something and ends, and gives its number. -/
def startChild (run : Runner) (background first : Bool) (act : Act Unit) : Act Nat := do
  let m ← get
  ask (Script.fork (program m do
    enterChild background first
    match ← attempt act with
    | .ok () => conclude run .ended
    | .error j => conclude run j))

/-- Waits for children, and tells of those that a signal has ended; the status is that of the
last. -/
def waitFor : (status : Nat) → (children : List Nat) → Act Nat
  | status, [] => return status
  | _, child :: rest => do
    let ending ← ask (Script.wait child)
    match ending with
    | .signaled signal =>
      match Signal.report? signal.toNat with
      | some text => tell (text ++ ['\n'])
      | none => pure ()
    | .exited _ => pure ()
    waitFor (Own.statusOf ending) rest

/-- Takes the first place among jobs that is free, or whose job has been waited for. -/
def takePlace (job : Option Job) : Act Unit := modify fun m =>
  let isFree := fun (job : Option Job) => match job with
    | some job => job.ending.isSome
    | none => true
  match m.jobs.findIdx? isFree with
  | some i => { m with jobs := m.jobs.set i job }
  | none => { m with jobs := m.jobs ++ [job] }

/-- Waits for children that have been started to be waited for. -/
def finish (children : List Nat) : Act Nat := do
  takePlace none
  waitFor 0 children

/-- Remembers children that are not waited for. -/
def rememberJob (children : List Nat) : Act Unit := do
  takePlace (some { processes := children })
  modify fun m => { m with background := children.getLast? }

/-- Looks for the program of a command ahead of time, where its name can be seen. -/
def findAhead (c : Command) : Act Unit := do
  match c with
  | .simple _ _ (word :: _) _ =>
    match plainText? word with
    | some name =>
      if isName name then do
        let _ ← find false none name
        pure ()
      else pure ()
    | none => pure ()
  | _ => pure ()

/-- Carries out a command in the present process, as the last thing it does. -/
def finally_ (run : Runner) (standing : Standing) (c : Command) : Act Unit := do
  let _ ← run { standing with last := true } (.command c)
  pure ()

/-- The output of a command. -/
def outputOf (run : Runner) (c : Command) : Act Octets := do
  let (reader, writer) ← ask Script.pipe
  let child ← startChild run false false do
    -- The child only writes; what it writes becomes its standard output.
    ask (Script.close reader)
    if writer = 1 then pure ()
    else do
      let _ ← ask (Script.duplicate writer 1)
      ask (Script.close writer)
    finally_ run {} c
  -- As long as this end is open there is no end of the output.
  ask (Script.close writer)
  let bytes ← ask (Script.slurp reader)
  ask (Script.close reader)
  let status ← finish [child]
  modify fun m => { m with fromSubstitution := status }
  return Octets.ofBytes (bytes.toOption.getD [])

/-- How words are written out. -/
def writing (run : Runner) : Writing := ⟨outputOf run⟩

/-- The children of a pipeline, each of which reads what the one before writes; `input` is where the
next one reads. -/
def startMembers (run : Runner) (standing : Standing) (background : Bool) :
    (first : Bool) → (input : Option Nat) → List Command → Act (List Nat)
  | _, _, [] => return []
  | first, input, c :: rest => do
    -- A program is looked for here, so that the place where it was found is remembered.
    findAhead c
    let output ← if rest.isEmpty then pure none else some <$> ask Script.pipe
    let child ← startChild run background first do
      match output with
      | some (reader, _) => ask (Script.close reader)
      | none => pure ()
      match input with
      | some fd =>
        if fd = 0 then pure ()
        else do
          let _ ← ask (Script.duplicate fd 0)
          ask (Script.close fd)
      | none => pure ()
      match output with
      | some (_, writer) =>
        if writer = 1 then pure ()
        else do
          let _ ← ask (Script.duplicate writer 1)
          ask (Script.close writer)
      | none => pure ()
      finally_ run standing c
    match input with
    | some fd => ask (Script.close fd)
    | none => pure ()
    match output with
    | some (_, writer) => ask (Script.close writer)
    | none => pure ()
    return child :: (← startMembers run standing background false (output.map Prod.fst) rest)

/-- A pipeline. -/
def pipeline (run : Runner) (standing : Standing) (members : List Command) (background : Bool) :
    Act Nat := do
  let children ← startMembers run standing background true none members
  if background then do
    rememberJob children
    return 0
  else finish children

/-- Commands in a child, or in the present process if it has nothing else to do. -/
def subshell (run : Runner) (standing : Standing) (background : Bool) (c : Command)
    (redirects : List Redirect) : Act Nat := do
  let rs ← redirects.mapM (writing run).ready
  let standing := if background then {} else standing
  let inside : Act Unit := do
    (writing run).redirect rs
    finally_ run standing c
  -- Nothing comes after it, so the present process can be the child.
  if !background && standing.last && !hasTraps (← get) then do
    enterChild false false
    inside
    return (← get).status
  else do
    let child ← startChild run background true inside
    if background then do
      rememberJob [child]
      return 0
    else finish [child]

/-! ## Simple commands -/

/-- The fields of the first words that have any, and the words behind them. -/
def firstFields (w : Writing) : List Word → Act (List Octets × List Word)
  | [] => return ([], [])
  | word :: rest => do
    match ← w.fields word with
    | [] => firstFields w rest
    | fields => return (fields, rest)

/-- How a simple command begins: its fields so far, the words that have not been written out yet,
and the place of the field that names the command; what the interpreter itself does under that name;
whether functions are passed over, and which directories are searched; whether an error ends the
interpreter, once that is known; and whether assignments last only as long as the command. -/
structure Head where
  fields : List Octets
  rest : List Word
  start : Nat := 0
  own : Option OwnCommand := none
  passesFunctions : Bool := false
  directories : Option (List Octets) := none
  special : Option Bool := none
  passing : Bool := false

/-- The name of the command. -/
def Head.name (h : Head) : Octets := (h.fields[h.start]?).getD []

/-- The field at a place, if there is one. -/
def Head.field? (w : Writing) (i : Nat) (h : Head) : Act (Option Octets × Head) := do
  match h.fields[i]? with
  | some field => return (some field, h)
  | none => do
    let (fields, rest) ← firstFields w h.rest
    return (fields.head?, { h with fields := h.fields ++ fields, rest })

/-- The place of the command that is to be carried out without regard to functions, from a place on
at which options may stand; nothing where there is no such command. At most `count` options. -/
def Head.behindOptions (w : Writing) : (count : Nat) → (i : Nat) → Head → Act (Option Nat × Head)
  | 0, _, h => return (none, h)
  | count + 1, i, h => do
    let (field?, h) ← h.field? w i
    match field? with
    | none => return (none, h)
    | some ['-', '-'] => do
      let (next?, h) ← h.field? w (i + 1)
      return (next?.map fun _ => i + 1, h)
    | some ('-' :: c :: cs) =>
      if (c :: cs).all (· == 'p') then
        Head.behindOptions w count (i + 1)
          { h with directories := some (directoriesOf usualDirectories) }
      else return (none, h)
    | some _ => return (some i, h)

/-- More words than any command has. -/
def manyWords : Nat := 1000000000

/-- Finds out what the interpreter itself does under the name of the command, through commands that
only ask for another one. At most `count` of these. -/
def Head.settle (w : Writing) : (count : Nat) → Head → Act Head
  | 0, h => return h
  | count + 1, h => do
    let m ← get
    let isFunction := !h.passesFunctions && (m.functions.lookup h.name).isSome
    -- A function hides the command of that name, and a path never names one.
    match (if isFunction || h.name.contains '/' then none else ownCommand? h.name) with
    | none => return { h with own := none, passing := true }
    | some c => do
      let h := { h with
        own := some c
        special := some (h.special.getD c.special)
        passing := if h.special.isNone then !c.special else true }
      -- What is asked for through it is looked for without functions.
      if h.name != "command".toList then return h
      else
        match ← h.behindOptions w manyWords (h.start + 1) with
        | (none, h) => return h
        | (some start, h) => Head.settle w count { h with start, passesFunctions := true }

/-- The fields of the words that are left. -/
def Head.finish (w : Writing) (h : Head) : Act Head := do
  let assigns := h.own.any OwnCommand.assigns
  let others ← h.rest.mapM fun word => do
    -- Such a command assigns like an assignment: its words are not cut into fields.
    match (if assigns then assignment? word else none) with
    | some (name, value) => return [name ++ '=' :: (← w.single .colons value)]
    | none => w.fields word
  return { h with fields := h.fields ++ others.flatten, rest := [] }

/-- Shows a command before it is carried out. -/
def trace (w : Writing) (assignments : List (Octets × Octets)) (fields : List Octets) :
    Act Unit := do
  let m ← get
  if m.isOn 'x' then do
    let lead ← match (readParts .here manyWords 0 []).run
      { rest := (m.valueOf? "PS4").getD [] } with
      | .ok (parts, _) => do
        -- What stands in front may run commands, which are not shown.
        set { m with options := m.options.filter (· != 'x') }
        let lead ← w.single .none (inOrder parts)
        modify fun after => { after with options := m.options }
        pure lead
      | .error _ => pure []
    let shown := assignments.map fun (name, value) => name ++ '=' :: value
    ask (Call.sayOctets m.tracesTo (lead ++ [' '].intercalate (shown ++ fields) ++ ['\n']))
  else pure ()

/-- One of the interpreter's own commands. An error in it is the end of it alone, unless it is a
special one. -/
def ownCommand (run : Runner) (standing : Standing) (special : Bool) (fields : List Octets) :
    Act Nat := do
  let name := fields.headD []
  let outer := (← get).builtin
  modify fun m => { m with builtin := some name, outputFailed := false }
  match ← attempt (Own.carryOut run standing name fields.tail) with
  | .ok status => do
    let m ← get
    if m.outputFailed then warn (name ++ ": I/O error".toList) else pure ()
    let status := if m.outputFailed then status ||| 1 else status
    modify fun m => { m with builtin := outer, outputFailed := false, status }
    return status
  | .error j => do
    modify fun m => { m with builtin := outer, outputFailed := false }
    if j == .error && !special then return (← get).status else throw j

/-- A function. -/
def function (run : Runner) (standing : Standing) (body : Command) (args : List Octets) :
    Act Nat := do
  let outer ← get
  -- A loop outside of a function cannot be left from inside of it.
  set { outer with arguments := args, optionIndex := 1, optionOffset := none, loops := 0 }
  let result ← attempt (run { standing with last := false } (.command body))
  modify fun m => { m with
    arguments := outer.arguments
    optionIndex := outer.optionIndex
    optionOffset := outer.optionOffset
    loops := outer.loops
    skip := match m.skip with
      | some (.rest _) => none
      | other => other }
  let _ ← resume result
  return (← get).status

/-- A program, in a child or, if nothing comes after it, in the place of the interpreter. -/
def program (standing : Standing) (directories : List Octets) (fields : List Octets) :
    Act Nat := do
  let m ← get
  if standing.last && !hasTraps m then become directories fields
  else do
    let child ← ask (Script.fork (Act.program m (become directories fields)))
    finish [child]

/-- What a simple command does once its words have been written out and descriptors redirected. -/
def carryOut (run : Runner) (standing : Standing) (h : Head) : Act Nat := do
  let fields := h.fields.drop h.start
  match fields with
  | [] => return (← get).fromSubstitution
  | name :: args =>
    match h.own with
    | some _ => ownCommand run standing (h.special.getD false) fields
    | none => do
      match ← find h.passesFunctions h.directories name with
      | .function body => function run standing body args
      | .own _ => ownCommand run standing (h.special.getD false) fields
      | .program _ => program standing (h.directories.getD (searched (← get))) fields
      | .nothing cause => do
        warn (runProblem name cause)
        return 127

/-- A simple command: words are written out, then descriptors redirected, then variables set. -/
def simple (run : Runner) (standing : Standing) (assignments : List (Octets × Word))
    (words : List Word) (redirects : List Redirect) : Act Nat := do
  let w := writing run
  modify fun m => { m with fromSubstitution := 0 }
  let redirected := (← get).kept.length
  let localized := (← get).hidden.length
  let (fields, rest) ← firstFields w words
  let h ← if fields.isEmpty then pure { fields, rest }
    else do (← Head.settle w manyWords { fields, rest }).finish w
  -- From here on assignments are taken back when the command is over.
  if h.passing then openFrame else pure ()
  modify fun m => { m with tracesTo := 2 }
  let rs ← redirects.mapM w.ready
  let status ← w.redirectKeeping rs
  let isExec := h.own.isSome && h.name == "exec".toList
  if status != 0 then do
    modify fun m => { m with status }
    -- A special command ends the interpreter where its redirections fail.
    if h.special == some true then throw .error
    else do
      unwindTo redirected localized
      return status
  else do
    match ((← get).kept.headD []).lookup 2 with
    -- Commands are shown where standard error was before it was redirected.
    | some (.copy fd) => modify fun m => { m with tracesTo := fd }
    | _ => pure ()
    let values ← assignments.mapM fun (name, word) => do
      let value ← w.single .colons word
      if h.passing then hide name else pure ()
      setVariable name value (h.passing || (isExec && h.start + 1 < h.fields.length))
      return (name, value)
    trace w values h.fields
    let status ← carryOut run standing h
    if isExec then bringBack true else pure ()
    unwindTo redirected localized
    return status

/-! ## Loops and choices -/

/-- A round of a loop is over: whether the loop goes on. What is left out of loops further out
remains to be left out. -/
def goesOn : Act Bool := do
  let m ← get
  match m.skip with
  | none => return true
  | some (.loops count) => do
    set { m with skip := if count ≤ 1 then none else some (.loops (count - 1)) }
    return false
  | some (.round count) => do
    set { m with skip := if count ≤ 1 then none else some (.round (count - 1)) }
    return count ≤ 1
  | some (.rest _) => return false

/-- Does something inside of one more loop. -/
def inLoop (act : Act Nat) : Act Nat := do
  modify fun m => { m with loops := m.loops + 1 }
  let status ← act
  modify fun m => { m with loops := m.loops - 1 }
  return status

/-- A loop that goes on as long as a command succeeds, or as long as it fails. -/
def loop (run : Runner) (standing : Standing) (inverse : Bool) (test body : Command) : Act Nat :=
  inLoop (iterate (fun (status : Nat) => do
    let tested ← run { tested := true } (.command test)
    -- The condition itself may leave the loop.
    match (← get).skip with
    | some (.rest _) => return .inr tested
    | some _ => do
      if ← goesOn then return .inl status else return .inr status
    | none =>
      if (tested == 0) == inverse then return .inr status
      else do
        let status ← run standing (.command body)
        if ← goesOn then return .inl status else return .inr status) 0)

/-- A loop over fields. -/
def forEach (run : Runner) (standing : Standing) (name : Octets) (body : Command) :
    (status : Nat) → List Octets → Act Nat
  | status, [] => return status
  | _, field :: rest => do
    setVariable name field false
    let status ← run standing (.command body)
    if ← goesOn then forEach run standing name body status rest else return status

/-- A text matches one of some patterns. -/
def matchesAny (w : Writing) (text : Octets) : List Word → Act Bool
  | [] => return false
  | pattern :: rest => do
    if Glob.accepts (← w.pattern pattern) text then return true else matchesAny w text rest

/-- The command of the first case that a text matches. -/
def chooseCase (w : Writing) (text : Octets) :
    List (List Word × Option Command) → Act (Option Command)
  | [] => return none
  | (patterns, body) :: rest => do
    if ← matchesAny w text patterns then return body else chooseCase w text rest

/-! ## Commands -/

/-- How a command ends: the status of a command that has one of its own becomes that of the
interpreter. -/
inductive Outcome where
  | own (status : Nat)
  | inner (status : Nat)

/-- The line in which a command begins is where errors are. -/
def beginLine (line : Nat) : Act Unit := modify fun m => { m with line }

/-- What a command does. -/
def effect (run : Runner) (standing : Standing) (c : Command) : Act Outcome := do
  let w := writing run
  let inside : Standing := { standing with last := false }
  let skips : Act Bool := do return (← get).skip.isSome
  match c with
  | .simple line assignments words redirects => do
    beginLine line
    .own <$> simple run standing assignments words redirects
  | .pipeline members background => .own <$> pipeline run standing members background
  | .negated c => do
    let status ← run { tested := true } (.command c)
    return .own (if status = 0 then 1 else 0)
  | .background c => .own <$> subshell run standing true c []
  | .subshell line c redirects => do
    beginLine line
    .own <$> subshell run standing false c redirects
  | .redirected line c redirects => do
    beginLine line
    let depth := (← get).kept.length
    let rs ← redirects.mapM w.ready
    let status ← w.redirectKeeping rs
    let status ← if status = 0 then run inside (.command c) else pure status
    unwindTo depth (← get).hidden.length
    return .own status
  | .both a b => do
    let status ← run { tested := true } (.command a)
    if status != 0 || (← skips) then return .inner status
    else .own <$> run standing (.command b)
  | .either a b => do
    let status ← run { tested := true } (.command a)
    if status = 0 || (← skips) then return .inner status
    else .own <$> run standing (.command b)
  | .sequence a b => do
    let status ← run inside (.command a)
    if ← skips then return .inner status else .own <$> run standing (.command b)
  | .conditional test then_ else_ => do
    let status ← run { tested := true } (.command test)
    if ← skips then return .inner status
    else if status = 0 then .own <$> run standing (.command then_)
    else match else_ with
      | some c => .own <$> run standing (.command c)
      | none => return .own 0
  | .loop inverse test body => .own <$> loop run inside inverse test body
  | .forEach line name words body => do
    beginLine line
    let fields ← w.allFields words
    .own <$> inLoop (forEach run inside name body 0 fields)
  | .select line word cases => do
    beginLine line
    let text ← w.single .start word
    match ← chooseCase w text cases with
    | some body => .own <$> run standing (.command body)
    | none => return .own 0
  | .define _ name body => do
    modify fun m => { m with
      functions := (name, body) :: m.functions.filter fun f => f.1 != name }
    return .own 0

/-- A status other than 0 of such a command may end the interpreter. -/
def canEnd : Command → Bool
  | .simple .. | .pipeline .. | .background _ | .subshell .. => true
  | _ => false

/-- Carries out a command. -/
def command (run : Runner) (standing : Standing) (c : Command) : Act Nat := do
  if (← get).isOn 'n' then return 0
  else do
    checkSignals run
    let status ← match ← effect run standing c with
      | .own status => do
        modify fun m => if m.skip.isSome then m else { m with status }
        pure status
      | .inner status => pure status
    checkSignals run
    let m ← get
    let status := if m.skip.isSome then m.status else status
    -- Only a command that nobody looks at ends the interpreter by its status.
    if m.isOn 'e' && canEnd c && !standing.tested && status != 0 then throw .ended
    else if standing.last then throw .ended
    else return status

/-! ## Texts -/

/-- Takes over what reading has come to. -/
def takeOver (source : Source) : Act Unit :=
  modify fun m => { m with
    texts := source.texts ++ m.texts
    nextText := source.nextText
    reached := source.line }

/-- Complains of what is wrong in a text. -/
def complainOf {α : Type} (line : Nat) (text : Octets) : Act α := do
  modify fun m => { m with line, reached := line }
  fault text

/-- Carries out a text command by command. -/
def text (run : Runner) (standing : Standing) (cs : Octets) : Act Nat := do
  let outer := (← get).reached
  let status ← iterate (fun ((source : Source), (status : Nat)) => do
    let m ← get
    match readCommand { source with texts := [], nextText := m.nextText, aliases := m.aliases } with
    | .error .more => return .inr status
    | .error (.wrong line text) => complainOf line text
    | .error (.lacking line what) => complainOf line ("Syntax error: " ++ what.message).toList
    | .ok (listed, source) => do
      takeOver source
      match listed with
      | .ended => return .inr status
      | .nothing => return .inl (source, status)
      | .command c => do
        -- It is the last one where reading has already met the end of the text behind it.
        let isLast := source.pushed && source.last == .finish
        let status ← run { standing with last := standing.last && isLast } (.command c)
        if (← get).skip.isSome then return .inr status else return .inl (source, status))
    ({ rest := cs }, 0)
  modify fun m => { m with reached := outer }
  return status

end Run

/-- A step of carrying out, given how to carry out what is inside. -/
def carryOutWith (run : Runner) : Runner := fun standing task =>
  match task with
  | .command c => Run.command run standing c
  | .text cs => Run.text run standing cs

/-- Carries out commands and texts that go at most `depth` levels deep. -/
def runnerWithin : (depth : Nat) → Runner
  | 0 => fun _ _ => throw .ended
  | depth + 1 => fun standing task => carryOutWith (runnerWithin depth) standing task

/-- More levels than any command has. -/
def runner : Runner := runnerWithin 1000000000

end PipeShell.Programs.Interpreter
