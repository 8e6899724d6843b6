import PipeShell.Programs.Interpreter.Command

/-!
# Reading commands

Commands are read one complete line at a time, since what a command does may depend on what those
before it did. Reading stops short where the text at hand does not hold a whole command and more may
follow. A text for standard input is named when its command is read and read at the end of the line.

Whether a word is a keyword depends on where it stands, so the reader of tokens is told what is
possible before each token, and a token that was put back is looked at again.

## Main definitions

* `Token`: what lines are made of
* `Source`: where reading stands
* `Halt`: why reading stops without a command
* `readCommand`: reads one command
-/

namespace PipeShell.Programs.Interpreter

open PipeShell.Text (Octets)

/-! ## Tokens -/

/-- What lines are made of. -/
inductive Token where
  | finish
  | newline
  | semicolon
  | ampersand
  | andThen
  | orElse
  | bar
  | opening
  | closing
  | endOfCase
  | redirection
  | word
  | keyword (name : String)
  deriving DecidableEq, Repr

/-- What a message calls a token. -/
def Token.text : Token → String
  | finish => "end of file"
  | newline => "newline"
  | semicolon => "\";\""
  | ampersand => "\"&\""
  | andThen => "\"&&\""
  | orElse => "\"||\""
  | bar => "\"|\""
  | opening => "\"(\""
  | closing => "\")\""
  | endOfCase => "\";;\""
  | redirection => "redirection"
  | word => "word"
  | keyword name => "\"" ++ name ++ "\""

/-- The words with a meaning of their own. -/
def keywords : List String :=
  ["!", "case", "do", "done", "elif", "else", "esac", "fi", "for", "if", "in", "then", "until",
   "while", "\x7b", "\x7d"]

/-- A list of commands may end in front of the token. -/
def Token.endsList : Token → Bool
  | finish | closing | endOfCase => true
  | keyword name =>
    ["do", "done", "elif", "else", "esac", "fi", "then", "\x7d"].contains name
  | _ => false

/-! ## Where reading stands -/

/-- What may stand next: a keyword, line feeds to be skipped, an alias, or the mark that ends a
text. -/
structure Checks where
  keyword : Bool := false
  newlines : Bool := false
  aliases : Bool := false
  mark : Bool := false

def Checks.or (a b : Checks) : Checks :=
  ⟨a.keyword || b.keyword, a.newlines || b.newlines, a.aliases || b.aliases, a.mark || b.mark⟩

/-- A text that is to be read at the end of the line: its number, the line that ends it, whether
tabs in front of its lines are dropped, and whether it is taken as it stands. -/
structure Pending where
  number : Nat
  mark : Octets
  trimmed : Bool
  literal : Bool

/-- A redirection whose target has not been read yet. -/
inductive Arrow where
  | file (opening : Opening)
  | copy
  | here (trimmed : Bool)

/-- Where reading stands: what is left, in which line, and whether nothing follows it; the last
token, whether it was put back, and what belongs to it; what may stand next; the texts that are to
be read and those that have been, with their numbers; and the aliases, with those that are being
read, how much of the text was left behind each, and whether a blank ends it. -/
structure Source where
  rest : Octets
  line : Nat := 1
  ended : Bool := true
  last : Token := .newline
  pushed : Bool := false
  word : Word := []
  quoted : Bool := false
  arrow : Nat × Arrow := (0, .copy)
  checks : Checks := {}
  pending : List Pending := []
  texts : List (Nat × Word) := []
  nextText : Nat := 0
  aliases : List (Octets × Octets) := []
  busy : List (Octets × Nat × Bool) := []

/-- What is missing where a text ends. -/
inductive Lacking where
  | quote
  | brace
  | parentheses
  | backquote
  deriving DecidableEq

/-- What a message says is missing. -/
def Lacking.message : Lacking → String
  | quote => "Unterminated quoted string"
  | brace => "Missing '\x7d'"
  | parentheses => "Missing '))'"
  | backquote => "EOF in backquote substitution"

/-- Why reading stops: more is needed, something is wrong in a line, or the text ends in a line
where something is missing. -/
inductive Halt where
  | more
  | wrong (line : Nat) (text : Octets)
  | lacking (line : Nat) (what : Lacking)

/-- A step of reading. -/
abbrev Parsing := StateT Source (Except Halt)

namespace Parsing

/-- Something is wrong in the present line. -/
def wrong {α : Type} (text : String) : Parsing α := do
  throw (.wrong (← get).line text.toList)

/-- The text ends where something is missing. -/
def lacks {α : Type} (what : Lacking) : Parsing α := do
  throw (.lacking (← get).line what)

/-- The last token stands where it must not, or where another one was expected. -/
def unexpected {α : Type} (expected : Option Token) : Parsing α := do
  let found := (← get).last.text ++ " unexpected"
  wrong ("Syntax error: " ++ match expected with
    | some token => found ++ " (expecting " ++ token.text ++ ")"
    | none => found)

/-- Takes the next character; `none` at the end. -/
def next : Parsing (Option Char) := do
  let s ← get
  match s.rest with
  | [] => if s.ended then return none else throw .more
  | c :: rest =>
    set { s with rest, line := if c == '\n' then s.line + 1 else s.line }
    return some c

/-- Skips line feeds behind backslashes. -/
def joinLines : (count : Nat) → Parsing Unit
  | 0 => pure ()
  | count + 1 => do
    let s ← get
    match s.rest with
    | '\\' :: '\n' :: rest =>
      set { s with rest, line := s.line + 1 }
      joinLines count
    | ['\\'] => if s.ended then pure () else throw .more
    | [] => if s.ended then pure () else throw .more
    | _ => pure ()

/-- The next character behind line feeds that do not count; `none` at the end. -/
def peek : Parsing (Option Char) := do
  joinLines ((← get).rest.length + 1)
  return (← get).rest.head?

/-- Takes a character if it stands next. -/
def take? (c : Char) : Parsing Bool := do
  if (← peek) == some c then do
    let _ ← next
    return true
  else return false

/-- Takes characters as long as they are of a kind; at most `count`. -/
def takeWhile (p : Char → Bool) : (count : Nat) → Parsing Octets
  | 0 => pure []
  | count + 1 => do
    match ← peek with
    | some c =>
      if p c then do
        let _ ← next
        return c :: (← takeWhile p count)
      else return []
    | none => return []

/-- What may stand next. -/
def expect (checks : Checks) : Parsing Unit := modify fun s => { s with checks }

/-- Puts the last token back. -/
def putBack : Parsing Unit := modify fun s => { s with pushed := true }

/-- Leaves a token. -/
def leave (last : Token) : Parsing Token := do
  modify fun s => { s with last }
  return last

end Parsing

open Parsing

/-! ## Characters -/

/-- A character that can begin a name. -/
def isNameStart (c : Char) : Bool := c.isAlpha || c == '_'

/-- A character that can stand in a name. -/
def isNameChar (c : Char) : Bool := c.isAlphanum || c == '_'

/-- A parameter of its own. -/
def isSpecial (c : Char) : Bool := c.isDigit || "!#$*-?@".toList.contains c

/-- A text is a name. -/
def isName (cs : Octets) : Bool := cs.head?.any isNameStart && cs.all isNameChar

/-- A character that ends a word. -/
def endsWord (c : Char) : Bool := " \t\n;&|<>()".toList.contains c

/-! ## Words -/

/-- Where a part of a word stands: by itself, between double quotes, in braces outside and inside of
double quotes, in an arithmetic expression, or in a text for standard input. -/
inductive Mode where
  | bare
  | quotes
  | braces
  | quotedBraces
  | arithmetic
  | here
  deriving DecidableEq

/-- What stands there is quoted. -/
def Mode.isQuoted (m : Mode) : Bool := m != .bare && m != .braces

/-- Adds a character to parts, the latest first, of which the first may be a text in reverse. -/
def pushChar (quoted : Bool) (c : Char) : List Part → List Part
  | .text cs q :: parts =>
    if q == quoted then .text (c :: cs) q :: parts else .text [c] quoted :: .text cs q :: parts
  | parts => .text [c] quoted :: parts

/-- Adds characters. -/
def pushChars (quoted : Bool) (cs : Octets) (parts : List Part) : List Part :=
  cs.foldl (fun parts c => pushChar quoted c parts) parts

/-- Parts in order. -/
def inOrder (parts : List Part) : Word :=
  (parts.map fun
    | .text cs q => .text cs.reverse q
    | part => part).reverse

/-- The text between single quotes, whose first quote has been taken. -/
def singleQuoted : (count : Nat) → Parsing Octets
  | 0 => lacks .quote
  | count + 1 => do
    match ← next with
    | none => lacks .quote
    | some '\'' => return []
    | some c => return c :: (← singleQuoted count)

/-- The text up to a backquote; a backslash is dropped in front of what it protects. -/
def backquoted (quoted : Bool) : (count : Nat) → Parsing Octets
  | 0 => lacks .backquote
  | count + 1 => do
    match ← next with
    | none => lacks .backquote
    | some '\x60' => return []
    | some '\\' => do
      match ← next with
      | none => lacks .backquote
      | some c =>
        let dropped := c == '\\' || c == '\x60' || c == '$' || (quoted && c == '"')
        let rest ← backquoted quoted count
        return if dropped then c :: rest else '\\' :: c :: rest
    | some c => return c :: (← backquoted quoted count)

/-- Drops a character that means nothing where it stands; not even a line feed counts. -/
def discard : Parsing Unit := modify fun s => { s with rest := s.rest.drop 1 }

/-- A parameter in braces: its name, what is done with it, and whether the closing brace has been
taken; an unknown form is malformed. -/
def bracedParameter : Parsing (Octets × Treatment × Bool) := do
  let count := (← get).rest.length
  let treated := fun (name : Octets) => do
    let colon ← take? ':'
    let of := fun (t : Treatment) => do
      let _ ← next
      return (name, t, false)
    match ← peek with
    | some '\x7d' => do
      let _ ← next
      return (name, .plain, !colon)
    | some '-' => of (.default colon)
    | some '+' => of (.alternative colon)
    | some '?' => of (.demand colon)
    | some '=' => of (.assign colon)
    | some c =>
      -- Nothing else is known here; what is left of it is read as its word and fails later.
      if colon || (c != '%' && c != '#') then do
        discard
        return (name, .malformed, false)
      else do
        let _ ← next
        let twice ← take? c
        return (name, if c == '%' then .cutEnd twice else .cutStart twice, false)
    | none => return (name, .malformed, false)
  let measured := fun (name : Octets) => do
    if ← take? '\x7d' then return (name, Treatment.length, true)
    else return (name, .malformed, false)
  match ← peek with
  | none => return ([], .malformed, false)
  | some '\x7d' => return ([], .malformed, false)
  | some '#' => do
    let _ ← next
    match ← peek with
    | some c =>
      if isNameStart c then measured (← takeWhile isNameChar count)
      else if c.isDigit then measured (← takeWhile Char.isDigit count)
      else if c == '\x7d' then treated ['#']
      -- Either the length of a special parameter or something done with the number of arguments.
      else do
        let before ← get
        let _ ← next
        if (← peek) == some '\x7d' then
          if isSpecial c then measured [c] else return ([], .malformed, false)
        else do
          set before
          treated ['#']
    | none => return (['#'], .malformed, false)
  | some c =>
    if isNameStart c then treated (← takeWhile isNameChar count)
    else if c.isDigit then treated (← takeWhile Char.isDigit count)
    else if isSpecial c then do
      let _ ← next
      treated [c]
    else do
      discard
      return ([], .malformed, false)

/-- The line that ends a text, and the text before it. Tabs in front of lines may be dropped, and a
backslash at the end of a line that is not literal joins it with the next one. -/
def hereLines (p : Pending) : (count : Nat) → (joined : Bool) → Parsing Octets
  | 0, _ => pure []
  | count + 1, joined => do
    let s ← get
    let whole := s.rest.takeWhile (· != '\n')
    let ends := whole.length < s.rest.length
    if !ends && !s.ended then throw .more
    else
      let line := if p.trimmed && !joined then whole.dropWhile (· == '\t') else whole
      if line == p.mark && !joined then do
        set { s with rest := s.rest.drop (whole.length + 1), line := s.line + 1 }
        return []
      else if !ends then do
        set { s with rest := [] }
        return line
      else do
        set { s with rest := s.rest.drop (whole.length + 1), line := s.line + 1 }
        -- An odd number of backslashes: the last one is not protected.
        let joins := !p.literal && (line.reverse.takeWhile (· == '\\')).length % 2 == 1
        return line ++ '\n' :: (← hereLines p count joins)

/-- The kinds of lists: of a whole line, of commands up to a token that ends them, or the same where
there need not be any. -/
inductive ListKind where
  | line
  | some
  | any
  deriving DecidableEq

/-- A list of commands, or that there is none, or that the text has come to its end. -/
inductive Listed where
  | nothing
  | command (c : Command)
  | ended

def Listed.command? : Listed → Option Command
  | command c => .some c
  | _ => none

/-- Two commands one after another. -/
def Listed.andThen (a : Listed) (b : Command) : Listed :=
  match a with
  | command a => .command (.sequence a b)
  | _ => .command b

/-- A command that is not waited for. -/
def Command.inBackground : Command → Command
  | .pipeline members _ => .pipeline members true
  | c => .background c

/-- The assignment that a word is. -/
def assignment? (w : Word) : Option (Octets × Word) :=
  match w with
  | .text cs false :: rest =>
    let name := cs.takeWhile isNameChar
    if isName name then
      match cs.drop name.length with
      | ['='] => some (name, rest)
      | '=' :: value => some (name, .text value false :: rest)
      | _ => none
    else none
  | _ => none

/-- The characters of a word that has nothing else in it. -/
def plainText? (w : Word) : Option Octets :=
  match w with
  | [.text cs false] => some cs
  | _ => none

/-- The characters of a word without its quotes; other parts are left out. -/
def literalText (w : Word) : Octets :=
  w.flatMap fun
    | .text cs _ => cs
    | _ => []

/-- The commands that are part of the interpreter in such a way that no function can have their
name. -/
def specialNames : List String :=
  [".", ":", "break", "continue", "eval", "exec", "exit", "export", "readonly", "return", "set",
   "shift", "times", "trap", "unset", "local"]

/-- The sign of a redirection, of a descriptor if one is named. -/
def readArrow (fd : Option Nat) : Parsing Token := do
  let found := fun (usual : Nat) (arrow : Arrow) => do
    modify fun s => { s with arrow := (fd.getD usual, arrow) }
    leave .redirection
  match ← next with
  | some '>' => do
    if ← take? '>' then found 1 (.file .append)
    else if ← take? '|' then found 1 (.file .clobber)
    else if ← take? '&' then found 1 .copy
    else found 1 (.file .write)
  | _ => do
    if ← take? '<' then found 0 (.here (← take? '-'))
    else if ← take? '&' then found 0 .copy
    else if ← take? '>' then found 0 (.file .both)
    else found 0 (.file .read)

/-! ## The grammar

Every function is given a bound on how deep it may go, which is larger than any text can need. -/

mutual

/-- The parts of a word up to its end, which is taken if it is a sign of its own. -/
def readParts (mode : Mode) : (fuel : Nat) → (depth : Nat) → List Part → Parsing (List Part)
  | 0, _, parts => pure parts
  | fuel + 1, depth, parts => do
    let quoted := mode.isQuoted
    let goOn := fun (c : Char) => do
      let _ ← next
      readParts mode fuel depth (pushChar quoted c parts)
    match ← peek with
    | none =>
      match mode with
      | .bare | .here => return parts
      | .quotes | .quotedBraces => lacks .quote
      | .braces => lacks .brace
      | .arithmetic => lacks .parentheses
    | some '\\' => do
      let _ ← next
      match ← next with
      | none => readParts mode fuel depth (pushChar true '\\' parts)
      | some c =>
        -- Between quotes a backslash stands for itself unless it protects something there.
        let kept := quoted && c != '\\' && c != '\x60' && c != '$' &&
          (c != '"' || mode == .here || mode == .arithmetic) &&
          (c != '\x7d' || mode != .quotedBraces)
        modify fun s => { s with quoted := true }
        let parts := if kept then pushChar true '\\' parts else parts
        readParts mode fuel depth (pushChar true c parts)
    | some '\'' =>
      if quoted then goOn '\''
      else do
        let _ ← next
        let cs ← singleQuoted ((← get).rest.length + 1)
        modify fun s => { s with quoted := true }
        readParts mode fuel depth (pushChars true cs (.quotes :: parts))
    | some '"' =>
      match mode with
      | .quotes => do
        let _ ← next
        return parts
      | .here | .arithmetic => goOn '"'
      | .bare | .braces | .quotedBraces => do
        let _ ← next
        let inner ← readParts .quotes fuel 0 []
        modify fun s => { s with quoted := true }
        readParts mode fuel depth (inner ++ .quotes :: parts)
    | some '$' => do
      let _ ← next
      let part ← readDollar mode fuel
      match part with
      | none => readParts mode fuel depth (pushChar quoted '$' parts)
      | some part => readParts mode fuel depth (part :: parts)
    | some '\x60' => do
      let _ ← next
      -- The text is read as a whole and then once more as commands.
      let text ← backquoted quoted ((← get).rest.length + 1)
      let outer ← get
      set { outer with
        rest := text
        line := 1
        ended := true
        pending := []
        checks := {}
        pushed := false }
      let body ← readList fuel .any
      modify fun s => { outer with texts := s.texts, nextText := s.nextText }
      readParts mode fuel depth (.output body.command? quoted :: parts)
    | some '\x7d' =>
      if mode == .braces || mode == .quotedBraces then do
        let _ ← next
        return parts
      else goOn '\x7d'
    | some '(' =>
      match mode with
      | .bare => return parts
      | .arithmetic => do
        let _ ← next
        readParts mode fuel (depth + 1) (pushChar quoted '(' parts)
      | _ => goOn '('
    | some ')' =>
      match mode, depth with
      | .bare, _ => return parts
      | .arithmetic, 0 => do
        let _ ← next
        if ← take? ')' then return parts
        else readParts mode fuel depth (pushChar quoted ')' parts)
      | .arithmetic, depth + 1 => do
        let _ ← next
        readParts mode fuel depth (pushChar quoted ')' parts)
      | _, _ => goOn ')'
    | some c => if mode == .bare && endsWord c then return parts else goOn c
termination_by structural fuel => fuel

/-- What a dollar sign stands for, which has been taken; nothing if for itself. -/
def readDollar (mode : Mode) : (fuel : Nat) → Parsing (Option Part)
  | 0 => pure none
  | fuel + 1 => do
    let quoted := mode.isQuoted
    -- The line that ends a text is taken as it is written.
    if (← get).checks.mark then return none
    else match ← peek with
      | none => return none
      | some '(' => do
        let _ ← next
        if ← take? '(' then do
          let inner ← readParts .arithmetic fuel 0 []
          return some (.arithmetic (inOrder inner) quoted)
        else do
          let outer ← get
          -- Texts that the line outside asks for come behind its own end.
          set { outer with pending := [], checks := {}, pushed := false }
          let body ← readList fuel .any
          if (← readToken fuel) != .closing then unexpected (some .closing)
          else do
            readTexts fuel
            modify fun s =>
              { s with pending := outer.pending, checks := {}, quoted := outer.quoted }
            return some (.output body.command? quoted)
      | some '\x7b' => do
        let _ ← next
        let (name, treatment, closed) ← bracedParameter
        if closed then return some (.parameter name treatment [] quoted)
        else do
          let inner : Mode := match treatment with
            | .cutStart _ | .cutEnd _ => .braces
            | _ => if quoted then .quotedBraces else .braces
          let word ← readParts inner fuel 0 []
          return some (.parameter name treatment (inOrder word) quoted)
      | some c =>
        if isNameStart c then do
          let name ← takeWhile isNameChar (← get).rest.length
          return some (.parameter name .plain [] quoted)
        else if isSpecial c then do
          let _ ← next
          return some (.parameter [c] .plain [] quoted)
        else return none
termination_by structural fuel => fuel

/-- The next token, without regard to keywords. -/
def readRawToken : (fuel : Nat) → Parsing Token
  | 0 => pure .finish
  | fuel + 1 => do
    let s ← get
    if s.pushed then do
      set { s with pushed := false }
      return s.last
    else match ← peek with
      | none => leave .finish
      | some ' ' | some '\t' => do
        let _ ← next
        readRawToken fuel
      | some '#' => do
        let s ← get
        let rest := s.rest.dropWhile (· != '\n')
        if rest.isEmpty && !s.ended then throw .more
        else do
          set { s with rest }
          readRawToken fuel
      | some '\n' => do
        let _ ← next
        leave .newline
      | some '&' => do
        let _ ← next
        if ← take? '&' then leave .andThen else leave .ampersand
      | some '|' => do
        let _ ← next
        if ← take? '|' then leave .orElse else leave .bar
      | some ';' => do
        let _ ← next
        if ← take? ';' then leave .endOfCase else leave .semicolon
      | some '(' => do
        let _ ← next
        leave .opening
      | some ')' => do
        let _ ← next
        leave .closing
      | some c =>
        if c == '<' || c == '>' then readArrow none
        else do
          modify fun s => { s with quoted := false }
          let parts ← readParts .bare fuel 0 []
          let word := inOrder parts
          let sign ← peek
          match word, sign with
          | [.text [d] false], some sign =>
            -- A digit right in front of the sign is a descriptor and not a word.
            if d.isDigit && (sign == '<' || sign == '>') && !(← get).quoted then
              readArrow (some (d.toNat - 48))
            else do
              modify fun s => { s with word }
              leave .word
          | _, _ => do
            modify fun s => { s with word }
            leave .word
termination_by structural fuel => fuel

/-- Reads the texts that the line asked for. -/
def readTexts : (fuel : Nat) → Parsing Unit
  | 0 => pure ()
  | fuel + 1 => do
    let s ← get
    match s.pending with
    | [] => pure ()
    | p :: pending => do
      set { s with pending }
      let text ← hereLines p (s.rest.length + 1) false
      let after ← get
      let word ← if p.literal then pure [.text text true]
        else do
          set { after with
            rest := text, line := s.line, ended := true, pending := [], checks := {} }
          let parts ← tryCatch (readParts .here fuel 0 []) fun
            | .lacking _ what =>
              throw (.lacking after.line (if what = .quote then .brace else what))
            | halt => throw halt
          pure (inOrder parts)
      modify fun inner => { after with
        texts := (p.number, word) :: inner.texts
        nextText := inner.nextText }
      readTexts fuel
termination_by structural fuel => fuel

/-- The next token that is no line feed. -/
def skipNewlines : (fuel : Nat) → Token → Parsing Token
  | 0, t => pure t
  | fuel + 1, t =>
    if t == .newline then do
      readTexts fuel
      expect {}
      skipNewlines fuel (← readRawToken fuel)
    else pure t
termination_by structural fuel => fuel

/-- The next token, a keyword or an alias being recognized where it may stand. -/
def readToken : (fuel : Nat) → Parsing Token
  | 0 => pure .finish
  | fuel + 1 => do
    let start ← get
    let before := start.checks
    let t ← readRawToken fuel
    let t ← if before.newlines then skipNewlines fuel t else pure t
    let s ← get
    -- The token in front came from an alias that ends in a blank.
    let continued := s.busy.any fun (_, left, blank) =>
      blank && left < start.rest.length && s.rest.length < left
    let checks := (before.or s.checks).or { aliases := continued }
    set { s with checks := {} }
    if t != .word || s.quoted then return t
    else match plainText? s.word with
      | none => return t
      | some cs =>
        let name := String.ofList cs
        if checks.keyword && keywords.contains name then leave (.keyword name)
        else match (if checks.aliases then s.aliases.lookup cs else none) with
          | none => return t
          | some value =>
            let left := s.rest.length
            let busy := s.busy.filter fun b => b.2.1 < left
            -- An alias is not read inside of itself.
            if busy.any fun b => b.1 == cs then return t
            else do
              modify fun s => { s with
                rest := value ++ s.rest
                busy := (cs, left, value.getLast?.any fun c => c == ' ' || c == '\t') :: busy
                checks }
              readToken fuel
termination_by structural fuel => fuel

/-- The target of a redirection whose sign has been read. -/
def readTarget : (fuel : Nat) → Parsing Redirect
  | 0 => unexpected none
  | fuel + 1 => do
    let (fd, arrow) := (← get).arrow
    match arrow with
    | .here _ => expect { mark := true }
    | _ => pure ()
    if (← readToken fuel) != .word then unexpected none
    else do
      let s ← get
      match arrow with
      | .file opening => return .file fd opening s.word
      | .copy =>
        match plainText? s.word with
        | some [d] =>
          if d.isDigit then return .copy fd (d.toNat - 48)
          else if d == '-' then return .closing fd
          else return .copyNamed fd s.word
        | _ => return .copyNamed fd s.word
      | .here trimmed => do
        let p : Pending := ⟨s.nextText, literalText s.word, trimmed, s.quoted⟩
        set { s with nextText := s.nextText + 1, pending := s.pending ++ [p] }
        return .here fd p.number
termination_by structural fuel => fuel

/-- The redirections behind a command. -/
def readRedirects : (fuel : Nat) → Parsing (List Redirect)
  | 0 => pure []
  | fuel + 1 => do
    if (← readToken fuel) == .redirection then do
      let first ← readTarget fuel
      return first :: (← readRedirects fuel)
    else do
      putBack
      return []
termination_by structural fuel => fuel

/-- A list of commands. -/
def readList : (fuel : Nat) → ListKind → Parsing Listed
  | 0, _ => pure .nothing
  | fuel + 1, kind => readListFrom fuel kind (kind == .any) .nothing
termination_by structural fuel => fuel

/-- The rest of a list, behind the commands so far; `mayEnd` tells that it may end here. -/
def readListFrom : (fuel : Nat) → ListKind → (mayEnd : Bool) → Listed → Parsing Listed
  | 0, _, _, sofar => pure sofar
  | fuel + 1, kind, mayEnd, sofar => do
    let isLine := kind == .line
    expect { keyword := true, aliases := true, newlines := !isLine }
    let atEnd := fun (sofar : Listed) => do
      readTexts fuel
      putBack
      modify fun s => { s with last := .finish }
      return sofar
    match ← readToken fuel with
    | .newline => do
      readTexts fuel
      return sofar
    | .finish =>
      atEnd (match sofar with
        | .nothing => if isLine then .ended else .nothing
        | sofar => sofar)
    | token => do
      putBack
      if mayEnd && !isLine && token.endsList then return sofar
      else do
        let c ← readAndOr fuel
        let token ← readToken fuel
        let c := if token == .ampersand then c.inBackground else c
        let sofar := sofar.andThen c
        match token with
        | .finish => atEnd sofar
        | .newline => do
          putBack
          readListFrom fuel kind true sofar
        | .ampersand | .semicolon => readListFrom fuel kind true sofar
        | _ =>
          if isLine then unexpected none
          else do
            putBack
            return sofar
termination_by structural fuel => fuel

/-- Pipelines joined by what is done depending on how the one before ended. -/
def readAndOr : (fuel : Nat) → Parsing Command
  | 0 => unexpected none
  | fuel + 1 => do
    let first ← readPipeline fuel
    readAndOrFrom fuel first
termination_by structural fuel => fuel

/-- The rest of joined pipelines, behind those so far. -/
def readAndOrFrom : (fuel : Nat) → Command → Parsing Command
  | 0, sofar => pure sofar
  | fuel + 1, sofar => do
    let token ← readToken fuel
    if token == .andThen || token == .orElse then do
      expect { newlines := true, keyword := true, aliases := true }
      let c ← readPipeline fuel
      readAndOrFrom fuel (if token == .andThen then .both sofar c else .either sofar c)
    else do
      putBack
      return sofar
termination_by structural fuel => fuel

/-- Commands joined by pipes, possibly with the sense of their status turned. -/
def readPipeline : (fuel : Nat) → Parsing Command
  | 0 => unexpected none
  | fuel + 1 => do
    let negated := (← readToken fuel) == .keyword "!"
    if negated then expect { keyword := true, aliases := true } else putBack
    let first ← readSingle fuel
    let members ← readMembers fuel
    let c := if members.isEmpty then first else .pipeline (first :: members) false
    return if negated then .negated c else c
termination_by structural fuel => fuel

/-- The further members of a pipeline. -/
def readMembers : (fuel : Nat) → Parsing (List Command)
  | 0 => pure []
  | fuel + 1 => do
    if (← readToken fuel) == .bar then do
      expect { newlines := true, keyword := true, aliases := true }
      let c ← readSingle fuel
      return c :: (← readMembers fuel)
    else do
      putBack
      return []
termination_by structural fuel => fuel

/-- A list of commands that is empty only at the end of the text, where what must follow it is
missing. -/
def readBlock : (fuel : Nat) → Parsing Command
  | 0 => unexpected none
  | fuel + 1 => do
    return (← readList fuel .some).command?.getD default
termination_by structural fuel => fuel

/-- A keyword that must stand next. -/
def readKeyword (name : String) : (fuel : Nat) → Parsing Unit
  | 0 => pure ()
  | fuel + 1 => do
    if (← readToken fuel) != .keyword name then unexpected (some (.keyword name)) else pure ()
termination_by structural fuel => fuel

/-- A conditional, behind its first keyword. -/
def readConditional : (fuel : Nat) → Parsing Command
  | 0 => unexpected none
  | fuel + 1 => do
    let test ← readBlock fuel
    readKeyword "then" fuel
    let then_ ← readBlock fuel
    match ← readToken fuel with
    | .keyword "elif" => do
      let rest ← readConditional fuel
      return .conditional test then_ (some rest)
    | .keyword "else" => do
      let rest ← readBlock fuel
      return .conditional test then_ (some rest)
    | _ => do
      putBack
      return .conditional test then_ none
termination_by structural fuel => fuel

/-- The words that a loop goes through. -/
def readWords : (fuel : Nat) → Parsing (List Word)
  | 0 => pure []
  | fuel + 1 => do
    if (← readToken fuel) == .word then do
      let word := (← get).word
      return word :: (← readWords fuel)
    else return []
termination_by structural fuel => fuel

/-- A loop over words, behind its first keyword. -/
def readForEach (line : Nat) : (fuel : Nat) → Parsing Command
  | 0 => unexpected none
  | fuel + 1 => do
    let token ← readToken fuel
    let s ← get
    let name := (plainText? s.word).getD []
    if token != .word || s.quoted || !isName name then wrong "Syntax error: Bad for loop variable"
    else do
      expect { newlines := true, keyword := true, aliases := true }
      let words ← if (← readToken fuel) == .keyword "in" then do
          let words ← readWords fuel
          let last := (← get).last
          if last != .newline && last != .semicolon then unexpected none else pure words
        else do
          -- Without words the loop goes through the arguments.
          if (← get).last != .semicolon then putBack else pure ()
          pure [[.parameter ['@'] .plain [] true]]
      if (← get).last == .newline then readTexts fuel else pure ()
      expect { newlines := true, keyword := true, aliases := true }
      readKeyword "do" fuel
      let body ← readBlock fuel
      return .forEach line name words body
termination_by structural fuel => fuel

/-- The patterns of a case, of which the first has been read. -/
def readPatterns : (fuel : Nat) → Parsing (List Word)
  | 0 => pure []
  | fuel + 1 => do
    let word := (← get).word
    if (← readToken fuel) == .bar then do
      let _ ← readToken fuel
      return word :: (← readPatterns fuel)
    else return [word]
termination_by structural fuel => fuel

/-- The cases of a selection. -/
def readCases : (fuel : Nat) → Parsing (List (List Word × Option Command))
  | 0 => pure []
  | fuel + 1 => do
    expect { newlines := true, keyword := true }
    let token ← readToken fuel
    if token == .keyword "esac" then return []
    else do
      -- An opening parenthesis in front of the patterns is optional.
      if token == .opening then do
        let _ ← readToken fuel
        pure ()
      else pure ()
      let patterns ← readPatterns fuel
      if (← get).last != .closing then unexpected (some .closing)
      else do
        let body ← readList fuel .any
        expect { newlines := true, keyword := true }
        match ← readToken fuel with
        | .keyword "esac" => return [(patterns, body.command?)]
        | .endOfCase => return (patterns, body.command?) :: (← readCases fuel)
        | _ => unexpected (some .endOfCase)
termination_by structural fuel => fuel

/-- A selection, behind its first keyword. -/
def readSelection (line : Nat) : (fuel : Nat) → Parsing Command
  | 0 => unexpected none
  | fuel + 1 => do
    if (← readToken fuel) != .word then unexpected (some .word)
    else do
      let word := (← get).word
      expect { newlines := true, keyword := true, aliases := true }
      readKeyword "in" fuel
      return .select line word (← readCases fuel)
termination_by structural fuel => fuel

/-- A single command, with the redirections behind it. -/
def readSingle : (fuel : Nat) → Parsing Command
  | 0 => unexpected none
  | fuel + 1 => do
    let line := (← get).line
    let closed := fun (name : String) (c : Command) => do
      readKeyword name fuel
      return c
    let c? : Option Command ← match ← readToken fuel with
      | .keyword "if" => do
        let c ← readConditional fuel
        some <$> closed "fi" c
      | .keyword "while" => do
        let test ← readBlock fuel
        readKeyword "do" fuel
        let body ← readBlock fuel
        some <$> closed "done" (.loop false test body)
      | .keyword "until" => do
        let test ← readBlock fuel
        readKeyword "do" fuel
        let body ← readBlock fuel
        some <$> closed "done" (.loop true test body)
      | .keyword "for" => do
        let c ← readForEach line fuel
        some <$> closed "done" c
      | .keyword "case" => some <$> readSelection line fuel
      | .keyword "\x7b" => do
        let c ← readBlock fuel
        some <$> closed "\x7d" c
      | .opening => do
        let c ← readBlock fuel
        if (← readToken fuel) != .closing then unexpected (some .closing)
        else pure (some (.subshell line c []))
      | .word | .redirection => pure none
      | _ => unexpected none
    match c? with
    | none => do
      putBack
      readSimple fuel (← get).line [] [] []
    | some c => do
      expect { keyword := true, aliases := true }
      let redirects ← readRedirects fuel
      return match c, redirects with
        | .subshell line c _, redirects => .subshell line c redirects
        | c, [] => c
        | c, redirects => .redirected line c redirects
termination_by structural fuel => fuel

/-- A simple command: assignments, words and redirections so far, the latest first; or the
definition of a function. -/
def readSimple : (fuel : Nat) → (line : Nat) → List (Octets × Word) → List Word → List Redirect →
    Parsing Command
  | 0, line, assignments, words, redirects =>
    pure (.simple line assignments.reverse words.reverse redirects.reverse)
  | fuel + 1, line, assignments, words, redirects => do
    expect { aliases := words.isEmpty }
    match ← readToken fuel with
    | .word => do
      let word := (← get).word
      match (if words.isEmpty then assignment? word else none) with
      | some a => readSimple fuel line (a :: assignments) words redirects
      | none => readSimple fuel line assignments (word :: words) redirects
    | .redirection => do
      let r ← readTarget fuel
      readSimple fuel line assignments words (r :: redirects)
    | token =>
      match token, assignments, words, redirects with
      -- One word and a parenthesis behind it: a function is defined.
      | .opening, [], [name], [] => do
        if (← readToken fuel) != .closing then unexpected (some .closing)
        else do
          let text := (plainText? name).getD []
          if !isName text || specialNames.contains (String.ofList text) then
            wrong "Syntax error: Bad function name"
          else do
            expect { newlines := true, keyword := true, aliases := true }
            let at_ := (← get).line
            let body ← readSingle fuel
            return .define at_ text body
      | _, _, _, _ => do
        putBack
        return .simple line assignments.reverse words.reverse redirects.reverse
termination_by structural fuel => fuel

end

/-- Reads one line of commands. -/
def readCommand (s : Source) : Except Halt (Listed × Source) :=
  (readList (16 * s.rest.length + 1000) .line).run
    { s with pushed := false, checks := {}, pending := [], last := .newline, busy := [] }

end PipeShell.Programs.Interpreter
