import PipeShell.Programs.Calls
import PipeShell.Regex.Posix
import PipeShell.Text.Blank

/-!
# grep

Shows the lines that match one of some patterns, or counts them, or names the files that have them.
A file is read in blocks, and no more of it than is needed. A file with a zero byte is binary: of it
is told only that a line matches.

## Main definitions

* `Grep.Style`: what is asked for
* `Grep.Matcher`: where a line matches
* `Grep.Scan`: what is known of a file so far
* `grep`: the program
-/

namespace PipeShell.Programs

open PipeShell.Machine
open PipeShell.Text (Octets)

namespace Grep

/-! ## What is asked for -/

/-- What a pattern is. -/
inductive Form where
  | fixed
  | basic
  | extended
  deriving DecidableEq

/-- What becomes of binary files. -/
inductive Binary where
  | told
  | text
  | skipped
  deriving DecidableEq

/-- What becomes of directories. -/
inductive Directories where
  | read
  | recurse
  | skip
  deriving DecidableEq

/-- Which files are named instead of their lines. -/
inductive Listing where
  | none
  | matching
  | other
  deriving DecidableEq

/-- What is asked for. -/
structure Style where
  form : Option Form := none
  patterns : Option (List Octets) := none
  anyCase : Bool := false
  word : Bool := false
  whole : Bool := false
  invert : Bool := false
  most : Option Nat := none
  offsets : Bool := false
  numbers : Bool := false
  names : Option Bool := none
  label : Option Octets := none
  onlyMatching : Bool := false
  quiet : Bool := false
  binary : Binary := .told
  directories : Directories := .read
  listing : Listing := .none
  counted : Bool := false
  tabbed : Bool := false
  zeroNames : Bool := false
  silent : Bool := false
  terminator : UInt8 := 10
  before : Option Nat := none
  after : Option Nat := none
  around : Option Nat := none
  digits : Octets := []
  separator : Option Octets := some ['-', '-']
  colored : Bool := false

def table : List OptionSpec :=
  [Options.both 'E' "extended-regexp", Options.both 'F' "fixed-strings",
   Options.both 'G' "basic-regexp", Options.both 'P' "perl-regexp",
   Options.both 'e' "regexp" .value, Options.both 'f' "file" .value,
   Options.both 'i' "ignore-case", Options.short 'y', Options.long "no-ignore-case",
   Options.both 'w' "word-regexp", Options.both 'x' "line-regexp",
   Options.both 'z' "null-data", Options.both 's' "no-messages",
   Options.both 'v' "invert-match", Options.both 'm' "max-count" .value,
   Options.both 'b' "byte-offset", Options.both 'n' "line-number",
   Options.long "line-buffered", Options.both 'H' "with-filename",
   Options.both 'h' "no-filename", Options.long "label" .value,
   Options.both 'o' "only-matching", Options.both 'q' "quiet",
   ⟨"q", none, some "silent", .nothing⟩, Options.long "binary-files" .value,
   Options.both 'a' "text", Options.short 'I', Options.both 'd' "directories" .value,
   Options.both 'D' "devices" .value, Options.both 'r' "recursive",
   Options.both 'R' "dereference-recursive", Options.both 'L' "files-without-match",
   Options.both 'l' "files-with-matches", Options.both 'c' "count",
   Options.both 'T' "initial-tab", Options.both 'Z' "null",
   Options.both 'B' "before-context" .value, Options.both 'A' "after-context" .value,
   Options.both 'C' "context" .value, Options.long "group-separator" .value,
   Options.long "no-group-separator", Options.long "color" .perhaps,
   ⟨"color", none, some "colour", .perhaps⟩, Options.both 'U' "binary",
   Options.both 'u' "unix-byte-offsets", Options.short 'X' .value,
   Options.long "include" .value, Options.long "exclude" .value,
   Options.long "exclude-from" .value, Options.long "exclude-dir" .value] ++
    "0123456789".toList.map fun c => Options.short c

/-- The last name in the path that the program was called by. -/
def ownName (c : Call) : Octets := (c.own.reverse.takeWhile (· != '/')).reverse

/-- Says how the program is used, and leaves. -/
def usage {α : Type} (c : Call) : Script α := do
  let name := ownName c
  Call.sayOctets 2 ("Usage: ".toList ++ name ++ " [OPTION]... PATTERNS [FILE]...\n".toList ++
    "Try '".toList ++ name ++ " --help' for more information.\n".toList)
  Script.leave 2

/-- A number with an optional sign; a negative one is `none`. -/
def numberOf? (text : Octets) : Option (Option Nat) :=
  let body := text.dropWhile fun c => c == ' ' || ('\t' ≤ c && c ≤ '\r')
  let (negative, digits) := match body with
    | '-' :: rest => (true, rest)
    | '+' :: rest => (false, rest)
    | rest => (false, rest)
  if digits.isEmpty || !digits.all Char.isDigit then none
  else
    let n := digits.foldl (fun n c => n * 10 + (c.toNat - 48)) 0
    some (if negative && n != 0 then none else some n)

/-- A number of lines around a line. -/
def contextOf (c : Call) (text : Octets) : Script Nat :=
  match numberOf? text with
  | some (some n) => pure n
  | _ => c.fail 2 (text ++ ": invalid context length argument".toList)

/-- The lines of a file of patterns. -/
def patternsIn (c : Call) (path : Octets) : Script (List Octets) := do
  let failed := fun (cause : Errno) => do
    c.complainOf path cause
    Script.leave 2
  match ← Call.openOperand path with
  | .error cause => failed cause
  | .ok fd => do
    match ← Script.slurp fd with
    | .error cause => failed cause
    | .ok bytes => do
      Call.closeOperand path fd
      pure ((Text.terminated (· == 10) bytes).map Octets.ofBytes)

/-- Takes note of one option. -/
def Style.take (c : Call) (s : Style) (g : Options.Given) : Script Style := do
  let form := fun (f : Form) =>
    if s.form.any (· != f) then c.fail 2 "conflicting matchers specified".toList
    else pure { s with form := some f }
  let add := fun (patterns : List Octets) =>
    pure { s with patterns := some (s.patterns.getD [] ++ patterns) }
  match g.key with
  | "E" => form .extended
  | "P" => form .extended
  | "F" => form .fixed
  | "G" => form .basic
  | "X" =>
    match String.ofList g.text with
    | "grep" => form .basic
    | "egrep" => form .extended
    | "fgrep" => form .fixed
    | _ => c.fail 2 ("invalid matcher ".toList ++ g.text)
  | "e" => add (Text.pieces (· == '\n') g.text)
  | "f" => add (← patternsIn c g.text)
  | "i" | "y" => return { s with anyCase := true }
  | "no-ignore-case" => return { s with anyCase := false }
  | "w" => return { s with word := true }
  | "x" => return { s with whole := true }
  | "z" => return { s with terminator := 0 }
  | "s" => return { s with silent := true }
  | "v" => return { s with invert := true }
  | "m" =>
    match numberOf? g.text with
    | some most => return { s with most }
    | none => c.fail 2 "invalid max count".toList
  | "b" => return { s with offsets := true }
  | "n" => return { s with numbers := true }
  | "H" => return { s with names := some true }
  | "h" => return { s with names := some false }
  | "label" => return { s with label := some g.text }
  | "o" => return { s with onlyMatching := true }
  | "q" => return { s with quiet := true }
  | "binary-files" =>
    match String.ofList g.text with
    | "binary" => return { s with binary := .told }
    | "text" => return { s with binary := .text }
    | "without-match" => return { s with binary := .skipped }
    | _ => c.fail 2 "unknown binary-files type".toList
  | "a" => return { s with binary := .text }
  | "I" => return { s with binary := .skipped }
  | "d" =>
    let words := ["read", "recurse", "skip"]
    match words.filter fun w => g.text.isPrefixOf w.toList, g.text with
    | ["read"], _ => return { s with directories := .read }
    | ["recurse"], _ => return { s with directories := .recurse }
    | ["skip"], _ => return { s with directories := .skip }
    | found, text => do
      c.complain ((if found.isEmpty then "invalid" else "ambiguous").toList ++
        " argument ".toList ++ Quoting.literal text ++ " for '--directories'".toList)
      Script.say 2 "Valid arguments are:\n  - 'read'\n  - 'recurse'\n  - 'skip'\n"
      usage c
  | "D" =>
    if g.text == "read".toList || g.text == "skip".toList then return s
    else c.fail 2 "unknown devices method".toList
  | "r" | "R" => return { s with directories := .recurse }
  | "L" => return { s with listing := .other }
  | "l" => return { s with listing := .matching }
  | "c" => return { s with counted := true }
  | "T" => return { s with tabbed := true }
  | "Z" => return { s with zeroNames := true }
  | "B" => return { s with before := some (← contextOf c g.text) }
  | "A" => return { s with after := some (← contextOf c g.text) }
  | "C" => return { s with around := some (← contextOf c g.text) }
  | "group-separator" => return { s with separator := some g.text }
  | "no-group-separator" => return { s with separator := none }
  | "color" =>
    match String.ofList (g.value.getD "auto".toList) with
    | "always" | "yes" | "force" => return { s with colored := true }
    | "never" | "no" | "none" | "auto" | "tty" | "if-tty" => return { s with colored := false }
    | _ => usage c
  | "u" => do
    c.complain "warning: --unix-byte-offsets (-u) is obsolete".toList
    return s
  | key =>
    match key.toList with
    | [digit] =>
      if digit.isDigit then
        let digits := s.digits ++ [digit]
        return { s with digits, around := ((numberOf? digits).bind id) }
      else return s
    | _ => return s

/-! ## Matching -/

/-- Where a line matches: from a spot on, the first match, with the spot where it begins and the
spot where it ends. -/
structure Matcher where
  first? : Spot → Option (Spot × Spot)

/-- A character of a word stands here. -/
def wordAt (c : Option Char) : Bool := c.any Anchor.isWord

/-- Where the longest match of an expression that begins at a spot ends. Where the match has to be a
word of its own, shorter matches are tried too, but no empty ones. -/
def endOf? (word : Bool) (r : Regex) (first : Spot) : Option Spot :=
  match (r.reach [first]).reverse with
  | [] => none
  | last :: shorter =>
    if word then
      (last :: shorter.filter fun s => s.left < first.left).find? fun s =>
        !wordAt first.before && !wordAt s.after.head?
    else some last

/-- The end of the longest of the matches that begin at a spot. -/
def longestOf? (word : Bool) (rs : List Regex) (first : Spot) : Option Spot :=
  rs.foldl (fun best r =>
    match best, endOf? word r first with
    | some a, some b => some (if b.left < a.left then b else a)
    | a, b => a.or b) none

/-- The first match of some expressions. -/
def matcherOf (word : Bool) (rs : List Regex) : Matcher where
  first? s := s.onwards.findSome? fun first =>
    (longestOf? word rs first).map fun last => (first, last)

/-- Some expressions match somewhere in a line. -/
def selects (word : Bool) (rs : List Regex) (line : Octets) : Bool :=
  if word then ((matcherOf word rs).first? (Spot.start line)).isSome
  else rs.any fun r => r.occursIn line

/-- The parts of a line that match and are not empty, each with its place; at most `count` parts. -/
def partsWithin (m : Matcher) (size : Nat) : (count : Nat) → Spot → List (Nat × Octets)
  | 0, _ => []
  | count + 1, s =>
    match m.first? s with
    | none => []
    | some (first, last) =>
      if last.left < first.left then
        (size - first.left, first.after.take (first.left - last.left)) ::
          partsWithin m size count last
      else match (Spot.pass? .all first) with
        | some next => partsWithin m size count next
        | none => []

/-- The parts of a line that match and are not empty, each with its place. -/
def parts (m : Matcher) (line : Octets) : List (Nat × Octets) :=
  partsWithin m line.length (line.length + 1) (Spot.start line)

/-- The expressions of the patterns. -/
def compile (c : Call) (s : Style) : Script (List Regex) :=
  (s.patterns.getD []).mapM fun pattern => do
    let form := s.form.getD .basic
    let r ← match form with
      | .fixed => pure (Regex.ofSequence (pattern.map (Regex.Posix.literal ⟨false, s.anyCase⟩)))
      | _ =>
        match Regex.Posix.parse ⟨form == .extended, s.anyCase⟩ pattern with
        | .error fault => c.fail 2 fault.message.toList
        | .ok (r, idle) => do
          idle.forM fun sign =>
            c.complain ("warning: ".toList ++ sign.toList ++ " at start of expression".toList)
          pure r
    pure (if s.whole then Regex.ofSequence [.anchor .textStart, r, .anchor .textEnd] else r)

/-! ## Reading files -/

/-- What holds for all files: what is asked for, how lines are tested and shown, whether lines are
shown at all, whether one match in a file is enough, whether names are shown, the node that is
written to, and whether that is nowhere. -/
structure Plan where
  call : Call
  style : Style
  selects : Octets → Bool
  matcher : Matcher
  shown : Bool
  oneIsEnough : Bool
  named : Bool
  target : Option Nat
  toNowhere : Bool

/-- What is carried from file to file: what waits to be written, whether any line has been shown
already, whether something went wrong, and whether a line has been found. -/
structure Tally where
  sink : Call.Sink := {}
  used : Bool := false
  erred : Bool := false
  found : Bool := false

/-- A line with its number and place. -/
structure Line where
  number : Nat
  offset : Nat
  bytes : Bytes

/-- What is known of a file so far: the number and place of the next line, lines that may have to be
shown before a match, how many are still to be shown behind the last one, how many matches are still
wanted, how many there were, the number behind the last line shown, the place behind the last line
that matched, how many lines had matched when the file was found to be binary, and whether lines are
still shown. -/
structure Scan where
  number : Nat := 1
  offset : Nat := 0
  recent : List Line := []
  pending : Nat := 0
  left : Option Nat
  count : Nat := 0
  shownTo : Nat := 0
  afterLast : Nat := 0
  binaryAt : Option Nat := none
  shown : Bool
  oneIsEnough : Bool
  tally : Tally

/-- Nothing more is wanted of the file. -/
def Scan.isDone (s : Scan) : Bool :=
  (s.left == some 0 && s.pending == 0) || (s.oneIsEnough && s.binaryAt.getD 0 < s.count)

/-- Adds bytes to what waits to be written. -/
def Scan.write (p : Plan) (s : Scan) (bytes : Bytes) : Script Scan := do
  let sink ← p.call.feed 2 "write error" s.tally.sink bytes
  return { s with tally := { s.tally with sink } }

/-- A number at least as wide as it must be where columns are lined up. -/
def figure (p : Plan) (least n : Nat) : String :=
  let digits := Nat.repr n
  if p.style.tabbed then String.ofList (List.replicate (least - digits.length) ' ') ++ digits
  else digits

/-- Begins and ends a color. -/
def paint (p : Plan) (color : String) (text : String) : String :=
  if p.style.colored then "\x1b[" ++ color ++ "m\x1b[K" ++ text ++ "\x1b[m\x1b[K" else text

/-- What stands before a line or a part of one. -/
def heading (p : Plan) (name : Octets) (sign : Char) (number offset : Nat) (empty : Bool) : Bytes :=
  let sep := Text.Utf8.encode (paint p "36" sign.toString)
  let named := if p.named then
      (if p.style.colored then Text.Utf8.encode "\x1b[35m\x1b[K" else []) ++ Octets.toBytes name ++
        (if p.style.colored then Text.Utf8.encode "\x1b[m\x1b[K" else []) ++
        (if p.style.zeroNames then [0] else sep)
    else []
  let numbered := if p.style.numbers then
      Text.Utf8.encode (paint p "32" (figure p 2 number)) ++ sep
    else []
  let placed := if p.style.offsets then
      Text.Utf8.encode (paint p "32" (figure p 2 offset)) ++ sep
    else []
  let head := named ++ numbered ++ placed
  head ++ (if p.style.tabbed && !head.isEmpty && !empty then [9] else [])

/-- A line with the matching parts in color. -/
def coloredLine (p : Plan) (l : Line) : Bytes :=
  let line := Octets.ofBytes l.bytes
  let (text, last) := (parts p.matcher line).foldl (fun (text, last) part =>
    (text ++ Octets.toBytes ((line.drop last).take (part.1 - last)) ++
      Text.Utf8.encode "\x1b[01;31m\x1b[K" ++ Octets.toBytes part.2 ++
      Text.Utf8.encode "\x1b[m\x1b[K", part.1 + part.2.length)) (([] : Bytes), 0)
  text ++ Octets.toBytes (line.drop last)

/-- Shows a line, or its parts. -/
def Scan.showLine (p : Plan) (name : Octets) (selected : Bool) (s : Scan) (l : Line) :
    Script Scan := do
  let sign := if selected then ':' else '-'
  let s := { s with shownTo := l.number + 1 }
  if p.style.onlyMatching then
    if selected == p.style.invert then pure s
    else (parts p.matcher (Octets.ofBytes l.bytes)).foldlM (fun s (place, part) =>
      s.write p (heading p name sign l.number (l.offset + place) part.isEmpty ++
        Text.Utf8.encode (paint p "01;31" "") ++ Octets.toBytes part ++ [p.style.terminator])) s
  else
    let body := if p.style.colored && selected != p.style.invert then coloredLine p l else l.bytes
    s.write p (heading p name sign l.number l.offset l.bytes.isEmpty ++ body ++
      [p.style.terminator])

/-- A line that matches. -/
def Scan.takeSelected (p : Plan) (name : Octets) (s : Scan) (l : Line) : Script Scan := do
  let counted := { s with
    recent := []
    count := s.count + 1
    left := s.left.map (· - 1)
    afterLast := l.offset + l.bytes.length + 1 }
  if !s.shown then pure counted
  else do
    let context := s.recent.reverse
    let first := (context.head?.map Line.number).getD l.number
    let separated := (p.style.before.isSome || p.style.after.isSome) && s.tally.used &&
      first != s.shownTo
    let s ← match p.style.separator with
      | some text =>
        if separated then
          counted.write p (Text.Utf8.encode (paint p "36" (Octets.toString text)) ++ [10])
        else pure counted
      | none => pure counted
    let s ← context.foldlM (Scan.showLine p name false) s
    let s ← s.showLine p name true l
    return { s with
      pending := p.style.after.getD 0
      tally := { s.tally with used := true } }

/-- The next line. -/
def Scan.takeLine (p : Plan) (name : Octets) (s : Scan) (bytes : Bytes) : Script Scan := do
  let l : Line := ⟨s.number, s.offset, bytes⟩
  let s := { s with number := s.number + 1, offset := s.offset + bytes.length + 1 }
  if s.left != some 0 && p.selects (Octets.ofBytes bytes) != p.style.invert then
    s.takeSelected p name l
  else if 0 < s.pending then
    ({ s with pending := s.pending - 1 } : Scan).showLine p name false l
  else return { s with recent := (l :: s.recent).take (p.style.before.getD 0) }

/-- Lines, until nothing more is wanted. -/
def Scan.takeLines (p : Plan) (name : Octets) : List Bytes → Scan → Script Scan
  | [], s => pure s
  | line :: rest, s => do
    if s.isDone then pure s
    else takeLines p name rest (← s.takeLine p name line)

/-- The number of bytes in a block. -/
def blockSize : Nat := 98304

/-- A file is binary once a block has a zero in it. -/
def Scan.meet (p : Plan) (s : Scan) (bytes : Bytes) : Scan :=
  if s.binaryAt.isNone && p.style.terminator != 0 && p.style.binary != .text && bytes.contains 0
  then { s with
    binaryAt := some s.count
    shown := false
    oneIsEnough := s.oneIsEnough || !p.style.counted }
  else s

/-- A byte ends a line; in a binary file a zero does so too. -/
def endsLine (p : Plan) (s : Scan) (b : UInt8) : Bool :=
  b == p.style.terminator || (s.binaryAt.isSome && b == 0)

/-- Reads a file to its end, or as far as is wanted: what is known then, and whether its end was
reached. -/
def readFile (p : Plan) (name : Octets) (fd : Nat) (start : Scan) :
    Script (Except Errno Unit × Bool × Scan) :=
  Script.iterate (fun (state : Bytes × Scan) => do
    let (residue, s) := state
    match ← Script.read fd blockSize with
    | .error cause => pure (.inr (.error cause, false, s))
    | .ok [] => do
      let s ← if residue.isEmpty || s.isDone then pure s else s.takeLine p name residue
      pure (.inr (.ok (), true, s))
    | .ok bytes => do
      let s := s.meet p bytes
      if s.binaryAt.isSome && p.style.binary == .skipped then
        pure (.inr (.ok (), false, { s with count := 0, binaryAt := none }))
      else do
        match (Text.pieces (endsLine p s) (residue ++ bytes)).reverse with
        | [] => pure (.inl ([], s))
        | last :: lines => do
          let s ← s.takeLines p name lines.reverse
          if s.isDone then pure (.inr (.ok (), false, s)) else pure (.inl (last, s))) ([], start)

/-- Complains of a file unless that is not wanted. -/
def Tally.complain (p : Plan) (t : Tally) (name : Octets) (cause : Errno) : Script Tally := do
  if p.style.silent then pure () else do
    p.call.drain 2 t.sink
    p.call.complainOf name cause
  return { t with sink := if p.style.silent then t.sink else {}, erred := true }

/-- Moves the position in standard input to where another program could go on. -/
def settleInput (p : Plan) (s : Scan) (reachedEnd : Bool) : Script Unit := do
  if s.left == some 0 then do
    let _ ← Script.seek 0 s.afterLast
    pure ()
  else if p.toNowhere && !reachedEnd then do
    let _ ← Script.slurp 0
    pure ()
  else pure ()

/-- Searches an open file. -/
def searchOpen (p : Plan) (name : Octets) (fd : Nat) (t : Tally) : Script Tally := do
  let style := p.style
  match ← Script.inspectFd fd with
  | .error cause => t.complain p name cause
  | .ok found =>
    if found.kind == .directory && style.directories == .skip then pure t
    else if p.shown && style.most != some 1 && found.kind == .regular && found.node.isSome &&
        found.node == p.target then do
      if style.silent then pure () else do
        p.call.drain 2 t.sink
        p.call.complain (name ++ ": input file is also the output".toList)
      return { t with sink := if style.silent then t.sink else {}, erred := true }
    else do
      let start : Scan := {
        offset := 0
        left := style.most
        shown := p.shown
        oneIsEnough := p.oneIsEnough
        tally := t }
      let base := found.offset
      let (result, reachedEnd, s) ← readFile p name fd start
      let t := s.tally
      let t ← match result with
        | .error cause => t.complain p name cause
        | .ok () => pure t
      let told := p.shown && s.binaryAt.any (· < s.count)
      let t ← if told then do
          p.call.drain 2 t.sink
          p.call.complain (name ++ ": binary file matches".toList)
          pure { t with sink := {} }
        else pure t
      let any := 0 < s.count
      if style.quiet && any then Script.leave 0
      else do
        let write := fun (t : Tally) (bytes : Bytes) => do
          let sink ← p.call.feed 2 "write error" t.sink bytes
          return { t with sink }
        let t ← if style.counted && !p.oneIsEnough && result.toBool then do
            let head := if p.named then
                Octets.toBytes name ++ (if style.zeroNames then [0] else [58])
              else []
            write t (head ++ Text.Utf8.encode (Nat.repr s.count ++ "\n"))
          else pure t
        let listed := match style.listing with
          | .none => false
          | .matching => any
          | .other => !any
        let t ← if listed && !style.quiet && !p.toNowhere && result.toBool then
            write t (Octets.toBytes name ++ [if style.zeroNames then 0 else 10])
          else pure t
        if fd == 0 then settleInput p { s with afterLast := base + s.afterLast } reachedEnd
        else pure ()
        return { t with found := t.found || any }

/-- Searches a file, or the files below a directory. -/
def search (p : Plan) : (depth : Nat) → (top : Bool) → (path : Octets) → Tally → Script Tally
  | 0, _, _, t => pure t
  | depth + 1, top, path, t => do
    let text := Octets.toString path
    let kind? ← if p.style.directories == .recurse then Script.inspect text top
      else pure (.error .noEntry)
    match kind? with
    | .ok found =>
      if found.kind == .directory then do
        match ← Script.names text with
        | .error cause => t.complain p path cause
        | .ok names =>
          names.foldlM (fun t name => do
            let inner := if path.getLast? == some '/' then path ++ Octets.ofString name
              else path ++ '/' :: Octets.ofString name
            search p depth false inner t) t
      else if !top && found.kind != .regular then pure t
      else open_ text path t
    | .error _ => open_ text path t
where
  /-- Searches the file at a path. -/
  open_ (text : String) (path : Octets) (t : Tally) : Script Tally := do
    match ← Script.openFile text .read with
    | .error cause => t.complain p path cause
    | .ok fd => do
      let t ← searchOpen p path fd t
      Script.close fd
      pure t

/-- Searches one operand. -/
def searchOperand (p : Plan) (t : Tally) (operand : Octets) : Script Tally :=
  if operand == ['-'] then
    searchOpen p (p.style.label.getD "(standard input)".toList) 0 t
  else search p 1000 true operand t

/-- Searches below the present directory, leaving its name out. -/
def searchHere (p : Plan) (t : Tally) : Script Tally := do
  match ← Script.names "." with
  | .error cause => t.complain p ['.'] cause
  | .ok names => names.foldlM (fun t name => search p 1000 false (Octets.ofString name) t) t

/-- What is written to: the node, if it is a file with positions, and whether that is nowhere. -/
def targetOf : Script (Option Nat × Bool) := do
  match ← Script.inspectFd 1, ← Script.inspect "/dev/null" true with
  | .ok target, .ok nowhere =>
    if target.kind == .regular then pure (target.node, false)
    else pure (none, target.kind == .device && target.node.isSome && target.node == nowhere.node)
  | .ok target, .error _ => pure (if target.kind == .regular then target.node else none, false)
  | _, _ => pure (none, false)

end Grep

open Grep in
/-- Shows the lines that match. -/
def grep : Main := Call.program fun c => do
  let parsed := c.parse table
  let style ← parsed.given.foldlM (Style.take c) {}
  match parsed.fault with
  | some fault => do
    c.complain fault.message
    usage c
  | none => do
    let (style, operands) ← match style.patterns, parsed.operands with
      | some _, operands => pure (style, operands)
      | none, pattern :: operands =>
        pure ({ style with patterns := some (Text.pieces (· == '\n') pattern) }, operands)
      | none, [] => usage c
    let style := { style with
      before := style.before.or style.around
      after := style.after.or style.around }
    let (target, toNowhere) ← if style.quiet then pure (none, false) else targetOf
    let listing := if style.quiet || toNowhere then Listing.none else style.listing
    let oneIsEnough := style.quiet || toNowhere || listing != .none
    let counted := style.counted && !oneIsEnough
    let style := { style with listing, counted }
    let nothing := style.most == some 0 ||
      (style.patterns == some [] && !style.invert)
    if nothing && listing != .other then pure 1
    else do
      let rs ← compile c style
      let several := 1 < operands.length || style.directories == .recurse
      let plan : Grep.Plan := {
        call := c
        style
        selects := selects style.word rs
        matcher := matcherOf style.word rs
        shown := !counted && !oneIsEnough
        oneIsEnough
        named := style.names.getD several
        target
        toNowhere }
      let t ← if operands.isEmpty && style.directories == .recurse then searchHere plan {}
        else (Call.inputs operands).foldlM (searchOperand plan) {}
      c.drain 2 t.sink
      pure (if t.erred then 2 else if t.found then 0 else 1)

end PipeShell.Programs
