import PipeShell.Programs.Calls
import PipeShell.Programs.Versions

/-!
# ls

Lists names: those of files that are given, then those in directories. Names are written one to a
line unless columns are asked for.

## Main definitions

* `Ls.Style`, `Ls.Entry`: what is asked for, and what is listed
* `Ls.arrange`: the order of names
* `Ls.columns`: names in columns
* `ls`: the program
-/

namespace PipeShell.Programs

open PipeShell.Machine
open PipeShell.Text (Octets)

namespace Ls

/-! ## Styles -/

/-- Which names that begin with a dot are listed. -/
inductive Dots where
  | none
  | others
  | all
  deriving DecidableEq

/-- The order of names. -/
inductive Order where
  | name
  | extension
  | size
  | version
  | width
  | unordered
  deriving DecidableEq

/-- How names stand on lines. -/
inductive Layout where
  | single
  | down
  | across
  | commas
  deriving DecidableEq

/-- What marks the kind of a file behind its name. -/
inductive Marks where
  | none
  | directories
  | kinds
  | all
  deriving DecidableEq

/-- How names are quoted. -/
inductive Quotes where
  | literal
  | shell
  | shellAlways
  | double
  | escaped
  deriving DecidableEq

/-- What is asked for. -/
structure Style where
  dots : Dots := .none
  backups : Bool := true
  hidden : List Octets := []
  order : Order := .name
  reversed : Bool := false
  grouped : Bool := false
  layout : Layout := .single
  width : Nat := 80
  tab : Nat := 8
  marks : Marks := .none
  quotes : Quotes := .literal
  masked : Bool := false
  listed : Bool := false
  recursive : Bool := false
  follow : Bool := false
  followGiven : Bool := false
  terminator : Char := '\n'

def table : List OptionSpec :=
  [Options.both 'a' "all", Options.both 'A' "almost-all", Options.both 'B' "ignore-backups",
   Options.short 'C', Options.both 'd' "directory", Options.both 'F' "classify" .perhaps,
   Options.short 'f', Options.both 'H' "dereference-command-line",
   Options.both 'I' "ignore" .value, Options.long "hide" .value,
   Options.both 'L' "dereference", Options.short 'm', Options.both 'N' "literal",
   Options.short 'p', Options.both 'Q' "quote-name", Options.both 'b' "escape",
   Options.both 'q' "hide-control-chars", Options.long "show-control-chars",
   Options.both 'r' "reverse", Options.both 'R' "recursive", Options.short 'S',
   Options.short 'U', Options.short 'v', Options.short 'X', Options.short 'x', Options.short '1',
   Options.both 'w' "width" .value, Options.both 'T' "tabsize" .value,
   Options.long "file-type", Options.long "group-directories-first",
   Options.long "indicator-style" .value, Options.long "quoting-style" .value,
   Options.long "sort" .value, Options.long "format" .value, Options.long "color" .perhaps,
   Options.long "zero", Options.both 'k' "kibibytes", Options.both 'G' "no-group",
   Options.both 'h' "human-readable", Options.long "si"]

/-- The number that an option takes. -/
def numberOf (c : Call) (what : String) (text : Octets) : Script Nat :=
  if !text.isEmpty && text.all Char.isDigit then
    pure (text.foldl (fun n c => n * 10 + (c.toNat - 48)) 0)
  else c.fail 2 (what.toList ++ ": ".toList ++ Quoting.literal text)

/-- Takes note of one option. -/
def Style.take (c : Call) (s : Style) (g : Options.Given) : Script Style := do
  match g.key with
  | "a" => return { s with dots := .all }
  | "A" => return { s with dots := .others }
  | "B" => return { s with backups := false }
  | "C" => return { s with layout := .down }
  | "d" => return { s with listed := true }
  | "F" => return { s with marks := .all }
  | "f" => return { s with dots := .all, order := .unordered }
  | "H" => return { s with followGiven := true }
  | "I" | "hide" => return { s with hidden := g.text :: s.hidden }
  | "L" => return { s with follow := true }
  | "m" => return { s with layout := .commas }
  | "N" => return { s with quotes := .literal }
  | "p" => return { s with marks := .directories }
  | "Q" => return { s with quotes := .double }
  | "b" => return { s with quotes := .escaped }
  | "q" => return { s with masked := true }
  | "show-control-chars" => return { s with masked := false }
  | "r" => return { s with reversed := true }
  | "R" => return { s with recursive := true }
  | "S" => return { s with order := .size }
  | "U" => return { s with order := .unordered }
  | "v" => return { s with order := .version }
  | "X" => return { s with order := .extension }
  | "x" => return { s with layout := .across }
  | "1" => return { s with layout := .single }
  | "w" => return { s with width := (← numberOf c "invalid line width" g.text) }
  | "T" => return { s with tab := (← numberOf c "invalid tab size" g.text) }
  | "file-type" => return { s with marks := .kinds }
  | "group-directories-first" => return { s with grouped := true }
  | "indicator-style" =>
    let marks ← c.choice 2 "--indicator-style" g.text
      [("none", Marks.none), ("slash", .directories), ("file-type", .kinds), ("classify", .all)]
    return { s with marks }
  | "quoting-style" =>
    let quotes ← c.choice 2 "--quoting-style" g.text
      [("literal", Quotes.literal), ("shell", .shell), ("shell-always", .shellAlways),
       ("shell-escape", .shell), ("shell-escape-always", .shellAlways), ("c", .double),
       ("c-maybe", .double), ("escape", .escaped), ("locale", .double), ("clocale", .double)]
    return { s with quotes }
  | "sort" =>
    let order ← c.choice 2 "--sort" g.text
      [("none", Order.unordered), ("size", .size), ("extension", .extension),
       ("version", .version), ("width", .width), ("name", .name)]
    return { s with order }
  | "format" =>
    let layout ← c.choice 2 "--format" g.text
      [("commas", Layout.commas), ("horizontal", .across), ("across", .across),
       ("vertical", .down), ("single-column", .single)]
    return { s with layout }
  | "zero" => return { s with terminator := '\x00', layout := .single, quotes := .literal }
  | _ => return s

/-! ## Entries -/

/-- What is listed: a name, and what is known of the file. -/
structure Entry where
  name : Octets
  kind : Kind
  size : Nat
  runs : Bool

/-- The mark behind the name of an entry. -/
def Style.mark (s : Style) (e : Entry) : Octets :=
  match s.marks, e.kind with
  | .none, _ => []
  | _, .directory => ['/']
  | .directories, _ => []
  | _, .link => ['@']
  | _, .pipe => ['|']
  | .all, .regular => if e.runs then ['*'] else []
  | _, _ => []

/-- A name as it is written. -/
def Style.quote (s : Style) (name : Octets) : Octets :=
  let escaped := fun (special : Char → Bool) =>
    name.flatMap fun c =>
      if special c || c == '\\' then ['\\', c] else (Quoting.escape? c).getD [c]
  let masked := fun (text : Octets) =>
    if s.masked then text.map fun c => if Quoting.isVisible c then c else '?' else text
  match s.quotes with
  | .literal => masked name
  | .shell => masked (Quoting.shellIfNeeded name)
  | .shellAlways => masked (Quoting.shell name)
  | .double => '"' :: escaped (· == '"') ++ ['"']
  | .escaped => escaped (· == ' ')

/-- An entry as it is written. -/
def Style.show (s : Style) (e : Entry) : Octets := s.quote e.name ++ s.mark e

/-! ## Order -/

/-- Where two texts stand to each other, byte by byte. -/
def compareText : Octets → Octets → Ordering
  | [], [] => .eq
  | [], _ => .lt
  | _, [] => .gt
  | a :: as, b :: bs => if a = b then compareText as bs else compare a.toNat b.toNat

/-- The part of a name from its last dot on. -/
def extension (name : Octets) : Octets :=
  let tail := name.reverse.takeWhile (· != '.')
  if tail.length = name.length then [] else '.' :: tail.reverse

/-- Where two entries stand to each other. -/
def Style.compare (s : Style) (a b : Entry) : Ordering :=
  let byName := compareText a.name b.name
  match s.order with
  | .name => byName
  | .extension => (compareText (extension a.name) (extension b.name)).then byName
  | .size => (Ord.compare b.size a.size).then byName
  | .version => (Versions.compare a.name b.name).then byName
  | .width => (Ord.compare (s.quote a.name).length (s.quote b.name).length).then byName
  | .unordered => .eq

/-- Entries in their order. -/
def Style.arrange (s : Style) (entries : List Entry) : List Entry :=
  let sorted := if s.order == .unordered then entries
    else
      let sorted := entries.mergeSort fun a b => s.compare a b != .gt
      if s.reversed then sorted.reverse else sorted
  if s.grouped && s.order != .unordered then
    sorted.filter (fun e => e.kind == .directory) ++ sorted.filter fun e => e.kind != .directory
  else sorted

/-! ## Layout -/

/-- The least width of a column. -/
def leastColumn : Nat := 3

/-- The widths of `count` columns for names of the given lengths. -/
def columnWidths (down : Bool) (count : Nat) (lengths : List Nat) : List Nat :=
  let total := lengths.length
  let rows := (total + count - 1) / count
  let placed := lengths.zipIdx.map fun (n, i) =>
    let column := if down then i / rows else i % count
    (column, if column + 1 = count then n else n + 2)
  (List.range count).map fun column =>
    (placed.filter fun p => p.1 = column).foldl (fun w p => max w p.2) leastColumn

/-- The most columns that fit on a line. -/
def fittingColumns (down : Bool) (width : Nat) (lengths : List Nat) : (count : Nat) → List Nat
  | 0 => columnWidths down 1 lengths
  | count + 1 =>
    if count = 0 then columnWidths down 1 lengths
    else
      let widths := columnWidths down (count + 1) lengths
      if widths.sum < width then widths else fittingColumns down width lengths count

/-- Blanks from one column to another, tabs where they reach. -/
def indent (tab : Nat) : (fuel : Nat) → (start goal : Nat) → Octets
  | 0, _, _ => []
  | fuel + 1, start, goal =>
    if goal ≤ start then []
    else if tab ≠ 0 && (start + 1) / tab < goal / tab then
      '\t' :: indent tab fuel (start + tab - start % tab) goal
    else ' ' :: indent tab fuel (start + 1) goal

/-- One row of names, each in its column. -/
def row (tab : Nat) : (start : Nat) → List (Octets × Nat) → Octets
  | _, [] => ['\n']
  | _, [(name, _)] => name ++ ['\n']
  | start, (name, width) :: rest =>
    name ++ indent tab (width + 1) (start + name.length) (start + width) ++
      row tab (start + width) rest

/-- Names in columns. -/
def columns (s : Style) (names : List Octets) : Octets :=
  let down := s.layout == .down
  let lengths := names.map List.length
  let most := if s.width = 0 then names.length
    else min names.length (max 1 ((s.width + leastColumn - 1) / leastColumn))
  let widths := fittingColumns down (if s.width = 0 then 1000000000 else s.width) lengths most
  let count := widths.length
  let rows := (names.length + count - 1) / count
  (List.range rows).flatMap fun r =>
    let indices := if down then (List.range count).map fun column => column * rows + r
      else (List.range count).map fun column => r * count + column
    row s.tab 0 (indices.zipIdx.filterMap fun (i, column) =>
      (names[i]?).map fun name => (name, widths.getD column 0))

/-- Names with commas behind them, as many to a line as fit. -/
def commas (width : Nat) (names : List Octets) : Octets :=
  let (text, _) := names.zipIdx.foldl (fun ((text : Octets), position) (name, i) =>
    let reach := position + name.length + (if i = 0 then 0 else 2) +
      if i + 1 = names.length then 0 else 1
    if i = 0 then (text ++ name, name.length)
    else if width = 0 || reach ≤ width then
      (text ++ ", ".toList ++ name, position + 2 + name.length)
    else (text ++ ",\n".toList ++ name, name.length)) (([] : Octets), 0)
  text ++ ['\n']

/-- Names as they stand on lines. -/
def Style.lay (s : Style) (entries : List Entry) : Octets :=
  let names := entries.map s.show
  if names.isEmpty then []
  else match s.layout with
    | .single => names.flatMap fun name => name ++ [s.terminator]
    | .commas => commas s.width names
    | .down | .across => columns s names

/-! ## Listing -/

/-- A name matches a pattern of stars, question marks and other characters. -/
def fits : Octets → Octets → Bool
  | [], [] => true
  | [], _ => false
  | '*' :: p, [] => fits p []
  | '*' :: p, c :: cs => fits p (c :: cs) || fits ('*' :: p) cs
  | '?' :: p, _ :: cs => fits p cs
  | a :: p, c :: cs => a == c && fits p cs
  | _, [] => false
termination_by p cs => p.length + cs.length

/-- The name is listed where it is found in a directory. -/
def Style.admits (s : Style) (name : Octets) : Bool :=
  (s.dots == .all || (name != ['.'] && name != ['.', '.'])) &&
    (s.dots != .none || name.head? != some '.') &&
    (s.backups || name.getLast? != some '~') &&
    !s.hidden.any fun pattern => fits pattern name

/-- A path with one more name. -/
def join (path name : Octets) : Octets :=
  if path == ['.'] then name
  else if path.getLast? == some '/' then path ++ name else path ++ '/' :: name

def entryOf (name : Octets) (found : Inspection) : Entry :=
  { name, kind := found.kind, size := found.size, runs := found.mode &&& 0o111 != 0 }

/-- What has been written, and the status so far. -/
structure State where
  sink : Call.Sink := {}
  status : Nat := 0
  first : Bool := true

/-- Writes text. -/
def State.write (c : Call) (st : State) (text : Octets) : Script State := do
  let sink ← c.feed 2 "write error" st.sink (Octets.toBytes text)
  return { st with sink }

/-- Complains, which a given operand makes worse. -/
def State.fault (c : Call) (st : State) (given : Bool) (verb : String) (path : Octets)
    (cause : Errno) : Script State := do
  c.complainOf (verb.toList ++ ' ' :: Quoting.shell path) cause
  return { st with status := max st.status (if given then 2 else 1) }

/-- Looks at the names of a directory. -/
def gather (c : Call) (s : Style) (path : Octets) (names : List Octets) (st : State) :
    Script (List Entry × State) :=
  names.foldlM (fun (entries, st) name => do
    let full := join path name
    match ← Script.inspect (Octets.toString full) s.follow with
    | .ok found => return (entries ++ [entryOf name found], st)
    | .error cause =>
      if s.follow then do
        let st ← st.fault c false "cannot access" full cause
        match ← Script.inspect (Octets.toString full) false with
        | .ok found => return (entries ++ [entryOf name found], st)
        | .error _ => return (entries, st)
      else return (entries, st)) ([], st)

/-- Lists a directory, and those in it up to `depth` levels down where that is asked for. -/
def listDirectory (c : Call) (s : Style) (titled : Bool) : (depth : Nat) → (given : Bool) →
    (path : Octets) → State → Script State
  | 0, _, _, st => pure st
  | depth + 1, given, path, st => do
    match ← Script.names (Octets.toString path) with
    | .error cause => st.fault c given "cannot open directory" path cause
    | .ok names => do
      let names := (['.'] :: ['.', '.'] :: names.map Octets.ofString).filter s.admits
      let st ← if titled || s.recursive then
          st.write c ((if st.first then [] else ['\n']) ++ s.quote path ++ ":\n".toList)
        else pure st
      let (entries, st) ← gather c s path names { st with first := false }
      let entries := s.arrange entries
      let st ← st.write c (s.lay entries)
      if s.recursive then
        entries.foldlM (fun st e => do
          if e.kind == .directory && e.name != ['.'] && e.name != ['.', '.'] then
            listDirectory c s titled depth false
              (if path == ['.'] then "./".toList ++ e.name else join path e.name) st
          else pure st) st
      else pure st

/-- Looks at an operand. A link to a directory counts as the directory, unless names are only
listed. -/
def inspectGiven (s : Style) (path : Octets) : Script (Except Errno Inspection) := do
  let text := Octets.toString path
  if s.follow || s.followGiven then Script.inspect text true
  else if s.listed || s.marks == .all then Script.inspect text false
  else match ← Script.inspect text true with
    | .ok found => if found.kind == .directory then pure (.ok found) else Script.inspect text false
    | .error cause =>
      if cause = .noEntry || cause = .tooManyLinks then Script.inspect text false
      else pure (.error cause)

/-- The most levels of directories. -/
def maxDepth : Nat := 4096

end Ls

open Ls in
/-- Lists names. -/
def ls : Main := Call.program fun c => do
  let p := c.parse table
  let style ← c.process 2 p (Style.take c) {}
  let operands := if p.operands.isEmpty then [['.']] else p.operands
  let (entries, st) ← operands.foldlM (fun (entries, (st : State)) path => do
    match ← inspectGiven style path with
    | .ok found => return (entries ++ [entryOf path found], st)
    | .error cause => do
      let st ← st.fault c true "cannot access" path cause
      return (entries, st)) (([] : List Entry), ({} : State))
  let entries := style.arrange entries
  let (directories, files) :=
    if style.listed then ([], entries) else entries.partition fun e => e.kind == .directory
  let st ← if files.isEmpty then pure st else st.write c (style.lay files)
  let st : State := if files.isEmpty then st else { st with first := false }
  let titled := 1 < operands.length
  let st ← directories.foldlM (fun st e =>
    listDirectory c style titled maxDepth true e.name st) st
  c.drain 2 st.sink
  pure st.status

end PipeShell.Programs
