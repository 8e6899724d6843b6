import PipeShell.Text.Blank
import PipeShell.Wildcard.Pattern

/-!
# The paths that a word stands for

A word with a wildcard stands for the paths of a directory tree that it describes. The word is cut
at its slashes; a component without wildcard and bracket names one entry, any other component
describes names, and a component `**` describes any number of directories. Names that begin with a
dot are never found by a component that describes names; only `.` and `..` are, where such a
component begins with a dot itself.

## Main definitions

* `View`: what a search may ask of a directory tree
* `Query.ofWord?`: a word cut into components
* `search`: the paths that a row of components leads to from a given path
* `expand`: the words that take a word's place

A search goes down at most `reach` directories. A path with more names than that is longer than any
path the system accepts, so it leads nowhere and nothing is lost.
-/

namespace PipeShell.Wildcard

/-- What a search may ask of a directory tree: whether a path leads to something, a link with no
target included; whether it leads to a directory, links followed; and the names in a directory. -/
structure View where
  present : String → Bool
  isDirectory : String → Bool
  names : String → List String

/-- One component of a word. -/
inductive Part where
  | literal (text : String)
  | described (pattern : Pattern)
  | deep
  deriving DecidableEq, Repr

namespace Part

/-- The name that a row of single characters spells. -/
def spelled? : Pattern → Option (List Char)
  | [] => some []
  | .char c :: rest => (spelled? rest).map (c :: ·)
  | _ => none

/-- Reads one component. -/
def ofChars? (cs : List Char) : Option Part :=
  if cs = ['*', '*'] then some deep
  else (Pattern.ofChars? cs).map fun p =>
    match spelled? p with
    | some name => literal (String.ofList name)
    | none => described p

/-- The component describes the name. -/
def isMatch (name : String) : Part → Bool
  | literal text => text == name
  | described p => p.isMatch name.toList
  | deep => false

end Part

/-- Of neighbouring components `**` one is left. -/
def collapse : List Part → List Part
  | .deep :: .deep :: rest => collapse (.deep :: rest)
  | part :: rest => part :: collapse rest
  | [] => []

/-- A word cut into components: whether it begins at the root, its components, and whether it asks
for directories only. -/
structure Query where
  absolute : Bool
  parts : List Part
  directoriesOnly : Bool
  deriving Repr

/-- Cuts a word into components. A word one of whose components is malformed asks nothing. -/
def Query.ofWord? (word : String) : Option Query :=
  let cs := escape word.toList
  let absolute := cs.head? == some '/'
  let body := if absolute then cs.dropWhile (· == '/') else cs
  ((Text.terminated (· == '/') body).mapM Part.ofChars?).map fun parts =>
    { absolute, parts := collapse parts, directoriesOnly := cs.getLast? == some '/' }

/-! ## Paths -/

/-- The path of a name in the directory that a path leads to. -/
def join (path name : String) : String :=
  if path.endsWith "/" then path ++ name else path ++ "/" ++ name

/-- The path is a way of writing the working directory. -/
def isHere (path : String) : Bool :=
  path.startsWith "." && (Text.splitAt '/' path).all fun part => part == "." || part == ""

/-- The path of an entry, which is its name alone in the working directory. -/
def entryPath (path name : String) : String := if isHere path then name else join path name

/-- The names in a directory that do not begin with a dot. -/
def View.visible (v : View) (path : String) : List String :=
  (v.names path).filter fun name => !name.startsWith "."

/-! ## Searching -/

/-- The number of names in the longest path that can lead anywhere. -/
def reach : Nat := 4096

/-- The entries `.` and `..` that a pattern describes, if it begins with a dot. -/
def specials (p : Pattern) : List String :=
  if p.head? = some (.char '.') then
    [".", ".."].filter fun name => p.isMatch name.toList
  else []

/-- A component that names an entry leads there if the entry exists. -/
def View.leads (v : View) (path text : String) : Bool :=
  if text = "." ∨ text = ".." then v.isDirectory path else v.present (entryPath path text)

/-- The paths to which the components lead from a path. A component `**` looks at every entry of
every directory below; an entry that is a directory is looked into and is a result where nothing
follows, and where a component follows, the entry's name is matched with that one. -/
def search (v : View) : (depth : Nat) → List Part → String → List String
  | _, [], path => [path]
  | depth, .literal text :: rest, path =>
    if v.leads path text then search v depth rest (entryPath path text) else []
  | 0, _, _ => []
  | depth + 1, .described p :: rest, path =>
    if v.isDirectory path then
      ((v.visible path).filter (p.isMatch ·.toList)).flatMap
          (fun name => search v depth rest (entryPath path name)) ++
        (specials p).flatMap fun name => search v depth rest (join path name)
    else []
  | depth + 1, .deep :: rest, path =>
    if v.isDirectory path then
      (v.visible path).flatMap fun name =>
        let entry := entryPath path name
        (if v.isDirectory entry then search v depth (.deep :: rest) entry else []) ++
          match rest with
          | [] => if v.isDirectory entry then [entry] else []
          | part :: later => if part.isMatch name then search v depth later entry else []
    else []
termination_by depth parts => (depth, parts.length)

/-- The paths that a query finds. -/
def Query.paths (q : Query) (v : View) : List String :=
  let found := search v reach q.parts (if q.absolute then "/" else ".")
  if q.directoriesOnly then found.filter v.isDirectory else found

/-- Ascending by bytes. -/
def ascending (paths : List String) : List String :=
  paths.mergeSort fun a b => decide (a ≤ b)

/-- The word has a wildcard. -/
def hasWildcard (word : String) : Bool := word.toList.any fun c => c == '*' || c == '?'

/-- The words that take a word's place: the paths it stands for, ascending, and the word itself
where it has no wildcard or stands for nothing. -/
def expand (v : View) (word : String) : List String :=
  if hasWildcard word then
    match Query.ofWord? word with
    | none => [word]
    | some q =>
      match ascending (q.paths v) with
      | [] => [word]
      | paths => paths
  else [word]

end PipeShell.Wildcard
