import PipeShell.Machine.Program
import PipeShell.Text.Blank

/-!
# File trees

A tree is a table of nodes; a directory names nodes of the table. Node 0 is the root. A node that no
directory names any more is still there for those who have it open or stand in it.

A path is followed name by name from the root or from a given directory. Links are followed, at most
forty of them. The owner's permission bits are checked and nothing overrides them.

## Main definitions

* `FileTree`, `Node`, `Content`: the table
* `FileTree.resolve`: where a path leads
* `FileTree.find`: the node it leads to
* `FileTree.openNode`: the node to open for a given access, created where that is due
* `FileTree.unlink`, `FileTree.removeDirectory`: removing names
* `FileTree.pathOf?`: the path of a directory
-/

namespace PipeShell.Machine

/-- A node's place in the table. -/
abbrev NodeId := Nat

/-- A file that holds nothing of its own. `empty` has nothing to read and swallows what is written;
`zeros` swallows it too, and reading it never ends; `full` reads like it and has no room for a byte;
a `terminal` is there only for those who have one, which nobody here has; `stream fd` leads wherever
descriptor `fd` of the one who opens it leads. -/
inductive Device where
  | empty
  | zeros
  | full
  | terminal
  | stream (fd : Nat)
  deriving DecidableEq, Repr

/-- What a node holds. -/
inductive Content where
  | directory (parent : NodeId) (entries : List (String × NodeId))
  | file (data : Array UInt8)
  | link (target : String)
  | device (device : Device)
  | program (main : Main)

/-- A node: what it holds, and its permission bits. -/
structure Node where
  content : Content
  mode : Nat

/-- A table of nodes. -/
structure FileTree where
  nodes : Array Node

/-- Where a path leads: to a node, or to a name that its directory does not have yet. -/
inductive Place where
  | node (id : NodeId)
  | vacant (directory : NodeId) (name : String)
  deriving DecidableEq, Repr

namespace FileTree

/-- The root's place in the table. -/
def root : NodeId := 0

/-- A tree with nothing but its root. -/
def bare : FileTree := ⟨#[⟨.directory root [], 0o755⟩]⟩

def content? (t : FileTree) (id : NodeId) : Option Content := (t.nodes[id]?).map Node.content

/-- A directory's parent and entries. -/
def directory? (t : FileTree) (id : NodeId) : Option (NodeId × List (String × NodeId)) :=
  match t.content? id with
  | some (.directory parent entries) => some (parent, entries)
  | _ => none

def isDirectory (t : FileTree) (id : NodeId) : Bool := (t.directory? id).isSome

/-- A link's target. -/
def target? (t : FileTree) (id : NodeId) : Option String :=
  match t.content? id with
  | some (.link target) => some target
  | _ => none

/-- A file's bytes. -/
def data? (t : FileTree) (id : NodeId) : Option (Array UInt8) :=
  match t.content? id with
  | some (.file data) => some data
  | _ => none

/-- A directory's entries. -/
def entries (t : FileTree) (id : NodeId) : List (String × NodeId) :=
  match t.directory? id with
  | some (_, es) => es
  | none => []

/-- A node's permission bits. -/
def mode (t : FileTree) (id : NodeId) : Nat :=
  match t.nodes[id]? with
  | some node => node.mode
  | none => 0

/-- The owner has the permission. -/
def allows (t : FileTree) (id : NodeId) (p : Permission) : Bool := t.mode id &&& p.bit != 0

/-- The directory is the root or its parent still names it. -/
def isAttached (t : FileTree) (id : NodeId) : Bool :=
  id == root ||
    match t.directory? id with
    | some (parent, _) => (t.entries parent).any fun e => e.2 == id
    | none => false

/-- Changes what a node holds. -/
def setContent (t : FileTree) (id : NodeId) (c : Content) : FileTree :=
  ⟨t.nodes.modify id fun node => { node with content := c }⟩

/-- Changes a file's bytes. The node lets go of its old bytes first, so that bytes nobody else holds
are changed in place. -/
def modifyData (t : FileTree) (id : NodeId) (f : Array UInt8 → Array UInt8) : FileTree :=
  ⟨t.nodes.modify id fun node =>
    match node with
    | ⟨.file data, mode⟩ => ⟨.file (f data), mode⟩
    | node => node⟩

def setMode (t : FileTree) (id : NodeId) (mode : Nat) : FileTree :=
  ⟨t.nodes.modify id fun node => { node with mode }⟩

/-- Changes a directory's entries. -/
def modifyEntries (t : FileTree) (id : NodeId)
    (f : List (String × NodeId) → List (String × NodeId)) : FileTree :=
  match t.directory? id with
  | some (parent, es) => t.setContent id (.directory parent (f es))
  | none => t

/-- Adds a node that no directory names. -/
def allocate (t : FileTree) (node : Node) : NodeId × FileTree :=
  (t.nodes.size, ⟨t.nodes.push node⟩)

/-- Adds a node under a name. -/
def insert (t : FileTree) (directory : NodeId) (name : String) (node : Node) :
    NodeId × FileTree :=
  let (id, t) := t.allocate node
  (id, t.modifyEntries directory fun es => es ++ [(name, id)])

/-! ## Following paths -/

/-- The most links followed on one path. -/
def maxLinks : Nat := 40

/-- The most bytes in a name. -/
def maxName : Nat := 255

/-- The least number of bytes that is too many in a path. -/
def maxPath : Nat := 4096

/-- The names in a path, with an empty one where a slash ends it or follows another. -/
def partsOf (path : String) : List String := Text.splitAt '/' path

/-- The path begins at the root. -/
def isAbsolute (path : String) : Bool := path.toList.head? == some '/'

/-- What becomes of the last name of a path: a link under it is left alone or followed; or it is
followed to a file that is made where there is none, in which case no slash may stand behind the
last name. -/
inductive Ending where
  | kept
  | followed
  | created
  deriving DecidableEq, Repr

/-- Follows names from a directory. The last name may be vacant. -/
def walk (t : FileTree) (ending : Ending) :
    (links : Nat) → (parts : List String) → (current : NodeId) → Except Errno Place
  | _, [], current => .ok (.node current)
  | links, part :: rest, current =>
    match t.directory? current with
    | none => .error .notDirectory
    | some (parent, entries) =>
      if part = "" then walk t ending links rest current
      else if !t.allows current .search then .error .noAccess
      else if part = "." then walk t ending links rest current
      else if part = ".." then walk t ending links rest parent
      else if ending = .created ∧ !rest.isEmpty ∧ rest.all (· == "") then .error .isDirectory
      else if maxName < part.utf8ByteSize then .error .nameTooLong
      -- Only the last name may be missing, and only for one who makes a file.
      else match entries.lookup part with
        | none => if rest.isEmpty then .ok (.vacant current part) else .error .noEntry
        | some id =>
          match t.target? id with
          | none => walk t ending links rest id
          | some target =>
            if rest.isEmpty && ending == .kept then .ok (.node id)
            else match links with
              | 0 => .error .tooManyLinks
              | links + 1 =>
                -- The target stands in the place of the link and is seen from the link's directory.
                walk t ending links (partsOf target ++ rest)
                  (if isAbsolute target then root else current)
termination_by links parts => (links, parts.length)

/-- Why no path can have this text. -/
def malformed? (path : String) : Option Errno :=
  if path.toList.contains '\x00' then some .invalid
  else if path.isEmpty then some .noEntry
  else if maxPath ≤ path.utf8ByteSize then some .nameTooLong
  else none

/-- Where a path leads, seen from a directory. -/
def resolve (t : FileTree) (cwd : NodeId) (ending : Ending) (path : String) : Except Errno Place :=
  match malformed? path with
  | some cause => .error cause
  | none => t.walk ending maxLinks (partsOf path) (if isAbsolute path then root else cwd)

/-- The node that a path leads to. -/
def find (t : FileTree) (cwd : NodeId) (follow : Bool) (path : String) : Except Errno NodeId :=
  match t.resolve cwd (if follow then .followed else .kept) path with
  | .error cause => .error cause
  | .ok (.node id) => .ok id
  | .ok (.vacant ..) => .error .noEntry

/-! ## Opening -/

/-- A path that ends in a slash behind a name asks for a directory. -/
def asksDirectory (path : String) : Bool :=
  match (partsOf path).reverse with
  | "" :: rest =>
    match rest.dropWhile (· == "") with
    | last :: _ => last != "." && last != ".."
    | [] => false
  | _ => false

/-- The path without its last name. -/
def parentParts (path : String) : List String :=
  match (partsOf path).reverse.dropWhile (· == "") with
  | _ :: rest => rest.reverse
  | [] => []

/-- The node to open for reading. -/
def openForReading (t : FileTree) (cwd : NodeId) (path : String) : Except Errno NodeId :=
  match t.find cwd true path with
  | .error cause => .error cause
  | .ok id => if t.allows id .read then .ok id else .error .noAccess

/-- The node to open for writing, a new one with the given permission bits where the name is
vacant. -/
def openForWriting (t : FileTree) (cwd : NodeId) (path : String) (mode : Nat) (alsoRead : Bool) :
    Except Errno (NodeId × FileTree) :=
  match t.resolve cwd .created path with
  | .error cause => .error cause
  | .ok (.vacant directory name) =>
    -- Nothing can be made in a directory that has been removed.
    if !t.isAttached directory then .error .noEntry
    else if !t.allows directory .write then .error .noAccess
    else .ok (t.insert directory name ⟨.file #[], mode⟩)
  | .ok (.node id) =>
    if t.isDirectory id then .error .isDirectory
    else if !t.allows id .write || (alsoRead && !t.allows id .read) then .error .noAccess
    else .ok (id, t)

/-- The permission bits that a mask leaves. -/
def masked (umask mode : Nat) : Nat := mode &&& (0o777 ^^^ umask)

/-- The node to open for a given access, and the tree afterwards. A new file gets the bits
`mode`. -/
def openNode (t : FileTree) (cwd : NodeId) (path : String) (access : Access) (mode : Nat) :
    Except Errno (NodeId × FileTree) :=
  match access with
  | .read => (t.openForReading cwd path).map fun id => (id, t)
  | .overwrite =>
    (t.openForWriting cwd path mode false).map fun (id, t) => (id, t.modifyData id fun _ => #[])
  | .append => t.openForWriting cwd path mode false
  | .both => t.openForWriting cwd path mode true

/-! ## Removing -/

/-- Takes a name out of a directory. -/
def forget (t : FileTree) (directory : NodeId) (name : String) : FileTree :=
  t.modifyEntries directory fun es => es.filter fun e => e.1 != name

/-- The directory that names the last part of a path, and that part. -/
def parentOf (t : FileTree) (cwd : NodeId) (path : String) : Except Errno (NodeId × String) :=
  match malformed? path with
  | some cause => .error cause
  | none =>
    match t.walk .followed maxLinks (parentParts path) (if isAbsolute path then root else cwd) with
    | .error cause => .error cause
    | .ok (.vacant ..) => .error .noEntry
    | .ok (.node directory) =>
      match (partsOf path).reverse.dropWhile (· == "") with
      | last :: _ =>
        if !t.isDirectory directory then .error .notDirectory
        else if !t.allows directory .search then .error .noAccess
        else .ok (directory, last)
      | [] => .error .isDirectory

/-- Removes the name of anything but a directory. -/
def unlink (t : FileTree) (cwd : NodeId) (path : String) : Except Errno FileTree :=
  match t.parentOf cwd path with
  | .error cause => .error cause
  | .ok (directory, name) =>
    if name = "." ∨ name = ".." then .error .isDirectory
    else match (t.entries directory).lookup name with
      | none => .error .noEntry
      | some id =>
        if t.isDirectory id then .error .isDirectory
        else if asksDirectory path then .error .notDirectory
        else if !t.allows directory .write then .error .noAccess
        else .ok (t.forget directory name)

/-- Removes the name of an empty directory. -/
def removeDirectory (t : FileTree) (cwd : NodeId) (path : String) : Except Errno FileTree :=
  match t.parentOf cwd path with
  | .error cause => .error (if (partsOf path).all (· == "") && !path.isEmpty then .busy else cause)
  | .ok (directory, name) =>
    if name = "." then .error .invalid
    else if name = ".." then .error .notEmpty
    else match (t.entries directory).lookup name with
      | none => .error .noEntry
      | some id =>
        if !t.isDirectory id then .error .notDirectory
        else if !(t.entries id).isEmpty then .error .notEmpty
        else if !t.allows directory .write then .error .noAccess
        else .ok (t.forget directory name)

/-! ## Paths of directories -/

/-- The names that lead to a directory from the root, onto those found so far. -/
def namesTo? (t : FileTree) : (climbs : Nat) → NodeId → List String → Option (List String)
  | 0, _, _ => none
  | climbs + 1, id, sofar =>
    if id = root then some sofar
    else match t.directory? id with
      | none => none
      | some (parent, _) =>
        match (t.entries parent).find? fun e => e.2 == id with
        | none => none
        | some (name, _) => namesTo? t climbs parent (name :: sofar)

/-- The path of a directory, if names still lead to it. -/
def pathOf? (t : FileTree) (id : NodeId) : Option String :=
  (t.namesTo? (t.nodes.size + 1) id []).map fun names =>
    if names.isEmpty then "/" else String.join (names.map ("/" ++ ·))

end FileTree

end PipeShell.Machine
