import PipeShell.Machine.Basic

/-!
# Laying out and surveying trees

## Main definitions

* `FileTree.plant`: puts a file, a directory or a link under a path, its directories included
* `FileTree.uproot`: takes away whatever is under a path
* `FileTree.below`: everything below a directory
* `boot`: a machine with its devices and programs
-/

namespace PipeShell.Machine

/-- What can be put under a path. -/
inductive Plant where
  | directory
  | file (data : Array UInt8)
  | link (target : String)

namespace FileTree

/-- Makes the directories that names lead through, as far as they are missing. -/
def ensure (t : FileTree) (umask : Nat) : NodeId → List String → Except Errno (NodeId × FileTree)
  | id, [] => .ok (id, t)
  | id, name :: rest =>
    if name.isEmpty || name == "." then t.ensure umask id rest
    else match (t.entries id).lookup name with
      | some _ =>
        match t.find id true name with
        | .error cause => .error cause
        | .ok next =>
          if t.isDirectory next then t.ensure umask next rest else .error .notDirectory
      | none =>
        let (next, t) := t.insert id name ⟨.directory id [], masked umask 0o777⟩
        t.ensure umask next rest

/-- Puts something under a path. A file that is there already gets new bytes. The permission bits
are those given, or what the mask leaves of all. -/
def plant (t : FileTree) (cwd : NodeId) (umask : Nat) (path : String) (what : Plant)
    (mode : Option Nat) : Except Errno FileTree :=
  let start := if isAbsolute path then root else cwd
  let names := (partsOf path).filter (!·.isEmpty)
  let chmod := fun (t : FileTree) (id : NodeId) =>
    match mode with
    | some mode => t.setMode id mode
    | none => t
  match what with
  | .directory => (t.ensure umask start names).map fun (id, t) => chmod t id
  | .link target =>
    match t.ensure umask start names.dropLast, names.getLast? with
    | .ok (id, t), some name => .ok (t.insert id name ⟨.link target, 0o777⟩).2
    | .error cause, _ => .error cause
    | _, none => .error .isDirectory
  | .file data =>
    match t.ensure umask start names.dropLast, names.getLast? with
    | .ok (id, t), some name =>
      match t.walk .followed maxLinks [name] id with
      | .error cause => .error cause
      | .ok (.node old) =>
        if t.isDirectory old then .error .isDirectory
        else .ok (chmod (t.modifyData old fun _ => data) old)
      | .ok (.vacant directory name) =>
        let (new, t) := t.insert directory name ⟨.file data, masked umask 0o666⟩
        .ok (chmod t new)
    | .error cause, _ => .error cause
    | _, none => .error .isDirectory

/-- Empties a directory, and those below it, `depth` levels down. -/
def clear : (depth : Nat) → FileTree → NodeId → FileTree
  | 0, t, _ => t
  | depth + 1, t, id =>
    let t := (t.entries id).foldl (fun t e => clear depth t e.2) t
    t.modifyEntries id fun _ => []

/-- Takes away whatever is under a path: a directory with all that is below it, and of a link the
link itself. -/
def uproot (t : FileTree) (cwd : NodeId) (path : String) : Except Errno FileTree :=
  match t.find cwd false path with
  | .error cause => .error cause
  | .ok id =>
    match t.parentOf cwd path with
    | .error cause => .error cause
    | .ok (directory, name) =>
      if name = "." ∨ name = ".." then .error .invalid
      else .ok ((clear t.nodes.size t id).forget directory name)

/-- Everything below a directory, `depth` levels down, each with its path. -/
def below (t : FileTree) : (depth : Nat) → (start : String) → NodeId → List (String × NodeId)
  | 0, _, _ => []
  | depth + 1, start, id =>
    (t.entries id).flatMap fun (name, child) =>
      (start ++ name, child) :: t.below depth (start ++ name ++ "/") child

end FileTree

/-- Puts something into a machine's tree. What cannot be put there is left out. -/
def plant (m : Machine) (path : String) (what : Plant) : Machine :=
  match m.tree.plant FileTree.root 0o022 path what none with
  | .ok tree => { m with tree }
  | .error _ => m

/-- Puts a node into a directory of a machine's tree. -/
def install (m : Machine) (directory name : String) (node : Node) : Machine :=
  match m.tree.find FileTree.root true directory with
  | .ok id => { m with tree := (m.tree.insert id name node).2 }
  | .error _ => m

/-- The devices of a machine, each with its name. -/
def devices : List (String × Device) :=
  [("null", .empty), ("zero", .zeros), ("full", .full), ("tty", .terminal), ("stdin", .stream 0),
   ("stdout", .stream 1), ("stderr", .stream 2)]

/-- A machine with the given programs, a directory for temporary files and its devices. -/
def boot (programs : List (String × Main)) (environment : Environment) : Machine :=
  let m := (onTree FileTree.bare environment).plant "/usr/bin" .directory
  let m := (m.plant "/bin" (.link "usr/bin")).plant "/tmp" .directory
  let m := devices.foldl (fun m (name, device) => m.install "/dev" name ⟨.device device, 0o666⟩)
    (m.plant "/dev/fd" .directory)
  let m := (List.range 10).foldl
    (fun m fd => m.install "/dev/fd" (toString fd) ⟨.device (.stream fd), 0o666⟩) m
  programs.foldl (fun m (name, main) => m.install "/usr/bin" name ⟨.program main, 0o755⟩) m

/-- Opens a file without a name, with the given bytes, under a descriptor of the shell. -/
def openStream (m : Machine) (fd : Nat) (data : Array UInt8) : Machine :=
  let (file, m) := m.openNameless data
  { m with descriptors := m.descriptors.place fd file }

/-- The bytes that a descriptor of the shell leads to. -/
def streamContents (m : Machine) (fd : Nat) : Array UInt8 :=
  match m.descriptors.get? fd with
  | some file => m.contents file
  | none => #[]

/-- The position of a descriptor of the shell. -/
def streamOffset (m : Machine) (fd : Nat) : Nat :=
  match (m.descriptors.get? fd).bind (m.files[·]?) with
  | some f => f.offset
  | none => 0

end PipeShell.Machine
