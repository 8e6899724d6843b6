import PipeShell.Error
import PipeShell.Machine.Basic
import PipeShell.Settings.Document

/-!
# Settings

Four settings, each with a default, which a document may replace. A document that sets anything
else, sets anything twice, or gives a setting a value of another type is refused as a whole.

The document is the file that the environment names, or else one in the user's home. That there is
no such file is no error.

## Main definitions

* `Settings`: the settings
* `Settings.ofText?`: reads a document
* `Settings.path?`, `Settings.load`: the file, and the settings it holds
-/

namespace PipeShell

/-- The settings: the most bytes in a line, the prompt for captured lines, whether the prompt is
coloured, and which log messages are shown unless the environment says otherwise. -/
structure Settings where
  maxLine : Nat := 200
  heredocPrompt : String := "> "
  colorPrompt : Bool := true
  logLevel : String := "warn"
  deriving DecidableEq, Repr

/-- Why the settings could not be had. -/
inductive SettingsError where
  | unreadable (e : ReadError)
  | malformed
  deriving DecidableEq, Repr

def SettingsError.message : SettingsError → String
  | unreadable e => e.message
  | malformed => "config: malformed document"

namespace Settings

/-- Sets what one entry of a document says. -/
def set? (s : Settings) : String × Value → Option Settings
  | ("max_line", .integer n) => if 0 ≤ n then some { s with maxLine := n.toNat } else none
  | ("heredoc_prompt", .text t) => some { s with heredocPrompt := t }
  | ("color_prompt", .truth b) => some { s with colorPrompt := b }
  | ("log_level", .text t) => some { s with logLevel := t }
  | _ => none

/-- No key is written twice. -/
def hasDistinctKeys : Document → Bool
  | [] => true
  | (key, _) :: rest => rest.all (fun e => e.1 != key) && hasDistinctKeys rest

/-- The settings that a document makes, starting from the defaults. -/
def ofDocument? (d : Document) : Option Settings :=
  if hasDistinctKeys d then d.foldlM set? {} else none

/-- Reads a document. -/
def ofText? (text : String) : Option Settings := (Document.ofText? text).bind ofDocument?

/-- The variable that names the document. -/
def pathVariable : String := "ISH_CONFIG"

/-- Where in a home the document is. -/
def homePath : String := ".config/ish/config.toml"

/-- The path of the document, if the environment gives one. -/
def path? (env : Machine.Environment) : Option String :=
  match env.lookup pathVariable with
  | some path => some path
  | none =>
    (env.lookup "HOME").map fun home =>
      if home.isEmpty then homePath
      else if home.endsWith "/" then home ++ homePath
      else home ++ "/" ++ homePath

/-- The bytes of a file. -/
def readFile (m : Machine) (cwd : Machine.NodeId) (path : String) : Except Errno (Array UInt8) :=
  match m.openPath m.descriptors cwd path .read 0 with
  | (.error cause, _) => .error cause
  | (.ok file, m) =>
    match (m.inspectFile file).map Machine.Inspection.kind with
    | .ok .directory => .error .isDirectory
    | _ => .ok (m.contents file)

/-- The settings of the document that the environment gives, the defaults where it gives none or
there is no such file. -/
def load (m : Machine) (cwd : Machine.NodeId) : Except SettingsError Settings :=
  match path? m.environment with
  | none => .ok {}
  | some path =>
    match readFile m cwd path with
    | .error cause =>
      if cause = .noEntry then .ok {} else .error (.unreadable (.system cause))
    | .ok data =>
      match Text.Utf8.decode? data.toList with
      | none => .error (.unreadable .notText)
      | some text =>
        match ofText? text with
        | none => .error .malformed
        | some settings => .ok settings

end Settings

end PipeShell
