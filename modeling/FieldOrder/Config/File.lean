import FieldOrder.Config.Basic
import FieldOrder.Files.Tree
import FieldOrder.Text.Utf8
import FieldOrder.Yaml.Load

namespace FieldOrder

/-- Why a configuration file could not be put to use. -/
inductive ConfigFileError where
  | config (e : ConfigError)
  | load (e : LoadFailure)
  /-- The file is no text. -/
  | notText (e : Text.Utf8Error)
  /-- A value in the file cannot be read. -/
  | value (e : Yaml.Fault)
  /-- Whether there is a file cannot be found out. -/
  | os (e : OsError) (name : String)

namespace Config

/-- Names of configuration files; the first that is there counts. -/
def fileNames : List String := ["prop-ordering.yaml", ".prop-ordering.yaml"]

/-- The file that a path leads to: the name of the path in full, and the location of the file. -/
def fileOf? (w : Workspace) (p : Path) : Except ConfigFileError (Option (String × List String)) :=
  match w.findFile? (w.fullName p) p with
  | .error e => .error (.os e (w.fullName p))
  | .ok found => .ok (found.map fun location => (w.fullName p, location))

/-- Name and location of the file that is asked for, or else of the first one that is found in the
current directory. -/
def source? (w : Workspace) (asked : Option Path) :
    Except ConfigFileError (Option (String × List String)) :=
  match asked with
  | none => (fileNames.map Path.ofText).findSomeM? (fileOf? w)
  | some p =>
    match w.findFile? p.text p with
    | .error e => .error (.os e p.text)
    | .ok none => .error (.config (.notFound p.text))
    | .ok (some location) => .ok (some (p.text, location))

/-- Does a document say nothing? Such a document is an empty mapping. -/
def saysNothing : Value → Bool
  | .null => true
  | .bool b => !b
  | .int n => n == 0
  | .float x => x == 0
  | .str s => s == ""
  | .list items => items.isEmpty
  | .map entries => entries.isEmpty
  | .other v => v.isEmpty
  | .tuple items => items.isEmpty

/-- A way to read documents; it fails as malformed where the text is no document. -/
abbrev DocumentReader := List Char → Except Yaml.Fault Value

/-- The mapping in the bytes of a file with a name. -/
def readMapping (readDocument : DocumentReader) (name : String) (bytes : List UInt8) :
    Except ConfigFileError Value := do
  let text ← (Text.decode bytes).mapError .notText
  let raw ← (readDocument (Text.unifyLineEnds text)).mapError fun
    | .malformed => .config (.malformed name)
    | e => .value e
  if saysNothing raw then return .map []
  match raw with
  | .map entries => return .map entries
  | _ => throw (.config (.notMapping name))

def loadFile (readDocument : DocumentReader) (name : String) (bytes : List UInt8) :
    Except ConfigFileError Loaded := do
  (load (← readMapping readDocument name bytes)).mapError fun
    | .invalid e => .config (.invalid e)
    | e => .load e

/-- The configuration of a workspace, from the file that is asked for or else from one that is
found. -/
def loadFrom (w : Workspace) (readDocument : DocumentReader) (asked : Option Path) :
    Except ConfigFileError Loaded := do
  match ← source? w asked with
  | none => (load (.map [])).mapError .load
  | some (name, location) =>
    match w.read location with
    | .error e => throw (.config (.unreadable name (e.message name)))
    | .ok bytes => loadFile readDocument name bytes

end Config

end FieldOrder
