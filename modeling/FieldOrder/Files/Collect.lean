import FieldOrder.Files.Ignore
import FieldOrder.Files.Tree
import FieldOrder.Text.Case

namespace FieldOrder

/-- A file that was found. -/
structure FoundFile where
  /-- Where it is, behind all links. -/
  location : List String
  /-- The name under which it was found. -/
  name : String
  /-- Why a link of that name leads to no file. -/
  obstacle : Option OsError := none
  deriving Repr, DecidableEq

def FoundFile.extension (f : FoundFile) : String :=
  Path.extensionOf ((Path.ofText f.name).names.getLastD "")

inductive CollectError where
  | ignore (e : IgnoreError)
  /-- A target that leads nowhere. -/
  | missing (target : String)
  /-- A file cannot be had, and not because it is not there. -/
  | os (e : OsError) (name : String)
  /-- A link below a target that leads in a circle. -/
  | circular (name : String)

def CollectError.message : CollectError → String
  | ignore e => e.message
  | missing target => "No such file or directory: " ++ target
  | os e name => e.message name
  | circular name => "Symlink loop from " ++ Text.quoted name

def ignoreFileName : String := ".gitignore"

/-- Directories that are never entered. -/
def closedDirectories : List String := [".git", "node_modules"]

/-- What a walk passes over, and the extensions of the files it is for. -/
structure Filter where
  ignore : String → Bool
  extensions : List String

namespace Filter

def hasExtension (f : Filter) (name : String) : Bool :=
  f.extensions.contains (Text.lower (Path.extensionOf name))

def takesFile (f : Filter) (location : List String) (name : String) : Bool :=
  f.hasExtension name && !f.ignore (Path.joinNames (location ++ [name]))

def enters (f : Filter) (location : List String) (name : String) : Bool :=
  !closedDirectories.contains name &&
    !f.ignore (Path.joinNames (location ++ [name]) ++ "/")

mutual

/-- The locations of the files and links in a directory, in order, and after them of those below
it. Links are not followed. -/
def walk (f : Filter) (location : List String) : FileTree → List (List String)
  | .directory entries =>
    ((entries.filter fun (name, t) => !t.isDirectory && f.takesFile location name).map
      fun (name, _) => location ++ [name]) ++ walkEach f location entries
  | _ => []

def walkEach (f : Filter) (location : List String) : List (String × FileTree) → List (List String)
  | [] => []
  | (name, t) :: rest =>
    (if t.isDirectory && f.enters location name then walk f (location ++ [name]) t else []) ++
      walkEach f location rest

end

end Filter

namespace Workspace

def ignoreLines (w : Workspace) : Except CollectError (List String) :=
  let p := Path.ofText ignoreFileName
  match w.findFile? (w.fullName p) p with
  | .error e => .error (.os e (w.fullName p))
  | .ok none => .ok []
  | .ok (some location) =>
    match w.read location with
    | .error e => .error (.os e (w.fullName p))
    | .ok bytes => .ok (Ignore.linesOf bytes)

/-- Which paths are passed over for the patterns of the ignore file and further ones. -/
def ignore (w : Workspace) (compile : IgnoreCompiler) (further : List String) :
    Except CollectError (String → Bool) := do
  match (← w.ignoreLines) ++ further.filter fun p => Text.trim p != "" with
  | [] => return fun _ => false
  | lines => (compile lines).mapError .ignore

/-- What a walk has come to. A link counts as a file, unless it leads to a directory. -/
def foundFile (w : Workspace) (path : List String) : Except CollectError (Option FoundFile) :=
  let name := w.nameOf path
  match w.tree.at? path with
  | some (.link target) =>
    match w.follow linkLimit path.dropLast target with
    | .ok location =>
      if (w.tree.fileAt? location).isSome then .ok (some { location, name }) else .ok none
    | .error obstacle =>
      let location := w.real linkLimit path.dropLast target
      match w.follow (linkLimit + 1) [] { names := location } with
      | .error e =>
        if e = .circular then .error (.circular name)
        else .ok (some { location, name, obstacle := some obstacle })
      | .ok _ => .ok (some { location, name, obstacle := some obstacle })
  | _ => .ok (some { location := path, name })

/-- The files of a directory. Patterns are for paths from the current directory on; outside it, for
paths from the directory that is walked. -/
def filesBelow (w : Workspace) (f : Filter) (start : List String) (t : FileTree) :
    Except CollectError (List FoundFile) := do
  let base := if w.current.isPrefixOf start then w.current else start
  let found ← (f.walk (start.drop base.length) t).mapM fun path => w.foundFile (base ++ path)
  return found.filterMap id

/-- The files of a target that leads to a location. -/
def filesAt (w : Workspace) (f : Filter) (target : Path) (location : List String) :
    Except CollectError (List FoundFile) :=
  match w.tree.at? location with
  | some (.directory entries) => w.filesBelow f location (.directory entries)
  | _ =>
    let named := f.hasExtension (target.names.getLastD "")
    .ok (if named then [{ location, name := w.fullName target }] else [])

def filesOf (w : Workspace) (f : Filter) (target : Path) : Except CollectError (List FoundFile) :=
  match w.find? (w.fullName target) target with
  | .error e => .error (.os e (w.fullName target))
  | .ok none => .error (.missing target.text)
  | .ok (some location) => w.filesAt f target location

/-- The files of all targets, each where it is found first. -/
def collect (w : Workspace) (compile : IgnoreCompiler) (targets : List Path)
    (extensions exclude : List String) : Except CollectError (List FoundFile) := do
  let filter : Filter := ⟨← w.ignore compile exclude, extensions⟩
  let found ← targets.mapM (w.filesOf filter)
  return found.flatten.foldl (fun seen file =>
    if seen.any (·.location == file.location) then seen else seen ++ [file]) []

end Workspace

end FieldOrder
