import FieldOrder.Files.Path
import FieldOrder.Text.Quoted
import FieldOrder.Text.Utf8

namespace FieldOrder

/-- What the platform says where a file cannot be had. -/
structure OsError where
  number : Nat
  text : String
  deriving Repr, DecidableEq

namespace OsError

def noSuchFile : OsError := ⟨2, "No such file or directory"⟩

def notDirectory : OsError := ⟨20, "Not a directory"⟩

def nameTooLong : OsError := ⟨36, "File name too long"⟩

def circular : OsError := ⟨40, "Too many levels of symbolic links"⟩

def leadsNowhere (e : OsError) : Bool := [noSuchFile, notDirectory, circular].contains e

def message (e : OsError) (name : String) : String :=
  "[Errno " ++ toString e.number ++ "] " ++ e.text ++ ": " ++ Text.quoted name

end OsError

inductive FileTree where
  | file (bytes : List UInt8)
  /-- Entries in ascending order of their names, which differ. -/
  | directory (entries : List (String × FileTree))
  | link (target : Path)
  deriving Inhabited

namespace FileTree

def none : FileTree := directory []

def isDirectory : FileTree → Bool
  | directory _ => true
  | _ => false

def entries : FileTree → List (String × FileTree)
  | directory es => es
  | _ => []

def child? (t : FileTree) (name : String) : Option FileTree := t.entries.lookup name

/-- What is at a location, given by the names that lead to it. -/
def at? (t : FileTree) : List String → Option FileTree
  | [] => some t
  | name :: rest => (t.child? name).bind (·.at? rest)

def fileAt? (t : FileTree) (location : List String) : Option (List UInt8) :=
  match t.at? location with
  | some (file bytes) => some bytes
  | _ => Option.none

/-- Puts an entry in its place among entries in order. -/
def putInOrder (name : String) (t : FileTree) : List (String × FileTree) → List (String × FileTree)
  | [] => [(name, t)]
  | (n, u) :: rest =>
    if n = name then (name, t) :: rest
    else if name < n then (name, t) :: (n, u) :: rest
    else (n, u) :: putInOrder name t rest

/-- Puts a node at a location, in directories that are made where there are none. A directory that
is there already stays as it is. -/
def insert (t : FileTree) (added : FileTree) : List String → FileTree
  | [] => if t.isDirectory && added.isDirectory then t else added
  | name :: rest =>
    directory (putInOrder name (((t.child? name).getD none).insert added rest) t.entries)

end FileTree

def nameLimit : Nat := 255

def pathLimit : Nat := 4096

def linkLimit : Nat := 40

def byteLength (name : String) : Nat := (Text.encode name.toList).length

/-- A tree of files, the name it has for the user, and the directory in which a run takes place. -/
structure Workspace where
  /-- The absolute name of the tree. -/
  rootName : String
  tree : FileTree
  /-- Location of the directory that relative paths start from. -/
  current : List String := []
  /-- Why the file at a location cannot be read. -/
  refused : List String → Option OsError := fun _ => none

namespace Workspace

def root (w : Workspace) : Path := .ofText w.rootName

/-- Where a path starts, and the names from there on. Absolute paths lead into the tree only through
its name. -/
def anchor (w : Workspace) (start : List String) (p : Path) :
    Except OsError (List String × List String) :=
  if !p.absolute then .ok (start, p.names)
  else if w.root.absolute && w.root.names.isPrefixOf p.names then
    .ok ([], p.names.drop w.root.names.length)
  else .error .noSuchFile

/-- The directory around a location. The root of all files is around itself. -/
def around (w : Workspace) (location : List String) : Except OsError (List String) :=
  if location.isEmpty && w.root != { absolute := true, names := [] } then .error .noSuchFile
  else .ok location.dropLast

/-- One step from a location. Where a link leads to is told by `follow`. -/
def step (w : Workspace) (follow : List String → Path → Except OsError (List String))
    (location : List String) (name : String) : Except OsError (List String) :=
  match w.tree.at? location with
  | some (.directory entries) =>
    if name = ".." then w.around location
    else if nameLimit < byteLength name then .error .nameTooLong
    else match entries.lookup name with
      | none => .error .noSuchFile
      | some (.link target) => follow location target
      | some _ => .ok (location ++ [name])
  | _ => .error .notDirectory

/-- The location that a path leads to from a directory, if there is something. -/
def follow (w : Workspace) : Nat → List String → Path → Except OsError (List String)
  | 0, _, _ => .error .circular
  | links + 1, start, p => do
    let (start, names) ← w.anchor start p
    names.foldlM (w.step (w.follow links)) start

/-- The location that a path stands for, also where there is nothing. -/
def real (w : Workspace) : Nat → List String → Path → List String
  | 0, start, p => start ++ p.names
  | links + 1, start, p =>
    match w.anchor start p with
    | .error _ => start ++ p.names
    | .ok (start, names) => names.foldl (fun location name =>
        if name = ".." then location.dropLast
        else match w.tree.at? (location ++ [name]) with
          | some (.link target) => w.real links location target
          | _ => location ++ [name]) start

/-- The location that a path leads to, which the platform is asked for by a name. -/
def locate (w : Workspace) (asked : String) (p : Path) : Except OsError (List String) :=
  if pathLimit ≤ byteLength asked then .error .nameTooLong
  else w.follow (linkLimit + 1) w.current p

/-- The location that a path leads to, none if it leads nowhere. Any other obstacle is an error. -/
def find? (w : Workspace) (asked : String) (p : Path) : Except OsError (Option (List String)) :=
  match w.locate asked p with
  | .ok location => .ok (some location)
  | .error e => if e.leadsNowhere then .ok none else .error e

def findFile? (w : Workspace) (asked : String) (p : Path) :
    Except OsError (Option (List String)) :=
  (w.find? asked p).map fun found => found.filter fun location =>
    (w.tree.fileAt? location).isSome

def read (w : Workspace) (location : List String) : Except OsError (List UInt8) :=
  match w.refused location with
  | some e => .error e
  | none =>
    match w.tree.fileAt? location with
    | some bytes => .ok bytes
    | none => .error .noSuchFile

/-- The absolute name of a location. -/
def nameOf (w : Workspace) (location : List String) : String :=
  Path.text { w.root with names := w.root.names ++ location }

/-- A path as it is shown in full: behind the name of the current directory, unless it is
absolute. -/
def fullName (w : Workspace) (p : Path) : String :=
  if p.absolute then p.text else w.nameOf (w.current ++ p.names)

end Workspace

end FieldOrder
