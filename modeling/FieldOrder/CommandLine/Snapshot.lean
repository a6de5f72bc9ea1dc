import FieldOrder.Files.Tree
import FieldOrder.Lint.Fix
import FieldOrder.Schema.Value
import FieldOrder.Text.Utf8

/-!
Snapshots: a workspace in one value, with the syntax trees that a parser made of its texts. Files
are a mapping from paths to texts, to bytes in hexadecimal under the key `hex`, or to null for
empty directories. A tree is a list of its nodes in preorder, each with its depth, kind, field,
first and last byte, and flags: 1 for a named node, 2 for one with a syntax error.
-/

namespace FieldOrder

structure Snapshot where
  workspace : Workspace
  trees : List (String × Node)

namespace Snapshot

def text? : Value → Option String
  | .str s => some s
  | _ => none

def nat? : Value → Option Nat
  | .int n => some n.toNat
  | _ => none

def itemsAt (v : Value) (key : String) : List Value :=
  match v.get? key with
  | some (.list items) => items
  | _ => []

def textAt (v : Value) (key : String) : String := ((v.get? key).bind text?).getD ""

/-- One node of a tree, with its depth. -/
def node? : Value → Option (Nat × NodeInfo)
  | .list [depth, kind, field, start, stop, flags] => do
    let flags ← nat? flags
    let info : NodeInfo := {
      kind := ← text? kind, field := text? field, start := ← nat? start, stop := ← nat? stop
      named := flags % 2 = 1, hasError := flags / 2 % 2 = 1 }
    return (← nat? depth, info)
  | _ => none

def tree? : Value → Option Node
  | .list nodes => do Node.ofPreorder? (← nodes.mapM node?)
  | _ => none

/-- The texts of a list of parses with their trees, those without a tree left out. -/
def treesOf (parses : List Value) : List (String × Node) :=
  parses.filterMap fun p => do return (textAt p "text", ← (p.get? "tree").bind tree?)

def hexDigit (c : Char) : Nat := if c.isDigit then c.toNat - 48 else c.toLower.toNat - 87

def hexBytes : List Char → List UInt8
  | a :: b :: rest => (hexDigit a * 16 + hexDigit b).toUInt8 :: hexBytes rest
  | _ => []

def fileOf : Value → FileTree
  | .str s => .file (Text.encode s.toList)
  | .map entries => .file (hexBytes (textAt (.map entries) "hex").toList)
  | _ => .none

/-- The tree of files in a mapping, and the directory `current` in it. -/
def filesOf (files : List (Value × Value)) (current : List String) : FileTree :=
  let put (t : FileTree) (entry : Value × Value) : FileTree :=
    t.insert (fileOf entry.2) (Path.ofText ((text? entry.1).getD "")).names
  (files.foldl put .none).insert .none current

def ofValue (v : Value) : Snapshot :=
  let current := (Path.ofText (textAt v "cwd")).names
  let files := match v.get? "files" with
    | some (.map entries) => entries
    | _ => []
  { workspace := { rootName := textAt v "root", tree := filesOf files current, current }
    trees := treesOf (itemsAt v "parses") }

/-- Looks a text up among those that were parsed. -/
def parse (s : Snapshot) : Parse := fun text => s.trees.lookup text

end Snapshot

end FieldOrder
