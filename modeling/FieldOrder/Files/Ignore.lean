import FieldOrder.Pattern.Parser
import FieldOrder.Text.Blank
import FieldOrder.Text.Utf8
import FieldOrder.Files.Path

namespace FieldOrder

structure IgnorePattern where
  pattern : Pattern
  /-- Are the matches to be passed over, or taken back? -/
  ignores : Bool

inductive IgnoreError where
  /-- No pattern is left behind an exclamation mark, or nothing follows a backslash. -/
  | invalid (line : String)
  | expression (e : Pattern.Error)

def IgnoreError.message : IgnoreError → String
  | invalid line => "Invalid git pattern: " ++ Text.quoted line
  | expression e => e.message

namespace IgnorePattern

def escape (c : Char) : List Char :=
  if "()[]\x7b\x7d?*+-|^$\\.&~# \t\n\r\x0b\x0c".toList.contains c then ['\\', c] else [c]

/-- Number of characters up to the bracket that closes a class, one that stands first excepted. -/
def classLength? (cs : List Char) : Option Nat :=
  let mark := if cs.head? = some '!' || cs.head? = some '^' then 1 else 0
  let first := if cs[mark]? = some ']' then 1 else 0
  let rest := cs.drop (mark + first)
  let body := rest.takeWhile (· != ']')
  if body.length < rest.length then some (mark + first + body.length) else none

/-- A class between brackets; a mark at its front negates it, and backslashes are members. -/
def classText (cs : List Char) : List Char :=
  let (mark, members) := match cs with
    | '!' :: rest => (['^'], rest)
    | '^' :: rest => (['^'], rest)
    | cs => ([], cs)
  '[' :: mark ++ members.flatMap (fun c => if c = '\\' then ['\\', '\\'] else [c]) ++ [']']

/-- The expression for one name of a pattern; `none` if it ends in a backslash. -/
def nameText : Nat → List Char → Option (List Char)
  | 0, _ => some []
  | fuel + 1, cs =>
    match cs with
    | [] => some []
    | ['\\'] => none
    | '\\' :: c :: rest => (nameText fuel rest).map (escape c ++ ·)
    | '*' :: rest => (nameText fuel rest).map ("[^/]*".toList ++ ·)
    | '?' :: rest => (nameText fuel rest).map ("[^/]".toList ++ ·)
    | '[' :: rest =>
      match classLength? rest with
      | some n => (nameText fuel (rest.drop (n + 1))).map (classText (rest.take n) ++ ·)
      | none => (nameText fuel rest).map ('\\' :: '[' :: ·)
    | c :: rest => (nameText fuel rest).map (escape c ++ ·)

def anyNames : List Char := ['*', '*']

/-- The expressions for the names of a pattern. `first` and `slash` say whether a name is the first,
and whether a slash is due before it; `directory` whether only directories are meant. -/
def namesText (first slash : Bool) : List (List Char) → Option (List Char)
  | [] => some []
  | name :: rest =>
    if name = anyNames then
      match first, rest with
      | true, [] => some "[^/]+(?:/.*)?".toList
      | true, rest => (namesText false false rest).map ("(?:.+/)?".toList ++ ·)
      | false, [] => some "/.*".toList
      | false, rest => (namesText false true rest).map ("(?:/.+)?".toList ++ ·)
    else do
      let own ← if name = ['*'] then some "[^/]+".toList else nameText name.length name
      let below := if rest.isEmpty then "(?:/.*)?".toList else []
      return (if slash then ['/'] else []) ++ own ++ below ++ (← namesText false true rest)

/-- Of several names for any number of names in a row one stays. -/
def mergeAnyNames : List (List Char) → List (List Char)
  | [] => []
  | name :: rest =>
    match mergeAnyNames rest with
    | [] => [name]
    | next :: more =>
      if name = anyNames && next = anyNames then next :: more else name :: next :: more

/-- The names of a pattern, from the root on. A pattern of one name is meant anywhere, and one that
ends in a slash is for all that is in the directory. -/
def anchored (names : List (List Char)) : List (List Char) :=
  let names := match names with
    | [] :: rest => rest
    | [name] => if name = anyNames then [name] else [anyNames, name]
    | [name, []] => if name = anyNames then [name, []] else [anyNames, name, []]
    | names => names
  if 1 < names.length && names.getLast? = some [] then names.dropLast ++ [anyNames] else names

/-- The text of the expression for a pattern without its exclamation mark. -/
def expression? (cs : List Char) : Option (List Char) :=
  let names := mergeAnyNames (Path.splitSlashes cs)
  if names = [anyNames, []] then some "^.+/.*$".toList
  else
    match anchored names with
    | [] => none
    | names => (namesText true false names).map fun text => '^' :: text ++ ['$']

/-- The pattern of a line; blank lines and comments have none. -/
def ofLine (line : String) : Except IgnoreError (Option IgnorePattern) := do
  let kept := if line.endsWith "\\ " then line else Text.trimRight line
  let cs := kept.toList
  if cs.isEmpty || cs.head? = some '#' || cs = ['/'] then return none
  let negated := cs.head? = some '!'
  match expression? (if negated then cs.tail else cs) with
  | none => throw (.invalid line)
  | some text =>
    let pattern ← (Pattern.ofString (.ofList text)).mapError .expression
    return some ⟨pattern, !negated⟩

end IgnorePattern

/-- A way to read patterns: which paths, from the root on, are to be passed over for them.
Directories have a slash at their end. -/
abbrev IgnoreCompiler := List String → Except IgnoreError (String → Bool)

/-- Patterns in the order of their lines. -/
abbrev Ignore := List IgnorePattern

namespace Ignore

def ofLines (lines : List String) : Except IgnoreError Ignore :=
  return (← lines.mapM IgnorePattern.ofLine).filterMap id

/-- The last pattern that matches decides. -/
def matchesPath (patterns : Ignore) (path : String) : Bool :=
  ((patterns.reverse.find? fun p => p.pattern.foundIn path).map (·.ignores)).getD false

def compile : IgnoreCompiler := fun lines => return matchesPath (← ofLines lines)

/-- The lines of an ignore file that hold patterns; bytes that are no text are left out. -/
def linesOf (bytes : List UInt8) : List String :=
  let lines := (Text.lines (Text.decodeLossy bytes)).map fun l => Text.trim (.ofList l)
  lines.filter fun l => l != "" && l.toList.head? != some '#'

end Ignore

end FieldOrder
