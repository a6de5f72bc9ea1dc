import FieldOrder.Yaml.Token
import FieldOrder.Yaml.Scalar

namespace FieldOrder.Yaml

inductive Bracket where
  | sequence
  | mapping
  deriving Repr, DecidableEq

/-- A place where a key on a single line may have started. -/
structure KeyStart where
  /-- Number of the tokens before it. -/
  before : Nat
  /-- Nothing but a key may stand here. -/
  required : Bool
  place : Place

structure LexState where
  place : Place
  tokens : Array Token := #[]
  /-- Column of the innermost block. -/
  indent : Int := -1
  /-- Columns of the blocks around it. -/
  outer : List Int := []
  /-- Brackets that are open, the innermost first. -/
  brackets : List Bracket := []
  /-- The place where a key may have started, for each number of open brackets. -/
  starts : List (Nat × KeyStart) := []
  keyAllowed : Bool := true

abbrev Lexer := StateT LexState (Except Fault)

namespace Lexer

def fail {α : Type} : Lexer α := throw .malformed

def emit (t : Token) : Lexer Unit := modify fun s => { s with tokens := s.tokens.push t }

def moveTo (p : Place) : Lexer Unit := modify fun s => { s with place := p }

def allowKey (b : Bool) : Lexer Unit := modify fun s => { s with keyAllowed := b }

/-- Between brackets indentation has no meaning. -/
def inFlow : Lexer Bool := return !(← get).brackets.isEmpty

def next? (ahead : Nat := 0) : Lexer (Option Char) := return (← get).place.rest[ahead]?

/-- Blanks, comments and line ends before a token; in a block a key may start after a line end. -/
def skipBlank : Nat → Lexer Unit
  | 0 => return
  | fuel + 1 => do
    let flow ← inFlow
    let p := ((← get).place.span fun c => c == ' ' || (flow && c == '\t')).2
    let p := if p.next? = some '#' then p.endOfLine else p
    if p.next?.any isBreak then
      moveTo p.advance
      if !flow then allowKey true
      skipBlank fuel
    else moveTo p

/-- Forgets the starts of keys that would be too long or go beyond their line. -/
def dropStale : Lexer Unit := do
  let s ← get
  let stale (k : KeyStart) : Bool :=
    k.place.line != s.place.line || 1024 + k.place.index < s.place.index
  if s.starts.any fun (_, k) => stale k && k.required then fail
  set { s with starts := s.starts.filter fun (_, k) => !stale k }

def dropStart : Lexer Unit := do
  let s ← get
  let level := s.brackets.length
  if (s.starts.lookup level).any (·.required) then fail
  set { s with starts := s.starts.filter (·.1 != level) }

def saveStart : Lexer Unit := do
  let s ← get
  if s.keyAllowed then
    dropStart
    let required := s.brackets.isEmpty && s.indent == s.place.column
    let start : KeyStart := ⟨s.tokens.size, required, s.place⟩
    modify fun s => { s with starts := (s.brackets.length, start) :: s.starts }

/-- Ends the blocks that are indented more than `column`; the blocks around them are `outer`. -/
def unwindTo (column : Int) : List Int → Lexer Unit
  | [] => return
  | around :: outer => do
    if column < (← get).indent then
      modify fun s => { s with indent := around, outer, tokens := s.tokens.push .blockEnd }
      unwindTo column outer

def unwind (column : Int) : Lexer Unit := do
  if !(← inFlow) then unwindTo column (← get).outer

/-- Opens a block at a column if it is indented more than the innermost; was it opened? -/
def indentTo (column : Nat) : Lexer Bool := do
  let s ← get
  if s.indent < column then
    set { s with outer := s.indent :: s.outer, indent := (column : Int) }
    return true
  else return false

/-- An indicator that may open a block of its kind: outside brackets it must stand where a key
may. -/
def openBlock (opening : Token) : Lexer Unit := do
  if !(← inFlow) then
    let s ← get
    if !s.keyAllowed then fail
    if ← indentTo s.place.column then emit opening

def take (width : Nat) (t : Token) : Lexer Unit := do
  moveTo ((← get).place.skip width)
  emit t

def closeAll : Lexer Unit := do
  unwind (-1)
  dropStart
  allowKey false

def openBracket (b : Bracket) (t : Token) : Lexer Unit := do
  saveStart
  modify fun s => { s with brackets := b :: s.brackets, keyAllowed := true }
  take 1 t

def closeBracket (t : Token) : Lexer Unit := do
  dropStart
  modify fun s => { s with brackets := s.brackets.tail, keyAllowed := false }
  take 1 t

def flowEntry : Lexer Unit := do
  allowKey true
  dropStart
  take 1 .flowEntry

def blockEntry : Lexer Unit := do
  openBlock .blockSequenceStart
  allowKey true
  dropStart
  take 1 .blockEntry

def key : Lexer Unit := do
  openBlock .blockMappingStart
  allowKey !(← inFlow)
  dropStart
  take 1 .key

/-- A colon: what started where a key may is a key; without such a start it belongs to a key that
has an indicator of its own, or to none. -/
def value : Lexer Unit := do
  let s ← get
  let level := s.brackets.length
  match s.starts.lookup level with
  | some k =>
    let opens ← if level = 0 then indentTo k.place.column else pure false
    let added := if opens then #[Token.blockMappingStart, .key] else #[.key]
    modify fun s => { s with
      starts := s.starts.filter (·.1 != level), keyAllowed := false
      tokens := s.tokens.extract 0 k.before ++ added ++ s.tokens.extract k.before }
  | none =>
    openBlock .blockMappingStart
    allowKey (level == 0)
    dropStart
  take 1 .value

def isNameChar (c : Char) : Bool :=
  let n := c.toNat
  ((0x21 ≤ n && n ≤ 0x7E) || (0xA0 ≤ n && n ≤ 0xFFFD && n != 0xFEFF) || 0x10000 ≤ n) &&
    !isFlowIndicator c

def name (make : String → Token) : Lexer Unit := do
  saveStart
  allowKey false
  let (text, p) := (← get).place.advance.span isNameChar
  let ends := match p.next? with
    | none => true
    | some c => isSpace c || isBreak c || isFlowIndicator c
  if text.isEmpty || !ends then fail
  moveTo p
  emit (make (.ofList text))

def isWordChar (c : Char) : Bool := c.isAlphanum || c == '-' || c == '_'

def isUriChar (c : Char) : Bool := c.isAlphanum || "-;/?:@&=+$,_.!~*'()[]#".toList.contains c

def uriBytes : Nat → List Char → Except Fault (List UInt8 × List Char)
  | 0, cs => .ok ([], cs)
  | fuel + 1, cs =>
    match cs with
    | '%' :: rest => do
      let (code, rest) ← hexCode 2 rest
      let (more, rest) ← uriBytes fuel rest
      return (code.toUInt8 :: more, rest)
    | cs => .ok ([], cs)

def uriText : Nat → List Char → Except Fault (List Char × List Char)
  | 0, cs => .ok ([], cs)
  | fuel + 1, cs =>
    match cs with
    | '%' :: _ => do
      let (bytes, rest) ← uriBytes fuel cs
      match String.fromUTF8? ⟨bytes.toArray⟩ with
      | none => .error .malformed
      | some s => do
        let (more, rest) ← uriText fuel rest
        return (s.toList ++ more, rest)
    | c :: rest =>
      if isUriChar c then do
        let (more, rest) ← uriText fuel rest
        return (c :: more, rest)
      else .ok ([], cs)
    | [] => .ok ([], cs)

def uri (p : Place) : Lexer (String × Place) := do
  let (text, rest) ← uriText (p.rest.length + 1) p.rest
  if text.isEmpty then fail
  return (.ofList text, p.upTo rest)

/-- A handle of a tag: one exclamation mark, or two with a word between them. -/
def handle (p : Place) : Lexer (String × Place) := do
  let (word, after) := p.advance.span isWordChar
  if p.next? ≠ some '!' then fail
  else if after.next? = some '!' then return (.ofList ('!' :: word ++ ['!']), after.advance)
  else if p.rest[1]? = some ' ' then return ("!", p.advance)
  else fail

def blankOrBreak (c? : Option Char) : Bool :=
  match c? with
  | none => true
  | some c => c == ' ' || isBreak c

def tag : Lexer Unit := do
  saveStart
  allowKey false
  let p := (← get).place
  let word := p.advance.rest.takeWhile fun c => !blankOrBreak (some c)
  let (t, after) : Token × Place ← match p.rest[1]? with
    | some '<' => do
      let (suffix, after) ← uri (p.skip 2)
      if after.next? ≠ some '>' then fail
      pure (.tag none suffix, after.advance)
    | c? =>
      if isGap c? then pure (.tag none "!", p.advance)
      else do
        let (h, after) ← if word.contains '!' then handle p else pure ("!", p.advance)
        let (suffix, after) ← uri after
        pure (.tag (some h) suffix, after)
  if !blankOrBreak after.next? then fail
  moveTo after
  emit t

def number (p : Place) : Lexer (Nat × Place) := do
  let (digits, p) := p.span Char.isDigit
  if digits.isEmpty then fail
  return (digits.foldl (fun n c => 10 * n + (c.toNat - 48)) 0, p)

def blanks (p : Place) : Place := (p.span (· == ' ')).2

def directive : Lexer Unit := do
  closeAll
  let (word, p) := (← get).place.advance.span fun c => isWordChar c || c == ':' || c == '.'
  if word.isEmpty || !blankOrBreak p.next? then fail
  let (t, p) : Token × Place ←
    if word = "YAML".toList then do
      let (major, p) ← number (blanks p)
      if p.next? ≠ some '.' then fail
      let (_, p) ← number p.advance
      if !blankOrBreak p.next? then fail
      pure (.versionDirective major, p)
    else if word = "TAG".toList then do
      let (h, p) ← handle (blanks p)
      if p.next? ≠ some ' ' then fail
      let (start, p) ← uri (blanks p)
      if !blankOrBreak p.next? then fail
      pure (.tagDirective h start, p)
    else pure (.otherDirective, p.endOfLine)
  let p := blanks p
  let p := if p.next? = some '#' then p.endOfLine else p
  if !endsLine p.next? then fail
  moveTo p
  emit t

def plain : Lexer Unit := do
  saveStart
  let s ← get
  let fuel := s.place.rest.length + 1
  let (r, broke) := readPlain (!s.brackets.isEmpty) (s.indent + 1) fuel s.place [] false
  if r.place.index = s.place.index then fail
  allowKey broke
  moveTo r.place
  emit (.scalar (.ofList r.text) true)

def quoted : Lexer Unit := do
  saveStart
  allowKey false
  let r ← quotedScalar (← get).place
  moveTo r.place
  emit (.scalar (.ofList r.text) false)

def block : Lexer Unit := do
  allowKey true
  dropStart
  let s ← get
  let r ← blockScalar s.indent s.place
  moveTo r.place
  emit (.scalar (.ofList r.text) false)

/-- Is a colon the one after a key? Between braces it need not be set off, unless it follows
another one. -/
def isValue : Lexer Bool := do
  let s ← get
  let gap := isGap s.place.rest[1]?
  match s.brackets with
  | .mapping :: _ => return gap || s.tokens.back? != some .value
  | _ => return gap

def startsPlain (inFlow : Bool) (c : Char) (next? : Option Char) : Bool :=
  if isGap (some c) || isBreak c || ",[]\x7b\x7d#&*!|>'\"%@`".toList.contains c then false
  else if c = '-' then !isGap next?
  else if c = ':' then if inFlow then !next?.any isSpace else !isGap next?
  else if c = '?' then !inFlow && !isGap next?
  else true

/-- Reads the token that starts with `c`. -/
def token (c : Char) : Lexer Unit := do
  let p := (← get).place
  let gap := isGap p.rest[1]?
  let flow ← inFlow
  if c = '%' && p.column = 0 then directive
  else if p.column = 0 && isMarker '-' p.rest then do closeAll; take 3 .documentStart
  else if p.column = 0 && isMarker '.' p.rest then do closeAll; take 3 .documentEnd
  else match c with
    | '[' => openBracket .sequence .sequenceStart
    | '\x7b' => openBracket .mapping .mappingStart
    | ']' => closeBracket .sequenceEnd
    | '\x7d' => closeBracket .mappingEnd
    | ',' => flowEntry
    | '*' => name .alias
    | '&' => name .anchor
    | '!' => tag
    | '\'' => quoted
    | '"' => quoted
    | c =>
      if c = '-' && gap then blockEntry
      else if c = '?' && (flow || gap) then key
      else if c = ':' && (← isValue) then value
      else if (c = '|' || c = '>') && !flow then block
      else if startsPlain flow c p.rest[1]? then plain
      else fail

def all : Nat → Lexer Unit
  | 0 => fail
  | fuel + 1 => do
    skipBlank ((← get).place.rest.length + 1)
    dropStale
    unwind (← get).place.column
    match ← next? with
    | none => closeAll
    | some c => do
      token c
      all fuel

end Lexer

/-- The tokens of a text; a byte order mark before it is none of it. -/
def Token.ofText (text : List Char) : Except Fault (List Token) := do
  if !text.all isPrintable then throw .malformed
  let text := if text.head?.any (·.toNat == 0xFEFF) then text.tail else text
  let (_, s) ← (Lexer.all (text.length + 2)).run { place := ⟨text, 0, 0, 0⟩ }
  return s.tokens.toList

end FieldOrder.Yaml
