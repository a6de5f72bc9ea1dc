import FieldOrder.Pattern.Basic
import FieldOrder.Pattern.Error
import FieldOrder.Pattern.Matcher

namespace FieldOrder.Pattern

/-- The next token (empty at the end), what follows it, and the position after the token. -/
structure Reader where
  next : List Char
  rest : List Char
  index : Nat

structure ReadState where
  source : String
  reader : Reader
  modes : Modes := .plain
  /-- Widths of the groups opened so far, latest first; an open group has none. -/
  groups : List (Option Width) := []
  names : List (String × Nat) := []
  /-- Number of groups, the whole match included, when the outermost look-behind began. -/
  behindFrom : Option Nat := none
  /-- Groups that conditions ask about by number, with their positions. -/
  conditions : List (Nat × Nat) := []

abbrev Read := StateT ReadState (Except Error)

namespace Read

def position : Read Nat := do
  let s ← get
  return s.reader.index - s.reader.next.length

def failAt {α : Type} (fault : Fault) (position : Nat) : Read α := do
  throw (.invalid fault (← get).source (some position))

/-- Fails `back` characters before the current position. -/
def fail {α : Type} (fault : Fault) (back : Nat := 0) : Read α := do
  failAt fault ((← position) - back)

def aheadOf (source : String) (index : Nat) : List Char → Except Error Reader
  | [] => .ok ⟨[], [], index⟩
  | ['\\'] => .error (.invalid .trailingBackslash source (some index))
  | '\\' :: c :: rest => .ok ⟨['\\', c], rest, index + 2⟩
  | c :: rest => .ok ⟨[c], rest, index + 1⟩

def advance : Read Unit := do
  let s ← get
  match aheadOf s.source s.reader.index s.reader.rest with
  | .ok reader => set { s with reader }
  | .error e => throw e

def peek : Read (List Char) := return (← get).reader.next

def take : Read (List Char) := do
  let token ← peek
  advance
  return token

def takeIf (c : Char) : Read Bool := do
  if (← peek) = [c] then
    advance
    return true
  else return false

def takeUpTo (test : Char → Bool) : Nat → Read (List Char)
  | 0 => return []
  | n + 1 => do
    match ← peek with
    | [c] =>
      if test c then
        advance
        return c :: (← takeUpTo test n)
      else return []
    | _ => return []

def takeName (terminator : Char) (what : String) : Nat → List Char → Read (List Char)
  | 0, name => return name
  | fuel + 1, name => do
    let token ← take
    if token.isEmpty then
      if name.isEmpty then fail (.missing what)
      else fail (.unterminatedName terminator.toString) name.length
    else if token = [terminator] then
      if name.isEmpty then fail (.missing what) 1 else return name
    else takeName terminator what fuel (name ++ token)

/-- More steps than any loop over the text takes. -/
def bound : Read Nat := return (← get).source.length + 2

def groupCount : Read Nat := return (← get).groups.length + 1

/-- Width of a closed group; of an open one or none, nothing. -/
def groupWidth? (group : Nat) : Read (Option Width) := do
  let groups := (← get).groups
  if group = 0 || groups.length < group then return none
  return (groups[groups.length - group]?).join

def openGroup (name : Option (List Char)) : Read Nat := do
  let group ← groupCount
  modify fun s => { s with groups := none :: s.groups }
  if let some chars := name then
    let name := String.ofList chars
    if let some earlier := (← get).names.lookup name then
      fail (.redefinedGroup name group earlier) (chars.length + 1)
    modify fun s => { s with names := (name, group) :: s.names }
  return group

def widthOf (e : Expr) : Read Width := do
  let groups := (← get).groups
  return e.width fun n => ((groups[groups.length - n]?).join).getD .zero

def closeGroup (group : Nat) (body : Expr) : Read Unit := do
  let width ← widthOf body
  modify fun s => { s with groups := s.groups.set (s.groups.length - group) (some width) }

/-- A look-behind may refer only to groups that were closed before it. -/
def checkLookBehind (group : Nat) : Read Unit := do
  if let some limit := (← get).behindFrom then
    if (← groupWidth? group).isNone then fail .openGroup
    if limit ≤ group then fail .groupInLookBehind

end Read

open Read

def isOctal (c : Char) : Bool := '0' ≤ c && c ≤ '7'

def isHex (c : Char) : Bool := c.isDigit || ('a' ≤ c && c ≤ 'f') || ('A' ≤ c && c ≤ 'F')

def isLetter (c : Char) : Bool := c.isAlpha

def digitValue (c : Char) : Nat :=
  if c.isDigit then c.toNat - 48 else if 'a' ≤ c then c.toNat - 87 else c.toNat - 55

def number (radix : Nat) (digits : List Char) : Nat :=
  digits.foldl (fun n c => radix * n + digitValue c) 0

def isGroupName : List Char → Bool
  | [] => false
  | c :: rest =>
    Text.isWord c && !Text.isDecimal c && rest.all Text.isWord

def plainEscape? : Char → Option Nat
  | 'a' => some 7
  | 'b' => some 8
  | 'f' => some 12
  | 'n' => some 10
  | 'r' => some 13
  | 't' => some 9
  | 'v' => some 11
  | '\\' => some 92
  | _ => none

def categoryEscape? : Char → Option ClassItem
  | 'd' => some (.category false .digit)
  | 'D' => some (.category true .digit)
  | 's' => some (.category false .space)
  | 'S' => some (.category true .space)
  | 'w' => some (.category false .word)
  | 'W' => some (.category true .word)
  | _ => none

def hexEscape (c : Char) (digits : Nat) : Read Nat := do
  let found ← takeUpTo isHex digits
  let shown := String.ofList ('\\' :: c :: found)
  if found.length ≠ digits then fail (.incompleteEscape shown) shown.length
  let n := number 16 found
  if n > 0x10FFFF then fail (.badEscape shown) shown.length
  return n

/-- Escapes of code points: `\x`, `\u`, `\U`, `\N`. -/
def codeEscape? (c : Char) : Read (Option Nat) := do
  match c with
  | 'x' => return some (← hexEscape c 2)
  | 'u' => return some (← hexEscape c 4)
  | 'U' => return some (← hexEscape c 8)
  | 'N' =>
    if !(← takeIf '\x7b') then fail (.missing "\x7b")
    let name ← takeName '\x7d' "character name" (← bound) []
    fail (.undefinedCharacter (.ofList name)) (name.length + 4)
  | _ => return none

def octalEscape (digits : List Char) : Read Nat := do
  let n := number 8 digits
  let shown := String.ofList ('\\' :: digits)
  if n > 0o377 then fail (.octalTooLarge shown) shown.length
  return n

/-- An escape inside a character class. -/
def classEscape (c : Char) : Read ClassItem := do
  if let some n := plainEscape? c then return .code n
  if let some item := categoryEscape? c then return item
  if let some n ← codeEscape? c then return .code n
  if isOctal c then return .code (← octalEscape (c :: (← takeUpTo isOctal 2)))
  if c.isDigit || isLetter c then fail (.badEscape (.ofList ['\\', c])) 2
  return .code c.toNat

/-- A digit after a backslash: three octal digits are a character, else it refers to a group. -/
def digitEscape (c : Char) : Read Expr := do
  let more ← takeUpTo Char.isDigit 1
  let digits := c :: more
  if digits.length = 2 && digits.all isOctal then
    match ← takeUpTo isOctal 1 with
    | [d] => return .code (← octalEscape (digits ++ [d]))
    | _ => pure ()
  let group := number 10 digits
  if group < (← groupCount) then
    if (← groupWidth? group).isNone then fail .openGroup (digits.length + 1)
    checkLookBehind group
    return .backref group
  fail (.invalidGroup group) digits.length

/-- An escape outside character classes. -/
def escape (c : Char) : Read Expr := do
  match c with
  | 'A' => return .anchor .textStart
  | 'Z' => return .anchor .textEnd
  | 'b' => return .anchor .wordBoundary
  | 'B' => return .anchor .noWordBoundary
  | _ => pure ()
  if let some item := categoryEscape? c then return .oneOf false [item]
  if let some n := plainEscape? c then return .code n
  if let some n ← codeEscape? c then return .code n
  if c = '0' then return .code (number 8 (← takeUpTo isOctal 2))
  if c.isDigit then return ← digitEscape c
  if isLetter c then fail (.badEscape (.ofList ['\\', c])) 2
  return .code c.toNat

def classToken : List Char → Read ClassItem
  | ['\\', c] => classEscape c
  | c :: _ => return .code c.toNat
  | [] => fail .unterminatedSet

def classItems (start : Nat) : Nat → List ClassItem → Read (List ClassItem)
  | 0, items => return items
  | fuel + 1, items => do
    let token ← take
    if token.isEmpty then failAt .unterminatedSet start
    if token = [']'] && !items.isEmpty then return items
    let item ← classToken token
    if !(← takeIf '-') then return ← classItems start fuel (items ++ [item])
    let token' ← take
    if token'.isEmpty then failAt .unterminatedSet start
    if token' = [']'] then return items ++ [item, .code '-'.toNat]
    let item' ← classToken token'
    let back := token.length + 1 + token'.length
    match item, item' with
    | .code lo, .code hi =>
      if hi < lo then fail (.badRange (.ofList token) (.ofList token')) back
      classItems start fuel (items ++ [.range lo hi])
    | _, _ => fail (.badRange (.ofList token) (.ofList token')) back

/-- A quantifier between braces, `none` when the brace is a plain character. -/
def braceQuantifier? (start : Nat) : Read (Option (Nat × Option Nat)) := do
  if (← peek) = ['\x7d'] then return none
  let before := (← get).reader
  let lo ← takeUpTo Char.isDigit (← bound)
  let hi ← if ← takeIf ',' then takeUpTo Char.isDigit (← bound) else pure lo
  if !(← takeIf '\x7d') then
    modify fun s => { s with reader := before }
    return none
  let least := number 10 lo
  let most := if hi.isEmpty then none else some (number 10 hi)
  let limit := 4294967295
  if limit ≤ least then throw .repetitionTooLarge
  if let some n := most then
    if limit ≤ n then throw .repetitionTooLarge
    if n < least then failAt .repeatBoundsReversed start
  return some (least, most)

def modeOf? : Char → Option Modes
  | 'i' => some { ignoreCase := true }
  | 'm' => some { multiLine := true }
  | 's' => some { dotAll := true }
  | 'x' => some { verbose := true }
  | 'a' => some { ascii := true }
  | 't' => some { template := true }
  | 'u' => some { unicode := true }
  | _ => none

/-- The fault of a character that is no mode letter, `missing` unless it is a letter. -/
def notAMode (token : List Char) (missing : String) : Fault :=
  match token with
  | [c] => if Text.isWord c && !c.isDigit && c != '_' then .unknownMode else .missing missing
  | _ => .missing missing

def modesOn : Nat → List Char → Modes → Read (Modes × List Char)
  | 0, token, added => return (added, token)
  | fuel + 1, token, added => do
    if token = ['L'] then fail .localeMode
    match token with
    | [c] =>
      match modeOf? c with
      | some mode =>
        let added := added.union mode
        if added.ascii && added.unicode then fail .incompatibleModes
        let token ← take
        if token.isEmpty then fail (.missing "-, : or )")
        if token = [')'] || token = ['-'] || token = [':'] then return (added, token)
        if token ≠ ['L'] && (token.length ≠ 1 || (token.head?.bind modeOf?).isNone) then
          fail (notAMode token "-, : or )") token.length
        modesOn fuel token added
      | none => return (added, token)
    | _ => return (added, token)

def modesOff : Nat → List Char → Modes → Read Modes
  | 0, _, removed => return removed
  | fuel + 1, token, removed => do
    if token = ['L'] then fail .typeModeOff
    match token with
    | [c] =>
      match modeOf? c with
      | some mode =>
        if mode.ascii || mode.unicode then fail .typeModeOff
        let removed := removed.union mode
        let token ← take
        if token.isEmpty then fail (.missing ":")
        if token = [':'] then return removed
        if token ≠ ['L'] && (token.length ≠ 1 || (token.head?.bind modeOf?).isNone) then
          fail (notAMode token ":") token.length
        modesOff fuel token removed
      | none => return removed
    | _ => return removed

/-- Modes of a group that opens with the given token; `none` when they hold for the whole text. -/
def groupModes (token : List Char) : Read (Option (Modes × Modes)) := do
  let fuel ← bound
  let (added, token) ←
    if token = ['-'] then pure (Modes.plain, token) else modesOn fuel token .plain
  if token = [')'] then
    modify fun s => { s with modes := s.modes.union added }
    return none
  if added.template then fail .globalModeOn 1
  if token ≠ ['-'] then return some (added, .plain)
  let token ← take
  if token.isEmpty then fail (.missing "flag")
  if token ≠ ['L'] && (token.length ≠ 1 || (token.head?.bind modeOf?).isNone) then
    fail (notAMode token "flag") token.length
  let removed ← modesOff fuel token .plain
  if removed.template then fail .globalModeOff 1
  if added.inter removed ≠ .plain then fail .modeOnAndOff 1
  return some (added, removed)

/-- A whole number as a condition writes it: blanks around, a sign, digits with single underscores
between. -/
def conditionNumber? (name : List Char) : Option Nat :=
  let trimmed := (Text.trim (.ofList name)).toList
  let (negative, digits) := match trimmed with
    | '+' :: rest => (false, rest)
    | '-' :: rest => (true, rest)
    | rest => (false, rest)
  if digitsOnly true digits then
    let n := number 10 (digits.filter (· != '_'))
    if negative && n != 0 then none else some n
  else none
where
  digitsOnly (first : Bool) : List Char → Bool
    | [] => !first
    | '_' :: rest => !first && digitsOnly true rest
    | c :: rest => c.isDigit && digitsOnly false rest

/-- The group that a condition asks about. -/
def conditionGroup : Read Nat := do
  let name ← takeName ')' "group name" (← bound) []
  let back := name.length + 1
  if isGroupName name then
    match (← get).names.lookup (.ofList name) with
    | some group => return group
    | none => fail (.unknownGroupName (.ofList name)) back
  else
    match conditionNumber? name with
    | none => fail (.badGroupName (.ofList name)) back
    | some group =>
      if group = 0 then fail .zeroGroup back
      if 1073741823 ≤ group then fail (.invalidGroup group) back
      let at_ := (← position) - back
      modify fun s =>
        if (s.conditions.lookup group).isSome then s
        else { s with conditions := s.conditions ++ [(group, at_)] }
      return group

def skipComment (start : Nat) : Nat → Read Unit
  | 0 => return
  | fuel + 1 => do
    let token ← peek
    if token.isEmpty then failAt .unterminatedComment start
    advance
    if token ≠ [')'] then skipComment start fuel

def skipLine : Nat → Read Unit
  | 0 => return
  | fuel + 1 => do
    let token ← take
    if !token.isEmpty && token ≠ ['\n'] then skipLine fuel

def sequence (items : List Expr) : Expr :=
  match items with
  | [] => .empty
  | [e] => e
  | e :: rest => .seq e (sequence rest)

/-- Applies a quantifier at `start` to the last item; the items are latest first. -/
def quantify (start : Nat) (least : Nat) (most : Option Nat) (items : List Expr) :
    Read (List Expr) := do
  match items with
  | [] => failAt .nothingToRepeat start
  | .anchor _ :: _ => failAt .nothingToRepeat start
  | .rep .. :: _ => failAt .multipleRepeat start
  | item :: before =>
    if ← takeIf '?' then return .rep .lazy least most item :: before
    if ← takeIf '+' then return .rep .possessive least most item :: before
    return .rep .greedy least most item :: before

def closing (start : Nat) : Read Unit := do
  if !(← takeIf ')') then failAt .unterminatedGroup start

inductive Opening where
  | skip
  | item (e : Expr)
  | body (wrap : Expr → Read Expr) (verbose : Bool)

def capturing (name : Option (List Char)) (verbose : Bool) : Read Opening := do
  let group ← openGroup name
  return .body (fun e => do closeGroup group e; return .capture group e) verbose

/-- What stands between a parenthesis with a question mark and `P`. -/
def namedOpening (verbose : Bool) : Read Opening := do
  if ← takeIf '<' then
    let name ← takeName '>' "group name" (← bound) []
    if !isGroupName name then fail (.badGroupName (.ofList name)) (name.length + 1)
    return ← capturing (some name) verbose
  if ← takeIf '=' then
    let name ← takeName ')' "group name" (← bound) []
    let back := name.length + 1
    if !isGroupName name then fail (.badGroupName (.ofList name)) back
    match (← get).names.lookup (.ofList name) with
    | none => fail (.unknownGroupName (.ofList name)) back
    | some group =>
      if (← groupWidth? group).isNone then fail .openGroup back
      checkLookBehind group
      return .item (.backref group)
  let token ← take
  if token.isEmpty then fail .endOfPattern
  fail (.unknownExtension (.ofList ('P' :: token))) (token.length + 2)

mutual

/-- Alternatives up to a closing parenthesis or the end. At the top, modes set in the first
alternative hold for the following ones. -/
def alternatives : Nat → Bool → Bool → Bool → Read Expr
  | 0, _, _, _ => return .empty
  | fuel + 1, verbose, top, first => do
    let e ← items fuel verbose (top && first) []
    if ← takeIf '|' then
      let modes := (← get).modes
      return .alt e (← alternatives fuel (if top then modes.verbose else verbose) top false)
    return e

/-- Items up to a bar, a closing parenthesis or the end; `done` holds them latest first. -/
def items : Nat → Bool → Bool → List Expr → Read Expr
  | 0, _, _, done => return sequence done.reverse
  | fuel + 1, verbose, first, done => do
    let token ← peek
    let start ← position
    match token with
    | [] => return sequence done.reverse
    | ['|'] => return sequence done.reverse
    | [')'] => return sequence done.reverse
    | '\\' :: c :: _ =>
      advance
      items fuel verbose first ((← escape c) :: done)
    | c :: _ =>
      advance
      if verbose && (c = ' ' || (9 ≤ c.toNat && c.toNat ≤ 13)) then items fuel verbose first done
      else if verbose && c = '#' then
        skipLine (← bound)
        items fuel verbose first done
      else match c with
        | '[' =>
          let negated ← takeIf '^'
          let found ← classItems start (← bound) []
          items fuel verbose first (.oneOf negated found :: done)
        | '*' => items fuel verbose first (← quantify start 0 none done)
        | '+' => items fuel verbose first (← quantify start 1 none done)
        | '?' => items fuel verbose first (← quantify start 0 (some 1) done)
        | '\x7b' =>
          match ← braceQuantifier? (start + 1) with
          | some (least, most) => items fuel verbose first (← quantify start least most done)
          | none => items fuel verbose first (.code c.toNat :: done)
        | '.' => items fuel verbose first (.any :: done)
        | '^' => items fuel verbose first (.anchor .lineStart :: done)
        | '$' => items fuel verbose first (.anchor .lineEnd :: done)
        | '(' =>
          match ← opening fuel start verbose (first && done.isEmpty) with
          | .skip =>
            let modes := (← get).modes
            items fuel (verbose || (first && modes.verbose)) first done
          | .item e => items fuel verbose first (e :: done)
          | .body wrap inner =>
            let e ← alternatives fuel inner false true
            closing start
            items fuel verbose first ((← wrap e) :: done)
        | _ => items fuel verbose first (.code c.toNat :: done)

def opening : Nat → Nat → Bool → Bool → Read Opening
  | 0, _, _, _ => return .skip
  | fuel + 1, start, verbose, atStart => do
    if !(← takeIf '?') then return ← capturing none verbose
    let token ← take
    match token with
    | [] => fail .endOfPattern
    | ['P'] => namedOpening verbose
    | [':'] => return .body (fun e => return .scope .plain .plain e) verbose
    | ['#'] =>
      skipComment start (← bound)
      return .skip
    | ['='] => return .item (.ahead false (← lookAround fuel start verbose))
    | ['!'] => return .item (.ahead true (← lookAround fuel start verbose))
    | ['<'] =>
      let kind ← take
      if kind.isEmpty then fail .endOfPattern
      if kind ≠ ['='] && kind ≠ ['!'] then
        fail (.unknownExtension (.ofList ('<' :: kind))) (kind.length + 2)
      let outer := (← get).behindFrom
      if outer.isNone then
        let count ← groupCount
        modify fun s => { s with behindFrom := some count }
      let body ← alternatives fuel verbose false true
      modify fun s => { s with behindFrom := outer }
      closing start
      return .item (.behind (kind = ['!']) (← widthOf body) body)
    | ['('] =>
      let group ← conditionGroup
      checkLookBehind group
      let yes ← items fuel verbose false []
      let no ← if ← takeIf '|' then
          let e ← items fuel verbose false []
          if (← peek) = ['|'] then fail .tooManyBranches
          pure e
        else pure .empty
      closing start
      return .item (.ifGroup group yes no)
    | ['>'] => return .body (fun e => return .atomic e) verbose
    | _ =>
      let isMode := token = ['-'] || token = ['L'] ||
        (token.length = 1 && (token.head?.bind modeOf?).isSome)
      if !isMode then fail (.unknownExtension (.ofList token)) (token.length + 1)
      match ← groupModes token with
      | none =>
        if !atStart then failAt .lateModes start
        return .skip
      | some (added, removed) =>
        return .body (fun e => return .scope added removed e)
          ((verbose || added.verbose) && !removed.verbose)

def lookAround : Nat → Nat → Bool → Read Expr
  | 0, _, _ => return .empty
  | fuel + 1, start, verbose => do
    let body ← alternatives fuel verbose false true
    closing start
    return body

end

/-- The whole text: alternatives, with no parenthesis left over. -/
def whole : Read Expr := do
  let e ← alternatives (4 * (← bound)) false true true
  if (← get).modes.ascii && (← get).modes.unicode then throw .classesIncompatible
  if !(← peek).isEmpty then fail .unbalancedParenthesis
  let count ← groupCount
  for (group, at_) in (← get).conditions do
    if count ≤ group then failAt (.invalidGroup group) at_
  if e.hasLooseLookBehind then throw (.invalid .looseLookBehind (← get).source none)
  return e

end FieldOrder.Pattern

namespace FieldOrder

structure Pattern where
  source : String
  modes : Pattern.Modes
  expr : Pattern.Expr

namespace Pattern

def ofString (source : String) : Except Error Pattern := do
  let reader ← Read.aheadOf source 0 source.toList
  let (expr, state) ← whole.run { source, reader }
  return { source, modes := state.modes, expr }

def foundIn (p : Pattern) (text : String) : Bool :=
  let chars := text.toList.toArray
  (List.range (chars.size + 1)).any fun pos => p.expr.matchesAt p.modes chars pos

end Pattern

end FieldOrder
