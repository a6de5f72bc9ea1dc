import FieldOrder.Yaml.Place

namespace FieldOrder.Yaml

structure Read where
  text : List Char
  place : Place

/-- What a run of line breaks reads as: one alone is a blank, and of several the first is left
out. -/
def folded (first : Char) (more : List Char) : List Char :=
  if breakText first ≠ '\n' then breakText first :: more
  else if more.isEmpty then [' '] else more

/-- Does a plain scalar pause before `c`? Between brackets, brackets and commas end it. -/
def pausesPlain (inFlow : Bool) (c : Char) (next? : Option Char) : Bool :=
  isGap (some c) || (c == ':' && isGap next?) || (inFlow && isFlowIndicator c)

def plainRun (inFlow : Bool) : List Char → List Char
  | [] => []
  | c :: rest => if pausesPlain inFlow c rest.head? then [] else c :: plainRun inFlow rest

/-- Line breaks with blanks between them, up to a document marker; `none` at such a marker. -/
def plainBreaks : Nat → Place → List Char → Option (List Char) × Place
  | 0, p, breaks => (some breaks, p)
  | fuel + 1, p, breaks =>
    match p.rest with
    | ' ' :: _ => plainBreaks fuel p.advance breaks
    | c :: rest =>
      if !isBreak c then (some breaks, p)
      else if startsMarker rest then (none, p.advance)
      else plainBreaks fuel p.advance (breaks ++ [breakText c])
    | [] => (some breaks, p)

/-- The blanks after a part of a plain scalar: what they read as if another part follows, whether
a line ended among them, and the place after them. -/
def plainSpaces (p : Place) : List Char × Bool × Place :=
  let (blanks, p) := p.span (· == ' ')
  match p.rest with
  | c :: rest =>
    if !isBreak c then (blanks, false, p)
    else if startsMarker rest then ([], true, p.advance)
    else match plainBreaks p.rest.length p.advance [] with
      | (none, p) => ([], true, p)
      | (some breaks, p) => (folded c breaks, true, p)
  | [] => (blanks, false, p)

/-- A plain scalar as far as it is indented enough; whether a line ended after it. -/
def readPlain (inFlow : Bool) (indent : Int) : Nat → Place → List Char → Bool → Read × Bool
  | 0, p, spaces, broke => (⟨spaces, p⟩, broke)
  | fuel + 1, p, spaces, broke =>
    let run := if p.next? = some '#' then [] else plainRun inFlow p.rest
    if run.isEmpty then (⟨[], p⟩, broke)
    else
      let (more, broke, after) := plainSpaces (p.skip run.length)
      if more.isEmpty || after.next? = some '#' || (!inFlow && after.column < indent) then
        (⟨spaces ++ run, after⟩, broke)
      else
        let (tail, broke) := readPlain inFlow indent fuel after more broke
        (⟨spaces ++ run ++ tail.text, tail.place⟩, broke)

def escaped? (c : Char) : Option Char :=
  [('0', 0), ('a', 7), ('b', 8), ('t', 9), ('\t', 9), ('n', 10), ('v', 11), ('f', 12), ('r', 13),
    ('e', 27), (' ', 32), ('"', 34), ('/', 47), ('\\', 92), ('N', 0x85), ('_', 0xA0),
    ('L', 0x2028), ('P', 0x2029)].lookup c |>.map Char.ofNat

def escapeWidth? (c : Char) : Option Nat := [('x', 2), ('u', 4), ('U', 8)].lookup c

def hexValue? (c : Char) : Option Nat :=
  if c.isDigit then some (c.toNat - 48)
  else if 'a' ≤ c && c ≤ 'f' then some (c.toNat - 87)
  else if 'A' ≤ c && c ≤ 'F' then some (c.toNat - 55)
  else none

def hexCode (width : Nat) (cs : List Char) : Except Fault (Nat × List Char) :=
  let digits := (cs.take width).filterMap hexValue?
  if digits.length = width then .ok (digits.foldl (fun n d => 16 * n + d) 0, cs.drop width)
  else .error .malformed

/-- A character given by its number, or as two halves of a pair. -/
def numericEscape (width : Nat) (cs : List Char) : Except Fault (Char × List Char) := do
  let (code, rest) ← hexCode width cs
  if h : code.isValidChar then return (Char.ofNatAux code h, rest)
  if 0x10FFFF < code then throw .noCharacter
  match rest with
  | '\\' :: 'u' :: more =>
    let (low, rest) ← hexCode 4 more
    if code < 0xDC00 ∧ 0xDC00 ≤ low ∧ low < 0xE000 then
      return (Char.ofNat (0x10000 + (code - 0xD800) * 1024 + (low - 0xDC00)), rest)
    else throw .malformed
  | _ => throw .malformed

/-- Line breaks with blanks around them, inside quotes. -/
def quotedBreaks : Nat → List Char → List Char → Except Fault (List Char × List Char)
  | 0, cs, breaks => .ok (breaks, cs)
  | fuel + 1, cs, breaks =>
    if startsMarker cs then .error .malformed
    else match cs.dropWhile isSpace with
      | c :: rest =>
        if isBreak c then quotedBreaks fuel rest (breaks ++ [breakText c])
        else .ok (breaks, c :: rest)
      | [] => .ok (breaks, [])

/-- What stands between quotes, in reverse after `done`, and what follows the closing one. -/
def readQuoted (double : Bool) : Nat → List Char → List Char →
    Except Fault (List Char × List Char)
  | 0, _, _ => .error .malformed
  | fuel + 1, done, cs =>
    match cs with
    | [] => .error .malformed
    | '\'' :: rest =>
      if double then readQuoted double fuel ('\'' :: done) rest
      else match rest with
        | '\'' :: rest => readQuoted double fuel ('\'' :: done) rest
        | rest => .ok (done, rest)
    | '"' :: rest =>
      if double then .ok (done, rest) else readQuoted double fuel ('"' :: done) rest
    | '\\' :: rest =>
      if !double then readQuoted double fuel ('\\' :: done) rest
      else match rest with
        | [] => .error .malformed
        | e :: rest =>
          match escaped? e, escapeWidth? e with
          | some c, _ => readQuoted double fuel (c :: done) rest
          | none, some width => do
            let (c, rest) ← numericEscape width rest
            readQuoted double fuel (c :: done) rest
          | none, none =>
            if isBreak e then do
              let (breaks, rest) ← quotedBreaks cs.length rest []
              readQuoted double fuel (breaks.reverse ++ done) rest
            else .error .malformed
    | c :: rest =>
      if isSpace c || isBreak c then
        let blanks := cs.takeWhile isSpace
        match cs.dropWhile isSpace with
        | [] => .error .malformed
        | b :: after =>
          if isBreak b then do
            let (breaks, after) ← quotedBreaks cs.length after []
            readQuoted double fuel ((folded b breaks).reverse ++ done) after
          else readQuoted double fuel (blanks.reverse ++ done) (b :: after)
      else readQuoted double fuel (c :: done) rest

def quotedScalar (p : Place) : Except Fault Read := do
  let (text, rest) ← readQuoted (p.next? == some '"') p.rest.length [] p.advance.rest
  return ⟨text.reverse, p.upTo rest⟩

/-- What becomes of the line breaks at the end of a block: all stay, one does, or none. -/
inductive Chomping where
  | keep
  | clip
  | strip
  deriving Repr, DecidableEq

def chomping? : Option Char → Option Chomping
  | some '+' => some .keep
  | some '-' => some .strip
  | _ => none

def increment? (c? : Option Char) : Option Nat :=
  c?.bind fun c => if c.isDigit then some (c.toNat - 48) else none

/-- The header of a block, after its indicator: chomping and indentation in either order. -/
def blockHeader (p : Place) : Except Fault (Chomping × Option Nat × Place) := do
  let (chomping, increment, width) : Chomping × Option Nat × Nat :=
    match chomping? p.next?, increment? p.next? with
    | some c, _ =>
      let i := increment? p.rest[1]?
      (c, i, if i.isSome then 2 else 1)
    | none, some i =>
      match chomping? p.rest[1]? with
      | some c => (c, some i, 2)
      | none => (.clip, some i, 1)
    | none, none => (.clip, none, 0)
  let p := p.skip width
  if increment = some 0 || !(endsLine p.next? || p.next? = some ' ') then throw .malformed
  let p := (p.span (· == ' ')).2
  let p := if p.next? = some '#' then p.endOfLine else p
  if endsLine p.next? then return (chomping, increment, p.advance) else throw .malformed

/-- Blank lines at the start of a block that shows its own indentation, and the deepest column
among the blanks before its first character. -/
def blockLead : Nat → Place → List Char → Nat → List Char × Nat × Place
  | 0, p, breaks, deepest => (breaks, deepest, p)
  | fuel + 1, p, breaks, deepest =>
    match p.next? with
    | some ' ' => blockLead fuel p.advance breaks (max deepest p.advance.column)
    | some c =>
      if isBreak c then blockLead fuel p.advance (breaks ++ [breakText c]) deepest
      else (breaks, deepest, p)
    | none => (breaks, deepest, p)

def blockBreaks (indent : Nat) : Nat → Place → List Char → List Char × Place
  | 0, p, breaks => (breaks, p)
  | fuel + 1, p, breaks =>
    match p.next? with
    | some c =>
      if c = ' ' && p.column < indent then blockBreaks indent fuel p.advance breaks
      else if isBreak c then blockBreaks indent fuel p.advance (breaks ++ [breakText c])
      else (breaks, p)
    | none => (breaks, p)

/-- A block as far as it was read: its text, the break that ends its last line, and the breaks
after that. -/
structure BlockRead where
  text : List Char
  lastBreak : List Char
  breaks : List Char
  place : Place

/-- The lines of a block at a given indentation. At the margin a document marker ends it. -/
def blockLines (fold atMargin : Bool) (indent : Nat) : Nat → BlockRead → BlockRead
  | 0, b => b
  | fuel + 1, b =>
    let p := b.place
    if p.column ≠ indent || p.rest.isEmpty then b
    else
      let flush := !(p.next?.any isSpace)
      let (line, p) := p.span fun c => !endsLine (some c)
      let lastBreak := (p.next?.map breakText).toList
      let (breaks, p) := blockBreaks indent p.rest.length p.advance []
      let text := b.text ++ b.breaks ++ line
      let ended := p.column ≠ indent || p.rest.isEmpty ||
        (atMargin && p.column = 0 && startsMarker p.rest)
      if ended then ⟨text, lastBreak, breaks, p⟩
      else
        let joined :=
          if fold && lastBreak == ['\n'] && flush && !(p.next?.any isSpace) then
            if breaks.isEmpty then [' '] else []
          else lastBreak
        blockLines fold atMargin indent fuel ⟨text ++ joined, [], breaks, p⟩

def blockScalar (outer : Int) (p : Place) : Except Fault Read := do
  let fold := p.next? = some '>'
  let (chomping, increment, p) ← blockHeader p.advance
  let least := (outer + 1).toNat
  let (indent, breaks, p) := match increment with
    | none =>
      let (breaks, deepest, p) := blockLead p.rest.length p [] 0
      (max least deepest, breaks, p)
    | some n =>
      let indent := max least 1 + n - 1
      let (breaks, p) := blockBreaks indent p.rest.length p []
      (indent, breaks, p)
  let atMargin := increment.isNone && least = 0
  let b := blockLines fold atMargin indent (p.rest.length + 1) ⟨[], [], breaks, p⟩
  let tail := match chomping with
    | .keep => b.lastBreak ++ b.breaks
    | .clip => b.lastBreak
    | .strip => []
  return ⟨b.text ++ tail, b.place⟩

end FieldOrder.Yaml
