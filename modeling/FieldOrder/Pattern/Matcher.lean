import FieldOrder.Pattern.Basic
import FieldOrder.Text.Case
import FieldOrder.Text.Word
import FieldOrder.Text.Blank

namespace FieldOrder.Pattern

/-- Letters in lowercase with the same uppercase letter. -/
def caseCompanions : List (List Nat) := [
  [0x69, 0x131], [0x73, 0x17F], [0xB5, 0x3BC], [0x345, 0x3B9, 0x1FBE], [0x390, 0x1FD3],
  [0x3B0, 0x1FE3], [0x3B2, 0x3D0], [0x3B5, 0x3F5], [0x3B8, 0x3D1], [0x3BA, 0x3F0], [0x3C0, 0x3D6],
  [0x3C1, 0x3F1], [0x3C2, 0x3C3], [0x3C6, 0x3D5], [0x432, 0x1C80], [0x434, 0x1C81],
  [0x43E, 0x1C82], [0x441, 0x1C83], [0x442, 0x1C84, 0x1C85], [0x44A, 0x1C86], [0x463, 0x1C87],
  [0x1C88, 0xA64B], [0x1E61, 0x1E9B], [0xFB05, 0xFB06]]

def withCompanions (code : Nat) : List Nat :=
  (caseCompanions.find? (·.contains code)).getD [code]

/-- Lowercase letter of one code point, where the lowercase text is longer its first letter. -/
def lowerCode (ascii : Bool) (code : Nat) : Nat :=
  if ascii then (if 65 ≤ code && code ≤ 90 then code + 32 else code)
  else if code = 0x3A3 then 0x3C3
  else match Text.lowerChar (Char.ofNat code) with
    | c :: _ => if (Char.ofNat code).toNat = code then c.toNat else code
    | [] => code

def codesLoweredTo (ascii : Bool) (low : Nat) : List Nat :=
  let same := if lowerCode ascii low = low then [low] else []
  let capital := if 97 ≤ low && low ≤ 122 then [low - 32] else []
  if ascii then same ++ capital
  else same ++ capital ++ Text.toLowerMap.mappings.filterMap fun m =>
    let source := m.domain.first + (low - m.target)
    if m.target ≤ low && m.domain.contains source && lowerCode false source = low then some source
    else none

namespace Modes

def sameCode (m : Modes) (code : Nat) (c : Char) : Bool :=
  if !m.ignoreCase then code == c.toNat
  else if m.ascii then lowerCode true code == lowerCode true c.toNat
  else (withCompanions (lowerCode false code)).contains (lowerCode false c.toNat)

def inCategory (m : Modes) (c : Char) : Category → Bool
  | .digit => if m.ascii then c.isDigit else Text.isDecimal c
  | .space =>
    if m.ascii then c == ' ' || (9 ≤ c.toNat && c.toNat ≤ 13) else Text.isBlank c
  | .word => if m.ascii then c.isAlphanum || c == '_' else Text.isWord c

def inItem (m : Modes) (c : Char) : ClassItem → Bool
  | .code n => m.sameCode n c
  | .range lo hi =>
    if !m.ignoreCase then lo ≤ c.toNat && c.toNat ≤ hi
    else
      let low := lowerCode m.ascii c.toNat
      let lows := if m.ascii then [low] else withCompanions low
      lows.any fun l => (codesLoweredTo m.ascii l).any fun n => lo ≤ n && n ≤ hi
  | .category negated k => m.inCategory c k != negated

def inClass (m : Modes) (negated : Bool) (items : List ClassItem) (c : Char) : Bool :=
  items.any (m.inItem c) != negated

/-- A line feed ends a line; the end of a text may be the line feed that closes it. -/
def holdsAt (m : Modes) (text : Array Char) (pos : Nat) : Anchor → Bool
  | .textStart => pos == 0
  | .lineStart => pos == 0 || (m.multiLine && text[pos - 1]? == some '\n')
  | .textEnd => pos == text.size
  | .lineEnd =>
    pos == text.size || (text[pos]? == some '\n' && (m.multiLine || pos + 1 == text.size))
  | .wordBoundary => text.size != 0 && atWordEdge
  | .noWordBoundary => text.size != 0 && !atWordEdge
where
  wordAt (i : Option Nat) : Bool :=
    ((i.bind (text[·]?)).map fun c => m.inCategory c .word).getD false
  atWordEdge : Bool := wordAt (if pos = 0 then none else some (pos - 1)) != wordAt (some pos)

end Modes

structure Progress where
  pos : Nat
  captured : List (Nat × Nat × Nat)

namespace Progress

def captured? (p : Progress) (group : Nat) : Option (Nat × Nat) := p.captured.lookup group

def close (p : Progress) (group start : Nat) : Progress :=
  { p with captured := (group, start, p.pos) :: p.captured.filter (·.1 != group) }

end Progress

abbrev Continuation := Progress → Option Progress

/-- Repeats `step` at least `least` and at most `most` times. Past the least number a round that
consumed nothing is the last one, so the text bounds the rounds. -/
def repeatGreedy (step : Progress → Continuation → Option Progress) (least : Nat)
    (most : Option Nat) (k : Continuation) : Nat → Nat → Option Nat → Continuation
  | 0, _, _, p => k p
  | fuel + 1, count, last, p =>
    if count < least then step p (repeatGreedy step least most k fuel (count + 1) last)
    else if (most.all (count < ·)) && last != some p.pos then
      match step p (repeatGreedy step least most k fuel (count + 1) (some p.pos)) with
      | some done => some done
      | none => k p
    else k p

/-- As `repeatGreedy`, with the continuation tried before each further round. -/
def repeatLazy (step : Progress → Continuation → Option Progress) (least : Nat)
    (most : Option Nat) (k : Continuation) : Nat → Nat → Option Nat → Continuation
  | 0, _, _, p => k p
  | fuel + 1, count, last, p =>
    if count < least then step p (repeatLazy step least most k fuel (count + 1) last)
    else match k p with
      | some done => some done
      | none =>
        if (most.all (count < ·)) && last != some p.pos then
          step p (repeatLazy step least most k fuel (count + 1) (some p.pos))
        else none

/-- Repeats `step` as often as it goes and takes nothing back. -/
def repeatPossessive (step : Progress → Continuation → Option Progress) (least : Nat)
    (most : Option Nat) : Nat → Nat → Option Nat → Continuation
  | 0, _, _, p => some p
  | fuel + 1, count, last, p =>
    if count < least then
      (step p some).bind (repeatPossessive step least most fuel (count + 1) last)
    else if (most.all (count < ·)) && last != some p.pos then
      match step p some with
      | some q => repeatPossessive step least most fuel (count + 1) (some p.pos) q
      | none => some p
    else some p

def consume (text : Array Char) (test : Char → Bool) (p : Progress) (k : Continuation) :
    Option Progress :=
  match text[p.pos]? with
  | some c => if test c then k { p with pos := p.pos + 1 } else none
  | none => none

def repeatsAt (m : Modes) (text : Array Char) (start stop pos : Nat) : Bool :=
  pos + (stop - start) ≤ text.size && (List.range (stop - start)).all fun i =>
    match text[start + i]?, text[pos + i]? with
    | some a, some b =>
      if m.ignoreCase then lowerCode m.ascii a.toNat == lowerCode m.ascii b.toNat else a == b
    | _, _ => false

def Expr.run (text : Array Char) : Expr → Modes → Progress → Continuation → Option Progress
  | .empty, _, p, k => k p
  | .code n, m, p, k => consume text (m.sameCode n) p k
  | .any, m, p, k => consume text (fun c => m.dotAll || c != '\n') p k
  | .oneOf negated items, m, p, k => consume text (m.inClass negated items) p k
  | .anchor a, m, p, k => if m.holdsAt text p.pos a then k p else none
  | .seq a b, m, p, k => a.run text m p fun q => b.run text m q k
  | .alt a b, m, p, k =>
    match a.run text m p k with
    | some done => some done
    | none => b.run text m p k
  | .rep greed least most body, m, p, k =>
    let fuel := least + (text.size - p.pos) + 2
    match greed with
    | .greedy => repeatGreedy (body.run text m) least most k fuel 0 none p
    | .lazy => repeatLazy (body.run text m) least most k fuel 0 none p
    | .possessive => (repeatPossessive (body.run text m) least most fuel 0 none p).bind k
  | .capture group body, m, p, k => body.run text m p fun q => k (q.close group p.pos)
  | .scope added removed body, m, p, k => body.run text (m.within added removed) p k
  | .atomic body, m, p, k => (body.run text m p some).bind k
  | .backref group, m, p, k =>
    match p.captured? group with
    | some (start, stop) =>
      if repeatsAt m text start stop p.pos then k { p with pos := p.pos + (stop - start) } else none
    | none => none
  | .ahead negated body, m, p, k =>
    match body.run text m p some with
    | some q => if negated then none else k { q with pos := p.pos }
    | none => if negated then k p else none
  | .behind negated width body, m, p, k =>
    let found := if p.pos < width.least then none
      else body.run text m { p with pos := p.pos - width.least } some
    match found with
    | some q => if negated then none else k { q with pos := p.pos }
    | none => if negated then k p else none
  | .ifGroup group yes no, m, p, k =>
    if (p.captured? group).isSome then yes.run text m p k else no.run text m p k

/-- Does the expression match from the given position on? What follows an expression is a
continuation, so that every choice in it is undone when the rest fails. -/
def Expr.matchesAt (e : Expr) (m : Modes) (text : Array Char) (pos : Nat) : Bool :=
  (e.run text m ⟨pos, []⟩ some).isSome

end FieldOrder.Pattern
