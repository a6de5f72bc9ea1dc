namespace FieldOrder.Pattern

/-- Classes of characters with a name. -/
inductive Category where
  | digit
  | space
  | word
  deriving Repr, DecidableEq

/-- What one place of a character class admits. Code points, since a class may name one that no
character has. -/
inductive ClassItem where
  | code (n : Nat)
  | range (lo hi : Nat)
  | category (negated : Bool) (c : Category)
  deriving Repr, DecidableEq

inductive Anchor where
  | lineStart
  | lineEnd
  | textStart
  | textEnd
  | wordBoundary
  | noWordBoundary
  deriving Repr, DecidableEq

inductive Greed where
  | greedy
  | lazy
  | possessive
  deriving Repr, DecidableEq

structure Modes where
  ignoreCase : Bool := false
  multiLine : Bool := false
  dotAll : Bool := false
  verbose : Bool := false
  ascii : Bool := false
  unicode : Bool := false
  template : Bool := false
  deriving Repr, DecidableEq

namespace Modes

def plain : Modes := {}

private def zipWith (f : Bool → Bool → Bool) (a b : Modes) : Modes where
  ignoreCase := f a.ignoreCase b.ignoreCase
  multiLine := f a.multiLine b.multiLine
  dotAll := f a.dotAll b.dotAll
  verbose := f a.verbose b.verbose
  ascii := f a.ascii b.ascii
  unicode := f a.unicode b.unicode
  template := f a.template b.template

def union (a b : Modes) : Modes := zipWith (· || ·) a b

def inter (a b : Modes) : Modes := zipWith (· && ·) a b

/-- The modes inside a group that turns some on and others off. Choosing one kind of character
classes gives up the other. -/
def within (outer added removed : Modes) : Modes :=
  let kept := if added.ascii || added.unicode then { outer with ascii := false, unicode := false }
    else outer
  zipWith (fun m r => m && !r) (kept.union added) removed

end Modes

/-- Least and greatest number of characters that an expression can match. -/
structure Width where
  least : Nat
  most : Nat
  deriving Repr, DecidableEq

namespace Width

/-- Widths are not told apart from here on. -/
def cap : Nat := 0x10000000000000000

def zero : Width := ⟨0, 0⟩

def one : Width := ⟨1, 1⟩

def add (a b : Width) : Width := ⟨min (a.least + b.least) cap, min (a.most + b.most) cap⟩

def or (a b : Width) : Width := ⟨min a.least b.least, max a.most b.most⟩

def times (w : Width) (least : Nat) (most : Option Nat) : Width where
  least := min (w.least * least) cap
  most := match most with
    | some n => min (w.most * n) cap
    | none => if w.most = 0 then 0 else cap

end Width

inductive Expr where
  | empty
  | code (n : Nat)
  | any
  | oneOf (negated : Bool) (items : List ClassItem)
  | anchor (a : Anchor)
  | seq (first second : Expr)
  | alt (first second : Expr)
  | rep (greed : Greed) (least : Nat) (most : Option Nat) (body : Expr)
  | capture (group : Nat) (body : Expr)
  | scope (added removed : Modes) (body : Expr)
  | atomic (body : Expr)
  | backref (group : Nat)
  | ahead (negated : Bool) (body : Expr)
  | behind (negated : Bool) (width : Width) (body : Expr)
  | ifGroup (group : Nat) (yes no : Expr)
  deriving Repr

namespace Expr

/-- Width of an expression, given the widths of the groups closed so far. -/
def width (groups : Nat → Width) : Expr → Width
  | empty | anchor _ | ahead .. | behind .. => .zero
  | code _ | any | oneOf .. => .one
  | seq a b => (a.width groups).add (b.width groups)
  | alt a b => (a.width groups).or (b.width groups)
  | rep _ least most body => (body.width groups).times least most
  | capture _ body | scope _ _ body | atomic body => body.width groups
  | backref n => groups n
  | ifGroup _ yes no => (yes.width groups).or (no.width groups)

/-- Does some look-behind lack a fixed width? -/
def hasLooseLookBehind : Expr → Bool
  | empty | anchor _ | code _ | any | oneOf .. | backref _ => false
  | seq a b | alt a b | ifGroup _ a b => a.hasLooseLookBehind || b.hasLooseLookBehind
  | rep _ _ _ body | capture _ body | scope _ _ body | atomic body | ahead _ body =>
    body.hasLooseLookBehind
  | behind _ width body => width.least != width.most || body.hasLooseLookBehind

end Expr

end FieldOrder.Pattern
