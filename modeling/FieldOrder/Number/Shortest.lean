import FieldOrder.Number.Binary

namespace FieldOrder.Number

/-- `digits · 10^exponent`. -/
structure Decimal where
  digits : Nat
  exponent : Int
  deriving Repr, DecidableEq

/-- A positive number as a quotient, and the ends of its interval over the same denominator. -/
structure Interval where
  lower : Nat
  value : Nat
  upper : Nat
  denominator : Nat
  /-- Do the ends belong to the interval? -/
  closed : Bool

namespace Interval

/-- The interval of `m · 2^q`: half the distance to either neighbour, of which the lower one is
nearer below a power of two. -/
def ofBinary (m : Nat) (q : Int) : Interval :=
  let scale := Nat.pow 2 (q - 2).toNat
  let lower := if m = 0x10000000000000 && -1074 < q then 4 * m - 1 else 4 * m - 2
  ⟨lower * scale, 4 * m * scale, (4 * m + 2) * scale, Nat.pow 2 (2 - q).toNat, m % 2 == 0⟩

def contains (i : Interval) (numerator denominator : Nat) : Bool :=
  let x := numerator * i.denominator
  let lower := i.lower * denominator
  let upper := i.upper * denominator
  if i.closed then lower ≤ x && x ≤ upper else lower < x && x < upper

/-- The nearer to the value of the two points around it on the grid of multiples of `10^g`, if one
of them is in the interval. -/
def onGrid? (i : Interval) (g : Int) : Option Decimal :=
  let up := Nat.pow 10 g.toNat
  let down := Nat.pow 10 (-g).toNat
  let below := i.value * down / (i.denominator * up)
  let remainder := i.value * down % (i.denominator * up)
  let inside (n : Nat) : Bool := 0 < n && i.contains (n * up) down
  let above := below + 1
  match inside below, inside above with
  | false, false => none
  | true, false => some ⟨below, g⟩
  | false, true => some ⟨above, g⟩
  | true, true =>
    let twice := 2 * remainder
    let half := i.denominator * up
    let nearer := if twice < half || (twice == half && below % 2 == 0) then below else above
    some ⟨nearer, g⟩

def digitCount : Nat → Nat → Nat
  | 0, _ => 0
  | fuel + 1, n => if n = 0 then 0 else digitCount fuel (n / 10) + 1

def magnitude (i : Interval) : Int :=
  let whole := i.value / i.denominator
  if 0 < whole then digitCount 400 whole - 1
  else -((leadingZeros 400 (i.value * 10)) : Int) - 1
where
  leadingZeros : Nat → Nat → Nat
    | 0, _ => 0
    | fuel + 1, x => if i.denominator ≤ x then 0 else leadingZeros fuel (x * 10) + 1

/-- The shortest decimal of the interval, at most seventeen digits long. -/
def shortest (i : Interval) : Decimal :=
  ((List.range 17).findSome? fun (n : Nat) => i.onGrid? (i.magnitude - n)).getD ⟨0, 0⟩

end Interval

def Decimal.normalize (d : Decimal) : Nat → Decimal
  | 0 => d
  | fuel + 1 =>
    if d.digits ≠ 0 ∧ d.digits % 10 = 0 then
      Decimal.normalize ⟨d.digits / 10, d.exponent + 1⟩ fuel
    else d

/-- Floating point numbers in text: positional notation with at least one place for exponents of
the leading digit from -4 to 15, else an exponent of at least two digits. -/
def floatText (x : Float) : String :=
  match Binary.ofFloat x with
  | .notANumber => "nan"
  | .infinite negative => if negative then "-inf" else "inf"
  | .finite negative m q =>
    let sign := if negative then "-" else ""
    if m = 0 then sign ++ "0.0"
    else
      let d := (Interval.ofBinary m q).shortest.normalize 400
      sign ++ decimalText (toString d.digits).toList d.exponent
where
  decimalText (digits : List Char) (exponent : Int) : String :=
    let leading := (digits.length : Int) - 1 + exponent
    if leading < -4 || 16 ≤ leading then
      let mantissa := match digits with
        | [] => []
        | [c] => [c]
        | c :: rest => c :: '.' :: rest
      let size := toString leading.natAbs
      .ofList mantissa ++ (if leading < 0 then "e-" else "e+") ++
        (if leading.natAbs < 10 then "0" ++ size else size)
    else if 0 ≤ exponent then
      .ofList (digits ++ List.replicate exponent.toNat '0' ++ ['.', '0'])
    else
      let places := (-exponent).toNat
      if places < digits.length then
        let whole := digits.length - places
        .ofList (digits.take whole ++ '.' :: digits.drop whole)
      else .ofList ('0' :: '.' :: List.replicate (places - digits.length) '0' ++ digits)

end FieldOrder.Number
