namespace FieldOrder.Number

/-- A floating point number; a finite one is `±m · 2^q`. -/
inductive Binary where
  | finite (negative : Bool) (m : Nat) (q : Int)
  | infinite (negative : Bool)
  | notANumber
  deriving Repr, DecidableEq

namespace Binary

def ofBits (bits : UInt64) : Binary :=
  let negative := bits >>> 63 == 1
  let exponent := (bits >>> 52).toNat % 2048
  let fraction := bits.toNat % 0x10000000000000
  if exponent = 2047 then (if fraction = 0 then infinite negative else notANumber)
  else if exponent = 0 then finite negative fraction (-1074)
  else finite negative (0x10000000000000 + fraction) ((exponent : Int) - 1075)

def ofFloat (x : Float) : Binary := ofBits x.toBits

/-- How the number compares with a whole number, neither being rounded. -/
def compareInt? (b : Binary) (n : Int) : Option Ordering :=
  match b with
  | finite negative m q =>
    let signed : Int := if negative then -(m : Int) else m
    some (compare (signed * Nat.pow 2 q.toNat) (n * Nat.pow 2 (-q).toNat))
  | infinite negative => some (if negative then .lt else .gt)
  | notANumber => none

end Binary

end FieldOrder.Number
