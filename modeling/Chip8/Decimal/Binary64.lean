/-!
# Binary floating point, exactly

A finite double is `± m · 2^q` with integers `m` and `q`.  `Binary64.ofFloat` reads them off the
bits; what is printed or truncated is computed from them in exact integer arithmetic.
-/

namespace Chip8.Decimal

/-- What a double stands for. -/
inductive Binary64 where
  /-- The value `± m · 2^q`. -/
  | finite (negative : Bool) (m : Nat) (q : Int)
  | infinite (negative : Bool)
  | nan
deriving DecidableEq, Repr

/-- The quotient of two numbers, rounded to the nearest integer and a half to the even one. -/
def roundDiv (num den : Nat) : Nat :=
  let floor := num / den
  let twice := 2 * (num % den)
  if twice < den ∨ (twice = den ∧ floor % 2 = 0) then floor else floor + 1

namespace Binary64

/-- The leading bit of the fraction, which is not stored: 2⁵². -/
def implicitBit : Nat := 0x10000000000000

/-- Read a double: a sign, eleven bits of exponent and 52 of fraction. -/
def ofFloat (x : Float) : Binary64 :=
  let bits := x.toBits.toNat
  let negative := decide (0x8000000000000000 ≤ bits)
  let exponent : Nat := bits / implicitBit % 2048
  let fraction : Nat := bits % implicitBit
  if exponent = 2047 then
    if fraction = 0 then infinite negative else nan
  else if exponent = 0 then finite negative fraction (-1074)
  else finite negative (implicitBit + fraction) ((exponent : Int) - 1075)

/-- An integer as a double: its first 53 binary digits, rounded to the nearest and a half to the
even neighbour.  There is none beyond the greatest double. -/
def ofInt? (i : Int) : Option Binary64 :=
  let n := i.natAbs
  let negative := decide (i < 0)
  let places := n.log2 + 1
  if n = 0 then some (finite false 0 (-1074))
  else if places ≤ 53 then
    some (finite negative (n * Nat.pow 2 (53 - places)) ((places : Int) - 53))
  else
    let rounded := roundDiv n (Nat.pow 2 (places - 53))
    -- rounding up may reach the next power of two
    let carried : Bool := rounded == 2 * implicitBit
    let m := if carried then implicitBit else rounded
    let size := if carried then places + 1 else places
    if 1024 < size then none else some (finite negative m ((size : Int) - 53))

/-- The numerator of `m · 2^q` over `denominator q`. -/
def numerator (m : Nat) (q : Int) : Nat := m * Nat.pow 2 q.toNat

/-- The denominator of `m · 2^q`. -/
def denominator (q : Int) : Nat := Nat.pow 2 (-q).toNat

/-- The integer part of a finite double. -/
def truncate? : Binary64 → Option Int
  | finite negative m q =>
    let whole : Int := (numerator m q / denominator q : Nat)
    some (if negative then -whole else whole)
  | _ => none

/-- Whether a double is above one. -/
def exceedsOne : Binary64 → Bool
  | finite negative m q => !negative && denominator q < numerator m q
  | infinite negative => !negative
  | nan => false

/-- Whether a double is a zero, of either sign. -/
def isZero : Binary64 → Bool
  | finite _ m _ => m == 0
  | _ => false

end Binary64

end Chip8.Decimal
