import Chip8.Decimal.Binary64

/-!
# Shortest decimals

The fewest decimal digits that read back as the same double, and of those the nearest to it.
The reals that round to `m · 2^q` form an interval, whose ends belong to it when `m` is even.
For one, two and up to seventeen digits the two neighbours of the value on the grid of such
decimals are tried against the interval; the first grid with a hit gives the digits.
-/

namespace Chip8.Decimal

/-- The interval of reals that round to a positive double `m · 2^q`, in fourths of `2^q`. -/
def roundingInterval (m : Nat) (q : Int) : Nat × Nat :=
  (if m = Binary64.implicitBit ∧ -1074 < q then 4 * m - 1 else 4 * m - 2, 4 * m + 2)

/-- Whether `d · 10^p` rounds to `m · 2^q`. -/
def roundsTo (m : Nat) (q : Int) (d : Nat) (p : Int) : Bool :=
  let (low, high) := roundingInterval m q
  let value := d * Nat.pow 10 p.toNat * Nat.pow 2 (2 - q).toNat
  let unit := Nat.pow 2 (q - 2).toNat * Nat.pow 10 (-p).toNat
  if m % 2 = 0 then low * unit ≤ value && value ≤ high * unit
  else low * unit < value && value < high * unit

/-- The digits of a decimal number. -/
def digitCount (n : Nat) : Nat := (Nat.toDigits 10 n).length

/-- The exponent of the leading digit of the quotient of two positive numbers. -/
def leadingExponent (num den : Nat) : Int :=
  if den ≤ num then (digitCount (num / den) : Int) - 1
  else
    -- `den / num` has k digits, so the quotient is above 10⁻ᵏ and at most ten times that
    let k := digitCount (den / num)
    if den ≤ num * Nat.pow 10 (k - 1) then 1 - (k : Int) else -(k : Int)

/-- The decimal of a given number of digits that reads back as `m · 2^q`, if there is one.  When
both neighbours do, the nearer is taken, and of two equally near ones the even. -/
def decimalOfLength? (m : Nat) (q : Int) (exponent : Int) (length : Nat) : Option (Nat × Int) :=
  let p := exponent - (length - 1 : Int)
  let num := Binary64.numerator m q * Nat.pow 10 (-p).toNat
  let den := Binary64.denominator q * Nat.pow 10 p.toNat
  let below := num / den
  match roundsTo m q below p, roundsTo m q (below + 1) p with
  | true, true => some (roundDiv num den, p)
  | true, false => some (below, p)
  | false, true => some (below + 1, p)
  | false, false => none

/-- The digits and the exponent of the shortest decimal of a positive double.  Seventeen digits
always suffice. -/
def shortest (m : Nat) (q : Int) : Nat × Int :=
  let exponent := leadingExponent (Binary64.numerator m q) (Binary64.denominator q)
  ((List.range' 1 17).findSome? (decimalOfLength? m q exponent)).getD (m, q)

/-- Decimal digits without the zeros at their end. -/
def significant (digits : List Char) : List Char :=
  (digits.reverse.dropWhile (· == '0')).reverse

/-- A positive decimal in positional form when its leading digit stands for 10⁻⁴ up to 10¹⁵, with
at least one place after the point, and in exponential form otherwise, with at least two digits of
exponent. -/
def layOut (digits : List Char) (exponent : Int) : List Char :=
  if -4 ≤ exponent ∧ exponent < 0 then
    '0' :: '.' :: List.replicate (-exponent - 1).toNat '0' ++ digits
  else if 0 ≤ exponent ∧ exponent < 16 then
    let whole := exponent.toNat + 1
    let fraction := digits.drop whole
    digits.take whole ++ List.replicate (whole - digits.length) '0' ++
      '.' :: (if fraction.isEmpty then ['0'] else fraction)
  else
    let size := Nat.toDigits 10 exponent.natAbs
    let fraction := digits.drop 1
    digits.take 1 ++ (if fraction.isEmpty then [] else '.' :: fraction) ++
      ['e', if exponent < 0 then '-' else '+'] ++ List.replicate (2 - size.length) '0' ++ size

/-- The text of a double: the shortest decimal that reads back. -/
def Binary64.render : Binary64 → String
  | finite negative m q =>
    let body :=
      if m = 0 then ['0', '.', '0']
      else
        let (d, p) := shortest m q
        let digits := Nat.toDigits 10 d
        layOut (significant digits) (p + (digits.length - 1 : Int))
    String.ofList (if negative then '-' :: body else body)
  | infinite negative => if negative then "-inf" else "inf"
  | nan => "nan"

end Chip8.Decimal
