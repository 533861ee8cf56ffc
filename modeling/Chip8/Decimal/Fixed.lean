import Chip8.Decimal.Binary64

/-!
# Numbers with a fixed layout

Doubles with a fixed number of decimal places, a half rounded to the even neighbour, and counts
with their digits in groups of three.
-/

namespace Chip8.Decimal

/-- A text filled up with blanks on the left. -/
def padLeft (width : Nat) (s : String) : String :=
  String.ofList (List.replicate (width - s.length) ' ' ++ s.toList)

/-- The digits of a number, at least a given number of them. -/
def paddedDigits (width n : Nat) : List Char :=
  let digits := Nat.toDigits 10 n
  List.replicate (width - digits.length) '0' ++ digits

/-- A double with a number of decimal places. -/
def Binary64.fixed (places : Nat) : Binary64 → String
  | finite negative m q =>
    let scaled := roundDiv (numerator m q * Nat.pow 10 places) (denominator q)
    let digits := paddedDigits (places + 1) scaled
    let whole := digits.length - places
    let body := digits.take whole ++ '.' :: digits.drop whole
    String.ofList (if negative then '-' :: body else body)
  | infinite negative => if negative then "-inf" else "inf"
  | nan => "nan"

/-- Digits, given from the last to the first, with a comma after every third. -/
def groupReversed : List Char → List Char
  | a :: b :: c :: d :: rest => a :: b :: c :: ',' :: groupReversed (d :: rest)
  | rest => rest

/-- A count with a comma between groups of three digits. -/
def grouped (n : Nat) : String :=
  String.ofList (groupReversed (Nat.toDigits 10 n).reverse).reverse

/-- A number in capital base-16 digits, at least a given number of them. -/
def hexUpper (width n : Nat) : String :=
  let digits := (Nat.toDigits 16 n).map Char.toUpper
  String.ofList (List.replicate (width - digits.length) '0' ++ digits)

end Chip8.Decimal
