import Chip8.Decimal.Binary64

/-!
# Sizes in bytes

A size in bytes is shown with three digits, or four from a thousand on, in the greatest unit that
it reaches; the units grow by a factor of 1024.
-/

namespace Chip8.Decimal

/-- The units of a size, from the smallest. -/
def sizeUnits : List String := ["bytes", "KiB", "MiB", "GiB", "TiB", "PiB", "EiB"]

/-- The number of bytes in a unit. -/
def sizeUnit (level : Nat) : Nat := Nat.pow 1024 level

/-- The level of the unit in which a size is shown.  A size that would round to 1024 is shown in
the next unit. -/
def sizeLevel (size : Nat) : Nat :=
  let level := size.log2 / 10
  let level := if roundDiv size (sizeUnit level) = 1024 then level + 1 else level
  min level (sizeUnits.length - 1)

/-- A size as a text. -/
def sizeText (size : Nat) : String :=
  let level := sizeLevel size
  let unit := sizeUnit level
  let hundredths := roundDiv (size * 100) unit
  let tenths := roundDiv (size * 10) unit
  let number :=
    if level = 0 then toString size
    else if hundredths < 1000 then
      let digits := toString (1000 + hundredths % 100)
      toString (hundredths / 100) ++ "." ++ (digits.drop 2).toString
    else if tenths < 1000 then toString (tenths / 10) ++ "." ++ toString (tenths % 10)
    else toString (roundDiv size unit) ++ "."
  number ++ " " ++ sizeUnits.getD level ""

end Chip8.Decimal
