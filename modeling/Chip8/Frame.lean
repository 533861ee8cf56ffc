import Chip8.Display
import Chip8.Failure
import Chip8.Folder
import Chip8.Integer
import Chip8.Text.Case
import Chip8.Value.Sizes

/-!
# Pictures of the display

A frame is a grid of grey values, row by row.  The display becomes a frame, and a frame can be
enlarged.  Enlarging only repeats pixels, so that any pixel of a block gives back the one it came
from (`getElem?_stretch`).
-/

namespace Chip8

/-- Grey values, by rows from the top. -/
abbrev Frame := List (List UInt8)

/-- Every item of a list a number of times in a row. -/
def stretch {α : Type} (k : Nat) (xs : List α) : List α := xs.flatMap (List.replicate k)

theorem length_stretch {α : Type} (k : Nat) (xs : List α) :
    (stretch k xs).length = xs.length * k := by
  induction xs with
  | nil => simp [stretch]
  | cons x xs ih =>
    simp only [stretch, List.flatMap_cons, List.length_append, List.length_replicate,
      List.length_cons] at ih ⊢
    rw [ih, Nat.succ_mul, Nat.add_comm]

/-- In a stretched list, an item stands at all the places that divide down to its own. -/
theorem getElem?_stretch {α : Type} {k : Nat} (hk : 0 < k) (xs : List α) (i : Nat) :
    (stretch k xs)[i]? = xs[i / k]? := by
  induction xs generalizing i with
  | nil => simp [stretch]
  | cons x xs ih =>
    have hcons : stretch k (x :: xs) = List.replicate k x ++ stretch k xs := rfl
    rw [hcons]
    by_cases hi : i < k
    · rw [List.getElem?_append_left (by simpa using hi), List.getElem?_replicate, if_pos hi,
        Nat.div_eq_of_lt hi, List.getElem?_cons_zero]
    · have hle : k ≤ i := Nat.le_of_not_lt hi
      have hdiv : i / k = (i - k) / k + 1 := by
        rw [Nat.div_eq_sub_div hk hle]
      rw [List.getElem?_append_right (by simpa using hle), List.length_replicate, ih, hdiv,
        List.getElem?_cons_succ]

/-- The grey value that a text spells: an integer that is a byte.  NUL characters at the end do not
count. -/
def greyOfText (s : String) : Except GreyRefusal UInt8 :=
  let text := String.ofList (s.toList.reverse.dropWhile (· == Char.ofNat 0)).reverse
  match Text.readInteger text with
  | .ok i => if 0 ≤ i ∧ i < 256 then .ok (lastByte i) else .error (.notByte i)
  | .error .malformed => .error (.notInteger text)
  | .error (.tooManyDigits count) => .error (.tooManyDigits count)

/-- The grey value that loose data stand for: the last byte of an integer that fits 64 bits with
or without a sign.  A number with a fraction loses it, and one beyond 32 bits counts as zero. -/
def greyOf : Value → Except GreyRefusal UInt8
  | .int i =>
    if FitsInt64 i ∨ FitsUInt64 i then .ok (lastByte i) else .error .outOfRange
  | .bool b => .ok (if b then 1 else 0)
  | .float x =>
    let whole := x.truncate?.getD 0
    .ok (if whole.natAbs < 0x80000000 then lastByte whole else 0)
  | .text s => greyOfText s
  | v => .error (.notNumber v.kind)

/-- The display as a frame: lit pixels have a grey value, the others zero. -/
def Display.frame (d : Display) (on : UInt8) : Frame :=
  (List.finRange 32).map fun y =>
    (List.finRange 64).map fun x => if d.lit x y then on else 0

/-- Whether a grid of some sizes can be laid over the display: from the last on they are those of
the display, or one. -/
def fitsDisplay (sizes : List Nat) : Bool :=
  (sizes.reverse.zip [Display.width, Display.height]).all fun (n, whole) => n == 1 || n == whole

/-- The display as a frame, with a grey value given as loose data.  Lists around it do no harm, if
there is only one.  Data that stand for no grey value do no harm where no pixel is lit, except for
an integer that is out of range. -/
def Display.greyFrame (d : Display) (on : Value) : Except Failure Frame := do
  let sizes ← on.sizes
  if !fitsDisplay sizes then throw (.grey (.unlikeSizes sizes))
  match greyOf on.innermost with
  | .ok grey => pure (d.frame grey)
  | .error .outOfRange => throw (.grey .outOfRange)
  | .error refusal => if d = .blank then pure (d.frame 0) else throw (.grey refusal)

namespace Frame

/-- A frame with every pixel made a square; a scale of one or less changes nothing. -/
def enlarge (f : Frame) (scale : Int) : Frame :=
  if 1 < scale then stretch scale.toNat (f.map (stretch scale.toNat)) else f

/-- The number of columns. -/
def width (f : Frame) : Nat := (f.headD []).length

/-- The number of rows. -/
def height (f : Frame) : Nat := f.length

end Frame

end Chip8
