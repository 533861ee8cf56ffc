import Chip8.Host

/-!
# Pictures in files

A picture is the display as a frame, enlarged by a scale.  The host writes it, if there is room for
all its pixels.
-/

namespace Chip8

/-- The scale that loose data stand for.  Numbers of at most one are all the same; one above it
loses its fraction and fits 64 bits. -/
def scaleOf : Value → Except ScaleRefusal Int
  | .int i => if 1 < i ∧ ¬ FitsInt64 i then .error .outOfRange else .ok i
  | .bool b => .ok (if b then 1 else 0)
  | .float x =>
    if !x.exceedsOne then .ok 1
    else
      match x.truncate? with
      | some i => if FitsInt64 i then .ok i else .error .outOfRange
      | none => .error .infinite
  | v => .error (.notNumber v.kind)

/-- Whether a frame of so many rows and columns can be made.  The number of rows is a machine
integer of 64 bits, and so is that of the bytes. -/
def checkRoom (room rows columns : Nat) : Except ScaleRefusal Unit :=
  let rows := rows % 0x10000000000000000
  if 0x8000000000000000 ≤ rows then .error .negativeSize
  else if 0x8000000000000000 ≤ rows * columns then .error .tooLarge
  else if room < rows * columns then .error (.noRoom rows columns)
  else .ok ()

/-- The scale of a picture of the display, given as loose data.  The rows are repeated before the
columns, so the room for both frames is checked in this order. -/
def pictureScale (room : Nat) (scale : Value) : Except ScaleRefusal Int := do
  let k ← scaleOf scale
  if 1 < k then
    checkRoom room (Display.height * k.toNat) Display.width
    checkRoom room (Display.height * k.toNat) (Display.width * k.toNat)
  pure k

/-- The scale of a picture when none is asked for. -/
def defaultScale : Int := 8

/-- The picture of the display that is saved, with lit pixels white. -/
def Display.picture (d : Display) (scale : Int) : Frame := (d.frame 255).enlarge scale

/-- Save a picture of the display, with a scale given as loose data. -/
def Display.save (d : Display) (scale : Value) (host : Host) (path : String) :
    Except Failure (Frame × Folder) := do
  let picture := d.picture (← (pictureScale host.room scale).mapError .scale)
  pure (picture, ← host.writePicture picture host.files path)

end Chip8
