import Chip8.Frame

/-!
# Portable grey maps

A file format for frames: a short text that gives the size, and then the pixels, a byte each.
-/

namespace Chip8.Frame

/-- The head of a portable grey map. -/
def header (f : Frame) : String :=
  "P5\n" ++ toString f.width ++ " " ++ toString f.height ++ "\n255\n"

/-- A frame as a portable grey map. -/
def toGreyMap (f : Frame) : List UInt8 := f.header.toUTF8.toList ++ f.flatten

/-- The extensions that stand for the format. -/
def extensions : List String := [".pgm", ".pbm", ".ppm", ".pnm", ".pfm"]

/-- Write a frame to a file whose extension stands for the format. -/
def writeGreyMap (f : Frame) (files : Folder) (path : String) : Except Failure Folder :=
  let extension := Text.lower (String.ofList (Folder.extension path))
  if !extensions.contains extension then .error (.unknownExtension extension)
  else if Folder.hasNul path then .error .nulInPath
  else (files.write path f.toGreyMap).mapError (.file path)

end Chip8.Frame
