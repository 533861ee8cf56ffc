import Chip8.GreyMap

/-!
# Hosts

What a call finds around the machine: files, room for blocks of bytes, and a way to write pictures.
How much room there is and which formats can be written is the host's affair; a block of any
program that fits in memory can be made, and no block is greater than a machine integer allows.
-/

namespace Chip8

/-- The greatest number of bytes that a block of memory can have. -/
def maxBlock : Nat := 0x7FFFFFFFFFFFFFDE

/-- The surroundings of a machine. -/
structure Host where
  files : Folder
  /-- The number of bytes that there is room for in one block. -/
  room : Nat
  /-- Write a picture to the file at a path, in a format that the path decides. -/
  writePicture : Frame → Folder → String → Except Failure Folder
  capacity_le_room : programCapacity ≤ room
  room_le_maxBlock : room ≤ maxBlock

namespace Host

/-- A host that writes grey maps, with files and room for blocks of 64 KiB. -/
def ofFiles (files : Folder) : Host where
  files := files
  room := 0x10000
  writePicture := Frame.writeGreyMap
  capacity_le_room := by decide
  room_le_maxBlock := by decide

/-- A host without files. -/
def empty : Host := ofFiles .empty

/-- A host whose files have changed. -/
def withFiles (h : Host) (files : Folder) : Host := { h with files := files }

end Host

end Chip8
