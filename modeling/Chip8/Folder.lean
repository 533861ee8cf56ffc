import Chip8.Text.Quoted

/-!
# Files

A folder holds files by name.  A path is resolved part by part: it may end at a file, at a
directory, at a name that is free, or fail on the way.  A path may leave the folder upwards; files
there are held under the way to them, and no directories but those on the way up are known.
`get?_insert` is all that a reader of the folder needs to know of its layout.
-/

namespace Chip8

/-- Why a file operation is refused. -/
inductive FileRefusal where
  | missing
  | notDirectory
  | isDirectory
  | nameTooLong
deriving DecidableEq, Repr

namespace FileRefusal

/-- The system's number for a refusal. -/
def number : FileRefusal → Nat
  | missing => 2
  | notDirectory => 20
  | isDirectory => 21
  | nameTooLong => 36

/-- The system's words for a refusal. -/
def description : FileRefusal → String
  | missing => "No such file or directory"
  | notDirectory => "Not a directory"
  | isDirectory => "Is a directory"
  | nameTooLong => "File name too long"

/-- The message that an operation on a path was refused. -/
def message (r : FileRefusal) (path : String) : String :=
  "[Errno " ++ toString r.number ++ "] " ++ r.description ++ ": " ++ Text.quoted path

end FileRefusal

/-- The files of a working directory, by name, and those outside it by the way to them. -/
structure Folder where
  entries : List (String × List UInt8)

namespace Folder

def empty : Folder := ⟨[]⟩

/-- The content of a file. -/
def get? (f : Folder) (name : String) : Option (List UInt8) := f.entries.lookup name

/-- The folder without a file. -/
def erase (f : Folder) (name : String) : Folder := ⟨f.entries.filter fun e => e.1 != name⟩

/-- Create a file, or replace its content. -/
def insert (f : Folder) (name : String) (bytes : List UInt8) : Folder :=
  ⟨(name, bytes) :: (f.erase name).entries⟩

theorem lookup_filter_ne {name other : String} (h : other ≠ name)
    (es : List (String × List UInt8)) :
    (es.filter fun e => e.1 != name).lookup other = es.lookup other := by
  induction es with
  | nil => rfl
  | cons e es ih =>
    obtain ⟨key, bytes⟩ := e
    by_cases hkey : key = name
    · subst hkey
      have hne : (other == key) = false := by simpa using h
      simp [List.lookup_cons, ih, hne]
    · simp [hkey, List.lookup_cons, ih]

@[simp] theorem get?_insert (f : Folder) (name other : String) (bytes : List UInt8) :
    (f.insert name bytes).get? other = if other = name then some bytes else f.get? other := by
  by_cases h : other = name
  · simp [insert, get?, h]
  · have hne : (other == name) = false := by simpa using h
    simp [insert, erase, get?, List.lookup_cons, hne, h, lookup_filter_ne h]

/-! ## Paths -/

/-- Where a path leads. -/
inductive Place where
  | file (name : String) (bytes : List UInt8)
  | directory
  /-- A name under which a file can be created. -/
  | free (name : String)
  /-- A free name with a slash after it. -/
  | freeDirectory
  /-- A file's name with a slash after it. -/
  | fileDirectory
  | absent
  | throughFile
  | tooLong
  /-- A name too long, with a slash after it. -/
  | tooLongDirectory
deriving DecidableEq, Repr

/-- The greatest number of bytes in a name. -/
def maxName : Nat := 255

/-- The greatest number of bytes in a path. -/
def maxPath : Nat := 4095

/-- The directory above a directory.  A directory is written as the way to it from the folder,
which is nothing for the folder itself, or as a slash for the topmost one. -/
def parent (directory : String) : String :=
  if directory = "/" then "/" else directory ++ "../"

/-- Where a name in a directory leads; `rest` is what follows it in the path. -/
def enter (f : Folder) (directory name : String) (rest : List String) : Place :=
  let slashed := rest.all (· == "")
  if maxName < name.utf8ByteSize then
    if slashed && !rest.isEmpty then .tooLongDirectory else .tooLong
  else
    match f.get? (directory ++ name) with
    | some bytes =>
      if rest.isEmpty then .file (directory ++ name) bytes
      else if slashed then .fileDirectory
      else .throughFile
    | none =>
      if rest.isEmpty then .free (directory ++ name)
      else if slashed then .freeDirectory
      else .absent

/-- Follow the parts of a path from a directory. -/
def follow (f : Folder) (directory : String) : List String → Place
  | [] => .directory
  | part :: rest =>
    if part = "" ∨ part = "." then f.follow directory rest
    else if part = ".." then f.follow (parent directory) rest
    else f.enter directory part rest

/-- Where a path leads; the empty path leads nowhere. -/
def resolve (f : Folder) (path : String) : Place :=
  if path = "" then .absent
  else if maxPath < path.utf8ByteSize then .tooLong
  else f.follow (if path.startsWith "/" then "/" else "") (path.splitOn "/")

/-- Read the file at a path. -/
def read (f : Folder) (path : String) : Except FileRefusal (List UInt8) :=
  match f.resolve path with
  | .file _ bytes => .ok bytes
  | .directory => .error .isDirectory
  | .fileDirectory | .throughFile => .error .notDirectory
  | .free _ | .freeDirectory | .absent => .error .missing
  | .tooLong | .tooLongDirectory => .error .nameTooLong

/-- Create or overwrite the file at a path. -/
def write (f : Folder) (path : String) (bytes : List UInt8) : Except FileRefusal Folder :=
  match f.resolve path with
  | .file name _ | .free name => .ok (f.insert name bytes)
  | .directory | .freeDirectory | .fileDirectory | .tooLongDirectory => .error .isDirectory
  | .throughFile => .error .notDirectory
  | .absent => .error .missing
  | .tooLong => .error .nameTooLong

/-- Remove the file at a path. -/
def remove (f : Folder) (path : String) : Except FileRefusal Folder :=
  match f.resolve path with
  | .file name _ => .ok (f.erase name)
  | .directory => .error .isDirectory
  | .fileDirectory | .throughFile => .error .notDirectory
  | .free _ | .freeDirectory | .absent => .error .missing
  | .tooLong | .tooLongDirectory => .error .nameTooLong

/-- The parts of a path when a name and the two points after it cancel out, whatever the name
leads to. -/
def cancelled (parts : List String) : List String :=
  (parts.foldl (fun kept part =>
    match kept with
    | last :: before =>
      if part = ".." ∧ last ≠ ".." then before else part :: kept
    | [] => [part]) []).reverse

/-- A path from the folder in which empty parts, single points and names followed by two points
are left out. -/
def straightened (path : String) : String :=
  let parts := cancelled ((path.splitOn "/").filter fun part => part != "" && part != ".")
  (if path.startsWith "/" then "/" else "./") ++ String.intercalate "/" parts

/-- Whether a path holds the character that no path may hold. -/
def hasNul (path : String) : Bool := path.toList.contains (Char.ofNat 0)

/-- The extension of a path: what its last part has from its last point on, leading points
apart. -/
def extension (path : String) : List Char :=
  let name := path.toList.reverse.takeWhile (· != '/')
  let stem := name.reverse.dropWhile (· == '.')
  if stem.contains '.' then '.' :: (stem.reverse.takeWhile (· != '.')).reverse else []

end Folder

end Chip8
