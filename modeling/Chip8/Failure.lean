import Chip8.Console
import Chip8.Decimal.Size
import Chip8.Folder
import Chip8.State
import Chip8.Text.Integer
import Chip8.Value

/-!
# Failures

What a host call can fail with.  Each failure is named for its cause and holds what its message
tells; the wording is in `Failure.message` alone.  A fault of the machine is a failure too, and
carries the halted state.
-/

namespace Chip8

/-- Why a program is not loaded. -/
inductive LoadRefusal where
  | itemOutOfRange
  | itemNotInteger (kind : String)
  | negativeCount
  /-- A text does not say how it is to be read as bytes. -/
  | textWithoutEncoding
  | notBytes (kind : String)
  | tooLarge (size : Nat)
  | unreadable (path : String) (refusal : FileRefusal)
deriving DecidableEq, Repr

/-- Why a key code is not accepted. -/
inductive CodeRefusal where
  | outOfRange (shown : String)
  | notInteger (shown : String)
  | tooManyDigits (count : Nat)
  | notNumber (kind : String)
  | infinite
  | notANumber
deriving DecidableEq, Repr

/-- Why data stand for no grey value. -/
inductive GreyRefusal where
  /-- An integer that does not fit 64 bits. -/
  | outOfRange
  | notNumber (kind : String)
  /-- A text that spells no integer. -/
  | notInteger (text : String)
  | tooManyDigits (count : Nat)
  /-- A text that spells an integer, which is no byte. -/
  | notByte (value : Int)
  /-- Lists of sizes that do not fit those of the display. -/
  | unlikeSizes (sizes : List Nat)
deriving DecidableEq, Repr

/-- Why a picture is not enlarged. -/
inductive ScaleRefusal where
  | outOfRange
  | infinite
  | notNumber (kind : String)
  /-- A number of rows that is negative as a machine integer. -/
  | negativeSize
  /-- More bytes than a machine integer counts. -/
  | tooLarge
  /-- More bytes than there is room for. -/
  | noRoom (rows columns : Nat)
deriving DecidableEq, Repr

/-- Why a host call fails. -/
inductive Failure where
  /-- The machine is halted; its state is the given one. -/
  | halted (fault : Fault) (state : State)
  /-- The machine is halted by a fault code that stands for no fault. -/
  | unassignedFault (code : UInt8)
  | undefinedWord (word : Word) (pc : UInt16)
  | load (refusal : LoadRefusal)
  /-- A count of bytes that is no machine integer. -/
  | countOutOfRange
  /-- A count of bytes that no block of memory can have. -/
  | blockTooLarge
  | outOfMemory
  | notIterable (kind : String)
  | keyShape (sizes : List Nat)
  | raggedLists (sizes : List Nat)
  /-- Lists of too many levels. -/
  | deepLists
  | keyCode (refusal : CodeRefusal)
  | wordOutOfRange (value : Int)
  | seedOutOfRange
  | grey (refusal : GreyRefusal)
  | scale (refusal : ScaleRefusal)
  | timerStopped
  | console (refusal : Console.Refusal)
  | unknownExtension (extension : String)
  | file (path : String) (refusal : FileRefusal)
  | nulInPath

/-- What happened, in the words of a message. -/
def Fault.description : Fault → String
  | stackOverflow => "Call stack overflow"
  | stackUnderflow => "Return with empty call stack"
  | outOfBounds => "Memory access out of bounds"
  | unassigned _ => "Machine fault"

/-- A number in base 16 with a prefix and a least number of digits. -/
def hexNumber (width n : Nat) : String := "0x" ++ Decimal.hexUpper width n

/-- The message of a fault: what happened, where, and in which instruction. -/
def Fault.message (f : Fault) (s : State) : String :=
  f.description ++ " at " ++ hexNumber 3 s.pc.toNat ++
    " (opcode " ++ hexNumber 4 s.opcode.toNat ++ ")"

/-- The number of program bytes that fit in memory. -/
def programCapacity : Nat := Memory.size - State.programStart

/-- The message of a refused program. -/
def LoadRefusal.message : LoadRefusal → String
  | itemOutOfRange => notSequence "bytes must be in range(0, 256)"
  | itemNotInteger kind =>
    notSequence ("'" ++ kind ++ "' object cannot be interpreted as an integer")
  | negativeCount => notSequence "negative count"
  | textWithoutEncoding => notSequence "string argument without an encoding"
  | notBytes kind => notSequence ("cannot convert '" ++ kind ++ "' object to bytes")
  | tooLarge size =>
    "Program is " ++ toString size ++ " bytes, at most " ++ toString programCapacity ++
      " fit in memory"
  | unreadable path refusal => "Cannot read ROM '" ++ path ++ "': " ++ refusal.message path
where
  /-- The frame around a reason. -/
  notSequence (reason : String) : String := "Program is not a byte sequence: " ++ reason

/-- The message that an integer does not fit 64 bits. -/
def tooLargeMessage : String := "Python int too large to convert to C long"

/-- The message that data of a kind stand for no integer. -/
def notNumberMessage (kind : String) : String :=
  "int() argument must be a string, a bytes-like object or a real number, not '" ++ kind ++ "'"

/-- The message that a text, as it is shown, is no integer. -/
def notIntegerMessage (shown : String) : String :=
  "invalid literal for int() with base 10: " ++ (shown.take 200).toString

/-- The message that an infinite number is no integer. -/
def infiniteMessage : String := "cannot convert float infinity to integer"

/-- The message of a refused key code. -/
def CodeRefusal.message : CodeRefusal → String
  | outOfRange shown => "Key code " ++ shown ++ " is outside 0x0-0xF"
  | notInteger shown => notIntegerMessage shown
  | tooManyDigits count => Text.tooManyDigitsMessage count
  | notNumber kind => notNumberMessage kind
  | infinite => infiniteMessage
  | notANumber => "cannot convert float NaN to integer"

/-- The message that an integer is out of the range of a kind of machine integers. -/
def outOfBoundsMessage (value : Int) (range : String) : String :=
  if FitsInt64 value then "Python integer " ++ toString value ++ " out of bounds for " ++ range
  else tooLargeMessage

/-- The message of data that stand for no grey value. -/
def GreyRefusal.message : GreyRefusal → String
  | outOfRange => tooLargeMessage
  | notNumber kind => notNumberMessage kind
  | notInteger text => notIntegerMessage ("np.str_(" ++ Text.quoted text ++ ")")
  | tooManyDigits count => Text.tooManyDigitsMessage count
  | notByte value => outOfBoundsMessage value "uint8"
  | unlikeSizes sizes =>
    "operands could not be broadcast together with shapes (32,64) " ++
      (Value.showSizes sizes).replace ", " "," ++ " () "

/-- The message of a refused scale. -/
def ScaleRefusal.message : ScaleRefusal → String
  | outOfRange => tooLargeMessage
  | infinite => infiniteMessage
  | notNumber kind => "'>' not supported between instances of '" ++ kind ++ "' and 'int'"
  | negativeSize => "negative dimensions are not allowed"
  | tooLarge =>
    "array is too big; `arr.size * arr.dtype.itemsize` is larger than the maximum possible size."
  | noRoom rows columns =>
    "Unable to allocate " ++ Decimal.sizeText (rows * columns) ++ " for an array with shape " ++
      Value.showSizes [rows, columns] ++ " and data type uint8"

/-- The message of a failure. -/
def Failure.message : Failure → String
  | halted fault state => fault.message state
  | unassignedFault code => toString code.toNat
  | undefinedWord word pc =>
    "Unknown opcode " ++ hexNumber 4 word.toNat ++ " at " ++ hexNumber 3 pc.toNat
  | load refusal => refusal.message
  | countOutOfRange => "cannot fit 'int' into an index-sized integer"
  | blockTooLarge => "byte string is too large"
  | outOfMemory => ""
  | notIterable kind => "'" ++ kind ++ "' object is not iterable"
  | keyShape sizes => "Expected 16 key states, got shape " ++ Value.showSizes sizes
  | raggedLists sizes =>
    "setting an array element with a sequence. The requested array has an inhomogeneous shape " ++
      "after " ++ toString sizes.length ++ " dimensions. The detected shape was " ++
      Value.showSizes sizes ++ " + inhomogeneous part."
  | deepLists =>
    "setting an array element with a sequence. The requested array would exceed the maximum " ++
      "number of dimension of " ++ toString Value.maxLevels ++ "."
  | keyCode refusal => refusal.message
  | wordOutOfRange value => outOfBoundsMessage value "uint16"
  | seedOutOfRange => tooLargeMessage
  | grey refusal => refusal.message
  | scale refusal => refusal.message
  | timerStopped => "integer division or modulo by zero"
  | console refusal => refusal.message
  | unknownExtension extension => "unknown file extension: " ++ extension
  | file path refusal => refusal.message path
  | nulInPath => "embedded null byte"

end Chip8
