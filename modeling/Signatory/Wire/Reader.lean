import Signatory.Wire.Fault

/-!
The wire format of numbers, flags, options, byte strings, texts and sequences. What is written has
one form; a number is read in any of the four widths. A reader takes what it reads from the front
of the bytes and leaves the rest.
-/
namespace Signatory.Wire

abbrev Reader := StateT Bytes (Except Fault)

namespace Reader

def fail {α : Type} (fault : Fault) : Reader α := fun _ => .error fault

def run {α : Type} (reader : Reader α) (bytes : Bytes) : Except Fault α :=
  match reader bytes with
  | .error fault => .error fault
  | .ok (value, []) => .ok value
  | .ok (_, _ :: _) => .error .trailingBytes

end Reader

def bounded (limit : Nat) (bytes : Bytes) : Except Fault Bytes :=
  if bytes.length ≤ limit then .ok bytes else .error .sizeLimit

def readByte : Reader UInt8
  | [] => .error .endOfInput
  | b :: rest => .ok (b, rest)

/-- The next `count` bytes; `short` is what it means that there are fewer. -/
def readExactly (short : Fault) (count : Nat) : Reader Bytes := fun bytes =>
  let taken := bytes.take count
  if taken.length = count then .ok (taken, bytes.drop count) else .error short

/-- A number below 251 is one byte. A larger one follows a byte that tells its width, the least
that holds it. -/
def number (n : Nat) : Bytes :=
  if n ≤ 250 then [UInt8.ofNat n]
  else if n < capacity 2 then 251 :: toLittleEndian 2 n
  else if n < capacity 4 then 252 :: toLittleEndian 4 n
  else 253 :: toLittleEndian 8 n

def readLittleEndian (width : Nat) : Reader Nat :=
  littleEndian <$> readExactly .endOfInput width

def readNumber : Reader Nat := do
  let marker ← readByte
  if marker ≤ 250 then return marker.toNat
  else if marker = 251 then readLittleEndian 2
  else if marker = 252 then readLittleEndian 4
  else if marker = 253 then readLittleEndian 8
  else if marker = 254 then Reader.fail .wideNumber
  else Reader.fail .reservedMarker

def word (n : UInt64) : Bytes := number n.toNat

def readWord : Reader UInt64 := UInt64.ofNat <$> readNumber

def short (n : UInt32) : Bytes := number n.toNat

def readShort : Reader UInt32 := do
  let n ← readNumber
  if n < capacity 4 then return UInt32.ofNat n else Reader.fail (.notShort n)

def zigzag (i : Int) : Nat := if 0 ≤ i then 2 * i.toNat else 2 * (-i).toNat - 1

def unzigzag (n : Nat) : Int := if n % 2 = 0 then (n / 2 : Nat) else -((n / 2 : Nat) + 1 : Int)

def signed (i : Int64) : Bytes := number (zigzag i.toInt)

def readSigned : Reader Int64 := (fun n => Int64.ofInt (unzigzag n)) <$> readNumber

def readVariant : Reader Nat := UInt32.toNat <$> readShort

def flag (b : Bool) : Bytes := [if b then 1 else 0]

def readFlag : Reader Bool := do
  let b ← readByte
  if b = 0 then return false
  else if b = 1 then return true
  else Reader.fail (.notBool b)

def option {α : Type} (write : α → Bytes) : Option α → Bytes
  | none => [0]
  | some value => 1 :: write value

def readOption {α : Type} (read : Reader α) : Reader (Option α) := do
  let b ← readByte
  if b = 0 then return none
  else if b = 1 then return some (← read)
  else Reader.fail (.notOption b)

def byteString (bytes : Bytes) : Bytes := number bytes.length ++ bytes

def readByteString : Reader Bytes := do
  readExactly .endOfInput (← readNumber)

def text (s : String) : Bytes := byteString (textBytes s)

def readText : Reader String := do
  let bytes ← readExactly .endOfText (← readNumber)
  match textOfBytes bytes with
  | .ok s => return s
  | .error fault => Reader.fail (.notText fault)

def sequence {α : Type} (write : α → Bytes) (values : List α) : Bytes :=
  number values.length ++ values.flatMap write

def readMany {α : Type} (read : Reader α) : (count : Nat) → Reader (List α)
  | 0 => pure []
  | count + 1 => do
    let value ← read
    let rest ← readMany read count
    return value :: rest

def readSequence {α : Type} (read : Reader α) : Reader (List α) := do
  readMany read (← readNumber)

end Signatory.Wire
