import Signatory.Wire.Text

/-!
Why bytes cannot be written or read.
-/
namespace Signatory.Wire

inductive Fault where
  | sizeLimit
  | endOfInput
  /-- The bytes end inside a text. -/
  | endOfText
  | trailingBytes
  | wideNumber
  /-- A number is announced by the byte that announces nothing. -/
  | reservedMarker
  | notShort (value : Nat)
  | unknownVariant (index count : Nat)
  | zeroThreshold
  | notBool (byte : UInt8)
  | notOption (byte : UInt8)
  | notText (fault : TextFault)
  | keyNesting (levels : Nat)
  | scheduleNesting (levels : Nat)
deriving DecidableEq, Repr

def Fault.message : Fault → String
  | .sizeLimit => "the size limit has been reached"
  | .endOfInput => "io error: unexpected end of file"
  | .endOfText => "io error: "
  | .trailingBytes => "Slice had bytes remaining after deserialization"
  | .wideNumber =>
    "Invalid value (u128 range): you may have a version or configuration disagreement?"
  | .reservedMarker =>
    "\nByte 255 is treated as an extension point; it should not be encoding anything.\n" ++
      "Do you have a mismatched bincode version or configuration?\n"
  | .notShort value => "Invalid u32 " ++ toString value ++ ": you may have a version disagreement?"
  | .unknownVariant index count =>
    "invalid value: integer `" ++ toString index ++ "`, expected variant index 0 <= i < " ++
      toString count
  | .zeroThreshold => "invalid value: integer `0`, expected a nonzero u32"
  | .notBool byte =>
    "invalid u8 while decoding bool, expected 0 or 1, found " ++ toString byte.toNat
  | .notOption byte => "tag for enum is not valid, found " ++ toString byte.toNat
  | .notText fault => "string is not valid utf8: " ++ fault.message
  | .keyNesting levels => "key list nesting exceeds " ++ toString levels ++ " levels"
  | .scheduleNesting levels => "scheduled operation nesting exceeds " ++ toString levels ++ " levels"

end Signatory.Wire
