import Signatory.Digest.Sha2

/-!
Message authentication by a keyed hash.
-/
namespace Signatory.Sha2

variable {width : Nat}

/-- A key longer than a block is hashed first, a shorter one is filled with zeros. -/
def hmac (family : Sha2 width) (key message : Bytes) : Bytes :=
  let short := if key.length ≤ family.blockLength then key else family.digest key
  let full := short ++ List.replicate (family.blockLength - short.length) 0
  let inner := family.digest (full.map (· ^^^ 0x36) ++ message)
  family.digest (full.map (· ^^^ 0x5C) ++ inner)

end Signatory.Sha2
