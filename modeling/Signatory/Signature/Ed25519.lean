import Signatory.Curve.Edwards25519
import Signatory.Digest.Sha2
import Signatory.Signature.Fault

/-!
Ed25519 signatures. A signature is a point and a number; it fits a key and a message if the number
times the base point is that point plus the key, multiplied by a hash of all three. The points are
compared by their bytes, and the cofactor is not multiplied away.
-/
namespace Signatory.Ed25519
open Edwards25519

def keyLength : Nat := 32

def signatureLength : Nat := 64

def keyPoint (publicKey : Bytes) : Except SignatureFault Point :=
  if publicKey.length = keyLength then
    match Point.decompress? publicKey with
    | some point => .ok point
    | none => .error .invalidKey
  else .error (.keyLength keyLength publicKey.length)

def challenge (point publicKey message : Bytes) : Nat :=
  littleEndian (sha512.digest (point ++ publicKey ++ message)) % order

@[irreducible] def verify (publicKey message signature : Bytes) : Except SignatureFault Unit := do
  let key ← keyPoint publicKey
  if signature.length ≠ signatureLength then throw .signatureLength
  let point := signature.take 32
  let number := littleEndian (signature.drop 32)
  let expected :=
    (Point.multiple number .base).add (Point.multiple (challenge point publicKey message) key.neg)
  if number < order ∧ expected.compress = point then return () else throw .mismatch

def expand (seed : Bytes) : Nat × Bytes :=
  let hash := sha512.digest seed
  ((1 <<< 254) + littleEndian (hash.take 32) % (1 <<< 254) / 8 * 8, hash.drop 32)

def publicKeyOf (seed : Bytes) : Bytes := (Point.multiple (expand seed).1 .base).compress

def sign (seed message : Bytes) : Bytes :=
  let (secret, nonceSeed) := expand seed
  let nonce := littleEndian (sha512.digest (nonceSeed ++ message)) % order
  let point := (Point.multiple nonce .base).compress
  let number := (nonce + challenge point (publicKeyOf seed) message * secret) % order
  point ++ toLittleEndian 32 number

theorem length_of_verify {publicKey message signature : Bytes}
    (verified : verify publicKey message signature = .ok ()) : publicKey.length = keyLength := by
  unfold verify keyPoint at verified
  by_cases fits : publicKey.length = keyLength
  · exact fits
  · rw [if_neg fits] at verified
    cases verified

theorem signatureLength_of_verify {publicKey message signature : Bytes}
    (verified : verify publicKey message signature = .ok ()) :
    signature.length = signatureLength := by
  unfold verify at verified
  cases point : keyPoint publicKey with
  | error fault => rw [point] at verified; cases verified
  | ok key =>
    rw [point] at verified
    by_cases fits : signature.length = signatureLength
    · exact fits
    · simp [fits, bind, Except.bind] at verified

end Signatory.Ed25519
