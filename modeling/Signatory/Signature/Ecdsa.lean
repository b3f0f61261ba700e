import Signatory.Curve.Secp256k1
import Signatory.Digest.Hmac
import Signatory.Signature.Fault

/-!
ECDSA signatures on secp256k1 over the SHA-256 hash of a message. Signing derives its nonce from
the secret and the message and gives the lower of the two numbers that fit; only that one verifies.
-/
namespace Signatory.Ecdsa
open Secp256k1

def keyLength : Nat := 33

def signatureLength : Nat := 64

def keyPoint (publicKey : Bytes) : Except SignatureFault Point :=
  if publicKey.length = keyLength then
    match Point.decompress? publicKey with
    | some point => .ok point
    | none => .error .invalidKey
  else .error (.keyLength keyLength publicKey.length)

def hashNumber (message : Bytes) : Nat := bigEndian (sha256.digest message)

def inRange (n : Nat) : Bool := 0 < n && n < order

def isLow (s : Scalar) : Bool := s.val ≤ order / 2

@[irreducible] def verify (publicKey message signature : Bytes) : Except SignatureFault Unit := do
  let key ← keyPoint publicKey
  if signature.length ≠ signatureLength then throw .signatureLength
  let first := bigEndian (signature.take 32)
  let second := bigEndian (signature.drop 32)
  if !(inRange first && inRange second) then throw .signatureEncoding
  let r : Scalar := Scalar.ofNat first
  let s : Scalar := Scalar.ofNat second
  let inverse := PrimeField.inverse s
  let u := Scalar.ofNat (hashNumber message) * inverse
  let v := r * inverse
  let point := (Point.multiple u.val .base).add (Point.multiple v.val key)
  let fits := match point.affine? with
    | none => false
    | some (x, _) => Scalar.ofNat x.val = r
  if isLow s && fits then return () else throw .mismatch

def secretScalar (secret : Bytes) : Except SignatureFault Scalar :=
  let n := bigEndian secret
  if inRange n then .ok (Scalar.ofNat n) else .error .invalidSecret

def publicKeyOf (secret : Scalar) : Bytes := (Point.multiple secret.val .base).compress

structure Generator where
  key : Bytes
  value : Bytes

namespace Generator

def start : Generator := ⟨List.replicate 32 0, List.replicate 32 1⟩

def stir (g : Generator) (separator : UInt8) (input : Bytes) : Generator :=
  let key := sha256.hmac g.key (g.value ++ separator :: input)
  ⟨key, sha256.hmac key g.value⟩

/-- The first value in range among the next `attempts`; nearly every value is. -/
def next (g : Generator) : (attempts : Nat) → Scalar
  | 0 => 1
  | attempts + 1 =>
    let value := sha256.hmac g.key g.value
    if inRange (bigEndian value) then Scalar.ofNat (bigEndian value)
    else next (stir ⟨g.key, value⟩ 0 []) attempts

end Generator

def nonce (secret : Scalar) (message : Bytes) : Scalar :=
  let input := toBigEndian 32 secret.val ++ toBigEndian 32 (hashNumber message % order)
  ((Generator.start.stir 0 input).stir 1 input).next 64

def sign (secret : Scalar) (message : Bytes) : Bytes :=
  let k := nonce secret message
  let r : Scalar := match (Point.multiple k.val .base).affine? with
    | none => 0
    | some (x, _) => Scalar.ofNat x.val
  let s := PrimeField.inverse k * (Scalar.ofNat (hashNumber message) + r * secret)
  toBigEndian 32 r.val ++ toBigEndian 32 (if isLow s then s else -s).val

theorem length_of_verify {publicKey message signature : Bytes}
    (verified : verify publicKey message signature = .ok ()) : publicKey.length = keyLength := by
  unfold verify keyPoint at verified
  by_cases fits : publicKey.length = keyLength
  · exact fits
  · rw [if_neg fits] at verified
    cases verified

theorem signatureLength_of_verify {publicKey message signature : Bytes}
    (verified : verify publicKey message signature = .ok ()) :
    signature.length = signatureLength := by
  unfold verify at verified
  cases point : keyPoint publicKey with
  | error fault => rw [point] at verified; cases verified
  | ok key =>
    rw [point] at verified
    by_cases fits : signature.length = signatureLength
    · exact fits
    · simp [fits, bind, Except.bind] at verified

end Signatory.Ecdsa
