import Signatory.PublicKey
import Signatory.Signature.Ecdsa
import Signatory.Signature.Ed25519

/-!
Verification under either scheme. Main statement: only under a public key of the length of its
scheme does any signature verify, and never an empty one.
-/
namespace Signatory

namespace Scheme

def verify (scheme : Scheme) (publicKey message signature : Bytes) : Except SignatureFault Unit :=
  match scheme with
  | .ed25519 => Ed25519.verify publicKey message signature
  | .secp256k1 => Ecdsa.verify publicKey message signature

def verifies (scheme : Scheme) (publicKey message signature : Bytes) : Bool :=
  match scheme.verify publicKey message signature with
  | .ok _ => true
  | .error _ => false

theorem length_of_verifies {scheme : Scheme} {publicKey message signature : Bytes}
    (verified : scheme.verifies publicKey message signature = true) :
    publicKey.length = scheme.keyLength := by
  unfold verifies at verified
  split at verified
  case h_1 _ _ outcome =>
    cases scheme <;> simp only [verify] at outcome
    · exact Ed25519.length_of_verify outcome
    · exact Ecdsa.length_of_verify outcome
  case h_2 => cases verified

theorem signatureLength_of_verifies {scheme : Scheme} {publicKey message signature : Bytes}
    (verified : scheme.verifies publicKey message signature = true) : signature.length = 64 := by
  unfold verifies at verified
  split at verified
  case h_1 _ _ outcome =>
    cases scheme <;> simp only [verify] at outcome
    · exact Ed25519.signatureLength_of_verify outcome
    · exact Ecdsa.signatureLength_of_verify outcome
  case h_2 => cases verified

theorem signature_ne_nil_of_verifies {scheme : Scheme} {publicKey message signature : Bytes}
    (verified : scheme.verifies publicKey message signature = true) : signature ≠ [] := by
  rintro rfl
  exact absurd (signatureLength_of_verifies verified) (by decide)

theorem keyLength_inj {scheme other : Scheme} (same : scheme.keyLength = other.keyLength) :
    scheme = other := by
  cases scheme <;> cases other <;> first | rfl | exact absurd same (by decide)

end Scheme

end Signatory
