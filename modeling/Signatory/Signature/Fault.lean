/-!
Why a key or a signature is refused. Whether a transaction is authorized depends only on whether
there is a fault; which one it is serves diagnosis.
-/
namespace Signatory

inductive SignatureFault where
  | keyLength (expected actual : Nat)
  | invalidKey
  | invalidSecret
  | signatureLength
  | signatureEncoding
  | mismatch
deriving DecidableEq, Repr

def SignatureFault.message : SignatureFault → String
  | .keyLength expected actual =>
    "public key must be " ++ toString expected ++ " bytes, got " ++ toString actual
  | .invalidKey => "public key is not a valid curve point"
  | .invalidSecret => "secret key is out of range"
  | .signatureLength => "signature must be 64 bytes"
  | .signatureEncoding => "signature encoding rejected"
  | .mismatch => "signature does not verify"

end Signatory
