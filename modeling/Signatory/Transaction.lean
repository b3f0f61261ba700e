import Signatory.Operation

/-!
Transactions as clients submit them: a body, the signatures given for it, and the envelope that
carries the bytes of both. The signed bytes are those of the body as it arrived.
-/
namespace Signatory

structure TransactionId where
  payer : AccountId
  validStart : UInt64
  scheduled : Bool
deriving DecidableEq, Repr

structure TransactionBody where
  id : TransactionId
  nodeAccount : Option AccountId
  memo : String
  operation : Operation
deriving DecidableEq, Repr

def TransactionBody.payer (body : TransactionBody) : AccountId := body.id.payer

inductive SignatureKind where
  | key (scheme : Scheme)
  | contract
deriving DecidableEq, Repr

/-- A signature and the leading bytes of the public key it was made with, perhaps none. -/
structure SignaturePair where
  keyPrefix : Bytes
  kind : SignatureKind
  signature : Bytes
deriving DecidableEq, Repr

abbrev SignatureMap := List SignaturePair

structure Envelope where
  body : Bytes
  signatureMap : Bytes
deriving DecidableEq, Repr

end Signatory
