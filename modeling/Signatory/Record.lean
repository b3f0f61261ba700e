import Signatory.Signature.Verification

/-!
Signature records: a public key, the signature found for it, and the message it should be over. A
record is unknown until an outcome is recorded, which happens once. Main statement: verifying a
batch never fails, and leaves no record unknown.
-/
namespace Signatory

inductive VerificationStatus where
  | unknown
  | invalid
  | valid
deriving DecidableEq, Repr

namespace VerificationStatus

def isTerminal : VerificationStatus → Bool
  | .unknown => false
  | .invalid | .valid => true

def rank : VerificationStatus → Nat
  | .unknown => 0
  | .invalid => 1
  | .valid => 2

def stronger (a b : VerificationStatus) : VerificationStatus := if a.rank < b.rank then b else a

end VerificationStatus

structure SignatureRecord where
  key : PublicKey
  signature : Bytes
  message : Bytes
  status : VerificationStatus
deriving DecidableEq, Repr

namespace SignatureRecord

def unverified (key : PublicKey) (signature message : Bytes) : SignatureRecord :=
  ⟨key, signature, message, .unknown⟩

def contents (record : SignatureRecord) : Bytes := record.signature ++ record.message

def accepts (record : SignatureRecord) (outcome : VerificationStatus) : Bool :=
  !record.status.isTerminal && outcome.isTerminal

def settle (record : SignatureRecord) (outcome : VerificationStatus) : SignatureRecord :=
  if record.accepts outcome then { record with status := outcome } else record

def verifies (record : SignatureRecord) : Bool :=
  record.key.scheme.verifies record.key.bytes record.message record.signature

def verify (record : SignatureRecord) : SignatureRecord :=
  if record.status.isTerminal then record
  else record.settle (if record.verifies then .valid else .invalid)

theorem isTerminal_verify (record : SignatureRecord) :
    record.verify.status.isTerminal = true := by
  cases known : record.status <;> cases verified : record.verifies <;>
    simp [verify, settle, accepts, known, verified, VerificationStatus.isTerminal]

end SignatureRecord

/-- A failure of verification itself, not of a signature. -/
inductive VerifierError where
  | unavailable (reason : String)
  | incomplete (count : Nat)
deriving DecidableEq, Repr

def VerifierError.message : VerifierError → String
  | .unavailable reason => "Verifier thread pool unavailable: " ++ reason
  | .incomplete count => "Verifier left " ++ toString count ++ " signatures unverified"

abbrev Verifier := List SignatureRecord → Except VerifierError (List SignatureRecord)

def batchVerifier : Verifier := fun records =>
  let verified := records.map SignatureRecord.verify
  let left := verified.countP fun record => !record.status.isTerminal
  if left = 0 then .ok verified else .error (.incomplete left)

theorem batchVerifier_eq (records : List SignatureRecord) :
    batchVerifier records = .ok (records.map SignatureRecord.verify) := by
  have none_left : (records.map SignatureRecord.verify).countP
      (fun record => !record.status.isTerminal) = 0 := by
    simp [List.countP_eq_zero, SignatureRecord.isTerminal_verify]
  simp [batchVerifier, none_left]

end Signatory
