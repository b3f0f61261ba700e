import Signatory.SignatureSource

/-!
Accepted transactions, and the signatures that each party of one may use. The body is read when the
transaction is accepted, and its signed bytes are those that arrived; the signature map is read
only when a signature is looked for.
-/
namespace Signatory

/-- A transaction whose body was read from the bytes of its envelope. -/
structure AcceptedTransaction where
  envelope : Envelope
  body : TransactionBody
  body_read : TransactionBody.decode envelope.body = .ok body

namespace AcceptedTransaction

def ofEnvelope (envelope : Envelope) : Except TransactionError AcceptedTransaction :=
  match read : TransactionBody.decode envelope.body with
  | .ok body => .ok ⟨envelope, body, read⟩
  | .error e => .error e

def ofBytes (bytes : Bytes) : Except TransactionError AcceptedTransaction := do
  ofEnvelope (← Envelope.decode bytes)

def signedBytes (transaction : AcceptedTransaction) : Bytes := transaction.envelope.body

def signatureMap (transaction : AcceptedTransaction) : SignatureSource :=
  .ofBytes transaction.envelope.signatureMap

end AcceptedTransaction

/-- What schedules have collected: for each, signatures under full public keys. -/
abbrev CollectedSignatures := ScheduleId → Table Bytes Bytes

structure SignatureViews where
  payer : SignatureSource
  others : SignatureSource
  all : SignatureSource

namespace SignatureViews

def ofMap (transaction : AcceptedTransaction) : SignatureViews :=
  ⟨transaction.signatureMap, transaction.signatureMap, transaction.signatureMap⟩

/-- Everyone prefers what verifies over the body, so that a key that signed the scheduled operation
as well is not taken at its wrong signature. Other parties may use collected signatures too. -/
def ofSchedule (transaction : AcceptedTransaction) (collected : Table Bytes Bytes) :
    SignatureViews :=
  let payer : SignatureSource := .verifying transaction.signatureMap transaction.signedBytes
  let others : SignatureSource := .verifying
    (.chained transaction.signatureMap (.accumulated collected)) transaction.signedBytes
  ⟨payer, others, .chained payer others⟩

/-- Signing a schedule makes use of what it has collected; creating one finds nothing there. -/
def ofCollected (transaction : AcceptedTransaction) (collected : CollectedSignatures) :
    SignatureViews :=
  match transaction.body.operation with
  | .signSchedule schedule => ofSchedule transaction (collected schedule)
  | .plain _ | .createSchedule .. | .deleteSchedule _ => ofSchedule transaction []

def of (transaction : AcceptedTransaction) (collected : CollectedSignatures) : SignatureViews :=
  if transaction.body.operation.collectsSignatures then ofCollected transaction collected
  else ofMap transaction

def uncollected (transaction : AcceptedTransaction) : SignatureViews :=
  if transaction.body.operation.collectsSignatures then ofSchedule transaction []
  else ofMap transaction

end SignatureViews

end Signatory
