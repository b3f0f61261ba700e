import Signatory.Activation
import Signatory.RecordCreation
import Signatory.Resolver
import Signatory.Views

/-!
The check of a transaction that consensus has ordered. The payer and the other parties are judged
apart, and a party that cannot be told is reported and not an error. Keys required for a scheduled
operation are held against the bytes of that operation; they do not decide about the transaction,
but those that have signed are named.
-/
namespace Signatory

inductive ConsensusError where
  | records (cause : RecordError)
  | verifier (cause : VerifierError)
deriving DecidableEq, Repr

def ConsensusError.message : ConsensusError → String
  | .records cause => "Signature records unavailable: " ++ cause.message
  | .verifier cause => "Verification engine failure: " ++ cause.message

structure Verdict where
  payerActive : Bool
  othersActive : Bool
  /-- The public keys that signed the scheduled operation, in key order, each once. -/
  scheduledSignatories : List Bytes
  payerError : Option OrderError
  othersError : Option OrderError
deriving DecidableEq, Repr

def Verdict.isAuthorized (verdict : Verdict) : Bool := verdict.payerActive && verdict.othersActive

def validSignatories (keys : List Key) (statuses : StatusMap) : List Bytes :=
  let leaves := (keys.flatMap Key.leaves).map PublicKey.bytes
  (leaves.filter fun publicKey => StatusMap.statusOf statuses publicKey = some .valid).foldl
    (fun seen publicKey => if publicKey ∈ seen then seen else seen ++ [publicKey]) []

structure ConsensusCheck where
  resolver : Resolver
  collected : CollectedSignatures
  verifier : Verifier

namespace ConsensusCheck

def scheduledRecords (check : ConsensusCheck) (body : TransactionBody) (source : SignatureSource)
    (keys : List Key) : Except RecordError (List SignatureRecord) :=
  if keys.isEmpty then .ok []
  else do
    let found ← (check.resolver.scheduledOperation? body).mapError fun failure =>
      .scheduledOperation failure.message
    match found with
    | none => .error (.scheduledOperation "nothing is scheduled")
    | some operation =>
      let message ← operation.encode.mapError fun e => .scheduledOperation e.message
      (RecordCreation.ofKeys (.verifying source message) message keys).complete

def roleActive (order : SigningOrder) (keys : List Key) (statuses : StatusMap) : Bool :=
  order.isOk && allActive keys statuses

def verdict (check : ConsensusCheck) (transaction : AcceptedTransaction) :
    Except ConsensusError Verdict := do
  let body := transaction.body
  let payer := check.resolver.payerKeys body
  let others := check.resolver.otherKeys body
  let views := SignatureViews.of transaction check.collected
  let payerKeys := payer.keys.map RequiredKey.key
  let directKeys := (others.keys.filter (!·.forScheduled)).map RequiredKey.key
  let scheduledKeys := (others.keys.filter (·.forScheduled)).map RequiredKey.key
  let create (source : SignatureSource) (keys : List Key) :=
    (RecordCreation.ofKeys source transaction.signedBytes keys).complete
  let payerRecords ← (create views.payer payerKeys).mapError .records
  let directRecords ← (create views.others directKeys).mapError .records
  let scheduledRecords ←
    (check.scheduledRecords body views.others scheduledKeys).mapError .records
  let payerVerified ← (check.verifier payerRecords).mapError .verifier
  let directVerified ← (check.verifier directRecords).mapError .verifier
  let scheduledVerified ← (check.verifier scheduledRecords).mapError .verifier
  return {
    payerActive := roleActive payer payerKeys (.ofRecords payerVerified)
    othersActive := roleActive others directKeys (.ofRecords directVerified)
    scheduledSignatories := validSignatories scheduledKeys (.ofRecords scheduledVerified)
    payerError := payer.error?
    othersError := others.error? }

end ConsensusCheck

end Signatory
