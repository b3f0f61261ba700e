import Signatory.Activation
import Signatory.RecordCreation
import Signatory.Resolver
import Signatory.Views

/-!
The check of a transaction before it is submitted to consensus. It asks for the payer's signature
and, since a node is paid directly for a query, for everyone's on a query payment. An unknown payer
is a refusal; another party that cannot be told is an error. Collected signatures do not count.
-/
namespace Signatory

inductive IngestError where
  | missingParty (account : AccountId)
  | unresolvable (cause : OrderError)
  | records (cause : RecordError)
  | verifier (cause : VerifierError)
deriving DecidableEq, Repr

namespace IngestError

def message : IngestError → String
  | .missingParty account => "Account " ++ account.text ++ " does not exist"
  | .unresolvable cause => "Signing requirements unresolvable: " ++ cause.message
  | .records cause => "Signature records unavailable: " ++ cause.message
  | .verifier cause => "Verification engine failure: " ++ cause.message

def ofOrderError (e : OrderError) : IngestError :=
  match e with
  | ⟨.missingAccount, some ⟨.account, id⟩⟩ => .missingParty id
  | _ => .unresolvable e

end IngestError

def TransactionBody.isQueryPayment (node : AccountId) (body : TransactionBody) : Bool :=
  match body.operation with
  | .plain (.transfer transfers) => transfers.any fun transfer =>
    transfer.account = node && transfer.amount > 0
  | _ => false

structure IngestCheck where
  resolver : Resolver
  verifier : Verifier
  node : AccountId

namespace IngestCheck

def furtherKeys (check : IngestCheck) (body : TransactionBody) :
    Except IngestError (List RequiredKey) :=
  if body.isQueryPayment check.node then
    (check.resolver.otherKeys body).mapError .ofOrderError
  else .ok []

def satisfied (check : IngestCheck) (transaction : AcceptedTransaction) (keys : List Key) :
    Except IngestError Bool := do
  let created := RecordCreation.ofKeys (SignatureViews.uncollected transaction).all
    transaction.signedBytes keys
  let records ← created.complete.mapError .records
  let verified ← (check.verifier records).mapError .verifier
  return allActive keys (.ofRecords verified)

def admits (check : IngestCheck) (transaction : AcceptedTransaction) : Except IngestError Bool :=
  match check.resolver.payerKeys transaction.body with
  | .error _ => .ok false
  | .ok payer => do
    let others ← check.furtherKeys transaction.body
    check.satisfied transaction ((payer ++ others).map RequiredKey.key)

end IngestCheck

end Signatory
