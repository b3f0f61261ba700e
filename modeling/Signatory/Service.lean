import Signatory.Consensus
import Signatory.Ingest

/-!
The signature checks of a node over one ledger: whole, as at ingest and at consensus, and step by
step.
-/
namespace Signatory

structure ServiceConfig where
  ingestScheduled : Bool
  consensusScheduled : Bool
  /-- How many threads verify; none means those of the process. -/
  threads : Nat
  node : AccountId
deriving DecidableEq, Repr

namespace ServiceConfig

def standard : ServiceConfig := ⟨false, true, 0, ⟨0, 0, 3⟩⟩

def small : ServiceConfig := { standard with threads := 2 }

end ServiceConfig

def Resolver.includesScheduledByDefault : Bool := true

structure Service where
  config : ServiceConfig
  ledger : Ledger
  collected : CollectedSignatures
  verifier : Verifier

namespace Service

def ingest (service : Service) : IngestCheck :=
  ⟨⟨service.ledger, service.config.ingestScheduled⟩, service.verifier, service.config.node⟩

def consensus (service : Service) : ConsensusCheck :=
  ⟨⟨service.ledger, service.config.consensusScheduled⟩, service.collected, service.verifier⟩

def admits (service : Service) (transaction : AcceptedTransaction) : Except IngestError Bool :=
  service.ingest.admits transaction

def verdict (service : Service) (transaction : AcceptedTransaction) :
    Except ConsensusError Verdict :=
  service.consensus.verdict transaction

def payerKeys (service : Service) (body : TransactionBody) : SigningOrder :=
  service.ingest.resolver.payerKeys body

def otherKeys (service : Service) (body : TransactionBody) : SigningOrder :=
  service.ingest.resolver.otherKeys body

def views (service : Service) (transaction : AcceptedTransaction) : SignatureViews :=
  .of transaction service.collected

def createRecords (_ : Service) (transaction : AcceptedTransaction) (keys : List RequiredKey)
    (source : SignatureSource) : RecordCreation :=
  .ofKeys source transaction.signedBytes (keys.map RequiredKey.key)

def verify (service : Service) (records : List SignatureRecord) :
    Except VerifierError (List SignatureRecord) :=
  service.verifier records

def isActive (_ : Service) (key : Key) (records : List SignatureRecord) (policy : Policy) : Bool :=
  key.isActive (StatusMap.statusOf (.ofRecords records)) policy

end Service

end Signatory
