import Signatory.Key
import Signatory.Record
import Signatory.SignatureSource

/-!
Records for the public keys that have to sign: one for each leaf that is there, in order, with the
signature that a source gives for it, or none. The parts of a record are addressed by words of 32
bits. A source that fails, or a part that is too long, ends the creation.
-/
namespace Signatory

inductive RecordError where
  | source (cause : SourceError)
  | oversized (length : Nat)
  | scheduledOperation (reason : String)
deriving DecidableEq, Repr

def RecordError.message : RecordError → String
  | .source cause => "Cannot source signature bytes: " ++ cause.message
  | .oversized length =>
    "Signature buffer of " ++ toString length ++ " bytes exceeds u32 addressing"
  | .scheduledOperation reason => "Scheduled operation unavailable for signing: " ++ reason

def addressed (length : Nat) : Except RecordError { word : UInt32 // word.toNat = length } :=
  if fits : length < UInt32.size then .ok ⟨.ofNatLT length fits, UInt32.toNat_ofNatLT⟩
  else .error (.oversized length)

/-- A record of no outcome. The signature and the message share a buffer. -/
def SignatureRecord.create (key : PublicKey) (signature message : Bytes) :
    Except RecordError SignatureRecord := do
  let _ ← addressed key.bytes.length
  let _ ← addressed signature.length
  let _ ← addressed message.length
  let _ ← addressed (signature.length + message.length)
  return .unverified key signature message

/-- The records made, and the error that ended their creation early, if one did. -/
structure RecordCreation where
  records : List SignatureRecord
  failure : Option RecordError
deriving DecidableEq, Repr

namespace RecordCreation

def recordFor (source : SignatureSource) (message : Bytes) (leaf : PublicKey) :
    Except RecordError (Option SignatureRecord) :=
  if leaf.isAbsent then .ok none
  else do
    let found ← (source.signature? leaf.bytes).mapError .source
    let record ← SignatureRecord.create leaf (found.getD []) message
    return some record

def ofLeaves (source : SignatureSource) (message : Bytes) : List PublicKey → RecordCreation
  | [] => ⟨[], none⟩
  | leaf :: leaves =>
    match recordFor source message leaf with
    | .error e => ⟨[], some e⟩
    | .ok made =>
      let rest := ofLeaves source message leaves
      ⟨made.toList ++ rest.records, rest.failure⟩

def ofKeys (source : SignatureSource) (message : Bytes) (keys : List Key) : RecordCreation :=
  ofLeaves source message (keys.flatMap Key.leaves)

def complete (creation : RecordCreation) : Except RecordError (List SignatureRecord) :=
  match creation.failure with
  | none => .ok creation.records
  | some e => .error e

end RecordCreation

end Signatory
