import Signatory.Signature.Verification
import Signatory.Table
import Signatory.Wire.Transaction

/-!
Where the signature of a public key comes from. A map gives the signatures whose key prefix the
public key starts with, in order, and never those of contracts. Sources can be chained, and the
signatures of a source can be put in the order of what verifies. A source answers with its first
signature or with all of them; a map that cannot be read answers every question with its fault.
-/
namespace Signatory

inductive SourceError where
  | malformedMap (cause : TransactionError)
deriving DecidableEq, Repr

def SourceError.message : SourceError → String
  | .malformedMap cause => "Malformed signature map: " ++ cause.message

inductive SignatureSource where
  | map (pairs : Except SourceError SignatureMap)
  | accumulated (signatures : Table Bytes Bytes)
  | chained (first second : SignatureSource)
  | verifying (source : SignatureSource) (signed : Bytes)

namespace SignaturePair

def signatureFor? (publicKey : Bytes) (pair : SignaturePair) : Option Bytes :=
  match pair.kind with
  | .contract => none
  | .key _ => if pair.keyPrefix.isPrefixOf publicKey then some pair.signature else none

end SignaturePair

def SignatureMap.matching (pairs : SignatureMap) (publicKey : Bytes) : List Bytes :=
  pairs.filterMap (SignaturePair.signatureFor? publicKey)

/-- Moves the first value with the property to the front, if there is one. -/
def promoteFirst {α : Type} (property : α → Bool) (values : List α) : List α :=
  match values.span fun value => !property value with
  | (before, found :: after) => found :: before ++ after
  | (_, []) => values

namespace SignatureSource

def ofBytes (bytes : Bytes) : SignatureSource :=
  .map ((SignatureMap.decode bytes).mapError .malformedMap)

/-- Whether `signature` by `publicKey` verifies, by the scheme that the length of the key tells. -/
def verifiesByLength (publicKey signed signature : Bytes) : Bool :=
  match Scheme.ofLength? publicKey with
  | some scheme => scheme.verifies publicKey signed signature
  | none => false

def candidates (publicKey : Bytes) : SignatureSource → Except SourceError (List Bytes)
  | .map pairs => do return (← pairs).matching publicKey
  | .accumulated signatures => .ok (Table.find? signatures publicKey).toList
  | .chained first second => do
    let preferred ← candidates publicKey first
    return preferred ++ (← candidates publicKey second)
  | .verifying source signed => do
    return promoteFirst (verifiesByLength publicKey signed) (← candidates publicKey source)

/-- The signature to use for `publicKey`. Of chained sources the second is asked only if the first
has none. -/
def signature? (publicKey : Bytes) : SignatureSource → Except SourceError (Option Bytes)
  | .map pairs => do return (← pairs).findSome? (SignaturePair.signatureFor? publicKey)
  | .accumulated signatures => .ok (Table.find? signatures publicKey)
  | .chained first second => do
    match ← signature? publicKey first with
    | some signature => return some signature
    | none => signature? publicKey second
  | .verifying source signed => do
    return (← candidates publicKey (.verifying source signed)).head?

end SignatureSource

end Signatory
