import Signatory.Record
import Signatory.Table

/-!
The status that records give a public key. Of several records with the same bytes the one that
decides most counts, whatever their schemes and their order.
-/
namespace Signatory

abbrev StatusMap := Table Bytes VerificationStatus

namespace StatusMap

def raise (statuses : StatusMap) (publicKey : Bytes) (status : VerificationStatus) : StatusMap :=
  Table.insert statuses publicKey
    (match Table.find? statuses publicKey with
    | none => status
    | some known => known.stronger status)

def ofRecords (records : List SignatureRecord) : StatusMap :=
  records.foldl (fun statuses record => raise statuses record.key.bytes record.status) []

def statusOf (statuses : StatusMap) (publicKey : Bytes) : Option VerificationStatus :=
  Table.find? statuses publicKey

theorem statusOf_raise (statuses : StatusMap) (publicKey other : Bytes)
    (status : VerificationStatus) :
    statusOf (raise statuses publicKey status) other =
      if publicKey = other then
        some (((statusOf statuses publicKey).map (·.stronger status)).getD status)
      else statusOf statuses other := by
  unfold statusOf raise
  rw [Table.find?_insert]
  cases Table.find? statuses publicKey <;> rfl

end StatusMap

end Signatory
