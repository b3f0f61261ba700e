import Signatory.Ledger
import Signatory.Proofs.Views
import Signatory.Proofs.Vouching

/-!
Keys that authorize a transaction. Main statements: authority grows with what is signed, for a key
that is satisfied stays so when more public keys are vouched for; and keys that authorize a
transaction apart authorize it together.
-/
namespace Signatory

theorem Vouched.mono {selected others : Bytes → Bytes → Prop} {signed publicKey : Bytes}
    {keys more : List Key} (vouched : Vouched selected signed keys publicKey)
    (within : keys ⊆ more)
    (carried : ∀ signature, selected publicKey signature → others publicKey signature) :
    Vouched others signed more publicKey := by
  obtain ⟨leaf, among, same, signature, counts, verified⟩ := vouched
  exact ⟨leaf, among.mono within, same, signature, carried signature counts, verified⟩

theorem Key.Satisfied.vouched_mono {selected others : Bytes → Bytes → Prop} {signed : Bytes}
    {keys more : List Key} {key : Key}
    (satisfied : key.Satisfied fun leaf => Vouched selected signed keys leaf.bytes)
    (within : keys ⊆ more)
    (carried : ∀ publicKey signature, selected publicKey signature → others publicKey signature) :
    key.Satisfied fun leaf => Vouched others signed more leaf.bytes := by
  apply satisfied.mono
  intro leaf _ vouched
  exact vouched.mono within (carried leaf.bytes)

namespace AcceptedTransaction

/-- The keys are all satisfied by what leaves among them vouch for on the transaction. -/
def Authorizes (transaction : AcceptedTransaction) (keys : List Key) : Prop :=
  ∀ key ∈ keys, key.Satisfied fun leaf =>
    Vouched transaction.Offers transaction.envelope.body keys leaf.bytes

variable {transaction : AcceptedTransaction} {keys more : List Key}

theorem read_of_vouched {signed publicKey : Bytes}
    (vouched : Vouched transaction.Offers signed keys publicKey) :
    ∃ pairs, SignatureMap.decode transaction.envelope.signatureMap = .ok pairs := by
  obtain ⟨_, _, _, _, ⟨pairs, read, _⟩, _⟩ := vouched
  exact ⟨pairs, read⟩

theorem Offers.length_le {pairs : SignatureMap} {bound : Nat} {publicKey signature : Bytes}
    (offered : transaction.Offers publicKey signature)
    (read : SignatureMap.decode transaction.envelope.signatureMap = .ok pairs)
    (short : ∀ pair ∈ pairs, pair.signature.length ≤ bound) : signature.length ≤ bound := by
  rw [offers_iff read] at offered
  obtain ⟨pair, member, _, rfl⟩ := offered.exists_pair
  exact short pair member

theorem Authorizes.exists_vouched (authorized : transaction.Authorizes keys) {key : Key}
    (member : key ∈ keys) : ∃ leaf, Key.Occurs (.simple leaf) key ∧
      Vouched transaction.Offers transaction.envelope.body keys leaf.bytes :=
  (authorized key member).signed_leaf

theorem Authorizes.read (authorized : transaction.Authorizes keys) (asked : keys ≠ []) :
    ∃ pairs, SignatureMap.decode transaction.envelope.signatureMap = .ok pairs := by
  obtain ⟨key, rest, rfl⟩ := List.exists_cons_of_ne_nil asked
  obtain ⟨leaf, _, vouched⟩ := authorized.exists_vouched (List.mem_cons_self ..)
  exact read_of_vouched vouched

theorem Authorizes.append (one : transaction.Authorizes keys) (two : transaction.Authorizes more) :
    transaction.Authorizes (keys ++ more) := by
  intro key member
  rw [List.mem_append] at member
  rcases member with here | there
  · exact (one key here).vouched_mono (List.subset_append_left ..) fun _ _ => id
  · exact (two key there).vouched_mono (List.subset_append_right ..) fun _ _ => id

end AcceptedTransaction

namespace Sample

def signer : PublicKey :=
  ⟨.secp256k1, toBigEndian 33 0x0279be667ef9dcbbac55a06295ce870b07029bfcdb2dce28d959f2815b16f81798⟩

def paymentBytes : Bytes := [0, 0, 2, 0, 0, 0, 0, 1, 2, 0, 0, 2, 1, 0, 0, 3, 2]

def paymentSignature : Bytes :=
  toBigEndian 64 0x9d93d5b361a8f4684542541d179290131ba13fccda9d08e56cd9ca5aec430d5c391f111e7d51ec8ac301fc24998a53152c0681fc94ec629bdcc72369846d63fe

theorem verifies_payment :
    signer.scheme.verifies signer.bytes paymentBytes paymentSignature = true := by
  decide +kernel

def payment : AcceptedTransaction :=
  ⟨⟨paymentBytes, [1, 0, 1, 64] ++ paymentSignature⟩,
    ⟨⟨⟨0, 0, 2⟩, 0, false⟩, none, "",
      .plain (.transfer [⟨⟨0, 0, 2⟩, -1⟩, ⟨⟨0, 0, 3⟩, 1⟩])⟩, by cbv⟩

theorem payment_read :
    SignatureMap.decode payment.envelope.signatureMap =
      .ok [⟨[], .key .secp256k1, paymentSignature⟩] := by
  cbv

theorem payment_offers (publicKey : Bytes) : payment.Offers publicKey paymentSignature := by
  refine ⟨_, payment_read, .first rfl (List.nil_append _).symm ⟨?_, List.nil_prefix⟩ (by simp)⟩
  simp

theorem payment_authorizes {keys : List Key} (own : ∀ key ∈ keys, key = .simple signer) :
    payment.Authorizes keys := by
  intro key member
  obtain rfl := own key member
  exact .simple ⟨signer, ⟨_, member, .here⟩, rfl, paymentSignature, payment_offers _,
    verifies_payment⟩

def ledger : Ledger :=
  ((LedgerTables.empty.putAccount ⟨0, 0, 2⟩ ⟨.simple signer, false⟩).putAccount ⟨0, 0, 3⟩
    ⟨.list [], false⟩).ledger

def freeze : AcceptedTransaction :=
  ⟨⟨[0, 0, 2, 0, 0, 0, 0, 19, 0], [1, 0, 0, 1, 7]⟩,
    ⟨⟨⟨0, 0, 2⟩, 0, false⟩, none, "", .plain (.freeze 0)⟩, by cbv⟩

def contractLedger : Ledger :=
  (LedgerTables.empty.putAccount ⟨0, 0, 2⟩ ⟨.list [.contract ⟨0, 0, 9⟩], false⟩).ledger

theorem not_overlong {selected : Bytes → Bytes → Prop} {message : Bytes} {keys : List Key}
    (own : ∀ key ∈ keys, key = .simple signer)
    (short : ∀ publicKey signature, selected publicKey signature → signature.length ≤ 64)
    (both : 64 + message.length < UInt32.size) (length : Nat) :
    ¬ RecordCreation.Overlong selected message keys length := by
  refine RecordCreation.not_overlong (fun leaf among => ?_) short both length
  obtain ⟨key, member, occurs⟩ := among
  obtain rfl := own key member
  cases occurs
  decide

theorem payment_not_overlong {keys : List Key} (own : ∀ key ∈ keys, key = .simple signer)
    (length : Nat) :
    ¬ RecordCreation.Overlong payment.Offers payment.envelope.body keys length :=
  not_overlong own (fun _ _ offered => offered.length_le payment_read (by decide)) (by decide)
    length

end Sample

end Signatory
