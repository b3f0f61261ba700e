import Signatory.Proofs.Arrival
import Signatory.Proofs.Preference

/-!
The views of a transaction that creates or signs a schedule. Each is to prefer what verifies over the
signed bytes: if it lists a signature that does, it gives one that does. Main statement: the view of
the payer and that of the other parties do so, and the view for all parties does as long as nothing
has been collected; with collected signatures it does so but for one case, where the map has only
wrong signatures for a key and a right one has been collected. A preference within each of two views
is none among both.
-/
namespace Signatory

namespace SignatureSource

/-- If one of the signatures listed for the public key has the property, the one given has it. -/
def Prefers (source : SignatureSource) (publicKey : Bytes) (property : Bytes → Prop) : Prop :=
  ∃ listed, source.candidates publicKey = .ok listed ∧
    ((∃ signature ∈ listed, property signature) →
      ∃ given, source.signature? publicKey = .ok (some given) ∧ property given)

theorem AnswersFrom.prefers_iff {source : SignatureSource} {listed : Bytes → List Bytes}
    (answers : source.AnswersFrom listed) (publicKey : Bytes) (property : Bytes → Prop) :
    source.Prefers publicKey property ↔
      ((∃ signature ∈ listed publicKey, property signature) →
        ∃ given, (listed publicKey).head? = some given ∧ property given) := by
  simp only [Prefers, (answers publicKey).1, (answers publicKey).2, Except.ok.injEq,
    exists_eq_left']

end SignatureSource

section Joined

variable {property : Bytes → Bool} {first kept : List Bytes}

/-- Only signatures behind the first ones have the property, and there are some before them. -/
structure Shadowed (property : Bytes → Prop) (first kept : List Bytes) : Prop where
  before : first ≠ []
  fails : ∀ signature ∈ first, ¬ property signature
  behind : ∃ signature ∈ kept, property signature

theorem prefers_promoteFirst (property : Bytes → Bool) (listed : List Bytes) :
    (∃ signature ∈ promoteFirst property listed, property signature = true) →
      ∃ given, (promoteFirst property listed).head? = some given ∧ property given = true := by
  rintro ⟨signature, member, holds⟩
  exact head?_promoteFirst property listed ((mem_promoteFirst ..).mp member) holds

theorem prefers_joined_iff :
    ((∃ signature ∈ promoteFirst property first ++ promoteFirst property (first ++ kept),
        property signature = true) →
      ∃ given, (promoteFirst property first ++ promoteFirst property (first ++ kept)).head? =
        some given ∧ property given = true) ↔
      ¬ Shadowed (property · = true) first kept := by
  constructor
  · rintro prefers ⟨before, fails, signature, member, holds⟩
    have listed : signature ∈ promoteFirst property (first ++ kept) :=
      (mem_promoteFirst ..).mpr (List.mem_append_right first member)
    obtain ⟨given, ahead, good⟩ := prefers ⟨signature, List.mem_append_right _ listed, holds⟩
    have unmoved : promoteFirst property first = first :=
      (FirstMoved.kept fails).eq_promoteFirst.symm
    rw [unmoved, List.head?_append_of_ne_nil _ before] at ahead
    exact fails given (List.mem_of_head? ahead) good
  · rintro free ⟨signature, member, holds⟩
    simp only [List.mem_append, mem_promoteFirst] at member
    by_cases fails : ∀ other ∈ first, ¬ property other = true
    · have later : signature ∈ kept := by
        rcases member with early | early | later
        · exact absurd holds (fails signature early)
        · exact absurd holds (fails signature early)
        · exact later
      have none : first = [] := by
        by_contra before
        exact free ⟨before, fails, signature, later, holds⟩
      subst none
      exact head?_promoteFirst property kept later holds
    · simp only [not_forall, not_not] at fails
      obtain ⟨other, early, good⟩ := fails
      obtain ⟨given, ahead, best⟩ := head?_promoteFirst property first early good
      refine ⟨given, ?_, best⟩
      rw [List.head?_append, ahead]
      rfl

end Joined

namespace SignatureViews

variable {views : SignatureViews} {operation : Operation} {signed : Bytes} {pairs : SignatureMap}
  {kept : Bytes → List Bytes}

theorem AnswerFrom.prefers (answer : views.AnswerFrom operation signed pairs kept)
    (collects : operation.collectsSignatures = true) (publicKey : Bytes) :
    let Verified := SignatureSource.VerifiesByKeyLength publicKey signed
    views.payer.Prefers publicKey Verified ∧ views.others.Prefers publicKey Verified ∧
      (views.all.Prefers publicKey Verified ↔
        ¬ Shadowed Verified (pairs.matching publicKey) (kept publicKey)) := by
  intro Verified
  have told : Verified = (SignatureSource.verifiesByLength publicKey signed · = true) :=
    funext fun signature => propext (SignatureSource.verifiesByLength_iff ..).symm
  obtain ⟨payer, others, all⟩ := answer.collecting collects
  rw [told, payer.prefers_iff, others.prefers_iff, all.prefers_iff]
  exact ⟨prefers_promoteFirst _ _, prefers_promoteFirst _ _, prefers_joined_iff⟩

end SignatureViews

namespace Sample

def approvalSignature : Bytes :=
  toBigEndian 64 0x7f33c110f84ac1108bdac93302ef8c522f901135a54f4d94bb6d7d790f6d313d6d0d55466c310b8722591c064d21c49479befb8a2593ce7f0370ace8468f9516

def wrongApproval : AcceptedTransaction := approval [1, 0, 0, 1, 7]

def approvalCollected : CollectedSignatures := fun schedule =>
  if schedule = ⟨0, 0, 9⟩ then [(signer.bytes, approvalSignature)] else []

theorem verifies_approval : SignatureSource.VerifiesByKeyLength signer.bytes
    wrongApproval.signedBytes approvalSignature :=
  ⟨.secp256k1, by decide, by decide +kernel⟩

theorem wrong_approval : ¬ SignatureSource.VerifiesByKeyLength signer.bytes
    wrongApproval.signedBytes [7] := by
  rintro ⟨scheme, _, verified⟩
  exact absurd (Scheme.signatureLength_of_verifies verified) (by decide)

theorem wrongApproval_read :
    SignatureMap.decode wrongApproval.envelope.signatureMap = .ok [⟨[], .key .ed25519, [7]⟩] := by
  cbv

theorem wrongApproval_kept :
    wrongApproval.body.operation.kept approvalCollected signer.bytes = [approvalSignature] := by
  decide

end Sample

namespace SignatureViews

/-- The views of a transaction whose map can be read, whatever schedules have collected, for every
public key; and the view for all parties at ingest. -/
theorem schedule_views_prefer (transaction : AcceptedTransaction)
    (collected : CollectedSignatures) (pairs : SignatureMap)
    (read : SignatureMap.decode transaction.envelope.signatureMap = .ok pairs)
    (collects : transaction.body.operation.collectsSignatures = true) (publicKey : Bytes) :
    let views := SignatureViews.of transaction collected
    let Verified := SignatureSource.VerifiesByKeyLength publicKey transaction.signedBytes
    views.payer.Prefers publicKey Verified ∧
    views.others.Prefers publicKey Verified ∧
    (views.all.Prefers publicKey Verified ↔
      ¬ Shadowed Verified (pairs.matching publicKey)
        (transaction.body.operation.kept collected publicKey)) ∧
    (uncollected transaction).all.Prefers publicKey Verified := by
  obtain ⟨payer, others, all⟩ := (answerFrom_of read collected).prefers collects publicKey
  refine ⟨payer, others, all, ?_⟩
  rw [((answerFrom_uncollected read).prefers collects publicKey).2.2]
  rintro ⟨_, _, signature, member, _⟩
  cases member

theorem approval_views_prefer :
    let views := SignatureViews.of Sample.wrongApproval Sample.approvalCollected
    let Verified := SignatureSource.VerifiesByKeyLength Sample.signer.bytes
      Sample.wrongApproval.signedBytes
    Sample.wrongApproval.body.operation.collectsSignatures = true ∧
    views.payer.Prefers Sample.signer.bytes Verified ∧
    views.others.Prefers Sample.signer.bytes Verified ∧
    ¬ views.all.Prefers Sample.signer.bytes Verified ∧
    (uncollected Sample.wrongApproval).all.Prefers Sample.signer.bytes Verified := by
  intro views Verified
  obtain ⟨payer, others, all, alone⟩ := schedule_views_prefer Sample.wrongApproval
    Sample.approvalCollected _ Sample.wrongApproval_read rfl Sample.signer.bytes
  refine ⟨rfl, payer, others, fun prefers => all.mp prefers ⟨?_, ?_, ?_⟩, alone⟩
  · exact List.cons_ne_nil [7] []
  · intro signature member
    rw [List.mem_singleton.mp member]
    exact Sample.wrong_approval
  · rw [Sample.wrongApproval_kept]
    exact ⟨_, List.mem_singleton_self _, Sample.verifies_approval⟩

/-- The view for all parties lists a signature that verifies, and gives another that does not. -/
theorem all_view_gives_wrong_signature :
    let view := (SignatureViews.of Sample.wrongApproval Sample.approvalCollected).all
    let Verified := SignatureSource.VerifiesByKeyLength Sample.signer.bytes
      Sample.wrongApproval.signedBytes
    Sample.wrongApproval.body.operation = .signSchedule ⟨0, 0, 9⟩ ∧
    SignatureMap.decode Sample.wrongApproval.envelope.signatureMap =
      .ok [⟨[], .key .ed25519, [7]⟩] ∧
    Sample.signer.bytes.length = Scheme.secp256k1.keyLength ∧
    (∃ listed, view.candidates Sample.signer.bytes = .ok listed ∧
      ∃ signature ∈ listed, Verified signature) ∧
    view.signature? Sample.signer.bytes = .ok (some [7]) ∧ ¬ Verified [7] := by
  intro view Verified
  obtain ⟨_, _, all⟩ := (answerFrom_of Sample.wrongApproval_read
    Sample.approvalCollected).collecting rfl
  obtain ⟨listed, given⟩ := all Sample.signer.bytes
  have unmoved : promoteFirst (SignatureSource.verifiesByLength Sample.signer.bytes
      Sample.wrongApproval.signedBytes) [[7]] = [[7]] := by
    refine (FirstMoved.kept fun signature member => ?_).eq_promoteFirst.symm
    rw [List.mem_singleton.mp member, SignatureSource.verifiesByLength_iff]
    exact Sample.wrong_approval
  have matched : SignatureMap.matching [⟨[], .key .ed25519, [7]⟩] Sample.signer.bytes = [[7]] := rfl
  simp only [matched, unmoved, Sample.wrongApproval_kept] at listed given
  refine ⟨rfl, Sample.wrongApproval_read, by decide, ⟨_, listed, Sample.approvalSignature, ?_,
    Sample.verifies_approval⟩, given, Sample.wrong_approval⟩
  apply List.mem_append_right
  rw [mem_promoteFirst]
  exact List.mem_append_right _ (List.mem_singleton_self _)

end SignatureViews

end Signatory
