import Signatory.Proofs.LeafOrder
import Signatory.Proofs.Verdicts

/-!
Who is named by a verdict as having signed the scheduled operation. Main statements: the signatories
named are just those keys of the scheduled operation that vouch for it, told from the signatures
gathered for it alone, each at the first of its leaves; and the list of those named is determined by
its members.
-/
namespace Signatory

/-- The values listed stand in the order of their first places, so that none is there twice. -/
def InFirstPlaces (places listed : List Bytes) : Prop :=
  listed.Pairwise fun a b => places.idxOf a < places.idxOf b

theorem InFirstPlaces.nodup {places listed : List Bytes} (ordered : InFirstPlaces places listed) :
    listed.Nodup :=
  List.Pairwise.imp (fun before same => absurd before (by simp [same])) ordered

theorem inFirstPlaces_concat {met rest listed : List Bytes} {value : Bytes}
    (ordered : InFirstPlaces (met ++ value :: rest) listed) (all : ∀ b ∈ listed, b ∈ met)
    (fresh : value ∉ met) : InFirstPlaces (met ++ value :: rest) (listed ++ [value]) := by
  refine List.pairwise_append.mpr ⟨ordered, List.pairwise_singleton _ _, fun b member c last => ?_⟩
  rw [List.mem_singleton.mp last, List.idxOf_append_of_mem (all b member),
    List.idxOf_append_of_notMem fresh]
  exact Nat.lt_of_lt_of_le (List.idxOf_lt_length_of_mem (all b member)) (Nat.le_add_right ..)

theorem foldl_distinct (property : Bytes → Bool) (rest met listed : List Bytes)
    (kept : ∀ b, b ∈ listed ↔ b ∈ met ∧ property b = true)
    (ordered : InFirstPlaces (met ++ rest) listed) :
    let distinct := (rest.filter property).foldl
      (fun seen value => if value ∈ seen then seen else seen ++ [value]) listed
    InFirstPlaces (met ++ rest) distinct ∧
      ∀ b, b ∈ distinct ↔ b ∈ met ++ rest ∧ property b = true := by
  -- `met` grows with each value, `listed` only with those that are kept.
  induction rest generalizing met listed with
  | nil => simpa using ⟨by simpa using ordered, kept⟩
  | cons value rest ih =>
    have next := ih (met ++ [value])
    simp only [List.append_assoc, List.singleton_append] at next
    have passed (known : property value = true → value ∈ listed) (b : Bytes) :
        b ∈ listed ↔ b ∈ met ++ [value] ∧ property b = true := by
      rw [kept, List.mem_append, List.mem_singleton]
      constructor
      · exact fun ⟨member, good⟩ => ⟨.inl member, good⟩
      · rintro ⟨member | rfl, good⟩
        · exact ⟨member, good⟩
        · exact (kept b).mp (known good)
    cases holds : property value with
    | false =>
      rw [List.filter_cons_of_neg (by simp [holds])]
      exact next listed (passed (by simp [holds])) ordered
    | true =>
      rw [List.filter_cons_of_pos holds, List.foldl_cons]
      split
      · rename_i seen
        exact next listed (passed fun _ => seen) ordered
      · rename_i fresh
        have unmet : value ∉ met := fun member => fresh ((kept value).mpr ⟨member, holds⟩)
        refine next (listed ++ [value]) (fun b => ?_)
          (inFirstPlaces_concat ordered (fun b member => ((kept b).mp member).1) unmet)
        rw [List.mem_append, kept, List.mem_append, List.mem_singleton, or_and_right]
        exact or_congr_right ⟨fun same => ⟨same, same ▸ holds⟩, And.left⟩

section Named

variable {keys : List Key} {statuses others : StatusMap}

theorem filter_present_leaves (keys : List Key) (valid : Bytes → Bool) (nobody : valid [] = false) :
    ((presentLeaves keys).map PublicKey.bytes).filter valid =
      ((keys.flatMap Key.leaves).map PublicKey.bytes).filter valid := by
  rw [presentLeaves, List.filter_map, List.filter_map, List.filter_filter]
  congr 1
  apply List.filter_congr
  intro leaf _
  cases absent : leaf.isAbsent with
  | false => simp
  | true =>
    have empty : leaf.bytes = [] := List.isEmpty_iff.mp absent
    simp [empty, nobody]

theorem inFirstPlaces_validSignatories (keys : List Key)
    (nobody : statuses.statusOf [] ≠ some .valid) :
    InFirstPlaces ((presentLeaves keys).map PublicKey.bytes) (validSignatories keys statuses) := by
  have passed := filter_present_leaves keys (fun b => statuses.statusOf b = some .valid)
    (by simpa using nobody)
  rw [validSignatories, ← passed]
  exact (foldl_distinct _ ((presentLeaves keys).map PublicKey.bytes) [] [] (by simp)
    List.Pairwise.nil).1

theorem mem_validSignatories (keys : List Key) (statuses : StatusMap) (publicKey : Bytes) :
    publicKey ∈ validSignatories keys statuses ↔
      (∃ leaf, Key.LeafAmong keys leaf ∧ leaf.bytes = publicKey) ∧
        statuses.statusOf publicKey = some .valid := by
  have distinct := (foldl_distinct (fun b => statuses.statusOf b = some .valid)
    ((keys.flatMap Key.leaves).map PublicKey.bytes) [] [] (by simp) List.Pairwise.nil).2 publicKey
  simp only [List.nil_append, decide_eq_true_iff, List.mem_map, Key.mem_flatMap_leaves_iff]
    at distinct
  exact distinct

theorem validSignatories_ext
    (same : ∀ publicKey, publicKey ∈ validSignatories keys statuses ↔
      publicKey ∈ validSignatories keys others) :
    validSignatories keys statuses = validSignatories keys others := by
  have kept : ((keys.flatMap Key.leaves).map PublicKey.bytes).filter
        (fun b => statuses.statusOf b = some .valid) =
      ((keys.flatMap Key.leaves).map PublicKey.bytes).filter
        (fun b => others.statusOf b = some .valid) := by
    apply List.filter_congr
    intro publicKey member
    obtain ⟨leaf, own, bytes⟩ := List.mem_map.mp member
    have among : ∃ leaf, Key.LeafAmong keys leaf ∧ leaf.bytes = publicKey :=
      ⟨leaf, (Key.mem_flatMap_leaves_iff keys leaf).mp own, bytes⟩
    have both := same publicKey
    rw [mem_validSignatories, mem_validSignatories, and_iff_right among,
      and_iff_right among] at both
    exact decide_eq_decide.mpr both
  simp only [validSignatories, kept]

theorem Vouched.leafAmong {selected : Bytes → Bytes → Prop} {signed publicKey : Bytes}
    (vouched : Vouched selected signed keys publicKey) :
    ∃ leaf, Key.LeafAmong keys leaf ∧ leaf.bytes = publicKey := by
  obtain ⟨leaf, among, same, _⟩ := vouched
  exact ⟨leaf, among, same⟩

theorem Vouched.ne_nil {selected : Bytes → Bytes → Prop} {signed : Bytes} :
    ¬ Vouched selected signed keys [] := by
  rintro ⟨leaf, _, empty, signature, _, verified⟩
  rw [← empty] at verified
  have present := PublicKey.not_isAbsent_of_verifies verified
  simp [PublicKey.isAbsent, empty] at present

variable {selected : Bytes → Bytes → Prop} {source : SignatureSource} {message : Bytes}
  {records : List SignatureRecord}

theorem mem_validSignatories_verified (serves : source.Serves message selected)
    (created : (RecordCreation.ofKeys source message keys).complete = .ok records)
    (publicKey : Bytes) :
    publicKey ∈ validSignatories keys (.ofRecords (records.map SignatureRecord.verify)) ↔
      Vouched selected message keys publicKey := by
  rw [mem_validSignatories, RecordCreation.statusOf_verified serves created]
  exact and_iff_right_of_imp Vouched.leafAmong

theorem inFirstPlaces_verified (serves : source.Serves message selected)
    (created : (RecordCreation.ofKeys source message keys).complete = .ok records) :
    InFirstPlaces ((presentLeaves keys).map PublicKey.bytes)
      (validSignatories keys (.ofRecords (records.map SignatureRecord.verify))) := by
  apply inFirstPlaces_validSignatories
  rw [Ne, RecordCreation.statusOf_verified serves created]
  exact Vouched.ne_nil

end Named

namespace ConsensusCheck

variable {resolver : Resolver} {collected elsewhere : CollectedSignatures}
  {transaction another : AcceptedTransaction} {verdict other : Verdict}
  {payerRecords directRecords scheduledRecords : List SignatureRecord}

theorem Reached.mem_signatories_iff (reached : Reached resolver collected transaction verdict
    payerRecords directRecords scheduledRecords) {message : Bytes}
    (collects : Collects resolver transaction.body message) (publicKey : Bytes) :
    publicKey ∈ verdict.scheduledSignatories ↔
      Vouched (transaction.Gathers collected) message
        (RequiredKey.scheduledKeys (resolver.otherKeys transaction.body).keys) publicKey := by
  obtain ⟨collects, scheduled, found, encoded⟩ := collects
  have created := reached.scheduled
  rw [scheduledBatch, scheduledRecords_of_encodes found encoded] at created
  rw [reached.signatories]
  exact mem_validSignatories_verified (SignatureViews.lists_others_of collects).serves created
    publicKey

theorem Reached.signatories_eq_nil (reached : Reached resolver collected transaction verdict
    payerRecords directRecords scheduledRecords)
    (collects : ∀ message, ¬ Collects resolver transaction.body message) :
    verdict.scheduledSignatories = [] := by
  have unscheduled : (∃ e, resolver.otherKeys transaction.body = .error e) ∨
      transaction.body.operation.collectsSignatures = false ∨
      resolver.includeScheduled = false := by
    by_contra scheduled
    simp only [not_or, not_exists, Bool.not_eq_false] at scheduled
    obtain ⟨resolves, collecting, included⟩ := scheduled
    cases resolved : resolver.otherKeys transaction.body with
    | error e => exact resolves e resolved
    | ok required =>
      obtain ⟨operation, message, _, found, encoded⟩ :=
        Resolver.scheduled_encodes included collecting resolved
      exact collects message ⟨collecting, operation, found, encoded⟩
  rw [reached.signatories, scheduledKeys_eq_nil unscheduled]
  rfl

theorem Reached.signatories_ext (reached : Reached resolver collected transaction verdict
    payerRecords directRecords scheduledRecords) {payers directs scheduleds : List SignatureRecord}
    (compared : Reached resolver elsewhere another other payers directs scheduleds)
    (sameBody : transaction.body = another.body)
    (same : ∀ publicKey, publicKey ∈ verdict.scheduledSignatories ↔
      publicKey ∈ other.scheduledSignatories) :
    verdict.scheduledSignatories = other.scheduledSignatories := by
  rw [reached.signatories, compared.signatories, sameBody] at same ⊢
  exact validSignatories_ext same

/-- Who is named by the verdict on a transaction whose map can be read. There is a verdict, unless a
record that is asked for is too long to be made. -/
theorem verdict_signatories (resolver : Resolver) (collected : CollectedSignatures)
    (transaction : AcceptedTransaction) (pairs : SignatureMap)
    (read : SignatureMap.decode transaction.envelope.signatureMap = .ok pairs) :
    (∀ e, ConsensusCheck.verdict ⟨resolver, collected, batchVerifier⟩ transaction = .error e →
      ∃ length, e = .records (.oversized length) ∧
        Unaddressable resolver collected transaction length) ∧
    ∀ verdict, ConsensusCheck.verdict ⟨resolver, collected, batchVerifier⟩ transaction =
        .ok verdict →
      (∀ required, resolver.includeScheduled = true →
        transaction.body.operation.collectsSignatures = true →
        resolver.otherKeys transaction.body = .ok required →
        ∃ scheduled message leaves, transaction.body.Schedules resolver.ledger scheduled ∧
          scheduled.encode = .ok message ∧
          verdict.scheduledSignatories.Nodup ∧
          DepthFirst (presentLeafOf? (RequiredKey.scheduledKeys required)) leaves ∧
          InFirstPlaces (leaves.map PublicKey.bytes) verdict.scheduledSignatories ∧
          ∀ publicKey, publicKey ∈ verdict.scheduledSignatories ↔
            Vouched (transaction.Gathers collected) message (RequiredKey.scheduledKeys required)
              publicKey) ∧
      ((∃ e, resolver.otherKeys transaction.body = .error e) ∨
        transaction.body.operation.collectsSignatures = false ∨
        resolver.includeScheduled = false → verdict.scheduledSignatories = []) := by
  refine ⟨fun _ => unaddressable_of_error read, fun verdict returned => ?_⟩
  obtain ⟨_, _, records, reached⟩ := verdict_eq_ok_iff.mp returned
  refine ⟨?_, fun unscheduled => ?_⟩
  · intro required included collects resolved
    obtain ⟨scheduled, message, schedules, found, encoded⟩ :=
      Resolver.scheduled_encodes included collects resolved
    have created := reached.scheduled
    rw [scheduledBatch, scheduledRecords_of_encodes found encoded] at created
    have named := reached.signatories
    rw [resolved, SigningOrder.keys_ok] at created named
    have serves : (SignatureSource.verifying (SignatureViews.of transaction collected).others
        message).Serves message (transaction.Gathers collected) :=
      (SignatureViews.lists_others_of collects).serves
    have ordered : InFirstPlaces _ verdict.scheduledSignatories :=
      named ▸ inFirstPlaces_verified serves created
    refine ⟨scheduled, message, _, schedules, encoded, ordered.nodup,
      depthFirst_presentLeaves _, ordered, fun publicKey => ?_⟩
    rw [named]
    exact mem_validSignatories_verified serves created publicKey
  · rw [reached.signatories, scheduledKeys_eq_nil unscheduled]
    rfl

end ConsensusCheck

namespace Sample

def freezeBytes : Bytes := [19, 0]

def freezeSignature : Bytes :=
  toBigEndian 64 0x6f6b888d993b84d29d7d40011c9b7551d23625a700562007cedb0062fb01554e7fb680826262c07b09278cb1c3441e433e9571e95a3a46985090b8f715d5748d

theorem verifies_freeze :
    signer.scheme.verifies signer.bytes freezeBytes freezeSignature = true := by
  decide +kernel

def scheduleResolver : Resolver :=
  ⟨((LedgerTables.empty.putAccount ⟨0, 0, 2⟩ ⟨.simple signer, false⟩).putSchedule ⟨0, 0, 9⟩
    ⟨none, ⟨0, 0, 2⟩, .plain (.freeze 0)⟩).ledger, true⟩

def approval (signatureMap : Bytes) : AcceptedTransaction :=
  ⟨⟨[0, 0, 2, 0, 0, 0, 0, 17, 0, 0, 9], signatureMap⟩,
    ⟨⟨⟨0, 0, 2⟩, 0, false⟩, none, "", .signSchedule ⟨0, 0, 9⟩⟩, by cbv⟩

theorem freeze_encodes : (Operation.plain (.freeze 0)).encode = .ok freezeBytes := by
  cbv

theorem approval_collects (signatureMap : Bytes) :
    ConsensusCheck.Collects scheduleResolver (approval signatureMap).body freezeBytes :=
  ⟨rfl, .plain (.freeze 0), rfl, freeze_encodes⟩

variable {signatureMap : Bytes} {collected : CollectedSignatures} {verdict : Verdict}

theorem named_of_submitted {pairs : SignatureMap}
    (read : SignatureMap.decode signatureMap = .ok pairs)
    (member : ⟨[], .key .secp256k1, freezeSignature⟩ ∈ pairs)
    (returned : ConsensusCheck.verdict ⟨scheduleResolver, collected, batchVerifier⟩
      (approval signatureMap) = .ok verdict) : signer.bytes ∈ verdict.scheduledSignatories := by
  obtain ⟨_, _, _, reached⟩ := ConsensusCheck.verdict_eq_ok_iff.mp returned
  rw [reached.mem_signatories_iff (approval_collects signatureMap)]
  exact ⟨signer, ⟨_, List.mem_singleton_self _, .here⟩, rfl, freezeSignature,
    .submitted read member ⟨by simp, List.nil_prefix⟩, verifies_freeze⟩

def signerCollected : CollectedSignatures := fun _ => [(signer.bytes, freezeSignature)]

def CollectsShort (collected : CollectedSignatures) : Prop :=
  ∀ schedule publicKey signature, Table.find? (collected schedule) publicKey = some signature →
    signature.length ≤ 64

theorem collectsShort_of_nothing (nothing : ∀ schedule, collected schedule = []) :
    CollectsShort collected := by
  intro schedule publicKey signature kept
  rw [nothing schedule] at kept
  cases kept

theorem collectsShort_signerCollected : CollectsShort signerCollected := by
  intro schedule publicKey signature kept
  rw [signerCollected, Table.find?_cons] at kept
  split at kept
  · cases kept
    decide
  · cases kept

theorem named_of_collected
    (returned : ConsensusCheck.verdict ⟨scheduleResolver, signerCollected, batchVerifier⟩
      (approval signatureMap) = .ok verdict) : signer.bytes ∈ verdict.scheduledSignatories := by
  obtain ⟨_, _, _, reached⟩ := ConsensusCheck.verdict_eq_ok_iff.mp returned
  rw [reached.mem_signatories_iff (approval_collects signatureMap)]
  exact ⟨signer, ⟨_, List.mem_singleton_self _, .here⟩, rfl, freezeSignature, .collected rfl rfl,
    verifies_freeze⟩

theorem eq_signer_of_named
    (returned : ConsensusCheck.verdict ⟨scheduleResolver, collected, batchVerifier⟩
      (approval signatureMap) = .ok verdict) :
    ∀ publicKey ∈ verdict.scheduledSignatories, publicKey = signer.bytes := by
  intro publicKey named
  obtain ⟨_, _, _, reached⟩ := ConsensusCheck.verdict_eq_ok_iff.mp returned
  rw [reached.mem_signatories_iff (approval_collects signatureMap)] at named
  obtain ⟨leaf, ⟨key, member, occurs⟩, rfl⟩ := named.leafAmong
  obtain rfl : key = .simple signer := List.mem_singleton.mp member
  cases occurs
  rfl

theorem approval_addressable {pairs : SignatureMap}
    (read : SignatureMap.decode signatureMap = .ok pairs)
    (submitted : ∀ pair ∈ pairs, pair.signature.length ≤ 64) (kept : CollectsShort collected)
    (length : Nat) :
    ¬ ConsensusCheck.Unaddressable scheduleResolver collected (approval signatureMap) length := by
  have gathered (publicKey signature : Bytes)
      (gathers : (approval signatureMap).Gathers collected publicKey signature) :
      signature.length ≤ 64 := by
    cases gathers with
    | submitted again member _ =>
      cases read.symm.trans again
      exact submitted _ member
    | collected _ found => exact kept _ _ _ found
  intro unaddressable
  cases unaddressable with
  | direct long =>
    have both : 64 + (approval signatureMap).envelope.body.length < UInt32.size :=
      (by decide : 64 + 11 < UInt32.size)
    exact not_overlong (fun _ => List.mem_singleton.mp)
      (fun _ _ offered => offered.length_le read submitted) both length long
  | scheduled collects long =>
    obtain ⟨_, operation, found, encoded⟩ := collects
    cases found
    cases freeze_encodes.symm.trans encoded
    exact not_overlong (fun _ => List.mem_singleton.mp) gathered (by decide) length long

theorem approval_judged {pairs : SignatureMap}
    (read : SignatureMap.decode signatureMap = .ok pairs)
    (submitted : ∀ pair ∈ pairs, pair.signature.length ≤ 64) (kept : CollectsShort collected) :
    ∃ verdict, ConsensusCheck.verdict ⟨scheduleResolver, collected, batchVerifier⟩
      (approval signatureMap) = .ok verdict :=
  ConsensusCheck.exists_verdict read (approval_addressable read submitted kept)

def signedMap : Bytes := [1, 0, 1, 64] ++ freezeSignature

theorem signedMap_read :
    SignatureMap.decode signedMap = .ok [⟨[], .key .secp256k1, freezeSignature⟩] := by
  cbv

def wrongMap : Bytes := [1, 0, 0, 1, 7]

theorem wrongMap_read : SignatureMap.decode wrongMap = .ok [⟨[], .key .ed25519, [7]⟩] := by
  cbv

end Sample

namespace ConsensusCheck

theorem signer_named_alone :
    (∃ verdict, ConsensusCheck.verdict ⟨Sample.scheduleResolver, fun _ => [], batchVerifier⟩
        (Sample.approval Sample.signedMap) = .ok verdict ∧
      verdict.scheduledSignatories = [Sample.signer.bytes]) ∧
    ∃ verdict, ConsensusCheck.verdict ⟨Sample.scheduleResolver, fun _ => [], batchVerifier⟩
        (Sample.approval Sample.wrongMap) = .ok verdict ∧
      verdict.scheduledSignatories = [] := by
  constructor
  · obtain ⟨verdict, returned⟩ : ∃ verdict, ConsensusCheck.verdict
        ⟨Sample.scheduleResolver, fun _ => [], batchVerifier⟩ (Sample.approval Sample.signedMap) =
          .ok verdict :=
      Sample.approval_judged Sample.signedMap_read (by decide)
        (Sample.collectsShort_of_nothing fun _ => rfl)
    have named := ((verdict_signatories _ _ _ _ Sample.signedMap_read).2 verdict returned).1
    obtain ⟨_, message, _, _, _, nodup, _⟩ := named _ rfl rfl rfl
    refine ⟨verdict, returned, List.perm_singleton.mp ?_⟩
    rw [List.perm_ext_iff_of_nodup nodup (List.nodup_singleton _)]
    intro publicKey
    rw [List.mem_singleton]
    constructor
    · exact Sample.eq_signer_of_named returned publicKey
    · rintro rfl
      exact Sample.named_of_submitted Sample.signedMap_read (List.mem_singleton_self _) returned
  · obtain ⟨verdict, returned⟩ : ∃ verdict, ConsensusCheck.verdict
        ⟨Sample.scheduleResolver, fun _ => [], batchVerifier⟩ (Sample.approval Sample.wrongMap) =
          .ok verdict :=
      Sample.approval_judged Sample.wrongMap_read (by decide)
        (Sample.collectsShort_of_nothing fun _ => rfl)
    have named := ((verdict_signatories _ _ _ _ Sample.wrongMap_read).2 verdict returned).1
    obtain ⟨_, message, _, schedules, encoded, _, _, _, exact⟩ := named _ rfl rfl rfl
    refine ⟨verdict, returned, List.eq_nil_iff_forall_not_mem.mpr fun publicKey member => ?_⟩
    obtain ⟨leaf, ⟨key, asked, occurs⟩, rfl, signature, gathered, verified⟩ :=
      (exact publicKey).mp member
    obtain rfl : key = .simple Sample.signer := List.mem_singleton.mp asked
    cases occurs
    cases schedules with
    | created creates => cases creates
    | kept signs found =>
      cases signs
      cases found
      cases Sample.freeze_encodes.symm.trans encoded
      cases gathered with
      | submitted again member _ =>
        cases Sample.wrongMap_read.symm.trans again
        rw [List.mem_singleton.mp member] at verified
        exact absurd (Scheme.signatureLength_of_verifies verified) (by decide)
      | collected _ kept => cases kept

end ConsensusCheck

end Signatory
