import Signatory.Proofs.Signatories

/-!
What a schedule collects over a run of submissions. After each verdict a caller stores signatures
over the scheduled operation for all who are named, and perhaps others; a stored signature may be
replaced, and the pairs of a later map come before what is stored. Main statement: whoever was
named once is named by every later verdict.
-/
namespace Signatory

theorem Scheme.eq_of_verifies {scheme other : Scheme} {publicKey message signature : Bytes}
    {text mark : Bytes} (one : scheme.verifies publicKey message signature = true)
    (two : other.verifies publicKey text mark = true) : scheme = other :=
  keyLength_inj ((length_of_verifies one).symm.trans (length_of_verifies two))

structure Contribution where
  schedule : ScheduleId
  publicKey : Bytes
  signature : Bytes
deriving DecidableEq, Repr

/-- What is added for the schedule verifies over the message; what is added for others may be
anything. -/
def Contribution.Sound (schedule : ScheduleId) (message : Bytes) (contribution : Contribution) :
    Prop :=
  contribution.schedule = schedule → ∃ scheme : Scheme,
    scheme.verifies contribution.publicKey message contribution.signature = true

namespace SignatureStore

def contribute (store : SignatureStore) (contribution : Contribution) : SignatureStore :=
  store.add contribution.schedule contribution.publicKey contribution.signature

def contributeAll (store : SignatureStore) (contributions : List Contribution) : SignatureStore :=
  contributions.foldl contribute store

theorem find?_signaturesFor_add (store : SignatureStore) (schedule other : ScheduleId)
    (publicKey signature key : Bytes) :
    Table.find? ((store.add schedule publicKey signature).signaturesFor other) key =
      if schedule = other ∧ publicKey = key then some signature
      else Table.find? (store.signaturesFor other) key := by
  rw [signaturesFor, add, Table.find?_insert]
  by_cases same : schedule = other
  · subst same
    simp only [↓reduceIte, Option.getD_some, Table.find?_insert, true_and]
  · simp only [same, ↓reduceIte, false_and]
    rfl

def Keeps (store : SignatureStore) (schedule : ScheduleId) (message : Bytes) (keys : List Key)
    (publicKey : Bytes) : Prop :=
  Vouched (fun publicKey signature =>
    Table.find? (store.signaturesFor schedule) publicKey = some signature) message keys publicKey

variable {store : SignatureStore} {schedule : ScheduleId} {message publicKey : Bytes}
  {keys : List Key}

theorem Keeps.contribute (keeps : store.Keeps schedule message keys publicKey)
    {contribution : Contribution} (sound : contribution.Sound schedule message) :
    (store.contribute contribution).Keeps schedule message keys publicKey := by
  obtain ⟨leaf, member, own, signature, stored, verified⟩ := keeps
  refine ⟨leaf, member, own, ?_⟩
  simp only [SignatureStore.contribute, find?_signaturesFor_add]
  -- a stored signature is only replaced by one that verifies as well, and by the same scheme
  by_cases replaced : contribution.schedule = schedule ∧ contribution.publicKey = publicKey
  · obtain ⟨scheme, verifies⟩ := sound replaced.1
    rw [replaced.2] at verifies
    rw [if_pos replaced]
    exact ⟨contribution.signature, rfl, Scheme.eq_of_verifies verifies verified ▸ verifies⟩
  · rw [if_neg replaced]
    exact ⟨signature, stored, verified⟩

theorem Keeps.contributeAll {contributions : List Contribution}
    (keeps : store.Keeps schedule message keys publicKey)
    (sound : ∀ contribution ∈ contributions, contribution.Sound schedule message) :
    (store.contributeAll contributions).Keeps schedule message keys publicKey := by
  induction contributions generalizing store with
  | nil => exact keeps
  | cons contribution rest ih =>
    rw [List.forall_mem_cons] at sound
    exact ih (keeps.contribute sound.1) sound.2

theorem keeps_of_contributed {selected : Bytes → Bytes → Prop} {contributions : List Contribution}
    (vouched : Vouched selected message keys publicKey)
    (covered : ∃ contribution ∈ contributions, contribution.schedule = schedule ∧
      contribution.publicKey = publicKey)
    (sound : ∀ contribution ∈ contributions, contribution.Sound schedule message) :
    (store.contributeAll contributions).Keeps schedule message keys publicKey := by
  induction contributions generalizing store with
  | nil => simp at covered
  | cons contribution rest ih =>
    rw [List.forall_mem_cons] at sound
    rw [List.exists_mem_cons_iff] at covered
    rcases covered with ⟨same, own⟩ | later
    · obtain ⟨leaf, member, bytes, _, _, verified⟩ := vouched
      obtain ⟨scheme, verifies⟩ := sound.1 same
      rw [own] at verifies
      have stored : Table.find? ((store.contribute contribution).signaturesFor schedule) publicKey =
          some contribution.signature :=
        (find?_signaturesFor_add ..).trans (if_pos ⟨same, own⟩)
      have kept : (store.contribute contribution).Keeps schedule message keys publicKey :=
        ⟨leaf, member, bytes, contribution.signature, stored,
          Scheme.eq_of_verifies verifies verified ▸ verifies⟩
      exact kept.contributeAll sound.2
    · exact ih later sound.2

end SignatureStore

namespace ConsensusCheck

variable {resolver : Resolver} {schedule : ScheduleId} {info : ScheduleInfo} {message : Bytes}
  {collected : CollectedSignatures} {transaction : AcceptedTransaction} {verdict : Verdict}

def signers (resolver : Resolver) (schedule : ScheduleId) (info : ScheduleInfo) : List Key :=
  RequiredKey.scheduledKeys
    (resolver.scheduledKeys info.scheduled info.payer (some schedule)).keys

theorem scheduledKeys_otherKeys (found : resolver.ledger.schedule schedule = .ok info)
    {body : TransactionBody} (signs : body.operation = .signSchedule schedule) :
    RequiredKey.scheduledKeys (resolver.otherKeys body).keys = signers resolver schedule info := by
  have resolved : resolver.otherKeys body =
      resolver.scheduledKeys info.scheduled info.payer (some schedule) := by
    simp only [Resolver.otherKeys_eq, Resolver.requiredKeys, signs, Ledger.partySchedule, found,
      Ledger.reporting]
    rfl
  rw [resolved, signers]

theorem mem_signatories_of_signs (found : resolver.ledger.schedule schedule = .ok info)
    (encoded : info.scheduled.encode = .ok message)
    (signs : transaction.body.operation = .signSchedule schedule)
    (returned : ConsensusCheck.verdict ⟨resolver, collected, batchVerifier⟩ transaction =
      .ok verdict) (publicKey : Bytes) :
    publicKey ∈ verdict.scheduledSignatories ↔
      Vouched (transaction.Gathers collected) message (signers resolver schedule info)
        publicKey := by
  have collects : Collects resolver transaction.body message := by
    refine ⟨by rw [signs]; rfl, info.scheduled, ?_, encoded⟩
    simp only [Resolver.scheduledOperation?, signs, found]
    rfl
  obtain ⟨_, _, _, reached⟩ := verdict_eq_ok_iff.mp returned
  rw [reached.mem_signatories_iff collects, scheduledKeys_otherKeys found signs]

/-- A run of submissions that sign the schedule: the store before it, the verdicts in order, and
the store after it. Each verdict is followed by contributions, one at least for everyone it
names. -/
inductive Submissions (resolver : Resolver) (schedule : ScheduleId) (message : Bytes)
    (start : SignatureStore) : List Verdict → SignatureStore → Prop where
  | none : Submissions resolver schedule message start [] start
  | next {verdicts : List Verdict} {store : SignatureStore} {transaction : AcceptedTransaction}
      {pairs : SignatureMap} {verdict : Verdict} {contributions : List Contribution}
      (earlier : Submissions resolver schedule message start verdicts store)
      (signs : transaction.body.operation = .signSchedule schedule)
      (read : SignatureMap.decode transaction.envelope.signatureMap = .ok pairs)
      (returned : ConsensusCheck.verdict ⟨resolver, store.signaturesFor, batchVerifier⟩
        transaction = .ok verdict)
      (covered : ∀ publicKey ∈ verdict.scheduledSignatories, ∃ contribution ∈ contributions,
        contribution.schedule = schedule ∧ contribution.publicKey = publicKey)
      (sound : ∀ contribution ∈ contributions, contribution.Sound schedule message) :
      Submissions resolver schedule message start (verdicts ++ [verdict])
        (store.contributeAll contributions)

variable {start store : SignatureStore} {verdicts : List Verdict}

theorem named_of_keeps (found : resolver.ledger.schedule schedule = .ok info)
    (encoded : info.scheduled.encode = .ok message)
    (signs : transaction.body.operation = .signSchedule schedule)
    (returned : ConsensusCheck.verdict ⟨resolver, store.signaturesFor, batchVerifier⟩ transaction =
      .ok verdict) {publicKey : Bytes}
    (keeps : store.Keeps schedule message (signers resolver schedule info) publicKey) :
    publicKey ∈ verdict.scheduledSignatories := by
  rw [mem_signatories_of_signs found encoded signs returned]
  exact keeps.mono (List.Subset.refl _) fun _ kept => .collected signs kept

theorem Submissions.keeps (found : resolver.ledger.schedule schedule = .ok info)
    (encoded : info.scheduled.encode = .ok message)
    (run : Submissions resolver schedule message start verdicts store) :
    ∀ verdict ∈ verdicts, ∀ publicKey ∈ verdict.scheduledSignatories,
      store.Keeps schedule message (signers resolver schedule info) publicKey := by
  induction run with
  | none => simp
  | @next verdicts store transaction pairs verdict contributions earlier signs read returned
      covered sound ih =>
    intro some listed publicKey named
    rcases List.mem_append.mp listed with before | last
    · exact (ih some before publicKey named).contributeAll sound
    · rw [List.mem_singleton.mp last] at named
      have vouched := (mem_signatories_of_signs found encoded signs returned publicKey).mp named
      exact SignatureStore.keeps_of_contributed vouched (covered publicKey named) sound

theorem Submissions.named_again (found : resolver.ledger.schedule schedule = .ok info)
    (encoded : info.scheduled.encode = .ok message)
    (run : Submissions resolver schedule message start verdicts store)
    (signs : transaction.body.operation = .signSchedule schedule)
    (returned : ConsensusCheck.verdict ⟨resolver, store.signaturesFor, batchVerifier⟩ transaction =
      .ok verdict) :
    ∀ earlier ∈ verdicts, earlier.scheduledSignatories ⊆ verdict.scheduledSignatories := by
  intro earlier member publicKey named
  have kept := run.keeps found encoded earlier member publicKey named
  exact named_of_keeps found encoded signs returned kept

/-- Over a run, from any store, the named are never fewer; and the verdict on a submission after it,
whatever its map, names them all. There is one, unless a record that is asked for is too long to be
made. If the parties of the scheduled operation cannot be told, or are not asked for, nobody is ever
named. -/
theorem signatories_never_lost (resolver : Resolver) (schedule : ScheduleId) (info : ScheduleInfo)
    (message : Bytes) (found : resolver.ledger.schedule schedule = .ok info)
    (encoded : info.scheduled.encode = .ok message) (start store : SignatureStore)
    (verdicts : List Verdict)
    (run : Submissions resolver schedule message start verdicts store) :
    (verdicts.Pairwise fun earlier later =>
      earlier.scheduledSignatories ⊆ later.scheduledSignatories) ∧
    ∀ (transaction : AcceptedTransaction) (pairs : SignatureMap),
      transaction.body.operation = .signSchedule schedule →
      SignatureMap.decode transaction.envelope.signatureMap = .ok pairs →
      (∀ verdict, ConsensusCheck.verdict ⟨resolver, store.signaturesFor, batchVerifier⟩
          transaction = .ok verdict →
        ∀ earlier ∈ verdicts, earlier.scheduledSignatories ⊆ verdict.scheduledSignatories) ∧
      ∀ e, ConsensusCheck.verdict ⟨resolver, store.signaturesFor, batchVerifier⟩ transaction =
          .error e →
        ∃ length, e = .records (.oversized length) ∧
          Unaddressable resolver store.signaturesFor transaction length := by
  constructor
  · induction run with
    | none => exact List.Pairwise.nil
    | next earlier signs read returned covered sound ih =>
      apply List.pairwise_append.mpr
      refine ⟨ih, List.pairwise_singleton _ _, ?_⟩
      intro one before two last
      rw [List.mem_singleton.mp last]
      exact earlier.named_again found encoded signs returned one before
  · intro transaction pairs signs read
    exact ⟨fun verdict returned => run.named_again found encoded signs returned,
      fun _ => unaddressable_of_error read⟩

theorem signer_named_again :
    ∃ one two store, Submissions Sample.scheduleResolver ⟨0, 0, 9⟩ Sample.freezeBytes .empty
        [one, two] store ∧
      Sample.signer.bytes ∈ one.scheduledSignatories ∧
      Sample.signer.bytes ∈ two.scheduledSignatories := by
  let stored : Contribution := ⟨⟨0, 0, 9⟩, Sample.signer.bytes, Sample.freezeSignature⟩
  have sound : ∀ contribution ∈ [stored], contribution.Sound ⟨0, 0, 9⟩ Sample.freezeBytes := by
    intro contribution member _
    rw [List.mem_singleton.mp member]
    exact ⟨.secp256k1, Sample.verifies_freeze⟩
  have short :
      Sample.CollectsShort (SignatureStore.empty.contributeAll [stored]).signaturesFor := by
    intro schedule publicKey signature kept
    have found := (SignatureStore.find?_signaturesFor_add .empty ⟨0, 0, 9⟩ schedule
      Sample.signer.bytes Sample.freezeSignature publicKey).symm.trans kept
    split at found
    · cases found
      decide
    · cases found
  obtain ⟨one, returned⟩ : ∃ verdict, ConsensusCheck.verdict ⟨Sample.scheduleResolver,
      SignatureStore.empty.signaturesFor, batchVerifier⟩ (Sample.approval Sample.signedMap) =
        .ok verdict :=
    Sample.approval_judged Sample.signedMap_read (by decide)
      (Sample.collectsShort_of_nothing fun _ => rfl)
  obtain ⟨two, again⟩ : ∃ verdict, ConsensusCheck.verdict ⟨Sample.scheduleResolver,
      (SignatureStore.empty.contributeAll [stored]).signaturesFor, batchVerifier⟩
      (Sample.approval Sample.wrongMap) = .ok verdict :=
    Sample.approval_judged Sample.wrongMap_read (by decide) short
  have run : Submissions Sample.scheduleResolver ⟨0, 0, 9⟩ Sample.freezeBytes .empty [one, two]
      ((SignatureStore.empty.contributeAll [stored]).contributeAll [stored]) := by
    refine .next (.next .none rfl Sample.signedMap_read returned (fun publicKey named => ?_) sound)
      rfl Sample.wrongMap_read again (fun publicKey named => ?_) sound
    · exact ⟨stored, List.mem_singleton_self _, rfl,
        (Sample.eq_signer_of_named returned publicKey named).symm⟩
    · exact ⟨stored, List.mem_singleton_self _, rfl,
        (Sample.eq_signer_of_named again publicKey named).symm⟩
  have named := Sample.named_of_submitted Sample.signedMap_read (List.mem_singleton_self _) returned
  have kept := (signatories_never_lost Sample.scheduleResolver ⟨0, 0, 9⟩ _ Sample.freezeBytes rfl
    (by cbv) _ _ _ run).1
  rw [List.pairwise_pair] at kept
  exact ⟨one, two, _, run, named, kept named⟩

end ConsensusCheck

end Signatory
