import Mathlib.Data.List.TakeDrop
import Mathlib.Data.List.TakeWhile
import Signatory.SignatureSource

/-!
Which signatures count for a public key, and what a source makes of them. A source may be asked for
one signature only, and the scheme it prefers by is a guess from the length of the key; still, what
it gives verifies under a scheme whenever one of the signatures it lists does. Main statements: a
source that prefers what verifies serves all that it lists, and a readable source never fails.
-/
namespace Signatory

namespace SignaturePair

def Fits (publicKey : Bytes) (pair : SignaturePair) : Prop :=
  pair.kind ≠ .contract ∧ pair.keyPrefix <+: publicKey

theorem signatureFor?_eq_some_iff (publicKey signature : Bytes) (pair : SignaturePair) :
    pair.signatureFor? publicKey = some signature ↔
      pair.Fits publicKey ∧ pair.signature = signature := by
  obtain ⟨keyPrefix, kind, bytes⟩ := pair
  cases kind with
  | contract => simp [signatureFor?, Fits]
  | key scheme =>
    by_cases starts : keyPrefix <+: publicKey <;> simp [signatureFor?, Fits, starts]

theorem signatureFor?_eq_none_iff (publicKey : Bytes) (pair : SignaturePair) :
    pair.signatureFor? publicKey = none ↔ ¬ pair.Fits publicKey := by
  rw [Option.eq_none_iff_forall_ne_some]
  simp [signatureFor?_eq_some_iff]

end SignaturePair

namespace SignatureMap

/-- The signatures that count for a public key: of the pairs that fit it, any of them if the
transaction collects signatures, and only the first otherwise. -/
inductive Selected (operation : Operation) (pairs : SignatureMap) (publicKey : Bytes) :
    Bytes → Prop where
  | any {pair : SignaturePair} (collects : operation.collectsSignatures = true)
      (member : pair ∈ pairs) (fits : pair.Fits publicKey) :
      Selected operation pairs publicKey pair.signature
  | first {before after : SignatureMap} {pair : SignaturePair}
      (ordinary : operation.collectsSignatures = false) (split : pairs = before ++ pair :: after)
      (fits : pair.Fits publicKey) (earlier : ∀ other ∈ before, ¬ other.Fits publicKey) :
      Selected operation pairs publicKey pair.signature

theorem mem_matching_iff (pairs : SignatureMap) (publicKey signature : Bytes) :
    signature ∈ pairs.matching publicKey ↔
      ∃ pair ∈ pairs, pair.Fits publicKey ∧ pair.signature = signature := by
  simp [matching, SignaturePair.signatureFor?_eq_some_iff]

variable {operation : Operation} {pairs : SignatureMap} {publicKey signature : Bytes}

theorem Selected.exists_pair (selected : Selected operation pairs publicKey signature) :
    ∃ pair ∈ pairs, pair.Fits publicKey ∧ pair.signature = signature := by
  cases selected with
  | any _ member fits => exact ⟨_, member, fits, rfl⟩
  | first _ split fits _ => exact ⟨_, by simp [split], fits, rfl⟩

theorem selected_iff_mem_matching (collects : operation.collectsSignatures = true) :
    Selected operation pairs publicKey signature ↔ signature ∈ pairs.matching publicKey := by
  rw [mem_matching_iff]
  constructor
  · exact Selected.exists_pair
  · rintro ⟨pair, member, fits, rfl⟩
    exact .any collects member fits

theorem selected_iff_findSome? (ordinary : operation.collectsSignatures = false) :
    Selected operation pairs publicKey signature ↔
      pairs.findSome? (SignaturePair.signatureFor? publicKey) = some signature := by
  simp only [List.findSome?_eq_some_iff, SignaturePair.signatureFor?_eq_some_iff,
    SignaturePair.signatureFor?_eq_none_iff]
  constructor
  · intro selected
    cases selected with
    | any collects => simp [ordinary] at collects
    | first _ split fits earlier => exact ⟨_, _, _, split, ⟨fits, rfl⟩, earlier⟩
  · rintro ⟨before, pair, after, split, ⟨fits, rfl⟩, earlier⟩
    exact .first ordinary split fits earlier

end SignatureMap

section Preference

variable {α : Type} (property : α → Bool) (values : List α)

theorem promoteFirst_eq :
    promoteFirst property values =
      match values.dropWhile (!property ·) with
      | found :: after => found :: values.takeWhile (!property ·) ++ after
      | [] => values := by
  rw [promoteFirst, List.span_eq_takeWhile_dropWhile]
  cases values.dropWhile (!property ·) <;> rfl

theorem mem_promoteFirst (value : α) : value ∈ promoteFirst property values ↔ value ∈ values := by
  rw [promoteFirst_eq]
  split
  · rename_i found after rest
    have parts : values.takeWhile (!property ·) ++ found :: after = values := by
      rw [← rest, List.takeWhile_append_dropWhile]
    conv => rhs; rw [← parts]
    simp only [List.cons_append, List.mem_cons, List.mem_append]
    exact or_left_comm
  · rfl

theorem head?_promoteFirst {value : α} (member : value ∈ values) (holds : property value = true) :
    ∃ found, (promoteFirst property values).head? = some found ∧ property found = true := by
  rw [promoteFirst_eq]
  cases rest : values.dropWhile (!property ·) with
  | nil =>
    have fails := List.dropWhile_eq_nil_iff.mp rest value member
    simp [holds] at fails
  | cons found after =>
    have first := List.head?_dropWhile_not (!property ·) values
    rw [rest] at first
    exact ⟨found, rfl, by simpa using first⟩

end Preference

namespace SignatureSource

theorem verifiesByLength_of_verifies {scheme : Scheme} {publicKey signed : Bytes}
    {signature : Bytes} (verified : scheme.verifies publicKey signed signature = true) :
    verifiesByLength publicKey signed = scheme.verifies publicKey signed := by
  funext other
  have length := (Scheme.ofLength?_eq_some_iff _ _).mpr (Scheme.length_of_verifies verified)
  simp only [verifiesByLength, length]

def Lists (source : SignatureSource) (selected : Bytes → Bytes → Prop) : Prop :=
  ∀ publicKey listed, source.candidates publicKey = .ok listed →
    ∀ signature, signature ∈ listed ↔ selected publicKey signature

/-- What the source gives verifies just if one of the signatures of the relation does. Where it
gives none, an empty signature stands for it. -/
def Serves (source : SignatureSource) (signed : Bytes) (selected : Bytes → Bytes → Prop) : Prop :=
  ∀ publicKey found, source.signature? publicKey = .ok found → ∀ scheme : Scheme,
    scheme.verifies publicKey signed (found.getD []) = true ↔
      ∃ signature, selected publicKey signature ∧
        scheme.verifies publicKey signed signature = true

def Gives (source : SignatureSource) (selected : Bytes → Bytes → Prop) : Prop :=
  ∀ publicKey signature, source.signature? publicKey = .ok (some signature) →
    selected publicKey signature

variable {source first second : SignatureSource} {signed : Bytes}
  {selected others : Bytes → Bytes → Prop}

theorem lists_accumulated (signatures : Table Bytes Bytes) :
    (accumulated signatures).Lists fun publicKey signature =>
      Table.find? signatures publicKey = some signature := by
  intro publicKey listed told signature
  cases told
  simp

theorem Lists.chained (one : first.Lists selected) (two : second.Lists others) :
    (chained first second).Lists fun publicKey signature =>
      selected publicKey signature ∨ others publicKey signature := by
  intro publicKey listed told signature
  simp only [candidates] at told
  cases ahead : first.candidates publicKey with
  | error cause => rw [ahead] at told; cases told
  | ok preferred =>
    cases behind : second.candidates publicKey with
    | error cause => rw [ahead, behind] at told; cases told
    | ok rest =>
      rw [ahead, behind] at told
      cases told
      rw [List.mem_append, one publicKey preferred ahead, two publicKey rest behind]

theorem candidates_verifying (publicKey : Bytes) {listed : List Bytes}
    (told : (verifying source signed).candidates publicKey = .ok listed) :
    ∃ plain, source.candidates publicKey = .ok plain ∧
      listed = promoteFirst (verifiesByLength publicKey signed) plain := by
  simp only [candidates] at told
  cases inner : source.candidates publicKey with
  | error cause => rw [inner] at told; cases told
  | ok plain => rw [inner] at told; cases told; exact ⟨plain, rfl, rfl⟩

theorem Lists.verifying (lists : source.Lists selected) :
    (verifying source signed).Lists selected := by
  intro publicKey listed told signature
  obtain ⟨plain, inner, rfl⟩ := candidates_verifying publicKey told
  rw [mem_promoteFirst, lists publicKey plain inner]

theorem Lists.serves (lists : source.Lists selected) :
    (SignatureSource.verifying source signed).Serves signed selected := by
  intro publicKey found answered scheme
  rw [signature?] at answered
  cases told : (SignatureSource.verifying source signed).candidates publicKey with
  | error cause => rw [told] at answered; cases answered
  | ok listed =>
    rw [told] at answered
    cases answered
    constructor
    · intro verified
      cases given : listed.head? with
      | none =>
        exact absurd rfl (Scheme.signature_ne_nil_of_verifies (by simpa [given] using verified))
      | some signature =>
        rw [given] at verified
        have member : signature ∈ listed := List.mem_of_head? given
        exact ⟨signature, (lists.verifying publicKey listed told signature).mp member, verified⟩
    · rintro ⟨signature, counts, verified⟩
      obtain ⟨plain, inner, rfl⟩ := candidates_verifying publicKey told
      have same := verifiesByLength_of_verifies verified
      obtain ⟨given, ahead, holds⟩ := head?_promoteFirst (verifiesByLength publicKey signed) plain
        ((lists publicKey plain inner signature).mpr counts) (by rw [same]; exact verified)
      rw [ahead]
      rwa [same] at holds

theorem Lists.gives (lists : source.Lists selected) :
    (SignatureSource.verifying source signed).Gives selected := by
  intro publicKey signature given
  rw [signature?] at given
  cases told : (SignatureSource.verifying source signed).candidates publicKey with
  | error cause =>
    rw [told] at given
    cases given
  | ok listed =>
    rw [told] at given
    have first : listed.head? = some signature := Except.ok.inj given
    exact (lists.verifying publicKey listed told signature).mp (List.mem_of_head? first)

theorem Gives.chained (one : first.Gives selected) (two : second.Gives selected) :
    (chained first second).Gives selected := by
  intro publicKey signature given
  simp only [signature?] at given
  cases ahead : first.signature? publicKey with
  | error cause =>
    rw [ahead] at given
    cases given
  | ok found =>
    rw [ahead] at given
    cases found with
    | some own =>
      cases given
      exact one publicKey signature ahead
    | none => exact two publicKey signature given

theorem Serves.chained (one : first.Serves signed selected) (two : second.Serves signed selected) :
    (chained first second).Serves signed selected := by
  intro publicKey found answered scheme
  simp only [signature?] at answered
  cases ahead : first.signature? publicKey with
  | error cause => rw [ahead] at answered; cases answered
  | ok given =>
    rw [ahead] at answered
    cases given with
    | some signature => cases answered; exact one publicKey _ ahead scheme
    | none => exact two publicKey found answered scheme

theorem signature?_behind_itself (source : SignatureSource) (signed publicKey : Bytes) :
    (chained (verifying source signed)
      (verifying (chained source (accumulated [])) signed)).signature? publicKey =
        (verifying source signed).signature? publicKey := by
  have behind : (verifying (chained source (accumulated [])) signed).signature? publicKey =
      (verifying source signed).signature? publicKey := by
    simp only [signature?, candidates]
    cases source.candidates publicKey with
    | error cause => rfl
    | ok listed => simp [bind, Except.bind, pure, Except.pure, Table.find?]
  rw [signature?, behind]
  cases (verifying source signed).signature? publicKey with
  | error cause => rfl
  | ok found => cases found <;> rfl

def Readable : SignatureSource → Prop
  | .map pairs => ∃ read, pairs = .ok read
  | .accumulated _ => True
  | .chained first second => Readable first ∧ Readable second
  | .verifying source _ => Readable source

theorem Readable.candidates {source : SignatureSource} (readable : source.Readable)
    (publicKey : Bytes) : ∃ listed, source.candidates publicKey = .ok listed := by
  induction source with
  | map pairs => obtain ⟨read, rfl⟩ := readable; exact ⟨_, rfl⟩
  | accumulated signatures => exact ⟨_, rfl⟩
  | chained first second one two =>
    obtain ⟨ahead, told⟩ := one readable.1
    obtain ⟨behind, rest⟩ := two readable.2
    exact ⟨ahead ++ behind, by simp only [SignatureSource.candidates, told, rest]; rfl⟩
  | verifying source signed ih =>
    obtain ⟨plain, told⟩ := ih readable
    exact ⟨_, by simp only [SignatureSource.candidates, told]; rfl⟩

theorem Readable.signature? {source : SignatureSource} (readable : source.Readable)
    (publicKey : Bytes) : ∃ found, source.signature? publicKey = .ok found := by
  induction source with
  | map pairs => obtain ⟨read, rfl⟩ := readable; exact ⟨_, rfl⟩
  | accumulated signatures => exact ⟨_, rfl⟩
  | chained first second one two =>
    obtain ⟨given, ahead⟩ := one readable.1
    cases given with
    | some signature =>
      exact ⟨some signature, by simp only [SignatureSource.signature?, ahead]; rfl⟩
    | none =>
      obtain ⟨found, behind⟩ := two readable.2
      exact ⟨found, by simp only [SignatureSource.signature?, ahead, ← behind]; rfl⟩
  | verifying source signed _ =>
    have whole : (SignatureSource.verifying source signed).Readable := readable
    obtain ⟨listed, told⟩ := whole.candidates publicKey
    exact ⟨listed.head?, by simp only [SignatureSource.signature?, told]; rfl⟩

end SignatureSource

end Signatory
