import Signatory.SignatureSource

/-!
One signature, and all of them. A source is asked in two ways, and each kind of source answers them
apart: the one signature is the first that turns up, and what stands behind it is not looked at; all
are listed only if nothing fails on the way. Main statement: however sources are nested, the one
signature is the first of all where both are told, there is none just if the list is empty, and a
fault in finding the one is the fault in listing all.
-/
namespace Signatory

section Answers

variable {ε α : Type}

/-- An answer with one value beside the answer with all of them. A fault behind the first value is
met only by who asks for all. -/
inductive FirstOf : Except ε (Option α) → Except ε (List α) → Prop where
  | refused (e : ε) : FirstOf (.error e) (.error e)
  | nothing : FirstOf (.ok none) (.ok [])
  | first (value : α) (rest : List α) : FirstOf (.ok (some value)) (.ok (value :: rest))
  | faultBehind (value : α) (e : ε) : FirstOf (.ok (some value)) (.error e)

namespace FirstOf

theorem head? (all : Except ε (List α)) : FirstOf (all.map List.head?) all := by
  cases all with
  | error e => exact .refused e
  | ok values =>
    cases values with
    | nil => exact .nothing
    | cons value rest => exact .first value rest

theorem toList (value : Option α) : FirstOf (ε := ε) (.ok value) (.ok value.toList) := by
  cases value with
  | none => exact .nothing
  | some value => exact .first value []

variable {one : Except ε (Option α)} {all others : Except ε (List α)}

theorem fallBack {next : Option α → Except ε (Option α)} (ahead : FirstOf one all)
    (behind : FirstOf (next none) others) (stays : ∀ value, next (some value) = .ok (some value)) :
    FirstOf (one >>= next)
      (do
        let preferred ← all
        return preferred ++ (← others)) := by
  cases ahead with
  | refused e => exact .refused e
  | nothing =>
    change FirstOf (next none) _
    generalize next none = another at behind ⊢
    cases behind with
    | refused e => exact .refused e
    | nothing => exact .nothing
    | first value rest => exact .first value rest
    | faultBehind value e => exact .faultBehind value e
  | first value rest =>
    change FirstOf (next (some value)) _
    rw [stays]
    cases others with
    | error e => exact .faultBehind value e
    | ok more => exact .first value (rest ++ more)
  | faultBehind value e =>
    change FirstOf (next (some value)) _
    rw [stays]
    exact .faultBehind value e

theorem eq_head? (answers : FirstOf one all) {values : List α} (told : all = .ok values) :
    one = .ok values.head? := by
  cases answers with
  | refused | faultBehind => cases told
  | nothing | first => cases told; rfl

theorem none_iff (answers : FirstOf one all) : one = .ok none ↔ all = .ok [] := by
  cases answers <;> simp

theorem error_of_error (answers : FirstOf one all) {e : ε} (failed : one = .error e) :
    all = .error e := by
  cases answers with
  | refused => cases failed; rfl
  | nothing | first | faultBehind => cases failed

end FirstOf

end Answers

namespace SignatureSource

theorem firstOf_map (pairs : Except SourceError SignatureMap) (publicKey : Bytes) :
    FirstOf ((map pairs).signature? publicKey) ((map pairs).candidates publicKey) := by
  cases pairs with
  | error cause => exact .refused cause
  | ok pairs =>
    have first : (map (.ok pairs)).signature? publicKey =
        Except.map List.head? (.ok (pairs.matching publicKey)) := by
      rw [Except.map, SignatureMap.matching, List.head?_filterMap]
      rfl
    rw [first]
    exact .head? _

theorem firstOf_lookups (source : SignatureSource) (publicKey : Bytes) :
    FirstOf (source.signature? publicKey) (source.candidates publicKey) := by
  induction source with
  | map pairs => exact firstOf_map pairs publicKey
  | accumulated signatures => exact .toList (Table.find? signatures publicKey)
  | chained first second one two =>
    rw [signature?, candidates]
    exact one.fallBack two fun _ => rfl
  | verifying source signed _ => exact .head? ((verifying source signed).candidates publicKey)

/-- Both ways to ask any source for any public key. -/
theorem lookups_agree (source : SignatureSource) (publicKey : Bytes) :
    (∀ listed, source.candidates publicKey = .ok listed →
      source.signature? publicKey = .ok listed.head?) ∧
    (source.signature? publicKey = .ok none ↔ source.candidates publicKey = .ok []) ∧
    ∀ cause, source.signature? publicKey = .error cause →
      source.candidates publicKey = .error cause := by
  have answers := firstOf_lookups source publicKey
  refine ⟨fun listed told => answers.eq_head? told, answers.none_iff, ?_⟩
  intro cause failed
  exact answers.error_of_error failed

end SignatureSource

namespace Sample

def layered (behind : SignatureSource) : SignatureSource :=
  .chained (.verifying (.map (.ok [⟨[1], .key .ed25519, [161]⟩])) []) behind

def brokenMap : SourceError := .malformedMap (.malformedSignatureMap .reservedMarker)

end Sample

namespace SignatureSource

theorem layered_lookups_agree :
    ((Sample.layered (.accumulated [([1, 2], [176])])).candidates [1, 2] = .ok [[161], [176]] ∧
      (Sample.layered (.accumulated [([1, 2], [176])])).signature? [1, 2] = .ok (some [161])) ∧
    (Sample.layered (.accumulated [([1, 2], [176])])).signature? [9] = .ok none ∧
    (Sample.layered (.map (.error Sample.brokenMap))).candidates [9] = .error Sample.brokenMap := by
  refine ⟨⟨rfl, ?_⟩, ?_, ?_⟩
  · exact (lookups_agree _ _).1 [[161], [176]] rfl
  · exact (lookups_agree _ _).2.1.mpr rfl
  · exact (lookups_agree _ _).2.2 Sample.brokenMap rfl

end SignatureSource

end Signatory
