import Mathlib.Data.List.Nodup
import Signatory.Table

/-!
Tables in which no key stands twice. Entering a value keeps them so. Main statement: such a table
holds just the entries that its lookups tell, so two tables that answer alike hold the same entries.
-/
namespace Signatory

namespace Table

variable {κ α : Type}

def Distinct (table : Table κ α) : Prop := (table.map Prod.fst).Nodup

theorem distinct_nil : Distinct ([] : Table κ α) := List.nodup_nil

theorem Distinct.nodup {table : Table κ α} (distinct : table.Distinct) : table.Nodup :=
  List.Nodup.of_map Prod.fst distinct

variable [DecidableEq κ] {table other : Table κ α}

theorem Distinct.insert (distinct : table.Distinct) (key : κ) (value : α) :
    (table.insert key value).Distinct := by
  have fresh : key ∉ (table.filter fun entry => entry.1 ≠ key).map Prod.fst := by
    intro member
    obtain ⟨entry, kept, same⟩ := List.mem_map.mp member
    have differs := (List.mem_filter.mp kept).2
    simp [same] at differs
  have rest : ((table.filter fun entry => entry.1 ≠ key).map Prod.fst).Nodup :=
    List.Nodup.sublist (List.filter_sublist.map Prod.fst) distinct
  exact List.nodup_cons.mpr ⟨fresh, rest⟩

theorem Distinct.mem_iff (distinct : table.Distinct) (key : κ) (value : α) :
    (key, value) ∈ table ↔ table.find? key = some value := by
  induction table with
  | nil => simp
  | cons entry rest ih =>
    obtain ⟨fresh, distinct⟩ := List.nodup_cons.mp distinct
    rw [List.mem_cons, ih distinct, find?_cons]
    by_cases same : entry.1 = key
    · have absent : find? rest key ≠ some value := by
        intro found
        exact fresh (same ▸ List.mem_map_of_mem ((ih distinct).mpr found))
      simp only [absent, or_false, same, ↓reduceIte, Option.some.injEq]
      constructor
      · intro here
        rw [← here]
      · intro held
        rw [← held, ← same]
    · have elsewhere : (key, value) ≠ entry := fun here => same (by rw [← here])
      simp [elsewhere, same]

theorem Distinct.perm (distinct : table.Distinct) (further : other.Distinct)
    (alike : ∀ key, table.find? key = other.find? key) : table.Perm other := by
  rw [List.perm_ext_iff_of_nodup distinct.nodup further.nodup]
  intro entry
  rw [distinct.mem_iff entry.1 entry.2, further.mem_iff entry.1 entry.2, alike]

end Table

end Signatory
