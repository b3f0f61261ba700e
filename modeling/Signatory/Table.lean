/-!
Finite tables in which an entry replaces the earlier one under its key.
-/
namespace Signatory

abbrev Table (κ α : Type) := List (κ × α)

namespace Table

variable {κ α : Type} [DecidableEq κ]

def find? (table : Table κ α) (key : κ) : Option α :=
  (List.find? (fun entry => entry.1 = key) table).map Prod.snd

def insert (table : Table κ α) (key : κ) (value : α) : Table κ α :=
  (key, value) :: table.filter (fun entry => entry.1 ≠ key)

def modify (table : Table κ α) (key : κ) (change : α → α) : Table κ α :=
  table.map fun entry => if entry.1 = key then (entry.1, change entry.2) else entry

def ofList (entries : List (κ × α)) : Table κ α :=
  entries.foldl (fun table entry => table.insert entry.1 entry.2) []

@[simp] theorem find?_nil (key : κ) : find? ([] : Table κ α) key = none := rfl

theorem find?_cons (entry : κ × α) (table : Table κ α) (key : κ) :
    find? (entry :: table) key = if entry.1 = key then some entry.2 else find? table key := by
  by_cases same : entry.1 = key <;> simp [find?, same]

theorem find?_filter_ne (table : Table κ α) (key other : κ) (differ : other ≠ key) :
    find? (table.filter (fun entry => entry.1 ≠ key)) other = find? table other := by
  induction table with
  | nil => rfl
  | cons entry rest ih =>
    by_cases same : entry.1 = key
    · have away : entry.1 ≠ other := fun h => differ (h ▸ same)
      rw [List.filter_cons_of_neg (by simpa using same), ih, find?_cons, if_neg away]
    · rw [List.filter_cons_of_pos (by simpa using same), find?_cons, find?_cons, ih]

theorem find?_insert (table : Table κ α) (key other : κ) (value : α) :
    (table.insert key value).find? other = if key = other then some value else table.find? other := by
  by_cases same : key = other
  · simp [insert, find?_cons, same]
  · rw [insert, find?_cons, if_neg same, if_neg same, find?_filter_ne _ _ _ (Ne.symm same)]

theorem find?_modify (table : Table κ α) (key other : κ) (change : α → α) :
    (table.modify key change).find? other =
      if key = other then (table.find? other).map change else table.find? other := by
  induction table with
  | nil => simp [modify]
  | cons entry rest ih =>
    have tail : (modify (entry :: rest) key change) =
        (if entry.1 = key then (entry.1, change entry.2) else entry) :: modify rest key change := rfl
    rw [tail, find?_cons, find?_cons, ih]
    by_cases here : entry.1 = key <;> by_cases same : key = other <;> grind

end Table

end Signatory
