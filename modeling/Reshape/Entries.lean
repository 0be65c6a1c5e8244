/-!
# Named entries

Lists of entries under names, in the order in which the names were first set. Setting a name again
keeps its place: `lookup_put` says what is found afterwards.
-/

namespace Reshape.Entries

/-- `put name value entries` sets the entry of a name, in its old place if it has one. -/
def put {α : Type} (name : String) (value : α) : List (String × α) → List (String × α)
  | [] => [(name, value)]
  | (other, old) :: rest =>
    if other = name then (name, value) :: rest else (other, old) :: put name value rest

/-- The first entry is found under its name. -/
theorem lookup_entry_cons {α : Type} (name sought : String) (value : α) (rest : List (String × α)) :
    ((name, value) :: rest).lookup sought =
      if sought = name then some value else rest.lookup sought := by
  by_cases h : sought = name
  · simp [h]
  · simp [List.lookup_cons, beq_false_of_ne h, h]

/-- What was put is found under its name; all else is found as before. -/
theorem lookup_put {α : Type} (name sought : String) (value : α) (entries : List (String × α)) :
    (put name value entries).lookup sought =
      if sought = name then some value else entries.lookup sought := by
  induction entries with
  | nil => exact lookup_entry_cons name sought value []
  | cons entry rest ih =>
    obtain ⟨other, old⟩ := entry
    by_cases same : other = name
    · rw [put, if_pos same, lookup_entry_cons, lookup_entry_cons, same]
      split <;> rfl
    · rw [put, if_neg same, lookup_entry_cons, lookup_entry_cons, ih]
      by_cases found : sought = other
      · rw [if_pos found, if_pos found, if_neg (found ▸ same)]
      · rw [if_neg found, if_neg found]

end Reshape.Entries
