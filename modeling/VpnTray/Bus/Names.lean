/-!
# Things by their names

The objects, interfaces and properties on the bus are found by their names. They are
kept in lists whose names ascend, so that what is read from such a list comes in the
order of the names.
-/

namespace VpnTray.Bus

/-- Things by their names. -/
abbrev Names (α : Type) := List (String × α)

namespace Names

variable {α : Type}

/-- Adds a thing, in place of the one that had its name. -/
def put (name : String) (a : α) : Names α → Names α
  | [] => [(name, a)]
  | (other, b) :: rest =>
    if name = other then (name, a) :: rest
    else if name < other then (name, a) :: (other, b) :: rest
    else (other, b) :: put name a rest

@[simp] theorem lookup_put_self (name : String) (a : α) (names : Names α) :
    (put name a names).lookup name = some a := by
  induction names with
  | nil => simp [put]
  | cons entry rest ih =>
    obtain ⟨other, b⟩ := entry
    by_cases h : name = other
    · simp [put, h]
    · by_cases hlt : name < other <;> simp [put, h, hlt, List.lookup_cons, beq_false_of_ne h, ih]

theorem lookup_put_of_ne {name other : String} (h : other ≠ name) (a : α) (names : Names α) :
    (put name a names).lookup other = names.lookup other := by
  induction names with
  | nil => simp [put, h]
  | cons entry rest ih =>
    obtain ⟨third, b⟩ := entry
    by_cases hthird : name = third
    · subst third
      simp [put, List.lookup_cons, beq_false_of_ne h]
    · by_cases hlt : name < third <;>
        simp [put, hthird, hlt, List.lookup_cons, beq_false_of_ne h, ih]

end Names

end VpnTray.Bus
