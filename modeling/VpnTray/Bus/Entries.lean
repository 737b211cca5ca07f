import VpnTray.Bus.Order

/-!
# Entries of dictionaries

A dictionary has one entry for each key, and its entries go in the order of the keys.
An entry whose key is there already only replaces the value: the key stays as it was
given first. As types are in a coarse order, a dictionary with types for keys can hold
fewer of them than it was given.

* `insertEntry`: the entries with another one;
* `Value.ofEntries`: the dictionary that was given some entries, one after the other.
-/

namespace VpnTray.Bus

/-- Some entries with another one, at the place of its key. -/
def insertEntry (key value : Value) : List (Value × Value) → List (Value × Value)
  | [] => [(key, value)]
  | entry :: entries =>
    match key.order entry.1 with
    | .lt => (key, value) :: entry :: entries
    | .eq => (entry.1, value) :: entries
    | .gt => entry :: insertEntry key value entries

/-- What is left of some entries that were given one after the other, in the order of keys. -/
def entriesByKey (entries : List (Value × Value)) : List (Value × Value) :=
  entries.foldl (fun kept entry => insertEntry entry.1 entry.2 kept) []

/-- The dictionary that was given some entries, one after the other. -/
def Value.ofEntries (key value : Signature) (entries : List (Value × Value)) : Value :=
  dict key value (entriesByKey entries)

end VpnTray.Bus
