import Mathlib.Logic.Function.Basic

/-!
# Tables whose entries know their key

A table in which every entry is stored under the key it carries itself. An entry that is changed and stored again takes its own place, and no other.
-/

structure Registry {Key Entry : Type*} (key : Entry → Key) where
  find : Key → Option Entry
  keyed : ∀ {k entry}, find k = some entry → key entry = k

namespace Registry

variable {Key Entry : Type*} [DecidableEq Key] {key : Entry → Key}

def empty : Registry key where
  find _ := none
  keyed h := absurd h (Option.some_ne_none _).symm

def insert (table : Registry key) (entry : Entry) : Registry key where
  find := Function.update table.find (key entry) (some entry)
  keyed {k found} h := by
    by_cases hk : k = key entry
    · subst hk
      rw [Function.update_self] at h
      exact congrArg key (Option.some.inj h).symm
    · rw [Function.update_of_ne hk] at h
      exact table.keyed h

def erase (table : Registry key) (k : Key) : Registry key where
  find := Function.update table.find k none
  keyed {k' found} h := by
    by_cases hk : k' = k
    · subst hk
      rw [Function.update_self] at h
      exact absurd h (Option.some_ne_none found).symm
    · rw [Function.update_of_ne hk] at h
      exact table.keyed h

theorem find_insert (table : Registry key) {entry : Entry} {k : Key} (h : key entry = k) :
    (table.insert entry).find k = some entry := by
  subst h
  exact Function.update_self ..

theorem find_insert_of_ne (table : Registry key) {entry : Entry} {k : Key} (h : k ≠ key entry) :
    (table.insert entry).find k = table.find k := Function.update_of_ne h ..

theorem find_insert_cases {table : Registry key} {entry found : Entry} {k : Key}
    (h : (table.insert entry).find k = some found) : found = entry ∨ table.find k = some found := by
  by_cases hk : k = key entry
  · subst hk
    rw [find_insert table rfl] at h
    exact .inl (Option.some.inj h).symm
  · rw [find_insert_of_ne table hk] at h
    exact .inr h

theorem find_of_erase {table : Registry key} {found : Entry} {k k' : Key} (h : (table.erase k').find k = some found) :
    table.find k = some found := by
  change Function.update table.find k' none k = _ at h
  by_cases hk : k = k'
  · subst hk
    rw [Function.update_self] at h
    exact absurd h (Option.some_ne_none found).symm
  · rwa [Function.update_of_ne hk] at h

end Registry
