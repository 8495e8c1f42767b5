import Mathlib.Data.List.AList

/-!
# Maps

A `HashMap` with values of one type is an `AList`: `insert`, `erase` and `lookup` are
Mathlib's, with their lemmas. `mapVal` changes every value by a function of its key and value,
as a loop over `iter_mut` does, and keeps the keys. The lemmas here read a lookup after each
operation as one `if` on the key, the form the proofs over a model's maps split on.
-/

namespace Maps

variable {κ ν : Type} [DecidableEq κ]

/-- A map from `κ` to `ν`. -/
abbrev Map (κ ν : Type) := AList fun _ : κ => ν

/-- Every value changed by a function of its key and value. -/
def mapVal (f : κ → ν → ν) (m : Map κ ν) : Map κ ν :=
  ⟨m.entries.map (Sigma.map id f), List.NodupKeys.map₂ f m.entries m.nodupKeys⟩

@[simp] theorem lookup_mapVal (f : κ → ν → ν) (m : Map κ ν) (k : κ) :
    (mapVal f m).lookup k = (m.lookup k).map (f k) :=
  List.dlookup_map₂ k

theorem lookup_insert_eq_ite (m : Map κ ν) (k j : κ) (v : ν) :
    (m.insert k v).lookup j = if j = k then some v else m.lookup j := by
  by_cases h : j = k
  · subst h
    simp only [AList.lookup_insert, ↓reduceIte]
  · simp only [AList.lookup_insert_ne h, h, ↓reduceIte]

theorem lookup_erase_eq_ite (m : Map κ ν) (k j : κ) :
    (m.erase k).lookup j = if j = k then none else m.lookup j := by
  by_cases h : j = k
  · subst h
    simp only [AList.lookup_erase, ↓reduceIte]
  · simp only [AList.lookup_erase_ne h, h, ↓reduceIte]

end Maps
