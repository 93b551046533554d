/-
Finite maps with one value type.

Mathlib's `Finmap` is extensional and has no order, which is what an
`std::unordered_map` promises.  The lemmas here read a lookup after an update as
one `if`, so that `split` and `simp` treat the two cases alike.
-/
import Mathlib.Data.Finmap

namespace AmxxCurl

/-- A finite map from `κ` to `ν`. -/
abbrev Table (κ ν : Type) := Finmap fun _ : κ => ν

namespace Table

variable {κ ν : Type} [DecidableEq κ]

theorem lookup_insert_if (t : Table κ ν) (k j : κ) (v : ν) :
    (t.insert k v).lookup j = if j = k then some v else t.lookup j := by
  by_cases h : j = k
  · subst h
    rw [if_pos rfl]
    exact Finmap.lookup_insert t
  · rw [if_neg h]
    exact Finmap.lookup_insert_of_ne t h

theorem lookup_erase_if (t : Table κ ν) (k j : κ) :
    (t.erase k).lookup j = if j = k then none else t.lookup j := by
  by_cases h : j = k
  · subst h
    rw [if_pos rfl]
    exact Finmap.lookup_erase j t
  · rw [if_neg h]
    exact Finmap.lookup_erase_ne h

/-- An entry that survives an erase was there, under another key. -/
theorem lookup_erase_eq_some {t : Table κ ν} {k j : κ} {v : ν} :
    (t.erase k).lookup j = some v ↔ j ≠ k ∧ t.lookup j = some v := by
  rw [lookup_erase_if]
  split <;> simp_all

/-- An entry after an insert is the new one or an old one under another key. -/
theorem lookup_insert_eq_some {t : Table κ ν} {k j : κ} {v w : ν} :
    (t.insert k v).lookup j = some w ↔ (j = k ∧ w = v) ∨ (j ≠ k ∧ t.lookup j = some w) := by
  rw [lookup_insert_if]
  split <;> simp_all [eq_comm]

/-- Erasing a key that is not there changes nothing. -/
theorem erase_none {t : Table κ ν} {k : κ} (h : t.lookup k = none) : t.erase k = t := by
  refine Finmap.ext_lookup fun j => ?_
  rw [lookup_erase_if]
  split
  · rename_i hj
    rw [hj, h]
  · rfl

/-- Erasing what was just inserted under a free key. -/
theorem erase_insert {t : Table κ ν} {k : κ} {v : ν} (h : t.lookup k = none) :
    (t.insert k v).erase k = t := by
  refine Finmap.ext_lookup fun j => ?_
  rw [lookup_erase_if]
  split
  · rename_i hj
    rw [hj, h]
  · rename_i hj
    exact Finmap.lookup_insert_of_ne t hj

/-- No two keys share a value. -/
def Injective (t : Table κ ν) : Prop :=
  ∀ ⦃i j : κ⦄ ⦃v : ν⦄, t.lookup i = some v → t.lookup j = some v → i = j

theorem Injective.erase {t : Table κ ν} (h : t.Injective) (k : κ) :
    Injective (t.erase k) := by
  intro i j v hi hj
  exact h (lookup_erase_eq_some.mp hi).2 (lookup_erase_eq_some.mp hj).2

/-- Inserting a value nobody holds keeps the map injective. -/
theorem Injective.insert {t : Table κ ν} (h : t.Injective) {k : κ} {v : ν}
    (hnew : ∀ j, t.lookup j ≠ some v) : Injective (t.insert k v) := by
  intro i j w hi hj
  rcases lookup_insert_eq_some.mp hi with ⟨hik, hiw⟩ | ⟨-, hi'⟩
  · rcases lookup_insert_eq_some.mp hj with ⟨hjk, -⟩ | ⟨-, hj'⟩
    · rw [hik, hjk]
    · exact absurd (hiw ▸ hj') (hnew j)
  · rcases lookup_insert_eq_some.mp hj with ⟨-, hjw⟩ | ⟨-, hj'⟩
    · exact absurd (hjw ▸ hi') (hnew i)
    · exact h hi' hj'

end Table

end AmxxCurl
