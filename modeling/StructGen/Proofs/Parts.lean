import StructGen.Json.Basic
import Mathlib.Data.List.Basic

/-!
# Parts of values

What a value says about its parts: how many values it holds, which references, and whether its
objects have each key once.

* `Json.references` are the references inside a value, `Json.hasUniqueKeys` says that no object
  inside it has a key twice;
* `Json.Within` says that a value holds no more than another one, as its parts do;
* `entry_within`, `item_within` and `element_within` are the parts.
-/

namespace StructGen

theorem mem_of_lookup {α : Type} {entries : List (String × α)} {key : String} {v : α}
    (h : entries.lookup key = some v) : (key, v) ∈ entries := by
  obtain ⟨before, after, rfl, -⟩ := List.lookup_eq_some_iff.1 h
  simp

/-- The value of a key that stands once. -/
theorem lookup_of_mem {entries : Entries} {key : String} {v : Json}
    (hkeys : (entries.map Prod.fst).Nodup) (h : (key, v) ∈ entries) :
    entries.lookup key = some v := by
  obtain ⟨before, after, rfl⟩ := List.append_of_mem h
  refine List.lookup_eq_some_iff.2 ⟨before, after, rfl, fun p hp => ?_⟩
  rw [List.map_append, List.nodup_append] at hkeys
  have hne := hkeys.2.2 p.1 (List.mem_map_of_mem hp) key (by simp)
  simpa using hne.symm

namespace Json

theorem get?_eq_some {v w : Json} {key : String} (h : v.get? key = some w) :
    ∃ entries, v = obj entries ∧ entries.lookup key = some w := by
  cases v with
  | obj entries => exact ⟨entries, rfl, h⟩
  | _ => cases h

/-! ### Sizes -/

variable {v w : Json} {items : List Json} {entries : Entries} {key : String}

theorem size_pos (v : Json) : 0 < v.size := by
  cases v <;> simp only [size] <;> omega

theorem size_le_sizeList (h : v ∈ items) : v.size ≤ sizeList items := by
  induction items with
  | nil => cases h
  | cons w items ih =>
    rw [sizeList]
    rcases List.mem_cons.1 h with rfl | h
    · omega
    · have := ih h
      omega

theorem size_le_sizeEntries (h : (key, v) ∈ entries) : v.size ≤ sizeEntries entries := by
  induction entries with
  | nil => cases h
  | cons p entries ih =>
    rw [sizeEntries]
    rcases List.mem_cons.1 h with rfl | h
    · exact Nat.le_add_right _ _
    · have := ih h
      omega

theorem size_lt_of_entry (h : (key, v) ∈ entries) : v.size < (obj entries).size := by
  have := size_le_sizeEntries h
  rw [size]
  omega

/-! ### References -/

mutual

/-- The references inside a value. -/
def references : Json → List String
  | .arr items => referencesList items
  | .obj entries => referencesEntries entries
  | _ => []

/-- The references inside a list of values. -/
def referencesList : List Json → List String
  | [] => []
  | v :: vs => v.references ++ referencesList vs

/-- The references inside the entries of an object; one of them may be a reference itself. -/
def referencesEntries : List (String × Json) → List String
  | [] => []
  | (k, v) :: es =>
    (if k = "$ref" then v.str?.toList else []) ++ v.references ++ referencesEntries es

end

theorem references_subset_list (h : v ∈ items) : v.references ⊆ referencesList items := by
  induction items with
  | nil => cases h
  | cons w items ih =>
    rw [referencesList]
    rcases List.mem_cons.1 h with rfl | h
    · exact List.subset_append_left _ _
    · exact List.Subset.trans (ih h) (List.subset_append_right _ _)

theorem references_subset_entries (h : (key, v) ∈ entries) :
    v.references ⊆ referencesEntries entries := by
  induction entries with
  | nil => cases h
  | cons p entries ih =>
    rw [referencesEntries]
    rcases List.mem_cons.1 h with rfl | h
    · exact fun r hr => List.mem_append_left _ (List.mem_append_right _ hr)
    · exact List.Subset.trans (ih h) (List.subset_append_right _ _)

/-- The reference of a schema is one of those inside it. -/
theorem mem_references {reference : String} (h : ("$ref", str reference) ∈ entries) :
    reference ∈ (obj entries).references := by
  rw [references]
  induction entries with
  | nil => cases h
  | cons p entries ih =>
    rw [referencesEntries]
    rcases List.mem_cons.1 h with rfl | h
    · simp [str?]
    · exact List.mem_append_right _ (ih h)

mutual

/-- There are no more references than values. -/
theorem length_references_le : (v : Json) → v.references.length ≤ v.size
  | .arr items => by
    have := length_referencesList_le items
    rw [references, size]
    omega
  | .obj entries => by
    have := length_referencesEntries_le entries
    rw [references, size]
    omega
  | .null | .bool _ | .int _ | .float _ | .str _ => Nat.zero_le _

theorem length_referencesList_le : (items : List Json) →
    (referencesList items).length ≤ sizeList items
  | [] => Nat.le_refl _
  | v :: items => by
    have hv := length_references_le v
    have hs := length_referencesList_le items
    rw [referencesList, sizeList, List.length_append]
    omega

theorem length_referencesEntries_le : (entries : List (String × Json)) →
    (referencesEntries entries).length ≤ sizeEntries entries
  | [] => Nat.le_refl _
  | (k, v) :: entries => by
    have hs := length_referencesEntries_le entries
    -- a value that is itself a reference holds no others
    have hv : (if k = "$ref" then v.str?.toList else []).length + v.references.length ≤ v.size := by
      have hle := length_references_le v
      split_ifs with hk
      · cases v with
        | str s => exact Nat.le_refl 1
        | _ => simpa [str?] using hle
      · simpa using hle
    rw [referencesEntries, sizeEntries, List.length_append, List.length_append]
    omega

end

/-! ### Keys -/

mutual

/-- Whether no object inside a value has a key twice. -/
def hasUniqueKeys : Json → Bool
  | .arr items => hasUniqueKeysList items
  | .obj entries => decide (entries.map Prod.fst).Nodup && hasUniqueKeysEntries entries
  | _ => true

/-- Whether no object inside a list of values has a key twice. -/
def hasUniqueKeysList : List Json → Bool
  | [] => true
  | v :: vs => v.hasUniqueKeys && hasUniqueKeysList vs

/-- Whether no object inside the values of some entries has a key twice. -/
def hasUniqueKeysEntries : List (String × Json) → Bool
  | [] => true
  | (_, v) :: es => v.hasUniqueKeys && hasUniqueKeysEntries es

end

theorem hasUniqueKeys_of_mem_list (hkeys : hasUniqueKeysList items) (h : v ∈ items) :
    v.hasUniqueKeys := by
  induction items with
  | nil => cases h
  | cons w items ih =>
    rw [hasUniqueKeysList, Bool.and_eq_true] at hkeys
    rcases List.mem_cons.1 h with rfl | h
    · exact hkeys.1
    · exact ih hkeys.2 h

theorem hasUniqueKeys_of_mem_entries (hkeys : hasUniqueKeysEntries entries)
    (h : (key, v) ∈ entries) : v.hasUniqueKeys := by
  induction entries with
  | nil => cases h
  | cons p entries ih =>
    rw [hasUniqueKeysEntries, Bool.and_eq_true] at hkeys
    rcases List.mem_cons.1 h with rfl | h
    · exact hkeys.1
    · exact ih hkeys.2 h

theorem nodup_keys (h : (obj entries).hasUniqueKeys) : (entries.map Prod.fst).Nodup := by
  rw [hasUniqueKeys, Bool.and_eq_true, decide_eq_true_iff] at h
  exact h.1

theorem hasUniqueKeys_obj : (obj entries).hasUniqueKeys = true ↔
    (entries.map Prod.fst).Nodup ∧ ∀ p ∈ entries, p.2.hasUniqueKeys = true := by
  rw [hasUniqueKeys, Bool.and_eq_true, decide_eq_true_iff]
  refine and_congr Iff.rfl ?_
  induction entries with
  | nil => simp [hasUniqueKeysEntries]
  | cons p entries ih => rw [hasUniqueKeysEntries, Bool.and_eq_true, ih, List.forall_mem_cons]

theorem hasUniqueKeys_arr :
    (arr items).hasUniqueKeys = true ↔ ∀ v ∈ items, v.hasUniqueKeys = true := by
  rw [hasUniqueKeys]
  induction items with
  | nil => simp [hasUniqueKeysList]
  | cons v items ih => rw [hasUniqueKeysList, Bool.and_eq_true, ih, List.forall_mem_cons]

/-! ### Values that hold no more than another one -/

/-- A value holds no more than another one: it is no larger, its references are among those of the
other, and its objects have each key once if those of the other have. -/
structure Within (v w : Json) : Prop where
  size_le : v.size ≤ w.size
  references : v.references ⊆ w.references
  uniqueKeys : w.hasUniqueKeys → v.hasUniqueKeys

theorem Within.refl (v : Json) : v.Within v := ⟨Nat.le_refl _, List.Subset.refl _, id⟩

theorem Within.trans {u : Json} (h : u.Within v) (h' : v.Within w) : u.Within w :=
  ⟨Nat.le_trans h.size_le h'.size_le, List.Subset.trans h.references h'.references,
    h.uniqueKeys ∘ h'.uniqueKeys⟩

theorem item_within (h : v ∈ items) : v.Within (arr items) where
  size_le := Nat.le_trans (size_le_sizeList h) (by rw [size]; omega)
  references := by
    rw [Json.references]
    exact references_subset_list h
  uniqueKeys hkeys := by
    rw [hasUniqueKeys] at hkeys
    exact hasUniqueKeys_of_mem_list hkeys h

theorem entry_within (h : (key, v) ∈ entries) : v.Within (obj entries) where
  size_le := Nat.le_of_lt (size_lt_of_entry h)
  references := by
    rw [Json.references]
    exact references_subset_entries h
  uniqueKeys hkeys := by
    rw [hasUniqueKeys, Bool.and_eq_true] at hkeys
    exact hasUniqueKeys_of_mem_entries hkeys.2 h

theorem str_within (s : String) (w : Json) : (str s).Within w where
  size_le := size_pos w
  references := List.nil_subset _
  uniqueKeys _ := rfl

/-- Listing a value gives values that hold no more. -/
theorem element_within (h : w.elements? = some items) (hv : v ∈ items) : v.Within w := by
  cases w with
  | arr ws =>
    rw [elements?, Option.some.injEq] at h
    subst h
    exact item_within hv
  | obj entries =>
    rw [elements?, Option.some.injEq] at h
    subst h
    obtain ⟨p, -, rfl⟩ := List.mem_map.1 hv
    exact str_within _ _
  | str s =>
    rw [elements?, Option.some.injEq] at h
    subst h
    obtain ⟨c, -, rfl⟩ := List.mem_map.1 hv
    exact str_within _ _
  | _ => cases h

end Json

end StructGen
