import StructGen.Json.Reader
import StructGen.Proofs.Outcome
import StructGen.Proofs.Parts
import Mathlib.Data.List.Nodup

/-!
# Entries that are updated

Putting a value under a key replaces the value that is there, so entries whose keys are different
stay so. Entries that are read from a text are put one after another, so no object that is read has
a key twice.

* `lookup_updateEntries` gives the values after an update, `filter_updateEntries` the part of the
  entries with certain keys;
* `Json.hasUniqueKeys_of_read` is about values that are read.
-/

namespace StructGen

section Entries

variable {α : Type} {key k : String} {value x : α} {es old new : List (String × α)}

/-! ### Putting one value -/

theorem putEntry_of_not_mem (h : key ∉ es.map Prod.fst) :
    putEntry key value es = es ++ [(key, value)] := by
  induction es with
  | nil => rfl
  | cons e es ih =>
    rw [List.map_cons, List.mem_cons, not_or] at h
    rw [putEntry, if_neg (Ne.symm h.1), ih h.2, List.cons_append]

theorem map_fst_putEntry_of_mem (h : key ∈ es.map Prod.fst) :
    (putEntry key value es).map Prod.fst = es.map Prod.fst := by
  induction es with
  | nil => cases h
  | cons e es ih =>
    rw [putEntry]
    split_ifs with hkey
    · rfl
    · have hlater : key ∈ es.map Prod.fst := by simpa [Ne.symm hkey] using h
      rw [List.map_cons, List.map_cons, ih hlater]

/-- Putting a value keeps the keys of entries different. -/
theorem nodup_keys_putEntry (h : (es.map Prod.fst).Nodup) :
    ((putEntry key value es).map Prod.fst).Nodup := by
  by_cases hkey : key ∈ es.map Prod.fst
  · rwa [map_fst_putEntry_of_mem hkey]
  · rw [putEntry_of_not_mem hkey, List.map_append, List.map_singleton]
    refine List.nodup_append.2 ⟨h, List.nodup_singleton key, fun k hk l hl => ?_⟩
    rw [List.mem_singleton.1 hl]
    rintro rfl
    exact hkey hk

theorem mem_values_putEntry (h : x ∈ (putEntry key value es).map Prod.snd) :
    x = value ∨ x ∈ es.map Prod.snd := by
  induction es with
  | nil => simpa [putEntry] using h
  | cons e es ih =>
    rw [putEntry] at h
    split_ifs at h
    · rcases List.mem_cons.1 h with h | h
      · exact Or.inl h
      · exact Or.inr (List.mem_cons_of_mem _ h)
    · rcases List.mem_cons.1 h with rfl | h
      · exact Or.inr List.mem_cons_self
      · exact (ih h).imp_right (List.mem_cons_of_mem _)

/-- A new value keeps the values of entries different. -/
theorem nodup_values_putEntry (h : (es.map Prod.snd).Nodup) (hvalue : value ∉ es.map Prod.snd) :
    ((putEntry key value es).map Prod.snd).Nodup := by
  induction es with
  | nil => simp [putEntry]
  | cons e es ih =>
    rw [List.map_cons, List.nodup_cons] at h
    rw [List.map_cons, List.mem_cons, not_or] at hvalue
    rw [putEntry]
    split_ifs
    · exact List.nodup_cons.2 ⟨hvalue.2, h.2⟩
    · refine List.nodup_cons.2 ⟨fun hmem => ?_, ih h.2 hvalue.2⟩
      rcases mem_values_putEntry hmem with heq | hmem
      · exact hvalue.1 heq.symm
      · exact h.1 hmem

/-- The entries with certain keys, after a value is put. -/
theorem filter_putEntry (p : String → Bool) (key : String) (value : α) (es : List (String × α)) :
    (putEntry key value es).filter (fun e => p e.1) =
      if p key then putEntry key value (es.filter fun e => p e.1)
      else es.filter fun e => p e.1 := by
  induction es with
  | nil => simp [putEntry, List.filter_cons]
  | cons e es ih =>
    obtain ⟨k, v⟩ := e
    rw [putEntry]
    by_cases hkey : k = key
    · subst hkey
      rw [if_pos rfl, List.filter_cons, List.filter_cons]
      split_ifs
      · rw [putEntry, if_pos rfl]
      · rfl
    · rw [if_neg hkey, List.filter_cons, List.filter_cons, ih]
      split_ifs
      · rw [putEntry, if_neg hkey]
      · rfl
      · rfl
      · rfl

/-! ### Updating -/

/-- The value of a key after an update is the new one, if there is one. -/
theorem lookup_updateEntries (old : List (String × α)) (h : (new.map Prod.fst).Nodup)
    (k : String) : (updateEntries old new).lookup k = (new.lookup k).or (old.lookup k) := by
  induction new generalizing old with
  | nil => rfl
  | cons e new ih =>
    obtain ⟨key, v⟩ := e
    rw [List.map_cons, List.nodup_cons] at h
    rw [updateEntries_cons, ih _ h.2, lookup_putEntry, List.lookup_cons]
    by_cases hk : k = key
    · have hnone : new.lookup k = none := by
        rw [List.lookup_eq_none_iff]
        intro p hp
        have hmem : p.1 ∈ new.map Prod.fst := List.mem_map_of_mem hp
        have hne : k ≠ p.1 := fun heq => h.1 (hk.symm.trans heq ▸ hmem)
        simpa using hne
      rw [hnone, if_pos hk, beq_iff_eq.2 hk]
      rfl
    · rw [if_neg hk, beq_eq_false_iff_ne.2 hk]

/-- The part of updated entries with certain keys is the part of the one updated with that of the
other. -/
theorem filter_updateEntries (p : String → Bool) (old new : List (String × α)) :
    (updateEntries old new).filter (fun e => p e.1) =
      updateEntries (old.filter fun e => p e.1) (new.filter fun e => p e.1) := by
  induction new generalizing old with
  | nil => rfl
  | cons e new ih =>
    obtain ⟨key, v⟩ := e
    rw [updateEntries_cons, ih, filter_putEntry, List.filter_cons]
    split_ifs
    · rw [updateEntries_cons]
    · rfl

/-- Entries with other keys are added at the end. -/
theorem updateEntries_of_nodup (h : ((old ++ new).map Prod.fst).Nodup) :
    updateEntries old new = old ++ new := by
  induction new generalizing old with
  | nil => rw [updateEntries_nil, List.append_nil]
  | cons e new ih =>
    obtain ⟨key, v⟩ := e
    have hkey : key ∉ old.map Prod.fst := by
      rw [List.map_append, List.map_cons, List.nodup_append] at h
      exact fun hmem => h.2.2 key hmem key List.mem_cons_self rfl
    rw [updateEntries_cons, putEntry_of_not_mem hkey, ih (by simpa using h)]
    simp

theorem nodup_keys_updateEntries (h : (old.map Prod.fst).Nodup) :
    ((updateEntries old new).map Prod.fst).Nodup := by
  induction new generalizing old with
  | nil => exact h
  | cons e new ih => exact ih (nodup_keys_putEntry h)

theorem nodup_keys_filter (p : String → Bool) (h : (es.map Prod.fst).Nodup) :
    ((es.filter fun e => p e.1).map Prod.fst).Nodup :=
  h.sublist (List.filter_sublist.map Prod.fst)

/-- The value of a key among the entries with certain keys. -/
theorem lookup_filter (p : String → Bool) (es : List (String × α)) (k : String) :
    (es.filter fun e => p e.1).lookup k = if p k then es.lookup k else none := by
  induction es with
  | nil => simp
  | cons e es ih =>
    obtain ⟨key, v⟩ := e
    rw [List.filter_cons, List.lookup_cons]
    by_cases hk : k = key
    · subst hk
      split_ifs with hp
      · rw [List.lookup_cons, beq_self_eq_true]
      · rw [ih, if_neg hp]
    · rw [beq_eq_false_iff_ne.2 hk]
      split_ifs with hkey hp hp
      · rw [List.lookup_cons, beq_eq_false_iff_ne.2 hk, ih, if_pos hp]
      · rw [List.lookup_cons, beq_eq_false_iff_ne.2 hk, ih, if_neg hp]
      · rw [ih, if_pos hp]
      · rw [ih, if_neg hp]

end Entries

/-! ### Values that are read -/

namespace Json

/-- The value that a step of the reader gives has each key once. -/
def ReadsUnique (r : Except ReadFault (Json × Cursor)) : Prop :=
  ∀ v c, r = .ok (v, c) → v.hasUniqueKeys = true

theorem readsUnique_fail (c : Cursor) (what : Malformation) : ReadsUnique (c.fail what) := by
  rintro v d ⟨⟩

theorem hasUniqueKeys_of_value {t : NumberText} {v : Json} (h : t.value = .ok v) :
    v.hasUniqueKeys = true := by
  unfold NumberText.value at h
  split at h
  · split at h
    · cases h
    · cases h
      rfl
  · cases h
    rfl

theorem readsUnique_readScalar (c : Cursor) : ReadsUnique (readScalar c) := by
  intro v d h
  unfold readScalar at h
  cases hconstant : constant? c.rest with
  | some p =>
    rw [hconstant] at h
    cases h
    obtain ⟨q, hq, hv⟩ := Option.map_eq_some_iff.1 hconstant
    have hconstants : ∀ q ∈ constants, q.2.hasUniqueKeys = true := by decide
    rw [← hv]
    exact hconstants q (List.mem_of_find?_eq_some hq)
  | none =>
    rw [hconstant] at h
    dsimp only at h
    cases hscan : scanNumber c.rest with
    | none =>
      rw [hscan] at h
      cases h
    | some p =>
      rw [hscan] at h
      obtain ⟨w, hw, h⟩ := bind_eq_ok.1 h
      cases h
      exact hasUniqueKeys_of_value hw

/-- Keys stay unique when an entry is put. -/
theorem hasUniqueKeys_putEntry {entries : Entries} {k : String} {v : Json}
    (hentries : (obj entries).hasUniqueKeys = true) (hv : v.hasUniqueKeys = true) :
    (obj (putEntry k v entries)).hasUniqueKeys = true := by
  rw [hasUniqueKeys_obj] at hentries ⊢
  refine ⟨nodup_keys_putEntry hentries.1, fun e he => ?_⟩
  rcases mem_values_putEntry (List.mem_map_of_mem he) with heq | hmem
  · rw [heq]
    exact hv
  · obtain ⟨e', he', heq⟩ := List.mem_map.1 hmem
    rw [← heq]
    exact hentries.2 e' he'

/-- What is read of a value, of items and of members has each key once. -/
theorem readsUnique_readers (spare : Text.Plane) (fuel : Nat) :
    (∀ c, ReadsUnique (readValue spare fuel c)) ∧
      (∀ items c, (∀ v ∈ items, v.hasUniqueKeys = true) → ReadsUnique (readItems spare fuel items c)) ∧
      ∀ entries c, (obj entries).hasUniqueKeys = true →
        ReadsUnique (readMembers spare fuel entries c) := by
  -- the three readers call each other, each time with less fuel
  induction fuel with
  | zero =>
    refine ⟨fun c => ?_, fun items c _ => ?_, fun entries c _ => ?_⟩
    · exact readsUnique_fail c _
    · exact readsUnique_fail c _
    · exact readsUnique_fail c _
  | succ fuel ih =>
    obtain ⟨hvalue, hitems, hmembers⟩ := ih
    refine ⟨fun c => ?_, fun items c hunique v d h => ?_, fun entries c hunique v d h => ?_⟩
    · unfold readValue
      split
      · intro v d h
        obtain ⟨p, -, h⟩ := bind_eq_ok.1 h
        cases h
        rfl
      · dsimp only
        split_ifs
        · rintro v d ⟨⟩
          rfl
        · exact hitems [] _ (by simp)
      · dsimp only
        split_ifs
        · rintro v d ⟨⟩
          rfl
        · exact hmembers [] _ (by rfl)
      · exact readsUnique_readScalar c
    · unfold readItems at h
      obtain ⟨p, hp, h⟩ := bind_eq_ok.1 h
      have hall : ∀ w ∈ p.1 :: items, w.hasUniqueKeys = true :=
        List.forall_mem_cons.2 ⟨hvalue c p.1 p.2 hp, hunique⟩
      dsimp only at h
      split at h
      · cases h
        refine hasUniqueKeys_arr.2 fun w hw => hall w ?_
        exact List.mem_reverse.1 hw
      · exact hitems _ _ hall v d h
      · cases h
    · unfold readMembers at h
      split_ifs at h
      · cases h
      · obtain ⟨p, -, h⟩ := bind_eq_ok.1 h
        dsimp only at h
        split_ifs at h
        · cases h
        · obtain ⟨q, hq, h⟩ := bind_eq_ok.1 h
          have hput := hasUniqueKeys_putEntry (k := p.1) hunique (hvalue _ q.1 q.2 hq)
          split at h
          · cases h
            exact hput
          · exact hmembers _ _ hput v d h
          · cases h

/-- **No object inside a value that is read has a key twice.** -/
theorem hasUniqueKeys_of_read {spare : Text.Plane} {text : List Char} {v : Json}
    (h : read spare text = .ok v) : v.hasUniqueKeys = true := by
  unfold read at h
  dsimp only at h
  split_ifs at h
  · cases h
  · obtain ⟨p, hp, h⟩ := bind_eq_ok.1 h
    split_ifs at h
    · cases h
      exact (readsUnique_readers _ _).1 _ p.1 p.2 hp
    · cases h

end Json

end StructGen
