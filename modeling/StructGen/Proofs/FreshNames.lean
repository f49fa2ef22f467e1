import StructGen.Registry
import Mathlib.Data.List.Nodup

/-!
# Claimed names are new

A name that is in use gets a number behind it. Among one more number than there are names in use,
one is free, since different numbers make different names; so a claimed name was never in use.

* `freeNumber_not_mem` finds the number;
* `unusedName_not_mem` is about the name.
-/

namespace StructGen.Registry

/-- Different numbers make different names. -/
theorem numbered_injective (name : String) :
    Function.Injective fun k : Nat => name ++ toString k := by
  intro j k h
  have hchars := congrArg String.toList h
  simp only [String.toList_append, List.append_cancel_left_eq, Nat.toString_eq_ofList_toDigits,
    String.toList_ofList] at hchars
  have hvalue := congrArg (Nat.ofDigitChars 10 · 0) hchars
  simpa using hvalue

/-- The search stops at a number that makes a new name, or all the numbers it tried are taken. -/
theorem freeNumber_spec (used : List String) (name : String) (fuel k : Nat) :
    name ++ toString (freeNumber used name fuel k) ∉ used ∨
      freeNumber used name fuel k = k + fuel ∧
        ∀ j, k ≤ j → j < k + fuel → name ++ toString j ∈ used := by
  induction fuel generalizing k with
  | zero => exact Or.inr ⟨rfl, fun j h h' => by omega⟩
  | succ fuel ih =>
    rw [freeNumber]
    split_ifs with hk
    · rcases ih (k + 1) with h | ⟨h, hall⟩
      · exact Or.inl h
      · refine Or.inr ⟨by omega, fun j hj hj' => ?_⟩
        rcases Nat.eq_or_lt_of_le hj with rfl | hlt
        · simpa using hk
        · exact hall j hlt (by omega)
    · exact Or.inl (by simpa using hk)

/-- With as many tries as there are names in use, the search finds a new name. -/
theorem freeNumber_not_mem (used : List String) (name : String) (k : Nat) :
    name ++ toString (freeNumber used name used.length k) ∉ used := by
  intro hmem
  obtain ⟨hlast, htaken⟩ := (freeNumber_spec used name used.length k).resolve_left (· hmem)
  rw [hlast] at hmem
  -- the names of all the numbers tried and of the next one are different and in use
  let names := (List.range (used.length + 1)).map fun j => name ++ toString (k + j)
  have hnodup : names.Nodup :=
    List.nodup_range.map fun i j h => Nat.add_left_cancel (numbered_injective name h)
  have hsub : names ⊆ used := by
    intro n hn
    obtain ⟨j, hj, rfl⟩ := List.mem_map.1 hn
    rw [List.mem_range] at hj
    rcases Nat.lt_succ_iff_lt_or_eq.1 hj with hlt | rfl
    · exact htaken (k + j) (by omega) (by omega)
    · exact hmem
  have hlen : used.length + 1 ≤ used.length := by
    simpa [names] using List.Nodup.length_le_of_subset hnodup hsub
  omega

/-- **A claimed name was not in use.** -/
theorem unusedName_not_mem (r : Registry) (name : String) : r.unusedName name ∉ r.used := by
  unfold unusedName
  split_ifs with h
  · exact freeNumber_not_mem r.used name 2
  · simpa using h

end StructGen.Registry
