import StructGen.Schema.Builder
import Mathlib.Data.List.Sort

/-!
# Entries in the order of their keys

Sorting brings entries with different keys into the one order in which their keys ascend, so it does
not matter in which order they were given.

* `ascending_sortEntries` says that the keys ascend;
* `sortEntries_of_ascending` says that sorting changes nothing then;
* `forall₂_sortEntries` brings entries with the same keys together.
-/

namespace StructGen.Schema

variable {α : Type} {entries : List (String × α)}

theorem mem_sortEntries {p : String × α} : p ∈ sortEntries entries ↔ p ∈ entries :=
  List.mem_mergeSort

theorem sortEntries_perm (entries : List (String × α)) : (sortEntries entries).Perm entries :=
  List.mergeSort_perm _ _

/-- Whether the keys of entries ascend. -/
def Ascending (entries : List (String × α)) : Prop := entries.Pairwise fun p q => p.1 < q.1

instance (entries : List (String × α)) : Decidable (Ascending entries) :=
  inferInstanceAs (Decidable (entries.Pairwise fun p q => p.1 < q.1))

/-- Sorted entries with different keys ascend. -/
theorem ascending_sortEntries (h : (entries.map Prod.fst).Nodup) :
    Ascending (sortEntries entries) := by
  have hsorted : (sortEntries entries).Pairwise fun p q => decide (p.1 ≤ q.1) = true := by
    refine List.pairwise_mergeSort (fun p q r hpq hqr => ?_) (fun p q => ?_) entries
    · rw [decide_eq_true_iff] at hpq hqr ⊢
      exact String.le_trans hpq hqr
    · rw [Bool.or_eq_true, decide_eq_true_iff, decide_eq_true_iff]
      exact String.le_total _ _
  have hdistinct : ((sortEntries entries).map Prod.fst).Nodup :=
    (((sortEntries_perm entries).map Prod.fst).nodup_iff).2 h
  rw [List.Nodup, List.pairwise_map] at hdistinct
  refine (List.pairwise_and_iff.2 ⟨hsorted, hdistinct⟩).imp ?_
  rintro p q ⟨hle, hne⟩
  exact Std.lt_of_le_of_ne (of_decide_eq_true hle) hne

theorem sortEntries_of_ascending (h : Ascending entries) : sortEntries entries = entries := by
  refine List.mergeSort_of_pairwise (h.imp fun hlt => ?_)
  rw [decide_eq_true_iff]
  exact Std.le_of_lt hlt

theorem forall₂_of_map_eq {α β γ : Type} {f : α → γ} {h : β → γ} {l : List α} {l' : List β}
    (heq : l.map f = l'.map h) : List.Forall₂ (fun a b => f a = h b) l l' := by
  have hall : List.Forall₂ (· = ·) (l.map f) (l'.map h) := heq ▸ List.forall₂_refl _
  rwa [List.forall₂_map_left_iff, List.forall₂_map_right_iff] at hall

/-- Items of two lists that belong together are items of these lists. -/
theorem forall₂_imp_of_mem {α β : Type} {P Q : α → β → Prop} {l : List α} {l' : List β}
    (h : List.Forall₂ P l l') (hPQ : ∀ a ∈ l, ∀ b ∈ l', P a b → Q a b) : List.Forall₂ Q l l' := by
  refine List.forall₂_iff_zip.2 ⟨h.length_eq, fun {a b} hab => ?_⟩
  obtain ⟨ha, hb⟩ := List.of_mem_zip hab
  exact hPQ a ha b hb (List.forall₂_zip h hab)

/-- Sorting brings entries with the same keys together, whatever their order was. -/
theorem forall₂_sortEntries {β : Type} {P : String → α → β → Prop} {entries' : List (String × β)}
    (hnodup : (entries.map Prod.fst).Nodup)
    (hkeys : (entries.map Prod.fst).Perm (entries'.map Prod.fst))
    (h : ∀ key a b, (key, a) ∈ entries → (key, b) ∈ entries' → P key a b) :
    List.Forall₂ (fun p q => p.1 = q.1 ∧ P p.1 p.2 q.2) (sortEntries entries)
      (sortEntries entries') := by
  have hascend := List.pairwise_map.2 (ascending_sortEntries hnodup)
  have hascend' := List.pairwise_map.2 (ascending_sortEntries (hkeys.nodup_iff.1 hnodup))
  -- two ascending lists with the same members are the same
  have hsame : (sortEntries entries).map Prod.fst = (sortEntries entries').map Prod.fst := by
    refine hascend.eq_of_mem_iff hascend' fun key => ?_
    rw [((sortEntries_perm entries).map _).mem_iff, ((sortEntries_perm entries').map _).mem_iff]
    exact hkeys.mem_iff
  refine forall₂_imp_of_mem (forall₂_of_map_eq hsame) fun p hp q hq heq => ⟨heq, ?_⟩
  refine h p.1 p.2 q.2 (mem_sortEntries.1 hp) ?_
  rw [heq]
  exact mem_sortEntries.1 hq

end StructGen.Schema
