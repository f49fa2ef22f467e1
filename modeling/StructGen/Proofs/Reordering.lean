import StructGen.Proofs.References
import Mathlib.Data.List.Forall2
import Mathlib.Data.List.Perm.Basic
import Mathlib.Data.Option.Defs

/-!
# Values with their entries in another order

Two values differ by the order of their entries if the entries of the objects inside one of them can
be permuted, at any depth, to give the other. Objects that have each key once then have the same
keys, and the values under a key differ by the order of their entries again.

* `Json.Reordered` is that relation, an equivalence;
* `Json.Matched` is what it means for the entries of two objects;
* `Reordered.elements?` tells what two related values list;
* `agree_valueAt` shows that a pointer leads to values that are related.
-/

namespace StructGen

theorem optionRel_refl {α : Type} {R : α → α → Prop} (hrefl : ∀ a, R a a) (a : Option α) :
    Option.Rel R a a := by
  cases a with
  | none => exact .none
  | some a => exact .some (hrefl a)

theorem optionRel_trans {α : Type} {R : α → α → Prop} (htrans : ∀ {a b c}, R a b → R b c → R a c)
    {a b c : Option α} (h : Option.Rel R a b) (h' : Option.Rel R b c) : Option.Rel R a c := by
  cases h with
  | none => exact h'
  | some h =>
    cases h' with
    | some h' => exact .some (htrans h h')

namespace Json

/-- Two values differ by the order of the entries of the objects inside them. -/
inductive Reordered : Json → Json → Prop
  | refl (v : Json) : Reordered v v
  | trans {u v w : Json} (h : Reordered u v) (h' : Reordered v w) : Reordered u w
  | perm {entries entries' : List (String × Json)} (h : entries.Perm entries') :
      Reordered (.obj entries) (.obj entries')
  | entry {before after : List (String × Json)} {key : String} {v v' : Json}
      (h : Reordered v v') :
      Reordered (.obj (before ++ (key, v) :: after)) (.obj (before ++ (key, v') :: after))
  | item {before after : List Json} {v v' : Json} (h : Reordered v v') :
      Reordered (.arr (before ++ v :: after)) (.arr (before ++ v' :: after))

variable {u v w : Json} {items : List Json} {entries entries' : Entries} {key : String}

theorem Reordered.symm (h : Reordered v w) : Reordered w v := by
  induction h with
  | refl v => exact .refl v
  | trans _ _ ih ih' => exact ih'.trans ih
  | perm h => exact .perm h.symm
  | entry _ ih => exact .entry ih
  | item _ ih => exact .item ih

/-- The values under all keys may change at once. -/
theorem Reordered.of_forall₂
    (h : List.Forall₂ (fun p q => p.1 = q.1 ∧ Reordered p.2 q.2) entries entries') :
    Reordered (.obj entries) (.obj entries') := by
  have hrest : ∀ before, Reordered (.obj (before ++ entries)) (.obj (before ++ entries')) := by
    induction h with
    | nil => exact fun _ => .refl _
    | @cons p q entries entries' hpq _ ih =>
      obtain ⟨key, v⟩ := p
      obtain ⟨_, w⟩ := q
      obtain ⟨rfl, hvw⟩ := hpq
      intro before
      have hstep := ih (before ++ [(key, w)])
      rw [List.append_assoc, List.append_assoc] at hstep
      exact (Reordered.entry hvw).trans hstep
  exact hrest []

/-! ### Keys and references -/

theorem mem_references_obj {reference : String} : reference ∈ (obj entries).references ↔
    ∃ p ∈ entries, p.1 = "$ref" ∧ p.2.str? = some reference ∨ reference ∈ p.2.references := by
  rw [references]
  induction entries with
  | nil => simp [referencesEntries]
  | cons p entries ih =>
    obtain ⟨key, v⟩ := p
    rw [referencesEntries, List.mem_append, List.mem_append, ih, List.exists_mem_cons_iff]
    split_ifs with hkey
    · simp [hkey]
    · simp [hkey]

theorem mem_references_arr {reference : String} :
    reference ∈ (arr items).references ↔ ∃ v ∈ items, reference ∈ v.references := by
  rw [references]
  induction items with
  | nil => simp [referencesList]
  | cons v items ih => rw [referencesList, List.mem_append, ih, List.exists_mem_cons_iff]

theorem Reordered.str?_eq (h : Reordered v w) : v.str? = w.str? := by
  induction h with
  | refl v => rfl
  | trans _ _ ih ih' => exact ih.trans ih'
  | perm _ => rfl
  | entry _ _ => rfl
  | item _ _ => rfl

theorem Reordered.hasUniqueKeys (h : Reordered v w) (hv : v.hasUniqueKeys = true) :
    w.hasUniqueKeys = true := by
  induction h with
  | refl v => exact hv
  | trans _ _ ih ih' => exact ih' (ih hv)
  | perm h =>
    rw [hasUniqueKeys_obj] at hv ⊢
    exact ⟨((h.map Prod.fst).nodup_iff).1 hv.1, fun p hp => hv.2 p (h.mem_iff.2 hp)⟩
  | entry _ ih =>
    rw [hasUniqueKeys_obj, List.forall_mem_append, List.forall_mem_cons] at hv ⊢
    rw [List.map_append, List.map_cons] at hv ⊢
    exact ⟨hv.1, hv.2.1, ih hv.2.2.1, hv.2.2.2⟩
  | item _ ih =>
    rw [hasUniqueKeys_arr, List.forall_mem_append, List.forall_mem_cons] at hv ⊢
    exact ⟨hv.1, ih hv.2.1, hv.2.2⟩

theorem Reordered.references_subset (h : Reordered v w) : v.references ⊆ w.references := by
  induction h with
  | refl v => exact List.Subset.refl _
  | trans _ _ ih ih' => exact List.Subset.trans ih ih'
  | perm h =>
    intro reference hmem
    obtain ⟨p, hp, href⟩ := mem_references_obj.1 hmem
    exact mem_references_obj.2 ⟨p, h.mem_iff.1 hp, href⟩
  | entry h ih =>
    intro reference hmem
    obtain ⟨p, hp, href⟩ := mem_references_obj.1 hmem
    refine mem_references_obj.2 ?_
    rcases List.mem_append.1 hp with hp | hp
    · exact ⟨p, List.mem_append_left _ hp, href⟩
    rcases List.mem_cons.1 hp with rfl | hp
    · refine ⟨_, List.mem_append_right _ List.mem_cons_self, ?_⟩
      rw [h.str?_eq] at href
      exact href.imp_right fun hmem => ih hmem
    · exact ⟨p, List.mem_append_right _ (List.mem_cons_of_mem _ hp), href⟩
  | item _ ih =>
    intro reference hmem
    rw [mem_references_arr] at hmem ⊢
    obtain ⟨u, hu, href⟩ := hmem
    rcases List.mem_append.1 hu with hu | hu
    · exact ⟨u, List.mem_append_left _ hu, href⟩
    rcases List.mem_cons.1 hu with rfl | hu
    · exact ⟨_, List.mem_append_right _ List.mem_cons_self, ih href⟩
    · exact ⟨u, List.mem_append_right _ (List.mem_cons_of_mem _ hu), href⟩

/-! ### Parts -/

/-- Two values that are there or not differ by the order of their entries. -/
abbrev Agree (v w : Option Json) : Prop := Option.Rel Reordered v w

theorem Agree.refl (v : Option Json) : Agree v v := optionRel_refl .refl v

theorem Agree.trans {u v w : Option Json} (h : Agree u v) (h' : Agree v w) : Agree u w :=
  optionRel_trans .trans h h'

theorem Agree.bind_str? {v w : Option Json} (h : Agree v w) : v.bind str? = w.bind str? := by
  cases h with
  | none => rfl
  | some h => exact h.str?_eq

/-- Scalars do not change. -/
theorem Reordered.eq_of_scalar (h : Reordered v w) (hv : v.isCompound = false) : v = w := by
  induction h with
  | refl v => rfl
  | trans _ _ ih ih' =>
    obtain rfl := ih hv
    exact ih' hv
  | perm _ => cases hv
  | entry _ _ => cases hv
  | item _ _ => cases hv

theorem Reordered.isObject_iff (h : Reordered v w) :
    (∃ entries, v = .obj entries) ↔ ∃ entries, w = .obj entries := by
  induction h with
  | refl v => exact Iff.rfl
  | trans _ _ ih ih' => exact ih.trans ih'
  | perm _ => simp
  | entry _ _ => simp
  | item _ _ => simp

/-- The items of an array stay where they are. -/
theorem Reordered.of_arr (h : Reordered (.arr items) w) :
    ∃ items', w = .arr items' ∧ items.length = items'.length ∧
      ∀ i : Nat, Agree items[i]? items'[i]? := by
  generalize hv : Json.arr items = v at h
  induction h generalizing items with
  | refl v => exact ⟨items, hv.symm, rfl, fun _ => .refl _⟩
  | trans _ _ ih ih' =>
    obtain ⟨items₁, rfl, hlength, hitems⟩ := ih hv
    obtain ⟨items₂, rfl, hlength', hitems'⟩ := ih' rfl
    exact ⟨items₂, rfl, hlength.trans hlength', fun i => (hitems i).trans (hitems' i)⟩
  | perm _ => cases hv
  | entry _ _ => cases hv
  | @item before after v v' h _ =>
    cases hv
    refine ⟨_, rfl, by simp, fun i => ?_⟩
    rw [List.getElem?_append, List.getElem?_append]
    split_ifs
    · exact .refl _
    · cases i - before.length with
      | zero => exact .some h
      | succ j => exact .refl _

/-- Two objects have the same keys, and values under them that differ by the order of their
entries. -/
structure Matched (entries entries' : Entries) : Prop where
  keys : (entries.map Prod.fst).Perm (entries'.map Prod.fst)
  lookup : ∀ key, Agree (entries.lookup key) (entries'.lookup key)

theorem Reordered.of_obj (h : Reordered (.obj entries) w)
    (hkeys : (entries.map Prod.fst).Nodup) : ∃ entries', w = .obj entries' ∧
      Matched entries entries' := by
  generalize hv : Json.obj entries = v at h
  induction h generalizing entries with
  | refl v => exact ⟨entries, hv.symm, .refl _, fun _ => .refl _⟩
  | trans _ _ ih ih' =>
    obtain ⟨entries₁, rfl, h₁⟩ := ih hkeys hv
    obtain ⟨entries₂, rfl, h₂⟩ := ih' (h₁.keys.nodup_iff.1 hkeys) rfl
    exact ⟨entries₂, rfl, h₁.keys.trans h₂.keys, fun key => (h₁.lookup key).trans (h₂.lookup key)⟩
  | @perm entries entries' h =>
    cases hv
    have hkeys' := ((h.map Prod.fst).nodup_iff).1 hkeys
    refine ⟨entries', rfl, h.map _, fun key => ?_⟩
    -- a key that stands once has one value, wherever it stands
    have hlookup : entries.lookup key = entries'.lookup key := by
      refine Option.ext fun v => ?_
      exact ⟨fun hv => lookup_of_mem hkeys' (h.mem_iff.1 (mem_of_lookup hv)),
        fun hv => lookup_of_mem hkeys (h.mem_iff.2 (mem_of_lookup hv))⟩
    rw [hlookup]
    exact .refl _
  | @entry before after k v v' h _ =>
    cases hv
    refine ⟨_, rfl, by simp, fun key => ?_⟩
    rw [List.lookup_append, List.lookup_append, List.lookup_cons, List.lookup_cons]
    cases before.lookup key with
    | some u => exact .refl _
    | none =>
      cases key == k with
      | true => exact .some h
      | false => exact .refl _
  | item _ _ => cases hv

/-! ### What a value lists -/

/-- Two values list the same texts, in some order, and as many values that are no texts. -/
theorem Reordered.elements? (h : Reordered v w) :
    Option.Rel (fun l l' => (l.map str?).Perm (l'.map str?)) v.elements? w.elements? := by
  induction h with
  | refl v => exact optionRel_refl (fun _ => .refl _) _
  | trans _ _ ih ih' => exact optionRel_trans .trans ih ih'
  | perm h => exact .some ((h.map _).map _)
  | entry _ _ => exact .some (by simp)
  | item h _ => exact .some (by simp [h.str?_eq])

end Json

namespace Schema

open Json (Reordered Agree Matched)

variable {v w : Json}

/-! ### Following a pointer -/

theorem agree_itemAt? {items items' : List Json} (hlength : items.length = items'.length)
    (h : ∀ i : Nat, Agree items[i]? items'[i]?) (index : Int) :
    Agree (itemAt? items index) (itemAt? items' index) := by
  unfold itemAt?
  rw [hlength]
  split_ifs
  · exact h _
  · exact .none
  · exact h _

/-- Segments lead to values that differ by the order of their entries. -/
theorem agree_follow (h : Reordered v w) (hkeys : v.hasUniqueKeys = true)
    (segments : List (List Char)) : Agree (follow v segments) (follow w segments) := by
  induction segments generalizing v w with
  | nil => exact .some h
  | cons segment segments ih =>
    -- what is left is to follow the rest from two parts that agree
    have hrest : ∀ {a b : Option Json}, part v segment = .ok a → part w segment = .ok b →
        Agree a b → Agree (follow v (segment :: segments)) (follow w (segment :: segments)) := by
      intro a b ha hb hab
      rw [follow, follow, ha, hb]
      cases hab with
      | none => exact .none
      | some hab => exact ih hab ((part_within ha).uniqueKeys hkeys)
    cases v with
    | obj entries =>
      obtain ⟨entries', rfl, hmatched⟩ := h.of_obj (Json.nodup_keys hkeys)
      exact hrest rfl rfl (hmatched.lookup _)
    | arr items =>
      obtain ⟨items', rfl, hlength, hitems⟩ := h.of_arr
      cases hindex : Text.readInteger segment with
      | none =>
        rw [follow, follow, part, part, hindex]
        exact .none
      | some index =>
        refine hrest ?_ ?_ (agree_itemAt? hlength hitems index)
        · rw [part, hindex]
        · rw [part, hindex]
    | _ =>
      rw [← h.eq_of_scalar rfl]
      exact .refl _

/-- **A pointer leads to values that differ by the order of their entries.** -/
theorem agree_valueAt (h : Reordered v w) (hkeys : v.hasUniqueKeys = true) (pointer : String) :
    Agree (valueAt v pointer) (valueAt w pointer) := by
  unfold valueAt
  split
  · exact .some h
  · split_ifs
    · exact agree_follow h hkeys _
    · exact .none

end Schema

end StructGen
