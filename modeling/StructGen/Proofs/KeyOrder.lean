import StructGen.Proofs.GeneratedSource
import StructGen.Proofs.PlainDocuments
import StructGen.Proofs.Reordering
import StructGen.Proofs.TwinGraphs

/-!
# The order of the entries does not matter

Documents that differ by the order of their entries are read into graphs whose nodes are met in
different orders. They are at the same places, and nodes at the same place say the same, since what
they say is what stands at their place. Compiling sorts wherever it goes through entries, so it
generates the same.

* `Reached.reordered` shows that the messages lead to the same places, `Rereading.warnings_perm` that
  there are the same warnings;
* `SameNode` is what two nodes at the same place have in common: `Rereading.sameNode`;
* `twins_of_reordered` shows that compiling cannot tell the two documents apart;
* `generated_of_reordered` is the result for documents with plain references.
-/

namespace StructGen.Schema

open Json (Reordered Agree Matched)
open Relation

/-! ### Lists of texts -/

/-- Two lists hold the same texts, in some order, and as many values that are no texts. -/
def SameTexts (l l' : List Json) : Prop := (l.map Json.str?).Perm (l'.map Json.str?)

theorem str?_eq_some {v : Json} {s : String} : v.str? = some s ↔ v = .str s := by
  cases v <;> simp [Json.str?]

theorem str_mem_iff {l : List Json} {s : String} : .str s ∈ l ↔ some s ∈ l.map Json.str? := by
  simp [str?_eq_some]

theorem SameTexts.contains {l l' : List Json} (h : SameTexts l l') (s : String) :
    l.contains (.str s) = l'.contains (.str s) := by
  rw [Bool.eq_iff_iff, List.contains_iff_mem, List.contains_iff_mem, str_mem_iff, str_mem_iff]
  exact h.mem_iff

theorem SameTexts.eq_singleton {l l' : List Json} {s : String} (h : SameTexts l l')
    (hl : l = [.str s]) : l' = [.str s] := by
  rw [hl] at h
  have hmap := List.perm_singleton.1 h.symm
  obtain ⟨v, rfl, hv⟩ := List.map_eq_singleton_iff.1 hmap
  rw [str?_eq_some.1 hv]

theorem SameTexts.eq_nil {l l' : List Json} (h : SameTexts l l') (hl : l = []) : l' = [] := by
  rw [hl] at h
  exact List.map_eq_nil_iff.1 (List.nil_perm.1 h)

/-- A permutation of two items. -/
theorem perm_pair_iff {α : Type} {a b c d : α} :
    [a, b].Perm [c, d] ↔ a = c ∧ b = d ∨ a = d ∧ b = c := by
  constructor
  · intro h
    have ha : a ∈ [c, d] := h.mem_iff.1 (by simp)
    rcases List.mem_cons.1 ha with rfl | ha
    · exact Or.inl ⟨rfl, by simpa using h⟩
    · obtain rfl := List.mem_singleton.1 ha
      have h' := h.trans (List.Perm.swap a c [])
      exact Or.inr ⟨rfl, by simpa using h'⟩
  · rintro (⟨rfl, rfl⟩ | ⟨rfl, rfl⟩)
    · exact .refl _
    · exact .swap _ _ _

/-- A list of types names one beside null if that is its only text, or null is the other one. -/
theorem primaryType_eq_str {types : List Json} {name : String} :
    primaryType types = some (.str name) ↔ (types.map Json.str?).Perm [some name] ∨
      (types.map Json.str?).Perm [some "null", some name] := by
  rcases types with _ | ⟨t, _ | ⟨u, _ | ⟨v, rest⟩⟩⟩
  · simp [primaryType]
  · have hlength : ¬ [t.str?].Perm [some "null", some name] := fun h => by simpa using h.length_eq
    simp only [primaryType, List.map_cons, List.map_nil, List.perm_singleton, hlength, or_false,
      List.cons.injEq, and_true, str?_eq_some]
    grind
  · have hlength : ¬ [t.str?, u.str?].Perm [some name] := fun h => by simpa using h.length_eq
    simp only [primaryType, List.map_cons, List.map_nil, hlength, false_or, perm_pair_iff,
      str?_eq_some]
    grind
  · have hlength : ¬ (List.map Json.str? (t :: u :: v :: rest)).Perm [some "null", some name] :=
      fun h => by simpa using h.length_eq
    simpa [primaryType] using hlength

theorem lists_none {l : List Json} : Lists none l ↔ l = [] := by
  simp [Lists]

theorem lists_some {v : Json} {l : List Json} : Lists (some v) l ↔ v.elements? = some l := by
  simp [Lists]

theorem Lists.sameTexts {a b : Option Json} {l l' : List Json} (hl : Lists a l) (h : Agree a b)
    (hl' : Lists b l') : SameTexts l l' := by
  cases h with
  | none =>
    rw [lists_none.1 hl, lists_none.1 hl']
    exact .refl _
  | some h =>
    have hperm := h.elements?
    rw [lists_some.1 hl, lists_some.1 hl'] at hperm
    cases hperm with
    | some hperm => exact hperm

theorem ListsTypes.sameTexts {a b : Option Json} {l l' : List Json} (hl : ListsTypes a l)
    (h : Agree a b) (hl' : ListsTypes b l') : SameTexts l l' := by
  have hstr : ∀ s, a = some (.str s) ↔ b = some (.str s) := by
    intro s
    cases h with
    | none => simp
    | some h => simp only [Option.some.injEq, ← str?_eq_some, h.str?_eq]
  rcases hl with ⟨s, hs, rfl⟩ | ⟨hno, hl⟩
  · rcases hl' with ⟨s', hs', rfl⟩ | ⟨hno', -⟩
    · cases ((hstr s).1 hs).symm.trans hs'
      exact .refl _
    · exact absurd ((hstr s).1 hs) (hno' s)
  · rcases hl' with ⟨s', hs', -⟩ | ⟨-, hl'⟩
    · exact absurd ((hstr s').2 hs') (hno s')
    · exact hl.sameTexts h hl'

/-! ### What stands at a place -/

section Places

variable {contents contents' : Json} {entries entries' : Entries} {p q : String}

theorem valueAt_within {v : Json} (h : valueAt contents p = some v) : v.Within contents := by
  unfold valueAt at h
  split at h
  · cases h
    exact .refl _
  · split_ifs at h
    exact follow_within h

/-- An object stands where another one stands that differs by the order of its entries. -/
theorem exists_valueAt (h : Reordered contents contents') (hkeys : contents.hasUniqueKeys = true)
    (hp : valueAt contents p = some (.obj entries)) :
    ∃ entries', valueAt contents' p = some (.obj entries') ∧ Matched entries entries' := by
  have hnodup := Json.nodup_keys ((valueAt_within hp).uniqueKeys hkeys)
  rcases optionRel_cases (agree_valueAt h hkeys p) with ⟨hnone, -⟩ | ⟨v, w, hv, hw, hvw⟩
  · rw [hp] at hnone
    cases hnone
  · cases hp.symm.trans hv
    obtain ⟨entries', rfl, hmatched⟩ := hvw.of_obj hnodup
    exact ⟨entries', hw, hmatched⟩

theorem textOf_of_matched (h : Matched entries entries') (keyword : String) :
    textOf entries keyword = textOf entries' keyword := (h.lookup keyword).bind_str?

/-- The objects under a keyword have the same keys. -/
theorem exists_lookup_obj (h : Matched entries entries') {key : String} {inner : Entries}
    (hkeys : (inner.map Prod.fst).Nodup) (hinner : entries.lookup key = some (.obj inner)) :
    ∃ inner', entries'.lookup key = some (.obj inner') ∧ Matched inner inner' := by
  rcases optionRel_cases (h.lookup key) with ⟨hnone, -⟩ | ⟨v, w, hv, hw, hvw⟩
  · rw [hinner] at hnone
    cases hnone
  · cases hinner.symm.trans hv
    obtain ⟨inner', rfl, hmatched⟩ := hvw.of_obj hkeys
    exact ⟨inner', hw, hmatched⟩

theorem lookup_eq_none_of_matched (h : Matched entries entries') {key : String}
    (hnone : entries.lookup key = none) : entries'.lookup key = none := by
  rcases optionRel_cases (h.lookup key) with ⟨-, hnone'⟩ | ⟨v, w, hv, -, -⟩
  · exact hnone'
  · rw [hnone] at hv
    cases hv

theorem Points.reordered (hpq : Points contents p q) (h : Reordered contents contents')
    (hkeys : contents.hasUniqueKeys = true) : Points contents' p q := by
  obtain ⟨entries, reference, hp, href, hq⟩ := hpq
  obtain ⟨entries', hp', hmatched⟩ := exists_valueAt h hkeys hp
  exact ⟨entries', reference, hp', by rw [← textOf_of_matched hmatched, href], hq⟩

theorem Contains.reordered (hpq : Contains contents p q) (h : Reordered contents contents')
    (hkeys : contents.hasUniqueKeys = true) : Contains contents' p q := by
  obtain ⟨entries, properties, schema, hp, href, hproperties, hbelow⟩ := hpq
  obtain ⟨entries', hp', hmatched⟩ := exists_valueAt h hkeys hp
  have hinner : ∀ {key : String} {inner : Entries}, entries.lookup key = some (.obj inner) →
      (inner.map Prod.fst).Nodup := fun hlookup => Json.nodup_keys
    ((Json.entry_within (mem_of_lookup hlookup)).uniqueKeys ((valueAt_within hp).uniqueKeys hkeys))
  have hproperties' : ∃ properties', propertiesOf entries' = .ok properties' ∧
      (properties.map Prod.fst).Perm (properties'.map Prod.fst) := by
    rcases propertiesOf_eq_ok hproperties with ⟨hnone, rfl⟩ | hlookup
    · refine ⟨[], ?_, .refl _⟩
      rw [propertiesOf, lookup_eq_none_of_matched hmatched hnone]
    · obtain ⟨properties', hlookup', hinner'⟩ :=
        exists_lookup_obj hmatched (hinner hlookup) hlookup
      refine ⟨properties', ?_, hinner'.keys⟩
      rw [propertiesOf, hlookup']
  obtain ⟨properties', hok, hperm⟩ := hproperties'
  rcases mem_below.1 hbelow with ⟨name, hname, rfl⟩ | ⟨hitems, rfl⟩
  · have hmem := hperm.mem_iff.1 (List.mem_map_of_mem hname)
    obtain ⟨⟨_, schema'⟩, hname', rfl⟩ := List.mem_map.1 hmem
    exact ⟨entries', properties', schema', hp', by rw [← textOf_of_matched hmatched, href], hok,
      mem_below.2 (Or.inl ⟨_, hname', rfl⟩)⟩
  · obtain ⟨hlookup, items, rfl⟩ := itemsOf_eq_some.1 hitems
    obtain ⟨items', hlookup', -⟩ := exists_lookup_obj hmatched (hinner hlookup) hlookup
    exact ⟨entries', properties', .obj items', hp', by rw [← textOf_of_matched hmatched, href], hok,
      mem_below.2 (Or.inr ⟨itemsOf_eq_some.2 ⟨hlookup', items', rfl⟩, rfl⟩)⟩

theorem HasMessage.reordered {label : String × String} (hlabel : HasMessage contents label)
    (h : Reordered contents contents') (hkeys : contents.hasUniqueKeys = true) :
    HasMessage contents' label := by
  obtain ⟨schemas, versions, schema, hschemas, htype, hversion⟩ := hlabel
  obtain ⟨entries, rfl, hlookup⟩ := Json.get?_eq_some hschemas
  have hwithin := Json.entry_within (mem_of_lookup hlookup)
  have hnodup := Json.nodup_keys (hwithin.uniqueKeys hkeys)
  obtain ⟨entries', rfl, hmatched⟩ := h.of_obj (Json.nodup_keys hkeys)
  obtain ⟨schemas', hlookup', hschemas'⟩ := exists_lookup_obj hmatched hnodup hlookup
  obtain ⟨versions', hversions', hmatched'⟩ := exists_lookup_obj hschemas'
    (Json.nodup_keys (((Json.entry_within htype).trans hwithin).uniqueKeys hkeys))
    (lookup_of_mem hnodup htype)
  have hmem := hmatched'.keys.mem_iff.1 (List.mem_map_of_mem hversion)
  obtain ⟨⟨_, schema'⟩, hversion', heq⟩ := List.mem_map.1 hmem
  obtain rfl : _ = label.2 := heq
  exact ⟨schemas', versions', schema', hlookup', mem_of_lookup hversions', hversion'⟩

/-- The messages lead to the same places. -/
theorem Reached.reordered (hp : Reached contents p) (h : Reordered contents contents')
    (hkeys : contents.hasUniqueKeys = true) : Reached contents' p := by
  induction hp with
  | message hlabel => exact .message (hlabel.reordered h hkeys)
  | target _ hpq ih => exact .target ih (hpq.reordered h hkeys)
  | inside _ hpq ih => exact .inside ih (hpq.reordered h hkeys)

theorem warningsAt_of_reordered (h : Reordered contents contents')
    (hkeys : contents.hasUniqueKeys = true) (formats : List String) (p : String) :
    warningsAt formats contents p = warningsAt formats contents' p := by
  unfold warningsAt
  rcases optionRel_cases (agree_valueAt h hkeys p) with ⟨hv, hw⟩ | ⟨v, w, hv, hw, hvw⟩
  · rw [hv, hw]
  · rw [hv, hw]
    cases v with
    | obj entries =>
      obtain ⟨entries', rfl, hmatched⟩ :=
        hvw.of_obj (Json.nodup_keys ((valueAt_within hv).uniqueKeys hkeys))
      simp only [warningsOf, textOf_of_matched hmatched]
    | arr items =>
      obtain ⟨items', rfl, -⟩ := hvw.of_arr
      rfl
    | _ => rw [← hvw.eq_of_scalar rfl]

end Places

/-! ### Nodes at the same place -/

/-- Two documents have been read from contents with plain references that differ by the order of
their entries. -/
structure Rereading (custom : List String) (contents contents' : Json) (d d' : Document) :
    Prop where
  reordered : Reordered contents contents'
  keys : contents.hasUniqueKeys = true
  references : contents.references.all isPlainReference = true
  first : (read custom contents).1 = .ok d
  second : (read custom contents').1 = .ok d'

/-- Two nodes of two graphs are at the same place. -/
def SamePlace (g g' : Graph) (x x' : NodeId) : Prop := ∃ p, g.At x p ∧ g'.At x' p

/-- What two nodes at the same place have in common. -/
structure SameNode (g g' : Graph) (n n' : Node) : Prop where
  ref : n.ref = none ↔ n'.ref = none
  types : SameTexts n.types n'.types
  required : SameTexts n.required n'.required
  description : n.description = n'.description
  properties : TwinProperties (SamePlace g g') n.sortedProperties n'.sortedProperties
  items : Option.Rel (SamePlace g g') n.items n'.items

theorem SameNode.tag_iff {n n' : Node} {g g' : Graph} (h : SameNode g g' n n') (name : String) :
    n.primaryType = some (.str name) ↔ n'.primaryType = some (.str name) := by
  have hperm : ∀ l : List (Option String), (n.types.map Json.str?).Perm l ↔
      (n'.types.map Json.str?).Perm l := fun l =>
    ⟨fun hl => h.types.symm.trans hl, fun hl => h.types.trans hl⟩
  rw [Node.primaryType, Node.primaryType, primaryType_eq_str, primaryType_eq_str, hperm, hperm]

/-- Nodes that describe objects with the same keys have the same properties. -/
theorem twinProperties_of_describes {g g' : Graph} {n n' : Node} {entries entries' : Entries}
    (h : g.Describes n entries) (h' : g'.Describes n' entries') (hmatched : Matched entries entries')
    (hkeys : (Json.obj entries).hasUniqueKeys = true) (hp : n.pointer = n'.pointer) :
    TwinProperties (SamePlace g g') n.sortedProperties n'.sortedProperties := by
  have hnames : (n.properties.map Prod.fst).Nodup ∧
      (n.properties.map Prod.fst).Perm (n'.properties.map Prod.fst) := by
    rcases h.properties with ⟨hnone, hnil⟩ | ⟨properties, hlookup, hnames⟩
    · have hnone' := lookup_eq_none_of_matched hmatched hnone
      rcases h'.properties with ⟨-, hnil'⟩ | ⟨properties', hlookup', -⟩
      · rw [hnil, hnil']
        exact ⟨.nil, .refl _⟩
      · rw [hnone'] at hlookup'
        cases hlookup'
    · have hnodup := Json.nodup_keys
        ((Json.entry_within (mem_of_lookup hlookup)).uniqueKeys hkeys)
      obtain ⟨inner, hinner, hmatched'⟩ := exists_lookup_obj hmatched hnodup hlookup
      rcases h'.properties with ⟨hnone', -⟩ | ⟨properties', hlookup', hnames'⟩
      · rw [hinner] at hnone'
        cases hnone'
      · cases hinner.symm.trans hlookup'
        rw [hnames, hnames']
        exact ⟨hnodup, hmatched'.keys⟩
  refine forall₂_sortEntries (P := fun _ x x' => SamePlace g g' x x') hnames.1 hnames.2
    fun name x x' hx hx' => ⟨_, h.property_places _ hx, ?_⟩
  rw [hp]
  exact h'.property_places _ hx'

theorem samePlace_items_of_describes {g g' : Graph} {n n' : Node} {entries entries' : Entries}
    (h : g.Describes n entries) (h' : g'.Describes n' entries') (hmatched : Matched entries entries')
    (hp : n.pointer = n'.pointer) : Option.Rel (SamePlace g g') n.items n'.items := by
  have hobject : (∃ items, entries.lookup "items" = some (.obj items)) ↔
      ∃ items, entries'.lookup "items" = some (.obj items) := by
    rcases optionRel_cases (hmatched.lookup "items") with ⟨hv, hw⟩ | ⟨v, w, hv, hw, hvw⟩
    · rw [hv, hw]
    · simp only [hv, hw, Option.some.injEq]
      exact hvw.isObject_iff
  have hsome := h.items.trans (hobject.trans h'.items.symm)
  cases hx : n.items with
  | none =>
    cases hx' : n'.items with
    | none => exact .none
    | some x' => rw [hx, hx'] at hsome; simp at hsome
  | some x =>
    cases hx' : n'.items with
    | none => rw [hx, hx'] at hsome; simp at hsome
    | some x' => exact .some ⟨_, h.items_place x hx, hp ▸ h'.items_place x' hx'⟩

namespace Rereading

variable {custom : List String} {contents contents' : Json} {d d' : Document} {x x' : NodeId}

theorem symm (h : Rereading custom contents contents' d d') :
    Rereading custom contents' contents d' d where
  reordered := h.reordered.symm
  keys := h.reordered.hasUniqueKeys h.keys
  references := by
    rw [List.all_eq_true]
    exact fun r hr => List.all_eq_true.1 h.references r (h.reordered.symm.references_subset hr)
  first := h.second
  second := h.first

theorem plain (h : Rereading custom contents contents' d d') :
    (Source.ofDocument custom contents).Plain := ⟨h.keys, h.references⟩

/-- The nodes are at the same places. -/
theorem pointers_perm (h : Rereading custom contents contents' d d') :
    d.graph.pointers.Perm d'.graph.pointers := by
  refine (List.perm_ext_iff_of_nodup (nodup_pointers_of_read h.first)
    (nodup_pointers_of_read h.second)).2 fun p => ?_
  rw [mem_pointers_iff_reached h.plain h.first, mem_pointers_iff_reached h.symm.plain h.second]
  exact ⟨fun hp => hp.reordered h.reordered h.keys,
    fun hp => hp.reordered h.symm.reordered h.symm.keys⟩

theorem size_eq (h : Rereading custom contents contents' d d') : d.graph.size = d'.graph.size := by
  simpa [Graph.pointers, Graph.size] using h.pointers_perm.length_eq

/-- The warnings are the same, in some order. -/
theorem warnings_perm (h : Rereading custom contents contents' d d') :
    d.warnings.Perm d'.warnings := by
  have hsame : warningsAt (standardFormats ++ custom) contents =
      warningsAt (standardFormats ++ custom) contents' :=
    funext fun p => warningsAt_of_reordered h.reordered h.keys _ p
  refine (warnings_of_read h.plain h.first).trans ?_
  rw [hsame]
  exact (h.pointers_perm.flatMap_right _).trans (warnings_of_read h.symm.plain h.second).symm

/-- The messages are the same and come in the same order. -/
theorem labels_eq (h : Rereading custom contents contents' d d') :
    d.messages.map Message.label = d'.messages.map Message.label := by
  obtain ⟨schemas, hschemas, hlabels⟩ := labels_of_read h.first
  obtain ⟨schemas', hschemas', hlabels'⟩ := labels_of_read h.second
  rw [hlabels, hlabels']
  refine (pairwise_labelsOf h.keys hschemas).eq_of_mem_iff
    (pairwise_labelsOf h.symm.keys hschemas') fun label => ?_
  rw [mem_labelsOf hschemas, mem_labelsOf hschemas']
  exact ⟨fun hl => hl.reordered h.reordered h.keys,
    fun hl => hl.reordered h.symm.reordered h.symm.keys⟩

theorem id_eq (h : Rereading custom contents contents' d d') : d.id = d'.id := by
  obtain ⟨schemas, hschemas, -⟩ := labels_of_read h.first
  obtain ⟨entries, rfl, -⟩ := Json.get?_eq_some hschemas
  obtain ⟨entries', rfl, hmatched⟩ := h.reordered.of_obj (Json.nodup_keys h.keys)
  have hid := id_of_read h.first
  rw [Json.get?, (hmatched.lookup "id").bind_str?] at hid
  exact Option.some.inj (hid.symm.trans (id_of_read h.second))

/-- **Nodes at the same place say the same.** -/
theorem sameNode (h : Rereading custom contents contents' d d')
    (hx : SamePlace d.graph d'.graph x x') :
    SameNode d.graph d'.graph (d.graph.node x) (d'.graph.node x') := by
  obtain ⟨p, ⟨hx, hp⟩, hx', hp'⟩ := hx
  obtain ⟨entries, hmeets, hmirrors⟩ := (finished_of_read h.first hx).mirrors
  obtain ⟨entries', hmeets', hmirrors'⟩ := (finished_of_read h.second hx').mirrors
  have hvalue := h.plain.valueAt hmeets
  have hvalue' := h.symm.plain.valueAt hmeets'
  have hkeys := (valueAt_within hvalue).uniqueKeys h.keys
  have hmatched : Matched entries entries' := by
    obtain ⟨entries₁, h₁, hmatched⟩ := exists_valueAt h.reordered h.keys hvalue
    rw [hp, ← hp'] at h₁
    cases hvalue'.symm.trans h₁
    exact hmatched
  have href : ∀ reference, entries.lookup "$ref" = some (.str reference) ↔
      entries'.lookup "$ref" = some (.str reference) := by
    intro reference
    rw [← textOf_eq_some, ← textOf_eq_some, textOf_of_matched hmatched]
  cases hmirrors with
  | reference hlookup hnode _ =>
    cases hmirrors' with
    | reference _ hnode' _ =>
      rw [hnode, hnode']
      exact ⟨by simp, .refl _, .refl _, rfl, by simp [Node.sortedProperties], .none⟩
    | schema hno _ => exact absurd ((href _).1 hlookup) (hno _)
  | schema hno hdescribes =>
    cases hmirrors' with
    | reference hlookup _ _ => exact absurd ((href _).2 hlookup) (hno _)
    | schema _ hdescribes' =>
      have hpointer := hp.trans hp'.symm
      exact
        { ref := by rw [hdescribes.ref, hdescribes'.ref]
          types := hdescribes.types.sameTexts (hmatched.lookup _) hdescribes'.types
          required := hdescribes.required.sameTexts (hmatched.lookup _) hdescribes'.required
          description := by
            rw [hdescribes.description, hdescribes'.description, (hmatched.lookup _).bind_str?]
          properties := twinProperties_of_describes hdescribes hdescribes' hmatched hkeys hpointer
          items := samePlace_items_of_describes hdescribes hdescribes' hmatched hpointer }

end Rereading

/-! ### Compiling cannot tell them apart -/

/-- Two nodes are at the same place, and compiling can declare all that they lead to. -/
def SettledTogether (d d' : Document) (x x' : NodeId) : Prop :=
  SamePlace d.graph d'.graph x x' ∧ d.graph.Settled x ∧ d'.graph.Settled x'

/-- A settled reference is to a node that is none. -/
theorem Graph.Settled.ref_target_eq_none {g : Graph} {x t : NodeId} (hx : g.Settled x)
    (hg : g.AllLinked) (href : (g.node x).ref = some t) : t < g.size ∧ (g.node t).ref = none := by
  have htypes := hx.2.types_ne_nil
  rw [Graph.target_of_ref href] at htypes
  refine ⟨Graph.lt_size_of_types htypes, ?_⟩
  by_contra hne
  exact htypes ((hg t).untyped hne)

namespace Rereading

variable {custom : List String} {contents contents' : Json} {d d' : Document} {x x' : NodeId}

theorem unique (h : Rereading custom contents contents' d d') {y y' : NodeId}
    (hx : SamePlace d.graph d'.graph x x') (hy : SamePlace d.graph d'.graph y y') :
    x = y ↔ x' = y' := by
  obtain ⟨p, hx, hx'⟩ := hx
  obtain ⟨q, hy, hy'⟩ := hy
  constructor
  · rintro rfl
    have hpq : p = q := hx.2.symm.trans hy.2
    exact hx'.unique (hpq ▸ hy') (nodup_pointers_of_read h.second)
  · rintro rfl
    have hpq : p = q := hx'.2.symm.trans hy'.2
    exact hx.unique (hpq ▸ hy) (nodup_pointers_of_read h.first)

/-- The references of nodes at the same place lead to the same place. -/
theorem samePlace_ref (h : Rereading custom contents contents' d d')
    (hx : SettledTogether d d' x x') {t t' : NodeId} (href : (d.graph.node x).ref = some t)
    (href' : (d'.graph.node x').ref = some t') : SamePlace d.graph d'.graph t t' := by
  obtain ⟨⟨p, ⟨-, hp⟩, -, hp'⟩, hsettled, hsettled'⟩ := hx
  obtain ⟨ht, hnone⟩ := hsettled.ref_target_eq_none (wellRead_of_read h.first).linked href
  obtain ⟨ht', hnone'⟩ := hsettled'.ref_target_eq_none (wellRead_of_read h.second).linked href'
  refine ⟨_, ⟨ht, rfl⟩, ht', ?_⟩
  have hpoints := points_of_ref h.plain h.first href
  have hpoints' := points_of_ref h.symm.plain h.second href'
  rw [hp] at hpoints
  rw [hp'] at hpoints'
  -- both targets are where the chain from the common place ends
  refine eq_of_transGen_points hpoints' ?_
    (not_points_of_ref_eq_none h.symm.plain h.second ht' hnone') fun q hq => ?_
  · exact TransGen.mono (fun _ _ hpq => hpq.reordered h.reordered h.keys) _ _ hpoints
  · exact not_points_of_ref_eq_none h.plain h.first ht hnone q
      (hq.reordered h.symm.reordered h.symm.keys)

theorem settled_of_leads (h : Rereading custom contents contents' d d')
    (hx : SettledTogether d d' x x') {y y' : NodeId} (hy : SamePlace d.graph d'.graph y y')
    (hleads : d.graph.Leads x y) (hleads' : d'.graph.Leads x' y') : SettledTogether d d' y y' :=
  ⟨hy, (hx.2.1.leads (wellRead_of_read h.first).linked hleads).1,
    (hx.2.2.leads (wellRead_of_read h.second).linked hleads').1⟩

theorem twins_node (h : Rereading custom contents contents' d d')
    (hx : SettledTogether d d' x x') :
    Node.Twins (SettledTogether d d') (d.graph.node x) (d'.graph.node x') := by
  have hnode := h.sameNode hx.1
  -- what is inside is at the same place anyway, and settled where compiling goes there
  refine
    { tag := hnode.tag_iff
      null := hnode.types.contains _
      description := hnode.description
      required := fun name => hnode.required.contains name
      properties := fun ho => ?_
      items := fun ha => ?_ }
  · have ho' := (hnode.tag_iff _).1 ho
    refine forall₂_imp_of_mem hnode.properties fun p hp q hq hpq => ⟨hpq.1, ?_⟩
    exact h.settled_of_leads hx hpq.2 (.property ho (List.mem_mergeSort.1 hp))
      (.property ho' (List.mem_mergeSort.1 hq))
  · have ha' := (hnode.tag_iff _).1 ha
    rcases optionRel_cases hnode.items with ⟨hc, hc'⟩ | ⟨c, c', hc, hc', hcc'⟩
    · rw [hc, hc']
      exact .none
    · rw [hc, hc']
      exact .some (h.settled_of_leads hx hcc' (.items ha hc) (.items ha' hc'))

theorem twins_graph (h : Rereading custom contents contents' d d') :
    Graph.Twins (SettledTogether d d') d.graph d'.graph := by
  have hrefs : ∀ {x x'}, SettledTogether d d' x x' →
      Option.Rel (SettledTogether d d') (d.graph.node x).ref (d'.graph.node x').ref := by
    intro x x' hx
    have hnone := (h.sameNode hx.1).ref
    cases href : (d.graph.node x).ref with
    | none => rw [hnone.1 href]; exact .none
    | some t =>
      cases href' : (d'.graph.node x').ref with
      | none => rw [hnone.2 href'] at href; cases href
      | some t' =>
        exact .some (h.settled_of_leads hx (h.samePlace_ref hx href href') (.target href)
          (.target href'))
  refine ⟨h.size_eq, fun hx hy => h.unique hx.1 hy.1, h.twins_node, fun hx => ?_, fun hx => ?_⟩
  · rcases optionRel_cases (hrefs hx) with ⟨href, href'⟩ | ⟨t, t', href, href', ht⟩
    · rwa [Graph.target_of_none href, Graph.target_of_none href']
    · rwa [Graph.target_of_ref href, Graph.target_of_ref href']
  · rcases optionRel_cases (hrefs hx) with ⟨href, href'⟩ | ⟨t, t', href, href', ht⟩
    · rw [href, href']
      exact .none
    · rw [href, href']
      obtain ⟨⟨p, ⟨-, hp⟩, -, hp'⟩, -⟩ := ht
      exact .some (hp.trans hp'.symm)

end Rereading

end StructGen.Schema

namespace StructGen.Go

open Schema (NodeId Graph Message Document Rereading SettledTogether)

variable {custom : List String} {contents contents' : Json} {d d' : Document} {s : Style}
  {c c' : Compiled}

/-- Two messages with the same type and version say the same to compiling. -/
theorem twins_message (h : Rereading custom contents contents' d d')
    (hcompile : (compile s d).1 = .ok c) (hcompile' : (compile s d').1 = .ok c') {m m' : Message}
    (hm : m ∈ d.messages) (hm' : m' ∈ d'.messages) (hlabel : m.label = m'.label) :
    Message.Twins (SettledTogether d d') d d' m m' := by
  obtain ⟨htype, hversion⟩ := Prod.mk.inj hlabel
  obtain ⟨ids, r, hcompiled⟩ := compilation_of_compile hcompile
  obtain ⟨ids', r', hcompiled'⟩ := compilation_of_compile hcompile'
  have hd := Schema.wellRead_of_read h.first
  have hd' := Schema.wellRead_of_read h.second
  have hplace : m'.place = m.place := by
    rw [Message.place, Message.place, htype, hversion]
  have hsame : Schema.SamePlace d.graph d'.graph m.node m'.node :=
    ⟨_, hd.messages m hm, hplace ▸ hd'.messages m' hm'⟩
  have hnode := h.sameNode hsame
  refine
    { type := htype
      version := hversion
      major := ?_
      isObject := fun hvalid => ?_
      unique := fun hx => h.unique hx.1 hsame
      properties := ?_
      required := fun name => hnode.required.contains name }
  · have hmajor := hd.majors m hm
    rw [hversion, hd'.majors m' hm'] at hmajor
    exact (Except.ok.inj hmajor).symm
  · simp only [Document.isObjectMessage, Bool.or_eq_true, List.isEmpty_iff, beq_iff_eq] at hvalid ⊢
    exact hvalid.imp hnode.types.eq_nil hnode.types.eq_singleton
  · refine Schema.forall₂_imp_of_mem hnode.properties fun p hp q hq hpq => ⟨hpq.1, hpq.2, ?_, ?_⟩
    · exact hcompiled.settled hm (List.mem_map_of_mem hp)
    · exact hcompiled'.settled hm' (List.mem_map_of_mem hq)

/-- **Compiling cannot tell the two documents apart.** -/
theorem twins_of_reordered (h : Rereading custom contents contents' d d')
    (hcompile : (compile s d).1 = .ok c) (hcompile' : (compile s d').1 = .ok c') :
    Document.Twins (SettledTogether d d') d d' where
  id := h.id_eq
  graph := h.twins_graph
  messages := Schema.forall₂_imp_of_mem (Schema.forall₂_of_map_eq h.labels_eq)
    fun _ hm _ hm' hlabel => twins_message h hcompile hcompile' hm hm' hlabel

/-- **What is generated does not depend on the order of the entries**: documents with plain
references that differ by the order of the entries of their objects, at any depth, have the same code
and the same metadata, and the same warnings in some order. -/
theorem generated_of_reordered {settings : Settings} {g g' : Generated}
    (hreordered : contents.Reordered contents') (hkeys : contents.hasUniqueKeys = true)
    (hplain : contents.references.all Schema.isPlainReference = true)
    (h : (generate settings contents).1 = .ok g) (h' : (generate settings contents').1 = .ok g') :
    g.code = g'.code ∧ g.metadata = g'.metadata ∧ g.warnings.Perm g'.warnings := by
  unfold generate at h h'
  simp only [Noted.andThen_eq_ok, Noted.silent] at h h'
  obtain ⟨custom, hcustom, d, hread, s, hstyle, h⟩ := h
  obtain ⟨custom', hcustom', d', hread', s', hstyle', h'⟩ := h'
  cases hcustom.symm.trans hcustom'
  cases hstyle.symm.trans hstyle'
  obtain ⟨c, code, hcompile, hcode, rfl⟩ := generateDocument_eq_ok.1 h
  obtain ⟨c', code', hcompile', hcode', rfl⟩ := generateDocument_eq_ok.1 h'
  have hsame : Rereading custom contents contents' d d' := ⟨hreordered, hkeys, hplain, hread, hread'⟩
  have htwins := twins_of_reordered hsame hcompile hcompile'
  cases (compile_of_twins htwins hcompile).symm.trans hcompile'
  cases hcode.symm.trans hcode'
  refine ⟨rfl, ?_, hsame.warnings_perm.map _⟩
  rw [htwins.messageTypes]

/-! #### A trip written forwards and backwards, and one with two schemas for a place -/

/-- An object with its entries forwards or backwards. -/
def inOrder (forwards : Bool) (entries : Entries) : Json :=
  .obj (if forwards then entries else entries.reverse)

theorem reordered_singleton {key : String} {v w : Json} (h : v.Reordered w) :
    (Json.obj [(key, v)]).Reordered (.obj [(key, w)]) := .of_forall₂ (.cons ⟨rfl, h⟩ .nil)

theorem reordered_inOrder {entries entries' : Entries}
    (h : List.Forall₂ (fun p q => p.1 = q.1 ∧ p.2.Reordered q.2) entries entries') :
    (inOrder true entries).Reordered (inOrder false entries') :=
  (Json.Reordered.of_forall₂ h).trans (.perm (List.reverse_perm _).symm)

/-- A text with a format. -/
def formatted (forwards : Bool) (format : String) : Json :=
  inOrder forwards [("type", .str "string"), ("format", .str format)]

/-- The schema of the stops of a trip. -/
def stopsOf (forwards : Bool) : Json :=
  inOrder forwards [("type", .str "array"), ("items", refTo "stop"),
    ("properties", inOrder forwards [("a", formatted forwards "x"), ("b", formatted forwards "y")])]

/-- A trip with all its entries forwards or backwards. -/
def orderedTrip (forwards : Bool) : Json :=
  inOrder forwards [("id", .str "travel"),
    ("schemas", .obj [("trip", .obj [("1", inOrder forwards [("type", .str "object"),
      ("properties", .obj [("stops", stopsOf forwards)])])])]),
    ("definitions", inOrder forwards [
      ("stop", inOrder forwards [("type", .str "object"),
        ("properties", .obj [("place", refTo "place")])]),
      ("place", formatted forwards "z")])]

theorem orderedTrip_reordered : (orderedTrip true).Reordered (orderedTrip false) := by
  have hformatted : ∀ format, (formatted true format).Reordered (formatted false format) :=
    fun _ => reordered_inOrder (.cons ⟨rfl, .refl _⟩ (.cons ⟨rfl, .refl _⟩ .nil))
  have hstops : (stopsOf true).Reordered (stopsOf false) := by
    refine reordered_inOrder (.cons ⟨rfl, .refl _⟩ (.cons ⟨rfl, .refl _⟩ (.cons ⟨rfl, ?_⟩ .nil)))
    exact reordered_inOrder (.cons ⟨rfl, hformatted _⟩ (.cons ⟨rfl, hformatted _⟩ .nil))
  refine reordered_inOrder (.cons ⟨rfl, .refl _⟩ (.cons ⟨rfl, ?_⟩ (.cons ⟨rfl, ?_⟩ .nil)))
  · refine reordered_singleton (reordered_singleton (reordered_inOrder ?_))
    exact .cons ⟨rfl, .refl _⟩ (.cons ⟨rfl, reordered_singleton hstops⟩ .nil)
  · refine reordered_inOrder (.cons ⟨rfl, reordered_inOrder ?_⟩ (.cons ⟨rfl, hformatted _⟩ .nil))
    exact .cons ⟨rfl, .refl _⟩ (.cons ⟨rfl, .refl _⟩ .nil)

set_option maxRecDepth 100000 in
theorem orderedTrip_generated : ∃ g g', (orderedTrip true).Reordered (orderedTrip false) ∧
    (orderedTrip true).hasUniqueKeys = true ∧
    (orderedTrip true).references.all Schema.isPlainReference = true ∧
    (generate .default (orderedTrip true)).1 = .ok g ∧
    (generate .default (orderedTrip false)).1 = .ok g' ∧ g.warnings ≠ g'.warnings ∧
    g.code = g'.code ∧ g.metadata = g'.metadata ∧ g.warnings.Perm g'.warnings := by
  have h : ((acceptableUnder defaultStyle (orderedTrip true)).bind fun p =>
      (acceptableUnder defaultStyle (orderedTrip false)).map fun p' =>
        decide (p.1.warnings.map (·.text) ≠ p'.1.warnings.map (·.text))) = some true := by
    decide +kernel
  obtain ⟨⟨d, c⟩, hd, h⟩ := Option.bind_eq_some_iff.1 h
  obtain ⟨⟨d', c'⟩, hd', h⟩ := Option.map_eq_some_iff.1 h
  obtain ⟨g, -, hg, hwarnings, -⟩ := exists_generated_by_default hd
  obtain ⟨g', -, hg', hwarnings', -⟩ := exists_generated_by_default hd'
  have hkeys : (orderedTrip true).hasUniqueKeys = true := by decide +kernel
  have hplain : (orderedTrip true).references.all Schema.isPlainReference = true := by
    decide +kernel
  refine ⟨g, g', orderedTrip_reordered, hkeys, hplain, hg, hg', ?_,
    generated_of_reordered orderedTrip_reordered hkeys hplain hg hg'⟩
  rw [hwarnings, hwarnings']
  exact of_decide_eq_true h

/-- The schema of a list of numbers, which are found by a pointer, with some parts. -/
def numbersWith (parts : Entries) : Json :=
  .obj [("type", .str "array"), ("items", refTo "x"), ("properties", .obj parts)]

/-- A trip with a list of numbers. -/
def partedTrip (parts : Entries) : Json :=
  documentOf (objectOf [("p", numbersWith parts)])
    [("x", .obj [("type", .str "integer")]),
      ("y", .obj [("id", .str "#%2Fdefinitions%2Fx"), ("type", .str "string")])]

theorem partedTrip_reordered {parts parts' : Entries} (h : parts.Perm parts') :
    (partedTrip parts).Reordered (partedTrip parts') := by
  have hnumbers : (numbersWith parts).Reordered (numbersWith parts') :=
    .of_forall₂ (.cons ⟨rfl, .refl _⟩ (.cons ⟨rfl, .refl _⟩ (.cons ⟨rfl, .perm h⟩ .nil)))
  have hmessage : (objectOf [("p", numbersWith parts)]).Reordered
      (objectOf [("p", numbersWith parts')]) :=
    .of_forall₂ (.cons ⟨rfl, .refl _⟩ (.cons ⟨rfl, reordered_singleton hnumbers⟩ .nil))
  refine .of_forall₂ (.cons ⟨rfl, .refl _⟩ (.cons ⟨rfl, ?_⟩ (.cons ⟨rfl, .refl _⟩ .nil)))
  exact reordered_singleton (reordered_singleton hmessage)

/-- A part that is found by an anchor that looks like the pointer. -/
def byAnchor : String × Json := ("a", .obj [("$ref", .str "#%2Fdefinitions%2Fx")])

/-- A part that is found by the pointer. -/
def byPointer : String × Json := ("b", refTo "x")

set_option maxRecDepth 100000 in
/-- Whichever of an anchor and a pointer comes first decides what stands at the place of both. -/
theorem partedTrip_depends_on_order : ∃ g g',
    (partedTrip [byAnchor, byPointer]).Reordered (partedTrip [byPointer, byAnchor]) ∧
    (partedTrip [byAnchor, byPointer]).hasUniqueKeys = true ∧
    (generate .default (partedTrip [byAnchor, byPointer])).1 = .ok g ∧
    (generate .default (partedTrip [byPointer, byAnchor])).1 = .ok g' ∧ g.code ≠ g'.code := by
  obtain ⟨g, g', hg, hg', hcode⟩ : ∃ g g',
      (generate .default (partedTrip [byAnchor, byPointer])).1 = .ok g ∧
      (generate .default (partedTrip [byPointer, byAnchor])).1 = .ok g' ∧ g.code ≠ g'.code :=
    exists_generated_apart (by decide +kernel)
  exact ⟨g, g', partedTrip_reordered (.swap _ _ _), by decide +kernel, hg, hg', hcode⟩

end StructGen.Go
