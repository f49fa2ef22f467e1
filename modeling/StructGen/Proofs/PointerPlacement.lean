import StructGen.Proofs.Resolving

/-!
# Where pointers stand in types

A type is a pointer only where null is allowed and the node itself has a basic type. Arrays drop
what is said about null, their own as well as that of everything inside them, and so do objects.
Apart from the star a type is therefore a pair of brackets for each array around the innermost node,
followed by the text of that node.

* `Graph.Nests` counts the arrays around the innermost node, through items and their references;
* `CoreText` gives the text of what stands inside all arrays;
* `Graph.DiffersInNull` relates graphs whose schemas differ in whether null is a type;
* `pointer_placement` is the result.
-/

namespace StructGen

namespace Schema

/-! ### Null among the types -/

/-- A schema has one type beside null if this type is left of its types without null. -/
theorem primaryType_eq_some_iff {types : List Json} {tag : Json} (htag : tag ≠ .str "null") :
    primaryType types = some tag ↔ types.erase (.str "null") = [tag] ∧ tag ≠ .null := by
  rcases types with _ | ⟨t, _ | ⟨u, _ | ⟨v, rest⟩⟩⟩
  all_goals grind [primaryType]

/-- Two schemas with the same items and reference whose types differ in null alone. -/
structure Node.DiffersInNull (n m : Node) : Prop where
  types : n.types.erase (.str "null") = m.types.erase (.str "null")
  items : n.items = m.items
  ref : n.ref = m.ref

namespace Graph

variable {g g' : Graph} {id : NodeId}

/-- Two graphs whose schemas, node by node, differ in null alone. -/
def DiffersInNull (g g' : Graph) : Prop := List.Forall₂ Node.DiffersInNull g.nodes g'.nodes

theorem DiffersInNull.size (h : g.DiffersInNull g') : g.size = g'.size := h.length_eq

theorem DiffersInNull.node (h : g.DiffersInNull g') (id : NodeId) :
    (g.node id).DiffersInNull (g'.node id) := by
  unfold DiffersInNull at h
  unfold Graph.node
  generalize g.nodes = ns at h
  generalize g'.nodes = ms at h
  induction h generalizing id with
  | nil => exact ⟨rfl, rfl, rfl⟩
  | cons hn _ ih =>
    cases id with
    | zero => exact hn
    | succ id => exact ih id

theorem DiffersInNull.target (h : g.DiffersInNull g') (id : NodeId) : g.target id = g'.target id := by
  rw [Graph.target, Graph.target, (h.node id).ref]

theorem DiffersInNull.primaryType (h : g.DiffersInNull g') {tag : Json} (htag : tag ≠ .str "null") :
    (g.node id).primaryType = some tag ↔ (g'.node id).primaryType = some tag := by
  rw [Node.primaryType, Node.primaryType, primaryType_eq_some_iff htag, primaryType_eq_some_iff htag,
    (h.node id).types]

/-! ### Arrays around a node -/

/-- A node leads through a number of arrays, each the target of the items of the one before, to the
node inside all of them, or to none if the last array says nothing about its items. -/
inductive Nests (g : Graph) : NodeId → Nat → Option NodeId → Prop
  | core {id : NodeId} (h : ¬ g.IsArray (g.target id)) : Nests g id 0 (some (g.target id))
  | bare {id : NodeId} (h : g.IsArray (g.target id)) (hc : (g.node (g.target id)).items = none) :
      Nests g id 1 none
  | items {id c : NodeId} {k : Nat} {core : Option NodeId} (h : g.IsArray (g.target id))
      (hc : (g.node (g.target id)).items = some c) (hcore : Nests g c k core) :
      Nests g id (k + 1) core

theorem Nests.unique {k k' : Nat} {core core' : Option NodeId} (h : g.Nests id k core)
    (h' : g.Nests id k' core') : k' = k ∧ core' = core := by
  induction h generalizing k' with
  | core h =>
    cases h' with
    | core => exact ⟨rfl, rfl⟩
    | bare ha => exact absurd ha h
    | items ha => exact absurd ha h
  | bare h hc =>
    cases h' with
    | core hn => exact absurd h hn
    | bare => exact ⟨rfl, rfl⟩
    | items _ hc' => cases hc.symm.trans hc'
  | items h hc _ ih =>
    cases h' with
    | core hn => exact absurd h hn
    | bare _ hc' => cases hc.symm.trans hc'
    | items _ hc' hcore' =>
      cases hc.symm.trans hc'
      obtain ⟨hk, hcore⟩ := ih hcore'
      exact ⟨by rw [hk], hcore⟩

end Graph

end Schema

namespace Go

open Schema (NodeId Graph)

variable {names : TypeNames} {g g' : Graph} {r : Registry} {fuel : Nat} {id : NodeId}
  {nullable : Bool} {t : GoType}

/-- The text of what stands inside all arrays: the name of an object, the spelling of a basic type
or, where nothing is said, that of the unknown type. -/
inductive CoreText (names : TypeNames) (g : Graph) (r : Registry) : Option NodeId → String → Prop
  | declared {x : NodeId} {name : String} (h : g.IsObject x) (hname : r.get? x = some name) :
      CoreText names g r (some x) name
  | basic {x : NodeId} {tag : String} {spelling : Json}
      (h : (g.node x).primaryType = some (.str tag))
      (hs : names.basic? (.str tag) = some spelling) : CoreText names g r (some x) spelling.display
  | unknown : CoreText names g r none names.unknown.display

/-- Brackets of a number of arrays. -/
def brackets (k : Nat) : String := String.join (List.replicate k "[]")

theorem brackets_succ (k : Nat) : brackets (k + 1) = "[]" ++ brackets k := by
  rw [brackets, List.replicate_succ, String.join_cons, brackets]

theorem star_not_mem_brackets (k : Nat) : '*' ∉ (brackets k).toList := by
  induction k with
  | zero => exact List.not_mem_nil
  | succ k ih => simpa [brackets_succ] using ih

/-- The texts that types are made of hold no star. -/
structure StarFree (names : TypeNames) (r : Registry) : Prop where
  registered : ∀ x name, r.get? x = some name → '*' ∉ name.toList
  int : '*' ∉ names.int.display.toList
  float : '*' ∉ names.float.display.toList
  unknown : '*' ∉ names.unknown.display.toList

theorem StarFree.coreText (h : StarFree names r) {core : Option NodeId} {base : String}
    (hbase : CoreText names g r core base) : '*' ∉ base.toList := by
  cases hbase with
  | declared _ hname => exact h.registered _ _ hname
  | @basic _ tag spelling _ hs =>
    unfold TypeNames.basic? at hs
    split at hs <;> cases hs
    · exact h.int
    · decide
    · decide
    · exact h.float
  | unknown => exact h.unknown

/-! ### Texts of types -/

theorem coreText_of_isBasic (names : TypeNames) (r : Registry) (h : g.IsBasic (g.target id)) :
    ∃ spelling : Json, CoreText names g r (some (g.target id)) spelling.display ∧
      ∀ fuel nullable, resolveFrom names g r (fuel + 1) id nullable =
        .ok (if nullable then .pointer (.basic spelling) else .basic spelling) := by
  obtain ⟨tag, htag, h⟩ := h
  obtain ⟨spelling, hs, -⟩ := basic?_of_mem names htag
  exact ⟨spelling, .basic h hs, fun _ _ => resolveFrom_primitive h hs⟩

/-- A basic type is a pointer where null is allowed. -/
theorem text_of_nullable (hb : g.IsBasic (g.target id))
    (h : resolveFrom names g r fuel id true = .ok t) :
    ∃ base, CoreText names g r (some (g.target id)) base ∧ t.text = "*" ++ base := by
  cases fuel with
  | zero => cases h
  | succ fuel =>
    obtain ⟨spelling, hcore, hok⟩ := coreText_of_isBasic names r hb
    rw [hok] at h
    cases h
    exact ⟨spelling.display, hcore, rfl⟩

/-- Any other type is that of the innermost node, in the brackets of the arrays around it. The items
of an array are resolved as if null were not allowed, so the induction never meets a pointer. -/
theorem text_of_resolveFrom (hplain : ¬ (nullable = true ∧ g.IsBasic (g.target id)))
    (h : resolveFrom names g r fuel id nullable = .ok t) :
    ∃ k core base, g.Nests id k core ∧ CoreText names g r core base ∧
      t.text = brackets k ++ base := by
  induction fuel generalizing id nullable t with
  | zero => cases h
  | succ fuel ih =>
    rcases resolveFrom_ok_cases h with
      ⟨ho, name, hname, rfl⟩ | ⟨ha, hc, rfl⟩ | ⟨c, t', ha, hc, hitem, rfl⟩ | ⟨hb, -⟩
    · exact ⟨0, _, name, .core (Graph.not_isArray_of_isObject ho), .declared ho hname, rfl⟩
    · exact ⟨1, none, _, .bare ha hc, .unknown, rfl⟩
    · obtain ⟨k, core, base, hnests, hcore, htext⟩ := ih (by simp) hitem
      refine ⟨k + 1, core, base, .items ha hc hnests, hcore, ?_⟩
      rw [GoType.text, htext, brackets_succ, String.append_assoc]
    · obtain ⟨spelling, hcore, hok⟩ := coreText_of_isBasic names r hb
      have hnullable : nullable = false := eq_false_of_ne_true fun hn => hplain ⟨hn, hb⟩
      rw [hok, hnullable] at h
      cases h
      exact ⟨0, _, _, .core fun ha => Graph.not_isBasic_of_isArray ha hb, hcore, rfl⟩

/-- Whether null is among the types of a node plays no part in its type. -/
theorem resolveFrom_of_differsInNull (hg : g.DiffersInNull g')
    (h : resolveFrom names g r fuel id nullable = .ok t) :
    resolveFrom names g' r fuel id nullable = .ok t := by
  induction fuel generalizing id nullable t with
  | zero => cases h
  | succ fuel ih =>
    have htarget := hg.target id
    have hitems := (hg.node (g.target id)).items
    have htag : ∀ tag, tag ≠ .str "null" → (g.node (g.target id)).primaryType = some tag →
        (g'.node (g'.target id)).primaryType = some tag := fun tag hne ht => by
      rw [← htarget]
      exact (hg.primaryType hne).1 ht
    rcases resolveFrom_ok_cases h with
      ⟨ho, name, hname, rfl⟩ | ⟨ha, hc, rfl⟩ | ⟨c, t', ha, hc, hitem, rfl⟩ | ⟨⟨tag, hmem, hb⟩, -⟩
    · exact resolveFrom_object (htag _ (by simp) ho) (htarget ▸ hname)
    · refine resolveFrom_bare (htag _ (by simp) ha) ?_
      rw [← htarget, ← hitems, hc]
    · have hc' : (g'.node (g'.target id)).items = some c := by rw [← htarget, ← hitems, hc]
      rw [resolveFrom_items (htag _ (by simp) ha) hc', ih hitem]
      rfl
    · obtain ⟨spelling, hs, -⟩ := basic?_of_mem names hmem
      have hne : Json.str tag ≠ .str "null" := by
        rintro heq
        cases heq
        exact absurd hmem (by decide)
      rw [resolveFrom_primitive hb hs] at h
      rw [resolveFrom_primitive (htag _ hne hb) hs]
      exact h

/-- **Pointers stand at the front of nullable basic types only.** If a node has a type and no text
that types are made of holds a star, then the type holds a star if and only if null is allowed where
the node stands and its target has a basic type, and this is the one star at its front. Any other
type is a pair of brackets for each array around the innermost node, then the name of an object, a
basic type or the unknown type. Null among the types of nodes, those of items at any depth included,
makes no difference. Cycles elsewhere in the graph do no harm. -/
theorem pointer_placement (hstars : StarFree names r)
    (h : resolveType names g r id nullable = .ok t) :
    ('*' ∈ t.text.toList ↔ nullable = true ∧ g.IsBasic (g.target id)) ∧
    (nullable = true ∧ g.IsBasic (g.target id) →
      ∃ base, CoreText names g r (some (g.target id)) base ∧ t.text = "*" ++ base ∧
        '*' ∉ base.toList) ∧
    (¬ (nullable = true ∧ g.IsBasic (g.target id)) →
      ∃ k core base, (∀ k' core', g.Nests id k' core' ↔ k' = k ∧ core' = core) ∧
        CoreText names g r core base ∧ t.text = brackets k ++ base) ∧
    ∀ g', g.DiffersInNull g' → resolveType names g' r id nullable = .ok t := by
  have hpointer : nullable = true ∧ g.IsBasic (g.target id) →
      ∃ base, CoreText names g r (some (g.target id)) base ∧ t.text = "*" ++ base ∧
        '*' ∉ base.toList := by
    rintro ⟨rfl, hb⟩
    obtain ⟨base, hcore, htext⟩ := text_of_nullable hb h
    exact ⟨base, hcore, htext, hstars.coreText hcore⟩
  refine ⟨⟨fun hmem => ?_, fun hnullable => ?_⟩, hpointer, fun hplain => ?_, fun g' hg => ?_⟩
  · by_contra hplain
    obtain ⟨k, core, base, -, hcore, htext⟩ := text_of_resolveFrom hplain h
    rw [htext, String.toList_append, List.mem_append] at hmem
    exact hmem.elim (star_not_mem_brackets k) (hstars.coreText hcore)
  · obtain ⟨base, -, htext, -⟩ := hpointer hnullable
    simp [htext]
  · obtain ⟨k, core, base, hnests, hcore, htext⟩ := text_of_resolveFrom hplain h
    refine ⟨k, core, base, fun k' core' => ⟨fun h' => hnests.unique h', ?_⟩, hcore, htext⟩
    rintro ⟨rfl, rfl⟩
    exact hnests
  · rw [resolveType, ← hg.size]
    exact resolveFrom_of_differsInNull hg h

/-- Routes of stops: an array, through a reference, of arrays of stops, which are objects with a
number, null being allowed for each of them if `nulls` is true. -/
def routes (nulls : Bool) : Graph :=
  let orNull (tag : String) : List Json := if nulls then [.str "null", .str tag] else [.str tag]
  ⟨[{ types := orNull "array", items := some 1 }, { ref := some 2 },
    { types := orNull "array", items := some 3 },
    { types := orNull "object", properties := [("number", 4)] }, { types := orNull "integer" }]⟩

def routeTypes : TypeNames := ⟨.str "int64", .str "float64", .str "any"⟩

def routeNames : Registry := ({} : Registry).register 3 "Stop"

theorem routes_pointer_placement :
    StarFree routeTypes routeNames ∧
    resolveType routeTypes (routes true) routeNames 0 true =
      .ok (.slice (.slice (.declared "Stop"))) ∧
    (∃ k core base, (∀ k' core', (routes true).Nests 0 k' core' ↔ k' = k ∧ core' = core) ∧
      CoreText routeTypes (routes true) routeNames core base ∧
      "[][]Stop" = brackets k ++ base) ∧
    resolveType routeTypes (routes false) routeNames 0 true =
      .ok (.slice (.slice (.declared "Stop"))) ∧
    resolveType routeTypes (routes true) routeNames 4 true =
      .ok (.pointer (.basic (.str "int64"))) ∧
    '*' ∈ "*int64".toList := by
  have hstars : StarFree routeTypes routeNames := by
    refine ⟨fun x name hname => ?_, by decide, by decide, by decide⟩
    rw [routeNames, Registry.get?_register] at hname
    split_ifs at hname
    · cases hname
      decide
    · cases hname
  have hroutes : resolveType routeTypes (routes true) routeNames 0 true =
      .ok (.slice (.slice (.declared "Stop"))) := rfl
  have hnumber : resolveType routeTypes (routes true) routeNames 4 true =
      .ok (.pointer (.basic (.str "int64"))) := rfl
  have hplain : ¬ (true = true ∧ (routes true).IsBasic ((routes true).target 0)) := fun h =>
    Graph.not_isBasic_of_isArray (by decide) h.2
  have hnulls : (routes true).DiffersInNull (routes false) :=
    .cons ⟨rfl, rfl, rfl⟩ (.cons ⟨rfl, rfl, rfl⟩ (.cons ⟨rfl, rfl, rfl⟩
      (.cons ⟨rfl, rfl, rfl⟩ (.cons ⟨rfl, rfl, rfl⟩ .nil))))
  have hplacement := pointer_placement hstars hroutes
  exact ⟨hstars, hroutes, hplacement.2.2.1 hplain, hplacement.2.2.2 _ hnulls, hnumber,
    (pointer_placement hstars hnumber).1.2 ⟨rfl, "integer", by decide, rfl⟩⟩

end Go

end StructGen
