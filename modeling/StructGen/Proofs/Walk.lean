import StructGen.Schema.Document
import StructGen.Pointer
import Mathlib.Data.List.TakeWhile
import Mathlib.Logic.Relation
import Mathlib.Tactic

/-!
# Walks through a graph

Compiling walks through the graph of a document. It replaces a reference by its target and goes on
to the properties of objects and the items of arrays.

* `Graph.Leads` is one step of a walk, from a reference to its target or from a node to one inside;
* `Document.Reaches` tells which nodes the properties of the messages lead to;
* `Graph.Enters` is a step from target to target;
* `Graph.Typed` and `Graph.Declarable` tell which nodes have a type and which objects can be
  declared with all that they contain; no walk leads from a declarable node back to it.
-/

namespace StructGen.Schema

open Relation

namespace Graph

variable {g : Graph}

/-! ### Steps -/

/-- Whether a node is an object. -/
def IsObject (g : Graph) (id : NodeId) : Prop := (g.node id).primaryType = some (.str "object")

/-- Whether a node is an array. -/
def IsArray (g : Graph) (id : NodeId) : Prop := (g.node id).primaryType = some (.str "array")

/-- Whether a node has a basic type. -/
def IsBasic (g : Graph) (id : NodeId) : Prop :=
  ∃ tag ∈ ["integer", "string", "boolean", "number"], (g.node id).primaryType = some (.str tag)

instance (id : NodeId) : Decidable (g.IsObject id) :=
  inferInstanceAs (Decidable ((g.node id).primaryType = _))

instance (id : NodeId) : Decidable (g.IsArray id) :=
  inferInstanceAs (Decidable ((g.node id).primaryType = _))

/-- One step of a walk: from a reference to its target, from an object to a property, from an array
to its items. -/
inductive Leads (g : Graph) : NodeId → NodeId → Prop
  | target {a b : NodeId} (h : (g.node a).ref = some b) : Leads g a b
  | property {a b : NodeId} {name : String} (ha : g.IsObject a)
      (h : (name, b) ∈ (g.node a).properties) : Leads g a b
  | items {a b : NodeId} (ha : g.IsArray a) (h : (g.node a).items = some b) : Leads g a b

/-- The nodes of the properties of a node, in the order of the properties' names. -/
def members (g : Graph) (id : NodeId) : List NodeId := (g.node id).sortedProperties.map Prod.snd

/-- The nodes right inside a node, in the order in which they are visited. -/
def inside (g : Graph) (id : NodeId) : List NodeId :=
  if g.IsObject id then g.members id else if g.IsArray id then (g.node id).items.toList else []

/-- A step from a node to the target of a node inside it. -/
def Enters (g : Graph) (a b : NodeId) : Prop := ∃ c ∈ g.inside a, g.target c = b

theorem not_isArray_of_isObject {id : NodeId} (h : g.IsObject id) : ¬ g.IsArray id := by
  intro h'
  unfold IsObject at h
  unfold IsArray at h'
  rw [h] at h'
  simp at h'

theorem inside_of_isObject {id : NodeId} (h : g.IsObject id) : g.inside id = g.members id :=
  if_pos h

theorem inside_of_isArray {id : NodeId} (h : g.IsArray id) :
    g.inside id = (g.node id).items.toList := by
  unfold inside
  rw [if_neg (fun h' => not_isArray_of_isObject h' h), if_pos h]

theorem inside_of_neither {id : NodeId} (ho : ¬ g.IsObject id) (ha : ¬ g.IsArray id) :
    g.inside id = [] := by
  rw [inside, if_neg ho, if_neg ha]

theorem mem_members {id c : NodeId} :
    c ∈ g.members id ↔ ∃ name, (name, c) ∈ (g.node id).properties := by
  simp [members, Node.sortedProperties]

/-- Only nodes of the graph have a type. -/
theorem lt_size_of_types {id : NodeId} (h : (g.node id).types ≠ []) : id < g.size := by
  by_contra hlt
  refine h ?_
  rw [node, List.getElem?_eq_none (Nat.not_lt.1 hlt)]
  rfl

/-- There are no more different nodes with a type than there are nodes. -/
theorem length_le_size {ids : List NodeId} (hnodup : ids.Nodup)
    (h : ∀ id ∈ ids, (g.node id).types ≠ []) : ids.length ≤ g.size := by
  have hsub : ids ⊆ List.range g.size := fun id hid =>
    List.mem_range.2 (lt_size_of_types (h id hid))
  simpa using List.Nodup.length_le_of_subset hnodup hsub

theorem types_ne_nil {id : NodeId} {tag : Json} (h : (g.node id).primaryType = some tag) :
    (g.node id).types ≠ [] := by
  intro hnil
  rw [Node.primaryType, hnil] at h
  simp [primaryType] at h

theorem target_of_ref {id t : NodeId} (h : (g.node id).ref = some t) : g.target id = t := by
  rw [target, h]
  rfl

theorem target_of_none {id : NodeId} (h : (g.node id).ref = none) : g.target id = id := by
  rw [target, h]
  rfl

/-- A node leads to its target. -/
theorem leads_target (id : NodeId) : ReflTransGen g.Leads id (g.target id) := by
  cases h : (g.node id).ref with
  | none => rw [target_of_none h]
  | some t => rw [target_of_ref h]; exact .single (.target h)

/-- What is inside a node is a property of an object or the items of an array. -/
theorem mem_inside {a c : NodeId} : c ∈ g.inside a ↔
    (g.IsObject a ∧ ∃ name, (name, c) ∈ (g.node a).properties) ∨
      (g.IsArray a ∧ (g.node a).items = some c) := by
  unfold inside
  split_ifs with ho ha
  · have hno := not_isArray_of_isObject ho
    simp [ho, hno, mem_members]
  · simp [ho, ha]
  · simp [ho, ha]

theorem leads_of_mem_inside {a c : NodeId} (h : c ∈ g.inside a) : g.Leads a c := by
  rcases mem_inside.1 h with ⟨ho, name, hc⟩ | ⟨ha, hc⟩
  · exact .property ho hc
  · exact .items ha hc

theorem transGen_leads_of_enters {a b : NodeId} (h : g.Enters a b) : TransGen g.Leads a b := by
  obtain ⟨c, hc, rfl⟩ := h
  exact .head' (leads_of_mem_inside hc) (leads_target c)

theorem leads_of_enters {a b : NodeId} (h : ReflTransGen g.Enters a b) :
    ReflTransGen g.Leads a b := by
  induction h with
  | refl => exact .refl
  | tail _ hs ih => exact ih.trans (transGen_leads_of_enters hs).to_reflTransGen

/-! ### Nodes that can be declared -/

/-- Whether a node, if it is a reference, refers to a shared definition. -/
def Placed (g : Graph) (id : NodeId) : Prop :=
  ∀ t, (g.node id).ref = some t → Pointer.definitionsStart.toList <+: (g.node t).pointer.toList

/-- A path of definitions is found for placed references only. -/
theorem placed_iff {id t : NodeId} (h : (g.node id).ref = some t) :
    g.Placed id ↔ Pointer.definitionsStart.toList.isPrefixOf (g.node t).pointer.toList = true := by
  rw [List.isPrefixOf_iff_prefix]
  constructor
  · intro hp
    exact hp t h
  · intro hp t' ht'
    rw [h] at ht'
    cases ht'
    exact hp

/-- The nodes that have a type as soon as the objects among their targets have one. -/
inductive Typed (g : Graph) : NodeId → Prop
  | object {id : NodeId} (h : g.IsObject (g.target id)) : Typed g id
  | basic {id : NodeId} (h : g.IsBasic (g.target id)) : Typed g id
  | bare {id : NodeId} (h : g.IsArray (g.target id)) (hi : (g.node (g.target id)).items = none) :
      Typed g id
  | items {id c : NodeId} (h : g.IsArray (g.target id))
      (hi : (g.node (g.target id)).items = some c) (hc : Typed g c) : Typed g id

theorem not_isBasic_of_isArray {id : NodeId} (h : g.IsArray id) : ¬ g.IsBasic id := by
  rintro ⟨tag, htag, h'⟩
  rw [IsArray, h', Option.some.injEq, Json.str.injEq] at h
  rw [h] at htag
  simp at htag

theorem Typed.kind {id : NodeId} (h : g.Typed id) :
    g.IsObject (g.target id) ∨ g.IsBasic (g.target id) ∨ g.IsArray (g.target id) := by
  cases h with
  | object h => exact Or.inl h
  | basic h => exact Or.inr (Or.inl h)
  | bare h _ => exact Or.inr (Or.inr h)
  | items h _ _ => exact Or.inr (Or.inr h)

/-- An array has a type only if its items have one. -/
theorem Typed.of_items {id c : NodeId} (h : g.Typed id) (ha : g.IsArray (g.target id))
    (hc : (g.node (g.target id)).items = some c) : g.Typed c := by
  cases h with
  | object h => exact absurd ha (not_isArray_of_isObject h)
  | basic h => exact absurd h (not_isBasic_of_isArray ha)
  | bare _ hi => rw [hi] at hc; cases hc
  | items _ hi hc' => rw [hi] at hc; cases hc; exact hc'

/-- The nodes whose objects can all be declared, those inside others first. -/
inductive Declarable (g : Graph) : NodeId → Prop
  | intro {t : NodeId} (placed : ∀ c ∈ g.inside t, g.Placed c)
      (inside : ∀ c ∈ g.inside t, Declarable g (g.target c))
      (typed : g.IsObject t → ∀ c ∈ g.inside t, g.Typed c) : Declarable g t

/-- Whether the objects that a node leads to can be declared. -/
def Ready (g : Graph) (id : NodeId) : Prop := g.Placed id ∧ g.Declarable (g.target id)

theorem Declarable.ready {t c : NodeId} (h : g.Declarable t) (hc : c ∈ g.inside t) : g.Ready c := by
  cases h with
  | intro placed inside _ => exact ⟨placed c hc, inside c hc⟩

theorem Declarable.typed {t c : NodeId} (h : g.Declarable t) (ht : g.IsObject t)
    (hc : c ∈ g.inside t) : g.Typed c := by
  cases h with
  | intro _ _ typed => exact typed ht c hc

theorem declarable_of_ready {t : NodeId} (h : ∀ c ∈ g.inside t, g.Ready c)
    (typed : g.IsObject t → ∀ c ∈ g.inside t, g.Typed c) : g.Declarable t :=
  .intro (fun c hc => (h c hc).1) (fun c hc => (h c hc).2) typed

theorem Declarable.enters {a b : NodeId} (h : g.Declarable a) (hb : ReflTransGen g.Enters a b) :
    g.Declarable b := by
  induction hb with
  | refl => exact h
  | tail _ hs ih =>
    obtain ⟨c, hc, rfl⟩ := hs
    exact (ih.ready hc).2

/-- No walk leads from a declarable node back to it. -/
theorem Declarable.not_loop {t : NodeId} (h : g.Declarable t) : ¬ TransGen g.Enters t t := by
  induction h with
  | intro _ _ _ ih =>
    intro hloop
    obtain ⟨b, hs, hb⟩ := TransGen.head'_iff.1 hloop
    obtain ⟨c, hc, rfl⟩ := hs
    -- a node inside would lead back to itself as well
    exact ih c hc (.tail' hb ⟨c, hc, rfl⟩)

end Graph

/-! ### Documents -/

namespace Document

/-- The nodes that the properties of the messages lead to. -/
def Reaches (d : Document) (a : NodeId) : Prop :=
  ∃ m ∈ d.messages, ∃ c ∈ d.graph.members m.node, ReflTransGen d.graph.Leads c a

theorem Reaches.leads {d : Document} {a b : NodeId} (h : d.Reaches a)
    (hb : ReflTransGen d.graph.Leads a b) : d.Reaches b := by
  obtain ⟨m, hm, c, hc, ha⟩ := h
  exact ⟨m, hm, c, hc, ha.trans hb⟩

/-- Whether a message has the type of an object or none at all. -/
def isObjectMessage (d : Document) (m : Message) : Bool :=
  let types := (d.graph.node m.node).types
  types.isEmpty || types == [.str "object"]

/-- The nodes from which discovering starts, in the order of visiting: the properties of the
messages before the first one of a wrong type. -/
def starts (d : Document) : List NodeId :=
  (d.messages.takeWhile d.isObjectMessage).flatMap fun m => d.graph.members m.node

/-- The starts before and at a message. -/
theorem starts_of_split {d : Document} {pre post : List Message} {m : Message}
    (hsplit : d.messages = pre ++ m :: post) (hpre : ∀ m ∈ pre, d.isObjectMessage m = true) :
    d.starts = pre.flatMap (fun m => d.graph.members m.node) ++
      if d.isObjectMessage m = true then d.graph.members m.node ++
        (post.takeWhile d.isObjectMessage).flatMap fun m => d.graph.members m.node else [] := by
  rw [starts, hsplit, List.takeWhile_append_of_pos hpre, List.flatMap_append,
    List.takeWhile_cons]
  split_ifs <;> simp

theorem starts_of_valid {d : Document} (h : ∀ m ∈ d.messages, d.isObjectMessage m = true) :
    d.starts = d.messages.flatMap fun m => d.graph.members m.node := by
  rw [starts, List.takeWhile_eq_self_iff.2 h]

theorem reaches_of_mem_starts {d : Document} {c : NodeId} (h : c ∈ d.starts) : d.Reaches c := by
  obtain ⟨m, hm, hc⟩ := List.mem_flatMap.1 h
  exact ⟨m, (List.takeWhile_sublist _).mem hm, c, hc, .refl⟩

end Document

end StructGen.Schema
