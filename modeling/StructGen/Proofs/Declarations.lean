import StructGen.Proofs.Compiling
import StructGen.Proofs.Reading

/-!
# Declarations of a compiled document

A compiled document declares every object that its messages lead to exactly once, under different
names, and every type is declared before it is used.

* `Graph.Settled` is what compiling makes sure of for every node it meets;
* `base_declares_reached_objects` tells what is declared;
* `types_declared_before_use` tells which types the fields have.
-/

namespace StructGen.Schema

open Relation

namespace Graph

variable {g : Graph} {a b : NodeId}

/-- Whether a node has a type and all objects that it leads to can be declared. -/
def Settled (g : Graph) (a : NodeId) : Prop := g.Declarable (g.target a) ∧ g.Typed a

/-- A node that has a type is no reference. -/
theorem AllLinked.target_eq_self (hg : g.AllLinked) (h : (g.node a).types ≠ []) :
    g.target a = a := by
  by_contra hne
  refine h ((hg a).untyped fun href => hne (target_of_none href))

theorem Typed.congr (h : g.Typed a) (heq : g.target b = g.target a) : g.Typed b := by
  cases h with
  | object h => exact .object (heq ▸ h)
  | basic h => exact .basic (heq ▸ h)
  | bare h hi => exact .bare (heq ▸ h) (heq ▸ hi)
  | items h hi hc => exact .items (heq ▸ h) (heq ▸ hi) hc

theorem Typed.types_ne_nil (h : g.Typed a) : (g.node (g.target a)).types ≠ [] := by
  rcases h.kind with h | ⟨tag, -, h⟩ | h
  · exact Graph.types_ne_nil h
  · exact Graph.types_ne_nil h
  · exact Graph.types_ne_nil h

/-- One step of a walk from a settled node leads to a settled node, whose target is the same or
inside. -/
theorem Settled.leads (hg : g.AllLinked) (ha : g.Settled a) (h : g.Leads a b) :
    g.Settled b ∧ ReflTransGen g.Enters (g.target a) (g.target b) := by
  obtain ⟨hdecl, htyped⟩ := ha
  cases h with
  | target href =>
    -- the target has a type, so it is not a reference again
    have hab := target_of_ref href
    have hb : g.target b = g.target a := by
      rw [hab]
      exact hg.target_eq_self (hab ▸ htyped.types_ne_nil)
    rw [Settled, hb]
    exact ⟨⟨hdecl, htyped.congr hb⟩, .refl⟩
  | property ho hp =>
    have hself := hg.target_eq_self (Graph.types_ne_nil ho)
    have hb : b ∈ g.inside a := mem_inside.2 (Or.inl ⟨ho, _, hp⟩)
    rw [hself] at hdecl ⊢
    exact ⟨⟨(hdecl.ready hb).2, hdecl.typed ho hb⟩, .single ⟨b, hb, rfl⟩⟩
  | items ha hi =>
    have hself := hg.target_eq_self (Graph.types_ne_nil ha)
    have hb : b ∈ g.inside a := mem_inside.2 (Or.inr ⟨ha, hi⟩)
    have hitem : g.Typed b := htyped.of_items (hself.symm ▸ ha) (hself.symm ▸ hi)
    rw [hself] at hdecl ⊢
    exact ⟨⟨(hdecl.ready hb).2, hitem⟩, .single ⟨b, hb, rfl⟩⟩

/-- A walk from a settled node enters what it leads to. -/
theorem Settled.walk (hg : g.AllLinked) (ha : g.Settled a) (h : ReflTransGen g.Leads a b) :
    g.Settled b ∧ ReflTransGen g.Enters (g.target a) (g.target b) := by
  induction h with
  | refl => exact ⟨ha, .refl⟩
  | tail _ hs ih =>
    obtain ⟨hsettled, henters⟩ := ih.1.leads hg hs
    exact ⟨hsettled, ih.2.trans henters⟩

end Graph

end StructGen.Schema

namespace StructGen.Go

open Schema (NodeId Graph Message Document)
open Relation

variable {s : Style} {d : Document} {ids : List NodeId} {r : Registry} {c : Compiled}

/-- The properties of the messages of a compiled document are settled. -/
theorem Compilation.settled (h : Compilation s d ids r c) {m : Message} (hm : m ∈ d.messages)
    {a : NodeId} (ha : a ∈ d.graph.members m.node) : d.graph.Settled a := by
  refine ⟨(h.ready a (h.starts m hm ha)).2, ?_⟩
  obtain ⟨e, -, r', name, docstring, hdeclare, -⟩ := exists_of_forall₂ h.messages.flip hm
  exact typed_of_declare hdeclare a ha

/-- The nodes that are declared are the objects that the messages lead to. -/
theorem Compilation.mem_iff_reaches (hd : d.WellRead) (h : Compilation s d ids r c) (a : NodeId) :
    a ∈ ids ↔ d.Reaches a ∧ d.graph.IsObject a := by
  rw [h.mem_ids]
  constructor
  · rintro ⟨ho, b, hb, hba⟩
    refine ⟨(Document.reaches_of_mem_starts hb).leads ?_, ho⟩
    exact (Graph.leads_target b).trans (Graph.leads_of_enters hba)
  · rintro ⟨⟨m, hm, b, hb, hba⟩, ho⟩
    refine ⟨ho, b, h.starts m hm hb, ?_⟩
    have henters := ((h.settled hm hb).walk hd.linked hba).2
    rwa [hd.linked.target_eq_self (Graph.types_ne_nil ho)] at henters

/-- **A compiled document declares each object that its messages lead to once and nothing else**,
and the names of the declarations and the messages are different. -/
theorem base_declares_reached_objects {custom : List String} {contents : Json}
    (hread : (Schema.read custom contents).1 = .ok d) (hcompile : (compile s d).1 = .ok c) :
    (∃ (ids : List NodeId) (r : Registry), ids.Nodup ∧
      (∀ a, a ∈ ids ↔ d.Reaches a ∧ d.graph.IsObject a) ∧
      List.Forall₂ (DeclaredAs s d.graph r) ids c.base) ∧
    (c.base.map (·.name) ++ c.messageNames.map Prod.snd).Nodup := by
  obtain ⟨ids, r, h⟩ := compilation_of_compile hcompile
  have hd := Schema.wellRead_of_read hread
  exact ⟨⟨ids, r, h.nodup, h.mem_iff_reaches hd, h.base⟩, h.distinct⟩

/-! #### A document with definitions -/

/-- A schema that refers to a definition. -/
def refTo (name : String) : Json := .obj [("$ref", .str ("#/definitions/" ++ name))]

/-- The schema of an object with some properties. -/
def objectOf (properties : Entries) : Json :=
  .obj [("type", .str "object"), ("properties", .obj properties)]

/-- The schema of an array. -/
def arrayOf (items : Json) : Json := .obj [("type", .str "array"), ("items", items)]

/-- A document with one message. -/
def documentOf (message : Json) (definitions : Entries) : Json :=
  .obj [("id", .str "travel"), ("schemas", .obj [("trip", .obj [("1", message)])]),
    ("definitions", .obj definitions)]

/-- A trip has stops at places. -/
def trip : Json :=
  documentOf (objectOf [("stops", arrayOf (refTo "stop"))])
    [("stop", objectOf [("place", refTo "place")]),
      ("place", objectOf [("name", .obj [("type", .str "string")])])]

/-- The style of the samples. -/
def plainStyle : Style :=
  { initialisms := .ofList [], types := ⟨.str "int", .str "float64", .str "any"⟩, comments := true,
    header := false, package := .str "travel" }

set_option maxRecDepth 100000 in
theorem trip_compiles : ∃ d c, (Schema.read [] trip).1 = .ok d ∧ (compile plainStyle d).1 = .ok c ∧
    c.base.map (·.name) = ["Place", "Stop"] := by
  have h : ((Schema.read [] trip).1.toOption.bind fun d =>
      (compile plainStyle d).1.toOption.map fun c => c.base.map (·.name)) =
      some ["Place", "Stop"] := by decide +kernel
  obtain ⟨d, hd, h⟩ := Option.bind_eq_some_iff.1 h
  obtain ⟨c, hc, hnames⟩ := Option.map_eq_some_iff.1 h
  exact ⟨d, c, ok_of_toOption hd, ok_of_toOption hc, hnames⟩

theorem trip_declares_reached_objects : ∃ d c, (Schema.read [] trip).1 = .ok d ∧
    (compile plainStyle d).1 = .ok c ∧ c.base.map (·.name) = ["Place", "Stop"] ∧
    (∃ (ids : List NodeId) (r : Registry), ids.Nodup ∧
      (∀ a, a ∈ ids ↔ d.Reaches a ∧ d.graph.IsObject a) ∧
      List.Forall₂ (DeclaredAs plainStyle d.graph r) ids c.base) ∧
    (c.base.map (·.name) ++ c.messageNames.map Prod.snd).Nodup := by
  obtain ⟨d, c, hread, hcompile, hnames⟩ := trip_compiles
  exact ⟨d, c, hread, hcompile, hnames, base_declares_reached_objects hread hcompile⟩

/-- **Every type is declared before it is used**: the fields of a declaration have basic types, the
unknown type or types that are declared before it, and the fields of messages such types that are
declared at all. -/
theorem types_declared_before_use {custom : List String} {contents : Json}
    (hread : (Schema.read custom contents).1 = .ok d) (hcompile : (compile s d).1 = .ok c) :
    (∀ i e, c.base[i]? = some e → ∀ f ∈ e.fields, Known s (c.base.take i) f.type) ∧
      ∀ e ∈ c.messages, ∀ f ∈ e.fields, Known s c.base f.type := by
  obtain ⟨ids, r, h⟩ := compilation_of_compile hcompile
  have hd := Schema.wellRead_of_read hread
  refine ⟨h.ordered, fun e he => ?_⟩
  obtain ⟨m, hm, r', name, docstring, hdeclare, hsame⟩ := exists_of_forall₂ h.messages he
  refine known_of_declare hdeclare fun a ha x hx name hname => ?_
  rw [hsame x (hd.not_entered hm ha (h.ready a (h.starts m hm ha)) hx)] at hname
  exact h.names x name hname

theorem trip_types_declared_before_use : ∃ d c, (Schema.read [] trip).1 = .ok d ∧
    (compile plainStyle d).1 = .ok c ∧ c.base.map (·.name) = ["Place", "Stop"] ∧
    (∀ i e, c.base[i]? = some e → ∀ f ∈ e.fields, Known plainStyle (c.base.take i) f.type) ∧
      ∀ e ∈ c.messages, ∀ f ∈ e.fields, Known plainStyle c.base f.type := by
  obtain ⟨d, c, hread, hcompile, hnames⟩ := trip_compiles
  exact ⟨d, c, hread, hcompile, hnames, types_declared_before_use hread hcompile⟩

end StructGen.Go
