import StructGen.Proofs.Building

/-!
# Nodes of a document that has been read

Reading meets the schemas of the messages, what is right below a schema and what a reference leads
to. Every node says what a schema says that reading meets at the place of the node.

* `Source.Meets` says which schemas of a document reading meets, and where;
* `Graph.Finished` says that a node is filled in, `finished_of_read` that all nodes are.
-/

namespace StructGen.Schema

/-! ### Schemas that reading meets -/

/-- Reading meets a schema at a place: as that of a message, as the target of a reference, or right
below another schema. -/
inductive Source.Meets (source : Source) : Json → String → Prop
  | message {schemas versions : Entries} {type version : String} {schema : Json}
      (hschemas : source.contents.get? "schemas" = some (.obj schemas))
      (htype : (type, .obj versions) ∈ schemas) (hversion : (version, schema) ∈ versions) :
      Meets source schema (Pointer.ofSegments ["schemas", type, version])
  | target {entries : Entries} {pointer reference place : String} {schema : Json}
      (hmeets : Meets source (.obj entries) pointer)
      (href : textOf entries "$ref" = some reference)
      (hresolve : resolveReference source.base source.contents reference = .ok (schema, place)) :
      Meets source schema place
  | inside {entries properties : Entries} {pointer place : String} {schema : Json}
      (hmeets : Meets source (.obj entries) pointer) (href : textOf entries "$ref" = none)
      (hproperties : propertiesOf entries = .ok properties)
      (hbelow : (schema, place) ∈ below entries properties pointer) : Meets source schema place

theorem textOf_eq_some {entries : Entries} {keyword text : String} :
    textOf entries keyword = some text ↔ entries.lookup keyword = some (.str text) := by
  rw [textOf, Option.bind_eq_some_iff]
  constructor
  · rintro ⟨v, hv, htext⟩
    cases v with
    | str s => cases htext; exact hv
    | _ => cases htext
  · exact fun h => ⟨_, h, rfl⟩

theorem propertiesOf_eq_ok {entries properties : Entries}
    (h : propertiesOf entries = .ok properties) :
    entries.lookup "properties" = none ∧ properties = [] ∨
      entries.lookup "properties" = some (.obj properties) := by
  unfold propertiesOf at h
  split at h
  · cases h
    exact Or.inl ⟨‹_›, rfl⟩
  · cases h
    exact Or.inr ‹_›
  · cases h

theorem itemsOf_eq_some {entries : Entries} {schema : Json} :
    itemsOf entries = some schema ↔
      entries.lookup "items" = some schema ∧ ∃ items, schema = .obj items := by
  unfold itemsOf
  split
  · rename_i items hitems
    rw [hitems]
    constructor
    · rintro ⟨⟩
      exact ⟨rfl, items, rfl⟩
    · exact fun h => h.1
  · rename_i hother
    constructor
    · intro h
      cases h
    · rintro ⟨h, items, rfl⟩
      exact (hother items h).elim

theorem mem_below {entries properties : Entries} {pointer place : String} {schema : Json} :
    (schema, place) ∈ below entries properties pointer ↔
      (∃ name, (name, schema) ∈ properties ∧
        place = Pointer.child (pointer ++ "/properties") name) ∨
      (itemsOf entries = some schema ∧ place = pointer ++ "/items") := by
  simp only [below, List.mem_append, List.mem_map, Prod.mk.injEq, Option.mem_toList]
  constructor
  · rintro (⟨⟨name, schema'⟩, hp, rfl, rfl⟩ | ⟨schema', hitems, rfl, rfl⟩)
    · exact Or.inl ⟨name, hp, rfl⟩
    · exact Or.inr ⟨hitems, rfl⟩
  · rintro (⟨name, hp, rfl⟩ | ⟨hitems, rfl⟩)
    · exact Or.inl ⟨(name, schema), hp, rfl, rfl⟩
    · exact Or.inr ⟨schema, hitems, rfl, rfl⟩

/-- What is right below a schema is a part of it. -/
theorem exists_entry_of_mem_below {entries properties : Entries} {pointer place : String}
    {schema : Json} (hproperties : propertiesOf entries = .ok properties)
    (h : (schema, place) ∈ below entries properties pointer) :
    ∃ key v, (key, v) ∈ entries ∧ schema.Within v := by
  rcases mem_below.1 h with ⟨name, hname, -⟩ | ⟨hitems, -⟩
  · rcases propertiesOf_eq_ok hproperties with ⟨-, rfl⟩ | hlookup
    · cases hname
    · exact ⟨_, _, mem_of_lookup hlookup, Json.entry_within hname⟩
  · exact ⟨_, _, mem_of_lookup (itemsOf_eq_some.1 hitems).1, .refl _⟩

/-- What reading meets is a part of the document. -/
theorem Source.Meets.within {source : Source} {schema : Json} {place : String}
    (h : source.Meets schema place) : schema.Within source.contents := by
  induction h with
  | message hschemas htype hversion =>
    obtain ⟨entries, hcontents, hlookup⟩ := Json.get?_eq_some hschemas
    rw [hcontents]
    exact ((Json.entry_within hversion).trans (Json.entry_within htype)).trans
      (Json.entry_within (mem_of_lookup hlookup))
  | target _ _ hresolve _ => exact within_of_resolveReference hresolve
  | inside _ _ hproperties hbelow ih =>
    obtain ⟨key, v, hentry, hwithin⟩ := exists_entry_of_mem_below hproperties hbelow
    exact (hwithin.trans (Json.entry_within hentry)).trans ih

/-- A reference that reading meets is one of those of the document. -/
theorem Source.Meets.mem_references {source : Source} {entries : Entries}
    {pointer reference : String} (h : source.Meets (.obj entries) pointer)
    (href : textOf entries "$ref" = some reference) : reference ∈ source.contents.references :=
  h.within.references (Json.mem_references (mem_of_lookup (textOf_eq_some.1 href)))

/-- The schemas of the messages are met. -/
theorem meets_of_mem_messageTasks {source : Source} {schemas : Entries} {t : Json × String}
    (hschemas : source.contents.get? "schemas" = some (.obj schemas))
    (ht : t ∈ messageTasks schemas) : source.Meets t.1 t.2 := by
  obtain ⟨type, versions, version, htype, hversion, hplace⟩ := mem_messageTasks.1 ht
  rw [hplace]
  exact .message hschemas htype hversion

/-! ### Nodes that are filled in -/

namespace Graph

variable {g : Graph} {entries properties : Entries} {pointer : String} {children : List NodeId}

/-- The nodes of the properties are at their places. -/
theorem at_of_mem_zip {rest : List (Json × String)} {base : String}
    (h : List.Forall₂ (fun t id => g.At id t.2)
      (properties.map (fun p => (p.2, Pointer.child base p.1)) ++ rest) children) :
    ∀ p ∈ (properties.map Prod.fst).zip children, g.At p.2 (Pointer.child base p.1) := by
  induction properties generalizing children with
  | nil => exact fun p hp => (List.not_mem_nil hp).elim
  | cons q properties ih =>
    obtain ⟨c, cs, hc, hcs, rfl⟩ := List.forall₂_cons_left_iff.1 h
    intro p hp
    rcases List.mem_cons.1 hp with rfl | hp
    · exact hc
    · exact ih hcs p hp

/-- The node of the items stands behind those of the properties. -/
theorem forall₂_drop_below (h : List.Forall₂ (fun t id => g.At id t.2)
    (below entries properties pointer) children) :
    List.Forall₂ (fun t id => g.At id t.2)
      ((itemsOf entries).toList.map fun schema => (schema, pointer ++ "/items"))
      (children.drop properties.length) := by
  have hdrop := List.forall₂_drop properties.length h
  rwa [below, List.drop_left' (List.length_map _)] at hdrop

/-- The node of the items is at its place. -/
theorem at_of_items {c : NodeId} (h : List.Forall₂ (fun t id => g.At id t.2)
    (below entries properties pointer) children) (hc : children[properties.length]? = some c) :
    g.At c (pointer ++ "/items") := by
  rw [← List.head?_drop] at hc
  obtain ⟨cs, hcs⟩ := List.head?_eq_some_iff.1 hc
  have hdrop := forall₂_drop_below h
  rw [hcs] at hdrop
  obtain ⟨t, ht, hat⟩ := exists_of_forall₂ hdrop List.mem_cons_self
  obtain ⟨schema, -, rfl⟩ := List.mem_map.1 ht
  exact hat

end Graph

/-- A node says what a schema says that reading meets at the place of the node. -/
inductive Graph.Finished (source : Source) (g : Graph) (x : NodeId) : Prop
  | reference {entries : Entries} {reference : String} {target : NodeId}
      (hmeets : source.Meets (.obj entries) (g.node x).pointer)
      (href : textOf entries "$ref" = some reference)
      (hnode : g.node x = { pointer := (g.node x).pointer, ref := some target })
      (htarget : target < g.size) : Finished source g x
  | schema {entries properties : Entries} {types required : List Json} {children : List NodeId}
      (hmeets : source.Meets (.obj entries) (g.node x).pointer)
      (href : textOf entries "$ref" = none) (htypes : typesOf entries = .ok types)
      (hrequired : requiredOf entries = .ok required)
      (hproperties : propertiesOf entries = .ok properties)
      (hnode : g.node x = nodeOf entries properties (g.node x).pointer types required children)
      (hchildren : List.Forall₂ (fun t id => g.At id t.2)
        (below entries properties (g.node x).pointer) children) : Finished source g x

namespace Graph

variable {source : Source} {g g' : Graph} {x : NodeId}

/-- A node that is filled in stays so while it is not touched. -/
theorem Finished.mono (h : g.Finished source x) (hk : g.Keeps g') (hx : g'.node x = g.node x) :
    g'.Finished source x := by
  cases h with
  | reference hmeets href hnode htarget =>
    rw [← hx] at hmeets hnode
    exact .reference hmeets href hnode (hk _ htarget).1
  | schema hmeets href htypes hrequired hproperties hnode hchildren =>
    rw [← hx] at hmeets hnode hchildren
    exact .schema hmeets href htypes hrequired hproperties hnode
      (hchildren.imp fun _ _ hat => hat.keeps hk)

/-- Whether all nodes from one graph to another are filled in. -/
def FinishedFrom (source : Source) (g g' : Graph) : Prop :=
  ∀ x, g.size ≤ x → x < g'.size → g'.Finished source x

theorem FinishedFrom.trans {g'' : Graph} (h : FinishedFrom source g g')
    (h' : FinishedFrom source g' g'') (hgrows : g'.GrowsTo g'') :
    FinishedFrom source g g'' := by
  intro x hx hx''
  by_cases hx' : x < g'.size
  · exact (h x hx hx').mono hgrows.keeps (hgrows.node_eq hx')
  · exact h' x (Nat.le_of_not_lt hx') hx''

/-- Filling in the node that has been entered first fills in the last one. -/
theorem FinishedFrom.filled {pointer : String} {n : Node}
    (h : FinishedFrom source (g.push { pointer }) g')
    (hgrows : (g.push { pointer }).GrowsTo g') (hp : n.pointer = pointer)
    (hself : (g'.set g.size n).Finished source g.size) :
    FinishedFrom source g (g'.set g.size n) := by
  obtain ⟨hlt, hnode⟩ := hgrows.entered
  intro x hx hx'
  rw [size_set] at hx'
  by_cases hself' : x = g.size
  · rw [hself']
    exact hself
  · refine (h x ?_ hx').mono (keeps_set hlt (by rw [hnode, hp])) ?_
    · rw [size_push]
      omega
    · rw [node_set _ _ _ hlt, if_neg hself']

/-- Whether all references are to nodes of the graph. -/
def RefsIn (g : Graph) : Prop := ∀ x t, (g.node x).ref = some t → t < g.size

theorem RefsIn.target_lt (h : g.RefsIn) (hx : x < g.size) : g.target x < g.size := by
  rw [target]
  cases href : (g.node x).ref with
  | none => exact hx
  | some t => exact h x t href

theorem RefsIn.push (h : g.RefsIn) (pointer : String) : (g.push { pointer }).RefsIn := by
  intro x t ht
  rw [node_push] at ht
  split_ifs at ht
  rw [size_push]
  exact Nat.lt_succ_of_lt (h x t ht)

theorem RefsIn.set {id : NodeId} {n : Node} (h : g.RefsIn) (hid : id < g.size)
    (hn : ∀ t, n.ref = some t → t < g.size) : (g.set id n).RefsIn := by
  intro x t ht
  rw [size_set]
  rw [node_set _ _ _ hid] at ht
  split_ifs at ht
  · exact hn t ht
  · exact h x t ht

theorem refsIn_empty : RefsIn {} := by
  intro x t ht
  cases ht

end Graph

namespace Builds

variable {source : Source} {g g' : Graph} {tasks : List (Json × String)} {ids : List NodeId}
  {ws : List FormatWarning}

theorem lt_of_single {t : Json × String} {id : NodeId} (h : Builds source g [t] [id] ws g') :
    id < g'.size := by
  obtain ⟨hat, -⟩ := List.forall₂_cons.1 h.at_places
  exact hat.1

theorem refsIn_reference {g₁ : Graph} {pointer : String} {t : Json × String} {target : NodeId}
    (h : Builds source (g.push { pointer }) [t] [target] ws g₁) (hg : g₁.RefsIn) :
    (g₁.set g.size { pointer, ref := some (g₁.target target) }).RefsIn := by
  refine hg.set h.growsTo.entered.1 ?_
  rintro _ ⟨⟩
  exact hg.target_lt h.lt_of_single

theorem refsIn_schema {g₁ : Graph} {pointer : String} {n : Node}
    (h : Builds source (g.push { pointer }) tasks ids ws g₁) (hg : g₁.RefsIn)
    (hn : n.ref = none) : (g₁.set g.size n).RefsIn := by
  refine hg.set h.growsTo.entered.1 fun t ht => ?_
  rw [hn] at ht
  cases ht

theorem refsIn (h : Builds source g tasks ids ws g') (hg : g.RefsIn) : g'.RefsIn := by
  induction h with
  | nil => exact hg
  | found _ _ ih => exact ih hg
  | reference _ _ _ htarget _ _ ihTarget ih =>
    exact ih (htarget.refsIn_reference (ihTarget (hg.push _)))
  | schema _ _ _ _ _ hbelow _ ihBelow ih =>
    exact ih (hbelow.refsIn_schema (ihBelow (hg.push _)) rfl)

/-- **Every node that reading enters is filled in** with what the schema says that reading meets at
its place. -/
theorem finishedFrom (h : Builds source g tasks ids ws g') (hg : g.RefsIn)
    (hmeets : ∀ t ∈ tasks, source.Meets t.1 t.2) : Graph.FinishedFrom source g g' := by
  induction h with
  | nil => exact fun x hx hx' => absurd hx' (Nat.not_lt.2 hx)
  | found _ _ ih => exact ih hg fun t ht => hmeets t (List.mem_cons_of_mem _ ht)
  | @reference g g₁ g' entries pointer reference place schema target rest ids ws ws' hfind href
      hresolve htarget hne hrest ihTarget ih =>
    obtain ⟨hlt, -⟩ := htarget.growsTo.entered
    have hself := hmeets _ List.mem_cons_self
    have hrefs := htarget.refsIn (hg.push _)
    have hfilled : (g₁.set g.size { pointer, ref := some (g₁.target target) }).node g.size =
        { pointer, ref := some (g₁.target target) } := by
      rw [Graph.node_set _ _ _ hlt, if_pos rfl]
    -- the nodes of the target are filled in first, then this one, then those of the rest
    refine (Graph.FinishedFrom.filled (ihTarget (hg.push _) ?_) htarget.growsTo rfl ?_).trans
      (ih (htarget.refsIn_reference hrefs) fun t ht => hmeets t (List.mem_cons_of_mem _ ht))
      hrest.growsTo
    · intro t ht
      rw [List.mem_singleton.1 ht]
      exact .target hself href hresolve
    · refine .reference (by rw [hfilled]; exact hself) href (by rw [hfilled]) ?_
      rw [Graph.size_set]
      exact hrefs.target_lt htarget.lt_of_single
  | @schema g g₁ g' entries properties pointer types required rest children ids ws ws' hfind href
      htypes hrequired hproperties hbelow hrest ihBelow ih =>
    obtain ⟨hlt, hnode⟩ := hbelow.growsTo.entered
    have hself := hmeets _ List.mem_cons_self
    have hfilled :
        (g₁.set g.size (nodeOf entries properties pointer types required children)).node g.size =
          nodeOf entries properties pointer types required children := by
      rw [Graph.node_set _ _ _ hlt, if_pos rfl]
    refine (Graph.FinishedFrom.filled (ihBelow (hg.push _) ?_) hbelow.growsTo rfl ?_).trans
      (ih (hbelow.refsIn_schema (hbelow.refsIn (hg.push _)) rfl)
        fun t ht => hmeets t (List.mem_cons_of_mem _ ht)) hrest.growsTo
    · exact fun t ht => .inside hself href hproperties ht
    · refine .schema (by rw [hfilled]; exact hself) href htypes hrequired hproperties
        (by rw [hfilled]; rfl) ?_
      rw [hfilled]
      exact hbelow.at_places.imp fun _ _ hat =>
        hat.keeps (Graph.keeps_set hlt (by rw [hnode]; rfl))

end Builds

/-- **Every node of a document that has been read is filled in.** -/
theorem finished_of_read {custom : List String} {contents : Json} {d : Document}
    (h : (read custom contents).1 = .ok d) {x : NodeId} (hx : x < d.graph.size) :
    d.graph.Finished (.ofDocument custom contents) x := by
  obtain ⟨schemas, hd⟩ := builtFrom_of_read h
  exact hd.builds.finishedFrom Graph.refsIn_empty
    (fun t ht => meets_of_mem_messageTasks hd.given ht) x (Nat.zero_le _) hx

end StructGen.Schema
