import StructGen.Proofs.FilledNodes
import StructGen.Proofs.Declarations

/-!
# Graphs mirror their documents

Every node of a document that has been read stands for the object at its place in the document, and
says what that object says. References are followed by pointers; only a fragment that starts with an
escape can hide an anchor, and then the schema stands elsewhere.

* `valueAt_of_meets`: what reading meets stands where reading says it does;
* `Graph.Mirrors` says that a node says what the entries of an object say;
* `graph_mirrors_document`: all nodes do.
-/

namespace StructGen.Schema

/-! ### Places -/

/-- Whether the fragment of a reference does not start with an escape. -/
def isPlainReference (reference : String) : Bool :=
  match Uri.defragment reference with
  | .ok (_, fragment) => fragment.head? != some '%'
  | .error _ => true

theorem append_eq_child (pointer : String) :
    pointer ++ "/properties" = Pointer.child pointer "properties" ∧
      pointer ++ "/items" = Pointer.child pointer "items" := by
  constructor
  · rw [Pointer.child, String.append_assoc]
    rfl
  · rw [Pointer.child, String.append_assoc]
    rfl

/-- What reading meets at a place is the value at that place. -/
theorem valueAt_of_meets {source : Source} {schema : Json} {place : String}
    (hkeys : source.contents.hasUniqueKeys = true)
    (hplain : source.contents.references.all isPlainReference = true)
    (h : source.Meets schema place) : valueAt source.contents place = some schema := by
  induction h with
  | @message schemas versions type version schema hschemas htype hversion =>
    obtain ⟨entries, hcontents, hlookup⟩ := Json.get?_eq_some hschemas
    have hwithin : (Json.obj schemas).Within source.contents := by
      rw [hcontents]
      exact Json.entry_within (mem_of_lookup hlookup)
    have hschemasKeys := hwithin.uniqueKeys hkeys
    have hversionsKeys := (Json.entry_within htype).uniqueKeys hschemasKeys
    -- without unique keys an entry before this one could hide it
    have hstart : valueAt source.contents "" = some (.obj entries) := by
      rw [hcontents]
      rfl
    have h₁ := (valueAt_child hstart "schemas").trans hlookup
    have h₂ := (valueAt_child h₁ type).trans (lookup_of_mem (Json.nodup_keys hschemasKeys) htype)
    exact (valueAt_child h₂ version).trans
      (lookup_of_mem (Json.nodup_keys hversionsKeys) hversion)
  | @target entries pointer reference place schema hmeets href hresolve _ =>
    -- the place comes from the reference alone, so nothing is needed of where it stands
    refine valueAt_of_resolveReference hresolve fun url fragment hdefragment => ?_
    have hthis := List.all_eq_true.1 hplain reference (hmeets.mem_references href)
    simpa [isPlainReference, hdefragment] using hthis
  | @inside entries properties pointer place schema hmeets href hproperties hbelow ih =>
    have hentriesKeys := hmeets.within.uniqueKeys hkeys
    rcases mem_below.1 hbelow with ⟨name, hname, rfl⟩ | ⟨hitems, rfl⟩
    · rcases propertiesOf_eq_ok hproperties with ⟨-, rfl⟩ | hlookup
      · cases hname
      · have hpropertiesKeys :=
          (Json.entry_within (mem_of_lookup hlookup)).uniqueKeys hentriesKeys
        rw [(append_eq_child pointer).1]
        exact (valueAt_child ((valueAt_child ih "properties").trans hlookup) name).trans
          (lookup_of_mem (Json.nodup_keys hpropertiesKeys) hname)
    · rw [(append_eq_child pointer).2]
      exact (valueAt_child ih "items").trans (itemsOf_eq_some.1 hitems).1

/-! ### Nodes -/

/-- The values that a keyword lists: none if it is absent. -/
def Lists (value : Option Json) (l : List Json) : Prop :=
  value = none ∧ l = [] ∨ ∃ v, value = some v ∧ v.elements? = some l

/-- The types that a keyword gives: one text counts as a list. -/
def ListsTypes (value : Option Json) (l : List Json) : Prop :=
  (∃ s, value = some (.str s) ∧ l = [.str s]) ∨ (∀ s, value ≠ some (.str s)) ∧ Lists value l

theorem listsTypes_of_typesOf {entries : Entries} {types : List Json}
    (h : typesOf entries = .ok types) : ListsTypes (entries.lookup "type") types := by
  unfold typesOf at h
  split at h
  · rename_i hnone
    cases h
    refine Or.inr ⟨fun s hs => ?_, Or.inl ⟨hnone, rfl⟩⟩
    rw [hnone] at hs
    cases hs
  · cases h
    exact Or.inl ⟨_, ‹_›, rfl⟩
  · rename_i v hother hv
    split at h
    · cases h
      exact Or.inr ⟨fun s hs => hother s (Option.some.inj (hv.symm.trans hs)),
        Or.inr ⟨v, hv, ‹_›⟩⟩
    · cases h

theorem lists_of_requiredOf {entries : Entries} {required : List Json}
    (h : requiredOf entries = .ok required) : Lists (entries.lookup "required") required := by
  unfold requiredOf at h
  split at h
  · cases h
    exact Or.inl ⟨‹_›, rfl⟩
  · rename_i v hv
    split at h
    · cases h
      exact Or.inr ⟨v, hv, ‹_›⟩
    · cases h

namespace Graph

/-- A node says what the entries of a schema say that is no reference. The nodes of its properties,
in the order of the entries, and of its items are at the places below its own. -/
structure Describes (g : Graph) (n : Node) (entries : Entries) : Prop where
  ref : n.ref = none
  types : ListsTypes (entries.lookup "type") n.types
  required : Lists (entries.lookup "required") n.required
  description : n.description = (entries.lookup "description").bind Json.str?
  format : n.format = (entries.lookup "format").bind Json.str?
  properties : entries.lookup "properties" = none ∧ n.properties = [] ∨
    ∃ properties, entries.lookup "properties" = some (.obj properties) ∧
      n.properties.map Prod.fst = properties.map Prod.fst
  property_places : ∀ p ∈ n.properties,
    g.At p.2 (Pointer.child (n.pointer ++ "/properties") p.1)
  items : n.items.isSome = true ↔ ∃ items, entries.lookup "items" = some (.obj items)
  items_place : ∀ c, n.items = some c → g.At c (n.pointer ++ "/items")

/-- A node says what the entries of an object say: it is a reference and nothing else, or it
describes a schema. -/
inductive Mirrors (g : Graph) (n : Node) (entries : Entries) : Prop
  | reference {reference : String} {target : NodeId}
      (href : entries.lookup "$ref" = some (.str reference))
      (hnode : n = { pointer := n.pointer, ref := some target }) (htarget : target < g.size) :
      Mirrors g n entries
  | schema (href : ∀ reference, entries.lookup "$ref" ≠ some (.str reference))
      (hnode : g.Describes n entries) : Mirrors g n entries

variable {g : Graph} {entries properties : Entries} {pointer : String} {children : List NodeId}

theorem describes_nodeOf {types required : List Json} (htypes : typesOf entries = .ok types)
    (hrequired : requiredOf entries = .ok required)
    (hproperties : propertiesOf entries = .ok properties)
    (hchildren : List.Forall₂ (fun t id => g.At id t.2)
      (below entries properties pointer) children) :
    g.Describes (nodeOf entries properties pointer types required children) entries := by
  have hlength : properties.length ≤ children.length := by
    rw [← hchildren.length_eq, below, List.length_append, List.length_map]
    exact Nat.le_add_right _ _
  have hnames : ((properties.map Prod.fst).zip children).map Prod.fst = properties.map Prod.fst :=
    List.map_fst_zip (by rwa [List.length_map])
  have hdrop := forall₂_drop_below hchildren
  have hitems : (nodeOf entries properties pointer types required children).items =
      (children.drop properties.length).head? := List.head?_drop.symm
  refine
    { ref := rfl
      types := listsTypes_of_typesOf htypes
      required := lists_of_requiredOf hrequired
      description := rfl
      format := rfl
      properties := ?_
      property_places := at_of_mem_zip hchildren
      items := ?_
      items_place := fun _ hc => at_of_items hchildren hc }
  · rcases propertiesOf_eq_ok hproperties with ⟨hnone, rfl⟩ | hlookup
    · exact Or.inl ⟨hnone, rfl⟩
    · exact Or.inr ⟨properties, hlookup, hnames⟩
  · rw [hitems]
    cases hschema : itemsOf entries with
    | none =>
      rw [hschema] at hdrop
      rw [List.forall₂_nil_left_iff.1 hdrop]
      constructor
      · intro h
        cases h
      · rintro ⟨items, h⟩
        rw [itemsOf_eq_some.2 ⟨h, items, rfl⟩] at hschema
        cases hschema
    | some schema =>
      rw [hschema] at hdrop
      obtain ⟨c, cs, -, -, hcs⟩ := List.forall₂_cons_left_iff.1 hdrop
      obtain ⟨h, items, rfl⟩ := itemsOf_eq_some.1 hschema
      rw [hcs]
      exact ⟨fun _ => ⟨items, h⟩, fun _ => rfl⟩

variable {source : Source} {id : NodeId}

theorem Finished.mirrors (h : g.Finished source id) :
    ∃ entries, source.Meets (.obj entries) (g.node id).pointer ∧
      g.Mirrors (g.node id) entries := by
  cases h with
  | reference hmeets href hnode htarget =>
    exact ⟨_, hmeets, .reference (textOf_eq_some.1 href) hnode htarget⟩
  | schema hmeets href htypes hrequired hproperties hnode hchildren =>
    refine ⟨_, hmeets, .schema (fun reference h => ?_) ?_⟩
    · rw [textOf_eq_some.2 h] at href
      cases href
    · rw [hnode]
      exact describes_nodeOf htypes hrequired hproperties hchildren

/-! ### Nodes that are reached -/

/-- The nodes that a node refers to are nodes of the graph. -/
theorem Mirrors.child_lt {n : Node} (h : g.Mirrors n entries) {c : NodeId} (hc : c ∈ n.children) :
    c < g.size := by
  cases h with
  | reference _ hnode htarget =>
    rw [hnode] at hc
    rw [List.mem_singleton.1 hc]
    exact htarget
  | schema _ hnode =>
    simp only [Node.children, hnode.ref, Option.toList_none, List.nil_append, List.mem_append,
      List.mem_map, Option.mem_toList] at hc
    rcases hc with ⟨p, hp, rfl⟩ | hc
    · exact (hnode.property_places p hp).1
    · exact (hnode.items_place c hc).1

/-- A walk over the nodes stays among those of the graph. -/
theorem lt_of_mem_preorderFrom (hg : ∀ x < g.size, ∀ c ∈ (g.node x).children, c < g.size)
    (fuel : Nat) {seen todo : List NodeId} (hseen : ∀ x ∈ seen, x < g.size)
    (htodo : ∀ x ∈ todo, x < g.size) : ∀ x ∈ g.preorderFrom fuel seen todo, x < g.size := by
  induction fuel generalizing seen todo with
  | zero =>
    rw [preorderFrom]
    exact fun x hx => hseen x (List.mem_reverse.1 hx)
  | succ fuel ih =>
    cases todo with
    | nil =>
      rw [preorderFrom]
      · exact fun x hx => hseen x (List.mem_reverse.1 hx)
      · simp
    | cons id todo =>
      have hid := htodo id List.mem_cons_self
      have hrest : ∀ x ∈ todo, x < g.size := fun x hx => htodo x (List.mem_cons_of_mem _ hx)
      rw [preorderFrom]
      split_ifs
      · exact ih hseen hrest
      · refine ih (List.forall_mem_cons.2 ⟨hid, hseen⟩) fun x hx => ?_
        rcases List.mem_append.1 hx with hx | hx
        · exact hg id hid x hx
        · exact hrest x hx

end Graph

/-! ### Documents -/

/-- **The graph of a document mirrors the document.** Let every object of a document have each of
its keys once, and let no fragment of a reference start with an escape. Then every node stands for
the object at its place and says what that object says, no two nodes are at one place, and the
messages lead to nodes of the graph only. -/
theorem graph_mirrors_document {custom : List String} {contents : Json} {d : Document}
    (hkeys : contents.hasUniqueKeys = true)
    (hplain : contents.references.all isPlainReference = true)
    (hread : (read custom contents).1 = .ok d) :
    (d.graph.nodes.map (·.pointer)).Nodup ∧ (∀ id ∈ d.reachable, id < d.graph.size) ∧
      ∀ id < d.graph.size, ∃ entries,
        valueAt contents (d.graph.node id).pointer = some (.obj entries) ∧
          d.graph.Mirrors (d.graph.node id) entries := by
  obtain ⟨schemas, -, hbuilds, -, -⟩ := builtFrom_of_read hread
  have hmirrors : ∀ id < d.graph.size, ∃ entries,
      (Source.ofDocument custom contents).Meets (.obj entries) (d.graph.node id).pointer ∧
        d.graph.Mirrors (d.graph.node id) entries :=
    fun id hid => (finished_of_read hread hid).mirrors
  refine ⟨hbuilds.nodup_pointers List.nodup_nil, ?_, fun id hid => ?_⟩
  · refine Graph.lt_of_mem_preorderFrom (fun x hx c hc => ?_) _ (by simp) fun x hx => ?_
    · obtain ⟨entries, -, h⟩ := hmirrors x hx
      exact h.child_lt hc
    · obtain ⟨t, -, hat⟩ := exists_of_forall₂ hbuilds.at_places hx
      exact hat.1
  · obtain ⟨entries, hmeets, h⟩ := hmirrors id hid
    exact ⟨entries, valueAt_of_meets hkeys hplain hmeets, h⟩

open Go (documentOf objectOf arrayOf refTo)

/-- A trip with a slash and a tilde in the names of its properties and a slash and a blank in those
of its definitions. -/
def escapedTrip : Json :=
  documentOf (objectOf [("stops/all", arrayOf (refTo "a~1stop")), ("first~stop", refTo "a~1stop")])
    [("a/stop", objectOf [("next", refTo "a~1stop"), ("name", refTo "stop%20name")]),
      ("stop name", .obj [("type", .arr [.str "string", .str "null"]), ("format", .str "email")])]

set_option maxRecDepth 100000 in
theorem escapedTrip_mirrored : ∃ d, (read [] escapedTrip).1 = .ok d ∧
    d.graph.nodes.map (·.pointer) = ["/schemas/trip/1", "/schemas/trip/1/properties/stops~1all",
      "/schemas/trip/1/properties/stops~1all/items", "/definitions/a~1stop",
      "/definitions/a~1stop/properties/next", "/definitions/a~1stop/properties/name",
      "/definitions/stop name", "/schemas/trip/1/properties/first~0stop"] ∧
    (d.graph.nodes.map (·.pointer)).Nodup ∧ (∀ id ∈ d.reachable, id < d.graph.size) ∧
    ∀ id < d.graph.size, ∃ entries,
      valueAt escapedTrip (d.graph.node id).pointer = some (.obj entries) ∧
        d.graph.Mirrors (d.graph.node id) entries := by
  have h : ((read [] escapedTrip).1.toOption.map fun d => d.graph.nodes.map (·.pointer)) =
      some ["/schemas/trip/1", "/schemas/trip/1/properties/stops~1all",
      "/schemas/trip/1/properties/stops~1all/items", "/definitions/a~1stop",
      "/definitions/a~1stop/properties/next", "/definitions/a~1stop/properties/name",
      "/definitions/stop name", "/schemas/trip/1/properties/first~0stop"] := by decide +kernel
  obtain ⟨d, hd, hpointers⟩ := Option.map_eq_some_iff.1 h
  exact ⟨d, ok_of_toOption hd, hpointers,
    graph_mirrors_document (by decide +kernel) (by decide +kernel) (ok_of_toOption hd)⟩

/-- A document with a reference that looks like a pointer once its escapes are read, but names an
anchor. -/
def disguisedAnchor : Json :=
  documentOf (objectOf [("x", .obj [("$ref", .str "#%2Fx")])])
    [("d", .obj [("id", .str "#%2Fx"), ("type", .str "string")])]

set_option maxRecDepth 100000 in
/-- The node of an anchor that looks like a pointer is at a place where nothing stands. -/
theorem disguisedAnchor_misplaced : ∃ d, (read [] disguisedAnchor).1 = .ok d ∧
    d.graph.nodes.map (·.pointer) =
      ["/schemas/trip/1", "/schemas/trip/1/properties/x", "/x"] ∧
    valueAt disguisedAnchor "/x" = none := by
  have h : ((read [] disguisedAnchor).1.toOption.map fun d => d.graph.nodes.map (·.pointer)) =
      some ["/schemas/trip/1", "/schemas/trip/1/properties/x", "/x"] := by decide +kernel
  obtain ⟨d, hd, hpointers⟩ := Option.map_eq_some_iff.1 h
  exact ⟨d, ok_of_toOption hd, hpointers, by decide +kernel⟩

end StructGen.Schema
