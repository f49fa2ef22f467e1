import StructGen.Proofs.EnteredPlaces
import StructGen.Proofs.MessageNames
import StructGen.Proofs.ReferenceChains

/-!
# Documents with plain references

Where the objects of a document have each key once and no reference hides an anchor, reading meets
at a place the value at that place and nothing else. Which places are entered, where references lead
and what is warned of then depends on the values at places alone, and not on the order of reading.

* `Points` leads from the place of a reference to the place that it names, `Contains` from the place
  of a schema to those right below it;
* `mem_pointers_iff_reached` tells which places the nodes of a document are at;
* `warnings_of_read` tells of which places there are warnings;
* `eq_of_transGen_points` says that the references of a document lead to one place in the end.
-/

namespace StructGen.Schema

open Relation

/-- The objects of a document have each key once, and none of its references starts with an
escape. -/
structure Source.Plain (source : Source) : Prop where
  keys : source.contents.hasUniqueKeys = true
  references : source.contents.references.all isPlainReference = true

theorem Source.Plain.valueAt {source : Source} (hs : source.Plain) {schema : Json} {place : String}
    (h : source.Meets schema place) : valueAt source.contents place = some schema :=
  valueAt_of_meets hs.keys hs.references h

/-! ### From place to place -/

/-- A reference stands at one place and names another one. -/
def Points (contents : Json) (p q : String) : Prop :=
  ∃ entries reference, valueAt contents p = some (.obj entries) ∧
    textOf entries "$ref" = some reference ∧ fragmentPlace reference = some q

/-- A schema that is no reference stands at one place and has another one right below it. -/
def Contains (contents : Json) (p q : String) : Prop :=
  ∃ entries properties schema, valueAt contents p = some (.obj entries) ∧
    textOf entries "$ref" = none ∧ propertiesOf entries = .ok properties ∧
    (schema, q) ∈ below entries properties p

/-- The places of the messages and all that they lead to. -/
inductive Reached (contents : Json) : String → Prop
  | message {type version : String} (h : HasMessage contents (type, version)) :
      Reached contents (Pointer.ofSegments ["schemas", type, version])
  | target {p q : String} (hp : Reached contents p) (h : Points contents p q) : Reached contents q
  | inside {p q : String} (hp : Reached contents p) (h : Contains contents p q) :
      Reached contents q

variable {contents : Json} {source : Source} {p q q' : String}

theorem rightUnique_points : Relator.RightUnique (Points contents) := by
  rintro p q q' ⟨entries, reference, hp, href, hq⟩ ⟨entries', reference', hp', href', hq'⟩
  cases hp.symm.trans hp'
  cases href.symm.trans href'
  exact Option.some.inj (hq.symm.trans hq')

/-- The end of a chain of references is one place. -/
theorem eq_of_transGen_points (hq : TransGen (Points contents) p q)
    (hq' : TransGen (Points contents) p q') (hend : ∀ r, ¬ Points contents q r)
    (hend' : ∀ r, ¬ Points contents q' r) : q = q' := by
  rcases ReflTransGen.total_of_right_unique rightUnique_points hq.to_reflTransGen
    hq'.to_reflTransGen with h | h
  · rcases ReflTransGen.cases_head h with heq | ⟨r, hr, -⟩
    · exact heq
    · exact absurd hr (hend r)
  · rcases ReflTransGen.cases_head h with heq | ⟨r, hr, -⟩
    · exact heq.symm
    · exact absurd hr (hend' r)

theorem Source.Plain.points (hs : source.Plain) (h : source.Refers p q) :
    Points source.contents p q := by
  obtain ⟨entries, reference, schema, hmeets, href, hresolve⟩ := h
  exact ⟨entries, reference, hs.valueAt hmeets, href, fragmentPlace_of_resolveReference hresolve⟩

theorem Source.Plain.reached (hs : source.Plain) {schema : Json} (h : source.Meets schema p) :
    Reached source.contents p := by
  induction h with
  | message hschemas htype hversion => exact .message ⟨_, _, _, hschemas, htype, hversion⟩
  | target hmeets href hresolve ih => exact .target ih (hs.points ⟨_, _, _, hmeets, href, hresolve⟩)
  | inside hmeets href hproperties hbelow ih =>
    exact .inside ih ⟨_, _, _, hs.valueAt hmeets, href, hproperties, hbelow⟩

/-! ### The places of the nodes -/

namespace Graph

variable {g : Graph}

theorem mem_pointers : p ∈ g.pointers ↔ ∃ x, g.At x p := by
  unfold pointers At
  constructor
  · intro h
    obtain ⟨n, hn, rfl⟩ := List.mem_map.1 h
    obtain ⟨x, hx, rfl⟩ := List.mem_iff_getElem.1 hn
    exact ⟨x, hx, by rw [node, List.getElem?_eq_getElem hx]; rfl⟩
  · rintro ⟨x, hx, rfl⟩
    exact pointer_mem_pointers hx

/-- What the references of the nodes name has been entered. -/
def TargetsEntered (source : Source) (g : Graph) : Prop :=
  ∀ x t, (g.node x).ref = some t → ∃ q ∈ g.pointers, source.Refers (g.node x).pointer q

theorem TargetsEntered.push (h : g.TargetsEntered source) (pointer : String) :
    (g.push { pointer }).TargetsEntered source := by
  intro x t ht
  rw [node_push] at ht ⊢
  split_ifs at ht ⊢
  obtain ⟨q, hq, hrefers⟩ := h x t ht
  exact ⟨q, (growsTo_push g _).pointers_subset hq, hrefers⟩

theorem TargetsEntered.set (h : g.TargetsEntered source) {id : NodeId} {n : Node}
    (hid : id < g.size) (hp : n.pointer = (g.node id).pointer)
    (hn : ∀ t, n.ref = some t → ∃ q ∈ g.pointers, source.Refers n.pointer q) :
    (g.set id n).TargetsEntered source := by
  intro x t ht
  rw [pointers_set hid hp]
  rw [node_set _ _ _ hid] at ht ⊢
  split_ifs at ht ⊢
  · exact hn t ht
  · exact h x t ht

end Graph

theorem Builds.targetsEntered {g g' : Graph} {tasks : List (Json × String)} {ids : List NodeId}
    {ws : List FormatWarning} (h : Builds source g tasks ids ws g')
    (hmeets : ∀ t ∈ tasks, source.Meets t.1 t.2) (hg : g.TargetsEntered source) :
    g'.TargetsEntered source := by
  induction h with
  | nil => exact hg
  | found _ _ ih => exact ih (fun t ht => hmeets t (List.mem_cons_of_mem _ ht)) hg
  | @reference g g₁ g' entries pointer reference place schema target rest ids ws ws' hfind href
      hresolve htarget hne hrest ihTarget ih =>
    obtain ⟨hlt, hempty⟩ := htarget.growsTo.entered
    have hself := hmeets _ List.mem_cons_self
    have hg₁ := ihTarget (fun t ht => by
      rw [List.mem_singleton.1 ht]
      exact .target hself href hresolve) (hg.push pointer)
    refine ih (fun t ht => hmeets t (List.mem_cons_of_mem _ ht)) (hg₁.set hlt (by rw [hempty]) ?_)
    intro _ _
    -- the target has just been read, so there is a node at its place
    obtain ⟨hat, -⟩ := List.forall₂_cons.1 htarget.at_places
    exact ⟨place, Graph.mem_pointers.2 ⟨_, hat⟩, entries, reference, schema, hself, href, hresolve⟩
  | @schema g g₁ g' entries properties pointer types required rest children ids ws ws' hfind href
      htypes hrequired hproperties hbelow hrest ihBelow ih =>
    obtain ⟨hlt, hempty⟩ := hbelow.growsTo.entered
    have hself := hmeets _ List.mem_cons_self
    have hg₁ := ihBelow (fun t ht => .inside hself href hproperties ht) (hg.push pointer)
    refine ih (fun t ht => hmeets t (List.mem_cons_of_mem _ ht))
      (hg₁.set hlt (by rw [hempty]; rfl) ?_)
    rintro _ ⟨⟩

/-! ### Warnings -/

/-- The warnings for the schema at a place. -/
def warningsAt (formats : List String) (contents : Json) (p : String) : List FormatWarning :=
  match valueAt contents p with
  | some (.obj entries) =>
    if (textOf entries "$ref").isSome then [] else warningsOf formats entries p
  | _ => []

theorem warningsAt_of_ref (formats : List String) {entries : Entries} {reference : String}
    (h : valueAt contents p = some (.obj entries)) (href : textOf entries "$ref" = some reference) :
    warningsAt formats contents p = [] := by
  simp [warningsAt, h, href]

theorem warningsAt_of_none (formats : List String) {entries : Entries}
    (h : valueAt contents p = some (.obj entries)) (href : textOf entries "$ref" = none) :
    warningsAt formats contents p = warningsOf formats entries p := by
  simp [warningsAt, h, href]

/-- Warnings come from the places that are entered, each of them once. -/
theorem Builds.warnings_perm (hs : source.Plain) {g g' : Graph} {tasks : List (Json × String)}
    {ids : List NodeId} {ws : List FormatWarning} (h : Builds source g tasks ids ws g')
    (hmeets : ∀ t ∈ tasks, source.Meets t.1 t.2) :
    (g'.pointers.flatMap (warningsAt source.formats source.contents)).Perm
      (g.pointers.flatMap (warningsAt source.formats source.contents) ++ ws) := by
  induction h with
  | nil => rw [List.append_nil]
  | found _ _ ih => exact ih fun t ht => hmeets t (List.mem_cons_of_mem _ ht)
  | @reference g g₁ g' entries pointer reference place schema target rest ids ws ws' hfind href
      hresolve htarget hne hrest ihTarget ih =>
    obtain ⟨hlt, hempty⟩ := htarget.growsTo.entered
    have hself := hmeets _ List.mem_cons_self
    have hquiet := warningsAt_of_ref source.formats (hs.valueAt hself) href
    have hrest := ih fun t ht => hmeets t (List.mem_cons_of_mem _ ht)
    have htarget := ihTarget fun t ht => by
      rw [List.mem_singleton.1 ht]
      exact .target hself href hresolve
    rw [Graph.pointers_set hlt (by rw [hempty])] at hrest
    rw [Graph.pointers_push, List.flatMap_append, List.flatMap_singleton, hquiet,
      List.append_nil] at htarget
    rw [← List.append_assoc]
    exact hrest.trans (htarget.append_right _)
  | @schema g g₁ g' entries properties pointer types required rest children ids ws ws' hfind href
      htypes hrequired hproperties hbelow hrest ihBelow ih =>
    obtain ⟨hlt, hempty⟩ := hbelow.growsTo.entered
    have hself := hmeets _ List.mem_cons_self
    have hown := warningsAt_of_none source.formats (hs.valueAt hself) href
    have hrest := ih fun t ht => hmeets t (List.mem_cons_of_mem _ ht)
    have hbelow := ihBelow fun t ht => .inside hself href hproperties ht
    rw [Graph.pointers_set hlt (by rw [hempty]; rfl)] at hrest
    rw [Graph.pointers_push, List.flatMap_append, List.flatMap_singleton, hown,
      List.append_assoc] at hbelow
    -- the schema warns after what is below it, but is entered before
    refine hrest.trans ((hbelow.append_right _).trans ?_)
    rw [List.append_assoc]
    exact (List.perm_append_comm.append_right _).append_left _

/-! ### Documents -/

section Read

variable {custom : List String} {d : Document}

/-- **Nodes are at the places that the messages lead to**, whatever the order of reading. -/
theorem mem_pointers_iff_reached (hs : (Source.ofDocument custom contents).Plain)
    (hread : (read custom contents).1 = .ok d) : p ∈ d.graph.pointers ↔ Reached contents p := by
  obtain ⟨schemas, hd⟩ := builtFrom_of_read hread
  constructor
  · intro hp
    obtain ⟨x, hx, rfl⟩ := Graph.mem_pointers.1 hp
    cases finished_of_read hread hx with
    | reference hmeets _ _ _ => exact hs.reached hmeets
    | schema hmeets _ _ _ _ _ _ => exact hs.reached hmeets
  · intro hp
    induction hp with
    | @message type version h =>
      obtain ⟨schemas', versions, schema, hschemas, htype, hversion⟩ := h
      cases hd.given.symm.trans hschemas
      have htask : (schema, Pointer.ofSegments ["schemas", type, version]) ∈ messageTasks schemas :=
        mem_messageTasks.2 ⟨type, versions, version, htype, hversion, rfl⟩
      obtain ⟨x, -, hat⟩ := exists_of_forall₂ hd.builds.at_places.flip htask
      exact Graph.mem_pointers.2 ⟨x, hat⟩
    | target _ hpoints ih =>
      obtain ⟨x, hx, rfl⟩ := Graph.mem_pointers.1 ih
      have hentered := hd.builds.targetsEntered
        (fun t ht => meets_of_mem_messageTasks hd.given ht) (fun _ _ h => by cases h) x
      cases finished_of_read hread hx with
      | reference _ _ hnode _ =>
        obtain ⟨q, hq, hrefers⟩ := hentered _ (by rw [hnode])
        rwa [rightUnique_points hpoints (hs.points hrefers)]
      | schema hmeets href _ _ _ _ _ =>
        obtain ⟨entries, reference, hentries, href', -⟩ := hpoints
        cases (hs.valueAt hmeets).symm.trans hentries
        rw [href] at href'
        cases href'
    | inside _ hcontains ih =>
      obtain ⟨x, hx, rfl⟩ := Graph.mem_pointers.1 ih
      obtain ⟨entries, properties, schema, hentries, href, hproperties, hbelow⟩ := hcontains
      cases finished_of_read hread hx with
      | reference hmeets href' _ _ =>
        cases (hs.valueAt hmeets).symm.trans hentries
        rw [href] at href'
        cases href'
      | schema hmeets _ _ _ hproperties' _ hchildren =>
        cases (hs.valueAt hmeets).symm.trans hentries
        cases hproperties.symm.trans hproperties'
        obtain ⟨y, -, hat⟩ := exists_of_forall₂ hchildren.flip hbelow
        exact Graph.mem_pointers.2 ⟨y, hat⟩

theorem nodup_pointers_of_read (hread : (read custom contents).1 = .ok d) :
    d.graph.pointers.Nodup := by
  obtain ⟨schemas, hd⟩ := builtFrom_of_read hread
  exact hd.builds.nodup_pointers .nil

/-- **The warnings are those for the places of the nodes**, in some order. -/
theorem warnings_of_read (hs : (Source.ofDocument custom contents).Plain)
    (hread : (read custom contents).1 = .ok d) :
    d.warnings.Perm (d.graph.pointers.flatMap (warningsAt (standardFormats ++ custom) contents)) := by
  obtain ⟨schemas, hd⟩ := builtFrom_of_read hread
  exact (hd.builds.warnings_perm hs fun t ht => meets_of_mem_messageTasks hd.given ht).symm

/-- A node that is no reference stands where the references of the document end. -/
theorem not_points_of_ref_eq_none (hs : (Source.ofDocument custom contents).Plain)
    (hread : (read custom contents).1 = .ok d) {x : NodeId} (hx : x < d.graph.size)
    (href : (d.graph.node x).ref = none) (q : String) :
    ¬ Points contents (d.graph.node x).pointer q := by
  obtain ⟨-, entries, hmeets, hnone⟩ := (finished_of_read hread hx).endsChain href
  rintro ⟨entries', reference, hentries, href', -⟩
  cases (hs.valueAt hmeets).symm.trans hentries
  rw [hnone] at href'
  cases href'

/-- References lead from the place of a node to that of its target. -/
theorem points_of_ref (hs : (Source.ofDocument custom contents).Plain)
    (hread : (read custom contents).1 = .ok d) {x t : NodeId}
    (href : (d.graph.node x).ref = some t) :
    TransGen (Points contents) (d.graph.node x).pointer (d.graph.node t).pointer := by
  obtain ⟨schemas, hd⟩ := builtFrom_of_read hread
  have hchained := hd.builds.chained Graph.refsIn_empty
    (fun t ht => meets_of_mem_messageTasks hd.given ht) fun _ _ h => by cases h
  exact TransGen.mono (fun _ _ h => hs.points h) _ _ (hchained x t href)

end Read

end StructGen.Schema
