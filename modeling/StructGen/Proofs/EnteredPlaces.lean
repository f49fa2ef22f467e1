import StructGen.Proofs.FaithfulGraph
import StructGen.Proofs.ReadingFailures

/-!
# Places that reading enters

Reading enters every place at most once, and all of them are among finitely many that the document
determines: those of the messages, those that its references name, and those below them. So it comes
to an end, also if references lead back. A chain of references that leads back to itself is found
out wherever it is entered, since the place that is met again has been entered but not filled in.

* `positions` are the places of a schema and of those below it, `Source.places` all there can be;
* `Entered` says which places a graph has, `entered_buildNode` what one call does to them;
* `Source.Circles` says that references lead on for ever, `circling_buildNode` what comes of it;
* `reading_ends` is about documents.
-/

namespace StructGen.Schema

open Relation

/-! ### Positions below a schema -/

mutual

/-- The places of a schema and of the schemas below it. -/
def positions : Json → String → List String
  | .obj entries, pointer => pointer :: entryPositions entries pointer
  | _, _ => []

/-- The places below a schema with some entries. -/
def entryPositions : List (String × Json) → String → List String
  | [], _ => []
  | (keyword, v) :: entries, pointer =>
    (if keyword = "properties" then propertyPositions v pointer
    else if keyword = "items" then positions v (pointer ++ "/items")
    else []) ++ entryPositions entries pointer

/-- The places of the properties of a schema and of what is below them. -/
def propertyPositions : Json → String → List String
  | .obj properties, pointer => memberPositions properties pointer
  | _, _ => []

/-- The places of some properties of a schema and of what is below them. -/
def memberPositions : List (String × Json) → String → List String
  | [], _ => []
  | (name, v) :: properties, pointer =>
    positions v (Pointer.child (pointer ++ "/properties") name) ++
      memberPositions properties pointer

end

section Positions

variable {entries properties : Entries} {v : Json} {pointer place name : String}

theorem propertyPositions_subset (h : ("properties", v) ∈ entries) :
    propertyPositions v pointer ⊆ entryPositions entries pointer := by
  induction entries with
  | nil => cases h
  | cons e entries ih =>
    rw [entryPositions]
    rcases List.mem_cons.1 h with rfl | h
    · rw [if_pos rfl]
      exact List.subset_append_left _ _
    · exact List.Subset.trans (ih h) (List.subset_append_right _ _)

theorem itemPositions_subset (h : ("items", v) ∈ entries) :
    positions v (pointer ++ "/items") ⊆ entryPositions entries pointer := by
  induction entries with
  | nil => cases h
  | cons e entries ih =>
    rw [entryPositions]
    rcases List.mem_cons.1 h with rfl | h
    · rw [if_neg (by simp), if_pos rfl]
      exact List.subset_append_left _ _
    · exact List.Subset.trans (ih h) (List.subset_append_right _ _)

theorem memberPositions_subset (h : (name, v) ∈ properties) :
    positions v (Pointer.child (pointer ++ "/properties") name) ⊆
      memberPositions properties pointer := by
  induction properties with
  | nil => cases h
  | cons p properties ih =>
    rw [memberPositions]
    rcases List.mem_cons.1 h with rfl | h
    · exact List.subset_append_left _ _
    · exact List.Subset.trans (ih h) (List.subset_append_right _ _)

/-- The positions below a schema hold those of the schemas right below it. -/
theorem positions_subset_of_mem_below (hproperties : propertiesOf entries = .ok properties)
    (h : (v, place) ∈ below entries properties pointer) :
    positions v place ⊆ positions (.obj entries) pointer := by
  have hself : entryPositions entries pointer ⊆ positions (.obj entries) pointer := by
    rw [positions]
    exact List.subset_cons_self _ _
  rcases mem_below.1 h with ⟨name, hname, rfl⟩ | ⟨hitems, rfl⟩
  · rcases propertiesOf_eq_ok hproperties with ⟨-, rfl⟩ | hlookup
    · cases hname
    · have hall : propertyPositions (.obj properties) pointer ⊆ entryPositions entries pointer :=
        propertyPositions_subset (mem_of_lookup hlookup)
      rw [propertyPositions] at hall
      exact List.Subset.trans (List.Subset.trans (memberPositions_subset hname) hall) hself
  · exact List.Subset.trans
      (itemPositions_subset (mem_of_lookup (itemsOf_eq_some.1 hitems).1)) hself

end Positions

/-- Where reading can start or go on by a reference: the messages, and what the references of the
document lead to, each with its place. -/
def Source.roots (source : Source) : List (Json × String) :=
  (match source.contents.get? "schemas" with
    | some (.obj schemas) => messageTasks schemas
    | _ => []) ++
  source.contents.references.filterMap fun reference =>
    (resolveReference source.base source.contents reference).toOption

/-- All places that reading a document can enter. -/
def Source.places (source : Source) : List String :=
  source.roots.flatMap fun t => positions t.1 t.2

/-- Whatever reading meets, its positions are among the places of the document. -/
theorem Source.Meets.positions_subset {source : Source} {schema : Json} {place : String}
    (h : source.Meets schema place) : positions schema place ⊆ source.places := by
  have hroot : ∀ t ∈ source.roots, positions t.1 t.2 ⊆ source.places := fun t ht p hp =>
    List.mem_flatMap.2 ⟨t, ht, hp⟩
  induction h with
  | @message schemas versions type version schema hschemas htype hversion =>
    refine hroot (schema, _) (List.mem_append_left _ ?_)
    rw [hschemas]
    exact mem_messageTasks.2 ⟨type, versions, version, htype, hversion, rfl⟩
  | @target entries pointer reference place schema hmeets href hresolve _ =>
    refine hroot (schema, place) (List.mem_append_right _ (List.mem_filterMap.2 ?_))
    exact ⟨reference, hmeets.mem_references href, by rw [hresolve]; rfl⟩
  | inside _ _ hproperties hbelow ih =>
    exact List.Subset.trans (positions_subset_of_mem_below hproperties hbelow) ih

/-! ### Places of a graph -/

/-- A graph has no place twice, and all its places have a property. -/
def Entered (P : String → Prop) (g : Graph) : Prop :=
  g.pointers.Nodup ∧ ∀ place ∈ g.pointers, P place

section Entered

variable {P : String → Prop} {F : Failure → Prop} {source : Source} {g : Graph} {b : Builder}
  {contents : Json} {pointer : String}

theorem Entered.push (h : Entered P g) (hfind : g.find? pointer = none) (hp : P pointer) :
    Entered P (g.push { pointer }) := by
  rw [Entered, Graph.pointers_push]
  refine ⟨List.nodup_append.2 ⟨h.1, List.nodup_singleton _, ?_⟩, fun place hplace => ?_⟩
  · intro p hp q hq hpq
    rw [hpq, List.mem_singleton.1 hq] at hp
    exact Graph.find?_eq_none.1 hfind hp
  · rcases List.mem_append.1 hplace with hplace | hplace
    · exact h.2 place hplace
    · rw [List.mem_singleton.1 hplace]
      exact hp

/-- Filling in a node enters no place. -/
theorem Entered.filled {g₁ : Graph} {n : Node} (h : Entered P g₁)
    (hgrows : (g.push { pointer }).GrowsTo g₁) (hn : n.pointer = pointer) :
    Entered P (g₁.set g.size n) := by
  obtain ⟨hlt, hnode⟩ := hgrows.entered
  rwa [Entered, Graph.pointers_set hlt (by rw [hnode, hn])]

theorem Graph.pointer_mem_pointers {x : NodeId} (hx : x < g.size) :
    (g.node x).pointer ∈ g.pointers := by
  rw [node, List.getElem?_eq_getElem hx]
  exact List.mem_map_of_mem (List.getElem_mem hx)

/-- Reading a schema at a new place fails in a certain way if only certain places have been
entered. -/
def Barred (source : Source) (P : String → Prop) (F : Failure → Prop) (contents : Json)
    (pointer : String) : Prop :=
  ∀ fuel b, (∀ place ∈ Graph.pointers b.graph, P place) → b.graph.find? pointer = none →
    EndsIn (buildNode source fuel contents pointer) b (fun _ _ => False) fun f _ => F f

/-- **One call enters new places only**, also if it fails. -/
theorem entered_buildNode (fuel : Nat)
    (hnew : ∀ entries pointer, source.Meets (.obj entries) pointer →
      P pointer ∨ Barred source P F (.obj entries) pointer)
    (hmeets : source.Meets contents pointer) (h : Entered P b.graph) :
    EndsIn (buildNode source fuel contents pointer) b
      (fun _ b' => b.graph.GrowsTo b'.graph ∧ Entered P b'.graph)
      (fun f b' => Entered P b'.graph ∨ F f) := by
  induction fuel generalizing contents pointer b with
  | zero => exact Or.inl h
  | succ fuel ih =>
    by_cases hbarred : b.graph.find? pointer = none ∧ Barred source P F contents pointer
    · exact (hbarred.2 _ b h.2 hbarred.1).mono (fun _ _ h => h.elim) fun _ _ hf => Or.inr hf
    have hplace : ∀ entries, contents = .obj entries → b.graph.find? pointer = none →
        P pointer := by
      rintro entries rfl hfind
      exact (hnew entries pointer hmeets).resolve_right fun h => hbarred ⟨hfind, h⟩
    refine endsIn_buildNode (fun id hfind => ⟨.refl _, h⟩) (fun _ => Or.inl h) ?_ ?_
    · rintro entries reference rfl hfind href
      have hpush := h.push hfind (hplace entries rfl hfind)
      refine ⟨fun f _ => Or.inl hpush, fun schema place hresolve => ?_⟩
      refine (ih (b := b.entered pointer) (.target hmeets href hresolve) hpush).mono ?_
        fun _ _ hf => hf
      rintro target b₁ ⟨hgrows, h₁⟩
      refine ⟨fun _ => Or.inl h₁, fun _ => ⟨?_, h₁.filled hgrows rfl⟩⟩
      exact ((Graph.growsTo_push _ _).trans hgrows).set (Nat.le_refl _)
    · rintro entries rfl hfind href
      have hpush := h.push hfind (hplace entries rfl hfind)
      refine ⟨fun f _ => Or.inl hpush, fun types required properties _ _ hproperties => ?_⟩
      refine (endsIn_mapM (fun _ _ b' => (b.graph.push { pointer }).GrowsTo b'.graph ∧
        Entered P b'.graph) ⟨.refl _, hpush⟩ ?_).mono ?_ fun _ _ hf => hf
      · rintro pre ⟨schema, place⟩ post ids b₁ htasks ⟨hgrows, h₁⟩
        have hbelow : (schema, place) ∈ below entries properties pointer := by
          rw [htasks]
          simp
        refine (ih (.inside hmeets href hproperties hbelow) h₁).mono ?_ fun _ _ hf => hf
        exact fun _ b₂ h₂ => ⟨hgrows.trans h₂.1, h₂.2⟩
      · rintro ids b₁ ⟨hgrows, h₁⟩
        refine ⟨?_, h₁.filled hgrows rfl⟩
        exact ((Graph.growsTo_push _ _).trans hgrows).set (Nat.le_refl _)

end Entered

/-! ### References that lead on for ever -/

/-- The place that the reference at a place of the document leads to, if there is one. -/
def Source.next? (source : Source) (place : String) : Option String :=
  match valueAt source.contents place with
  | some (.obj entries) => (textOf entries "$ref").bind fun reference =>
    (resolveReference source.base source.contents reference).toOption.map Prod.snd
  | _ => none

/-- The reference at one place of the document leads to another place. -/
def Source.LeadsTo (source : Source) (place place' : String) : Prop :=
  source.next? place = some place'

/-- From a place references lead to a place that they lead back to. -/
def Source.Circles (source : Source) (place : String) : Prop :=
  ∃ place', ReflTransGen source.LeadsTo place place' ∧ TransGen source.LeadsTo place' place'

section Circling

variable {source : Source} {contents : Json} {pointer place : String} {b : Builder}

theorem Source.next?_eq_some : source.next? pointer = some place ↔
    ∃ entries reference schema, valueAt source.contents pointer = some (.obj entries) ∧
      textOf entries "$ref" = some reference ∧
      resolveReference source.base source.contents reference = .ok (schema, place) := by
  unfold next?
  constructor
  · intro h
    split at h
    · rename_i entries hvalue
      obtain ⟨reference, href, h⟩ := Option.bind_eq_some_iff.1 h
      obtain ⟨⟨schema, place'⟩, hresolve, rfl⟩ := Option.map_eq_some_iff.1 h
      exact ⟨entries, reference, schema, hvalue, href, ok_of_toOption hresolve⟩
    · cases h
  · rintro ⟨entries, reference, schema, hvalue, href, hresolve⟩
    rw [hvalue]
    simp only [href, Option.bind_some, hresolve]
    rfl

/-- A reference leads on, and so does the one it leads to. -/
theorem Source.Circles.leadsTo (h : source.Circles pointer) :
    ∃ place, source.LeadsTo pointer place ∧ source.Circles place := by
  obtain ⟨last, hreach, hloop⟩ := h
  rcases ReflTransGen.cases_head hreach with rfl | ⟨place, hfirst, hrest⟩
  · obtain ⟨place, hfirst, hrest⟩ := TransGen.head'_iff.1 hloop
    exact ⟨place, hfirst, pointer, hrest, hloop⟩
  · exact ⟨place, hfirst, last, hrest, hloop⟩

/-- What is met at such a place is a reference that can be resolved. -/
theorem Source.Circles.reference_of_meets (hkeys : source.contents.hasUniqueKeys = true)
    (hplain : source.contents.references.all isPlainReference = true)
    (h : source.Circles pointer) (hmeets : source.Meets contents pointer) :
    ∃ entries reference schema place, contents = .obj entries ∧
      textOf entries "$ref" = some reference ∧
      resolveReference source.base source.contents reference = .ok (schema, place) ∧
      source.Circles place := by
  obtain ⟨place, hnext, hcircles⟩ := h.leadsTo
  obtain ⟨entries, reference, schema, hvalue, href, hresolve⟩ := Source.next?_eq_some.1 hnext
  rw [valueAt_of_meets hkeys hplain hmeets, Option.some.injEq] at hvalue
  exact ⟨entries, reference, schema, place, hvalue, href, hresolve, hcircles⟩

/-- Whether a failure says that references lead back, or that reading went too deep. -/
def IsCircular (f : Failure) : Prop :=
  (∃ reference, f = .circularReference reference) ∨ f = .misfit .endlessNesting

/-- **Entering a chain of references that leads back to itself fails.** Let all nodes of the graph
from which references lead on for ever be on the stack of those that are still to be filled in. Then
a call at one more such place fails, or it comes back to the stack. -/
theorem circling_buildNode (hkeys : source.contents.hasUniqueKeys = true)
    (hplain : source.contents.references.all isPlainReference = true) (fuel : Nat)
    {stack : List NodeId} (hmeets : source.Meets contents pointer)
    (hcircles : source.Circles pointer)
    (hstack : ∀ x < b.graph.size, source.Circles (b.graph.node x).pointer →
      x ∈ stack ∧ (b.graph.node x).ref = none) :
    EndsIn (buildNode source fuel contents pointer) b
      (fun id b' => b.graph.GrowsTo b'.graph ∧ b'.graph.target id ∈ stack)
      (fun f _ => IsCircular f) := by
  induction fuel generalizing contents pointer b stack with
  | zero => exact Or.inr rfl
  | succ fuel ih =>
    obtain ⟨entries, reference, schema, place, rfl, href, hresolve, hnext⟩ :=
      hcircles.reference_of_meets hkeys hplain hmeets
    refine endsIn_buildNode (fun id hfind => ?_) (fun h => absurd rfl (h entries)) ?_ ?_
    -- a place that is met again is on the stack, and not filled in
    · obtain ⟨hlt, hpointer⟩ := Graph.find?_eq_some hfind
      obtain ⟨hmem, hnone⟩ := hstack id hlt (by rwa [hpointer])
      refine ⟨.refl _, ?_⟩
      rwa [Graph.target_of_none hnone]
    · rintro _ reference' ⟨⟩ hfind href'
      cases href.symm.trans href'
      refine ⟨fun f hf => ?_, fun schema' place' hresolve' => ?_⟩
      · cases hresolve.symm.trans hf
      cases hresolve.symm.trans hresolve'
      -- this place goes onto the stack
      have hstack' : ∀ x < (b.entered pointer).graph.size,
          source.Circles ((b.entered pointer).graph.node x).pointer →
            x ∈ b.graph.size :: stack ∧ ((b.entered pointer).graph.node x).ref = none := by
        intro x hx hcx
        rw [Builder.graph_entered, Graph.node_push] at hcx ⊢
        rw [Builder.graph_entered, Graph.size_push] at hx
        split_ifs at hcx ⊢ with hself
        · exact ⟨hself ▸ List.mem_cons_self, rfl⟩
        · obtain ⟨hmem, hnone⟩ := hstack x (Nat.lt_of_le_of_ne (Nat.le_of_lt_succ hx) hself) hcx
          exact ⟨List.mem_cons_of_mem _ hmem, hnone⟩
      refine (ih (.target hmeets href hresolve) hnext hstack').mono ?_ fun _ _ hf => hf
      rintro target b₁ ⟨hgrows, htarget⟩
      obtain ⟨hlt, -⟩ := hgrows.entered
      refine ⟨fun _ => Or.inl ⟨reference, rfl⟩, fun hne => ⟨?_, ?_⟩⟩
      · exact ((Graph.growsTo_push _ _).trans hgrows).set (Nat.le_refl _)
      · have hself : ((b₁.filled b.graph.size
            { pointer, ref := some (b₁.graph.target target) }).graph.node b.graph.size).ref =
              some (b₁.graph.target target) := by
          rw [Builder.graph_filled, Graph.node_set _ _ _ hlt, if_pos rfl]
        rw [Graph.target_of_ref hself]
        exact (List.mem_cons.1 htarget).resolve_left hne
    · rintro _ ⟨⟩ hfind hnone
      cases href.symm.trans hnone

/-- Such a chain cannot be entered from outside. -/
theorem barred_of_circles (hkeys : source.contents.hasUniqueKeys = true)
    (hplain : source.contents.references.all isPlainReference = true)
    (hmeets : source.Meets contents pointer) (hcircles : source.Circles pointer) :
    Barred source (fun place => ¬ source.Circles place) IsCircular contents pointer := by
  intro fuel b hnone _
  have hstack : ∀ x < b.graph.size, source.Circles (b.graph.node x).pointer →
      x ∈ [] ∧ (b.graph.node x).ref = none := fun x hx hcx =>
    absurd hcx (hnone _ (Graph.pointer_mem_pointers hx))
  exact (circling_buildNode hkeys hplain fuel hmeets hcircles hstack).mono
    (fun _ _ h => List.not_mem_nil h.2) fun _ _ hf => hf

end Circling

/-! ### Documents -/

/-- The places that reading a document has entered, whether it fails or not. -/
def enteredPlaces (custom : List String) (contents : Json) : List String :=
  (outcome (readDocument custom contents) {}).2.graph.pointers

section Documents

variable {P : String → Prop} {F : Failure → Prop} {custom : List String} {contents : Json}

theorem entered_readVersions {source : Source} {b : Builder} {id type : String} {versions : Json}
    {schemas : Entries}
    (hnew : ∀ entries pointer, source.Meets (.obj entries) pointer →
      P pointer ∨ Barred source P F (.obj entries) pointer)
    (hschemas : source.contents.get? "schemas" = some (.obj schemas))
    (htype : (type, versions) ∈ schemas) (h : Entered P b.graph) :
    EndsIn (readVersions id source type versions) b (fun _ b' => Entered P b'.graph)
      (fun f b' => Entered P b'.graph ∨ F f) := by
  unfold readVersions
  split
  · rename_i versions
    refine endsIn_mapM (fun _ _ (b' : Builder) => Entered P b'.graph) h ?_
    rintro pre ⟨version, schema⟩ post ms b₁ hentries h₁
    have hversion : (version, schema) ∈ versions := by
      have hmem : (version, schema) ∈ sortEntries versions := by
        rw [hentries]
        simp
      exact List.mem_mergeSort.1 hmem
    refine endsIn_readMessage (fun _ _ => Or.inl h₁) (fun _ _ => Or.inl h₁) fun _ _ _ _ => ?_
    refine (entered_buildNode _ hnew (.message hschemas htype hversion) h₁).mono ?_
      fun _ _ hf => hf
    rintro node b₂ ⟨-, h₂⟩ b₃ hgraph -
    rwa [hgraph]
  · exact Or.inl h

theorem entered_readDocument
    (hnew : ∀ entries pointer, (Source.ofDocument custom contents).Meets (.obj entries) pointer →
      P pointer ∨ Barred (.ofDocument custom contents) P F (.obj entries) pointer) :
    EndsIn (readDocument custom contents) {} (fun _ b' => Entered P b'.graph) (fun f b' =>
      (Entered P b'.graph ∨ F f) ∧ (Source.ofDocument custom contents).Fails f) := by
  have hstart : Entered P (Builder.graph {}) := ⟨.nil, fun _ h => (List.not_mem_nil h).elim⟩
  refine endsIn_readDocument ?_ (fun f hf => ⟨Or.inl hstart, ?_⟩) fun id schemas _ hschemas => ?_
  · rintro f (rfl | rfl | rfl)
    · exact ⟨Or.inl hstart, Or.inl rfl⟩
    · exact ⟨Or.inl hstart, Or.inl rfl⟩
    · exact ⟨Or.inl hstart, Or.inl rfl⟩
  · exact fails_of_check (fun _ => rfl) (fun _ hpattern hstop => .document hpattern hstop) hf
  · refine (endsIn_mapM (fun _ _ b' => Entered P b'.graph) hstart ?_).mono ?_ fun _ _ hf => hf
    · rintro pre ⟨type, versions⟩ post mss b₁ hentries h₁
      have hmem : (type, versions) ∈ sortEntries schemas := by
        rw [hentries]
        simp
      have htype := List.mem_mergeSort.1 hmem
      exact ((entered_readVersions hnew hschemas htype h₁).and
        (fails_readVersions hschemas htype)).mono (fun _ _ h => h.1) fun _ _ hf => hf
    · rintro mss b₁ h₁ b₂ hgraph
      rwa [hgraph]

/-- How reading ends tells about its result and the places that it has entered. -/
theorem result_of_endsIn {Q : Document → Builder → Prop} {E : Failure → Builder → Prop}
    (h : EndsIn (readDocument custom contents) {} Q E) :
    (∃ d, (read custom contents).1 = .ok d ∧
      Q d (outcome (readDocument custom contents) {}).2) ∨
    ∃ f, (read custom contents).1 = .error f ∧
      E f (outcome (readDocument custom contents) {}).2 := by
  unfold EndsIn at h
  simp only [read, outcome]
  cases hread : readDocument custom contents {} with
  | ok d b =>
    rw [hread] at h
    exact Or.inl ⟨d, rfl, h⟩
  | error f b =>
    rw [hread] at h
    exact Or.inr ⟨f, rfl, h⟩

theorem Source.Fails.ne_endlessNesting {source : Source} {f : Failure} (h : source.Fails f) :
    f ≠ .misfit .endlessNesting := by
  rintro rfl
  rcases h with h | h | h | ⟨m, hm, hne, -⟩
  · cases h
  · cases h
  · cases h
  · exact hne (Failure.misfit.inj hm).symm

/-- Reading enters places that the document determines, each once, and does not go too deep. -/
theorem enteredPlaces_subset (custom : List String) (contents : Json) :
    (read custom contents).1 ≠ .error (.misfit .endlessNesting) ∧
      Entered (· ∈ (Source.ofDocument custom contents).places)
        (outcome (readDocument custom contents) {}).2.graph := by
  have hnew : ∀ entries pointer,
      (Source.ofDocument custom contents).Meets (.obj entries) pointer →
      pointer ∈ (Source.ofDocument custom contents).places ∨
        Barred (.ofDocument custom contents) (· ∈ (Source.ofDocument custom contents).places)
          (fun _ => False) (.obj entries) pointer := fun entries pointer hmeets =>
    Or.inl (hmeets.positions_subset (by rw [positions]; exact List.mem_cons_self))
  rcases result_of_endsIn (entered_readDocument hnew) with
    ⟨d, hd, hentered⟩ | ⟨f, hf, hentered | hfalse, hfails⟩
  · refine ⟨?_, hentered⟩
    rw [hd]
    simp
  · refine ⟨?_, hentered⟩
    rw [hf]
    exact fun h => hfails.ne_endlessNesting (Except.error.inj h)
  · exact hfalse.elim

/-- **Reading comes to an end.** It is never too deep, it enters no place twice, and all places that
it enters are among those that the document determines. If it enters a chain of references that
leads back to itself, it fails and says so, as long as no reference looks like a pointer only once
its escapes are read. -/
theorem reading_ends (custom : List String) (contents : Json) :
    (read custom contents).1 ≠ .error (.misfit .endlessNesting) ∧
    (enteredPlaces custom contents).Nodup ∧
    enteredPlaces custom contents ⊆ (Source.ofDocument custom contents).places ∧
    (contents.hasUniqueKeys = true → contents.references.all isPlainReference = true →
      ∀ place ∈ enteredPlaces custom contents, (Source.ofDocument custom contents).Circles place →
        ∃ reference, (read custom contents).1 = .error (.circularReference reference)) := by
  obtain ⟨hdeep, hnodup, hsubset⟩ := enteredPlaces_subset custom contents
  refine ⟨hdeep, hnodup, hsubset, fun hkeys hplain place hplace hcircles => ?_⟩
  have hnew : ∀ entries pointer,
      (Source.ofDocument custom contents).Meets (.obj entries) pointer →
      ¬ (Source.ofDocument custom contents).Circles pointer ∨ Barred (.ofDocument custom contents)
        (fun place => ¬ (Source.ofDocument custom contents).Circles place) IsCircular
        (.obj entries) pointer := fun entries pointer hmeets => by
    by_cases hpointer : (Source.ofDocument custom contents).Circles pointer
    · exact Or.inr (barred_of_circles hkeys hplain hmeets hpointer)
    · exact Or.inl hpointer
  rcases result_of_endsIn (entered_readDocument hnew) with
    ⟨d, hd, hentered⟩ | ⟨f, hf, hentered | ⟨reference, rfl⟩ | rfl, -⟩
  · exact absurd hcircles (hentered.2 place hplace)
  · exact absurd hcircles (hentered.2 place hplace)
  · exact ⟨reference, hf⟩
  · exact absurd hf hdeep

end Documents

open Go (documentOf objectOf refTo)

/-- A document with references that lead round in a ring, which is entered from outside. -/
def ringedTrip : Json :=
  documentOf (objectOf [("x", refTo "a")])
    [("a", refTo "b"), ("b", refTo "c"), ("c", refTo "b")]

set_option maxRecDepth 100000 in
theorem ringedTrip_circular : ringedTrip.hasUniqueKeys = true ∧
    ringedTrip.references.all isPlainReference = true ∧
    "/definitions/a" ∈ enteredPlaces [] ringedTrip ∧
    (Source.ofDocument [] ringedTrip).Circles "/definitions/a" ∧
    ∃ reference, (read [] ringedTrip).1 = .error (.circularReference reference) := by
  have hkeys : ringedTrip.hasUniqueKeys = true := by decide +kernel
  have hplain : ringedTrip.references.all isPlainReference = true := by decide +kernel
  have hmem : "/definitions/a" ∈ enteredPlaces [] ringedTrip := by decide +kernel
  have hab : (Source.ofDocument [] ringedTrip).LeadsTo "/definitions/a" "/definitions/b" := by
    unfold Source.LeadsTo
    decide +kernel
  have hbc : (Source.ofDocument [] ringedTrip).LeadsTo "/definitions/b" "/definitions/c" := by
    unfold Source.LeadsTo
    decide +kernel
  have hcb : (Source.ofDocument [] ringedTrip).LeadsTo "/definitions/c" "/definitions/b" := by
    unfold Source.LeadsTo
    decide +kernel
  have hcircles : (Source.ofDocument [] ringedTrip).Circles "/definitions/a" :=
    ⟨"/definitions/b", .single hab, .tail (.single hbc) hcb⟩
  exact ⟨hkeys, hplain, hmem, hcircles,
    (reading_ends [] ringedTrip).2.2.2 hkeys hplain _ hmem hcircles⟩

/-- A document in which an anchor that looks like a pointer takes the place of a reference to
itself. -/
def hiddenRing : Json :=
  documentOf (objectOf [("a", .obj [("$ref", .str "#%2Fdefinitions%2Fx")]), ("b", refTo "x")])
    [("x", refTo "x"), ("y", .obj [("id", .str "#%2Fdefinitions%2Fx"), ("type", .str "string")])]

set_option maxRecDepth 100000 in
/-- A reference that leads to itself is accepted if its place has been entered for another schema. -/
theorem hiddenRing_accepted : ∃ d, (read [] hiddenRing).1 = .ok d ∧
    "/schemas/trip/1/properties/b" ∈ enteredPlaces [] hiddenRing ∧
    (Source.ofDocument [] hiddenRing).Circles "/schemas/trip/1/properties/b" := by
  have h : ((read [] hiddenRing).1.toOption.map fun d => d.graph.size) = some 4 := by decide +kernel
  obtain ⟨d, hd, -⟩ := Option.map_eq_some_iff.1 h
  have hbx : (Source.ofDocument [] hiddenRing).LeadsTo "/schemas/trip/1/properties/b"
      "/definitions/x" := by
    unfold Source.LeadsTo
    decide +kernel
  have hxx : (Source.ofDocument [] hiddenRing).LeadsTo "/definitions/x" "/definitions/x" := by
    unfold Source.LeadsTo
    decide +kernel
  exact ⟨d, ok_of_toOption hd, by decide +kernel, "/definitions/x", .single hbx, .single hxx⟩

end StructGen.Schema
