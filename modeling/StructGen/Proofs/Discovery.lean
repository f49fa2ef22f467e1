import StructGen.Proofs.Blame
import StructGen.Proofs.Growth

/-!
# Discovering object types

Discovering declares the objects that a node leads to, those inside others first. This module tells
how it ends, whatever the graph.

* `ends_discoverFrom_succ` and `ends_discoverTarget` are the cases of a step;
* `Discovered` holds when discovering succeeds: the nodes are ready and all their objects have
  names;
* `Fails` holds when it fails: what the failure says is what the walk along `Graph.Blames` meets;
* `discoverFrom_ends` is the theorem.
-/

namespace StructGen.Go

open Schema (NodeId Graph)
open Relation

variable {s : Style} {g : Graph} {w w' : Workspace} {E : Failure → Prop}

/-! ### One step -/

/-- Declare the object types that the target of a node leads to; `path` names its place. -/
def discoverTarget (s : Style) (g : Graph) (fuel : Nat) (visiting : List NodeId)
    (path : List String) (t : NodeId) : Compile Unit := do
  let n := g.node t
  if !(← get).registry.contains t then
    if n.primaryType = some (.str "object") then
      if visiting.contains t then throw (.circularObject n.pointer)
      n.sortedProperties.forM fun p =>
        discoverFrom s g fuel (t :: visiting) (path ++ [p.1]) p.2
      declareObject s g path t
    else if n.primaryType = some (.str "array") then
      match n.items with
      | some item => discoverFrom s g fuel visiting (path ++ ["list"]) item
      | none => pure ()

section Step

variable {fuel : Nat} {visiting : List NodeId} {path : List String} {id t : NodeId}
  {Q : Unit → Workspace → Prop}

theorem discoverFrom_of_none (h : (g.node id).ref = none) :
    discoverFrom s g (fuel + 1) visiting path id =
      discoverTarget s g fuel visiting path (g.target id) := by
  rw [discoverFrom, h]
  rfl

theorem discoverFrom_of_ref (h : (g.node id).ref = some t) :
    discoverFrom s g (fuel + 1) visiting path id =
      (Compile.lift (Pointer.definitionPath (g.node t).pointer) >>= fun path =>
        discoverTarget s g fuel visiting path (g.target id)) := by
  rw [discoverFrom, h]
  rfl

/-- The cases of discovering a target. -/
theorem ends_discoverTarget
    (known : w.registry.contains t = true → Q () w)
    (circular : g.IsObject t → t ∈ visiting → E (.circularObject (g.node t).pointer))
    (object : w.registry.get? t = none → g.IsObject t → t ∉ visiting →
      Ends ((g.node t).sortedProperties.forM fun p =>
        discoverFrom s g fuel (t :: visiting) (path ++ [p.1]) p.2) w
        (fun _ w' => Ends (declareObject s g path t) w' Q E) E)
    (array : ∀ c, g.IsArray t → (g.node t).items = some c →
      Ends (discoverFrom s g fuel visiting (path ++ ["list"]) c) w Q E)
    (other : g.inside t = [] → ¬ g.IsObject t → Q () w) :
    Ends (discoverTarget s g fuel visiting path t) w Q E := by
  unfold discoverTarget
  simp only [ends_bind, ends_get]
  split_ifs with hnew ho hvisit ha
  · exact circular ho (by simpa using hvisit)
  · rw [ends_bind]
    exact object (by simpa [Registry.contains] using hnew) ho (by simpa using hvisit)
  · split
    · exact array _ ha ‹_›
    · rename_i hi
      exact other (by rw [Graph.inside_of_isArray ha, hi]; rfl) ho
  · exact other (Graph.inside_of_neither ho ha) ho
  · exact known (by simpa using hnew)

/-- The path of the target of a node: the node's own path, or that of the definition it refers
to. -/
def TargetPath (g : Graph) (path : List String) (id : NodeId) (path' : List String) : Prop :=
  (g.node id).ref = none ∧ path' = path ∨
    ∃ t, (g.node id).ref = some t ∧ Pointer.definitionPath (g.node t).pointer = .ok path'

/-- The cases of a step of discovering: a misplaced reference, or those of its target. -/
theorem ends_discoverFrom_succ
    (misplaced : ∀ f, ¬ g.Placed id → f.IsPlain → E f)
    (target : ∀ path', g.Placed id → TargetPath g path id path' →
      Ends (discoverTarget s g fuel visiting path' (g.target id)) w Q E) :
    Ends (discoverFrom s g (fuel + 1) visiting path id) w Q E := by
  cases href : (g.node id).ref with
  | none =>
    rw [discoverFrom_of_none href]
    exact target path (fun t ht => by rw [href] at ht; cases ht) (Or.inl ⟨href, rfl⟩)
  | some t =>
    rw [discoverFrom_of_ref href, ends_bind]
    have hplaced := Graph.placed_iff href
    by_cases hprefix : Pointer.definitionsStart.toList.isPrefixOf (g.node t).pointer.toList = true
    · have hpath : Pointer.definitionPath (g.node t).pointer = .ok _ := if_pos hprefix
      rw [hpath]
      exact target _ (hplaced.2 hprefix) (Or.inr ⟨t, href, hpath⟩)
    · have hpath : Pointer.definitionPath (g.node t).pointer = .error _ := if_neg hprefix
      rw [hpath]
      exact misplaced _ (fun hp => hprefix (hplaced.1 hp)) ⟨rfl, rfl⟩

end Step

/-! ### Success -/

/-- The nodes that have names are objects that are declarable, and all objects that they lead to
have names too. -/
def Sound (g : Graph) (r : Registry) : Prop :=
  ∀ x, r.contains x = true → g.IsObject x ∧ g.Declarable x ∧ Covers g r x

/-- What discovering some nodes has done when it succeeds; `visiting` are the objects around
them. -/
structure Discovered (s : Style) (g : Graph) (visiting cs : List NodeId) (w w' : Workspace) :
    Prop where
  ready : ∀ c ∈ cs, g.Ready c
  covers : ∀ c ∈ cs, Covers g w'.registry (g.target c)
  sound : Sound g w'.registry
  grows : ∃ ids, Grows s g w ids w' ∧ ∀ x ∈ ids, x ∉ visiting ∧ g.IsObject x ∧
    ∃ c ∈ cs, ReflTransGen g.Enters (g.target c) x

variable {visiting run cs cs' : List NodeId}

theorem Discovered.nil (h : Sound g w.registry) : Discovered s g visiting [] w w :=
  ⟨by simp, by simp, h, [], .refl rfl rfl, by simp⟩

theorem Covers.grows {ids : List NodeId} {t : NodeId} (h : Covers g w.registry t)
    (hgrows : Grows s g w ids w') : Covers g w'.registry t :=
  fun x hx ho => (hgrows.contains_iff x).2 (Or.inl (h x hx ho))

theorem Discovered.append {w'' : Workspace} (h : Discovered s g visiting cs w w')
    (h' : Discovered s g visiting cs' w' w'') : Discovered s g visiting (cs ++ cs') w w'' := by
  obtain ⟨ids, hgrows, hids⟩ := h.grows
  obtain ⟨ids', hgrows', hids'⟩ := h'.grows
  refine ⟨fun c hc => ?_, fun c hc => ?_, h'.sound, ids ++ ids', hgrows.trans hgrows',
    fun x hx => ?_⟩
  · rcases List.mem_append.1 hc with hc | hc
    · exact h.ready c hc
    · exact h'.ready c hc
  · rcases List.mem_append.1 hc with hc | hc
    · exact (h.covers c hc).grows hgrows'
    · exact h'.covers c hc
  · rcases List.mem_append.1 hx with hx | hx
    · obtain ⟨hvisit, ho, c, hc, hcx⟩ := hids x hx
      exact ⟨hvisit, ho, c, List.mem_append_left _ hc, hcx⟩
    · obtain ⟨hvisit, ho, c, hc, hcx⟩ := hids' x hx
      exact ⟨hvisit, ho, c, List.mem_append_right _ hc, hcx⟩

/-- Where all nodes inside have been discovered, so have the objects inside, and the node itself
unless it is an object. -/
theorem covers_of_inside {r : Registry} {t : NodeId} (h : ∀ c ∈ g.inside t, Covers g r (g.target c))
    (ht : g.IsObject t → r.contains t = true) : Covers g r t := by
  intro x hx ho
  rcases ReflTransGen.cases_head hx with rfl | ⟨b, ⟨c, hc, rfl⟩, hrest⟩
  · exact ht ho
  · exact h c hc x hrest ho

/-- Discovering what is inside a node that is no object discovers the node. -/
theorem Discovered.of_inside {id : NodeId} (hplaced : g.Placed id)
    (ho : ¬ g.IsObject (g.target id))
    (h : Discovered s g visiting (g.inside (g.target id)) w w') :
    Discovered s g visiting [id] w w' := by
  obtain ⟨ids, hgrows, hids⟩ := h.grows
  refine ⟨?_, ?_, h.sound, ids, hgrows, fun x hx => ?_⟩
  · rw [List.forall_mem_singleton]
    exact ⟨hplaced, Graph.declarable_of_ready h.ready fun h => absurd h ho⟩
  · rw [List.forall_mem_singleton]
    exact covers_of_inside h.covers fun h => absurd h ho
  · obtain ⟨hvisit, hobj, c, hc, hcx⟩ := hids x hx
    exact ⟨hvisit, hobj, id, by simp, .head ⟨c, hc, rfl⟩ hcx⟩

/-- Declaring an object after what is inside it discovers the object. -/
theorem Discovered.of_adds {w'' : Workspace} {id : NodeId} {d : Declaration}
    (hplaced : g.Placed id) (ho : g.IsObject (g.target id)) (hvisit : g.target id ∉ visiting)
    (h : Discovered s g (g.target id :: visiting) (g.inside (g.target id)) w w')
    (hadds : Adds s g w' (g.target id) d w'') : Discovered s g visiting [id] w w'' := by
  obtain ⟨ids, hgrows, hids⟩ := h.grows
  have hstep : Grows s g w' [g.target id] w'' := Grows.add (.refl rfl rfl) hadds
  have hcovers : Covers g w''.registry (g.target id) :=
    covers_of_inside (fun c hc => (h.covers c hc).grows hstep)
      fun _ => (hstep.contains_iff _).2 (Or.inr (by simp))
  have hdecl : g.Declarable (g.target id) := by
    refine Graph.declarable_of_ready h.ready fun _ c hc => ?_
    rw [Graph.inside_of_isObject ho] at hc
    exact typed_of_declare hadds.declares c hc
  refine ⟨?_, ?_, fun x hx => ?_, ids ++ [g.target id], hgrows.add hadds, fun x hx => ?_⟩
  · rw [List.forall_mem_singleton]
    exact ⟨hplaced, hdecl⟩
  · rw [List.forall_mem_singleton]
    exact hcovers
  · rcases (hstep.contains_iff x).1 hx with hx | hx
    · obtain ⟨hobj, hx, hcov⟩ := h.sound x hx
      exact ⟨hobj, hx, hcov.grows hstep⟩
    · rw [List.mem_singleton] at hx
      subst hx
      exact ⟨ho, hdecl, hcovers⟩
  · rcases List.mem_append.1 hx with hx | hx
    · obtain ⟨hnew, hobj, c, hc, hcx⟩ := hids x hx
      exact ⟨fun hmem => hnew (List.mem_cons_of_mem _ hmem), hobj, id, by simp,
        .head ⟨c, hc, rfl⟩ hcx⟩
    · rw [List.mem_singleton] at hx
      subst hx
      exact ⟨hvisit, ho, id, by simp, .refl⟩

/-! ### Failure -/

/-- What a failure of discovering a node says; `visiting` are the objects around the node. -/
structure Fails (g : Graph) (visiting : List NodeId) (id : NodeId) (f : Failure) : Prop where
  unready : ¬ g.Ready id
  unknown : f.isUnknownComposite = true → g.Placed id ∧ ∃ o,
    f = .circularObject (g.node o).pointer ∧ ReflTransGen g.Blames (g.target id) o ∧
      (o ∈ visiting ∨ g.IsObject o ∧ TransGen g.Blames o o)
  endless : f.isEndless = true → g.Placed id ∧ g.Unwinds (g.target id)
  plain : f.IsPlain → ¬ g.Placed id ∨ g.Stops (g.target id)

/-- A failure that has nothing to do with cycles. -/
theorem Fails.of_plain {id : NodeId} {f : Failure} (hf : f.IsPlain) (unready : ¬ g.Ready id)
    (h : ¬ g.Placed id ∨ g.Stops (g.target id)) : Fails g visiting id f := by
  refine ⟨unready, fun hu => ?_, fun he => ?_, fun _ => h⟩
  · rw [hf.1] at hu
    cases hu
  · rw [hf.2] at he
    cases he

/-- A failure inside a node is one of the node. An object is among those around what is inside. -/
theorem Fails.of_inside {id c : NodeId} {f : Failure} {visiting' : List NodeId}
    (hplaced : g.Placed id) (hopen : g.FirstOpen (g.inside (g.target id)) c)
    (hvisiting : ∀ v ∈ visiting', v ∈ visiting ∨ v = g.target id ∧ g.IsObject v)
    (h : Fails g visiting' c f) : Fails g visiting id f := by
  have hblames : g.Placed c → g.Blames (g.target id) (g.target c) := fun hc => ⟨c, hopen, hc, rfl⟩
  refine ⟨fun hr => Graph.not_declarable_of_firstOpen hopen hr.2, fun hf => ⟨hplaced, ?_⟩,
    fun hf => ⟨hplaced, ?_⟩, fun hf => Or.inr ?_⟩
  · obtain ⟨hc, o, hfo, hco, hvisit | hloop⟩ := h.unknown hf
    · refine ⟨o, hfo, .head (hblames hc) hco, ?_⟩
      rcases hvisiting o hvisit with hvisit | ⟨rfl, ho⟩
      · exact Or.inl hvisit
      · exact Or.inr ⟨ho, .head' (hblames hc) hco⟩
    · exact ⟨o, hfo, .head (hblames hc) hco, Or.inr hloop⟩
  · obtain ⟨hc, x, hcx, hloop⟩ := h.endless hf
    exact ⟨x, .head (hblames hc) hcx, hloop⟩
  · by_cases hc : g.Placed c
    · obtain ⟨x, hcx, hx⟩ := (h.plain hf).resolve_left (absurd hc)
      exact ⟨x, .head (hblames hc) hcx, hx⟩
    · refine ⟨_, .refl, ?_⟩
      rintro y ⟨c', hopen', hc', -⟩
      rw [hopen.unique hopen'] at hc
      exact hc hc'

/-! ### The nodes around a node -/

/-- The objects around a node that are being declared, and the arrays since the last of them. -/
structure Stack (g : Graph) (visiting run : List NodeId) (id : NodeId) : Prop where
  objects : ∀ v ∈ visiting, g.IsObject v
  enters : ∀ v ∈ visiting, TransGen g.Enters v (g.target id)
  visiting_nodup : visiting.Nodup
  arrays : ∀ a ∈ run, g.IsArray a
  unrolls : g.Placed id → ∀ a ∈ run, TransGen g.Unrolls a (g.target id)
  run_nodup : run.Nodup

variable {id c : NodeId}

theorem Stack.nil (id : NodeId) : Stack g [] [] id :=
  ⟨by simp, by simp, .nil, by simp, by simp, .nil⟩

theorem Stack.object (h : Stack g visiting run id) (ho : g.IsObject (g.target id))
    (hnew : g.target id ∉ visiting) (hc : c ∈ g.inside (g.target id)) :
    Stack g (g.target id :: visiting) [] c := by
  have hstep : g.Enters (g.target id) (g.target c) := ⟨c, hc, rfl⟩
  refine ⟨?_, ?_, List.nodup_cons.2 ⟨hnew, h.visiting_nodup⟩, by simp, by simp, .nil⟩
  · exact List.forall_mem_cons.2 ⟨ho, h.objects⟩
  · exact List.forall_mem_cons.2 ⟨.single hstep, fun v hv => (h.enters v hv).tail hstep⟩

theorem Stack.array (h : Stack g visiting run id) (hplaced : g.Placed id)
    (ha : g.IsArray (g.target id)) (hc : (g.node (g.target id)).items = some c)
    (hnew : g.target id ∉ run) : Stack g visiting (g.target id :: run) c := by
  have hstep : g.Enters (g.target id) (g.target c) :=
    ⟨c, by rw [Graph.inside_of_isArray ha, hc]; simp, rfl⟩
  refine ⟨h.objects, fun v hv => (h.enters v hv).tail hstep, h.visiting_nodup, ?_, fun hp => ?_,
    List.nodup_cons.2 ⟨hnew, h.run_nodup⟩⟩
  · exact List.forall_mem_cons.2 ⟨ha, h.arrays⟩
  · have hunroll : g.Unrolls (g.target id) (g.target c) := ⟨ha, c, hc, hp, rfl⟩
    exact List.forall_mem_cons.2
      ⟨.single hunroll, fun a hrun => (h.unrolls hplaced a hrun).tail hunroll⟩

/-- The fuel that discovering needs: objects around a node are different, and so are the arrays
between two of them unless they lead back to themselves. -/
def fuelFor (g : Graph) (visiting run : List NodeId) : Nat :=
  (g.size - visiting.length) * (g.size + 1) + (g.size - run.length) + 1

theorem fuelFor_object {t : NodeId} {fuel : Nat} (h : ∀ v ∈ t :: visiting, g.IsObject v)
    (hnodup : (t :: visiting).Nodup) (hfuel : fuelFor g visiting run ≤ fuel + 1) :
    fuelFor g (t :: visiting) [] ≤ fuel := by
  have hle := Graph.length_le_size hnodup fun v hv => Graph.types_ne_nil (h v hv)
  unfold fuelFor at hfuel ⊢
  rw [List.length_cons] at hle ⊢
  obtain ⟨k, hk⟩ : ∃ k, g.size - visiting.length = k + 1 := ⟨g.size - visiting.length - 1, by omega⟩
  rw [show g.size - (visiting.length + 1) = k by omega]
  rw [hk, Nat.succ_mul] at hfuel
  simp only [List.length_nil]
  omega

theorem fuelFor_array {t : NodeId} {fuel : Nat} (h : ∀ a ∈ t :: run, g.IsArray a)
    (hnodup : (t :: run).Nodup) (hfuel : fuelFor g visiting run ≤ fuel + 1) :
    fuelFor g visiting (t :: run) ≤ fuel := by
  have hle := Graph.length_le_size hnodup fun a ha => Graph.types_ne_nil (h a ha)
  unfold fuelFor at hfuel ⊢
  rw [List.length_cons] at hle ⊢
  omega

/-- Arrays that lead back to themselves use up any fuel. -/
theorem discoverFrom_ends_of_loop {fuel : Nat} {path : List String} (hsound : Sound g w.registry)
    (hplaced : g.Placed id) (hloop : TransGen g.Unrolls (g.target id) (g.target id)) :
    Ends (discoverFrom s g fuel visiting path id) w (fun _ _ => False)
      (· = .misfit .endlessNesting) := by
  induction fuel generalizing path id with
  | zero => exact rfl
  | succ fuel ih =>
    obtain ⟨b, hb, hloop'⟩ := Graph.unrolls_of_loop hloop
    obtain ⟨ha, c, hc, hpc, rfl⟩ := hb
    have hno : ¬ g.IsObject (g.target id) := fun ho => Graph.not_isArray_of_isObject ho ha
    refine ends_discoverFrom_succ (fun f hp _ => absurd hplaced hp) fun path _ _ => ?_
    refine ends_discoverTarget (fun hreg => hno (hsound _ hreg).1) (fun ho _ => absurd ho hno)
      (fun _ ho _ => absurd ho hno) (fun c' _ hc' => ?_) (fun hnil _ => ?_)
    · rw [hc] at hc'
      cases hc'
      exact ih hpc hloop'
    · rw [Graph.inside_of_isArray ha, hc] at hnil
      cases hnil

/-! ### The theorem -/

/-- A node with a name needs no discovering. -/
theorem Discovered.of_known (hsound : Sound g w.registry) (hplaced : g.Placed id)
    (hknown : w.registry.contains (g.target id) = true) : Discovered s g visiting [id] w w := by
  obtain ⟨-, hdecl, hcovers⟩ := hsound _ hknown
  refine ⟨?_, ?_, hsound, [], .refl rfl rfl, by simp⟩
  · rw [List.forall_mem_singleton]
    exact ⟨hplaced, hdecl⟩
  · rw [List.forall_mem_singleton]
    exact hcovers

/-- An object that is met inside itself cannot be declared. -/
theorem Fails.of_circular (hstack : Stack g visiting run id) (hplaced : g.Placed id)
    (hvisit : g.target id ∈ visiting) :
    Fails g visiting id (.circularObject (g.node (g.target id)).pointer) := by
  refine ⟨fun hr => hr.2.not_loop (hstack.enters _ hvisit), fun _ => ⟨hplaced, ?_⟩,
    fun he => ?_, fun hf => ?_⟩
  · exact ⟨_, rfl, .refl, Or.inl hvisit⟩
  · cases he
  · cases hf.1

/-- Arrays that lead back to themselves have no end. -/
theorem Fails.of_loop (hplaced : g.Placed id)
    (hloop : TransGen g.Unrolls (g.target id) (g.target id)) :
    Fails g visiting id (.misfit .endlessNesting) := by
  refine ⟨fun hr => Graph.not_declarable_of_unrolls hloop hr.2, fun hu => ?_,
    fun _ => ⟨hplaced, _, .refl, hloop⟩, fun hf => ?_⟩
  · cases hu
  · cases hf.2

/-- An object whose properties have all been discovered cannot be declared if one has no type. -/
theorem Fails.of_untyped {f : Failure} (hf : f.IsPlain) (ho : g.IsObject (g.target id))
    (hready : ∀ c ∈ g.inside (g.target id), g.Ready c) (hc : c ∈ g.inside (g.target id))
    (huntyped : ¬ g.Typed c) : Fails g visiting id f := by
  refine .of_plain hf (fun hr => huntyped (hr.2.typed ho hc)) (Or.inr ⟨_, .refl, ?_⟩)
  rintro y ⟨c', hopen, -⟩
  exact Graph.not_firstOpen_of_ready hready hopen

/-- A node around those that have been discovered has no name yet. -/
theorem Discovered.fresh {t : NodeId} (h : Discovered s g visiting cs w w') (ht : t ∈ visiting)
    (hnew : w.registry.get? t = none) : w'.registry.get? t = none := by
  obtain ⟨ids, hgrows, hids⟩ := h.grows
  by_contra hsome
  have hcontains : w'.registry.contains t = true := by
    rw [Registry.contains, Option.isSome_iff_ne_none]
    exact hsome
  rcases (hgrows.contains_iff t).1 hcontains with hold | hmem
  · rw [Registry.contains, hnew] at hold
    cases hold
  · exact (hids t hmem).1 ht

/-- Properties are discovered in order, and the first that is not ready is to blame. -/
theorem ends_forM_discover (s : Style) (visiting : List NodeId) {ps : List (String × NodeId)}
    {f : String × NodeId → Compile Unit} (hsound : Sound g w.registry)
    (h : ∀ p ∈ ps, ∀ w, Sound g w.registry → Ends (f p) w
      (fun _ w' => Discovered s g visiting [p.2] w w') (Fails g visiting p.2)) :
    Ends (ps.forM f) w (fun _ w' => Discovered s g visiting (ps.map Prod.snd) w w')
      (fun e => ∃ c, g.FirstOpen (ps.map Prod.snd) c ∧ Fails g visiting c e) := by
  refine ends_forM (fun pre w' => Discovered s g visiting (pre.map Prod.snd) w w') (.nil hsound) ?_
  intro pre p post w₁ hsplit hpre
  refine (h p (by rw [hsplit]; simp) w₁ hpre.sound).mono (fun _ w₂ hp => ?_) (fun e he => ?_)
  · rw [List.map_append]
    exact hpre.append hp
  · refine ⟨p.2, ⟨pre.map Prod.snd, post.map Prod.snd, ?_, hpre.ready, he.unready⟩, he⟩
    rw [hsplit, List.map_append, List.map_cons]

/-- **Discovering a node succeeds exactly if the node is ready**, and what it fails with tells where
the walk to the first cause ends. -/
theorem discoverFrom_ends {fuel : Nat} {path : List String} (hsound : Sound g w.registry)
    (hstack : Stack g visiting run id) (hfuel : fuelFor g visiting run ≤ fuel) :
    Ends (discoverFrom s g fuel visiting path id) w
      (fun _ w' => Discovered s g visiting [id] w w') (Fails g visiting id) := by
  induction fuel generalizing visiting run path id w with
  | zero => unfold fuelFor at hfuel; omega
  | succ fuel ih =>
    refine ends_discoverFrom_succ ?misplaced fun path hp _ =>
      ends_discoverTarget ?known ?circular ?object ?array ?other
    case misplaced =>
      intro f hp hf
      exact .of_plain hf (fun hr => hp hr.1) (Or.inl hp)
    case known =>
      intro hknown
      exact .of_known hsound hp hknown
    case circular =>
      intro _ hvisit
      exact .of_circular hstack hp hvisit
    case object =>
      intro hnew ho hvisit
      have hinside := Graph.inside_of_isObject ho
      refine (ends_forM_discover s (g.target id :: visiting) hsound fun p hmem w₁ hw₁ => ?_).mono
        (fun _ w₁ h => ?_) ?_
      · have hinner : p.2 ∈ g.inside (g.target id) := by
          rw [hinside]
          exact List.mem_map_of_mem hmem
        have hs := hstack.object ho hvisit hinner
        exact ih hw₁ hs (fuelFor_object hs.objects hs.visiting_nodup hfuel)
      · rw [← Graph.members, ← hinside] at h
        refine ends_declareObject (h.fresh (by simp) hnew)
          (fun d w₂ hadds => .of_adds hp ho hvisit h hadds) (fun f c r hr hc hf => ?_)
        rw [← hinside] at hc
        have hcovers : Covers g r (g.target c) := fun x hx hobj => by
          rw [Registry.contains, hr]
          exact h.covers c hc x hx hobj
        obtain ⟨huntyped, hplain⟩ := untyped_of_resolveType hcovers (h.ready c hc).2 hf
        exact .of_untyped hplain ho h.ready hc huntyped
      · rintro f ⟨c, hopen, hf⟩
        refine .of_inside hp (hinside ▸ hopen) (fun v hv => ?_) hf
        rcases List.mem_cons.1 hv with rfl | hv
        · exact Or.inr ⟨rfl, ho⟩
        · exact Or.inl hv
    case array =>
      intro c ha hc
      have hinside : g.inside (g.target id) = [c] := by rw [Graph.inside_of_isArray ha, hc]; rfl
      by_cases hrun : g.target id ∈ run
      · have hloop := hstack.unrolls hp _ hrun
        obtain ⟨b, hb, hloop'⟩ := Graph.unrolls_of_loop hloop
        obtain ⟨-, c', hc', hpc, rfl⟩ := hb
        rw [hc] at hc'
        cases hc'
        refine (discoverFrom_ends_of_loop hsound hpc hloop').mono (fun _ _ h => h.elim) ?_
        rintro f rfl
        exact .of_loop hp hloop
      · have hs := hstack.array hp ha hc hrun
        refine (ih hsound hs (fuelFor_array hs.arrays hs.run_nodup hfuel)).mono
          (fun _ w' h => ?_) (fun f hf => ?_)
        · rw [← hinside] at h
          exact .of_inside hp (fun ho => Graph.not_isArray_of_isObject ho ha) h
        · exact .of_inside hp ⟨[], [], by rw [hinside]; rfl, by simp, hf.unready⟩
            (fun v hv => Or.inl hv) hf
    case other =>
      intro hnil ho
      exact .of_inside hp ho (hnil ▸ .nil hsound)

end StructGen.Go
