import StructGen.Proofs.Declarations

/-!
# Cycles

A schema may lead back to itself through references, properties and items. Compiling a document
with such a cycle fails, but the failure speaks of the cycle only if the walk to the first node that
cannot be declared comes back to an object.

* `no_cycle_failure_of_acyclic` says that a document without cycles has no such failure;
* `Document.ReturnsToObject` and `Document.UnwindsArrays` tell when the failure speaks of a cycle
  and when nesting has no end;
* `Document.OnlyObjectCycles` excludes what hides a cycle;
* `cycle_failure_iff` puts them together.
-/

namespace StructGen.Schema

open Relation

namespace Graph

variable {g : Graph} {a b : NodeId}

/-- Blaming is walking. -/
theorem leads_of_blames (h : ReflTransGen g.Blames a b) : ReflTransGen g.Leads a b :=
  leads_of_enters (ReflTransGen.mono (fun _ _ => Blames.enters) _ _ h)

theorem leads_of_transGen_enters (h : TransGen g.Enters a b) : TransGen g.Leads a b := by
  induction h with
  | single hs => exact transGen_leads_of_enters hs
  | tail _ hs ih => exact ih.trans (transGen_leads_of_enters hs)

theorem loop_of_blames_loop (h : TransGen g.Blames a a) : TransGen g.Leads a a :=
  leads_of_transGen_enters (TransGen.mono (fun _ _ => Blames.enters) _ _ h)

theorem Leads.mem_children (h : g.Leads a b) : b ∈ (g.node a).children := by
  unfold Node.children
  cases h with
  | target href => simp [href]
  | property _ hp =>
    refine List.mem_append_left _ (List.mem_append_right _ ?_)
    exact List.mem_map_of_mem (f := Prod.snd) hp
  | items _ hi => simp [hi]

/-- A graph has no cycle if the rank of nodes falls from every node to those it refers to. -/
theorem not_loop_of_rank (rank : NodeId → Nat)
    (h : ∀ a < g.size, ∀ b ∈ (g.node a).children, rank b < rank a) (a : NodeId) :
    ¬ TransGen g.Leads a a := by
  have hstep : ∀ a b, g.Leads a b → rank b < rank a := by
    intro a b hab
    have hchild := hab.mem_children
    refine h a ?_ b hchild
    by_contra hlt
    rw [node, List.getElem?_eq_none (Nat.not_lt.1 hlt)] at hchild
    cases hchild
  have hrank : ∀ b, TransGen g.Leads a b → rank b < rank a := by
    intro b hb
    induction hb with
    | single hs => exact hstep _ _ hs
    | tail _ hs ih => exact (hstep _ _ hs).trans ih
  exact fun hloop => Nat.lt_irrefl _ (hrank a hloop)

end Graph

namespace Document

variable {d : Document} {a b c : NodeId}

/-- The nodes that are reached are in every list that holds the properties of the messages and, with
a node, those it refers to. -/
theorem Reaches.mem_of_closed {ids : List NodeId} (h : d.Reaches a)
    (start : ∀ m ∈ d.messages, ∀ p ∈ (d.graph.node m.node).properties, p.2 ∈ ids)
    (step : ∀ x ∈ ids, ∀ y ∈ (d.graph.node x).children, y ∈ ids) : a ∈ ids := by
  obtain ⟨m, hm, c, hc, hca⟩ := h
  induction hca with
  | refl =>
    obtain ⟨name, hp⟩ := Graph.mem_members.1 hc
    exact start m hm _ hp
  | tail _ hs ih => exact step _ ih _ hs.mem_children

theorem not_isArray_of_isObjectMessage {m : Message} (h : d.isObjectMessage m = true) :
    ¬ d.graph.IsArray m.node := by
  intro harr
  have hne := Graph.types_ne_nil harr
  have htypes : (d.graph.node m.node).types = [.str "object"] := by
    simpa [isObjectMessage, hne] using h
  rw [Graph.IsArray, Node.primaryType, htypes] at harr
  simp [primaryType] at harr

theorem Reaches.of_blames (hc : c ∈ d.starts)
    (h : ReflTransGen d.graph.Blames (d.graph.target c) a) : d.Reaches a :=
  (reaches_of_mem_starts hc).leads ((Graph.leads_target c).trans (Graph.leads_of_blames h))

/-- The walk to the first start that is not ready comes back to an object. -/
def ReturnsToObject (d : Document) : Prop :=
  ∃ c, d.graph.FirstOpen d.starts c ∧ d.graph.Placed c ∧ d.graph.Returns (d.graph.target c)

/-- The walk to the first start that is not ready runs through arrays for ever. -/
def UnwindsArrays (d : Document) : Prop :=
  ∃ c, d.graph.FirstOpen d.starts c ∧ d.graph.Placed c ∧ d.graph.Unwinds (d.graph.target c)

theorem ReturnsToObject.exists_loop (h : d.ReturnsToObject) :
    ∃ o, d.Reaches o ∧ d.graph.IsObject o ∧ TransGen d.graph.Leads o o := by
  obtain ⟨c, hopen, -, o, ho, hco, hloop⟩ := h
  exact ⟨o, .of_blames hopen.mem hco, ho, Graph.loop_of_blames_loop hloop⟩

theorem UnwindsArrays.exists_loop (h : d.UnwindsArrays) :
    ∃ x, d.Reaches x ∧ TransGen d.graph.Leads x x := by
  obtain ⟨c, hopen, -, x, hcx, hloop⟩ := h
  refine ⟨x, .of_blames hopen.mem hcx, Graph.leads_of_transGen_enters ?_⟩
  exact TransGen.mono (fun _ _ => Graph.Unrolls.enters) _ _ hloop

/-- Whether a message leads to a node that leads back to itself. -/
def HasCycle (d : Document) : Prop :=
  ∃ a, ((∃ m ∈ d.messages, ReflTransGen d.graph.Leads m.node a) ∨ d.Reaches a) ∧
    TransGen d.graph.Leads a a

/-- The cycles of a document are its only defect, and they go through objects: messages are objects,
references lead to definitions that are no references themselves, all nodes have types, and arrays
do not lead back to themselves. -/
structure OnlyObjectCycles (d : Document) : Prop where
  messages : ∀ m ∈ d.messages, d.isObjectMessage m = true ∧ (d.graph.node m.node).ref = none
  placed : ∀ a, d.Reaches a → d.graph.Placed a
  direct : ∀ a t, d.Reaches a → (d.graph.node a).ref = some t → (d.graph.node t).ref = none
  kinds : ∀ a, d.Reaches a → (d.graph.node a).ref = none →
    d.graph.IsObject a ∨ d.graph.IsBasic a ∨ d.graph.IsArray a
  arrays : ∀ a, d.Reaches a → ¬ TransGen d.graph.Unrolls a a

namespace OnlyObjectCycles

/-- The target of a node is no reference. -/
theorem ref_target (h : d.OnlyObjectCycles) (ha : d.Reaches a) :
    (d.graph.node (d.graph.target a)).ref = none := by
  cases href : (d.graph.node a).ref with
  | none => rwa [Graph.target_of_none href]
  | some t => rw [Graph.target_of_ref href]; exact h.direct a t ha href

/-- One step of a walk keeps the target or enters it. -/
theorem step (hd : d.WellRead) (h : d.OnlyObjectCycles) (ha : d.Reaches a)
    (hab : d.graph.Leads a b) :
    ((d.graph.node a).ref = some b ∧ d.graph.target b = d.graph.target a) ∨
      d.graph.Enters (d.graph.target a) (d.graph.target b) := by
  cases hab with
  | target href =>
    have hb := h.direct a b ha href
    exact Or.inl ⟨href, by rw [Graph.target_of_ref href, Graph.target_of_none hb]⟩
  | property ho hp =>
    rw [hd.linked.target_eq_self (Graph.types_ne_nil ho)]
    exact Or.inr ⟨b, Graph.mem_inside.2 (Or.inl ⟨ho, _, hp⟩), rfl⟩
  | items harr hi =>
    rw [hd.linked.target_eq_self (Graph.types_ne_nil harr)]
    exact Or.inr ⟨b, Graph.mem_inside.2 (Or.inr ⟨harr, hi⟩), rfl⟩

/-- A walk keeps the target only if it is one step along a reference. -/
theorem walk (hd : d.WellRead) (h : d.OnlyObjectCycles) (ha : d.Reaches a)
    (hab : TransGen d.graph.Leads a b) :
    ((d.graph.node a).ref = some b ∧ d.graph.target b = d.graph.target a) ∨
      TransGen d.graph.Enters (d.graph.target a) (d.graph.target b) := by
  induction hab with
  | single hs => exact (h.step hd ha hs).imp_right .single
  | @tail x y hx hs ih =>
    have hreach := ha.leads hx.to_reflTransGen
    rcases ih with ⟨href, hsame⟩ | henters
    -- two steps along references would not be direct
    · rcases h.step hd hreach hs with ⟨href', -⟩ | hstep
      · rw [h.direct a x ha href] at href'
        cases href'
      · rw [hsame] at hstep
        exact Or.inr (.single hstep)
    · rcases h.step hd hreach hs with ⟨-, hsame⟩ | hstep
      · rw [← hsame] at henters
        exact Or.inr henters
      · exact Or.inr (henters.tail hstep)

/-- A cycle that a message leads to is on the way from its properties. -/
theorem exists_reaches (h : d.OnlyObjectCycles) (hcycle : d.HasCycle) :
    ∃ a, d.Reaches a ∧ TransGen d.graph.Leads a a := by
  obtain ⟨a, ⟨m, hm, hma⟩ | ha, hloop⟩ := hcycle
  · obtain ⟨hvalid, href⟩ := h.messages m hm
    -- the first step from the message leads to one of its properties
    have hfirst : ∀ b, d.graph.Leads m.node b → d.Reaches b := by
      intro b hb
      cases hb with
      | target href' => rw [href] at href'; cases href'
      | property _ hp => exact ⟨m, hm, b, Graph.mem_members.2 ⟨_, hp⟩, .refl⟩
      | items harr _ => exact absurd harr (not_isArray_of_isObjectMessage hvalid)
    rcases ReflTransGen.cases_head hma with rfl | ⟨b, hb, hba⟩
    · obtain ⟨b, hb, hba⟩ := TransGen.head'_iff.1 hloop
      exact ⟨m.node, (hfirst b hb).leads hba, hloop⟩
    · exact ⟨a, (hfirst b hb).leads hba, hloop⟩
  · exact ⟨a, ha, hloop⟩

/-- Where nothing else is wrong, a node whose objects can be declared has a type. -/
theorem typed_of_declarable (h : d.OnlyObjectCycles) {t : NodeId} (ht : d.graph.Declarable t) :
    ∀ c, d.Reaches c → d.graph.target c = t → d.graph.Typed c := by
  induction ht with
  | @intro t _ _ _ ih =>
    rintro c hc rfl
    have hreach := hc.leads (Graph.leads_target c)
    rcases h.kinds _ hreach (h.ref_target hc) with ho | hb | harr
    · exact .object ho
    · exact .basic hb
    · cases hi : (d.graph.node (d.graph.target c)).items with
      | none => exact .bare harr hi
      | some e =>
        have he : e ∈ d.graph.inside (d.graph.target c) := Graph.mem_inside.2 (Or.inr ⟨harr, hi⟩)
        exact .items harr hi (ih e he e (hreach.leads (.single (.items harr hi))) rfl)

/-- Where nothing else is wrong, a walk of blame does not stop. -/
theorem not_stops (h : d.OnlyObjectCycles) (hc : d.Reaches c) (hopen : ¬ d.graph.Ready c) :
    ¬ d.graph.Stops (d.graph.target c) := by
  rintro ⟨x, hcx, hstop⟩
  have hx : ¬ d.graph.Declarable x := by
    obtain rfl | ⟨y, -, e, hfirst, hplaced, rfl⟩ := hcx.cases_tail
    · exact fun hdecl => hopen ⟨h.placed c hc, hdecl⟩
    · obtain ⟨-, -, -, -, he⟩ := hfirst
      exact fun hdecl => he ⟨hplaced, hdecl⟩
  have hreach : d.Reaches x :=
    hc.leads ((Graph.leads_target c).trans (Graph.leads_of_blames hcx))
  have hinside : ∀ e ∈ d.graph.inside x, d.Reaches e := fun e he =>
    hreach.leads (.single (Graph.leads_of_mem_inside he))
  -- nothing inside is left open, so only a type could be missing
  have hready : ∀ e ∈ d.graph.inside x, d.graph.Ready e := by
    by_contra hnot
    obtain ⟨e, hfirst⟩ := Graph.exists_firstOpen hnot
    exact hstop _ ⟨e, hfirst, h.placed e (hinside e hfirst.mem), rfl⟩
  exact hx (Graph.declarable_of_ready hready fun _ e he =>
    h.typed_of_declarable (hready e he).2 e (hinside e he) rfl)

/-- No cycle is reached from starts that are all ready. -/
theorem not_loop (hd : d.WellRead) (h : d.OnlyObjectCycles)
    (hready : ∀ c ∈ d.starts, d.graph.Ready c) (ha : d.Reaches a) : ¬ TransGen d.graph.Leads a a := by
  intro hloop
  obtain ⟨m, hm, c, hc, hca⟩ := ha
  have hreach : d.Reaches c := ⟨m, hm, c, hc, .refl⟩
  have hstart : c ∈ d.starts := by
    rw [starts_of_valid fun m hm => (h.messages m hm).1]
    exact List.mem_flatMap.2 ⟨m, hm, hc⟩
  have hdecl : d.graph.Declarable (d.graph.target a) := by
    refine (hready c hstart).2.enters ?_
    rcases (reflTransGen_iff_eq_or_transGen.1 hca) with rfl | hca
    · exact .refl
    · rcases h.walk hd hreach hca with ⟨-, hsame⟩ | henters
      · rw [hsame]
      · exact henters.to_reflTransGen
  rcases h.walk hd (hreach.leads hca) hloop with ⟨href, -⟩ | henters
  · rw [h.direct a a (hreach.leads hca) href] at href
    cases href
  · exact hdecl.not_loop henters

end OnlyObjectCycles

end Document

end StructGen.Schema

namespace StructGen.Go

open Schema (NodeId Graph Message Document)
open Relation

variable {s : Style} {d : Document}

/-! ### Failures of compiling -/

/-- What the failure of a start that is no misplaced reference says. -/
theorem Fails.cases {g : Graph} {id : NodeId} {f : Failure} (h : Fails g [] id f)
    (hplaced : g.Placed id) :
    (f.isUnknownComposite = true ∧ g.Returns (g.target id)) ∨
      (f.isEndless = true ∧ g.Unwinds (g.target id)) ∨ (f.IsPlain ∧ g.Stops (g.target id)) := by
  by_cases hu : f.isUnknownComposite = true
  · obtain ⟨-, o, -, hto, hvisit | ⟨ho, hloop⟩⟩ := h.unknown hu
    · cases hvisit
    · exact Or.inl ⟨hu, o, ho, hto, hloop⟩
  · by_cases he : f.isEndless = true
    · exact Or.inr (Or.inl ⟨he, (h.endless he).2⟩)
    · have hplain : f.IsPlain := ⟨by simpa using hu, by simpa using he⟩
      exact Or.inr (Or.inr ⟨hplain, (h.plain hplain).resolve_left (absurd hplaced)⟩)

/-- If a start is not ready, compiling fails at the first one. -/
theorem exists_failure {c : NodeId} (hopen : d.graph.FirstOpen d.starts c) (s : Style) :
    ∃ f, (compile s d).1 = .error f ∧ Fails d.graph [] c f := by
  cases hcompile : (compile s d).1 with
  | ok e =>
    obtain ⟨ids, r, h⟩ := compilation_of_compile hcompile
    exact absurd hopen (Graph.not_firstOpen_of_ready h.ready)
  | error f =>
    refine ⟨f, rfl, ?_⟩
    rcases compilationFails_of_compile hcompile with ⟨-, hready, -⟩ | ⟨c', hopen', hf⟩
    · exact absurd hopen (Graph.not_firstOpen_of_ready hready)
    · rwa [hopen.unique hopen']

/-- The failure speaks of a cycle exactly if the walk of blame comes back to an object. -/
theorem unknown_iff_returnsToObject (s : Style) :
    (∃ f, (compile s d).1 = .error f ∧ f.isUnknownComposite = true) ↔ d.ReturnsToObject := by
  constructor
  · rintro ⟨f, hcompile, hu⟩
    rcases compilationFails_of_compile hcompile with ⟨hplain, -⟩ | ⟨c, hopen, hf⟩
    · rw [hplain.1] at hu
      cases hu
    · obtain ⟨hplaced, o, -, hco, hvisit | ⟨ho, hloop⟩⟩ := hf.unknown hu
      · cases hvisit
      · exact ⟨c, hopen, hplaced, o, ho, hco, hloop⟩
  · rintro ⟨c, hopen, hplaced, hreturns⟩
    obtain ⟨f, hcompile, hf⟩ := exists_failure hopen s
    rcases hf.cases hplaced with ⟨hu, -⟩ | ⟨-, hunwinds⟩ | ⟨-, hstops⟩
    · exact ⟨f, hcompile, hu⟩
    · exact absurd hunwinds hreturns.not_unwinds
    · exact absurd hstops hreturns.not_stops

theorem isEndless_iff {f : Failure} : f.isEndless = true ↔ f = .misfit .endlessNesting := by
  unfold Failure.isEndless
  split
  · simp
  · rename_i hne
    simpa using hne

/-- Nesting has no end exactly if the walk of blame runs through arrays for ever. -/
theorem endless_iff_unwindsArrays (s : Style) :
    (compile s d).1 = .error (.misfit .endlessNesting) ↔ d.UnwindsArrays := by
  constructor
  · intro hcompile
    rcases compilationFails_of_compile hcompile with ⟨hplain, -⟩ | ⟨c, hopen, hf⟩
    · cases hplain.2
    · exact ⟨c, hopen, hf.endless rfl⟩
  · rintro ⟨c, hopen, hplaced, hunwinds⟩
    obtain ⟨f, hcompile, hf⟩ := exists_failure hopen s
    rcases hf.cases hplaced with ⟨-, hreturns⟩ | ⟨he, -⟩ | ⟨-, hstops⟩
    · exact absurd hunwinds hreturns.not_unwinds
    · rw [hcompile, isEndless_iff.1 he]
    · exact absurd hstops hunwinds.not_stops

/-! ### Documents without cycles -/

/-- **A document without cycles never fails as if it had one**: it compiles, or it fails for another
reason. -/
theorem no_cycle_failure_of_acyclic (s : Style)
    (h : ∀ a, d.Reaches a → ¬ TransGen d.graph.Leads a a) :
    (∃ c, (compile s d).1 = .ok c) ∨ ∃ f, (compile s d).1 = .error f ∧
      f.isUnknownComposite = false ∧ f.isEndless = false := by
  cases hcompile : (compile s d).1 with
  | ok c => exact Or.inl ⟨c, rfl⟩
  | error f =>
    refine Or.inr ⟨f, rfl, ?_, ?_⟩
    · by_contra hu
      have hreturns := (unknown_iff_returnsToObject s).1 ⟨f, hcompile, by simpa using hu⟩
      obtain ⟨o, ho, -, hloop⟩ := hreturns.exists_loop
      exact h o ho hloop
    · by_contra he
      have hf : f = .misfit .endlessNesting := isEndless_iff.1 (by simpa using he)
      rw [hf] at hcompile
      obtain ⟨x, hx, hloop⟩ := ((endless_iff_unwindsArrays s).1 hcompile).exists_loop
      exact h x hx hloop

/-- The legs of a trip lead to places, which have names. -/
def tripLegs : Json :=
  documentOf (objectOf [("legs", arrayOf (refTo "leg"))])
    [("leg", objectOf [("to", refTo "place")]),
      ("place", objectOf [("name", .obj [("type", .str "string")])])]

/-- The length of the longest walk from each node of that document. -/
def tripLegsRank (a : NodeId) : Nat := [7, 6, 5, 4, 3, 2, 1, 0].getD a 0

set_option maxRecDepth 100000 in
/-- No cycle is reached, so compiling does not fail for one: here it does not fail at all. -/
theorem tripLegs_no_cycle_failure : ∃ d, (Schema.read [] tripLegs).1 = .ok d ∧
    (∀ a, d.Reaches a → ¬ TransGen d.graph.Leads a a) ∧
    ((∃ c, (compile plainStyle d).1 = .ok c) ∨ ∃ f, (compile plainStyle d).1 = .error f ∧
      f.isUnknownComposite = false ∧ f.isEndless = false) ∧
    ∃ c, (compile plainStyle d).1 = .ok c ∧ c.base.map (·.name) = ["Place", "Leg"] := by
  have h : ((Schema.read [] tripLegs).1.toOption.map fun d =>
      (decide (∀ a < d.graph.size, ∀ b ∈ (d.graph.node a).children,
        tripLegsRank b < tripLegsRank a),
      (compile plainStyle d).1.toOption.map fun c => c.base.map (·.name))) =
      some (true, some ["Place", "Leg"]) := by decide +kernel
  obtain ⟨d, hd, heq⟩ := Option.map_eq_some_iff.1 h
  obtain ⟨hrank, hnames⟩ := Prod.mk.inj heq
  obtain ⟨c, hc, hnames⟩ := Option.map_eq_some_iff.1 hnames
  have hacyclic : ∀ a, d.Reaches a → ¬ TransGen d.graph.Leads a a := fun a _ =>
    Graph.not_loop_of_rank tripLegsRank (of_decide_eq_true hrank) a
  exact ⟨d, ok_of_toOption hd, hacyclic, no_cycle_failure_of_acyclic plainStyle hacyclic,
    c, ok_of_toOption hc, hnames⟩

/-! ### Documents with cycles -/

/-- A cycle that is the only defect and goes through objects is reported, with an object on it. -/
theorem circular_of_onlyObjectCycles (hd : d.WellRead) (h : d.OnlyObjectCycles)
    (hcycle : d.HasCycle) (s : Style) :
    ∃ o, d.Reaches o ∧ d.graph.IsObject o ∧ TransGen d.graph.Leads o o ∧
      (compile s d).1 = .error (.circularObject (d.graph.node o).pointer) := by
  obtain ⟨a, ha, hloop⟩ := h.exists_reaches hcycle
  obtain ⟨c, hopen⟩ := Graph.exists_firstOpen fun hready => h.not_loop hd hready ha hloop
  have hc := Document.reaches_of_mem_starts hopen.mem
  obtain ⟨f, hcompile, hf⟩ := exists_failure hopen s
  rcases hf.cases (h.placed c hc) with ⟨hu, -⟩ | ⟨-, x, hcx, hx⟩ | ⟨-, hstops⟩
  · obtain ⟨-, o, rfl, hco, hvisit | ⟨ho, hblames⟩⟩ := hf.unknown hu
    · cases hvisit
    · exact ⟨o, .of_blames hopen.mem hco, ho, Graph.loop_of_blames_loop hblames, hcompile⟩
  · exact absurd hx (h.arrays x (.of_blames hopen.mem hcx))
  · exact absurd hstops (h.not_stops hc hf.unready)

/-- **When a cycle is reported.** The failure speaks of an unknown type exactly if the walk of blame
comes back to an object, and nesting has no end exactly if it runs through arrays for ever. A cycle
that is the only defect and goes through objects is always reported, with an object on it. -/
theorem cycle_failure_iff {custom : List String} {contents : Json}
    (hread : (Schema.read custom contents).1 = .ok d) (s : Style) :
    ((∃ f, (compile s d).1 = .error f ∧ f.isUnknownComposite = true) ↔ d.ReturnsToObject) ∧
    ((compile s d).1 = .error (.misfit .endlessNesting) ↔ d.UnwindsArrays) ∧
    (d.HasCycle → d.OnlyObjectCycles →
      ∃ o, d.Reaches o ∧ d.graph.IsObject o ∧ TransGen d.graph.Leads o o ∧
        (compile s d).1 = .error (.circularObject (d.graph.node o).pointer)) := by
  refine ⟨unknown_iff_returnsToObject s, endless_iff_unwindsArrays s, fun hcycle honly => ?_⟩
  exact circular_of_onlyObjectCycles (Schema.wellRead_of_read hread) honly hcycle s

/-- A tree of nodes with children that are nodes again. -/
def tree : Json :=
  documentOf (objectOf [("root", refTo "node")])
    [("node", objectOf [("children", arrayOf (refTo "node"))])]

/-- What reading the tree gives. -/
def treeDocument : Document where
  id := "travel"
  graph := ⟨[
    { pointer := "/schemas/trip/1", types := [.str "object"], properties := [("root", 1)] },
    { pointer := "/schemas/trip/1/properties/root", ref := some 2 },
    { pointer := "/definitions/node", types := [.str "object"], properties := [("children", 3)] },
    { pointer := "/definitions/node/properties/children", types := [.str "array"],
      items := some 4 },
    { pointer := "/definitions/node/properties/children/items", ref := some 2 }]⟩
  messages := [⟨"trip", "1", 1, "travel/schemas/trip/1", 0⟩]
  warnings := []

set_option maxRecDepth 100000 in
theorem read_tree : (Schema.read [] tree).1 = .ok treeDocument := by
  have h : (Schema.read [] tree).1.toOption = some treeDocument := by decide +kernel
  exact ok_of_toOption h

theorem tree_hasCycle : treeDocument.HasCycle := by
  have hroot : 1 ∈ treeDocument.graph.members 0 := Graph.mem_members.2 ⟨"root", by decide⟩
  have h₂₃ : 3 ∈ treeDocument.graph.inside 2 := by
    rw [Graph.mem_inside]
    exact Or.inl ⟨rfl, "children", by decide⟩
  have h₃₄ : treeDocument.graph.Leads 3 4 := .items rfl rfl
  refine ⟨2, Or.inr ⟨_, List.mem_cons_self, 1, hroot, .single (.target rfl)⟩, ?_⟩
  exact .tail (.tail (.single (Graph.leads_of_mem_inside h₂₃)) h₃₄) (.target rfl)

theorem tree_onlyObjectCycles : treeDocument.OnlyObjectCycles := by
  have hmem : ∀ a, treeDocument.Reaches a → a ∈ [1, 2, 3, 4] := fun a ha =>
    ha.mem_of_closed (by decide) (by decide)
  have hrefs : ∀ a ∈ [1, 2, 3, 4], ∀ t ∈ (treeDocument.graph.node a).ref.toList,
      Pointer.definitionsStart.toList <+: (treeDocument.graph.node t).pointer.toList ∧
        (treeDocument.graph.node t).ref = none := by decide +kernel
  have hkinds : ∀ a ∈ [1, 2, 3, 4], (treeDocument.graph.node a).ref = none →
      treeDocument.graph.IsObject a ∨ treeDocument.graph.IsArray a := by decide
  have harrays : ∀ a ∈ [1, 2, 3, 4], ∀ c ∈ (treeDocument.graph.node a).items.toList,
      ¬ treeDocument.graph.IsArray (treeDocument.graph.target c) := by decide
  refine ⟨by decide, fun a ha t ht => ?_, fun a t ha ht => ?_, fun a ha hnone => ?_,
    fun a ha hloop => ?_⟩
  · exact (hrefs a (hmem a ha) t (by simp [ht])).1
  · exact (hrefs a (hmem a ha) t (by simp [ht])).2
  · exact (hkinds a (hmem a ha) hnone).imp_right Or.inr
  · obtain ⟨b, ⟨-, c, hc, -, rfl⟩, hloop'⟩ := Graph.unrolls_of_loop hloop
    obtain ⟨b', hunroll, -⟩ := Graph.unrolls_of_loop hloop'
    exact harrays a (hmem a ha) c (by simp [hc]) hunroll.1

theorem tree_cycle_failure : (Schema.read [] tree).1 = .ok treeDocument ∧ treeDocument.HasCycle ∧
    treeDocument.OnlyObjectCycles ∧
    (∃ f, (compile plainStyle treeDocument).1 = .error f ∧ f.isUnknownComposite = true) ∧
    treeDocument.ReturnsToObject ∧ ¬ treeDocument.UnwindsArrays := by
  obtain ⟨hunknown, hendless, hcircular⟩ := cycle_failure_iff read_tree plainStyle
  obtain ⟨o, -, -, -, hcompile⟩ := hcircular tree_hasCycle tree_onlyObjectCycles
  have hfails : ∃ f, (compile plainStyle treeDocument).1 = .error f ∧
      f.isUnknownComposite = true := ⟨_, hcompile, rfl⟩
  refine ⟨read_tree, tree_hasCycle, tree_onlyObjectCycles, hfails, hunknown.1 hfails, ?_⟩
  rw [← hendless, hcompile]
  simp

/-! #### Arrays that lead back to themselves -/

/-- A grid is an array of grids. -/
def grid : Json :=
  documentOf (objectOf [("cells", refTo "grid")]) [("grid", arrayOf (refTo "grid"))]

/-- What reading the grid gives. -/
def gridDocument : Document where
  id := "travel"
  graph := ⟨[
    { pointer := "/schemas/trip/1", types := [.str "object"], properties := [("cells", 1)] },
    { pointer := "/schemas/trip/1/properties/cells", ref := some 2 },
    { pointer := "/definitions/grid", types := [.str "array"], items := some 3 },
    { pointer := "/definitions/grid/items", ref := some 2 }]⟩
  messages := [⟨"trip", "1", 1, "travel/schemas/trip/1", 0⟩]
  warnings := []

set_option maxRecDepth 100000 in
/-- A cycle of arrays is not reported as one. -/
theorem grid_nests_endlessly : (Schema.read [] grid).1 = .ok gridDocument ∧
    gridDocument.HasCycle ∧
    (compile plainStyle gridDocument).1 = .error (.misfit .endlessNesting) := by
  have hread : (Schema.read [] grid).1.toOption = some gridDocument := by decide +kernel
  have hcells : 1 ∈ gridDocument.graph.members 0 := Graph.mem_members.2 ⟨"cells", by decide⟩
  have hitems : gridDocument.graph.Leads 2 3 := .items rfl rfl
  refine ⟨ok_of_toOption hread, ⟨2, ?_, .tail (.single hitems) (.target rfl)⟩, ?_⟩
  · exact Or.inr ⟨_, List.mem_cons_self, 1, hcells, .single (.target rfl)⟩
  · have hcompile : (match (compile plainStyle gridDocument).1 with
        | .ok _ => false
        | .error f => f.isEndless) = true := by decide +kernel
    split at hcompile
    · cases hcompile
    · rename_i f hf
      rw [hf, isEndless_iff.1 hcompile]

end StructGen.Go
