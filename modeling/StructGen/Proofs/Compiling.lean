import StructGen.Proofs.Discovery
import StructGen.Proofs.UpdatedEntries

/-!
# Compiling documents

Compiling names the messages, discovers what their properties lead to and declares the messages.
This module puts together how it ends.

* `discoverMessages_ends` is about all messages of a document;
* `Compilation` tells what a compiled document consists of, `CompilationFails` what a failure says;
* `compilation_of_compile` and `compilationFails_of_compile` derive them.
-/

namespace StructGen.Go

open Schema (NodeId Graph Message Document)
open Relation

variable {s : Style} {d : Document} {w : Workspace}

/-! ### Discovering messages -/

theorem discover_ends {g : Graph} {path : List String} {id : NodeId} (hsound : Sound g w.registry) :
    Ends (discover s g path id) w (fun _ w' => Discovered s g [] [id] w w') (Fails g [] id) := by
  refine discoverFrom_ends hsound (.nil id) ?_
  unfold fuelFor
  simp only [List.length_nil, Nat.sub_zero]
  rw [Nat.succ_mul g.size (g.size + 1), Nat.add_assoc]
  exact Nat.le_succ _

/-- A message is refused if it has a wrong type, and discovered by its properties otherwise. -/
theorem discoverMessage_ends {name : String} {m : Message} (hsound : Sound d.graph w.registry) :
    Ends (discoverMessage s d.graph name m) w
      (fun _ w' => d.isObjectMessage m = true ∧
        Discovered s d.graph [] (d.graph.members m.node) w w')
      (fun f => d.isObjectMessage m = false ∧ f.IsPlain ∨ d.isObjectMessage m = true ∧
        ∃ c, d.graph.FirstOpen (d.graph.members m.node) c ∧ Fails d.graph [] c f) := by
  have hcheck : (!(d.graph.node m.node).types.isEmpty &&
      (d.graph.node m.node).types != [.str "object"]) = !d.isObjectMessage m := by
    simp [Document.isObjectMessage, bne]
  unfold discoverMessage
  dsimp only
  rw [hcheck]
  cases hvalid : d.isObjectMessage m with
  | false => exact Or.inl ⟨rfl, rfl, rfl⟩
  | true =>
    simp only [Bool.not_true, Bool.false_eq_true, if_false, ends_bind]
    refine ends_note fun w₁ hreg hbase => ?_
    rw [← hreg] at hsound
    refine (ends_forM_discover s [] hsound fun p _ w₂ hw₂ => discover_ends hw₂).mono
      (fun _ w₂ h => ⟨trivial, ?_⟩) (fun f hf => Or.inr ⟨trivial, hf⟩)
    obtain ⟨ids, hgrows, hids⟩ := h.grows
    exact ⟨h.ready, h.covers, h.sound, ids, (Grows.refl hreg hbase).trans hgrows, hids⟩

/-- Whether a document has a message of a wrong type, or one with a property that has no type. -/
def Refused (d : Document) : Prop :=
  (∃ m ∈ d.messages, d.isObjectMessage m = false) ∨ ∃ c ∈ d.starts, ¬ d.graph.Typed c

/-- What a failure of compiling says: it has nothing to do with cycles, all starts are ready and
there is another reason, or the first start that is not ready fails. -/
def CompilationFails (d : Document) (f : Failure) : Prop :=
  f.IsPlain ∧ (∀ c ∈ d.starts, d.graph.Ready c) ∧ Refused d ∨
    ∃ c, d.graph.FirstOpen d.starts c ∧ Fails d.graph [] c f

/-- Discovering all messages succeeds if they have the right types and all starts are ready. -/
theorem discoverMessages_ends {nameOf : Message → String} (hsound : Sound d.graph w.registry) :
    Ends (d.messages.forM fun m => discoverMessage s d.graph (nameOf m) m) w
      (fun _ w' => (∀ m ∈ d.messages, d.isObjectMessage m = true) ∧
        Discovered s d.graph [] d.starts w w') (CompilationFails d) := by
  refine (ends_forM (fun pre w' => (∀ m ∈ pre, d.isObjectMessage m = true) ∧
    Discovered s d.graph [] (pre.flatMap fun m => d.graph.members m.node) w w')
    ⟨by simp, .nil hsound⟩ ?_).mono (fun _ w' h => ?_) fun _ hf => hf
  · rintro pre m post w₁ hsplit ⟨hpre, hdisc⟩
    have hm : m ∈ d.messages := by rw [hsplit]; simp
    refine (discoverMessage_ends hdisc.sound).mono (fun _ w₂ h => ?_) (fun f hf => ?_)
    · refine ⟨fun m' hm' => ?_, by simpa using hdisc.append h.2⟩
      rcases List.mem_append.1 hm' with hm' | hm'
      · exact hpre m' hm'
      · rw [List.mem_singleton.1 hm']
        exact h.1
    -- a message of a wrong type ends the starts, any other one continues them
    · have hstarts := Document.starts_of_split hsplit hpre
      rcases hf with ⟨hwrong, hplain⟩ | ⟨hvalid, c, hopen, hf⟩
      · rw [hwrong, if_neg Bool.false_ne_true, List.append_nil] at hstarts
        exact Or.inl ⟨hplain, hstarts ▸ hdisc.ready, Or.inl ⟨m, hm, hwrong⟩⟩
      · rw [if_pos hvalid] at hstarts
        exact Or.inr ⟨c, hstarts ▸ hopen.append hdisc.ready _, hf⟩
  · exact ⟨h.1, (Document.starts_of_valid h.1).symm ▸ h.2⟩

/-! ### Naming messages -/

/-- A type with a major version always has a name. -/
theorem exists_typeName (is : Naming.Initialisms) (path : List String) (major : Int)
    (versioned : Bool) : ∃ name, is.typeName path (some major) versioned = .ok name := by
  cases versioned <;> exact ⟨_, rfl⟩

/-- Naming the messages claims different names for them and declares nothing. -/
theorem nameMessages_ends :
    Ends (d.messages.foldlM (nameMessage s d) []) {}
      (fun names w => w.registry.names = [] ∧ w.base = [] ∧
        Distinct (names.map Prod.snd) w.registry w.base) (fun _ => False) := by
  refine ends_foldlM (fun _ (names : List (String × String)) (w : Workspace) =>
    w.registry.names = [] ∧ w.base = [] ∧ Distinct (names.map Prod.snd) w.registry w.base)
    ⟨rfl, rfl, .nil, by simp⟩ ?_
  rintro pre m post names w - ⟨hnames, hbase, hnodup, hused⟩
  rw [hbase, List.map_nil, List.nil_append] at hnodup hused
  unfold nameMessage
  -- a name is claimed afresh even if it takes the place of another one under the same key
  obtain ⟨name, hname⟩ := exists_typeName s.initialisms [m.type] m.major (d.isVersioned m.type)
  rw [hname, ends_bind]
  change Ends (Compile.claim name >>= _) w _ _
  rw [ends_bind]
  refine ends_claim fun w' hreg hbase' => ?_
  rw [ends_pure, hreg, hbase', hbase, Distinct, List.map_nil, List.nil_append]
  refine ⟨hnames, rfl, nodup_values_putEntry hnodup fun hmem => ?_, fun x hx => ?_⟩
  · exact Registry.unusedName_not_mem _ _ (hused hmem)
  · rcases mem_values_putEntry hx with rfl | hx
    · exact List.mem_cons_self
    · exact List.mem_cons_of_mem _ (hused hx)

/-! ### Declaring messages -/

/-- The declaration of a message, by names that agree with those of a registry except for
messages. -/
def DeclaredMessage (s : Style) (d : Document) (r : Registry) (m : Message) (e : Declaration) :
    Prop :=
  ∃ r' name docstring, s.declare d.graph r' name docstring m.node = .ok e ∧
    ∀ x, (∀ m' ∈ d.messages, m'.node ≠ x) → r'.get? x = r.get? x

/-- Once all starts have been discovered, declaring the messages fails for want of a type only. -/
theorem declareMessages_ends {nameOf : Message → String} {cs : List NodeId}
    (hcs : ∀ m ∈ d.messages, d.graph.members m.node ⊆ cs) (hready : ∀ c ∈ cs, d.graph.Ready c)
    (hcovers : ∀ c ∈ cs, Covers d.graph w.registry (d.graph.target c)) :
    Ends (d.messages.mapM fun m => declareMessage s d.graph (nameOf m) m) w
      (fun es _ => List.Forall₂ (DeclaredMessage s d w.registry) d.messages es)
      (fun f => f.IsPlain ∧ ∃ c ∈ cs, ¬ d.graph.Typed c) := by
  refine (ends_mapM (fun pre es (w' : Workspace) =>
    List.Forall₂ (DeclaredMessage s d w.registry) pre es ∧
    (∀ x, w.registry.contains x = true → w'.registry.contains x = true) ∧
    ∀ x, (∀ m ∈ d.messages, m.node ≠ x) → w'.registry.get? x = w.registry.get? x)
    ⟨.nil, fun _ hx => hx, fun _ _ => rfl⟩ ?_).mono (fun _ _ h => h.1) fun _ hf => hf
  -- messages get names too, so the registry changes, but only at their own nodes
  rintro pre m post es w₁ hsplit ⟨hall, hcontains, hsame⟩
  have hm : m ∈ d.messages := by rw [hsplit]; simp
  unfold declareMessage
  refine ends_declare (fun e w₂ he hreg _ => ⟨?_, fun x hx => ?_, fun x hx => ?_⟩) fun f hf => ?_
  · exact List.rel_append hall (.cons ⟨_, _, _, he, hsame⟩ .nil)
  · rw [hreg, Registry.contains, Registry.get?_register]
    split_ifs
    · rfl
    · exact hcontains x hx
  · rw [hreg, Registry.get?_register, if_neg fun h => hx m hm h.symm, hsame x hx]
  · obtain ⟨c, hc, hf⟩ := declare_error hf
    have hmem := hcs m hm hc
    have hnames : Covers d.graph w₁.registry (d.graph.target c) := fun x hx ho =>
      hcontains x (hcovers c hmem x hx ho)
    obtain ⟨huntyped, hplain⟩ := untyped_of_resolveType hnames (hready c hmem).2 hf
    exact ⟨hplain, c, hmem, huntyped⟩

/-! ### Compiling -/

/-- What compiling a document has done when it succeeds: `ids` are the nodes of the base
declarations and `r` holds their names. -/
structure Compilation (s : Style) (d : Document) (ids : List NodeId) (r : Registry) (c : Compiled) :
    Prop where
  starts : ∀ m ∈ d.messages, d.graph.members m.node ⊆ d.starts
  ready : ∀ a ∈ d.starts, d.graph.Ready a
  mem_ids : ∀ x, x ∈ ids ↔ d.graph.IsObject x ∧
    ∃ a ∈ d.starts, ReflTransGen d.graph.Enters (d.graph.target a) x
  nodup : ids.Nodup
  base : List.Forall₂ (DeclaredAs s d.graph r) ids c.base
  names : ∀ x name, r.get? x = some name → ∃ e ∈ c.base, e.name = name
  ordered : Ordered s c.base
  distinct : (c.base.map (·.name) ++ c.messageNames.map Prod.snd).Nodup
  messages : List.Forall₂ (DeclaredMessage s d r) d.messages c.messages

/-- What discovering all messages has declared. -/
theorem Discovered.mem_iff {w' : Workspace} {cs ids : List NodeId} {g : Graph}
    (h : Discovered s g [] cs w w') (hnames : w.registry.names = []) (hgrows : Grows s g w ids w')
    (hids : ∀ x ∈ ids, x ∉ [] ∧ g.IsObject x ∧ ∃ c ∈ cs, ReflTransGen g.Enters (g.target c) x)
    (x : NodeId) :
    x ∈ ids ↔ g.IsObject x ∧ ∃ c ∈ cs, ReflTransGen g.Enters (g.target c) x := by
  refine ⟨fun hx => (hids x hx).2, ?_⟩
  rintro ⟨ho, c, hc, hcx⟩
  rcases (hgrows.contains_iff x).1 (h.covers c hc x hcx ho) with hold | hx
  · rw [Registry.contains, Registry.get?, hnames] at hold
    cases hold
  · exact hx

theorem compileDocument_ends :
    Ends (compileDocument s d) {} (fun c _ => ∃ ids r, Compilation s d ids r c)
      (CompilationFails d) := by
  unfold compileDocument
  rw [ends_bind]
  refine nameMessages_ends.mono ?_ fun _ h => h.elim
  rintro names w ⟨hnames, hbase, hdistinct⟩
  have hsound : Sound d.graph w.registry := fun x hx => by
    rw [Registry.contains, Registry.get?, hnames] at hx
    cases hx
  rw [ends_bind]
  refine (discoverMessages_ends hsound).mono ?_ fun _ hf => hf
  rintro - w₁ ⟨hvalid, hdisc⟩
  have hstarts : ∀ m ∈ d.messages, d.graph.members m.node ⊆ d.starts := fun m hm c hc => by
    rw [Document.starts_of_valid hvalid]
    exact List.mem_flatMap.2 ⟨m, hm, hc⟩
  simp only [ends_bind, ends_get]
  refine (declareMessages_ends hstarts hdisc.ready hdisc.covers).mono ?_
    fun f hf => Or.inl ⟨hf.1, hdisc.ready, Or.inr hf.2⟩
  intro es w₂ hes
  refine ends_note fun w₃ _ _ => ?_
  obtain ⟨ids, hgrows, hids⟩ := hdisc.grows
  obtain ⟨ds, hds, hall⟩ := hgrows.base
  rw [hbase, List.nil_append] at hds
  obtain ⟨hdeclared, hordered⟩ := hgrows.ordered hnames hbase
  exact ⟨ids, w₁.registry,
    { starts := hstarts
      ready := hdisc.ready
      mem_ids := hdisc.mem_iff hnames hgrows hids
      nodup := hgrows.nodup
      base := hds ▸ hall
      names := hdeclared
      ordered := hordered
      distinct := (hgrows.distinct hdistinct).1
      messages := hes }⟩

theorem compilation_of_compile {c : Compiled} (h : (compile s d).1 = .ok c) :
    ∃ ids r, Compilation s d ids r c := by
  unfold compile at h
  split at h
  · cases h
    exact compileDocument_ends.of_ok ‹_›
  · cases h

theorem compilationFails_of_compile {f : Failure} (h : (compile s d).1 = .error f) :
    CompilationFails d f := by
  unfold compile at h
  split at h
  · cases h
  · cases h
    exact compileDocument_ends.of_error ‹_›

/-- A document compiles if all its messages are objects whose properties are ready and have
types. -/
theorem exists_compiled (s : Style) (hvalid : ∀ m ∈ d.messages, d.isObjectMessage m = true)
    (hready : ∀ c ∈ d.starts, d.graph.Ready c) (htyped : ∀ c ∈ d.starts, d.graph.Typed c) :
    ∃ c, (compile s d).1 = .ok c := by
  cases hcompile : (compile s d).1 with
  | ok c => exact ⟨c, rfl⟩
  | error f =>
    rcases compilationFails_of_compile hcompile with ⟨-, -, hrefused⟩ | ⟨c, hopen, -⟩
    · rcases hrefused with ⟨m, hm, hwrong⟩ | ⟨c, hc, huntyped⟩
      · rw [hvalid m hm] at hwrong
        cases hwrong
      · exact absurd (htyped c hc) huntyped
    · exact absurd hopen (Graph.not_firstOpen_of_ready hready)

end StructGen.Go
