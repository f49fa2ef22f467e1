import StructGen.Go.Declaration
import StructGen.Proofs.FreshNames
import StructGen.Proofs.Outcome
import StructGen.Proofs.Walk

/-!
# Types of declared nodes

Finding the type of a node follows references and the items of arrays, as discovering does. Where
all objects that a node leads to have names, the node has a type exactly if `Graph.Typed` says so.

* `resolveFrom_object` to `resolveFrom_other` are the cases of a step;
* `typed_of_resolveFrom` and `untyped_of_resolveType` tell when there is a type;
* `marked_of_resolveFrom` tells what a type is made of;
* `declare_mono` says that names given later do not change a declaration.
-/

namespace StructGen

/-- Whether a failure says that an object type is not known. -/
def Failure.isUnknownComposite : Failure → Bool
  | .circularObject _ | .undeclaredObject _ => true
  | _ => false

/-- Whether a failure says that nesting has no end. -/
def Failure.isEndless : Failure → Bool
  | .misfit .endlessNesting => true
  | _ => false

/-- Whether a failure has nothing to do with cycles. -/
def Failure.IsPlain (f : Failure) : Prop := f.isUnknownComposite = false ∧ f.isEndless = false

namespace Go

open Schema (NodeId Graph)
open Relation

variable {names : TypeNames} {g : Graph} {r r' : Registry} {fuel : Nat} {id : NodeId}
  {nullable : Bool}

/-- The texts of the basic types. -/
def TypeNames.primitives (names : TypeNames) : List String :=
  [names.int.display, "string", "bool", names.float.display]

/-! ### Steps of resolving -/

theorem basic?_of_mem (names : TypeNames) {tag : String}
    (h : tag ∈ ["integer", "string", "boolean", "number"]) :
    ∃ spelling, names.basic? (.str tag) = some spelling ∧ spelling.display ∈ names.primitives := by
  simp only [List.mem_cons, List.not_mem_nil, or_false] at h
  rcases h with rfl | rfl | rfl | rfl <;> exact ⟨_, rfl, by simp [TypeNames.primitives]⟩

theorem mem_of_basic? {tag spelling : Json} (h : names.basic? tag = some spelling) :
    ∃ name ∈ ["integer", "string", "boolean", "number"], tag = .str name := by
  unfold TypeNames.basic? at h
  split at h
  · exact ⟨"integer", by simp, rfl⟩
  · exact ⟨"string", by simp, rfl⟩
  · exact ⟨"boolean", by simp, rfl⟩
  · exact ⟨"number", by simp, rfl⟩
  · cases h

theorem resolveFrom_object (h : g.IsObject (g.target id)) {name : String}
    (hname : r.get? (g.target id) = some name) :
    resolveFrom names g r (fuel + 1) id nullable = .ok (.declared name) := by
  unfold Graph.IsObject at h
  simp [resolveFrom, h, hname]

theorem resolveFrom_unnamed (h : g.IsObject (g.target id)) (hname : r.get? (g.target id) = none) :
    resolveFrom names g r (fuel + 1) id nullable =
      .error (.undeclaredObject (g.node (g.target id)).pointer) := by
  unfold Graph.IsObject at h
  simp [resolveFrom, h, hname]

theorem resolveFrom_items (h : g.IsArray (g.target id)) {c : NodeId}
    (hc : (g.node (g.target id)).items = some c) :
    resolveFrom names g r (fuel + 1) id nullable =
      GoType.slice <$> resolveFrom names g r fuel c false := by
  unfold Graph.IsArray at h
  simp [resolveFrom, h, hc]

theorem resolveFrom_bare (h : g.IsArray (g.target id))
    (hc : (g.node (g.target id)).items = none) :
    resolveFrom names g r (fuel + 1) id nullable = .ok (.slice (.basic names.unknown)) := by
  unfold Graph.IsArray at h
  simp [resolveFrom, h, hc]

/-- A basic type is a pointer where null is allowed. -/
theorem resolveFrom_primitive {tag : String} {spelling : Json}
    (h : (g.node (g.target id)).primaryType = some (.str tag))
    (hs : names.basic? (.str tag) = some spelling) :
    resolveFrom names g r (fuel + 1) id nullable =
      .ok (if nullable then .pointer (.basic spelling) else .basic spelling) := by
  have hplain : Json.str tag ≠ .str "null" ∧ Json.str tag ≠ .str "object" ∧
      Json.str tag ≠ .str "array" := by
    obtain ⟨name, hname, heq⟩ := mem_of_basic? hs
    cases heq
    simp only [List.mem_cons, List.not_mem_nil, or_false] at hname
    rcases hname with rfl | rfl | rfl | rfl <;> simp
  simp [resolveFrom, h, hplain, hs, Json.isCompound, GoType.asPointer]

theorem resolveFrom_basic (names : TypeNames) (h : g.IsBasic (g.target id)) :
    ∃ spelling : Json, spelling.display ∈ names.primitives ∧ ∀ r fuel nullable,
      resolveFrom names g r (fuel + 1) id nullable =
        .ok (if nullable then .pointer (.basic spelling) else .basic spelling) := by
  obtain ⟨tag, htag, h⟩ := h
  obtain ⟨spelling, hs, hmem⟩ := basic?_of_mem names htag
  exact ⟨spelling, hmem, fun _ _ _ => resolveFrom_primitive h hs⟩

/-- Any other node has no type, whatever the fuel. -/
theorem resolveFrom_other (names : TypeNames) (r : Registry) (fuel : Nat) (nullable : Bool)
    (ho : ¬ g.IsObject (g.target id)) (ha : ¬ g.IsArray (g.target id))
    (hb : ¬ g.IsBasic (g.target id)) :
    ∃ f, resolveFrom names g r (fuel + 1) id nullable = .error f ∧ f.IsPlain := by
  unfold Graph.IsObject at ho
  unfold Graph.IsArray at ha
  rw [resolveFrom]
  cases htag : (g.node (g.target id)).primaryType with
  | none => exact ⟨_, rfl, rfl, rfl⟩
  | some tag =>
    rw [htag, Option.some.injEq] at ho ha
    have hnone : names.basic? tag = none := by
      cases hbasic : names.basic? tag with
      | none => rfl
      | some spelling =>
        obtain ⟨name, hname, rfl⟩ := mem_of_basic? hbasic
        exact absurd ⟨name, hname, htag⟩ hb
    simp only [ho, ha, hnone, if_false]
    split_ifs <;> exact ⟨_, rfl, rfl, rfl⟩

/-- What resolving did if it found a type. -/
theorem resolveFrom_ok_cases {t : GoType}
    (h : resolveFrom names g r (fuel + 1) id nullable = .ok t) :
    (g.IsObject (g.target id) ∧ ∃ name, r.get? (g.target id) = some name ∧ t = .declared name) ∨
    (g.IsArray (g.target id) ∧ (g.node (g.target id)).items = none ∧
      t = .slice (.basic names.unknown)) ∨
    (∃ c t', g.IsArray (g.target id) ∧ (g.node (g.target id)).items = some c ∧
      resolveFrom names g r fuel c false = .ok t' ∧ t = .slice t') ∨
    (g.IsBasic (g.target id) ∧ ∃ spelling : Json, spelling.display ∈ names.primitives ∧
      t = if nullable then .pointer (.basic spelling) else .basic spelling) := by
  by_cases ho : g.IsObject (g.target id)
  · cases hname : r.get? (g.target id) with
    | none => rw [resolveFrom_unnamed ho hname] at h; cases h
    | some name =>
      rw [resolveFrom_object ho hname] at h
      cases h
      exact Or.inl ⟨ho, name, rfl, rfl⟩
  by_cases ha : g.IsArray (g.target id)
  · cases hc : (g.node (g.target id)).items with
    | none =>
      rw [resolveFrom_bare ha hc] at h
      cases h
      exact Or.inr (Or.inl ⟨ha, rfl, rfl⟩)
    | some c =>
      rw [resolveFrom_items ha hc] at h
      cases hitem : resolveFrom names g r fuel c false with
      | error f => rw [hitem] at h; cases h
      | ok t' =>
        rw [hitem] at h
        cases h
        exact Or.inr (Or.inr (Or.inl ⟨c, t', ha, rfl, hitem, rfl⟩))
  by_cases hb : g.IsBasic (g.target id)
  · obtain ⟨spelling, hmem, hok⟩ := resolveFrom_basic names hb
    rw [hok] at h
    cases h
    exact Or.inr (Or.inr (Or.inr ⟨hb, spelling, hmem, rfl⟩))
  · obtain ⟨f, hf, -⟩ := resolveFrom_other names r fuel nullable ho ha hb
    rw [hf] at h
    cases h

/-- Why resolving failed, if it did. -/
theorem resolveFrom_error_cases {f : Failure}
    (h : resolveFrom names g r (fuel + 1) id nullable = .error f) :
    (g.IsObject (g.target id) ∧ r.get? (g.target id) = none) ∨
    (∃ c, g.IsArray (g.target id) ∧ (g.node (g.target id)).items = some c ∧
      resolveFrom names g r fuel c false = .error f) ∨
    (¬ g.Typed id ∧ f.IsPlain) := by
  by_cases ho : g.IsObject (g.target id)
  · cases hname : r.get? (g.target id) with
    | none => exact Or.inl ⟨ho, rfl⟩
    | some name => rw [resolveFrom_object ho hname] at h; cases h
  by_cases ha : g.IsArray (g.target id)
  · cases hc : (g.node (g.target id)).items with
    | none => rw [resolveFrom_bare ha hc] at h; cases h
    | some c =>
      rw [resolveFrom_items ha hc] at h
      cases hitem : resolveFrom names g r fuel c false with
      | error f' =>
        rw [hitem] at h
        cases h
        exact Or.inr (Or.inl ⟨c, ha, rfl, hitem⟩)
      | ok t => rw [hitem] at h; cases h
  by_cases hb : g.IsBasic (g.target id)
  · obtain ⟨spelling, -, hok⟩ := resolveFrom_basic names hb
    rw [hok] at h
    cases h
  · obtain ⟨f', hf, hplain⟩ := resolveFrom_other names r fuel nullable ho ha hb
    rw [hf] at h
    cases h
    refine Or.inr (Or.inr ⟨fun ht => ?_, hplain⟩)
    rcases ht.kind with h | h | h
    · exact ho h
    · exact hb h
    · exact ha h

/-! ### Types -/

theorem typed_of_resolveFrom {t : GoType} (h : resolveFrom names g r fuel id nullable = .ok t) :
    g.Typed id := by
  induction fuel generalizing id nullable t with
  | zero => cases h
  | succ fuel ih =>
    rcases resolveFrom_ok_cases h with ⟨ho, -⟩ | ⟨ha, hc, -⟩ | ⟨c, t', ha, hc, hitem, -⟩ | ⟨hb, -⟩
    · exact .object ho
    · exact .bare ha hc
    · exact .items ha hc (ih hitem)
    · exact .basic hb

/-- Whether all objects that a node leads to have names. -/
def Covers (g : Graph) (r : Registry) (t : NodeId) : Prop :=
  ∀ x, ReflTransGen g.Enters t x → g.IsObject x → r.contains x = true

theorem Covers.enters {t t' : NodeId} (h : Covers g r t) (ht : ReflTransGen g.Enters t t') :
    Covers g r t' := fun x hx ho => h x (ht.trans hx) ho

/-- Resolving fails only for want of a type. `run` are the arrays around the node: they are
different, so that the fuel lasts. -/
theorem untyped_of_resolveFrom {f : Failure} {run : List NodeId}
    (hcovers : Covers g r (g.target id)) (hdecl : g.Declarable (g.target id))
    (harrays : ∀ a ∈ run, g.IsArray a) (henters : ∀ a ∈ run, TransGen g.Enters a (g.target id))
    (hnodup : run.Nodup) (hfuel : g.size < fuel + run.length)
    (h : resolveFrom names g r fuel id nullable = .error f) : ¬ g.Typed id ∧ f.IsPlain := by
  induction fuel generalizing id nullable run with
  | zero =>
    have hle := Graph.length_le_size hnodup fun a ha => Graph.types_ne_nil (harrays a ha)
    omega
  | succ fuel ih =>
    rcases resolveFrom_error_cases h with ⟨ho, hname⟩ | ⟨c, ha, hc, hitem⟩ | hplain
    · have hmem := hcovers _ .refl ho
      rw [Registry.contains, hname] at hmem
      cases hmem
    · have hmem : c ∈ g.inside (g.target id) := by rw [Graph.inside_of_isArray ha, hc]; simp
      have hstep : g.Enters (g.target id) (g.target c) := ⟨c, hmem, rfl⟩
      -- an array that is met again would lead back to itself
      have hnew : g.target id ∉ run := fun hrun => hdecl.not_loop (henters _ hrun)
      obtain ⟨huntyped, hplain⟩ := @ih c false (g.target id :: run)
        (hcovers.enters (.single hstep)) (hdecl.ready hmem).2
        (by simpa using ⟨ha, harrays⟩)
        (by simpa using ⟨.single hstep, fun a hrun => (henters a hrun).tail hstep⟩)
        (List.nodup_cons.2 ⟨hnew, hnodup⟩) (by rw [List.length_cons]; omega) hitem
      exact ⟨fun ht => huntyped (ht.of_items ha hc), hplain⟩
    · exact hplain

theorem untyped_of_resolveType {f : Failure} (hcovers : Covers g r (g.target id))
    (hdecl : g.Declarable (g.target id)) (h : resolveType names g r id nullable = .error f) :
    ¬ g.Typed id ∧ f.IsPlain :=
  untyped_of_resolveFrom hcovers hdecl (List.forall_mem_nil _) (List.forall_mem_nil _)
    List.nodup_nil (by simp) h

/-- Names given to more nodes do not change the type of a node. -/
theorem resolveFrom_mono (hr : ∀ x name, r.get? x = some name → r'.get? x = some name)
    {t : GoType} (h : resolveFrom names g r fuel id nullable = .ok t) :
    resolveFrom names g r' fuel id nullable = .ok t := by
  induction fuel generalizing id nullable t with
  | zero => cases h
  | succ fuel ih =>
    rcases resolveFrom_ok_cases h with
      ⟨ho, name, hname, rfl⟩ | ⟨ha, hc, rfl⟩ | ⟨c, t', ha, hc, hitem, rfl⟩ | ⟨hb, -⟩
    · exact resolveFrom_object ho (hr _ _ hname)
    · exact resolveFrom_bare ha hc
    · rw [resolveFrom_items ha hc, ih hitem]
      rfl
    · obtain ⟨spelling, -, hok⟩ := resolveFrom_basic names hb
      rw [hok] at h ⊢
      exact h

/-- A type expression that is `core` behind any number of stars and brackets. -/
inductive Marked (core : String) : String → Prop
  | core : Marked core core
  | pointer {type : String} (h : Marked core type) : Marked core ("*" ++ type)
  | slice {type : String} (h : Marked core type) : Marked core ("[]" ++ type)

/-- A type is made of a basic type, the unknown type or the name of an object that the node leads
to. -/
theorem marked_of_resolveFrom {t : GoType} (h : resolveFrom names g r fuel id nullable = .ok t) :
    ∃ core, Marked core t.text ∧ (core ∈ names.primitives ∨ core = names.unknown.display ∨
      ∃ x, ReflTransGen g.Enters (g.target id) x ∧ r.get? x = some core) := by
  induction fuel generalizing id nullable t with
  | zero => cases h
  | succ fuel ih =>
    rcases resolveFrom_ok_cases h with
      ⟨-, name, hname, rfl⟩ | ⟨-, -, rfl⟩ | ⟨c, t', ha, hc, hitem, rfl⟩ | ⟨-, spelling, hmem, rfl⟩
    · exact ⟨name, .core, Or.inr (Or.inr ⟨_, .refl, hname⟩)⟩
    · exact ⟨names.unknown.display, .slice .core, Or.inr (Or.inl rfl)⟩
    · obtain ⟨core, hmarked, hcore⟩ := ih hitem
      have hstep : g.Enters (g.target id) (g.target c) :=
        ⟨c, by rw [Graph.inside_of_isArray ha, hc]; simp, rfl⟩
      refine ⟨core, .slice hmarked, hcore.imp_right (Or.imp_right ?_)⟩
      rintro ⟨x, hx, hname⟩
      exact ⟨x, .head hstep hx, hname⟩
    · refine ⟨spelling.display, ?_, Or.inl hmem⟩
      split_ifs
      · exact .pointer .core
      · exact .core

/-! ### Declarations -/

variable {s : Style} {name docstring : String} {d : Declaration}

/-- A field has the type of the property's node. -/
theorem field_of_ok {n : Schema.Node} {property : String} {t : GoType}
    (h : resolveType s.types g r id (g.nullAllowed id) = .ok t) :
    s.field g r n property id = .ok
      { name := s.initialisms.fieldName property, type := t.text, key := property,
        optional := !n.isRequired property, comment := s.shownDescription (g.node id) } := by
  rw [Style.field, h]
  rfl

theorem field_of_error {n : Schema.Node} {property : String} {f : Failure}
    (h : resolveType s.types g r id (g.nullAllowed id) = .error f) :
    s.field g r n property id = .error f := by
  rw [Style.field, h]
  rfl

/-- A declaration has the name and the comment it is asked for and a field for each property. -/
theorem fields_of_declare (h : s.declare g r name docstring id = .ok d) :
    d.name = name ∧ d.docstring = docstring ∧ d.unknownType = s.types.unknown.display ∧
      List.Forall₂ (fun p f => ∃ t, resolveType s.types g r p.2 (g.nullAllowed p.2) = .ok t ∧
        f = { name := s.initialisms.fieldName p.1, type := t.text, key := p.1,
              optional := !(g.node id).isRequired p.1,
              comment := s.shownDescription (g.node p.2) })
        (g.node id).sortedProperties d.fields := by
  unfold Style.declare at h
  cases hfields : (g.node id).sortedProperties.mapM fun p => s.field g r (g.node id) p.1 p.2 with
  | error f =>
    simp only [hfields] at h
    cases h
  | ok fields =>
    simp only [hfields] at h
    cases h
    refine ⟨rfl, rfl, rfl, (mapM_eq_ok.1 hfields).imp fun p f hf => ?_⟩
    cases ht : resolveType s.types g r p.2 (g.nullAllowed p.2) with
    | error e =>
      rw [field_of_error ht] at hf
      cases hf
    | ok t =>
      rw [field_of_ok ht] at hf
      exact ⟨t, rfl, (Except.ok.inj hf).symm⟩

/-- What the fields have from their properties, whatever their types. -/
theorem map_fields_of_declare {α : Type} {ofField : FieldDeclaration → α}
    {ofProperty : String × NodeId → α} (h : s.declare g r name docstring id = .ok d)
    (heq : ∀ p type, ofField
      { name := s.initialisms.fieldName p.1, type, key := p.1,
        optional := !(g.node id).isRequired p.1,
        comment := s.shownDescription (g.node p.2) } = ofProperty p) :
    d.fields.map ofField = (g.node id).sortedProperties.map ofProperty := by
  obtain ⟨-, -, -, hfields⟩ := fields_of_declare h
  rw [eq_comm, ← List.forall₂_eq_eq_eq, List.forall₂_map_left_iff, List.forall₂_map_right_iff]
  refine hfields.imp ?_
  rintro p f ⟨t, -, rfl⟩
  exact (heq p t.text).symm

/-- A declaration has one field for each property of its node, in the order of their names. -/
theorem keys_of_declare (h : s.declare g r name docstring id = .ok d) :
    d.fields.map (·.key) = (g.node id).sortedProperties.map Prod.fst :=
  map_fields_of_declare h fun _ _ => rfl

/-- A declaration has the name it is asked for and a field for each property, whose type is that of
the property's node. -/
theorem declare_ok (h : s.declare g r name docstring id = .ok d) :
    d.name = name ∧ d.docstring = docstring ∧
      List.Forall₂ (fun p f => ∃ t, resolveType s.types g r p.2 (g.nullAllowed p.2) = .ok t ∧
        f.type = t.text) (g.node id).sortedProperties d.fields := by
  obtain ⟨hname, hdocstring, -, hfields⟩ := fields_of_declare h
  refine ⟨hname, hdocstring, hfields.imp ?_⟩
  rintro p f ⟨t, ht, rfl⟩
  exact ⟨t, ht, rfl⟩

theorem typed_of_declare (h : s.declare g r name docstring id = .ok d) :
    ∀ c ∈ g.members id, g.Typed c := by
  intro c hc
  obtain ⟨p, hp, rfl⟩ := List.mem_map.1 hc
  obtain ⟨-, -, hfields⟩ := declare_ok h
  obtain ⟨f, -, t, ht, -⟩ := exists_of_forall₂ hfields.flip hp
  exact typed_of_resolveFrom ht

/-- A node cannot be declared only if a property has no type. -/
theorem declare_error {f : Failure} (h : s.declare g r name docstring id = .error f) :
    ∃ c ∈ g.members id, resolveType s.types g r c (g.nullAllowed c) = .error f := by
  unfold Style.declare at h
  cases hfields : (g.node id).sortedProperties.mapM fun p => s.field g r (g.node id) p.1 p.2 with
  | ok fields =>
    simp only [hfields] at h
    cases h
  | error e =>
    simp only [hfields] at h
    cases h
    obtain ⟨p, hp, hf⟩ := mapM_eq_error hfields
    refine ⟨p.2, List.mem_map_of_mem hp, ?_⟩
    cases ht : resolveType s.types g r p.2 (g.nullAllowed p.2) with
    | error e =>
      rw [field_of_error ht] at hf
      cases hf
      rfl
    | ok t =>
      rw [field_of_ok ht] at hf
      cases hf

/-- Names given to more nodes do not change a declaration. -/
theorem declare_mono (hr : ∀ x name, r.get? x = some name → r'.get? x = some name)
    (h : s.declare g r name docstring id = .ok d) : s.declare g r' name docstring id = .ok d := by
  unfold Style.declare at h ⊢
  cases hfields : (g.node id).sortedProperties.mapM fun p => s.field g r (g.node id) p.1 p.2 with
  | error f =>
    simp only [hfields] at h
    cases h
  | ok fields =>
    simp only [hfields] at h
    have hfields' : (g.node id).sortedProperties.mapM
        (fun p => s.field g r' (g.node id) p.1 p.2) = .ok fields := by
      refine mapM_eq_ok.2 ((mapM_eq_ok.1 hfields).imp fun p f hf => ?_)
      cases ht : resolveType s.types g r p.2 (g.nullAllowed p.2) with
      | error e =>
        rw [field_of_error ht] at hf
        cases hf
      | ok t =>
        rw [field_of_ok ht] at hf
        rw [field_of_ok (resolveFrom_mono hr ht)]
        exact hf
    simp only [hfields']
    exact h

end Go

end StructGen
