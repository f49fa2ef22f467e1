import StructGen.Go.Compiled
import StructGen.Proofs.Resolving

/-!
# Growing workspaces

Discovering changes the workspace in one way only: a node without a name gets one that was not in
use, and its declaration is put at the end.

* `ends_claim`, `ends_declare` and their companions are the steps of compiling;
* `Adds` is the step that declares one node, `Grows` a run of such steps;
* `Grows.preserves` carries an invariant from a step to a run;
* `Grows.base`, `Grows.distinct` and `Grows.ordered` tell what a run has declared.
-/

namespace StructGen.Go

open Schema (NodeId Graph)
open Relation

variable {s : Style} {g : Graph} {w w' w'' : Workspace} {E : Failure → Prop}

/-! ### Steps of compiling -/

theorem ends_lift {α : Type} {x : Except Failure α} {Q : α → Workspace → Prop}
    (ok : ∀ a, x = .ok a → Q a w) (error : ∀ f, x = .error f → E f) :
    Ends (Compile.lift x) w Q E := by
  cases x with
  | ok a => exact ok a rfl
  | error f => exact error f rfl

theorem ends_note {n : Notice} {Q : Unit → Workspace → Prop}
    (ok : ∀ w', w'.registry = w.registry → w'.base = w.base → Q () w') :
    Ends (Compile.note n) w Q E := ok _ rfl rfl

theorem ends_claim {name : String} {Q : String → Workspace → Prop}
    (ok : ∀ w', w'.registry = (w.registry.claim name).2 → w'.base = w.base →
      Q (w.registry.unusedName name) w') :
    Ends (Compile.claim name) w Q E := by
  unfold Compile.claim
  simp only [ends_bind, ends_get]
  split_ifs
  · exact ok _ rfl rfl
  · exact ok _ rfl rfl

theorem ends_declare {name docstring : String} {id : NodeId} {Q : Declaration → Workspace → Prop}
    (ok : ∀ d w', s.declare g w.registry name docstring id = .ok d →
      w'.registry = w.registry.register id name → w'.base = w.base → Q d w')
    (error : ∀ f, s.declare g w.registry name docstring id = .error f → E f) :
    Ends (Compile.declare s g name docstring id) w Q E := by
  unfold Compile.declare
  simp only [ends_bind, ends_get]
  exact ends_lift (fun d hd => ok d _ hd rfl rfl) error

/-- Declare an object whose properties have been discovered. -/
def declareObject (s : Style) (g : Graph) (path : List String) (id : NodeId) : Compile Unit := do
  let name ← Compile.claim (s.initialisms.pathName path)
  let d ← Compile.declare s g name (s.typeDocstring name (g.node id)) id
  modify fun w => { w with base := w.base ++ [d] }

/-! ### Declaring one node -/

/-- One more declaration: the node `id` gets a new name and its declaration is the last one. -/
structure Adds (s : Style) (g : Graph) (w : Workspace) (id : NodeId) (d : Declaration)
    (w' : Workspace) : Prop where
  fresh : w.registry.get? id = none
  unused : d.name ∉ w.registry.used
  declares : s.declare g w.registry d.name (s.typeDocstring d.name (g.node id)) id = .ok d
  names : w'.registry.names = (id, d.name) :: w.registry.names
  used : w'.registry.used = d.name :: d.name :: w.registry.used
  base : w'.base = w.base ++ [d]

theorem Adds.get? {id : NodeId} {d : Declaration} (h : Adds s g w id d w') (x : NodeId) :
    w'.registry.get? x = if x = id then some d.name else w.registry.get? x := by
  rw [← Registry.get?_register, Registry.get?, h.names]
  rfl

theorem Adds.get?_mono {id : NodeId} {d : Declaration} (h : Adds s g w id d w') {x : NodeId}
    {name : String} (hx : w.registry.get? x = some name) : w'.registry.get? x = some name := by
  have hne : x ≠ id := by
    rintro rfl
    rw [h.fresh] at hx
    cases hx
  rw [h.get?, if_neg hne, hx]

/-- An object is declared, or one of its properties has no type. -/
theorem ends_declareObject {path : List String} {id : NodeId} {Q : Unit → Workspace → Prop}
    (fresh : w.registry.get? id = none) (ok : ∀ d w', Adds s g w id d w' → Q () w')
    (error : ∀ f c r, (∀ x, r.get? x = w.registry.get? x) → c ∈ g.members id →
      resolveType s.types g r c (g.nullAllowed c) = .error f → E f) :
    Ends (declareObject s g path id) w Q E := by
  unfold declareObject
  rw [ends_bind]
  refine ends_claim fun w₁ hreg₁ hbase₁ => ?_
  rw [ends_bind]
  refine ends_declare (fun d w₂ hd hreg₂ hbase₂ => ?_) (fun f hf => ?_)
  · rw [ends_modify]
    have hname := (declare_ok hd).1
    rw [hreg₁] at hd
    rw [hreg₁] at hreg₂
    refine ok d _ ⟨fresh, ?_, ?_, ?_, ?_, ?_⟩
    · rw [hname]
      exact Registry.unusedName_not_mem _ _
    · rw [hname]
      exact declare_mono (fun x name hx => by rwa [Registry.get?_claim] at hx) hd
    · rw [hname]
      exact congrArg Registry.names hreg₂
    · rw [hname]
      exact congrArg Registry.used hreg₂
    · rw [← hbase₁, ← hbase₂]
  · obtain ⟨c, hc, hresolve⟩ := declare_error hf
    refine error f c _ (fun x => ?_) hc hresolve
    rw [hreg₁, Registry.get?_claim]

/-! ### Declaring nodes one after another -/

/-- A run of declarations, with the nodes that it declares in order. -/
inductive Grows (s : Style) (g : Graph) (w : Workspace) : List NodeId → Workspace → Prop
  | refl {w' : Workspace} (registry : w'.registry = w.registry) (base : w'.base = w.base) :
      Grows s g w [] w'
  | add {w' w'' : Workspace} {ids : List NodeId} {id : NodeId} {d : Declaration}
      (h : Grows s g w ids w') (hadds : Adds s g w' id d w'') : Grows s g w (ids ++ [id]) w''

variable {ids ids' : List NodeId}

/-- Only the registry and the declarations count. -/
theorem Grows.congr (h : Grows s g w ids w') (registry : w''.registry = w'.registry)
    (base : w''.base = w'.base) : Grows s g w ids w'' := by
  cases h with
  | refl hr hb => exact .refl (registry.trans hr) (base.trans hb)
  | add h hadds =>
    refine .add h ⟨hadds.fresh, hadds.unused, hadds.declares, ?_, ?_, base.trans hadds.base⟩
    · rw [registry, hadds.names]
    · rw [registry, hadds.used]

theorem Grows.trans (h : Grows s g w ids w') (h' : Grows s g w' ids' w'') :
    Grows s g w (ids ++ ids') w'' := by
  induction h' with
  | refl hr hb => rw [List.append_nil]; exact h.congr hr hb
  | add _ hadds ih => rw [← List.append_assoc]; exact .add ih hadds

/-- What holds before a run and is kept by every declaration holds after it. -/
theorem Grows.preserves {P : Registry → List Declaration → Prop} (h : Grows s g w ids w')
    (start : P w.registry w.base)
    (step : ∀ {w w' : Workspace} {id : NodeId} {d : Declaration}, Adds s g w id d w' →
      P w.registry w.base → P w'.registry w'.base) : P w'.registry w'.base := by
  induction h with
  | refl hr hb => rwa [hr, hb]
  | add _ hadds ih => exact step hadds ih

/-- After a run the nodes with names are those before it and those that it declares. -/
theorem Grows.contains_iff (h : Grows s g w ids w') (x : NodeId) :
    w'.registry.contains x = true ↔ w.registry.contains x = true ∨ x ∈ ids := by
  induction h with
  | refl hr _ => rw [hr]; simp
  | @add _ _ _ id d _ hadds ih =>
    rw [Registry.contains, hadds.get?]
    by_cases hx : x = id
    · subst hx
      simp
    · rw [if_neg hx, ← Registry.contains, ih]
      simp [hx]

/-- A run declares no node twice. -/
theorem Grows.nodup (h : Grows s g w ids w') : ids.Nodup := by
  induction h with
  | refl _ _ => exact .nil
  | @add _ _ ids id _ h hadds ih =>
    have hnew : id ∉ ids := fun hmem => by
      have := (h.contains_iff id).2 (Or.inr hmem)
      rw [Registry.contains, hadds.fresh] at this
      cases this
    exact ih.append (List.nodup_singleton id) (by simpa using hnew)

/-- The declaration of a node under the names of a registry. -/
def DeclaredAs (s : Style) (g : Graph) (r : Registry) (id : NodeId) (d : Declaration) : Prop :=
  r.get? id = some d.name ∧
    s.declare g r d.name (s.typeDocstring d.name (g.node id)) id = .ok d

/-- A run puts one declaration for each of its nodes behind those before it. -/
theorem Grows.base (h : Grows s g w ids w') :
    ∃ ds, w'.base = w.base ++ ds ∧ List.Forall₂ (DeclaredAs s g w'.registry) ids ds := by
  induction h with
  | refl _ hb => exact ⟨[], by rw [hb, List.append_nil], .nil⟩
  | @add _ _ _ _ d _ hadds ih =>
    obtain ⟨ds, hds, hall⟩ := ih
    refine ⟨ds ++ [d], by rw [hadds.base, hds, List.append_assoc], ?_⟩
    refine List.rel_append (hall.imp fun x e hx => ?_) (.cons ⟨?_, ?_⟩ .nil)
    · exact ⟨hadds.get?_mono hx.1, declare_mono (fun _ _ => hadds.get?_mono) hx.2⟩
    · rw [hadds.get?, if_pos rfl]
    · exact declare_mono (fun _ _ => hadds.get?_mono) hadds.declares

/-- The names of declarations, and others beside them, are different and in use. -/
def Distinct (reserved : List String) (r : Registry) (base : List Declaration) : Prop :=
  (base.map (·.name) ++ reserved).Nodup ∧ base.map (·.name) ++ reserved ⊆ r.used

theorem Grows.distinct {reserved : List String} (h : Grows s g w ids w')
    (start : Distinct reserved w.registry w.base) : Distinct reserved w'.registry w'.base := by
  refine h.preserves start ?_
  rintro w w' id d hadds ⟨hnodup, hused⟩
  have hperm : (w'.base.map (·.name) ++ reserved).Perm
      (d.name :: (w.base.map (·.name) ++ reserved)) := by
    rw [hadds.base, List.map_append, List.append_assoc]
    exact List.perm_middle
  refine ⟨hperm.nodup_iff.2 (List.nodup_cons.2 ⟨fun hmem => hadds.unused (hused hmem), hnodup⟩), ?_⟩
  intro n hn
  rw [hadds.used]
  rcases List.mem_cons.1 (hperm.subset hn) with rfl | hn
  · simp
  · simp [hused hn]

/-! ### Types of fields -/

/-- Whether a type expression is made of a basic type, the unknown type or the name of one of some
declarations. -/
def Known (s : Style) (ds : List Declaration) (type : String) : Prop :=
  ∃ core, Marked core type ∧
    (core ∈ s.types.primitives ∨ core = s.types.unknown.display ∨ ∃ d ∈ ds, d.name = core)

/-- The type of a field is made of a basic type, the unknown type or the name of an object that a
property leads to. -/
theorem marked_of_declare {r : Registry} {name docstring : String} {id : NodeId} {d : Declaration}
    (h : s.declare g r name docstring id = .ok d) :
    ∀ f ∈ d.fields, ∃ core, Marked core f.type ∧
      (core ∈ s.types.primitives ∨ core = s.types.unknown.display ∨
        ∃ c ∈ g.members id, ∃ x, ReflTransGen g.Enters (g.target c) x ∧ r.get? x = some core) := by
  intro f hf
  obtain ⟨-, -, hfields⟩ := declare_ok h
  obtain ⟨p, hp, t, ht, htype⟩ := exists_of_forall₂ hfields hf
  obtain ⟨core, hmarked, hcore⟩ := marked_of_resolveFrom ht
  exact ⟨core, htype ▸ hmarked, hcore.imp_right (Or.imp_right fun hx =>
    ⟨p.2, List.mem_map_of_mem hp, hx⟩)⟩

/-- The fields of a declaration have known types if the names of all objects that its properties
lead to are declared. -/
theorem known_of_declare {r : Registry} {name docstring : String} {id : NodeId} {d : Declaration}
    {ds : List Declaration} (h : s.declare g r name docstring id = .ok d)
    (hds : ∀ c ∈ g.members id, ∀ x, ReflTransGen g.Enters (g.target c) x →
      ∀ name, r.get? x = some name → ∃ d ∈ ds, d.name = name) :
    ∀ f ∈ d.fields, Known s ds f.type := by
  intro f hf
  obtain ⟨core, hmarked, hcore⟩ := marked_of_declare h f hf
  refine ⟨core, hmarked, hcore.imp_right (Or.imp_right ?_)⟩
  rintro ⟨c, hc, x, hx, hname⟩
  exact hds c hc x hx core hname

/-- Every declaration uses types that are declared before it. -/
def Ordered (s : Style) (base : List Declaration) : Prop :=
  ∀ i d, base[i]? = some d → ∀ f ∈ d.fields, Known s (base.take i) f.type

theorem Ordered.concat {base : List Declaration} {d : Declaration} (h : Ordered s base)
    (hd : ∀ f ∈ d.fields, Known s base f.type) : Ordered s (base ++ [d]) := by
  intro i e he
  rcases Nat.lt_trichotomy i base.length with hi | rfl | hi
  · rw [List.getElem?_append_left hi] at he
    rw [List.take_append_of_le_length hi.le]
    exact h i e he
  · simp only [List.getElem?_concat_length, Option.some.injEq] at he
    subst he
    simpa using hd
  · rw [List.getElem?_eq_none (by simp; omega)] at he
    cases he

/-- The declarations of a run are in order, and all names are names of declarations. -/
theorem Grows.ordered (h : Grows s g w ids w') (hnames : w.registry.names = [])
    (hbase : w.base = []) :
    (∀ x name, w'.registry.get? x = some name → ∃ d ∈ w'.base, d.name = name) ∧
      Ordered s w'.base := by
  refine h.preserves (P := fun r base =>
    (∀ x name, r.get? x = some name → ∃ d ∈ base, d.name = name) ∧ Ordered s base) ?_ ?_
  · constructor
    · intro x name hx
      rw [Registry.get?, hnames] at hx
      cases hx
    · intro i d hd
      rw [hbase] at hd
      cases hd
  · rintro w w' id d hadds ⟨hdeclared, hordered⟩
    rw [hadds.base]
    constructor
    · intro x name hx
      rw [hadds.get?] at hx
      split_ifs at hx
      · cases hx
        exact ⟨d, by simp, rfl⟩
      · obtain ⟨e, he, hname⟩ := hdeclared x name hx
        exact ⟨e, by simp [he], hname⟩
    · exact hordered.concat
        (known_of_declare hadds.declares fun c _ x _ name hx => hdeclared x name hx)

end StructGen.Go
