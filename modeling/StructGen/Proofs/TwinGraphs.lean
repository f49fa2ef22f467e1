import StructGen.Proofs.Discovery
import Mathlib.Data.List.Forall2
import Mathlib.Data.Option.Defs

/-!
# Graphs that compile alike

Compiling looks at some nodes of a graph and at some of what they say. Two documents are twins if
their nodes are related so that related nodes say the same to compiling, whatever their numbers are.
Compiling one of them then follows compiling the other step by step, and gives the same
declarations.

* `Follows` says that one computation succeeds where another one does, with related results;
* `Document.Twins` relates two documents by their nodes;
* `follows_discoverFrom` is about walking through related nodes;
* `compile_of_twins` is the result.
-/

namespace StructGen

/-! ### Two computations -/

section Follows

variable {ε σ α α' β β' : Type}

/-- Where `x` succeeds from `s`, so does `y` from `t`, and `Q` holds of the two results and the two
states after them. -/
def Follows (x : EStateM ε σ α) (y : EStateM ε σ β) (s t : σ) (Q : α → β → σ → σ → Prop) : Prop :=
  ∀ a s', x s = .ok a s' → ∃ b t', y t = .ok b t' ∧ Q a b s' t'

variable {x : EStateM ε σ α} {y : EStateM ε σ β} {s t : σ} {Q : α → β → σ → σ → Prop}

theorem follows_pure {a : α} {b : β} (h : Q a b s t) :
    Follows (pure a : EStateM ε σ α) (pure b) s t Q := by
  rintro _ _ ⟨⟩
  exact ⟨b, t, rfl, h⟩

theorem follows_throw (e : ε) : Follows (throw e) y s t Q := by
  rintro _ _ ⟨⟩

theorem follows_get_bind {f : σ → EStateM ε σ α} {h : σ → EStateM ε σ β}
    (hfh : Follows (f s) (h t) s t Q) : Follows (get >>= f) (get >>= h) s t Q := hfh

theorem follows_modify {Q : PUnit → PUnit → σ → σ → Prop} {f h : σ → σ}
    (hq : Q ⟨⟩ ⟨⟩ (f s) (h t)) :
    Follows (modify f : EStateM ε σ PUnit) (modify h) s t Q := by
  rintro _ _ ⟨⟩
  exact ⟨⟨⟩, h t, rfl, hq⟩

/-- It is enough that the second computation does not fail where the first one succeeds. -/
theorem Ends.follows
    (h : Ends x s (fun a s' => Ends y t (fun b t' => Q a b s' t') fun _ => False) fun _ => True) :
    Follows x y s t Q := by
  intro a s' ha
  have h' := h.of_ok ha
  unfold Ends at h'
  split at h'
  · exact ⟨_, _, ‹_›, h'⟩
  · exact h'.elim

theorem Follows.bind {P : α → β → σ → σ → Prop} {f : α → EStateM ε σ α'} {h : β → EStateM ε σ β'}
    {Q : α' → β' → σ → σ → Prop} (hxy : Follows x y s t P)
    (hfh : ∀ a b s' t', P a b s' t' → Follows (f a) (h b) s' t' Q) :
    Follows (x >>= f) (y >>= h) s t Q := by
  intro c s'' hc
  change EStateM.bind x f s = _ at hc
  unfold EStateM.bind at hc
  cases hx : x s with
  | error e s' =>
    rw [hx] at hc
    cases hc
  | ok a s' =>
    rw [hx] at hc
    obtain ⟨b, t', hy, hab⟩ := hxy a s' hx
    obtain ⟨c', t'', hy', hc'⟩ := hfh a b s' t' hab c s'' hc
    refine ⟨c', t'', ?_, hc'⟩
    change EStateM.bind y h t = _
    unfold EStateM.bind
    rw [hy]
    exact hy'

/-- Doing something for the items of two lists: `I` holds of the states in between. -/
theorem follows_forM {P : α → β → Prop} {I : σ → σ → Prop} {l : List α} {l' : List β}
    {f : α → EStateM ε σ PUnit} {h : β → EStateM ε σ PUnit} (hl : List.Forall₂ P l l')
    (hfh : ∀ a b s t, P a b → I s t → Follows (f a) (h b) s t fun _ _ => I) (hst : I s t) :
    Follows (l.forM f) (l'.forM h) s t fun _ _ => I := by
  induction hl generalizing s t with
  | nil => exact follows_pure hst
  | cons hab _ ih => exact (hfh _ _ s t hab hst).bind fun _ _ s' t' hst' => ih hst'

/-- Computing results for the items of two lists, which are the same. -/
theorem follows_mapM {P : α → β → Prop} {I : σ → σ → Prop} {l : List α} {l' : List β}
    {f : α → EStateM ε σ α'} {h : β → EStateM ε σ α'} (hl : List.Forall₂ P l l')
    (hfh : ∀ a b s t, P a b → I s t → Follows (f a) (h b) s t fun c c' s' t' => c = c' ∧ I s' t')
    (hst : I s t) :
    Follows (l.mapM f) (l'.mapM h) s t fun cs cs' s' t' => cs = cs' ∧ I s' t' := by
  induction hl generalizing s t with
  | nil => exact follows_pure ⟨rfl, hst⟩
  | cons hab _ ih =>
    simp only [List.mapM_cons]
    refine (hfh _ _ s t hab hst).bind ?_
    rintro c _ s₁ t₁ ⟨rfl, hst₁⟩
    refine (ih hst₁).bind ?_
    rintro cs _ s₂ t₂ ⟨rfl, hst₂⟩
    exact follows_pure ⟨rfl, hst₂⟩

/-- Folding two lists, to the same value. -/
theorem follows_foldlM {P : α → β → Prop} {I : σ → σ → Prop} {l : List α} {l' : List β}
    {f : α' → α → EStateM ε σ α'} {h : α' → β → EStateM ε σ α'} {c : α'}
    (hl : List.Forall₂ P l l')
    (hfh : ∀ c a b s t, P a b → I s t →
      Follows (f c a) (h c b) s t fun c c' s' t' => c = c' ∧ I s' t')
    (hst : I s t) :
    Follows (l.foldlM f c) (l'.foldlM h c) s t fun c c' s' t' => c = c' ∧ I s' t' := by
  induction hl generalizing s t c with
  | nil => exact follows_pure ⟨rfl, hst⟩
  | cons hab _ ih =>
    simp only [List.foldlM_cons]
    refine (hfh c _ _ s t hab hst).bind ?_
    rintro c₁ _ s₁ t₁ ⟨rfl, hst₁⟩
    exact ih hst₁

end Follows

theorem mapM_eq_ok_of_forall₂ {ε α β γ : Type} {P : α → β → Prop} {f : α → Except ε γ}
    {h : β → Except ε γ} {l : List α} {l' : List β} {cs : List γ} (hl : List.Forall₂ P l l')
    (hfh : ∀ a b c, P a b → f a = .ok c → h b = .ok c) (hcs : l.mapM f = .ok cs) :
    l'.mapM h = .ok cs := by
  rw [mapM_eq_ok] at hcs ⊢
  induction hl generalizing cs with
  | nil =>
    rw [List.forall₂_nil_left_iff] at hcs ⊢
    exact hcs
  | cons hab _ ih =>
    obtain ⟨c, cs', hc, hcs', rfl⟩ := List.forall₂_cons_left_iff.1 hcs
    exact .cons (hfh _ _ c hab hc) (ih hcs')

theorem optionRel_cases {α β : Type} {R : α → β → Prop} {a : Option α} {b : Option β}
    (h : Option.Rel R a b) : a = none ∧ b = none ∨ ∃ x y, a = some x ∧ b = some y ∧ R x y := by
  cases h with
  | none => exact Or.inl ⟨rfl, rfl⟩
  | some h => exact Or.inr ⟨_, _, rfl, rfl, h⟩

/-! ### Twins -/

namespace Schema

variable {R : NodeId → NodeId → Prop}

/-- Two lists of properties have the same names and related nodes. -/
abbrev TwinProperties (R : NodeId → NodeId → Prop) (ps qs : List (String × NodeId)) : Prop :=
  List.Forall₂ (fun p q => p.1 = q.1 ∧ R p.2 q.2) ps qs

/-- Two nodes say the same to compiling, the nodes inside them being related. -/
structure Node.Twins (R : NodeId → NodeId → Prop) (n n' : Node) : Prop where
  tag : ∀ name, n.primaryType = some (.str name) ↔ n'.primaryType = some (.str name)
  null : n.types.contains (.str "null") = n'.types.contains (.str "null")
  description : n.description = n'.description
  required : ∀ name, n.isRequired name = n'.isRequired name
  properties : n.primaryType = some (.str "object") →
    TwinProperties R n.sortedProperties n'.sortedProperties
  items : n.primaryType = some (.str "array") → Option.Rel R n.items n'.items

/-- The nodes of two graphs are related one to one, and related nodes say the same to compiling. -/
structure Graph.Twins (R : NodeId → NodeId → Prop) (g g' : Graph) : Prop where
  size : g.size = g'.size
  unique : ∀ {x x' y y'}, R x x' → R y y' → (x = y ↔ x' = y')
  node : ∀ {x x'}, R x x' → Node.Twins R (g.node x) (g'.node x')
  target : ∀ {x x'}, R x x' → R (g.target x) (g'.target x')
  place : ∀ {x x'}, R x x' → Option.Rel (fun t t' => (g.node t).pointer = (g'.node t').pointer)
    (g.node x).ref (g'.node x').ref

/-- Two messages of two documents say the same to compiling. -/
structure Message.Twins (R : NodeId → NodeId → Prop) (d d' : Document) (m m' : Message) :
    Prop where
  type : m.type = m'.type
  version : m.version = m'.version
  major : m.major = m'.major
  isObject : d.isObjectMessage m = true → d'.isObjectMessage m' = true
  unique : ∀ {x x'}, R x x' → (x = m.node ↔ x' = m'.node)
  properties : TwinProperties R (d.graph.node m.node).sortedProperties
    (d'.graph.node m'.node).sortedProperties
  required : ∀ name, (d.graph.node m.node).isRequired name = (d'.graph.node m'.node).isRequired name

/-- Two documents say the same to compiling. -/
structure Document.Twins (R : NodeId → NodeId → Prop) (d d' : Document) : Prop where
  id : d.id = d'.id
  graph : Graph.Twins R d.graph d'.graph
  messages : List.Forall₂ (Message.Twins R d d') d.messages d'.messages

namespace Graph.Twins

variable {g g' : Graph} {x x' : NodeId}

theorem isObject (h : Graph.Twins R g g') (hx : R x x') : g.IsObject x ↔ g'.IsObject x' :=
  (h.node hx).tag _

theorem isArray (h : Graph.Twins R g g') (hx : R x x') : g.IsArray x ↔ g'.IsArray x' :=
  (h.node hx).tag _

theorem nullAllowed (h : Graph.Twins R g g') (hx : R x x') :
    g.nullAllowed x = g'.nullAllowed x' := (h.node (h.target hx)).null

theorem mem_iff (h : Graph.Twins R g g') (hx : R x x') {ids ids' : List NodeId}
    (hids : List.Forall₂ R ids ids') : x ∈ ids ↔ x' ∈ ids' := by
  induction hids with
  | nil => simp
  | cons hy _ ih => rw [List.mem_cons, List.mem_cons, h.unique hx hy, ih]

end Graph.Twins

theorem Document.Twins.messageTypes {d d' : Document} (h : Document.Twins R d d') :
    d.messageTypes = d'.messageTypes := by
  have htypes : d.messages.map (·.type) = d'.messages.map (·.type) := by
    have hl := h.messages
    generalize d.messages = ms at hl
    generalize d'.messages = ms' at hl
    induction hl with
    | nil => rfl
    | cons hm _ ih => rw [List.map_cons, List.map_cons, hm.type, ih]
  rw [Document.messageTypes, Document.messageTypes, htypes]

theorem Document.Twins.isVersioned {d d' : Document} (h : Document.Twins R d d') (type : String) :
    d.isVersioned type = d'.isVersioned type := by
  have hmajors : (d.messages.filter (·.type == type)).map (·.major) =
      (d'.messages.filter (·.type == type)).map (·.major) := by
    have hl := h.messages
    generalize d.messages = ms at hl
    generalize d'.messages = ms' at hl
    induction hl with
    | nil => rfl
    | cons hm _ ih =>
      rw [List.filter_cons, List.filter_cons, hm.type]
      split_ifs
      · rw [List.map_cons, List.map_cons, hm.major, ih]
      · exact ih
  rw [Document.isVersioned, Document.isVersioned, Document.majors, Document.majors, hmajors]

end Schema

namespace Go

open Schema (NodeId Node Graph Message Document TwinProperties)

variable {R : NodeId → NodeId → Prop} {g g' : Graph} {r r' : Registry} {id id' : NodeId}
  {s : Style}

/-! ### Types and declarations -/

/-- Two registries have the same names for related nodes. -/
def TwinNames (R : NodeId → NodeId → Prop) (r r' : Registry) : Prop :=
  ∀ x x', R x x' → r.get? x = r'.get? x'

/-- A basic type is told by the tag alone. -/
theorem resolveFrom_eq_of_tag {names : TypeNames} {fuel : Nat} {nullable : Bool} {tag : String}
    (htag : tag ∈ ["integer", "string", "boolean", "number"])
    (h : (g.node (g.target id)).primaryType = some (.str tag))
    (h' : (g'.node (g'.target id')).primaryType = some (.str tag)) :
    resolveFrom names g r (fuel + 1) id nullable =
      resolveFrom names g' r' (fuel + 1) id' nullable := by
  obtain ⟨spelling, hs, -⟩ := basic?_of_mem names htag
  rw [resolveFrom_primitive h hs, resolveFrom_primitive h' hs]

/-- Related nodes have the same type. -/
theorem resolveFrom_of_twins {names : TypeNames} {fuel : Nat} {nullable : Bool} {t : GoType}
    (hg : Graph.Twins R g g') (hr : TwinNames R r r') (hid : R id id')
    (h : resolveFrom names g r fuel id nullable = .ok t) :
    resolveFrom names g' r' fuel id' nullable = .ok t := by
  induction fuel generalizing id id' nullable t with
  | zero => cases h
  | succ fuel ih =>
    have htarget := hg.target hid
    rcases resolveFrom_ok_cases h with
      ⟨ho, name, hname, rfl⟩ | ⟨ha, hc, rfl⟩ | ⟨c, t', ha, hc, hitem, rfl⟩ | ⟨⟨tag, htag, hb⟩, -⟩
    · rw [hr _ _ htarget] at hname
      exact resolveFrom_object ((hg.isObject htarget).1 ho) hname
    · rcases optionRel_cases ((hg.node htarget).items ha) with ⟨-, hc'⟩ | ⟨_, _, hc', -, -⟩
      · exact resolveFrom_bare ((hg.isArray htarget).1 ha) hc'
      · cases hc.symm.trans hc'
    · rcases optionRel_cases ((hg.node htarget).items ha) with ⟨hc', -⟩ | ⟨_, c', hc₁, hc', hcc'⟩
      · cases hc.symm.trans hc'
      · cases hc.symm.trans hc₁
        rw [resolveFrom_items ((hg.isArray htarget).1 ha) hc', ih hcc' hitem]
        rfl
    · rw [← resolveFrom_eq_of_tag htag hb (((hg.node htarget).tag tag).1 hb)]
      exact h

/-- Related nodes have the same declaration. -/
theorem declare_of_twins {name docstring : String} {e : Declaration} (hg : Graph.Twins R g g')
    (hr : TwinNames R r r')
    (hproperties : TwinProperties R (g.node id).sortedProperties (g'.node id').sortedProperties)
    (hrequired : ∀ name, (g.node id).isRequired name = (g'.node id').isRequired name)
    (h : s.declare g r name docstring id = .ok e) :
    s.declare g' r' name docstring id' = .ok e := by
  unfold Style.declare at h ⊢
  obtain ⟨fields, hfields, h⟩ := bind_eq_ok.1 h
  refine bind_eq_ok.2 ⟨fields, mapM_eq_ok_of_forall₂ hproperties ?_ hfields, h⟩
  rintro ⟨property, x⟩ ⟨_, x'⟩ f ⟨rfl, hx⟩ hf
  dsimp only [Style.field] at hf ⊢
  obtain ⟨t, ht, hf⟩ := bind_eq_ok.1 hf
  refine bind_eq_ok.2 ⟨t, ?_, ?_⟩
  · rw [resolveType, ← hg.size, ← hg.nullAllowed hx]
    exact resolveFrom_of_twins hg hr hx ht
  · rw [← hf, hrequired, Style.shownDescription, Style.shownDescription, (hg.node hx).description]

/-! ### Steps of compiling -/

/-- Two workspaces have the same declarations, and the same names for related nodes. -/
structure Workspace.Twins (R : NodeId → NodeId → Prop) (w v : Workspace) : Prop where
  used : w.registry.used = v.registry.used
  base : w.base = v.base
  names : TwinNames R w.registry v.registry

section Steps

variable {w v : Workspace} {name docstring : String}

theorem follows_lift {α β : Type} {x : Except Failure α} {y : Except Failure β}
    {Q : α → β → Workspace → Workspace → Prop}
    (h : ∀ a, x = .ok a → ∃ b, y = .ok b ∧ Q a b w v) :
    Follows (Compile.lift x) (Compile.lift y) w v Q := by
  cases x with
  | error f => exact follows_throw f
  | ok a =>
    obtain ⟨b, rfl, hq⟩ := h a rfl
    exact follows_pure hq

theorem follows_note (n n' : Notice) (h : Workspace.Twins R w v) :
    Follows (Compile.note n) (Compile.note n') w v fun _ _ => Workspace.Twins R :=
  follows_modify ⟨h.used, h.base, h.names⟩

theorem follows_claim (name : String) (h : Workspace.Twins R w v) :
    Follows (Compile.claim name) (Compile.claim name) w v
      fun given given' w' v' => given = given' ∧ Workspace.Twins R w' v' := by
  have hgiven : w.registry.unusedName name = v.registry.unusedName name := by
    rw [Registry.unusedName, Registry.unusedName, h.used]
  refine Ends.follows (ends_claim fun w' hreg hbase => ends_claim fun v' hreg' hbase' =>
    ⟨hgiven, ?_, ?_, fun x x' hx => ?_⟩)
  · rw [hreg, hreg', Registry.claim, Registry.claim, hgiven, h.used]
  · rw [hbase, hbase', h.base]
  · rw [hreg, hreg', Registry.get?_claim, Registry.get?_claim, h.names x x' hx]

theorem follows_declare (hg : Graph.Twins R g g') (h : Workspace.Twins R w v)
    (hid : ∀ {x x'}, R x x' → (x = id ↔ x' = id'))
    (hproperties : TwinProperties R (g.node id).sortedProperties (g'.node id').sortedProperties)
    (hrequired : ∀ name, (g.node id).isRequired name = (g'.node id').isRequired name) :
    Follows (Compile.declare s g name docstring id) (Compile.declare s g' name docstring id') w v
      fun e e' w' v' => e = e' ∧ Workspace.Twins R w' v' := by
  refine Ends.follows (ends_declare (fun e w' he hreg hbase => ?_) fun _ _ => trivial)
  have he' := declare_of_twins hg h.names hproperties hrequired he
  refine ends_declare (fun e' v' hdeclare hreg' hbase' => ⟨?_, ?_, ?_, fun x x' hx => ?_⟩)
    fun f hf => ?_
  · exact Except.ok.inj (he'.symm.trans hdeclare)
  · rw [hreg, hreg', Registry.register, Registry.register, h.used]
  · rw [hbase, hbase', h.base]
  · rw [hreg, hreg', Registry.get?_register, Registry.get?_register, h.names x x' hx]
    exact if_congr (hid hx) rfl rfl
  · rw [he'] at hf
    cases hf

theorem follows_declareObject {path : List String} (hg : Graph.Twins R g g')
    (h : Workspace.Twins R w v) (hid : R id id') (ho : g.IsObject id) :
    Follows (declareObject s g path id) (declareObject s g' path id') w v
      fun _ _ => Workspace.Twins R := by
  have hnode := hg.node hid
  unfold declareObject
  refine (follows_claim _ h).bind ?_
  rintro name _ w₁ v₁ ⟨rfl, h₁⟩
  have hdocstring : s.typeDocstring name (g'.node id') = s.typeDocstring name (g.node id) := by
    simp only [Style.typeDocstring, Style.shownDescription, hnode.description]
  rw [hdocstring]
  refine (follows_declare hg h₁ (fun hx => hg.unique hx hid) (hnode.properties ho)
    hnode.required).bind ?_
  rintro e _ w₂ v₂ ⟨rfl, h₂⟩
  refine follows_modify ⟨h₂.used, ?_, h₂.names⟩
  rw [h₂.base]

end Steps

/-! ### Discovering -/

section Discovering

variable {w v : Workspace} {fuel : Nat} {visiting visiting' : List NodeId} {path : List String}

/-- A step at a target follows the step at a related one, if the walks from there do. -/
theorem follows_discoverTarget (hg : Graph.Twins R g g')
    (hvisiting : List.Forall₂ R visiting visiting') (hid : R id id') (h : Workspace.Twins R w v)
    (hfrom : ∀ {visiting visiting' path c c' w v}, List.Forall₂ R visiting visiting' → R c c' →
      Workspace.Twins R w v → Follows (discoverFrom s g fuel visiting path c)
        (discoverFrom s g' fuel visiting' path c') w v fun _ _ => Workspace.Twins R) :
    Follows (discoverTarget s g fuel visiting path id) (discoverTarget s g' fuel visiting' path id')
      w v fun _ _ => Workspace.Twins R := by
  have hnode := hg.node hid
  unfold discoverTarget
  refine follows_get_bind ?_
  have hcontains : w.registry.contains id = v.registry.contains id' := by
    rw [Registry.contains, Registry.contains, h.names id id' hid]
  have hvisits : visiting.contains id = visiting'.contains id' := by
    rw [Bool.eq_iff_iff, List.contains_iff_mem, List.contains_iff_mem]
    exact hg.mem_iff hid hvisiting
  simp only [hcontains, hvisits, hnode.tag]
  split_ifs with hnew ho hvisit ha
  · exact follows_throw _
  · have ho' := (hnode.tag "object").2 ho
    refine (follows_forM (hnode.properties ho') ?_ h).bind fun _ _ w₁ v₁ h₁ =>
      follows_declareObject hg h₁ hid ho'
    rintro ⟨property, c⟩ ⟨_, c'⟩ w₁ v₁ ⟨rfl, hc⟩ h₁
    exact hfrom (.cons hid hvisiting) hc h₁
  · rcases optionRel_cases (hnode.items ((hnode.tag "array").2 ha)) with
      ⟨hc, hc'⟩ | ⟨c, c', hc, hc', hcc'⟩
    · rw [hc, hc']
      exact follows_pure h
    · rw [hc, hc']
      exact hfrom hvisiting hcc' h
  · exact follows_pure h
  · exact follows_pure h

/-- **Walking through one graph follows walking through the other.** -/
theorem follows_discoverFrom (hg : Graph.Twins R g g')
    (hvisiting : List.Forall₂ R visiting visiting') (hid : R id id') (h : Workspace.Twins R w v) :
    Follows (discoverFrom s g fuel visiting path id) (discoverFrom s g' fuel visiting' path id')
      w v fun _ _ => Workspace.Twins R := by
  induction fuel generalizing visiting visiting' path id id' w v with
  | zero => exact follows_throw _
  | succ fuel ih =>
    rcases optionRel_cases (hg.place hid) with ⟨href, href'⟩ | ⟨t, t', href, href', hpointer⟩
    · rw [discoverFrom_of_none href, discoverFrom_of_none href']
      exact follows_discoverTarget hg hvisiting (hg.target hid) h ih
    · rw [discoverFrom_of_ref href, discoverFrom_of_ref href', ← hpointer]
      refine (follows_lift (Q := fun a b w' v' => a = b ∧ Workspace.Twins R w' v')
        fun path hpath => ⟨path, hpath, rfl, h⟩).bind ?_
      rintro path _ w₁ v₁ ⟨rfl, h₁⟩
      exact follows_discoverTarget hg hvisiting (hg.target hid) h₁ ih

end Discovering

/-! ### Compiling -/

section Compiling

variable {d d' : Document} {m m' : Message} {w v : Workspace} {name : String}

theorem key_of_twins (hm : Message.Twins R d d' m m') : m.key = m'.key := by
  rw [Message.key, Message.key, hm.type, hm.version]

theorem follows_nameMessage (names : List (String × String)) (hd : Document.Twins R d d') (hm : Message.Twins R d d' m m')
    (h : Workspace.Twins R w v) :
    Follows (nameMessage s d names m) (nameMessage s d' names m') w v
      fun names names' w' v' => names = names' ∧ Workspace.Twins R w' v' := by
  unfold nameMessage
  rw [hm.type, hm.major, hd.isVersioned, key_of_twins hm]
  refine (follows_lift (Q := fun a b w' v' => a = b ∧ Workspace.Twins R w' v')
    fun name hname => ⟨name, hname, rfl, h⟩).bind ?_
  rintro name _ w₁ v₁ ⟨rfl, h₁⟩
  refine (follows_claim name h₁).bind ?_
  rintro given _ w₂ v₂ ⟨rfl, h₂⟩
  exact follows_pure ⟨rfl, h₂⟩

theorem follows_discoverMessage (hd : Document.Twins R d d') (hm : Message.Twins R d d' m m')
    (h : Workspace.Twins R w v) :
    Follows (discoverMessage s d.graph name m) (discoverMessage s d'.graph name m') w v
      fun _ _ => Workspace.Twins R := by
  have hcheck : ∀ (d : Document) (m : Message), (!(d.graph.node m.node).types.isEmpty &&
      (d.graph.node m.node).types != [.str "object"]) = !d.isObjectMessage m := by
    simp [Document.isObjectMessage, bne]
  unfold discoverMessage
  dsimp only
  rw [hcheck, hcheck]
  cases hvalid : d.isObjectMessage m with
  | false => exact follows_throw _
  | true =>
    rw [hm.isObject hvalid]
    refine (follows_note _ _ h).bind fun _ _ w₁ v₁ h₁ => follows_forM hm.properties ?_ h₁
    rintro ⟨property, c⟩ ⟨_, c'⟩ w₂ v₂ ⟨rfl, hc⟩ h₂
    unfold discover
    rw [← hd.graph.size]
    exact follows_discoverFrom hd.graph .nil hc h₂

theorem follows_declareMessage (hd : Document.Twins R d d') (hm : Message.Twins R d d' m m')
    (h : Workspace.Twins R w v) :
    Follows (declareMessage s d.graph name m) (declareMessage s d'.graph name m') w v
      fun e e' w' v' => e = e' ∧ Workspace.Twins R w' v' := by
  unfold declareMessage
  rw [hm.type, hm.version]
  exact follows_declare hd.graph h hm.unique hm.properties hm.required

theorem follows_compileDocument (hd : Document.Twins R d d') (h : Workspace.Twins R w v) :
    Follows (compileDocument s d) (compileDocument s d') w v fun c c' _ _ => c = c' := by
  unfold compileDocument
  refine (follows_foldlM hd.messages (fun names _ _ _ _ hm h => follows_nameMessage names hd hm h) h).bind ?_
  rintro names _ w₁ v₁ ⟨rfl, h₁⟩
  refine (follows_forM hd.messages (fun m m' w v hm h => ?_) h₁).bind fun _ _ w₂ v₂ h₂ => ?_
  · dsimp only
    rw [key_of_twins hm]
    exact follows_discoverMessage hd hm h
  refine follows_get_bind ((follows_mapM hd.messages (fun m m' w v hm h => ?_) h₂).bind ?_)
  · dsimp only
    rw [key_of_twins hm]
    exact follows_declareMessage hd hm h
  rintro messages _ w₃ v₃ ⟨rfl, h₃⟩
  refine (follows_note _ _ h₃).bind fun _ _ w₄ v₄ _ => follows_pure ?_
  rw [h₂.base, hd.id]

/-- **Documents that say the same to compiling compile to the same.** -/
theorem compile_of_twins {c : Compiled} (hd : Document.Twins R d d')
    (h : (compile s d).1 = .ok c) : (compile s d').1 = .ok c := by
  unfold compile at h ⊢
  cases hrun : compileDocument s d {} with
  | error f w =>
    rw [hrun] at h
    cases h
  | ok c₁ w =>
    rw [hrun] at h
    cases h
    obtain ⟨c', v, hrun', rfl⟩ :=
      follows_compileDocument hd ⟨rfl, rfl, fun _ _ _ => rfl⟩ c w hrun
    rw [hrun']

end Compiling

end Go

end StructGen
