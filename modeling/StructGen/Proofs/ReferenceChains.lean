import StructGen.Proofs.FilledNodes
import StructGen.Proofs.Declarations

/-!
# Chains of references

A reference to a reference stands for what the last one of the chain refers to. The chain is cut
short when its end is not known yet: inside a schema that a reference leads to, that reference is
still to be filled in. So a node may refer to a reference, but only to one on a cycle, and that one
refers to a schema.

* `Graph.HasChild` leads from a node to those it refers to;
* `Graph.Collapsed` says where chains end, given the references that are still to be filled in;
* `Builds.collapsed` shows that reading keeps it;
* `reference_leads_to_schema` is what holds of documents.
-/

namespace StructGen.Schema

open Relation

namespace Graph

variable {g g' : Graph} {a c id s t x : NodeId} {n : Node} {pending : List NodeId}
  {pointer : String}

/-! ### Steps from node to node -/

/-- A node refers to another one: as its target, a property or its items. -/
def HasChild (g : Graph) (a c : NodeId) : Prop := c ∈ (g.node a).children

theorem HasChild.lt (h : g.HasChild a c) : a < g.size := by
  by_contra hlt
  rw [HasChild, node_of_size_le (Nat.le_of_not_lt hlt)] at h
  cases h

theorem hasChild_of_ref (h : (g.node a).ref = some c) : g.HasChild a c := by
  simp [HasChild, Node.children, h]

/-- Going to the target of a node takes a step or none. -/
theorem reaches_target (g : Graph) (a : NodeId) : ReflTransGen g.HasChild a (g.target a) := by
  rw [target]
  cases href : (g.node a).ref with
  | none => exact .refl
  | some c => exact .single (hasChild_of_ref href)

theorem GrowsTo.hasChild_le (h : g.GrowsTo g') : g.HasChild ≤ g'.HasChild := by
  intro a c hac
  rw [HasChild, h.node_eq hac.lt]
  exact hac

/-- Filling in a node that refers to nothing yet adds steps and takes none away. -/
theorem hasChild_le_set (hid : id < g.size) (hempty : g.node id = { pointer }) :
    g.HasChild ≤ (g.set id n).HasChild := by
  intro a c hac
  rw [HasChild, node_set _ _ _ hid]
  split_ifs with ha
  · rw [HasChild, ha, hempty] at hac
    cases hac
  · exact hac

/-! ### Where chains end -/

/-- A reference on a cycle, to a node that is no reference and will not become one. -/
def Looped (g : Graph) (pending : List NodeId) (t : NodeId) : Prop :=
  ∃ o, (g.node t).ref = some o ∧ (g.node o).ref = none ∧ o ∉ pending ∧ TransGen g.HasChild t t

/-- References are to nodes that are no references, or on a cycle. The references in `pending` are
still to be filled in. -/
def Collapsed (g : Graph) (pending : List NodeId) : Prop :=
  ∀ x t, (g.node x).ref = some t → (g.node t).ref = none ∨ g.Looped pending t

/-- A node leads back to a pending reference, and is that reference or will be none. -/
def LeadsBack (g : Graph) (pending : List NodeId) (a s : NodeId) : Prop :=
  ReflTransGen g.HasChild a s ∧ (a = s ∨ (g.node a).ref = none ∧ a ∉ pending)

theorem LeadsBack.growsTo (h : g.LeadsBack pending a s) (hgrows : g.GrowsTo g')
    (ha : a < g.size) : g'.LeadsBack pending a s := by
  refine ⟨ReflTransGen.mono hgrows.hasChild_le _ _ h.1, h.2.imp_right fun hnone => ?_⟩
  rwa [hgrows.node_eq ha]

theorem collapsed_empty : Collapsed {} [] := by
  intro x t ht
  cases ht

theorem Collapsed.push (h : g.Collapsed pending) (hg : g.RefsIn) {pending' : List NodeId}
    (hpending : ∀ s ∈ pending', s ∈ pending ∨ s = g.size) :
    (g.push { pointer }).Collapsed pending' := by
  have hgrows := Graph.growsTo_push g { pointer }
  intro x t ht
  rw [node_push] at ht
  split_ifs at ht
  rw [hgrows.node_eq (hg x t ht)]
  refine (h x t ht).imp_right ?_
  rintro ⟨o, ho, hnone, hpend, hloop⟩
  have holt := hg t o ho
  refine ⟨o, ?_, ?_, fun hmem => ?_, TransGen.mono hgrows.hasChild_le _ _ hloop⟩
  · rwa [hgrows.node_eq (hg x t ht)]
  · rwa [hgrows.node_eq holt]
  · rcases hpending o hmem with hmem | hmem
    · exact hpend hmem
    · exact absurd hmem (Nat.ne_of_lt holt)

/-- Filling in a node that is no reference changes no chain. -/
theorem Collapsed.set_schema (h : g.Collapsed pending) (hid : id < g.size)
    (hempty : g.node id = { pointer }) (hn : n.ref = none) :
    (g.set id n).Collapsed pending := by
  have href : ∀ y, ((g.set id n).node y).ref = (g.node y).ref := by
    intro y
    rw [node_set _ _ _ hid]
    split_ifs with hy
    · rw [hn, hy, hempty]
    · rfl
  intro x t ht
  rw [href] at ht ⊢
  refine (h x t ht).imp_right ?_
  rintro ⟨o, ho, hnone, hpend, hloop⟩
  refine ⟨o, ?_, ?_, hpend, TransGen.mono (hasChild_le_set hid hempty) _ _ hloop⟩
  · rwa [href]
  · rwa [href]

/-- Filling in a reference ends the chains that have waited for it: those come from inside its
target, which is no reference. -/
theorem Collapsed.set_reference (h : g.Collapsed (id :: pending)) (hid : id < g.size)
    (hempty : g.node id = { pointer }) (hne : g.target t ≠ id)
    (hback : ∀ x, (g.node x).ref = some id → g.LeadsBack (id :: pending) (g.target t) id) :
    (g.set id { pointer, ref := some (g.target t) }).Collapsed pending := by
  have hself : ((g.set id { pointer, ref := some (g.target t) }).node id).ref =
      some (g.target t) := by
    rw [node_set _ _ _ hid, if_pos rfl]
  have hother : ∀ y, y ≠ id → (g.set id { pointer, ref := some (g.target t) }).node y =
      g.node y := by
    intro y hy
    rw [node_set _ _ _ hid, if_neg hy]
  -- what is settled already and is another node stays settled
  have hsettled : ∀ u, u ≠ id → (g.node u).ref = none ∨ g.Looped (id :: pending) u →
      ((g.set id { pointer, ref := some (g.target t) }).node u).ref = none ∨
        (g.set id { pointer, ref := some (g.target t) }).Looped pending u := by
    intro u hu hsettled
    rw [hother u hu]
    refine hsettled.imp_right ?_
    rintro ⟨o, ho, hnone, hpend, hloop⟩
    rw [List.mem_cons, not_or] at hpend
    refine ⟨o, ?_, ?_, hpend.2, TransGen.mono (hasChild_le_set hid hempty) _ _ hloop⟩
    · rwa [hother u hu]
    · rwa [hother o hpend.1]
  intro x u hu
  by_cases hx : x = id
  · rw [hx, hself, Option.some.injEq] at hu
    subst hu
    refine hsettled _ hne ?_
    cases href : (g.node t).ref with
    | none => rw [target_of_none href]; exact Or.inl href
    | some u => rw [target_of_ref href]; exact h t u href
  · rw [hother x hx] at hu
    by_cases hu' : u = id
    -- a reference to the node itself was made inside its target, which closes the cycle
    · rw [hu'] at hu ⊢
      obtain ⟨hreach, hend⟩ := hback x hu
      obtain ⟨hnone, hpend⟩ := hend.resolve_left hne
      refine Or.inr ⟨g.target t, hself, ?_, fun hmem => hpend (List.mem_cons_of_mem _ hmem), ?_⟩
      · rwa [hother _ hne]
      · exact .head' (hasChild_of_ref hself)
          (ReflTransGen.mono (hasChild_le_set hid hempty) _ _ hreach)
    · exact hsettled u hu' (h x u hu)

end Graph

/-! ### Reading keeps chains short -/

/-- The nodes right below a schema are children of its node. -/
theorem mem_children_nodeOf {entries properties : Entries} {pointer : String}
    {types required : List Json} {children : List NodeId} {c : NodeId}
    (hlength : children.length = (below entries properties pointer).length) (hc : c ∈ children) :
    c ∈ (nodeOf entries properties pointer types required children).children := by
  obtain ⟨i, hi, rfl⟩ := List.mem_iff_getElem.1 hc
  simp only [Node.children, nodeOf, Option.toList_none, List.nil_append, List.mem_append,
    List.mem_map, Option.mem_toList]
  by_cases hproperty : i < properties.length
  · have hzip : i < ((properties.map Prod.fst).zip children).length := by
      rw [List.length_zip, List.length_map]
      exact Nat.lt_min.2 ⟨hproperty, hi⟩
    exact Or.inl ⟨_, List.getElem_mem hzip, by rw [List.getElem_zip]⟩
  · -- only the items stand behind the properties
    have hitems : children.length ≤ properties.length + 1 := by
      rw [hlength, below, List.length_append, List.length_map, List.length_map]
      have := Option.length_toList_le (o := itemsOf entries)
      omega
    have hi' : i = properties.length := by omega
    subst hi'
    exact Or.inr (List.getElem?_eq_getElem hi)

namespace Builds

variable {source : Source} {g g₁ g' : Graph} {tasks : List (Json × String)}
  {ids pending : List NodeId} {ws : List FormatWarning} {pointer : String} {n : Node}

/-- After a reference has been filled in, its target leads back to what new nodes refer to. -/
theorem collapsed_reference {target : NodeId} (hg : g.RefsIn)
    (hgrows : (g.push { pointer }).GrowsTo g₁) (hc : g₁.Collapsed (g.size :: pending))
    (hne : g₁.target target ≠ g.size)
    (hback : ∀ s ∈ g.size :: pending, ∀ x, (g.push { pointer }).size ≤ x →
      (g₁.node x).ref = some s → g₁.LeadsBack (g.size :: pending) (g₁.target target) s)
    (hn : n = { pointer, ref := some (g₁.target target) }) :
    (g₁.set g.size n).Collapsed pending ∧ ∀ s ∈ pending, ∀ x, g.size ≤ x →
      ((g₁.set g.size n).node x).ref = some s →
        (g₁.set g.size n).LeadsBack pending ((g₁.set g.size n).target g.size) s := by
  obtain ⟨hlt, hempty⟩ := hgrows.entered
  have hself : (g₁.set g.size n).target g.size = g₁.target target := by
    rw [Graph.target, Graph.node_set _ _ _ hlt, if_pos rfl, hn]
    rfl
  constructor
  · rw [hn]
    refine hc.set_reference hlt hempty hne fun x href => ?_
    refine hback g.size List.mem_cons_self x ?_ href
    -- the nodes before cannot refer to it
    rw [Graph.size_push]
    by_contra hx
    rcases Nat.lt_succ_iff_lt_or_eq.1 (Nat.lt_of_not_le hx) with hx | rfl
    · rw [((Graph.growsTo_push _ _).trans hgrows).node_eq hx] at href
      exact Nat.lt_irrefl _ (hg x _ href)
    · rw [hempty] at href
      cases href
  · intro s hs x hx href
    rw [hself]
    rw [Graph.node_set _ _ _ hlt] at href
    split_ifs at href with hx'
    · rw [hn, Option.some.injEq] at href
      rw [href]
      exact ⟨.refl, Or.inl rfl⟩
    · have hlater : (g.push { pointer }).size ≤ x := by
        rw [Graph.size_push]
        exact Nat.lt_of_le_of_ne hx (Ne.symm hx')
      obtain ⟨hreach, hend⟩ := hback s (List.mem_cons_of_mem _ hs) x hlater href
      refine ⟨ReflTransGen.mono (Graph.hasChild_le_set hlt hempty) _ _ hreach,
        hend.imp_right fun h => ⟨?_, fun hmem => h.2 (List.mem_cons_of_mem _ hmem)⟩⟩
      rw [Graph.node_set _ _ _ hlt, if_neg hne]
      exact h.1

/-- After a schema has been filled in, its node leads back to what new nodes refer to. -/
theorem collapsed_schema {children : List NodeId} (hpending : ∀ s ∈ pending, s < g.size)
    (hgrows : (g.push { pointer }).GrowsTo g₁) (hc : g₁.Collapsed pending)
    (hback : ∀ s ∈ pending, ∀ x, (g.push { pointer }).size ≤ x → (g₁.node x).ref = some s →
      ∃ c ∈ children, g₁.LeadsBack pending (g₁.target c) s)
    (hn : n.ref = none) (hchildren : ∀ c ∈ children, c ∈ n.children) :
    (g₁.set g.size n).Collapsed pending ∧ ∀ s ∈ pending, ∀ x, g.size ≤ x →
      ((g₁.set g.size n).node x).ref = some s →
        (g₁.set g.size n).LeadsBack pending ((g₁.set g.size n).target g.size) s := by
  obtain ⟨hlt, hempty⟩ := hgrows.entered
  have hnode : (g₁.set g.size n).node g.size = n := by
    rw [Graph.node_set _ _ _ hlt, if_pos rfl]
  refine ⟨hc.set_schema hlt hempty hn, fun s hs x hx href => ?_⟩
  rw [Graph.target, hnode, hn]
  rw [Graph.node_set _ _ _ hlt] at href
  split_ifs at href with hx'
  · rw [hn] at href
    cases href
  · have hlater : (g.push { pointer }).size ≤ x := by
      rw [Graph.size_push]
      exact Nat.lt_of_le_of_ne hx (Ne.symm hx')
    obtain ⟨c, hmem, hreach, -⟩ := hback s hs x hlater href
    have hstep : (g₁.set g.size n).HasChild g.size c := by
      rw [Graph.HasChild, hnode]
      exact hchildren c hmem
    refine ⟨.head hstep (ReflTransGen.mono (Graph.hasChild_le_set hlt hempty) _ _
      ((g₁.reaches_target c).trans hreach)), Or.inr ⟨?_, fun h => ?_⟩⟩
    · rw [Option.getD_none, hnode, hn]
    · exact Nat.lt_irrefl _ (hpending _ h)

/-- New nodes are those of the first schema and those of the rest. -/
theorem leadsBack_cons {id s : NodeId}
    (hgrows : g₁.GrowsTo g') (hg : g₁.RefsIn) (hid : id < g₁.size)
    (hfirst : ∀ x, g.size ≤ x → (g₁.node x).ref = some s →
      g₁.LeadsBack pending (g₁.target id) s)
    (hrest : ∀ x, g₁.size ≤ x → (g'.node x).ref = some s →
      ∃ id ∈ ids, g'.LeadsBack pending (g'.target id) s) :
    ∀ x, g.size ≤ x → (g'.node x).ref = some s →
      ∃ y ∈ id :: ids, g'.LeadsBack pending (g'.target y) s := by
  intro x hx href
  by_cases hx' : x < g₁.size
  -- nodes before the rest do not change while it is read
  · rw [hgrows.node_eq hx'] at href
    have htarget : g'.target id = g₁.target id := by
      rw [Graph.target, Graph.target, hgrows.node_eq hid]
    refine ⟨id, List.mem_cons_self, ?_⟩
    rw [htarget]
    exact (hfirst x hx href).growsTo hgrows (hg.target_lt hid)
  · obtain ⟨y, hy, hleads⟩ := hrest x (Nat.le_of_not_lt hx') href
    exact ⟨y, List.mem_cons_of_mem _ hy, hleads⟩

/-- **Reading keeps chains collapsed.** If a new node refers to a reference that is still to be
filled in, then one of the nodes that are read leads back to that reference. -/
theorem collapsed (h : Builds source g tasks ids ws g') (hg : g.RefsIn)
    (hpending : ∀ s ∈ pending, s < g.size) (hc : g.Collapsed pending) :
    g'.Collapsed pending ∧ ∀ s ∈ pending, ∀ x, g.size ≤ x → (g'.node x).ref = some s →
      ∃ id ∈ ids, g'.LeadsBack pending (g'.target id) s := by
  induction h generalizing pending with
  | nil =>
    refine ⟨hc, fun s _ x hx href => ?_⟩
    rw [Graph.node_of_size_le hx] at href
    cases href
  | found _ _ ih =>
    obtain ⟨hc', hback⟩ := ih hg hpending hc
    refine ⟨hc', fun s hs x hx href => ?_⟩
    obtain ⟨id, hid, hleads⟩ := hback s hs x hx href
    exact ⟨id, List.mem_cons_of_mem _ hid, hleads⟩
  | @reference g g₁ g' entries pointer reference place schema target rest ids ws ws' hfind href
      hresolve htarget hne hrest ihTarget ih =>
    have hrefs := htarget.refsIn (hg.push pointer)
    have hold : ∀ s ∈ pending, s < (g.push { pointer }).size := fun s hs =>
      Nat.lt_of_lt_of_le (hpending s hs) (Graph.growsTo_push g { pointer }).size_le
    -- the node is pending while its target is read
    obtain ⟨hc₁, hback⟩ := ihTarget (hg.push pointer)
      (List.forall_mem_cons.2 ⟨(Graph.GrowsTo.refl _).entered.1, hold⟩)
      (hc.push hg fun s hs => (List.mem_cons.1 hs).symm)
    obtain ⟨hc₂, hfirst⟩ := collapsed_reference hg htarget.growsTo hc₁ hne
      (fun s hs x hx href => by simpa using hback s hs x hx href) rfl
    have hg₂ := htarget.refsIn_reference hrefs
    have hlt := htarget.growsTo.entered.1
    have hsize : ∀ s ∈ pending, s < g₁.size := fun s hs => Nat.lt_trans (hpending s hs) hlt
    obtain ⟨hc', hback'⟩ := ih hg₂ (by rwa [Graph.size_set]) hc₂
    refine ⟨hc', fun s hs => leadsBack_cons hrest.growsTo hg₂ ?_ (hfirst s hs) (hback' s hs)⟩
    rwa [Graph.size_set]
  | @schema g g₁ g' entries properties pointer types required rest children ids ws ws' hfind href
      htypes hrequired hproperties hbelow hrest ihBelow ih =>
    have hold : ∀ s ∈ pending, s < (g.push { pointer }).size := fun s hs =>
      Nat.lt_of_lt_of_le (hpending s hs) (Graph.growsTo_push g { pointer }).size_le
    obtain ⟨hc₁, hback⟩ := ihBelow (hg.push pointer) hold (hc.push hg fun s hs => Or.inl hs)
    obtain ⟨hc₂, hfirst⟩ := collapsed_schema
      (n := nodeOf entries properties pointer types required children) hpending hbelow.growsTo hc₁
      hback rfl fun c => mem_children_nodeOf hbelow.length_eq
    have hg₂ := hbelow.refsIn_schema (n := nodeOf entries properties pointer types required children)
      (hbelow.refsIn (hg.push pointer)) rfl
    have hlt := hbelow.growsTo.entered.1
    have hsize : ∀ s ∈ pending, s < g₁.size := fun s hs => Nat.lt_trans (hpending s hs) hlt
    obtain ⟨hc', hback'⟩ := ih hg₂ (by rwa [Graph.size_set]) hc₂
    refine ⟨hc', fun s hs => leadsBack_cons hrest.growsTo hg₂ ?_ (hfirst s hs) (hback' s hs)⟩
    rwa [Graph.size_set]

end Builds

/-! ### Chains in the document -/

/-- A reference at one place of the document leads to another place. -/
def Source.Refers (source : Source) (place place' : String) : Prop :=
  ∃ entries reference schema, source.Meets (.obj entries) place ∧
    textOf entries "$ref" = some reference ∧
    resolveReference source.base source.contents reference = .ok (schema, place')

namespace Graph

variable {source : Source} {g g' : Graph}

/-- The reference of a node is what the references of the document lead to from its place. -/
def Chained (source : Source) (g : Graph) : Prop :=
  ∀ x t, (g.node x).ref = some t →
    TransGen source.Refers (g.node x).pointer (g.node t).pointer

theorem Chained.push (h : g.Chained source) (hg : g.RefsIn) (pointer : String) :
    (g.push { pointer }).Chained source := by
  have hgrows := growsTo_push g { pointer }
  intro x t ht
  rw [node_push] at ht ⊢
  split_ifs at ht ⊢
  rw [hgrows.node_eq (hg x t ht)]
  exact h x t ht

/-- A node is filled in with a reference that is chained, or with none. -/
theorem Chained.set (h : g.Chained source) {id : NodeId} {n : Node} (hid : id < g.size)
    (hp : n.pointer = (g.node id).pointer)
    (hn : ∀ t, n.ref = some t → TransGen source.Refers n.pointer (g.node t).pointer) :
    (g.set id n).Chained source := by
  have hpointer : ∀ y, ((g.set id n).node y).pointer = (g.node y).pointer := by
    intro y
    rw [node_set _ _ _ hid]
    split_ifs with hy
    · rw [hp, hy]
    · rfl
  intro x t ht
  rw [hpointer, hpointer]
  rw [node_set _ _ _ hid] at ht
  split_ifs at ht with hx
  · rw [hx, ← hp]
    exact hn t ht
  · exact h x t ht

end Graph

theorem Builds.chained {source : Source} {g g' : Graph} {tasks : List (Json × String)}
    {ids : List NodeId} {ws : List FormatWarning} (h : Builds source g tasks ids ws g')
    (hg : g.RefsIn) (hmeets : ∀ t ∈ tasks, source.Meets t.1 t.2) (hc : g.Chained source) :
    g'.Chained source := by
  induction h with
  | nil => exact hc
  | found _ _ ih => exact ih hg (fun t ht => hmeets t (List.mem_cons_of_mem _ ht)) hc
  | @reference g g₁ g' entries pointer reference place schema target rest ids ws ws' hfind href
      hresolve htarget hne hrest ihTarget ih =>
    obtain ⟨hlt, hempty⟩ := htarget.growsTo.entered
    have hself := hmeets _ List.mem_cons_self
    have hrefers : source.Refers pointer place := ⟨entries, reference, schema, hself, href, hresolve⟩
    have hc₁ := ihTarget (hg.push pointer)
      (fun t ht => by rw [List.mem_singleton.1 ht]; exact .target hself href hresolve)
      (hc.push hg pointer)
    refine ih (htarget.refsIn_reference (htarget.refsIn (hg.push pointer)))
      (fun t ht => hmeets t (List.mem_cons_of_mem _ ht)) (hc₁.set hlt (by rw [hempty]) ?_)
    rintro _ ⟨⟩
    -- the target of the target, if it is a reference itself
    obtain ⟨⟨-, hplace⟩, -⟩ := List.forall₂_cons.1 htarget.at_places
    cases href₁ : (g₁.node target).ref with
    | none =>
      rw [Graph.target_of_none href₁, hplace]
      exact .single hrefers
    | some t =>
      rw [Graph.target_of_ref href₁]
      have hchain := hc₁ target t href₁
      rw [hplace] at hchain
      exact .head hrefers hchain
  | @schema g g₁ g' entries properties pointer types required rest children ids ws ws' hfind href
      htypes hrequired hproperties hbelow hrest ihBelow ih =>
    obtain ⟨hlt, hempty⟩ := hbelow.growsTo.entered
    have hself := hmeets _ List.mem_cons_self
    have hc₁ := ihBelow (hg.push pointer) (fun t ht => .inside hself href hproperties ht)
      (hc.push hg pointer)
    refine ih (hbelow.refsIn_schema (hbelow.refsIn (hg.push pointer)) rfl)
      (fun t ht => hmeets t (List.mem_cons_of_mem _ ht)) (hc₁.set hlt (by rw [hempty]; rfl) ?_)
    rintro _ ⟨⟩

/-! ### Documents -/

/-- Whether a node is no reference and stands for a schema that is none. -/
def Graph.EndsChain (source : Source) (g : Graph) (t : NodeId) : Prop :=
  (g.node t).ref = none ∧ ∃ entries, source.Meets (.obj entries) (g.node t).pointer ∧
    textOf entries "$ref" = none

theorem Graph.Finished.endsChain {source : Source} {g : Graph} {t : NodeId}
    (h : g.Finished source t) (href : (g.node t).ref = none) : g.EndsChain source t := by
  cases h with
  | reference _ _ hnode _ =>
    rw [hnode] at href
    cases href
  | schema hmeets hplain _ _ _ _ _ => exact ⟨href, _, hmeets, hplain⟩

/-- **The target of a reference** is a node that the references of the document lead to from its
place. It is a schema that is no reference, at the end of the chain, unless it lies on a cycle; then
it may be a reference, but one to such a schema. -/
theorem reference_leads_to_schema {custom : List String} {contents : Json} {d : Document}
    (hread : (read custom contents).1 = .ok d) {x t : NodeId}
    (href : (d.graph.node x).ref = some t) :
    TransGen (Source.ofDocument custom contents).Refers
      (d.graph.node x).pointer (d.graph.node t).pointer ∧
    (d.graph.EndsChain (.ofDocument custom contents) t ∨
      ∃ o, (d.graph.node t).ref = some o ∧ d.graph.EndsChain (.ofDocument custom contents) o ∧
        TransGen d.graph.HasChild t t) := by
  obtain ⟨schemas, hschemas, hbuilds, -, -⟩ := builtFrom_of_read hread
  have hmeets : ∀ t ∈ messageTasks schemas, (Source.ofDocument custom contents).Meets t.1 t.2 :=
    fun t ht => meets_of_mem_messageTasks hschemas ht
  have hrefs := hbuilds.refsIn Graph.refsIn_empty
  have hends : ∀ t < d.graph.size, (d.graph.node t).ref = none →
      d.graph.EndsChain (.ofDocument custom contents) t :=
    fun t ht => (finished_of_read hread ht).endsChain
  have hchained := hbuilds.chained Graph.refsIn_empty hmeets fun x t ht => by cases ht
  refine ⟨hchained x t href, ?_⟩
  have hcollapsed := (hbuilds.collapsed Graph.refsIn_empty (by simp) Graph.collapsed_empty).1
  rcases hcollapsed x t href with hnone | ⟨o, ho, hnone, -, hloop⟩
  · exact Or.inl (hends t (hrefs x t href) hnone)
  · exact Or.inr ⟨o, ho, hends o (hrefs t o ho) hnone, hloop⟩

open Go (documentOf objectOf arrayOf refTo)

/-- A trip whose destination is a town by way of two aliases. -/
def aliasedTrip : Json :=
  documentOf (objectOf [("destination", refTo "stop"), ("origin", refTo "place")])
    [("stop", refTo "place"), ("place", refTo "town"),
      ("town", objectOf [("near", arrayOf (refTo "town"))])]

set_option maxRecDepth 100000 in
theorem aliasedTrip_leads_to_town : ∃ d, (read [] aliasedTrip).1 = .ok d ∧
    (d.graph.node 1).ref = some 4 ∧
    (d.graph.node 4).pointer = "/definitions/town" ∧
    (TransGen (Source.ofDocument [] aliasedTrip).Refers
      (d.graph.node 1).pointer (d.graph.node 4).pointer ∧
    (d.graph.EndsChain (.ofDocument [] aliasedTrip) 4 ∨
      ∃ o, (d.graph.node 4).ref = some o ∧ d.graph.EndsChain (.ofDocument [] aliasedTrip) o ∧
        TransGen d.graph.HasChild 4 4)) := by
  have h : ((read [] aliasedTrip).1.toOption.map fun d =>
      ((d.graph.node 1).ref, (d.graph.node 4).pointer)) = some (some 4, "/definitions/town") := by
    decide +kernel
  obtain ⟨d, hd, h⟩ := Option.map_eq_some_iff.1 h
  rw [Prod.mk.injEq] at h
  exact ⟨d, ok_of_toOption hd, h.1, h.2, reference_leads_to_schema (ok_of_toOption hd) h.1⟩

/-- A trip with a node by an alias, where the node leads back to the alias. -/
def recursiveAlias : Json :=
  documentOf (objectOf [("n", refTo "a")])
    [("a", refTo "b"), ("b", objectOf [("x", refTo "a")])]

set_option maxRecDepth 100000 in
/-- A reference can be to a reference. -/
theorem recursiveAlias_not_collapsed : ∃ d, (read [] recursiveAlias).1 = .ok d ∧
    (d.graph.node 4).pointer = "/definitions/b/properties/x" ∧ (d.graph.node 4).ref = some 2 ∧
    (d.graph.node 2).ref = some 3 := by
  have h : ((read [] recursiveAlias).1.toOption.map fun d =>
      ((d.graph.node 4).pointer, (d.graph.node 4).ref, (d.graph.node 2).ref)) =
      some ("/definitions/b/properties/x", some 2, some 3) := by decide +kernel
  obtain ⟨d, hd, h⟩ := Option.map_eq_some_iff.1 h
  simp only [Prod.mk.injEq] at h
  exact ⟨d, ok_of_toOption hd, h⟩

end StructGen.Schema
