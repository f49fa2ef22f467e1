import StructGen.Proofs.FreshReadings
import StructGen.Proofs.ReferenceChains

/-!
# Warnings of unknown formats

Reading warns of the format of a schema right before it fills in the node of the schema, so every
node is warned of once, by the call that has entered it. Nodes that no message leads to are left
behind where a reference to a reference is cut short; these are references themselves and have no
format. The formats that are known decide on warnings and on nothing else.

* `Builds.leadsToNew` follows steps from what is asked for to the nodes that reading enters;
* `Builds.warnsOfNew` tells which node each warning is for;
* `Build.Alike` compares two runs that may warn of different formats, `read_of_other_formats` is
  what comes out;
* `warnings_match_unknown_formats` is what holds of documents.
-/

namespace StructGen.Schema

open Relation

namespace Graph

variable {g g₁ g' : Graph} {a c x : NodeId} {n : Node} {pointer : String}

/-- A node that has been filled in, and the nodes that have been entered meanwhile, stay as they
are. -/
theorem GrowsTo.node_filled (h : (g.push { pointer }).GrowsTo g₁)
    (h' : (g₁.set g.size n).GrowsTo g') :
    g'.node g.size = n ∧ ∀ x, x ≠ g.size → x < g₁.size → g'.node x = g₁.node x := by
  obtain ⟨hlt, -⟩ := h.entered
  have hnode : ∀ x < g₁.size, g'.node x = if x = g.size then n else g₁.node x := by
    intro x hx
    rw [h'.node_eq (by rwa [size_set]), node_set _ _ _ hlt]
  refine ⟨by rw [hnode _ hlt, if_pos rfl], fun x hne hx => by rw [hnode x hx, if_neg hne]⟩

/-- The sizes of the graphs while a node is entered, filled in and left. -/
theorem GrowsTo.sizes (h : (g.push { pointer }).GrowsTo g₁)
    (h' : (g₁.set g.size n).GrowsTo g') : g.size < g₁.size ∧ g₁.size ≤ g'.size := by
  have hsize := h'.size_le
  rw [size_set] at hsize
  exact ⟨h.entered.1, hsize⟩

/-! ### Nodes that reading leads to -/

/-- A node with a number from `start` on refers to another one. -/
def HasChildFrom (g : Graph) (start : Nat) (a c : NodeId) : Prop := start ≤ a ∧ g.HasChild a c

theorem HasChildFrom.le {start start' : Nat} (hstart : start' ≤ start)
    (hnode : ∀ x, start ≤ x → x < g.size → g'.node x = g.node x) :
    g.HasChildFrom start ≤ g'.HasChildFrom start' := by
  rintro a c ⟨ha, hac⟩
  refine ⟨hstart.trans ha, ?_⟩
  rw [HasChild, hnode a ha hac.lt]
  exact hac

theorem hasChildFrom_target {start : Nat} (ha : start ≤ a) :
    ReflTransGen (g.HasChildFrom start) a (g.target a) := by
  rw [target]
  cases href : (g.node a).ref with
  | none => exact .refl
  | some c => exact .single ⟨ha, hasChild_of_ref href⟩

theorem target_of_node (h : g'.node x = g.node x) : g'.target x = g.target x := by
  rw [target, target, h]

/-- Steps lead to the target of every node from one graph to another, from the target of a node that
is new as well. -/
def LeadsToNew (g g' : Graph) (ids : List NodeId) : Prop :=
  ∀ x : Nat, g.size ≤ x → x < g'.size → ∃ i : Nat, i ∈ ids ∧ g.size ≤ i ∧ i < g'.size ∧
    ReflTransGen (g'.HasChildFrom g.size) (g'.target i) (g'.target x)

/-- A node is entered, other nodes are entered from it, the node is filled in and left. -/
theorem LeadsToNew.filled {children ids : List NodeId}
    (hgrows : (g.push { pointer }).GrowsTo g₁) (hrest : (g₁.set g.size n).GrowsTo g')
    (hinner : (g.push { pointer }).LeadsToNew g₁ children)
    (hchildren : ∀ i : Nat, i ∈ children → g.size < i → i < g₁.size →
      ReflTransGen (g'.HasChildFrom g.size) (g'.target g.size) (g'.target i))
    (houter : (g₁.set g.size n).LeadsToNew g' ids) : g.LeadsToNew g' (g.size :: ids) := by
  obtain ⟨hlt, -⟩ := hgrows.sizes hrest
  obtain ⟨-, hkept⟩ := hgrows.node_filled hrest
  intro x hx hx'
  by_cases hself : x = g.size
  · exact ⟨g.size, List.mem_cons_self, Nat.le_refl _, by omega, by rw [hself]⟩
  · by_cases hnew : x < g₁.size
    · obtain ⟨i, hi, hstart, hend, hpath⟩ := hinner x (by rw [size_push]; omega) hnew
      rw [size_push] at hstart hpath
      refine ⟨g.size, List.mem_cons_self, Nat.le_refl _, by omega,
        (hchildren i hi hstart hend).trans ?_⟩
      rw [target_of_node (hkept x hself hnew), target_of_node (hkept i (by omega) hend)]
      exact ReflTransGen.mono (HasChildFrom.le (Nat.le_succ _)
        fun y hy hy' => hkept y (by omega) hy') _ _ hpath
    · obtain ⟨i, hi, hstart, hend, hpath⟩ := houter x (by rw [size_set]; omega) hx'
      rw [size_set] at hstart hpath
      exact ⟨i, List.mem_cons_of_mem _ hi, by omega, hend,
        ReflTransGen.mono (HasChildFrom.le (by omega) fun _ _ _ => rfl) _ _ hpath⟩

end Graph

namespace Builds

variable {source : Source} {g g' : Graph} {tasks : List (Json × String)} {ids : List NodeId}
  {ws : List FormatWarning}

/-- **Reading leads to the target of every node that it enters**, from the target of a node that it
was asked for. -/
theorem leadsToNew (h : Builds source g tasks ids ws g') : g.LeadsToNew g' ids := by
  induction h with
  | nil => exact fun x hx hx' => absurd hx' (Nat.not_lt.2 hx)
  | found _ _ ih =>
    intro x hx hx'
    obtain ⟨i, hi, hpath⟩ := ih x hx hx'
    exact ⟨i, List.mem_cons_of_mem _ hi, hpath⟩
  | @reference g g₁ g' entries pointer reference place schema target rest ids ws ws' hfind href
      hresolve htarget hne hrest ihTarget ih =>
    obtain ⟨hself, hkept⟩ := htarget.growsTo.node_filled hrest.growsTo
    refine .filled htarget.growsTo hrest.growsTo ihTarget (fun i hi hstart hend => ?_) ih
    -- the reference has been cut short, so it leads where its target leads
    rw [List.mem_singleton] at hi
    subst hi
    rw [Graph.target_of_node (hkept i (Nat.ne_of_gt hstart) hend), Graph.target, hself]
    exact .refl
  | @schema g g₁ g' entries properties pointer types required rest children ids ws ws' hfind href
      htypes hrequired hproperties hbelow hrest ihBelow ih =>
    obtain ⟨hself, -⟩ := hbelow.growsTo.node_filled hrest.growsTo
    refine .filled hbelow.growsTo hrest.growsTo ihBelow (fun i hi hstart _ => ?_) ih
    have hchild : g'.HasChildFrom g.size g.size i := by
      refine ⟨Nat.le_refl _, ?_⟩
      rw [Graph.HasChild, hself]
      exact mem_children_nodeOf hbelow.length_eq hi
    have hnode : g'.target g.size = g.size := by
      rw [Graph.target, hself]
      rfl
    rw [hnode]
    exact .head hchild (Graph.hasChildFrom_target (Nat.le_of_lt hstart))

end Builds

/-! ### Nodes that are warned of -/

/-- The warnings of a node: one if its format is unknown. -/
def Node.warnings (formats : List String) (n : Node) : List FormatWarning :=
  (n.format.toList.filter (!formats.contains ·)).map fun name => ⟨name, n.pointer⟩

/-- A node has no format that is unknown and no warning, or it has both. -/
theorem Node.warnings_cases (formats : List String) (n : Node) :
    (∀ name, n.format = some name → name ∈ formats) ∧ n.warnings formats = [] ∨
      ∃ name, n.format = some name ∧ name ∉ formats ∧
        n.warnings formats = [⟨name, n.pointer⟩] := by
  unfold warnings
  cases n.format with
  | none => exact .inl ⟨by simp, rfl⟩
  | some name =>
    by_cases hknown : name ∈ formats
    · exact .inl ⟨by simpa using hknown, by simpa using hknown⟩
    · exact .inr ⟨name, rfl, hknown, by simp [hknown]⟩

/-- The warnings are those of the nodes from one graph to another, each node being taken once. -/
def Graph.WarnsOfNew (formats : List String) (g g' : Graph) (ws : List FormatWarning) : Prop :=
  ∃ order : List Nat, order.Nodup ∧ (∀ x, x ∈ order ↔ g.size ≤ x ∧ x < g'.size) ∧
    ws = order.flatMap fun x => (g'.node x).warnings formats

theorem Graph.WarnsOfNew.filled {formats : List String} {g g₁ g' : Graph} {n : Node}
    {pointer : String} {ws ws' : List FormatWarning} (hgrows : (g.push { pointer }).GrowsTo g₁)
    (hrest : (g₁.set g.size n).GrowsTo g')
    (hinner : (g.push { pointer }).WarnsOfNew formats g₁ ws)
    (houter : (g₁.set g.size n).WarnsOfNew formats g' ws') :
    g.WarnsOfNew formats g' (ws ++ n.warnings formats ++ ws') := by
  obtain ⟨hlt, hle⟩ := hgrows.sizes hrest
  obtain ⟨hself, hkept⟩ := hgrows.node_filled hrest
  obtain ⟨inner, hinnerNodup, hmemInner, rfl⟩ := hinner
  obtain ⟨outer, houterNodup, hmemOuter, rfl⟩ := houter
  simp only [size_push] at hmemInner
  simp only [size_set] at hmemOuter
  refine ⟨inner ++ g.size :: outer, ?_, fun x => ?_, ?_⟩
  · rw [List.nodup_append, List.nodup_cons, hmemOuter]
    refine ⟨hinnerNodup, ⟨by omega, houterNodup⟩, fun x hx y hy => ?_⟩
    rw [hmemInner] at hx
    rw [List.mem_cons, hmemOuter] at hy
    omega
  · rw [List.mem_append, List.mem_cons, hmemInner, hmemOuter]
    omega
  · have hinner : inner.flatMap (fun x => (g₁.node x).warnings formats) =
        inner.flatMap fun x => (g'.node x).warnings formats := by
      refine List.flatMap_congr fun x hx => ?_
      rw [hmemInner] at hx
      rw [hkept x (by omega) (by omega)]
    rw [hinner, List.flatMap_append, List.flatMap_cons, hself, List.append_assoc]

/-- **Reading warns of every node that it enters once**, by the node's own format. -/
theorem Builds.warnsOfNew {source : Source} {g g' : Graph} {tasks : List (Json × String)}
    {ids : List NodeId} {ws : List FormatWarning} (h : Builds source g tasks ids ws g') :
    g.WarnsOfNew source.formats g' ws := by
  induction h with
  | nil => exact ⟨[], .nil, fun x => by simp, rfl⟩
  | found _ _ ih => exact ih
  | @reference _ _ _ _ pointer _ _ _ _ _ _ _ _ _ _ _ htarget _ hrest ihTarget ih =>
    have hquiet : ∀ ref, Node.warnings source.formats { pointer, ref } = [] := fun _ => rfl
    have hfilled := Graph.WarnsOfNew.filled htarget.growsTo hrest.growsTo ihTarget ih
    rwa [hquiet, List.append_nil] at hfilled
  | schema _ _ _ _ _ hbelow hrest ihBelow ih =>
    exact .filled hbelow.growsTo hrest.growsTo ihBelow ih

/-- Taking the items that have something, one by one, goes along with what they have. -/
theorem forall₂_filter_flatMap {α β : Type} {R : α → β → Prop} {p : α → Bool} {f : α → List β}
    (hnone : ∀ a, p a = false → f a = []) (hsome : ∀ a, p a = true → ∃ b, f a = [b] ∧ R a b)
    (l : List α) : List.Forall₂ R (l.filter p) (l.flatMap f) := by
  induction l with
  | nil => exact .nil
  | cons a l ih =>
    rw [List.flatMap_cons]
    cases hp : p a with
    | false =>
      rw [List.filter_cons_of_neg (by simp [hp]), hnone a hp]
      exact ih
    | true =>
      obtain ⟨b, hb, hab⟩ := hsome a hp
      rw [List.filter_cons_of_pos hp, hb]
      exact .cons hab ih

/-- The warnings go along with the nodes from one graph to another that have an unknown format. -/
theorem Graph.WarnsOfNew.nodes {formats : List String} {g g' : Graph} {ws : List FormatWarning}
    (h : g.WarnsOfNew formats g' ws) :
    ∃ nodes : List Nat, nodes.Nodup ∧
      (∀ x, x ∈ nodes ↔ (g.size ≤ x ∧ x < g'.size) ∧
        ∃ name, (g'.node x).format = some name ∧ name ∉ formats) ∧
      List.Forall₂ (fun x w => (g'.node x).format = some w.format ∧
        (g'.node x).pointer = w.pointer) nodes ws := by
  obtain ⟨order, hnodup, hmem, rfl⟩ := h
  let unknown : Nat → Bool := fun x => !((g'.node x).warnings formats).isEmpty
  have hknown : ∀ x, unknown x = false → (g'.node x).warnings formats = [] := by
    intro x hx
    simpa [unknown] using hx
  have hunknown : ∀ x, unknown x = true → ∃ name, (g'.node x).format = some name ∧
      name ∉ formats ∧ (g'.node x).warnings formats = [⟨name, (g'.node x).pointer⟩] := by
    intro x hx
    obtain ⟨-, hnone⟩ | hone := (g'.node x).warnings_cases formats
    · simp [unknown, hnone] at hx
    · exact hone
  refine ⟨order.filter unknown, hnodup.filter _, fun x => ?_,
    forall₂_filter_flatMap hknown (fun x hx => ?_) order⟩
  · rw [List.mem_filter, hmem]
    refine and_congr_right fun _ => ⟨fun hx => ?_, ?_⟩
    · obtain ⟨name, hformat, hname, -⟩ := hunknown x hx
      exact ⟨name, hformat, hname⟩
    · rintro ⟨name, hformat, hname⟩
      obtain ⟨hall, -⟩ | ⟨_, -, -, hone⟩ := (g'.node x).warnings_cases formats
      · exact absurd (hall name hformat) hname
      · simp [unknown, hone]
  · obtain ⟨name, hformat, -, hone⟩ := hunknown x hx
    exact ⟨_, hone, hformat, rfl⟩

/-! ### Reading with other formats -/

namespace Build

/-- Two steps of reading do the same to the graph and fail alike, and their results are the same
under `p`. Warnings and notices do not count. -/
def Alike {α γ : Type} (p : α → γ) (x y : Build α) : Prop :=
  ∀ b b' : Builder, b.graph = b'.graph →
    (outcome x b).1.map p = (outcome y b').1.map p ∧
      (outcome x b).2.graph = (outcome y b').2.graph

section Alike

variable {α β γ : Type} {p : β → γ} {x y : Build α} {f g : α → Build β}

theorem alike_pure {a b : β} (h : p a = p b) : Alike p (pure a) (pure b) :=
  fun _ _ hb => ⟨congrArg Except.ok h, hb⟩

theorem alike_throw (e : Failure) : Alike p (throw e) (throw e) := fun _ _ hb => ⟨rfl, hb⟩

theorem outcome_bind_of_ok {a : α} {b b₁ : Builder} (h : x b = .ok a b₁) :
    outcome (x >>= f) b = outcome (f a) b₁ := by
  have hbind : (x >>= f) b = f a b₁ := by
    change EStateM.bind x f b = _
    rw [EStateM.bind, h]
  rw [outcome, hbind, outcome]

theorem outcome_bind_of_error {e : Failure} {b b₁ : Builder} (h : x b = .error e b₁) :
    outcome (x >>= f) b = (.error e, b₁) := by
  have hbind : (x >>= f) b = .error e b₁ := by
    change EStateM.bind x f b = _
    rw [EStateM.bind, h]
  rw [outcome, hbind]

theorem Alike.bind (hx : Alike id x y) (hf : ∀ a, Alike p (f a) (g a)) :
    Alike p (x >>= f) (y >>= g) := by
  intro b b' hb
  obtain ⟨hresult, hgraph⟩ := hx b b' hb
  unfold outcome at hresult hgraph
  cases hxb : x b with
  | ok a b₁ =>
    cases hyb : y b' with
    | ok a' b₁' =>
      rw [hxb, hyb] at hresult hgraph
      cases hresult
      rw [outcome_bind_of_ok hxb, outcome_bind_of_ok hyb]
      exact hf a b₁ b₁' hgraph
    | error e b₁' =>
      rw [hxb, hyb] at hresult
      cases hresult
  | error e b₁ =>
    cases hyb : y b' with
    | ok a' b₁' =>
      rw [hxb, hyb] at hresult
      cases hresult
    | error e' b₁' =>
      rw [hxb, hyb] at hresult hgraph
      cases hresult
      rw [outcome_bind_of_error hxb, outcome_bind_of_error hyb]
      exact ⟨rfl, hgraph⟩

theorem alike_get {f g : Builder → Build β}
    (h : ∀ b b' : Builder, b.graph = b'.graph → Alike p (f b) (g b')) :
    Alike p (get >>= f) (get >>= g) :=
  fun b b' hb => h b b' hb b b' hb

theorem alike_lift (r : Except Failure α) : Alike id (lift r) (lift r) := by
  cases r with
  | ok a => exact alike_pure rfl
  | error e => exact alike_throw e

theorem alike_enter (pointer : String) : Alike id (enter pointer) (enter pointer) := by
  intro b b' hb
  refine ⟨congrArg (fun g : Graph => Except.ok g.size) hb, ?_⟩
  exact congrArg (fun g : Graph => g.push { pointer }) hb

theorem alike_fill (x : NodeId) (n : Node) : Alike id (fill x n) (fill x n) :=
  fun _ _ hb => ⟨rfl, congrArg (fun g : Graph => g.set x n) hb⟩

theorem alike_note (n : Notice) : Alike id (note n) (note n) := fun _ _ hb => ⟨rfl, hb⟩

theorem alike_set (b : Builder) : Alike id (set b) (set b) := fun _ _ _ => ⟨rfl, rfl⟩

theorem Alike.map_some {x y : Build α} (h : Alike id x y) : Alike id (some <$> x) (some <$> y) := by
  rw [map_eq_pure_bind, map_eq_pure_bind]
  exact h.bind fun _ => alike_pure rfl

theorem alike_mapM {f g : α → Build β} (h : ∀ a, Alike id (f a) (g a)) (l : List α) :
    Alike id (l.mapM f) (l.mapM g) := by
  induction l with
  | nil => exact alike_pure rfl
  | cons a l ih =>
    rw [List.mapM_cons, List.mapM_cons]
    exact (h a).bind fun b => ih.bind fun bs => alike_pure rfl

/-- Warning of a format or not makes no difference. -/
theorem Alike.warned {formats formats' : List String} {format : Option String} {pointer : String}
    {x y : Build β} (h : Alike p x y) :
    Alike p
      (match format with
        | some name => if (!formats.contains name) = true then do warn name pointer; x else x
        | none => x)
      (match format with
        | some name => if (!formats'.contains name) = true then do warn name pointer; y else y
        | none => y) := by
  cases format with
  | none => exact h
  | some name =>
    dsimp only
    split_ifs
    · exact fun _ _ hb => h _ _ hb
    · exact fun _ _ hb => h _ _ hb
    · exact fun _ _ hb => h _ _ hb
    · exact h

end Alike

end Build

/-- Two sources are the same document, of which other formats may be known. -/
structure Source.SameDocument (source source' : Source) : Prop where
  base : source.base = source'.base
  contents : source.contents = source'.contents

section OtherFormats

variable {source source' : Source}

/-- **Reading a schema does the same with other formats**, but for the warnings. -/
theorem alike_buildNode (h : source.SameDocument source') (fuel : Nat) (contents : Json)
    (pointer : String) :
    Build.Alike id (buildNode source fuel contents pointer)
      (buildNode source' fuel contents pointer) := by
  induction fuel generalizing contents pointer with
  | zero => exact Build.alike_throw _
  | succ fuel ih =>
    unfold buildNode
    refine Build.alike_get fun b b' hb => ?_
    rw [hb]
    cases b'.graph.find? pointer with
    | some x => exact Build.alike_pure rfl
    | none =>
      cases contents with
      | obj entries =>
        refine (Build.alike_enter pointer).bind fun x => ?_
        cases textOf entries "$ref" with
        | some reference =>
          rw [h.base, h.contents]
          refine (Build.alike_lift _).bind fun p => (ih _ _).bind fun target => ?_
          refine Build.alike_get fun b₁ b₁' hb₁ => ?_
          rw [hb₁]
          dsimp only
          split_ifs
          · exact Build.alike_throw _
          · exact (Build.alike_fill x _).bind fun _ => Build.alike_pure rfl
        | none =>
          have hfill : ∀ n, Build.Alike id (do Build.fill x n; return x)
              (do Build.fill x n; return x) :=
            fun n => (Build.alike_fill x n).bind fun _ => Build.alike_pure rfl
          refine (Build.alike_lift _).bind fun types => (Build.alike_lift _).bind fun required =>
            (Build.alike_lift _).bind fun properties => ?_
          refine (Build.alike_mapM (fun q => (ih _ _).bind fun child =>
            Build.alike_pure rfl) _).bind fun children => ?_
          dsimp only
          cases itemsOf entries with
          | none => exact (Build.alike_pure rfl).bind fun items => (hfill _).warned
          | some schema => exact (ih _ _).map_some.bind fun items => (hfill _).warned
      | _ => exact Build.alike_throw _

theorem alike_readMessage (h : source.SameDocument source') (name type version : String)
    (schema : Json) :
    Build.Alike id (readMessage name source type version schema)
      (readMessage name source' type version schema) := by
  unfold readMessage
  have hdepth : source.depth = source'.depth := by rw [Source.depth, Source.depth, h.contents]
  rw [hdepth]
  refine (Build.alike_lift _).bind fun major => (Build.alike_lift _).bind fun _ => ?_
  refine (alike_buildNode h _ _ _).bind fun node => ?_
  exact (Build.alike_note _).bind fun _ => Build.alike_pure rfl

theorem alike_readVersions (h : source.SameDocument source') (name type : String)
    (versions : Json) :
    Build.Alike id (readVersions name source type versions)
      (readVersions name source' type versions) := by
  cases versions with
  | obj versions => exact Build.alike_mapM (fun q => alike_readMessage h _ _ _ _) _
  | _ => exact Build.alike_throw _

end OtherFormats

/-- A document is read in the same way with other formats, but for the warnings. -/
theorem alike_readDocument (custom custom' : List String) (contents : Json) :
    Build.Alike (fun d => (d.id, d.graph, d.messages)) (readDocument custom contents)
      (readDocument custom' contents) := by
  unfold readDocument
  cases contents with
  | obj entries =>
    dsimp only
    cases textOf entries "id" with
    | none => exact Build.alike_throw _
    | some name =>
      have hsame : Source.SameDocument
          ⟨Text.dropEnd name '#', .obj entries, standardFormats ++ custom⟩
          ⟨Text.dropEnd name '#', .obj entries, standardFormats ++ custom'⟩ := ⟨rfl, rfl⟩
      dsimp only
      split_ifs
      · exact Build.alike_throw _
      · split
        · refine (Build.alike_lift _).bind fun _ => ?_
          refine (Build.alike_set {}).bind fun _ => ?_
          refine (Build.alike_mapM (fun q => alike_readVersions hsame name _ _) _).bind
            fun messages => ?_
          refine (Build.alike_note _).bind fun _ => ?_
          refine Build.alike_get fun b b' hb => ?_
          exact Build.alike_pure (by rw [hb])
        · exact Build.alike_throw _
  | _ => exact Build.alike_throw _

/-- **Which formats are known decides on nothing but the warnings.** -/
theorem read_of_other_formats (custom custom' : List String) (contents : Json) :
    (read custom contents).1.map (fun d => (d.id, d.graph, d.messages)) =
      (read custom' contents).1.map fun d => (d.id, d.graph, d.messages) := by
  rw [← outcome_readDocument custom contents {}, ← outcome_readDocument custom' contents {}]
  exact (alike_readDocument custom custom' contents {} {} rfl).1

/-! ### Documents -/

theorem Graph.lt_of_format {g : Graph} {x : NodeId} {name : String}
    (h : (g.node x).format = some name) : x < g.size := by
  by_contra hlt
  rw [node_of_size_le (Nat.le_of_not_lt hlt)] at h
  cases h

/-- A message leads to every node that has a format. -/
theorem reached_of_format {custom : List String} {contents : Json} {d : Document}
    (hread : (read custom contents).1 = .ok d) {x : NodeId} {name : String}
    (hformat : (d.graph.node x).format = some name) :
    ∃ m ∈ d.messages, ReflTransGen d.graph.HasChild m.node x := by
  obtain ⟨schemas, hd⟩ := builtFrom_of_read hread
  have hx := Graph.lt_of_format hformat
  have htarget : d.graph.target x = x := by
    cases finished_of_read hread hx with
    | reference _ _ hnode _ =>
      rw [hnode] at hformat
      cases hformat
    | schema _ _ _ _ _ hnode _ =>
      rw [Graph.target, hnode]
      rfl
  obtain ⟨i, hi, -, -, hpath⟩ := hd.builds.leadsToNew x (Nat.zero_le _) hx
  obtain ⟨m, hm, rfl⟩ := List.mem_map.1 hi
  rw [htarget] at hpath
  exact ⟨m, hm, (d.graph.reaches_target _).trans
    (ReflTransGen.mono (fun _ _ h => h.2) _ _ hpath)⟩

/-- **Reading warns of every node with an unknown format, and of each of them once.** The nodes are
those that the messages lead to, however many of them do and by whichever way. Which formats are
known decides on nothing else. -/
theorem warnings_match_unknown_formats (custom : List String) (contents : Json) :
    (∀ d, (read custom contents).1 = .ok d →
      (∃ nodes : List NodeId, nodes.Nodup ∧
        (∀ x, x ∈ nodes ↔ (∃ m ∈ d.messages, ReflTransGen d.graph.HasChild m.node x) ∧
          ∃ name, (d.graph.node x).format = some name ∧ name ∉ standardFormats ∧
            name ∉ custom) ∧
        List.Forall₂ (fun x w => (d.graph.node x).format = some w.format ∧
          (d.graph.node x).pointer = w.pointer) nodes d.warnings) ∧
      (d.warnings.map (·.pointer)).Nodup) ∧
    ∀ custom', (read custom' contents).1.map (fun d => (d.id, d.graph, d.messages)) =
      (read custom contents).1.map fun d => (d.id, d.graph, d.messages) := by
  refine ⟨fun d hread => ?_, fun custom' => read_of_other_formats custom' custom contents⟩
  obtain ⟨schemas, hd⟩ := builtFrom_of_read hread
  obtain ⟨nodes, hnodup, hmem, hmatch⟩ := hd.builds.warnsOfNew.nodes
  refine ⟨⟨nodes, hnodup, fun x => ?_, hmatch⟩, ?_⟩
  · have hformats : ∀ name, name ∉ (Source.ofDocument custom contents).formats ↔
        name ∉ standardFormats ∧ name ∉ custom := fun name => by
      rw [Source.ofDocument, List.mem_append, not_or]
    simp only [hmem, hformats]
    constructor
    · rintro ⟨-, name, hformat, hunknown⟩
      exact ⟨reached_of_format hread hformat, name, hformat, hunknown⟩
    · rintro ⟨-, name, hformat, hunknown⟩
      exact ⟨⟨Nat.zero_le _, Graph.lt_of_format hformat⟩, name, hformat, hunknown⟩
  · have hpointers : nodes.map (fun x => (d.graph.node x).pointer) =
        d.warnings.map (·.pointer) := by
      rw [← List.forall₂_eq_eq_eq, List.forall₂_map_left_iff, List.forall₂_map_right_iff]
      exact hmatch.imp fun _ _ h => h.2
    -- no two nodes are at one place
    have hplaces := hd.builds.nodup_pointers .nil
    rw [← hpointers]
    refine List.Nodup.map_on (fun x hx y hy hxy => ?_) hnodup
    obtain ⟨⟨-, hx⟩, -⟩ := (hmem x).1 hx
    obtain ⟨⟨-, hy⟩, -⟩ := (hmem y).1 hy
    exact Graph.At.unique ⟨hx, rfl⟩ ⟨hy, hxy.symm⟩ hplaces

open Go (documentOf objectOf refTo)

/-- A trip with three references to a text of an unknown format, one of them by another
reference. -/
def sharedFormat : Json :=
  documentOf (objectOf [("first", refTo "code"), ("last", refTo "code"), ("next", refTo "alias")])
    [("alias", refTo "code"), ("code", .obj [("type", .str "string"), ("format", .str "iata")])]

set_option maxRecDepth 100000 in
theorem sharedFormat_warned_once : ∃ d, (read [] sharedFormat).1 = .ok d ∧
    d.warnings = [⟨"iata", "/definitions/code"⟩] ∧
    ∃ x, (d.graph.node x).pointer = "/definitions/code" ∧
      ∀ y, ((∃ m ∈ d.messages, ReflTransGen d.graph.HasChild m.node y) ∧
        ∃ name, (d.graph.node y).format = some name ∧ name ∉ standardFormats ∧ name ∉ []) ↔
          y = x := by
  have h : (read [] sharedFormat).1.toOption.map (·.warnings) =
      some [⟨"iata", "/definitions/code"⟩] := by decide +kernel
  obtain ⟨d, hd, hwarnings⟩ := Option.map_eq_some_iff.1 h
  have hread := ok_of_toOption hd
  obtain ⟨⟨nodes, -, hmem, hmatch⟩, -⟩ :=
    (warnings_match_unknown_formats [] sharedFormat).1 d hread
  rw [hwarnings] at hmatch
  obtain ⟨x, rest, hx, hrest, rfl⟩ := List.forall₂_cons_right_iff.1 hmatch
  cases hrest
  exact ⟨d, hread, hwarnings, x, hx.2, fun y => (hmem y).symm.trans List.mem_singleton⟩

end StructGen.Schema
