import StructGen.Proofs.References
import StructGen.Schema.Builder

/-!
# What reading a document does

Reading a schema enters a node for it, reads the schemas below it or the one it refers to, and fills
the node in. The nodes that were there before are not touched, so every node is filled in once, by
the call that has entered it.

* `Graph.GrowsTo` says that a graph has the nodes of another one and perhaps more;
* `endsIn_buildNode` follows the steps of one call;
* `Builds` says what calls that succeed do, one after another: `buildsTo_buildNode`;
* `builtFrom_of_read` says what reading a document does.
-/

namespace StructGen.Schema

/-! ### Nodes stay at their places -/

namespace Graph

variable {g g' g'' : Graph} {id x : NodeId} {n : Node} {pointer : String}

theorem node_of_size_le (h : g.size ≤ x) : g.node x = {} := by
  rw [node, List.getElem?_eq_none h]
  rfl

theorem node_push (g : Graph) (n : Node) (x : NodeId) :
    (g.push n).node x = if x = g.size then n else g.node x := by
  unfold node push size
  rw [List.getElem?_append]
  grind

theorem node_set (g : Graph) (n : Node) (x : NodeId) (hid : id < g.size) :
    (g.set id n).node x = if x = id then n else g.node x := by
  unfold size at hid
  unfold node set
  rw [List.getElem?_set]
  grind

theorem find?_eq_some {pointer : String} (h : g.find? pointer = some id) :
    id < g.size ∧ (g.node id).pointer = pointer := by
  unfold find? at h
  obtain ⟨hlt, hp, -⟩ := List.findIdx?_eq_some_iff_getElem.1 h
  refine ⟨hlt, ?_⟩
  rw [node, List.getElem?_eq_getElem hlt]
  simpa using hp

/-- The nodes of a graph are at the same places in another one, which may have more. -/
def Keeps (g g' : Graph) : Prop :=
  ∀ x < g.size, x < g'.size ∧ (g'.node x).pointer = (g.node x).pointer

theorem keeps_set (hid : id < g.size) (hp : n.pointer = (g.node id).pointer) :
    g.Keeps (g.set id n) := by
  intro x hx
  rw [size_set, node_set g n x hid]
  split_ifs with h
  · exact ⟨hx, by rw [hp, h]⟩
  · exact ⟨hx, rfl⟩

/-- Whether a node of the graph is at a place. -/
def At (g : Graph) (id : NodeId) (pointer : String) : Prop :=
  id < g.size ∧ (g.node id).pointer = pointer

theorem At.keeps {pointer : String} (h : g.At id pointer) (hk : g.Keeps g') : g'.At id pointer := by
  obtain ⟨hid, hp⟩ := hk id h.1
  exact ⟨hid, hp.trans h.2⟩

/-! ### Graphs that grow -/

/-- A graph has the nodes of another one, unchanged, and perhaps more behind them. -/
def GrowsTo (g g' : Graph) : Prop := g.nodes <+: g'.nodes

theorem GrowsTo.refl (g : Graph) : g.GrowsTo g := List.prefix_refl _

theorem GrowsTo.trans (h : g.GrowsTo g') (h' : g'.GrowsTo g'') : g.GrowsTo g'' :=
  List.IsPrefix.trans h h'

theorem GrowsTo.size_le (h : g.GrowsTo g') : g.size ≤ g'.size := List.IsPrefix.length_le h

theorem GrowsTo.node_eq (h : g.GrowsTo g') (hx : x < g.size) : g'.node x = g.node x := by
  obtain ⟨more, hmore⟩ := h
  rw [node, node, ← hmore, List.getElem?_append_left hx]

theorem GrowsTo.keeps (h : g.GrowsTo g') : g.Keeps g' :=
  fun _ hx => ⟨Nat.lt_of_lt_of_le hx h.size_le, by rw [h.node_eq hx]⟩

theorem growsTo_push (g : Graph) (n : Node) : g.GrowsTo (g.push n) := List.prefix_append _ _

/-- Filling in a node leaves those before it as they are. -/
theorem GrowsTo.set (h : g.GrowsTo g') (hid : g.size ≤ id) : g.GrowsTo (g'.set id n) := by
  obtain ⟨more, hmore⟩ := h
  refine ⟨more.set (id - g.size) n, ?_⟩
  unfold Graph.set
  rw [← hmore]
  exact (List.set_append_right _ _ hid).symm

/-- A node that has been entered is there and stays as it was entered. -/
theorem GrowsTo.entered (h : (g.push n).GrowsTo g') : g.size < g'.size ∧ g'.node g.size = n := by
  have hlt : g.size < (g.push n).size := by
    rw [size_push]
    exact Nat.lt_succ_self _
  refine ⟨Nat.lt_of_lt_of_le hlt h.size_le, ?_⟩
  rw [h.node_eq hlt, node_push, if_pos rfl]

/-- The places of the nodes. -/
def pointers (g : Graph) : List String := g.nodes.map (·.pointer)

theorem find?_eq_none : g.find? pointer = none ↔ pointer ∉ g.pointers := by
  unfold find? pointers
  rw [List.findIdx?_eq_none_iff]
  simp only [beq_eq_false_iff_ne, ne_eq, List.mem_map, not_exists, not_and]

@[simp] theorem pointers_push (g : Graph) (n : Node) :
    (g.push n).pointers = g.pointers ++ [n.pointer] := by
  simp [pointers, push]

theorem pointers_set (hid : id < g.size) (hp : n.pointer = (g.node id).pointer) :
    (g.set id n).pointers = g.pointers := by
  have hlt : id < g.pointers.length := by
    rw [pointers, List.length_map]
    exact hid
  have hget : g.pointers[id] = n.pointer := by
    simp only [pointers, List.getElem_map, hp, node, List.getElem?_eq_getElem hid]
    rfl
  rw [pointers, set, List.map_set, ← hget]
  exact List.set_getElem_self hlt

/-- Only one node of a graph is at a place. -/
theorem At.unique {y : NodeId} (h : g.At x pointer) (h' : g.At y pointer)
    (hnodup : g.pointers.Nodup) : x = y := by
  have hpointer : ∀ {z}, g.At z pointer → g.pointers[z]? = some pointer := by
    rintro z ⟨hz, rfl⟩
    rw [pointers, List.getElem?_map, node, List.getElem?_eq_getElem hz]
    rfl
  have hx : x < g.pointers.length := by
    rw [pointers, List.length_map]
    exact h.1
  exact (List.getElem?_inj hx hnodup).1 ((hpointer h).trans (hpointer h').symm)

end Graph

/-! ### One call -/

/-- The schemas right below a schema, with their places: those of its properties, then that of its
items. -/
def below (entries properties : Entries) (pointer : String) : List (Json × String) :=
  properties.map (fun p => (p.2, Pointer.child (pointer ++ "/properties") p.1)) ++
    (itemsOf entries).toList.map fun schema => (schema, pointer ++ "/items")

/-- The node of a schema, given the nodes of the schemas right below it. -/
def nodeOf (entries properties : Entries) (pointer : String) (types required : List Json)
    (ids : List NodeId) : Node where
  pointer := pointer
  types := types
  required := required
  properties := (properties.map Prod.fst).zip ids
  items := ids[properties.length]?
  format := textOf entries "format"
  description := textOf entries "description"

/-- The warnings of a schema: one if its format is unknown. -/
def warningsOf (formats : List String) (entries : Entries) (pointer : String) :
    List FormatWarning :=
  ((textOf entries "format").toList.filter (!formats.contains ·)).map fun name => ⟨name, pointer⟩

namespace Builder

variable (b : Builder) (id : NodeId) (n : Node) (pointer : String) (ws : List FormatWarning)

/-- A node is entered. -/
def entered : Builder := { b with graph := b.graph.push { pointer } }

/-- A node is filled in. -/
def filled : Builder := { b with graph := b.graph.set id n }

/-- Warnings are recorded and noted. -/
def warned : Builder :=
  { b with
    warnings := b.warnings ++ ws
    notices := b.notices ++ ws.map fun w => .unknownFormat w.format w.pointer }

@[simp] theorem graph_entered : (b.entered pointer).graph = b.graph.push { pointer } := rfl

@[simp] theorem warnings_entered : (b.entered pointer).warnings = b.warnings := rfl

@[simp] theorem graph_filled : (b.filled id n).graph = b.graph.set id n := rfl

@[simp] theorem warnings_filled : (b.filled id n).warnings = b.warnings := rfl

@[simp] theorem graph_warned : (b.warned ws).graph = b.graph := rfl

@[simp] theorem warnings_warned : (b.warned ws).warnings = b.warnings ++ ws := rfl

end Builder

section Call

variable {source : Source} {fuel : Nat} {contents : Json} {pointer : String} {b : Builder}
  {E : Failure → Builder → Prop}

theorem endsIn_lift {α : Type} {x : Except Failure α} {Q : α → Builder → Prop} :
    EndsIn (Build.lift x) b Q E ↔ (∀ a, x = .ok a → Q a b) ∧ ∀ f, x = .error f → E f b := by
  cases x with
  | ok a => simp [Build.lift]
  | error f => simp [Build.lift]

theorem endsIn_enter {Q : NodeId → Builder → Prop} :
    EndsIn (Build.enter pointer) b Q E ↔ Q b.graph.size (b.entered pointer) := Iff.rfl

/-- Computing a pair for every entry is computing the second parts. -/
theorem endsIn_mapM_pairs {build : Json × String → Build NodeId} {place : String → String}
    {properties : Entries} {Q : List (String × NodeId) → Builder → Prop}
    (h : EndsIn ((properties.map fun p => (p.2, place p.1)).mapM build) b
      (fun ids b' => Q ((properties.map Prod.fst).zip ids) b') E) :
    EndsIn (properties.mapM fun p => do
      let child ← build (p.2, place p.1)
      return (p.1, child)) b Q E := by
  induction properties generalizing b Q with
  | nil => exact h
  | cons p properties ih =>
    simp only [List.map_cons, List.mapM_cons, endsIn_bind, endsIn_pure] at h ⊢
    exact h.mono (fun id b₁ h₁ => ih h₁) fun _ _ hf => hf

/-- As many results are computed as there are items. -/
theorem endsIn_mapM_length {α β : Type} {l : List α} {g : α → Build β}
    {Q : List β → Builder → Prop} (h : EndsIn (l.mapM g) b Q E) :
    EndsIn (l.mapM g) b (fun bs b' => bs.length = l.length ∧ Q bs b') E := by
  induction l generalizing b Q with
  | nil => exact ⟨rfl, h⟩
  | cons a l ih =>
    simp only [List.mapM_cons, endsIn_bind, endsIn_pure] at h ⊢
    refine h.mono (fun c b₁ h₁ => (ih h₁).mono (fun bs b₂ h₂ => ?_) fun _ _ hf => hf) fun _ _ hf => hf
    exact ⟨by rw [List.length_cons, List.length_cons, h₂.1], h₂.2⟩

/-- The schemas below a schema are read one after another. -/
theorem endsIn_below {α : Type} {build : Json × String → Build NodeId} {entries properties : Entries}
    {rest : List (String × NodeId) → Option NodeId → Build α} {Q : α → Builder → Prop}
    (h : EndsIn ((below entries properties pointer).mapM build) b (fun ids b' =>
      EndsIn (rest ((properties.map Prod.fst).zip ids) ids[properties.length]?) b' Q E) E) :
    EndsIn (properties.mapM fun p => do
        let child ← build (p.2, Pointer.child (pointer ++ "/properties") p.1)
        return (p.1, child)) b
      (fun children b' => EndsIn (match itemsOf entries with
        | some schema => do
          let items ← some <$> build (schema, pointer ++ "/items")
          rest children items
        | none => do
          let items ← pure none
          rest children items) b' Q E) E := by
  rw [below, List.mapM_append, endsIn_bind] at h
  refine endsIn_mapM_pairs ((endsIn_mapM_length h).mono (fun ids b₁ h₁ => ?_) fun _ _ hf => hf)
  obtain ⟨hlength, h₁⟩ := h₁
  rw [List.length_map] at hlength
  cases hitems : itemsOf entries with
  | none =>
    simp only [hitems, Option.toList_none, List.map_nil, List.mapM_nil, endsIn_bind, endsIn_pure,
      List.append_nil] at h₁ ⊢
    rwa [List.getElem?_eq_none (Nat.le_of_eq hlength)] at h₁
  | some schema =>
    simp only [hitems, Option.toList_some, List.map_cons, List.map_nil, List.mapM_cons,
      List.mapM_nil, endsIn_bind, endsIn_pure, endsIn_map] at h₁ ⊢
    refine h₁.mono (fun c b₂ h₂ => ?_) fun _ _ hf => hf
    -- the node of the items stands behind those of the properties
    have hzip : (properties.map Prod.fst ++ []).zip (ids ++ [c]) =
        (properties.map Prod.fst).zip ids ++ [].zip [c] :=
      List.zip_append (by rw [List.length_map, hlength])
    rw [List.append_nil, List.zip_nil_left, List.append_nil] at hzip
    rwa [hzip, ← hlength, List.getElem?_concat_length] at h₂

/-- A node is filled in, with a warning before it if its format is unknown. -/
theorem endsIn_fillWarned {formats : List String} {entries : Entries} {id : NodeId} {n : Node}
    {Q : NodeId → Builder → Prop}
    (h : Q id ((b.warned (warningsOf formats entries pointer)).filled id n)) :
    EndsIn (match textOf entries "format" with
      | some name =>
        if (!formats.contains name) = true then do
          Build.warn name pointer
          Build.fill id n
          return id
        else do
          Build.fill id n
          return id
      | none => do
        Build.fill id n
        return id) b Q E := by
  have hquiet : b.warned [] = b := by
    simp only [Builder.warned, List.append_nil, List.map_nil]
  unfold warningsOf at h
  cases hformat : textOf entries "format" with
  | none =>
    rw [hformat] at h
    exact hquiet ▸ h
  | some name =>
    rw [hformat] at h
    dsimp only
    split_ifs with hknown
    · rw [Option.toList_some, List.filter_cons, if_pos hknown] at h
      exact h
    · rw [Option.toList_some, List.filter_cons, if_neg hknown] at h
      exact hquiet ▸ h

/-- **The steps of reading a schema.** -/
theorem endsIn_buildNode {Q : NodeId → Builder → Prop}
    (found : ∀ id, b.graph.find? pointer = some id → Q id b)
    (other : (∀ entries, contents ≠ .obj entries) → E (.schemaNotObject pointer) b)
    (reference : ∀ entries reference, contents = .obj entries → b.graph.find? pointer = none →
      textOf entries "$ref" = some reference →
      (∀ f, resolveReference source.base source.contents reference = .error f →
        E f (b.entered pointer)) ∧
      ∀ schema place,
        resolveReference source.base source.contents reference = .ok (schema, place) →
        EndsIn (buildNode source fuel schema place) (b.entered pointer) (fun target b₁ =>
          (b₁.graph.target target = b.graph.size → E (.circularReference reference) b₁) ∧
          (b₁.graph.target target ≠ b.graph.size → Q b.graph.size
            (b₁.filled b.graph.size { pointer, ref := some (b₁.graph.target target) }))) E)
    (schema : ∀ entries, contents = .obj entries → b.graph.find? pointer = none →
      textOf entries "$ref" = none →
      (∀ f, typesOf entries = .error f ∨ requiredOf entries = .error f ∨
        propertiesOf entries = .error f → E f (b.entered pointer)) ∧
      ∀ types required properties, typesOf entries = .ok types →
        requiredOf entries = .ok required → propertiesOf entries = .ok properties →
        EndsIn ((below entries properties pointer).mapM fun t => buildNode source fuel t.1 t.2)
          (b.entered pointer) (fun ids b₁ => Q b.graph.size
            ((b₁.warned (warningsOf source.formats entries pointer)).filled b.graph.size
              (nodeOf entries properties pointer types required ids))) E) :
    EndsIn (buildNode source (fuel + 1) contents pointer) b Q E := by
  unfold buildNode
  simp only [endsIn_bind, endsIn_get]
  cases hfind : b.graph.find? pointer with
  | some id => exact found id hfind
  | none =>
    cases contents with
    | obj entries =>
      simp only [endsIn_bind, endsIn_enter]
      cases href : textOf entries "$ref" with
      | some r =>
        obtain ⟨hfail, hread⟩ := reference entries r rfl hfind href
        simp only [endsIn_bind, endsIn_lift, endsIn_get]
        refine ⟨fun p hp => ?_, hfail⟩
        refine (hread p.1 p.2 hp).mono (fun target b₁ h₁ => ?_) fun _ _ hf => hf
        split_ifs with hloop
        · exact h₁.1 hloop
        · exact h₁.2 hloop
      | none =>
        obtain ⟨hfail, hread⟩ := schema entries rfl hfind href
        simp only [endsIn_bind, endsIn_lift]
        refine ⟨fun types htypes => ⟨fun required hrequired => ⟨fun properties hproperties => ?_,
          fun f hf => hfail f (Or.inr (Or.inr hf))⟩, fun f hf => hfail f (Or.inr (Or.inl hf))⟩,
          fun f hf => hfail f (Or.inl hf)⟩
        have h := hread types required properties htypes hrequired hproperties
        exact endsIn_below (h.mono (fun ids b₁ h₁ => endsIn_fillWarned h₁) fun _ _ hf => hf)
    | _ => exact other fun _ => by simp

end Call

/-! ### Calls that succeed -/

/-- Reading schemas one after another, each at its place, gives their nodes and some warnings, and
leads from one graph to another. -/
inductive Builds (source : Source) :
    Graph → List (Json × String) → List NodeId → List FormatWarning → Graph → Prop
  | nil {g : Graph} : Builds source g [] [] [] g
  | found {g g' : Graph} {contents : Json} {pointer : String} {id : NodeId}
      {rest : List (Json × String)} {ids : List NodeId} {ws : List FormatWarning}
      (hfind : g.find? pointer = some id) (hrest : Builds source g rest ids ws g') :
      Builds source g ((contents, pointer) :: rest) (id :: ids) ws g'
  | reference {g g₁ g' : Graph} {entries : Entries} {pointer reference place : String}
      {schema : Json} {target : NodeId} {rest : List (Json × String)} {ids : List NodeId}
      {ws ws' : List FormatWarning}
      (hfind : g.find? pointer = none) (href : textOf entries "$ref" = some reference)
      (hresolve : resolveReference source.base source.contents reference = .ok (schema, place))
      (htarget : Builds source (g.push { pointer }) [(schema, place)] [target] ws g₁)
      (hne : g₁.target target ≠ g.size)
      (hrest : Builds source (g₁.set g.size { pointer, ref := some (g₁.target target) })
        rest ids ws' g') :
      Builds source g ((.obj entries, pointer) :: rest) (g.size :: ids) (ws ++ ws') g'
  | schema {g g₁ g' : Graph} {entries properties : Entries} {pointer : String}
      {types required : List Json} {rest : List (Json × String)} {children ids : List NodeId}
      {ws ws' : List FormatWarning}
      (hfind : g.find? pointer = none) (href : textOf entries "$ref" = none)
      (htypes : typesOf entries = .ok types) (hrequired : requiredOf entries = .ok required)
      (hproperties : propertiesOf entries = .ok properties)
      (hbelow : Builds source (g.push { pointer }) (below entries properties pointer) children ws
        g₁)
      (hrest : Builds source
        (g₁.set g.size (nodeOf entries properties pointer types required children)) rest ids ws'
        g') :
      Builds source g ((.obj entries, pointer) :: rest) (g.size :: ids)
        (ws ++ warningsOf source.formats entries pointer ++ ws') g'

namespace Builds

variable {source : Source} {g g' g'' : Graph} {tasks tasks' : List (Json × String)}
  {ids ids' : List NodeId} {ws ws' : List FormatWarning}

theorem append (h : Builds source g tasks ids ws g') (h' : Builds source g' tasks' ids' ws' g'') :
    Builds source g (tasks ++ tasks') (ids ++ ids') (ws ++ ws') g'' := by
  induction h with
  | nil => exact h'
  | found hfind _ ih => exact .found hfind (ih h')
  | reference hfind href hresolve htarget hne _ _ ih =>
    rw [List.append_assoc]
    exact .reference hfind href hresolve htarget hne (ih h')
  | schema hfind href htypes hrequired hproperties hbelow _ _ ih =>
    rw [List.append_assoc]
    exact .schema hfind href htypes hrequired hproperties hbelow (ih h')

/-- Nodes that were there before stay as they are. -/
theorem growsTo (h : Builds source g tasks ids ws g') : g.GrowsTo g' := by
  induction h with
  | nil => exact .refl _
  | found _ _ ih => exact ih
  | reference _ _ _ _ _ _ ihTarget ih =>
    exact (((Graph.growsTo_push _ _).trans ihTarget).set (Nat.le_refl _)).trans ih
  | schema _ _ _ _ _ _ _ ihBelow ih =>
    exact (((Graph.growsTo_push _ _).trans ihBelow).set (Nat.le_refl _)).trans ih

/-- The node of a schema is at its place, before the rest is read and after it. -/
theorem at_filled {pointer : String} {g₁ : Graph} {n : Node}
    (h : (g.push { pointer }).GrowsTo g₁) (hn : n.pointer = pointer) :
    (g₁.set g.size n).At g.size pointer := by
  obtain ⟨hlt, -⟩ := h.entered
  refine ⟨by rwa [Graph.size_set], ?_⟩
  rw [Graph.node_set _ _ _ hlt, if_pos rfl, hn]

/-- The nodes are at the places of the schemas. -/
theorem at_places (h : Builds source g tasks ids ws g') :
    List.Forall₂ (fun t id => g'.At id t.2) tasks ids := by
  induction h with
  | nil => exact .nil
  | found hfind hrest ih =>
    have hat : Graph.At _ _ _ := Graph.find?_eq_some hfind
    exact .cons (hat.keeps hrest.growsTo.keeps) ih
  | reference _ _ _ htarget _ hrest _ ih =>
    exact .cons ((at_filled htarget.growsTo rfl).keeps hrest.growsTo.keeps) ih
  | schema _ _ _ _ _ hbelow hrest _ ih =>
    exact .cons ((at_filled hbelow.growsTo rfl).keeps hrest.growsTo.keeps) ih

theorem length_eq (h : Builds source g tasks ids ws g') : ids.length = tasks.length :=
  h.at_places.length_eq.symm

/-- A place is entered only once. -/
theorem nodup_filled {pointer : String} {g₁ : Graph} {n : Node} (hfind : g.find? pointer = none)
    (h : g.pointers.Nodup) (hread : (g.push { pointer }).pointers.Nodup → g₁.pointers.Nodup)
    (hgrows : (g.push { pointer }).GrowsTo g₁) (hn : n.pointer = pointer) :
    (g₁.set g.size n).pointers.Nodup := by
  obtain ⟨hlt, hnode⟩ := hgrows.entered
  rw [Graph.pointers_set hlt (by rw [hnode, hn])]
  refine hread ?_
  rw [Graph.pointers_push, List.nodup_append]
  refine ⟨h, List.nodup_singleton _, fun p hp q hq hpq => ?_⟩
  rw [hpq, List.mem_singleton.1 hq] at hp
  exact Graph.find?_eq_none.1 hfind hp

/-- No two nodes are at one place. -/
theorem nodup_pointers (h : Builds source g tasks ids ws g') (hg : g.pointers.Nodup) :
    g'.pointers.Nodup := by
  induction h with
  | nil => exact hg
  | found _ _ ih => exact ih hg
  | reference hfind _ _ htarget _ _ ihTarget ih =>
    exact ih (nodup_filled hfind hg ihTarget htarget.growsTo rfl)
  | schema hfind _ _ _ _ hbelow _ ihBelow ih =>
    exact ih (nodup_filled hfind hg ihBelow hbelow.growsTo rfl)

end Builds

/-- Reading leads from one builder to another as `Builds` says. -/
def BuildsTo (source : Source) (b : Builder) (tasks : List (Json × String)) (ids : List NodeId)
    (b' : Builder) : Prop :=
  ∃ ws, Builds source b.graph tasks ids ws b'.graph ∧ b'.warnings = b.warnings ++ ws

theorem BuildsTo.refl (source : Source) (b : Builder) : BuildsTo source b [] [] b :=
  ⟨[], .nil, (List.append_nil _).symm⟩

theorem BuildsTo.append {source : Source} {b b' b'' : Builder} {tasks tasks' : List (Json × String)}
    {ids ids' : List NodeId} (h : BuildsTo source b tasks ids b')
    (h' : BuildsTo source b' tasks' ids' b'') :
    BuildsTo source b (tasks ++ tasks') (ids ++ ids') b'' := by
  obtain ⟨ws, hbuilds, hws⟩ := h
  obtain ⟨ws', hbuilds', hws'⟩ := h'
  exact ⟨ws ++ ws', hbuilds.append hbuilds', by rw [hws', hws, List.append_assoc]⟩

/-- Calls one after another do as told, if each of them does. -/
theorem buildsTo_mapM {source : Source} {build : Json × String → Build NodeId}
    (hbuild : ∀ t b, Ends (build t) b (fun id b' => BuildsTo source b [t] [id] b') fun _ => True)
    (tasks : List (Json × String)) (b : Builder) :
    Ends (tasks.mapM build) b (fun ids b' => BuildsTo source b tasks ids b') fun _ => True := by
  refine ends_mapM (fun pre ids b' => BuildsTo source b pre ids b') (.refl _ _) ?_
  intro pre t post ids b₁ _ hpre
  exact (hbuild t b₁).mono (fun id b₂ ht => hpre.append ht) fun _ hf => hf

/-- **A call that succeeds does what `Builds` says.** -/
theorem buildsTo_buildNode (source : Source) (fuel : Nat) (t : Json × String) (b : Builder) :
    Ends (buildNode source fuel t.1 t.2) b (fun id b' => BuildsTo source b [t] [id] b')
      fun _ => True := by
  induction fuel generalizing t b with
  | zero => trivial
  | succ fuel ih =>
    obtain ⟨contents, pointer⟩ := t
    -- one call is one schema with nothing behind it
    refine endsIn_buildNode (fun id hfind => ?_) (fun _ => trivial) ?_ ?_
    · exact ⟨[], .found hfind .nil, (List.append_nil _).symm⟩
    · rintro entries reference rfl hfind href
      refine ⟨fun _ _ => trivial, fun schema place hresolve => ?_⟩
      refine (ih (schema, place) (b.entered pointer)).mono (fun target b₁ h₁ => ?_) fun _ hf => hf
      obtain ⟨ws, htarget, hws⟩ := h₁
      refine ⟨fun _ => trivial, fun hne => ⟨ws, ?_, hws⟩⟩
      simpa using Builds.reference hfind href hresolve htarget hne .nil
    · rintro entries rfl hfind href
      refine ⟨fun _ _ => trivial, fun types required properties htypes hrequired hproperties => ?_⟩
      refine (buildsTo_mapM ih _ _).mono (fun ids b₁ h₁ => ?_) fun _ hf => hf
      obtain ⟨ws, hbelow, hws⟩ := h₁
      refine ⟨ws ++ warningsOf source.formats entries pointer, ?_, ?_⟩
      · simpa using Builds.schema hfind href htypes hrequired hproperties hbelow .nil
      · simp [hws]

/-! ### Documents -/

/-- The source that reading a document starts from. -/
def Source.ofDocument (custom : List String) (contents : Json) : Source where
  base := Text.dropEnd (((contents.get? "id").bind Json.str?).getD "") '#'
  contents := contents
  formats := standardFormats ++ custom

/-- The schemas of the versions of a message type, with their places. -/
def versionTasks (type : String) : Json → List (Json × String)
  | .obj versions => (sortEntries versions).map fun p =>
    (p.2, Pointer.ofSegments ["schemas", type, p.1])
  | _ => []

/-- The schemas of the messages of a document, with their places, in the order of reading. -/
def messageTasks (schemas : Entries) : List (Json × String) :=
  (sortEntries schemas).flatMap fun p => versionTasks p.1 p.2

theorem mem_messageTasks {schemas : Entries} {t : Json × String} :
    t ∈ messageTasks schemas ↔ ∃ type versions version, (type, .obj versions) ∈ schemas ∧
      (version, t.1) ∈ versions ∧ t.2 = Pointer.ofSegments ["schemas", type, version] := by
  have hsort : ∀ (entries : Entries) p, p ∈ sortEntries entries ↔ p ∈ entries :=
    fun _ _ => List.mem_mergeSort
  simp only [messageTasks, List.mem_flatMap, hsort]
  constructor
  · rintro ⟨⟨type, value⟩, hp, ht⟩
    cases value with
    | obj versions =>
      simp only [versionTasks, List.mem_map, hsort] at ht
      obtain ⟨q, hq, rfl⟩ := ht
      exact ⟨type, versions, q.1, hp, hq, rfl⟩
    | _ => cases ht
  · rintro ⟨type, versions, version, hp, hq, ht⟩
    refine ⟨(type, .obj versions), hp, ?_⟩
    simp only [versionTasks, List.mem_map, hsort]
    exact ⟨(version, t.1), hq, by rw [← ht]⟩

/-- The place of the schema of a message. -/
def Message.place (m : Message) : String := Pointer.ofSegments ["schemas", m.type, m.version]

section Documents

variable {custom : List String} {contents : Json} {b : Builder} {id type version : String}
  {source : Source} {schema versions : Json} {schemas : Entries} {E : Failure → Builder → Prop}

/-- The steps of reading one version of a message type. -/
theorem endsIn_readMessage {Q : Message → Builder → Prop}
    (hversion : ∀ f, majorVersion version = .error f → E f b)
    (hcheck : ∀ f, Metaschema.checkSchema (.invalidMessage type version) schema = .error f → E f b)
    (hbuild : ∀ major locator, majorVersion version = .ok major →
      Metaschema.checkSchema (.invalidMessage type version) schema = .ok () →
      EndsIn (buildNode source source.depth schema
        (Pointer.ofSegments ["schemas", type, version])) b (fun node b' => ∀ b'',
          b''.graph = b'.graph → b''.warnings = b'.warnings →
            Q { type, version, major, locator, node } b'') E) :
    EndsIn (readMessage id source type version schema) b Q E := by
  unfold readMessage
  simp only [endsIn_bind, endsIn_lift, endsIn_pure]
  refine ⟨fun major hmajor => ⟨fun _ hpass => ?_, hcheck⟩, hversion⟩
  exact (hbuild major _ hmajor hpass).mono (fun node b' h => h _ rfl rfl) fun _ _ hf => hf

/-- The steps of reading a document. -/
theorem endsIn_readDocument {Q : Document → Builder → Prop}
    (hshape : ∀ f, f = .documentNotObject ∨ f = .missingId ∨ f = .missingSchemas → E f b)
    (hcheck : ∀ f, Metaschema.checkSchema .invalidDocument contents = .error f → E f b)
    (hmessages : ∀ id schemas, (contents.get? "id").bind Json.str? = some id →
      contents.get? "schemas" = some (.obj schemas) →
      EndsIn ((sortEntries schemas).mapM fun p =>
        readVersions id (.ofDocument custom contents) p.1 p.2) {}
        (fun mss b' => ∀ b'', b''.graph = b'.graph →
          Q ⟨id, b'.graph, mss.flatten, b'.warnings⟩ b'') E) :
    EndsIn (readDocument custom contents) b Q E := by
  unfold readDocument
  cases contents with
  | obj entries =>
    dsimp only
    cases hid : textOf entries "id" with
    | none => exact hshape _ (Or.inr (Or.inl rfl))
    | some id =>
      dsimp only
      split_ifs
      · exact hshape _ (Or.inr (Or.inl rfl))
      · split
        · rename_i schemas hschemas
          have hsource : Source.ofDocument custom (.obj entries) =
              ⟨Text.dropEnd id '#', .obj entries, standardFormats ++ custom⟩ := by
            rw [textOf] at hid
            simp only [Source.ofDocument, Json.get?, hid, Option.getD_some]
          simp only [endsIn_bind, endsIn_lift, endsIn_pure, endsIn_set, endsIn_get]
          refine ⟨fun _ _ => ?_, hcheck⟩
          rw [← hsource]
          exact (hmessages id schemas hid hschemas).mono (fun mss b' h => h _ rfl)
            fun _ _ hf => hf
        · exact hshape _ (Or.inr (Or.inr rfl))
  | _ => exact hshape _ (Or.inl rfl)

theorem ends_readDocument {E : Failure → Prop} {Q : Document → Prop}
    (hshape : ∀ f, f = .documentNotObject ∨ f = .missingId ∨ f = .missingSchemas → E f)
    (hcheck : ∀ f, Metaschema.checkSchema .invalidDocument contents = .error f → E f)
    (hmessages : ∀ id schemas, contents.get? "schemas" = some (.obj schemas) →
      Ends ((sortEntries schemas).mapM fun p =>
        readVersions id (.ofDocument custom contents) p.1 p.2) {}
        (fun mss b' => Q ⟨id, b'.graph, mss.flatten, b'.warnings⟩) E) :
    Ends (readDocument custom contents) b (fun d _ => Q d) E :=
  endsIn_readDocument hshape hcheck fun id schemas _ hschemas =>
    (hmessages id schemas hschemas).mono (fun _ _ h _ _ => h) fun _ hf => hf

/-- Noting something leads nowhere. -/
theorem BuildsTo.of_eq {b' b'' : Builder} {tasks : List (Json × String)} {ids : List NodeId}
    (h : BuildsTo source b tasks ids b') (hgraph : b''.graph = b'.graph)
    (hwarnings : b''.warnings = b'.warnings) : BuildsTo source b tasks ids b'' := by
  obtain ⟨ws, hbuilds, hws⟩ := h
  exact ⟨ws, hgraph ▸ hbuilds, hwarnings.trans hws⟩

/-- The schemas of messages are read one after another, and each message stands at its place and has
the major version that it names. -/
structure ReadsMessages (source : Source) (b : Builder) (tasks : List (Json × String))
    (ms : List Message) (b' : Builder) : Prop where
  builds : BuildsTo source b tasks (ms.map (·.node)) b'
  places : tasks.map Prod.snd = ms.map Message.place
  majors : ∀ m ∈ ms, majorVersion m.version = .ok m.major

theorem ReadsMessages.refl (source : Source) (b : Builder) : ReadsMessages source b [] [] b :=
  ⟨.refl _ _, rfl, by simp⟩

theorem ReadsMessages.append {b' b'' : Builder} {tasks tasks' : List (Json × String)}
    {ms ms' : List Message} (h : ReadsMessages source b tasks ms b')
    (h' : ReadsMessages source b' tasks' ms' b'') :
    ReadsMessages source b (tasks ++ tasks') (ms ++ ms') b'' := by
  refine ⟨?_, ?_, List.forall_mem_append.2 ⟨h.majors, h'.majors⟩⟩
  · rw [List.map_append]
    exact h.builds.append h'.builds
  · rw [List.map_append, List.map_append, h.places, h'.places]

theorem readsMessages_readVersions :
    Ends (readVersions id source type versions) b
      (fun ms b' => ReadsMessages source b (versionTasks type versions) ms b')
      fun _ => True := by
  unfold readVersions
  split
  · rw [versionTasks]
    refine ends_mapM (fun (pre : Entries) (ms : List Message) b' => ReadsMessages source b
      (pre.map fun p => (p.2, Pointer.ofSegments ["schemas", type, p.1])) ms b') (.refl _ _) ?_
    intro pre p post ms b₁ _ hpre
    refine endsIn_readMessage (fun _ _ => trivial) (fun _ _ => trivial)
      fun major locator hmajor _ => ?_
    refine (buildsTo_buildNode source _ (p.2, _) b₁).mono (fun node b₂ h₂ b₃ hgraph hwarnings => ?_)
      fun _ hf => hf
    rw [List.map_append]
    exact hpre.append ⟨h₂.of_eq hgraph hwarnings, rfl, by simpa using hmajor⟩
  · trivial

theorem readsMessages_readTypes (schemas : Entries) (b : Builder) :
    Ends (schemas.mapM fun p => readVersions id source p.1 p.2) b
      (fun mss b' => ReadsMessages source b (schemas.flatMap fun p => versionTasks p.1 p.2)
        mss.flatten b') fun _ => True := by
  refine ends_mapM (fun (pre : Entries) (mss : List (List Message)) b' => ReadsMessages source b
    (pre.flatMap fun p => versionTasks p.1 p.2) mss.flatten b') (.refl _ _) ?_
  intro pre p post mss b₁ _ hpre
  refine readsMessages_readVersions.mono (fun ms b₂ h₂ => ?_) fun _ hf => hf
  simp only [List.flatMap_append, List.flatMap_cons, List.flatMap_nil, List.append_nil,
    List.flatten_append, List.flatten_singleton]
  exact hpre.append h₂

/-- What a document that has been read tells about reading it. -/
theorem of_read_eq_ok {E : Failure → Prop} {d : Document} {Q : Document → Prop}
    (hends : Ends (readDocument custom contents) {} (fun d _ => Q d) E)
    (h : (read custom contents).1 = .ok d) : Q d := by
  simp only [read, outcome] at h
  cases hread : readDocument custom contents {} with
  | ok d' b' =>
    rw [hread] at h
    cases h
    exact hends.of_ok hread
  | error f b' =>
    rw [hread] at h
    cases h

/-- The identifier of a document is a text under its keyword. -/
theorem id_of_read {d : Document} (h : (read custom contents).1 = .ok d) :
    (contents.get? "id").bind Json.str? = some d.id := by
  refine of_read_eq_ok (Q := fun d => (contents.get? "id").bind Json.str? = some d.id)
    (E := fun _ => True) ?_ h
  refine endsIn_readDocument (fun _ _ => trivial) (fun _ _ => trivial) fun id schemas hid _ => ?_
  exact EndsIn.mono (ends_trivial _ _) (fun _ _ _ _ _ => hid) fun _ _ hf => hf

/-- A document is what reading some contents with the given schemas of messages gives: the schemas are
read one after another, and each message stands at its place and has the major version that it
names. -/
structure Document.BuiltFrom (custom : List String) (contents : Json) (schemas : Entries)
    (d : Document) : Prop where
  given : contents.get? "schemas" = some (.obj schemas)
  builds : Builds (.ofDocument custom contents) {} (messageTasks schemas)
    (d.messages.map (·.node)) d.warnings d.graph
  places : (messageTasks schemas).map Prod.snd = d.messages.map Message.place
  majors : ∀ m ∈ d.messages, majorVersion m.version = .ok m.major

/-- **What reading a document does.** -/
theorem builtFrom_of_read {d : Document} (h : (read custom contents).1 = .ok d) :
    ∃ schemas, d.BuiltFrom custom contents schemas := by
  refine of_read_eq_ok (Q := fun d => ∃ schemas, d.BuiltFrom custom contents schemas)
    (E := fun _ => True) ?_ h
  refine ends_readDocument (fun _ _ => trivial) (fun _ _ => trivial) fun id schemas hschemas => ?_
  refine (readsMessages_readTypes _ _).mono (fun mss b' h' => ?_) fun _ hf => hf
  obtain ⟨ws, hbuilds, hws⟩ := h'.builds
  rw [List.nil_append] at hws
  exact ⟨schemas, hschemas, hws ▸ hbuilds, h'.places, h'.majors⟩

end Documents

end StructGen.Schema
