import StructGen.Proofs.FaithfulGraph
import StructGen.Proofs.SortedKeys
import StructGen.Proofs.TwinGraphs

/-!
# Documents that are read alike

Two documents are read step by step, each schema of the first with its twin in the second at the
same place. If twins have the same keywords and their references lead to twins, reading the second
document follows reading the first, and the graphs that come out are the same but for the
descriptions.

* `Schema.SameKeywords` says what two schemas have in common for reading, `Source.Twins` says it of
  all schemas of two documents;
* `follows_buildNode` reads a schema and its twin;
* `read_of_twins` is the result.
-/

namespace StructGen

theorem follows_bind_of_fails {ε σ α β α' : Type} {x : EStateM ε σ α} {f : α → EStateM ε σ α'}
    {y : EStateM ε σ β} {s t : σ} {Q : α' → β → σ → σ → Prop} (h : ∀ a s', x s ≠ .ok a s') :
    Follows (x >>= f) y s t Q := by
  intro c s'' hc
  change EStateM.bind x f s = _ at hc
  unfold EStateM.bind at hc
  cases hx : x s with
  | error e s' =>
    rw [hx] at hc
    cases hc
  | ok a s' => exact absurd hx (h a s')

namespace Schema

/-! ### Graphs that are the same but for descriptions -/

/-- Two nodes say the same, their descriptions being related by `R`. -/
structure Node.Alike (R : Option String → Option String → Prop) (n n' : Node) : Prop where
  same : n' = { n with description := n'.description }
  description : R n.description n'.description

/-- The nodes of two graphs say the same one by one. -/
def Graph.Alike (R : Option String → Option String → Prop) (g g' : Graph) : Prop :=
  List.Forall₂ (Node.Alike R) g.nodes g'.nodes

section Graphs

variable {R : Option String → Option String → Prop} {g g' : Graph} {n n' : Node}

/-- What does not look at descriptions is the same for all nodes. -/
theorem Graph.Alike.map_eq (h : g.Alike R g') {α : Type} {f : Node → α}
    (hf : ∀ (n : Node) d, f { n with description := d } = f n) :
    g.nodes.map f = g'.nodes.map f := by
  unfold Graph.Alike at h
  generalize g.nodes = nodes at h
  generalize g'.nodes = nodes' at h
  induction h with
  | nil => rfl
  | @cons n n' _ _ hn _ ih =>
    have hfn : f n = f n' := (hf n n'.description).symm.trans (congrArg f hn.same.symm)
    rw [List.map_cons, List.map_cons, ih, hfn]

theorem Graph.Alike.pointers (h : g.Alike R g') : g.pointers = g'.pointers :=
  h.map_eq fun _ _ => rfl

theorem Graph.Alike.size (h : g.Alike R g') : g.size = g'.size := List.Forall₂.length_eq h

theorem Graph.Alike.find? (h : g.Alike R g') (pointer : String) :
    g.find? pointer = g'.find? pointer := by
  have hfind : ∀ g : Graph, g.find? pointer = g.pointers.findIdx? (· == pointer) := by
    intro g
    rw [Graph.find?, Graph.pointers, List.findIdx?_map]
    rfl
  rw [hfind, hfind, h.pointers]

/-- What does not look at descriptions is the same for nodes with the same number. -/
theorem Graph.Alike.apply_node (h : g.Alike R g') {α : Type} {f : Node → α}
    (hf : ∀ (n : Node) d, f { n with description := d } = f n) (x : NodeId) :
    f (g.node x) = f (g'.node x) := by
  have hnode : ∀ g : Graph, f (g.node x) = (g.nodes.map f)[x]?.getD (f {}) := by
    intro g
    rw [Graph.node, List.getElem?_map]
    cases g.nodes[x]? with
    | none => rfl
    | some n => rfl
  rw [hnode, hnode, h.map_eq hf]

theorem Graph.Alike.ref (h : g.Alike R g') (x : NodeId) : (g.node x).ref = (g'.node x).ref :=
  h.apply_node (f := (·.ref)) (fun _ _ => rfl) x

theorem Graph.Alike.target (h : g.Alike R g') (x : NodeId) : g.target x = g'.target x := by
  rw [Graph.target, Graph.target, h.ref]

theorem Graph.Alike.push (h : g.Alike R g') (hn : n.Alike R n') :
    (g.push n).Alike R (g'.push n') :=
  List.rel_append h (.cons hn .nil)

theorem forall₂_set {α β : Type} {P : α → β → Prop} {l : List α} {l' : List β} {a : α} {b : β}
    (h : List.Forall₂ P l l') (hab : P a b) (i : Nat) :
    List.Forall₂ P (l.set i a) (l'.set i b) := by
  induction h generalizing i with
  | nil => exact .nil
  | cons hxy hrest ih =>
    cases i with
    | zero => exact .cons hab hrest
    | succ i => exact .cons hxy (ih i)

theorem Graph.Alike.set (h : g.Alike R g') (hn : n.Alike R n') (id : NodeId) :
    (g.set id n).Alike R (g'.set id n') := forall₂_set h hn id

end Graphs

/-! ### Twins -/

/-- Two schemas at a place say the same to reading: their keywords are the same or hold twins.
Beside a reference the schemas inside do not count. -/
structure SameKeywords (R : Option String → Option String → Prop) (S : Json → Json → String → Prop)
    (pointer : String) (entries entries' : Entries) : Prop where
  reference : textOf entries' "$ref" = textOf entries "$ref"
  types : ∀ types, typesOf entries = .ok types → typesOf entries' = .ok types
  required : ∀ names, requiredOf entries = .ok names → requiredOf entries' = .ok names
  properties : textOf entries "$ref" = none → ∀ properties, propertiesOf entries = .ok properties →
    ∃ properties', propertiesOf entries' = .ok properties' ∧
      List.Forall₂ (fun p q => p.1 = q.1 ∧
        S p.2 q.2 (Pointer.child (pointer ++ "/properties") p.1)) properties properties'
  items : textOf entries "$ref" = none → ∀ properties, propertiesOf entries = .ok properties →
    Option.Rel (fun schema schema' => S schema schema' (pointer ++ "/items"))
      (itemsOf entries) (itemsOf entries')
  format : textOf entries' "format" = textOf entries "format"
  description : R (textOf entries "description") (textOf entries' "description")

/-- The schemas of two documents are twins under `S`, place by place. A reference leads to twins, or
to something that is no schema at a place where none can be. -/
structure Source.Twins (R : Option String → Option String → Prop)
    (S : Json → Json → String → Prop) (source source' : Source) : Prop where
  absent : R none none
  formats : source.formats = source'.formats
  depth : source.depth ≤ source'.depth
  keywords : ∀ {entries schema pointer}, S (.obj entries) schema pointer →
    ∃ entries', schema = .obj entries' ∧ SameKeywords R S pointer entries entries'
  target : ∀ {entries schema pointer reference value place}, S (.obj entries) schema pointer →
    textOf entries "$ref" = some reference →
    resolveReference source.base source.contents reference = .ok (value, place) →
    (∃ value', resolveReference source'.base source'.contents reference = .ok (value', place) ∧
      S value value' place) ∨
    (∀ inner, value ≠ .obj inner) ∧ ∀ inner schema, ¬ S (.obj inner) schema place
  check : ∀ {schema schema' pointer failure}, S schema schema' pointer →
    Metaschema.checkSchema failure schema = .ok () →
    Metaschema.checkSchema failure schema' = .ok ()

/-- Two builders have found the same, and only at places where schemas can be. -/
structure Builder.Alike (R : Option String → Option String → Prop)
    (S : Json → Json → String → Prop) (b b' : Builder) : Prop where
  graph : b.graph.Alike R b'.graph
  warnings : b.warnings = b'.warnings
  places : ∀ p ∈ b.graph.pointers, ∃ entries schema, S (.obj entries) schema p

variable {R : Option String → Option String → Prop} {S : Json → Json → String → Prop}
  {source source' : Source} {b b' : Builder} {entries : Entries} {schema schema' : Json}
  {pointer : String}

/-! ### Steps of reading -/

/-- Two steps of reading give the same result and find the same. -/
abbrev Steps (R : Option String → Option String → Prop) (S : Json → Json → String → Prop)
    {α : Type} (x y : Build α) (b b' : Builder) : Prop :=
  Follows x y b b' fun a a' s s' => a = a' ∧ s.Alike R S s'

theorem Steps.map {α β : Type} {x y : Build α} (h : Steps R S x y b b') (f : α → β) :
    Steps R S (f <$> x) (f <$> y) b b' := by
  rw [map_eq_pure_bind, map_eq_pure_bind]
  refine Follows.bind h ?_
  rintro a _ s s' ⟨rfl, hs⟩
  exact follows_pure ⟨rfl, hs⟩

theorem steps_lift {α : Type} {x y : Except Failure α} (h : ∀ a, x = .ok a → y = .ok a)
    (hb : b.Alike R S b') : Steps R S (Build.lift x) (Build.lift y) b b' := by
  cases x with
  | error f => exact follows_throw f
  | ok a =>
    rw [h a rfl]
    exact follows_pure ⟨rfl, hb⟩

theorem steps_note (n n' : Notice) (hb : b.Alike R S b') :
    Steps R S (Build.note n) (Build.note n') b b' :=
  follows_modify ⟨rfl, hb.graph, hb.warnings, hb.places⟩

theorem steps_warn (format pointer : String) (hb : b.Alike R S b') :
    Steps R S (Build.warn format pointer) (Build.warn format pointer) b b' := by
  refine (steps_note _ _ hb).bind ?_
  rintro _ _ b₁ b₁' ⟨-, hb₁⟩
  refine follows_modify ⟨rfl, hb₁.graph, ?_, hb₁.places⟩
  rw [hb₁.warnings]

theorem steps_enter (hR : R none none) (hschema : S (.obj entries) schema pointer)
    (hb : b.Alike R S b') : Steps R S (Build.enter pointer) (Build.enter pointer) b b' := by
  rintro _ _ ⟨⟩
  refine ⟨_, _, rfl, hb.graph.size, hb.graph.push ⟨rfl, hR⟩, hb.warnings, fun p hp => ?_⟩
  rw [Graph.pointers_push, List.mem_append, List.mem_singleton] at hp
  rcases hp with hp | rfl
  · exact hb.places p hp
  · exact ⟨_, _, hschema⟩

theorem steps_fill {id : NodeId} {n n' : Node} (hschema : S (.obj entries) schema n.pointer)
    (hn : n.Alike R n') (hb : b.Alike R S b') :
    Steps R S (Build.fill id n) (Build.fill id n') b b' := by
  refine follows_modify ⟨rfl, hb.graph.set hn id, hb.warnings, fun p hp => ?_⟩
  obtain ⟨m, hm, rfl⟩ := List.mem_map.1 hp
  rcases List.mem_or_eq_of_mem_set hm with hm | rfl
  · exact hb.places _ (List.mem_map_of_mem hm)
  · exact ⟨_, _, hschema⟩

/-- A node is filled in, with a warning before it if its format is unknown. -/
theorem steps_fillWarned {id : NodeId} {n n' : Node} {formats : List String}
    {format : Option String}
    (hschema : S (.obj entries) schema n.pointer) (hn : n.Alike R n') (hb : b.Alike R S b') :
    Steps R S
      (match format with
        | some name =>
          if (!formats.contains name) = true then do
            Build.warn name pointer
            Build.fill id n
            return id
          else do
            Build.fill id n
            return id
        | none => do
          Build.fill id n
          return id)
      (match format with
        | some name =>
          if (!formats.contains name) = true then do
            Build.warn name pointer
            Build.fill id n'
            return id
          else do
            Build.fill id n'
            return id
        | none => do
          Build.fill id n'
          return id) b b' := by
  have hfill : ∀ {b b' : Builder}, b.Alike R S b' → Steps R S
      (do Build.fill id n; return id) (do Build.fill id n'; return id) b b' := by
    intro b b' hb
    refine (steps_fill hschema hn hb).bind ?_
    rintro _ _ b₁ b₁' ⟨-, hb₁⟩
    exact follows_pure ⟨rfl, hb₁⟩
  cases format with
  | none => exact hfill hb
  | some name =>
    dsimp only
    split_ifs
    · refine (steps_warn name pointer hb).bind ?_
      rintro _ _ b₁ b₁' ⟨-, hb₁⟩
      exact hfill hb₁
    · exact hfill hb

/-- What is no schema cannot be read at a place that has not been entered. -/
theorem buildNode_fails {fuel : Nat} {value : Json} (hvalue : ∀ inner, value ≠ .obj inner)
    (hplace : pointer ∉ b.graph.pointers) (id : NodeId) (b₁ : Builder) :
    buildNode source fuel value pointer b ≠ .ok id b₁ := by
  have hends : Ends (buildNode source fuel value pointer) b (fun _ _ => False) fun _ => True := by
    cases fuel with
    | zero => trivial
    | succ fuel =>
      refine endsIn_buildNode (fun id hfind => ?_) (fun _ => trivial) ?_ ?_
      · rw [Graph.find?_eq_none.2 hplace] at hfind
        cases hfind
      · exact fun inner _ hinner => absurd hinner (hvalue inner)
      · exact fun inner hinner => absurd hinner (hvalue inner)
  exact fun h => hends.of_ok h

/-- Properties are read one after another. -/
theorem steps_properties {properties properties' : Entries} {place : String → String}
    {build build' : Json → String → Build NodeId}
    (hproperties : List.Forall₂ (fun p q => p.1 = q.1 ∧ S p.2 q.2 (place p.1))
      properties properties')
    (hbuild : ∀ {schema schema' pointer b b'}, S schema schema' pointer → b.Alike R S b' →
      Steps R S (build schema pointer) (build' schema' pointer) b b')
    (hb : b.Alike R S b') :
    Steps R S
      (properties.mapM fun p => do
        let child ← build p.2 (place p.1)
        return (p.1, child))
      (properties'.mapM fun p => do
        let child ← build' p.2 (place p.1)
        return (p.1, child)) b b' := by
  refine follows_mapM hproperties (fun p q s t hpq hst => ?_) hb
  rw [← hpq.1]
  refine (hbuild hpq.2 hst).bind ?_
  rintro child _ s₁ t₁ ⟨rfl, hst₁⟩
  exact follows_pure ⟨rfl, hst₁⟩

/-- **Reading a schema of the second document follows reading its twin in the first.** -/
theorem follows_buildNode (h : Source.Twins R S source source') {fuel fuel' : Nat}
    (hfuel : fuel ≤ fuel') (hschema : S schema schema' pointer) (hb : b.Alike R S b') :
    Steps R S (buildNode source fuel schema pointer) (buildNode source' fuel' schema' pointer) b
      b' := by
  induction fuel generalizing fuel' schema schema' pointer b b' with
  | zero => exact follows_throw _
  | succ fuel ih =>
    obtain ⟨fuel', rfl⟩ : ∃ k, fuel' = k + 1 := ⟨fuel' - 1, by omega⟩
    have hread : ∀ {schema schema' pointer b b'}, S schema schema' pointer → b.Alike R S b' →
        Steps R S (buildNode source fuel schema pointer) (buildNode source' fuel' schema' pointer)
          b b' := fun hschema hb => ih (by omega) hschema hb
    unfold buildNode
    refine follows_get_bind ?_
    rw [← hb.graph.find? pointer]
    cases hfind : b.graph.find? pointer with
    | some id => exact follows_pure ⟨rfl, hb⟩
    | none =>
      cases schema with
      | obj entries =>
        obtain ⟨entries', rfl, hsame⟩ := h.keywords hschema
        refine (steps_enter h.absent hschema hb).bind ?_
        rintro id _ b₁ b₁' ⟨rfl, hb₁⟩
        rw [hsame.reference]
        cases href : textOf entries "$ref" with
        | some reference =>
          dsimp only
          cases hresolve : resolveReference source.base source.contents reference with
          | error f => exact follows_throw f
          | ok found =>
            obtain ⟨value, place⟩ := found
            rcases h.target hschema href hresolve with
              ⟨value', hresolve', hvalue⟩ | ⟨hvalue, hplace⟩
            · rw [hresolve']
              refine (hread hvalue hb₁).bind ?_
              rintro target _ b₂ b₂' ⟨rfl, hb₂⟩
              refine follows_get_bind ?_
              rw [← hb₂.graph.target]
              split_ifs
              · exact follows_throw _
              · refine (steps_fill hschema ⟨rfl, h.absent⟩ hb₂).bind ?_
                rintro _ _ b₃ b₃' ⟨-, hb₃⟩
                exact follows_pure ⟨rfl, hb₃⟩
            · refine follows_bind_of_fails (x := buildNode source fuel value place)
                (buildNode_fails hvalue fun hmem => ?_)
              obtain ⟨inner, w, hw⟩ := hb₁.places place hmem
              exact hplace inner w hw
        | none =>
          dsimp only
          refine (steps_lift hsame.types hb₁).bind ?_
          rintro types _ b₂ b₂' ⟨rfl, hb₂⟩
          refine (steps_lift hsame.required hb₂).bind ?_
          rintro required _ b₃ b₃' ⟨rfl, hb₃⟩
          cases hproperties : propertiesOf entries with
          | error f => exact follows_throw f
          | ok properties =>
            obtain ⟨properties', hproperties', htwins⟩ :=
              hsame.properties href properties hproperties
            rw [hproperties']
            refine (steps_properties htwins hread hb₃).bind ?_
            rintro children _ b₄ b₄' ⟨rfl, hb₄⟩
            have hn : ∀ items, Node.Alike R
                { pointer, types, required, properties := children, items,
                  format := textOf entries "format"
                  description := textOf entries "description" }
                { pointer, types, required, properties := children, items,
                  format := textOf entries "format"
                  description := textOf entries' "description" } :=
              fun items => ⟨rfl, hsame.description⟩
            rw [hsame.format, ← h.formats]
            rcases optionRel_cases (hsame.items href properties hproperties) with
              ⟨hitems, hitems'⟩ | ⟨item, item', hitems, hitems', hitem⟩
            · rw [hitems, hitems']
              exact steps_fillWarned hschema (hn none) hb₄
            · rw [hitems, hitems']
              refine ((hread hitem hb₄).map some).bind ?_
              rintro items _ b₅ b₅' ⟨rfl, hb₅⟩
              exact steps_fillWarned hschema (hn items) hb₅
      | _ => exact follows_throw _

/-! ### Plain references -/

/-- The name that a segment gives to a part; items have none. -/
def segmentName (v : Json) (segment : List Char) : String :=
  match v with
  | .obj _ => String.ofList (Pointer.unescapeChars segment)
  | _ => ""

/-- One segment is followed to a part, and the others from there. -/
theorem lookUpFrom_cons {p : Place} {segment : List Char} {segments : List (List Char)}
    {value : Json} : lookUpFrom p (segment :: segments) = .ok (some value) ↔
    ∃ inner q, part p.value segment = .ok (some inner) ∧
      p.enter (segmentName p.value segment) inner = .ok q ∧
      lookUpFrom q segments = .ok (some value) := by
  rw [lookUpFrom]
  constructor
  · intro h
    obtain ⟨found, hpart, h⟩ := bind_eq_ok.1 h
    cases found with
    | none => cases h
    | some inner =>
      obtain ⟨q, hq, h⟩ := bind_eq_ok.1 h
      exact ⟨inner, q, hpart, hq, h⟩
  · rintro ⟨inner, q, hpart, hq, h⟩
    exact bind_eq_ok.2 ⟨some inner, hpart, bind_eq_ok.2 ⟨q, hq, h⟩⟩

/-- A plain reference names the whole document or a place to which the segments of a pointer lead,
and it names the same place of any other document with the same identifier. -/
theorem resolveReference_cases {base reference place : String} {contents value : Json}
    (hplain : isPlainReference reference = true)
    (h : resolveReference base contents reference = .ok (value, place)) (contents' : Json) :
    value = contents ∧ place = "" ∧
        resolveReference base contents' reference = .ok (contents', place) ∨
      ∃ pointer, place = String.ofList ('/' :: pointer) ∧
        lookUp base contents (pointer.splitOn '/') = .ok (some value) ∧
        ∀ value', lookUp base contents' (pointer.splitOn '/') = .ok (some value') →
          resolveReference base contents' reference = .ok (value', place) := by
  unfold resolveReference at h
  obtain ⟨⟨url, fragment⟩, hdefragment, h⟩ := bind_eq_ok.1 h
  simp only [isPlainReference, hdefragment, bne_iff_ne, ne_eq] at hplain
  dsimp only at h
  -- the tests on the way do not look at the document
  by_cases hurl : (!url.isEmpty && Text.dropEnd url '#' != base) = true
  · rw [if_pos hurl] at h
    cases h
  rw [if_neg hurl] at h
  by_cases hpointer : (!(Uri.percentDecode fragment).isEmpty &&
      (Uri.percentDecode fragment).head? != some '/') = true
  · rw [if_pos hpointer] at h
    cases h
  rw [if_neg hpointer] at h
  obtain ⟨found, hfound, h⟩ := bind_eq_ok.1 h
  have hresolve : ∀ value', schemaAt? base contents' fragment = .ok (some value') →
      resolveReference base contents' reference =
        .ok (value', String.ofList (Uri.percentDecode fragment)) := by
    intro value' hvalue'
    unfold resolveReference
    refine bind_eq_ok.2 ⟨_, hdefragment, ?_⟩
    dsimp only
    rw [if_neg hurl, if_neg hpointer]
    exact bind_eq_ok.2 ⟨_, hvalue', rfl⟩
  cases found with
  | none => cases h
  | some found =>
    cases h
    cases fragment with
    | nil =>
      cases hfound
      exact Or.inl ⟨rfl, rfl, hresolve _ rfl⟩
    | cons c cs =>
      have hdecode : Uri.percentDecode (c :: cs) = c :: Uri.percentDecode cs :=
        Uri.percentDecode_cons (by simpa using hplain) cs
      rw [hdecode] at hpointer hresolve ⊢
      obtain rfl : c = '/' := by simpa using hpointer
      exact Or.inr ⟨Uri.percentDecode cs, rfl, hfound, hresolve⟩

/-! ### Entries under the same keys -/

/-- Two entries have the same key, and their values are related by `P` for that key. -/
abbrev SameKey {α β : Type} (P : String → α → β → Prop) (p : String × α) (q : String × β) : Prop :=
  p.1 = q.1 ∧ P p.1 p.2 q.2

section SameKeys

variable {α β : Type} {P : String → α → β → Prop} {entries : List (String × α)}
  {entries' : List (String × β)}

/-- Values under the same key of two objects belong together. -/
theorem lookup_of_sameKey (h : List.Forall₂ (SameKey P) entries entries') (key : String) :
    Option.Rel (P key) (entries.lookup key) (entries'.lookup key) := by
  induction h with
  | nil => exact .none
  | @cons p q _ _ hpq _ ih =>
    obtain ⟨k, a⟩ := p
    obtain ⟨k', b⟩ := q
    obtain ⟨rfl, hab⟩ := hpq
    rw [List.lookup_cons, List.lookup_cons]
    by_cases hk : key = k
    · subst hk
      simpa using hab
    · rw [beq_eq_false_iff_ne.2 hk]
      exact ih

theorem keys_of_sameKey (h : List.Forall₂ (SameKey P) entries entries') :
    entries.map Prod.fst = entries'.map Prod.fst := by
  induction h with
  | nil => rfl
  | cons hpq _ ih => rw [List.map_cons, List.map_cons, ih, hpq.1]

/-- Sorting keeps entries together that have the same key at the same position. -/
theorem forall₂_sortEntries_of_sameKey (h : List.Forall₂ (SameKey P) entries entries') :
    List.Forall₂ (SameKey P) (sortEntries entries) (sortEntries entries') := by
  -- both lists are the two sides of one list of pairs, which is sorted in their place
  let pairs := entries.zip entries'
  have hpairs : ∀ x ∈ pairs, SameKey P x.1 x.2 := fun x hx => List.forall₂_zip h hx
  let sorted := pairs.mergeSort fun x y => decide (x.1.1 ≤ y.1.1)
  have hleft : sorted.map Prod.fst = sortEntries entries := by
    have hmap : pairs.map Prod.fst = entries := List.map_fst_zip (Nat.le_of_eq h.length_eq)
    refine (List.map_mergeSort ?_).trans (congrArg sortEntries hmap)
    exact fun _ _ _ _ => rfl
  have hright : sorted.map Prod.snd = sortEntries entries' := by
    have hmap : pairs.map Prod.snd = entries' := List.map_snd_zip (Nat.le_of_eq h.length_eq.symm)
    refine (List.map_mergeSort fun x hx y hy => ?_).trans (congrArg sortEntries hmap)
    rw [(hpairs x hx).1, (hpairs y hy).1]
  rw [← hleft, ← hright, List.forall₂_map_left_iff, List.forall₂_map_right_iff]
  exact List.forall₂_same.2 fun x hx => hpairs x (List.mem_mergeSort.1 hx)

end SameKeys

/-! ### Documents -/

/-- The versions of a message type hold twins. -/
def TwinVersions (S : Json → Json → String → Prop) (type : String) (versions versions' : Json) :
    Prop :=
  ∀ entries, versions = .obj entries → ∃ entries', versions' = .obj entries' ∧
    List.Forall₂ (SameKey fun version schema schema' =>
      S schema schema' (Pointer.ofSegments ["schemas", type, version])) entries entries'

/-- Two documents have the same identifier, and their messages are twins. -/
structure TwinDocuments (R : Option String → Option String → Prop)
    (S : Json → Json → String → Prop) (custom : List String) (contents contents' : Json) :
    Prop where
  id : (contents.get? "id").bind Json.str? = (contents'.get? "id").bind Json.str?
  schemas : ∀ schemas, contents.get? "schemas" = some (.obj schemas) → ∃ schemas',
    contents'.get? "schemas" = some (.obj schemas') ∧
      List.Forall₂ (SameKey (TwinVersions S)) schemas schemas'
  check : Metaschema.checkSchema .invalidDocument contents = .ok () →
    Metaschema.checkSchema .invalidDocument contents' = .ok ()
  source : Source.Twins R S (.ofDocument custom contents) (.ofDocument custom contents')

theorem steps_readMessage (h : Source.Twins R S source source') {id type version : String}
    (hschema : S schema schema' (Pointer.ofSegments ["schemas", type, version]))
    (hb : b.Alike R S b') :
    Steps R S (readMessage id source type version schema)
      (readMessage id source' type version schema') b b' := by
  unfold readMessage
  refine (steps_lift (fun _ hmajor => hmajor) hb).bind ?_
  rintro major _ b₁ b₁' ⟨rfl, hb₁⟩
  refine (steps_lift (fun _ hcheck => h.check hschema hcheck) hb₁).bind ?_
  rintro _ _ b₂ b₂' ⟨-, hb₂⟩
  refine (follows_buildNode h h.depth hschema hb₂).bind ?_
  rintro node _ b₃ b₃' ⟨rfl, hb₃⟩
  refine (steps_note _ _ hb₃).bind ?_
  rintro _ _ b₄ b₄' ⟨-, hb₄⟩
  exact follows_pure ⟨rfl, hb₄⟩

theorem steps_readVersions (h : Source.Twins R S source source') {id type : String}
    {versions versions' : Json} (hversions : TwinVersions S type versions versions')
    (hb : b.Alike R S b') :
    Steps R S (readVersions id source type versions) (readVersions id source' type versions') b
      b' := by
  unfold readVersions
  cases versions with
  | obj entries =>
    obtain ⟨entries', rfl, hentries⟩ := hversions entries rfl
    refine follows_mapM (forall₂_sortEntries_of_sameKey hentries) ?_ hb
    rintro ⟨version, schema⟩ ⟨_, schema'⟩ s t ⟨rfl, hschema⟩ hst
    exact steps_readMessage h hschema hst
  | _ => exact follows_throw _

/-- Two documents that were read are the same but for descriptions. -/
structure Document.Alike (R : Option String → Option String → Prop) (d d' : Document) : Prop where
  id : d.id = d'.id
  graph : d.graph.Alike R d'.graph
  messages : d.messages = d'.messages
  warnings : d.warnings = d'.warnings

/-- With the same descriptions they are the same. -/
theorem Document.Alike.eq {d d' : Document} (h : d.Alike Eq d') : d = d' := by
  have hnodes : d.graph.nodes = d'.graph.nodes := by
    refine List.forall₂_eq_eq_eq ▸ List.Forall₂.imp (fun n n' hn => ?_) h.graph
    rw [hn.same, ← hn.description]
  obtain ⟨id, ⟨nodes⟩, messages, warnings⟩ := d
  obtain ⟨id', ⟨nodes'⟩, messages', warnings'⟩ := d'
  cases h.id
  cases h.messages
  cases h.warnings
  cases hnodes
  rfl

theorem steps_readTypes (h : Source.Twins R S source source') {id : String}
    {schemas schemas' : Entries}
    (hschemas : List.Forall₂ (SameKey (TwinVersions S)) schemas schemas')
    (hb : b.Alike R S b') :
    Steps R S
      ((sortEntries schemas).mapM fun p => readVersions id source p.1 p.2)
      ((sortEntries schemas').mapM fun p => readVersions id source' p.1 p.2) b b' := by
  refine follows_mapM (forall₂_sortEntries_of_sameKey hschemas) ?_ hb
  rintro ⟨type, versions⟩ ⟨_, versions'⟩ s t ⟨rfl, hversions⟩ hst
  exact steps_readVersions h hversions hst

theorem follows_readDocument {custom : List String} {contents contents' : Json}
    (h : TwinDocuments R S custom contents contents') :
    Follows (readDocument custom contents) (readDocument custom contents') b b'
      fun d d' _ _ => d.Alike R d' := by
  cases contents with
  | obj entries =>
    unfold readDocument
    dsimp only
    cases hid : textOf entries "id" with
    | none => rintro _ _ ⟨⟩
    | some id =>
      dsimp only
      by_cases hempty : id.isEmpty = true
      · rw [if_pos hempty]
        rintro _ _ ⟨⟩
      rw [if_neg hempty]
      cases hschemas : entries.lookup "schemas" with
      | none => rintro _ _ ⟨⟩
      | some schemas =>
        cases schemas with
        | obj schemas =>
          obtain ⟨schemas', hget, htwins⟩ := h.schemas schemas hschemas
          obtain ⟨entries', rfl, hschemas'⟩ := Json.get?_eq_some hget
          have hid' : textOf entries' "id" = some id := h.id.symm.trans hid
          have hsource : ∀ {entries : Entries}, textOf entries "id" = some id →
              (⟨Text.dropEnd id '#', .obj entries, standardFormats ++ custom⟩ : Source) =
                .ofDocument custom (.obj entries) := by
            intro entries hid
            rw [textOf] at hid
            simp only [Source.ofDocument, Json.get?, hid, Option.getD_some]
          simp only [hid', hschemas', if_neg hempty, pure_bind, hsource hid, hsource hid']
          -- the builder that is handed over does not count, since reading starts afresh
          refine Follows.bind (P := fun _ _ _ _ => True) ?_ fun _ _ s t _ => ?_
          · cases hcheck : Metaschema.checkSchema .invalidDocument (.obj entries) with
            | error f => exact follows_throw f
            | ok _ =>
              rw [h.check hcheck]
              exact follows_pure trivial
          refine Follows.bind (P := fun _ _ s t => s.Alike R S t) ?_ fun _ _ s t hst => ?_
          · rintro _ _ ⟨⟩
            exact ⟨_, _, rfl, .nil, rfl, by simp [Graph.pointers]⟩
          refine (steps_readTypes h.source htwins hst).bind ?_
          rintro messages _ s₁ t₁ ⟨rfl, hst₁⟩
          refine (steps_note _ _ hst₁).bind ?_
          rintro _ _ s₂ t₂ ⟨-, hst₂⟩
          exact follows_get_bind (follows_pure ⟨rfl, hst₂.graph, rfl, hst₂.warnings⟩)
        | _ => rintro _ _ ⟨⟩
  | _ => rintro _ _ ⟨⟩

/-- **Where a document can be read, so can its twin, and what is read is the same but for
descriptions.** -/
theorem read_of_twins {custom : List String} {contents contents' : Json} {d : Document}
    (h : TwinDocuments R S custom contents contents') (hd : (read custom contents).1 = .ok d) :
    ∃ d', (read custom contents').1 = .ok d' ∧ d.Alike R d' := by
  simp only [read, outcome] at hd ⊢
  cases hrun : readDocument custom contents {} with
  | error f b =>
    rw [hrun] at hd
    cases hd
  | ok d₁ b =>
    rw [hrun] at hd
    cases hd
    obtain ⟨d', b', hrun', hd'⟩ := follows_readDocument h d b hrun
    exact ⟨d', by rw [hrun'], hd'⟩

end Schema

end StructGen
