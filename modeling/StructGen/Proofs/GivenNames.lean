import StructGen.Proofs.Compiling

/-!
# Where the names of a compiled document come from

An object type is named by the place where discovering meets it, a message by its type. A name that
is in use gets a number, and a message is declared under the name that was given to its key.

* `Place` are the nodes that discovering meets, each with the path that names its place;
* `discoverFrom_given` shows that discovering names objects by their places;
* `GivenNames` tells where the names of a compiled document come from, and `givenNames_of_compile`
  that every compiled document has such names.
-/

namespace StructGen.Go

open Schema (NodeId Graph Message Document)

variable {s : Style} {d : Document} {names : List (String × String)} {w : Workspace}

/-! ### Names of objects -/

/-- The name that was given to a message. -/
def messageName (names : List (String × String)) (m : Message) : String :=
  (names.lookup m.key).getD ""

/-- The nodes that discovering meets, with their paths: the properties of the messages, and from
there on targets, properties and items. -/
inductive Place (d : Document) (names : List (String × String)) : List String → NodeId → Prop
  | message {m : Message} {p : String × NodeId} (hm : m ∈ d.messages)
      (hp : p ∈ (d.graph.node m.node).properties) : Place d names [messageName names m, p.1] p.2
  | target {path path' : List String} {id : NodeId} (h : Place d names path id)
      (hpath : TargetPath d.graph path id path') : Place d names path' (d.graph.target id)
  | property {path : List String} {id : NodeId} {p : String × NodeId} (h : Place d names path id)
      (hp : p ∈ (d.graph.node id).properties) : Place d names (path ++ [p.1]) p.2
  | items {path : List String} {id c : NodeId} (h : Place d names path id)
      (hc : (d.graph.node id).items = some c) : Place d names (path ++ ["list"]) c

/-- A name that was given for a place of an object. -/
def GivenAt (s : Style) (d : Document) (names : List (String × String)) (name : String) : Prop :=
  ∃ path id r, Place d names path id ∧ d.graph.IsObject id ∧
    name = Registry.unusedName r (s.initialisms.pathName path)

/-- All declarations have names that were given for places, and nodes have names of
declarations. -/
structure AllGiven (s : Style) (d : Document) (names : List (String × String)) (w : Workspace) :
    Prop where
  base : ∀ e ∈ w.base, GivenAt s d names e.name
  registry : ∀ x name, w.registry.get? x = some name → ∃ e ∈ w.base, e.name = name

theorem AllGiven.congr {w' : Workspace} (h : AllGiven s d names w)
    (registry : w'.registry = w.registry) (base : w'.base = w.base) : AllGiven s d names w' :=
  ⟨base ▸ h.base, registry ▸ base ▸ h.registry⟩

/-- One step: an object is named by its place. -/
theorem declareObject_given {path : List String} {id : NodeId} (h : AllGiven s d names w)
    (hplace : Place d names path id) (ho : d.graph.IsObject id) :
    Ends (declareObject s d.graph path id) w (fun _ w' => AllGiven s d names w') fun _ => True := by
  unfold declareObject
  rw [ends_bind]
  refine ends_claim fun w₁ hreg₁ hbase₁ => ?_
  rw [ends_bind]
  refine ends_declare (fun e w₂ he hreg₂ hbase₂ => ?_) (fun _ _ => trivial)
  rw [ends_modify]
  have hname := (declare_ok he).1
  refine ⟨fun e' he' => ?_, fun x name hx => ?_⟩
  · rw [hbase₂, hbase₁] at he'
    rcases List.mem_append.1 he' with he' | he'
    · exact h.base e' he'
    · rw [List.mem_singleton.1 he', hname]
      exact ⟨path, id, w.registry, hplace, ho, rfl⟩
  · change w₂.registry.get? x = some name at hx
    rw [hreg₂, Registry.get?_register, hreg₁, Registry.get?_claim] at hx
    rw [hbase₂, hbase₁]
    split_ifs at hx
    · exact ⟨e, by simp, by rw [hname]; exact Option.some.inj hx⟩
    · obtain ⟨e', he', hname'⟩ := h.registry x name hx
      exact ⟨e', List.mem_append_left _ he', hname'⟩

theorem discoverFrom_given {fuel : Nat} {visiting : List NodeId} {path : List String} {id : NodeId}
    (h : AllGiven s d names w) (hplace : Place d names path id) :
    Ends (discoverFrom s d.graph fuel visiting path id) w (fun _ w' => AllGiven s d names w')
      fun _ => True := by
  induction fuel generalizing visiting path id w with
  | zero => trivial
  | succ fuel ih =>
    refine ends_discoverFrom_succ (fun _ _ _ => trivial) fun path' _ hpath => ?_
    have htarget := hplace.target hpath
    refine ends_discoverTarget (fun _ => h) (fun _ _ => trivial) (fun _ ho _ => ?object)
      (fun c _ hc => ih h (htarget.items hc)) (fun _ _ => h)
    case object =>
      refine (ends_forM (fun _ w' => AllGiven s d names w') h ?_).mono
        (fun _ w₁ h₁ => declareObject_given h₁ htarget ho) fun _ hf => hf
      intro pre p post w₁ hsplit h₁
      have hp : p ∈ (d.graph.node (d.graph.target id)).sortedProperties := by
        rw [hsplit]
        simp
      exact ih h₁ (htarget.property (List.mem_mergeSort.1 hp))

/-- All messages: what is found below them is named by its places. -/
theorem discoverMessages_given (h : AllGiven s d names w) :
    Ends (d.messages.forM fun m => discoverMessage s d.graph (messageName names m) m) w
      (fun _ w' => AllGiven s d names w') fun _ => True := by
  refine ends_forM (fun _ w' => AllGiven s d names w') h ?_
  intro pre m post w₁ hsplit h₁
  have hm : m ∈ d.messages := by rw [hsplit]; simp
  unfold discoverMessage
  dsimp only
  split_ifs
  · trivial
  · rw [ends_bind]
    refine ends_note fun w₂ hreg hbase => ?_
    refine ends_forM (fun _ w' => AllGiven s d names w') (h₁.congr hreg hbase) ?_
    intro pre' p post' w₃ hsplit' h₃
    have hp : p ∈ (d.graph.node m.node).sortedProperties := by rw [hsplit']; simp
    exact discoverFrom_given h₃ (.message hm (List.mem_mergeSort.1 hp))

/-! ### Names of messages -/

/-- A name that was given for a message. -/
def GivenFor (s : Style) (d : Document) (name : String) : Prop :=
  ∃ m ∈ d.messages, ∃ wanted r,
    s.initialisms.typeName [m.type] (some m.major) (d.isVersioned m.type) = .ok wanted ∧
      name = Registry.unusedName r wanted

/-- Every message gets a name, and no other names are given. -/
theorem nameMessages_given :
    Ends (d.messages.foldlM (nameMessage s d) []) w
      (fun names _ => (∀ name ∈ names.map Prod.snd, GivenFor s d name) ∧
        ∀ m ∈ d.messages, messageName names m ∈ names.map Prod.snd) fun _ => True := by
  refine (ends_foldlM (fun pre names _ => (∀ name ∈ names.map Prod.snd, GivenFor s d name) ∧
    ∀ m ∈ pre, ∃ name, names.lookup m.key = some name) ⟨by simp, by simp⟩ ?_).mono
      (fun names _ h => ⟨h.1, fun m hm => ?_⟩) fun _ hf => hf
  · rintro pre m post names w₁ hsplit ⟨hgiven, hnames⟩
    have hm : m ∈ d.messages := by rw [hsplit]; simp
    unfold nameMessage
    obtain ⟨wanted, hwanted⟩ := exists_typeName s.initialisms [m.type] m.major (d.isVersioned m.type)
    rw [hwanted, ends_bind]
    change Ends (Compile.claim wanted >>= _) w₁ _ _
    rw [ends_bind]
    refine ends_claim fun w₂ _ _ => ?_
    rw [ends_pure]
    refine ⟨fun name hname => ?_, fun m' hm' => ?_⟩
    · rcases mem_values_putEntry hname with rfl | hname
      · exact ⟨m, hm, wanted, w₁.registry, hwanted, rfl⟩
      · exact hgiven name hname
    · rw [lookup_putEntry]
      split_ifs with hkey
      · exact ⟨_, rfl⟩
      · rcases List.mem_append.1 hm' with hm' | hm'
        · exact hnames m' hm'
        · exact absurd (by rw [List.mem_singleton.1 hm']) hkey
  · obtain ⟨name, hname⟩ := h.2 m hm
    rw [messageName, hname]
    obtain ⟨before, after, heq, -⟩ := List.lookup_eq_some_iff.1 hname
    rw [heq]
    simp

/-! ### Declarations of messages -/

/-- A message is declared under its name, while only some names are in use for nodes. -/
def DeclaredUnder (s : Style) (d : Document) (names : List (String × String))
    (known : String → Prop) (m : Message) (e : Declaration) : Prop :=
  e.name = messageName names m ∧ ∃ r, (∀ x name, Registry.get? r x = some name → known name) ∧
    s.declare d.graph r e.name (Style.messageDocstring e.name m.type m.version) m.node = .ok e

theorem declareMessages_given (known : String → Prop)
    (hknown : ∀ x name, w.registry.get? x = some name → known name)
    (hmessages : ∀ m ∈ d.messages, known (messageName names m)) :
    Ends (d.messages.mapM fun m => declareMessage s d.graph (messageName names m) m) w
      (fun es _ => List.Forall₂ (DeclaredUnder s d names known) d.messages es) fun _ => True := by
  refine (ends_mapM (fun pre es (w' : Workspace) =>
    List.Forall₂ (DeclaredUnder s d names known) pre es ∧
      ∀ x name, w'.registry.get? x = some name → known name) ⟨.nil, hknown⟩ ?_).mono
      (fun _ _ h => h.1) fun _ hf => hf
  rintro pre m post es w₁ hsplit ⟨hall, hknown₁⟩
  have hm : m ∈ d.messages := by rw [hsplit]; simp
  unfold declareMessage
  refine ends_declare (fun e w₂ he hreg _ => ⟨?_, fun x name hx => ?_⟩) fun _ _ => trivial
  · have hname := (declare_ok he).1
    refine List.rel_append hall (.cons ⟨hname, w₁.registry, hknown₁, ?_⟩ .nil)
    rw [hname]
    exact he
  · rw [hreg, Registry.get?_register] at hx
    split_ifs at hx
    · rw [← Option.some.inj hx]
      exact hmessages m hm
    · exact hknown₁ x name hx

/-! ### Compiling -/

/-- The names of a compiled document: those of its types and of its messages. -/
def Compiled.typeNames (c : Compiled) : List String :=
  c.base.map (·.name) ++ c.messageNames.map Prod.snd

/-- Where the names of a compiled document come from. -/
structure GivenNames (s : Style) (d : Document) (c : Compiled) : Prop where
  base : ∀ e ∈ c.base, GivenAt s d c.messageNames e.name
  messageNames : ∀ name ∈ c.messageNames.map Prod.snd, GivenFor s d name
  named : ∀ m ∈ d.messages, messageName c.messageNames m ∈ c.messageNames.map Prod.snd
  messages : List.Forall₂ (DeclaredUnder s d c.messageNames (· ∈ c.typeNames)) d.messages c.messages

theorem compileDocument_given :
    Ends (compileDocument s d) {} (fun c _ => GivenNames s d c) fun _ => True := by
  have hempty : Ends (d.messages.foldlM (nameMessage s d) []) {}
      (fun _ w => w.registry.names = [] ∧ w.base = []) fun _ => True :=
    nameMessages_ends.mono (fun _ _ h => ⟨h.1, h.2.1⟩) fun _ _ => trivial
  unfold compileDocument
  rw [ends_bind]
  refine (hempty.and nameMessages_given).mono ?_ fun _ _ => trivial
  rintro names w ⟨⟨hnames, hbase⟩, hgiven, hmessages⟩
  have hstart : AllGiven s d names w := by
    refine ⟨by simp [hbase], fun x name hx => ?_⟩
    rw [Registry.get?, hnames] at hx
    cases hx
  rw [ends_bind]
  refine (discoverMessages_given hstart).mono ?_ fun _ hf => hf
  intro _ w₁ h₁
  simp only [ends_bind, ends_get]
  refine (declareMessages_given (· ∈ w₁.base.map (·.name) ++ names.map Prod.snd)
    (fun x name hx => ?_) (fun m hm => List.mem_append_right _ (hmessages m hm))).mono ?_
    fun _ hf => hf
  · obtain ⟨e, he, rfl⟩ := h₁.registry x name hx
    exact List.mem_append_left _ (List.mem_map_of_mem he)
  · intro es w₂ hes
    exact ends_note fun w₃ _ _ => ⟨h₁.base, hgiven, hmessages, hes⟩

/-- **The names of a compiled document come from its places and its messages.** -/
theorem givenNames_of_compile {c : Compiled} (h : (compile s d).1 = .ok c) : GivenNames s d c := by
  unfold compile at h
  split at h
  · cases h
    exact compileDocument_given.of_ok ‹_›
  · cases h

end StructGen.Go
