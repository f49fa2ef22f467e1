import StructGen.Proofs.FilledNodes
import StructGen.Proofs.Walk

/-!
# Graphs of documents that have been read

The nodes inside a node stand at the places that its own place determines, and a reference has no
type. The messages stand at their own places.

* `Graph.Linked` says this of one node, `Document.WellRead` of a document;
* `wellRead_of_read` shows that documents have it;
* `Document.WellRead.not_entered` derives that no walk by definitions leads to a message.
-/

namespace StructGen.Schema

/-! ### Nodes inside a node -/

namespace Graph

variable {g : Graph} {n : Node}

/-- A reference has no type, and the nodes inside a node are right below its place. -/
structure Linked (g : Graph) (n : Node) : Prop where
  untyped : n.ref ≠ none → n.types = []
  properties : ∀ p ∈ n.properties, g.At p.2 (Pointer.child (n.pointer ++ "/properties") p.1)
  items : ∀ c, n.items = some c → g.At c (n.pointer ++ "/items")

/-- Whether all nodes are linked. -/
def AllLinked (g : Graph) : Prop := ∀ id, g.Linked (g.node id)

theorem linked_of_ref (g : Graph) (pointer : String) (ref : Option NodeId) :
    g.Linked { pointer, ref } :=
  ⟨fun _ => rfl, fun _ hp => (List.not_mem_nil hp).elim, fun _ hc => nomatch hc⟩

/-- A node that is filled in is linked. -/
theorem Finished.linked {source : Source} {x : NodeId} (h : g.Finished source x) :
    g.Linked (g.node x) := by
  cases h with
  | reference _ _ hnode _ =>
    rw [hnode]
    exact linked_of_ref _ _ _
  | schema _ _ _ _ _ hnode hchildren =>
    rw [hnode]
    exact ⟨fun href => (href rfl).elim, at_of_mem_zip hchildren, fun _ hc => at_of_items hchildren hc⟩

end Graph

/-! ### Documents -/

/-- What holds of documents that have been read: nodes are linked and messages are at their places
and have the major versions that they name. -/
structure Document.WellRead (d : Document) : Prop where
  linked : d.graph.AllLinked
  messages : ∀ m ∈ d.messages, d.graph.At m.node m.place
  majors : ∀ m ∈ d.messages, majorVersion m.version = .ok m.major

/-- **A document that has been read is well linked**, with its messages at their places. -/
theorem wellRead_of_read {custom : List String} {contents : Json} {d : Document}
    (h : (read custom contents).1 = .ok d) : d.WellRead := by
  obtain ⟨schemas, hbuilt⟩ := builtFrom_of_read h
  refine ⟨fun id => ?_, ?_, hbuilt.majors⟩
  · by_cases hid : id < d.graph.size
    · exact (finished_of_read h hid).linked
    · rw [Graph.node_of_size_le (Nat.le_of_not_lt hid)]
      exact Graph.linked_of_ref _ _ none
  · have hat : List.Forall₂ (fun place id => d.graph.At id place)
        ((messageTasks schemas).map Prod.snd) (d.messages.map (·.node)) :=
      List.forall₂_map_left_iff.2 hbuilt.builds.at_places
    rw [hbuilt.places, List.forall₂_map_left_iff, List.forall₂_map_right_iff, List.forall₂_same] at hat
    exact hat

end StructGen.Schema

/-! ### Messages are not inside anything -/

namespace StructGen.Pointer

/-- The number of segments of a pointer. -/
def depth (pointer : String) : Nat := pointer.toList.count '/'

@[simp] theorem depth_append (p q : String) : depth (p ++ q) = depth p + depth q := by
  simp [depth]

theorem depth_child (pointer segment : String) :
    depth (child pointer segment) = depth pointer + 1 := by
  have hescape : depth (escape segment) = 0 := by
    rw [depth, escape, String.toList_ofList, count_escapeChars]
  rw [child, depth_append, depth_append, hescape]
  rfl

end StructGen.Pointer

namespace StructGen.Schema

open Relation

/-- Whether a place is below the definitions, or deeper than the schemas of messages. -/
def IsDeep (pointer : String) : Prop :=
  Pointer.definitionsStart.toList <+: pointer.toList ∨ 3 < Pointer.depth pointer

theorem IsDeep.append {pointer : String} (h : IsDeep pointer) (below : String) :
    IsDeep (pointer ++ below) := by
  refine h.imp (fun hp => ?_) (fun hlt => ?_)
  · rw [String.toList_append]
    exact hp.trans (List.prefix_append _ _)
  · rw [Pointer.depth_append]
    omega

theorem Message.depth_place (m : Message) : Pointer.depth m.place = 3 := by
  simp only [place, Pointer.ofSegments, List.foldl_cons, List.foldl_nil, Pointer.depth_child]
  rfl

theorem Message.not_isDeep (m : Message) : ¬ IsDeep m.place := by
  rintro (⟨rest, hrest⟩ | hlt)
  -- the second characters of the two places differ
  · have hplace : m.place.toList = '/' :: 's' :: ("chemas".toList ++ '/' ::
        (Pointer.escape m.type).toList ++ '/' :: (Pointer.escape m.version).toList) := by
      simp [place, Pointer.ofSegments, Pointer.child, Pointer.escape, Pointer.escapeChars]
    rw [hplace, show Pointer.definitionsStart.toList = '/' :: 'd' :: "efinitions/".toList from rfl]
      at hrest
    simp at hrest
  · rw [m.depth_place] at hlt
    omega

namespace Document.WellRead

variable {d : Document} {a b c : NodeId} {m : Message}

/-- What is inside a deep node is deep. -/
theorem isDeep_inside (hd : d.WellRead) (ha : IsDeep (d.graph.node a).pointer)
    (hc : c ∈ d.graph.inside a) : IsDeep (d.graph.node c).pointer := by
  rcases Graph.mem_inside.1 hc with ⟨-, name, hp⟩ | ⟨-, hi⟩
  · rw [((hd.linked a).properties _ hp).2, Pointer.child]
    exact ((ha.append _).append _).append _
  · rw [((hd.linked a).items _ hi).2]
    exact ha.append _

/-- The properties of a message are deep. -/
theorem isDeep_member (hd : d.WellRead) (hm : m ∈ d.messages) (hc : c ∈ d.graph.members m.node) :
    IsDeep (d.graph.node c).pointer := by
  obtain ⟨name, hp⟩ := Graph.mem_members.1 hc
  rw [((hd.linked m.node).properties _ hp).2, (hd.messages m hm).2]
  refine Or.inr ?_
  rw [Pointer.depth_child, Pointer.depth_append, m.depth_place]
  have hone : Pointer.depth "/properties" = 1 := rfl
  omega

/-- The target of a deep node is deep. -/
theorem isDeep_target (hc : IsDeep (d.graph.node c).pointer) (hplaced : d.graph.Placed c) :
    IsDeep (d.graph.node (d.graph.target c)).pointer := by
  cases href : (d.graph.node c).ref with
  | none => rwa [Graph.target_of_none href]
  | some t => rw [Graph.target_of_ref href]; exact Or.inl (hplaced t href)

/-- **No message is inside something that its properties lead to.** -/
theorem not_entered (hd : d.WellRead) (hm : m ∈ d.messages) (hc : c ∈ d.graph.members m.node)
    (hready : d.graph.Ready c) (hb : ReflTransGen d.graph.Enters (d.graph.target c) b) :
    ∀ m' ∈ d.messages, m'.node ≠ b := by
  have hdeep : IsDeep (d.graph.node b).pointer := by
    induction hb with
    | refl => exact isDeep_target (hd.isDeep_member hm hc) hready.1
    | tail hx hs ih =>
      obtain ⟨e, he, rfl⟩ := hs
      exact isDeep_target (hd.isDeep_inside ih he) ((hready.2.enters hx).ready he).1
  rintro m' hm' rfl
  rw [(hd.messages m' hm').2] at hdeep
  exact m'.not_isDeep hdeep

end Document.WellRead

end StructGen.Schema
