import StructGen.Proofs.Declarations

/-!
# Fields of messages

A message is declared with the properties of its own node. A message that is a reference has none of
its own, and the properties of its target are not looked at: it is declared as a map, whatever it
refers to.

* `hasFields_of_declare`: a declaration has one field for each property of its node;
* `Graph.Finished.properties_of_ref`: a reference has no properties;
* `fields_of_messages` tells which messages have the fields of what they stand for.
-/

namespace StructGen.Schema

/-- A reference has no properties of its own. -/
theorem Graph.Finished.properties_of_ref {source : Source} {g : Graph} {x : NodeId}
    (h : g.Finished source x) (href : (g.node x).ref ≠ none) : (g.node x).properties = [] := by
  cases h with
  | reference _ _ hnode _ => rw [hnode]
  | schema _ _ _ _ _ hnode _ => exact absurd (by rw [hnode]; rfl) href

end StructGen.Schema

namespace StructGen.Go

open Schema (NodeId Graph Message Document)

variable {s : Style} {d : Document} {c : Compiled} {m : Message} {e : Declaration}

/-- Whether a declaration has exactly one field for each property of a node. -/
def HasFields (e : Declaration) (n : Schema.Node) : Prop :=
  (e.fields.map (·.key)).Perm (n.properties.map Prod.fst)

theorem hasFields_of_declare {g : Graph} {r : Registry} {name docstring : String} {id : NodeId}
    (h : s.declare g r name docstring id = .ok e) : HasFields e (g.node id) := by
  rw [HasFields, keys_of_declare h]
  exact (List.mergeSort_perm _ _).map Prod.fst

theorem HasFields.length_eq {n : Schema.Node} (h : HasFields e n) :
    e.fields.length = n.properties.length := by
  simpa using List.Perm.length_eq h

/-- **A message has a field for each property of what it stands for, unless it is a reference.** Then
it has no fields at all; so fields are missing exactly if it refers to a schema with properties. -/
theorem fields_of_messages {custom : List String} {contents : Json}
    (hread : (Schema.read custom contents).1 = .ok d) (hcompile : (compile s d).1 = .ok c) :
    List.Forall₂ (fun m e =>
      ((d.graph.node m.node).ref = none → HasFields e (d.graph.node (d.graph.target m.node))) ∧
      ((d.graph.node m.node).ref ≠ none → e.fields = []) ∧
      (e.fields.length < (d.graph.node (d.graph.target m.node)).properties.length ↔
        (d.graph.node m.node).ref ≠ none ∧
          (d.graph.node (d.graph.target m.node)).properties ≠ [])) d.messages c.messages := by
  obtain ⟨ids, r, h⟩ := compilation_of_compile hcompile
  have hat := (Schema.wellRead_of_read hread).messages
  refine ((List.forall₂_and_left _ _).2 ⟨hat, h.messages⟩).imp ?_
  rintro m e ⟨⟨hlt, -⟩, r', name, docstring, hdeclare, -⟩
  have hown := hasFields_of_declare hdeclare
  cases href : (d.graph.node m.node).ref with
  | none =>
    rw [Graph.target_of_none href]
    refine ⟨fun _ => hown, fun h => absurd rfl h, ?_⟩
    rw [hown.length_eq]
    simp
  | some t =>
    have hfields : e.fields = [] := by
      have hnone := (Schema.finished_of_read hread hlt).properties_of_ref (by simp [href])
      have hlength := hown.length_eq
      rw [hnone, List.length_nil, List.length_eq_zero_iff] at hlength
      exact hlength
    refine ⟨fun h => (Option.some_ne_none _ h).elim, fun _ => hfields, ?_⟩
    rw [hfields, List.length_nil, List.length_pos_iff]
    simp

theorem trip_has_fields : ∃ d c, (Schema.read [] trip).1 = .ok d ∧
    (compile plainStyle d).1 = .ok c ∧ c.base.map (·.name) = ["Place", "Stop"] ∧
    List.Forall₂ (fun m e =>
      ((d.graph.node m.node).ref = none → HasFields e (d.graph.node (d.graph.target m.node))) ∧
      ((d.graph.node m.node).ref ≠ none → e.fields = []) ∧
      (e.fields.length < (d.graph.node (d.graph.target m.node)).properties.length ↔
        (d.graph.node m.node).ref ≠ none ∧
          (d.graph.node (d.graph.target m.node)).properties ≠ [])) d.messages c.messages := by
  obtain ⟨d, c, hread, hcompile, hnames⟩ := trip_compiles
  exact ⟨d, c, hread, hcompile, hnames, fields_of_messages hread hcompile⟩

/-- A document whose only message is a reference to an object. -/
def referredTrip : Json :=
  documentOf (refTo "stop") [("stop", objectOf [("name", .obj [("type", .str "string")])])]

set_option maxRecDepth 100000 in
/-- A message that refers to an object is declared without the fields of the object. -/
theorem referredTrip_without_fields : ∃ d c, (Schema.read [] referredTrip).1 = .ok d ∧
    (compile plainStyle d).1 = .ok c ∧
    d.messages.map (fun m => (d.graph.node (d.graph.target m.node)).properties.map Prod.fst) =
      [["name"]] ∧ c.messages.map (fun e => e.fields.map (·.key)) = [[]] := by
  have h : ((Schema.read [] referredTrip).1.toOption.bind fun d =>
      (compile plainStyle d).1.toOption.map fun c =>
        (d.messages.map fun m => (d.graph.node (d.graph.target m.node)).properties.map Prod.fst,
          c.messages.map fun e => e.fields.map (·.key))) = some ([["name"]], [[]]) := by
    decide +kernel
  obtain ⟨d, hd, h⟩ := Option.bind_eq_some_iff.1 h
  obtain ⟨c, hc, h⟩ := Option.map_eq_some_iff.1 h
  exact ⟨d, c, ok_of_toOption hd, ok_of_toOption hc, congrArg Prod.fst h, congrArg Prod.snd h⟩

end StructGen.Go
