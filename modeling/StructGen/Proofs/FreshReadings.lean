import StructGen.Proofs.Declarations
import StructGen.Schema.Builder

/-!
# Documents read one after another

A builder that has read a document, or has failed in the middle of one, still holds what it has
found there. Reading the next document either fails before it looks at the builder, and leaves it as
it is, or starts it afresh. What comes out is then the same as from a new builder.

* `readDocument_starts`: how reading begins, whatever the builder holds;
* `readAllFrom_eq_map`: what a builder reads after anything else;
* `getElem?_readAll`: every document is read as if it were the only one.
-/

namespace StructGen.Schema

open Go (documentOf objectOf refTo)

/-- A document fails its first checks, and the builder stays as it is, or it is read in the same way
and with the same end from every builder. -/
theorem readDocument_starts (custom : List String) (contents : Json) :
    (∃ f, ∀ b, readDocument custom contents b = .error f b) ∨
      ∀ b b', readDocument custom contents b = readDocument custom contents b' := by
  unfold readDocument
  cases contents with
  | obj entries =>
    dsimp only
    cases textOf entries "id" with
    | none => exact Or.inl ⟨.missingId, fun _ => rfl⟩
    | some id =>
      dsimp only
      by_cases hempty : id.isEmpty = true
      · rw [if_pos hempty]
        exact Or.inl ⟨.missingId, fun _ => rfl⟩
      · rw [if_neg hempty]
        split
        · cases Metaschema.checkSchema .invalidDocument (.obj entries) with
          | error f => exact Or.inl ⟨f, fun _ => rfl⟩
          -- the builder is overwritten before anything is read from it
          | ok _ => exact Or.inr fun _ _ => rfl
        · exact Or.inl ⟨.missingSchemas, fun _ => rfl⟩
  | _ => exact Or.inl ⟨.documentNotObject, fun _ => rfl⟩

/-- What comes out of a document does not depend on the builder. -/
theorem outcome_readDocument (custom : List String) (contents : Json) (b : Builder) :
    (outcome (readDocument custom contents) b).1 = (read custom contents).1 := by
  unfold read outcome
  rcases readDocument_starts custom contents with ⟨f, hfails⟩ | hsame
  · rw [hfails b, hfails {}]
  · rw [hsame b {}]

/-- Whatever a builder holds, it reads a list of documents as new builders would, one for each. -/
theorem readAllFrom_eq_map (custom : List String) (b : Builder) (documents : List Json) :
    readAllFrom custom b documents = documents.map fun contents => (read custom contents).1 := by
  induction documents generalizing b with
  | nil => rfl
  | cons contents rest ih =>
    rw [readAllFrom, List.map_cons, ← outcome_readDocument custom contents b]
    exact congrArg _ (ih _)

/-- **Nothing is carried over from one document to the next**: the document at every position of a
list gives the graph, the messages and the warnings, or the failure, that it gives to a new
builder. -/
theorem getElem?_readAll (custom : List String) (documents : List Json) (i : Nat) :
    (readAll custom documents)[i]? =
      documents[i]?.map fun contents => (read custom contents).1 := by
  rw [readAll, readAllFrom_eq_map, List.getElem?_map]

/-- A trip whose second property leads nowhere. -/
def brokenTrip : Json := documentOf (objectOf [("a", refTo "x"), ("b", refTo "y")])
  [("x", .obj [("type", .str "string"), ("format", .str "z")])]

set_option maxRecDepth 100000 in
/-- The builder that has failed to read a trip holds the places and the warning it had come to. -/
example : ((outcome (readDocument [] brokenTrip) {}).2.graph.nodes.map (·.pointer),
    (outcome (readDocument [] brokenTrip) {}).2.warnings) =
    (["/schemas/trip/1", "/schemas/trip/1/properties/a", "/definitions/x",
      "/schemas/trip/1/properties/b"], [⟨"z", "/definitions/x"⟩]) := by decide +kernel

end StructGen.Schema
