import StructGen.Schema.Graph
import StructGen.Notice

/-!
# Schema documents

A document holds message schemas by type and version, and the graph of all schemas they lead to.

* `Message` is one version of one message type;
* `Document.messageTypes` and `Document.majors` tell which types there are and in which versions.
-/

namespace StructGen.Schema

/-- One version of one message type. -/
structure Message where
  type : String
  version : String
  major : Nat
  locator : String
  node : NodeId
  deriving DecidableEq

/-- The name by which a message is known in a document. -/
def Message.key (m : Message) : String := m.type ++ "." ++ m.version

/-- A format that is neither standard nor registered, and where it is used. -/
structure FormatWarning where
  format : String
  pointer : String
  deriving DecidableEq

/-- The wording of a format warning. -/
def FormatWarning.text (w : FormatWarning) : String := Notice.unknownFormatText w.format w.pointer

/-- A document that has been read. -/
structure Document where
  id : String
  graph : Graph
  messages : List Message
  warnings : List FormatWarning
  deriving DecidableEq

namespace Document

/-- The message types in order, each once. -/
def messageTypes (d : Document) : List String :=
  ((d.messages.map (·.type)).mergeSort fun a b => decide (a ≤ b)).eraseDups

/-- The major versions of a message type in order, each once. -/
def majors (d : Document) (type : String) : List Nat :=
  (((d.messages.filter (·.type == type)).map (·.major)).mergeSort fun a b => decide (a ≤ b)).eraseDups

/-- Whether a message type has several major versions. -/
def isVersioned (d : Document) (type : String) : Bool := 1 < (d.majors type).length

/-- The nodes that the messages lead to. -/
def reachable (d : Document) : List NodeId := d.graph.preorder (d.messages.map (·.node))

end Document

end StructGen.Schema
