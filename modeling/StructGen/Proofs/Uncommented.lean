import StructGen.Proofs.AddedDefinitions
import StructGen.Proofs.RedescribedReading

/-!
# Code without comments

Descriptions come into the code as comments only. Where no comments are wanted, compiling looks at
no description, so graphs that are the same but for descriptions compile to the same, and documents
that differ only in descriptions generate the same.

* `compile_of_alike` is about compiling;
* `generate_of_redescribed` is the result for documents with plain references.
-/

namespace StructGen

namespace Go

open Schema (NodeId Node Graph Message Document)

variable {R : Option String → Option String → Prop} {g g' : Graph} {s : Style}

theorem shownDescription_eq_none (hs : s.comments = false) (n : Node) :
    s.shownDescription n = none := by
  simp [Style.shownDescription, hs]

/-! ### What compiling looks at -/

section Alike

variable (h : g.Alike R g') (x : NodeId)
include h

theorem pointer_of_alike : (g.node x).pointer = (g'.node x).pointer :=
  h.apply_node (f := (·.pointer)) (fun _ _ => rfl) x

theorem types_of_alike : (g.node x).types = (g'.node x).types :=
  h.apply_node (f := (·.types)) (fun _ _ => rfl) x

theorem primaryType_of_alike : (g.node x).primaryType = (g'.node x).primaryType :=
  h.apply_node (fun _ _ => rfl) x

theorem items_of_alike : (g.node x).items = (g'.node x).items :=
  h.apply_node (f := (·.items)) (fun _ _ => rfl) x

theorem sortedProperties_of_alike : (g.node x).sortedProperties = (g'.node x).sortedProperties :=
  h.apply_node (fun _ _ => rfl) x

theorem isRequired_of_alike (property : String) :
    (g.node x).isRequired property = (g'.node x).isRequired property :=
  h.apply_node (f := (·.isRequired property)) (fun _ _ => rfl) x

theorem resolveFrom_of_alike (names : TypeNames) (r : Registry) (fuel : Nat) (nullable : Bool) :
    resolveFrom names g r fuel x nullable = resolveFrom names g' r fuel x nullable := by
  induction fuel generalizing x nullable with
  | zero => rfl
  | succ fuel ih =>
    simp only [resolveFrom, h.target, primaryType_of_alike h, pointer_of_alike h, types_of_alike h,
      items_of_alike h, ih]

theorem declare_of_alike (hs : s.comments = false) (r : Registry) (name docstring : String) :
    s.declare g r name docstring x = s.declare g' r name docstring x := by
  simp only [Style.declare, Style.field, resolveType, Graph.nullAllowed, h.size, h.target,
    types_of_alike h, resolveFrom_of_alike h, sortedProperties_of_alike h, isRequired_of_alike h,
    shownDescription_eq_none hs]

end Alike

/-! ### Compiling -/

section Compiling

theorem compileDeclare_of_alike (h : g.Alike R g') (hs : s.comments = false)
    (name docstring : String) (x : NodeId) :
    Compile.declare s g name docstring x = Compile.declare s g' name docstring x := by
  simp only [Compile.declare, declare_of_alike h x hs, pointer_of_alike h]

theorem discoverFrom_of_alike (h : g.Alike R g') (hs : s.comments = false) (fuel : Nat)
    (visiting : List NodeId) (path : List String) (x : NodeId) :
    discoverFrom s g fuel visiting path x = discoverFrom s g' fuel visiting path x := by
  induction fuel generalizing visiting path x with
  | zero => rfl
  | succ fuel ih =>
    simp only [discoverFrom, h.ref, pointer_of_alike h, h.target, primaryType_of_alike h,
      sortedProperties_of_alike h, items_of_alike h, Style.typeDocstring,
      shownDescription_eq_none hs, compileDeclare_of_alike h hs, ih]

/-- **Compiling without comments looks at no description.** -/
theorem compile_of_alike {d d' : Document} (h : d.Alike R d') (hs : s.comments = false) :
    compile s d = compile s d' := by
  have hnames : nameMessage s d = nameMessage s d' := by
    funext names m
    rw [nameMessage, nameMessage, Document.isVersioned, Document.isVersioned, Document.majors,
      Document.majors, h.messages]
  have hdiscover : discoverMessage s d.graph = discoverMessage s d'.graph := by
    funext name m
    simp only [discoverMessage, discover, h.graph.size, types_of_alike h.graph,
      sortedProperties_of_alike h.graph, discoverFrom_of_alike h.graph hs]
  have hdeclare : declareMessage s d.graph = declareMessage s d'.graph := by
    funext name m
    rw [declareMessage, declareMessage, compileDeclare_of_alike h.graph hs]
  rw [compile, compile, compileDocument, compileDocument, h.messages, h.id, hnames, hdiscover,
    hdeclare]

theorem generateDocument_of_alike {d d' : Document} (h : d.Alike R d') (hs : s.comments = false) :
    generateDocument s d = generateDocument s d' := by
  rw [generateDocument, generateDocument, compile_of_alike h hs, h.warnings, Document.messageTypes,
    Document.messageTypes, h.messages]

end Compiling

/-! ### Generating -/

section Generating

variable {settings : Settings} {contents contents' : Json}

theorem comments_of_style (h : settings.style = .ok s) :
    s.comments = settings.addComments.truthy := by
  obtain ⟨initialisms, -, h⟩ := bind_eq_ok.1 h
  cases h
  rfl

theorem generated_of_redescribed {g : Generated} (hcomments : settings.addComments.truthy = false)
    (hkeys : contents.hasUniqueKeys = true)
    (hplain : contents.references.all Schema.isPlainReference = true)
    (h : contents.Redescribed contents') (hg : (generate settings contents).1 = .ok g) :
    (generate settings contents').1 = .ok g := by
  unfold generate at hg ⊢
  simp only [Noted.andThen_eq_ok, Noted.silent] at hg ⊢
  obtain ⟨custom, hcustom, d, hread, s, hstyle, hg⟩ := hg
  have htwins := Schema.twinDocuments_of_redescribed h
    (⟨hkeys, hplain⟩ : (Schema.Source.ofDocument custom contents).Plain)
  obtain ⟨d', hread', hd'⟩ := Schema.read_of_twins htwins hread
  refine ⟨custom, hcustom, d', hread', s, hstyle, ?_⟩
  rw [← generateDocument_of_alike hd' ((comments_of_style hstyle).trans hcomments)]
  exact hg

/-- **Without comments, descriptions do not count**: of two documents with plain references that
differ only in descriptions, either both generate the same code, warnings and metadata, or neither
generates anything. -/
theorem generate_of_redescribed (hcomments : settings.addComments.truthy = false)
    (hkeys : contents.hasUniqueKeys = true)
    (hplain : contents.references.all Schema.isPlainReference = true)
    (h : contents.Redescribed contents') (g : Generated) :
    (generate settings contents).1 = .ok g ↔ (generate settings contents').1 = .ok g := by
  have hparts := h.sameParts
  constructor
  · exact generated_of_redescribed hcomments hkeys hplain h
  · refine generated_of_redescribed hcomments ?_ ?_ h.symm
    · rw [← hparts.uniqueKeys, hkeys]
    · rw [← hparts.references, hplain]

end Generating

/-! #### A trip with other descriptions, and one that is found inside a description -/

/-- The default settings without comments. -/
def uncommented : Settings := { Settings.default with addComments := .bool false }

/-- The default style without comments. -/
def uncommentedStyle : Style := { defaultStyle with comments := false }

theorem customFormats_uncommented : Schema.customFormats uncommented.customFormats = .ok [] := rfl

theorem style_uncommented : uncommented.style = .ok uncommentedStyle := by
  have h := style_default
  unfold Settings.style at h ⊢
  obtain ⟨initialisms, hinitialisms, h⟩ := bind_eq_ok.1 h
  refine bind_eq_ok.2 ⟨initialisms, hinitialisms, ?_⟩
  cases h
  rfl

theorem acceptable_uncommentedStyle : uncommentedStyle.Acceptable :=
  have hs := acceptable_defaultStyle
  ⟨⟨hs.plain.int, hs.plain.float, hs.plain.unknown, hs.plain.package⟩, hs.package⟩

theorem exists_generated_uncommented {contents : Json}
    (h : (acceptableUnder uncommentedStyle contents).isSome = true) :
    ∃ g, (generate uncommented contents).1 = .ok g := by
  obtain ⟨⟨d, c⟩, h⟩ := Option.isSome_iff_exists.1 h
  obtain ⟨g, -, hg, -⟩ := exists_generated_of_acceptable customFormats_uncommented style_uncommented
    acceptable_uncommentedStyle h
  exact ⟨g, hg⟩

/-- A trip to a stop with two descriptions. -/
def describedTrip (first second : String) : Json :=
  rootedTrip (objectOf [("stop", refTo "stop")]) [("description", .str first)]
    [("stop", .obj [("type", .str "object"), ("description", .str second),
      ("properties", .obj [("description", .obj [("type", .str "string")])])])]

set_option maxRecDepth 100000 in
theorem describedTrip_generated : uncommented.addComments.truthy = false ∧
    (describedTrip "a" "b").hasUniqueKeys = true ∧
    (describedTrip "a" "b").references.all Schema.isPlainReference = true ∧
    (describedTrip "a" "b").Redescribed (describedTrip "" "c\nd") ∧
    ∃ g, (generate uncommented (describedTrip "a" "b")).1 = .ok g ∧
      (generate uncommented (describedTrip "" "c\nd")).1 = .ok g := by
  have hkeys : (describedTrip "a" "b").hasUniqueKeys = true := by decide +kernel
  have hplain : (describedTrip "a" "b").references.all Schema.isPlainReference = true := by
    decide +kernel
  have h : (describedTrip "a" "b").Redescribed (describedTrip "" "c\nd") := by decide +kernel
  obtain ⟨g, hg⟩ : ∃ g, (generate uncommented (describedTrip "a" "b")).1 = .ok g :=
    exists_generated_uncommented (by decide +kernel)
  exact ⟨rfl, hkeys, hplain, h, g, hg, (generate_of_redescribed rfl hkeys hplain h g).1 hg⟩

/-- A trip with numbers that are found at the first character of a description. -/
def spelledTrip (description : String) : Json :=
  documentOf (objectOf [("p", .obj [("type", .str "array"),
      ("items", .obj [("$ref", .str "#/definitions/x/description/0")]),
      ("properties", .obj [("a", .obj
        [("$ref", .str "#%2Fdefinitions%2Fx%2Fdescription%2F0")])])])])
    [("x", .obj [("type", .str "string"), ("description", .str description)]),
      ("y", .obj [("id", .str "#%2Fdefinitions%2Fx%2Fdescription%2F0"), ("type", .str "string")])]

set_option maxRecDepth 100000 in
/-- An anchor can put a schema at a place inside a description, which is gone with the text. -/
theorem spelledTrip_depends_on_description : uncommented.addComments.truthy = false ∧
    (spelledTrip "t").hasUniqueKeys = true ∧ (spelledTrip "t").Redescribed (spelledTrip "") ∧
    (∃ g, (generate uncommented (spelledTrip "t")).1 = .ok g) ∧
    ∀ g, (generate uncommented (spelledTrip "")).1 ≠ .ok g := by
  have hread : (Schema.read [] (spelledTrip "")).1.toOption = none := by decide +kernel
  refine ⟨rfl, by decide +kernel, by decide +kernel,
    exists_generated_uncommented (by decide +kernel), fun g hg => ?_⟩
  unfold generate at hg
  simp only [Noted.andThen_eq_ok, Noted.silent] at hg
  obtain ⟨custom, hcustom, d, hd, -⟩ := hg
  cases customFormats_uncommented.symm.trans hcustom
  rw [hd] at hread
  cases hread

end Go

end StructGen
