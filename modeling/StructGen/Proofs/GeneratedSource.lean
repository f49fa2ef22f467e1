import StructGen.Proofs.CompiledText
import StructGen.Proofs.Declarations
import StructGen.Proofs.DefaultStyle
import StructGen.Proofs.Relayout

/-!
# Generated sources

What is generated for a document is read back from its source. The formatter accepts every source
that is made of identifiers and harmless texts, and the declarations of a source are those of the
compiled document.

* `declarations_of_sourceText` says that layout keeps declarations;
* `Acceptable` says what is asked of names and texts, and `readItems_of_acceptable` reads the source;
* `format_accepts_generated` tells when generating succeeds;
* `generated_declarations` tells which declarations a source has.
-/

namespace StructGen

namespace Source

/-! ### Declarations of a source -/

/-- Whether an item declares something. -/
def Item.isDeclaration : Item → Bool
  | .struct _ _ | .alias _ _ | .function _ => true
  | _ => false

@[simp] theorem Item.isDeclaration_tidy (item : Item) :
    item.tidy.isDeclaration = item.isDeclaration := by
  cases item <;> rfl

/-- Layout keeps the declarations of a source, blank lines in structs apart. -/
theorem declarations_of_sourceText {source : String} {items : List Item}
    (h : readItems source = .ok items) :
    ∃ out, readItems (sourceText items) = .ok out ∧
      out.filter Item.isDeclaration = (items.filter Item.isDeclaration).map Item.tidy := by
  refine ⟨_, readItems_sourceText h, ?_⟩
  have hcomp : Item.isDeclaration ∘ Item.tidy = Item.isDeclaration :=
    funext Item.isDeclaration_tidy
  rw [List.filter_append, List.filter_map, hcomp, filter_squeeze rfl]
  simp [Item.isDeclaration]

theorem squeeze_of_forall_ne {α : Type} [DecidableEq α] {blank : α} {xs : List α}
    (h : ∀ x ∈ xs, x ≠ blank) : squeeze blank xs = xs := by
  have hall : ∀ x ∈ xs, (x != blank) = true := by simpa using h
  calc squeeze blank xs = (squeeze blank xs).filter (· != blank) :=
        (List.filter_eq_self.2 fun x hx => hall x (mem_of_mem_squeeze hx)).symm
    _ = xs.filter (· != blank) := filter_squeeze (by simp) xs
    _ = xs := List.filter_eq_self.2 hall

end Source

/-! ### Generating -/

theorem Noted.andThen_eq_ok {α β : Type} {a : Noted α} {f : α → Noted β} {b : β} :
    (a.andThen f).1 = .ok b ↔ ∃ x, a.1 = .ok x ∧ (f x).1 = .ok b := by
  obtain ⟨a, notices⟩ := a
  cases a with
  | error e => simp [Noted.andThen]
  | ok x => simp [Noted.andThen]

theorem formatNoted_fst (source : String) : (formatNoted source).1 = Source.format source := by
  unfold formatNoted Source.format
  cases Source.readItems source <;> rfl

namespace Go

open Schema (NodeId Node Graph Document)
open Source (Item)
open Naming (isGoIdentifier)

variable {settings : Settings} {contents : Json} {custom : List String} {d : Document} {s : Style}
  {c : Compiled} {g : Generated}

/-- Generating formats the text of what was compiled. -/
theorem generateDocument_eq_ok :
    (generateDocument s d).1 = .ok g ↔ ∃ c code, (compile s d).1 = .ok c ∧
      Source.format (s.fileText c.baseTexts c.messageTexts) = .ok code ∧
      g = { code, warnings := d.warnings.map (·.text),
            metadata := { package := c.package, documentId := c.documentId,
                          messageCount := c.messageNames.length, definitionCount := c.base.length,
                          messageTypes := d.messageTypes } } := by
  simp only [generateDocument, renderCompiled, Noted.andThen_eq_ok, formatNoted_fst, Noted.silent,
    Except.ok.injEq]
  constructor
  · rintro ⟨c, hc, code, ⟨-, -, hcode⟩, rfl⟩
    exact ⟨c, code, hc, hcode, rfl⟩
  · rintro ⟨c, code, hc, hcode, rfl⟩
    exact ⟨c, hc, code, ⟨(), trivial, hcode⟩, rfl⟩

theorem generate_eq_ok (hcustom : Schema.customFormats settings.customFormats = .ok custom)
    (hread : (Schema.read custom contents).1 = .ok d) (hstyle : settings.style = .ok s) :
    (generate settings contents).1 = .ok g ↔ (generateDocument s d).1 = .ok g := by
  simp [generate, Noted.andThen_eq_ok, Noted.silent, hcustom, hread, hstyle]

/-- The text of a file is read line by line, the lines being those of its declarations. -/
theorem readItems_eq_readLines (s : Style) {c : Compiled}
    (h : ∀ e ∈ c.base ++ c.messages, Naming.IsClean e.unknownType) :
    Source.readItems (s.fileText c.baseTexts c.messageTexts) =
      Source.readLines 1 false none (((sourceTexts s.fileHeader s.package.display c.base
        c.messages).flatMap Text.lines ++ [[]]).map Text.stripChars) := by
  rw [← lines_fileText s (fun e he => h e (List.mem_append_left _ he)) fun e he =>
    h e (List.mem_append_right _ he)]
  rfl

/-! ### Sources that are accepted -/

/-- What the source of neat declarations is read as, for a package name that is an identifier of
some script. -/
theorem Style.Plain.readItems_fileText (hs : s.Plain) (hbase : ∀ e ∈ c.base, e.Neat)
    (hmessages : ∀ e ∈ c.messages, e.Neat) {out : List Item} :
    Source.readItems (s.fileText c.baseTexts c.messageTexts) = .ok out ↔
      (isGoIdentifier s.package.display = true ∧ (∀ e ∈ c.base, e.Sound) ∧
        ∀ e ∈ c.messages, e.Sound) ∧
      out = fileItems s.fileHeader s.package.display c.base c.messages := by
  obtain ⟨package, hident, hdisplay⟩ := hs.package
  obtain ⟨hsolid, hne⟩ := isSolid_of_isIdentifier hident
  have hpackage : s.package.display = package := by rw [hdisplay, Json.display_str]
  refine Go.readItems_fileText ?_ ?_ hbase hmessages
  · rwa [hpackage]
  · rwa [hpackage]

/-- The names of a compiled document are identifiers, and the texts of the document hold no line
feeds, back quotes and line boundaries where they do harm. -/
structure Acceptable (d : Document) (c : Compiled) : Prop where
  names : ∀ name ∈ c.typeNames, isGoIdentifier name = true
  fields : ∀ e ∈ c.base ++ c.messages, ∀ f ∈ e.fields, isGoIdentifier f.name = true
  keys : ∀ n ∈ d.graph.nodes, ∀ p ∈ n.properties, '\n' ∉ p.1.toList ∧ '\x60' ∉ p.1.toList
  types : ∀ m ∈ d.messages, '\n' ∉ m.type.toList
  descriptions : ∀ n ∈ d.graph.nodes, ∀ text ∈ n.description, PlainLines text

instance (d : Document) (c : Compiled) : Decidable (Acceptable d c) :=
  decidable_of_iff
    ((∀ name ∈ c.typeNames, isGoIdentifier name = true) ∧
      (∀ e ∈ c.base ++ c.messages, ∀ f ∈ e.fields, isGoIdentifier f.name = true) ∧
      (∀ n ∈ d.graph.nodes, ∀ p ∈ n.properties, '\n' ∉ p.1.toList ∧ '\x60' ∉ p.1.toList) ∧
      (∀ m ∈ d.messages, '\n' ∉ m.type.toList) ∧
      ∀ n ∈ d.graph.nodes, ∀ text ∈ n.description, PlainLines text)
    ⟨fun h => ⟨h.1, h.2.1, h.2.2.1, h.2.2.2.1, h.2.2.2.2⟩,
      fun h => ⟨h.names, h.fields, h.keys, h.types, h.descriptions⟩⟩

/-- A package name that is an identifier, and types that are known. -/
structure Style.Acceptable (s : Style) : Prop where
  plain : s.Plain
  package : isGoIdentifier s.package.display = true

/-- What the source consists of, if it is accepted. -/
theorem readItems_of_acceptable (hs : s.Acceptable)
    (hread : (Schema.read custom contents).1 = .ok d) (hcompile : (compile s d).1 = .ok c)
    (h : Acceptable d c) :
    Source.readItems (s.fileText c.baseTexts c.messageTexts) =
      .ok (fileItems s.fileHeader s.package.display c.base c.messages) := by
  have hneat := neat_of_compile (Schema.wellRead_of_read hread) hcompile hs.plain
    (fun n hn p hp _ => (h.keys n hn p hp).2) h.types h.descriptions
  have hsound := sound_of_compile hcompile hs.plain h.names h.fields h.keys
  exact (hs.plain.readItems_fileText hneat.1 hneat.2).2 ⟨⟨hs.package, hsound⟩, rfl⟩

/-- **The formatter accepts what is generated**: if the package name, all names of types and all
names of fields are identifiers, and the texts of the document hold no line feeds, back quotes and
line boundaries where they do harm, then generating succeeds. -/
theorem format_accepts_generated
    (hcustom : Schema.customFormats settings.customFormats = .ok custom)
    (hread : (Schema.read custom contents).1 = .ok d) (hstyle : settings.style = .ok s)
    (hcompile : (compile s d).1 = .ok c) (hwarnings : settings.warnings = .ok [])
    (hpackage : isGoIdentifier s.package.display = true)
    (hnames : ∀ name ∈ c.typeNames, isGoIdentifier name = true)
    (hfields : ∀ e ∈ c.base ++ c.messages, ∀ f ∈ e.fields, isGoIdentifier f.name = true)
    (hkeys : ∀ n ∈ d.graph.nodes, ∀ p ∈ n.properties, '\n' ∉ p.1.toList ∧ '\x60' ∉ p.1.toList)
    (htypes : ∀ m ∈ d.messages, '\n' ∉ m.type.toList)
    (hdescriptions : ∀ n ∈ d.graph.nodes, ∀ text ∈ n.description, PlainLines text) :
    ∃ code, Source.format (s.fileText c.baseTexts c.messageTexts) = .ok code ∧
      ∃ g, (generate settings contents).1 = .ok g ∧ g.code = code := by
  have hs : s.Acceptable := ⟨plain_of_warnings hstyle hwarnings, hpackage⟩
  have hitems := readItems_of_acceptable hs hread hcompile
    ⟨hnames, hfields, hkeys, htypes, hdescriptions⟩
  have hformat : Source.format (s.fileText c.baseTexts c.messageTexts) = .ok _ :=
    map_eq_ok.2 ⟨_, hitems, rfl⟩
  exact ⟨_, hformat, _, (generate_eq_ok hcustom hread hstyle).2
    (generateDocument_eq_ok.2 ⟨c, _, hcompile, hformat, rfl⟩), rfl⟩

/-! #### A document with a comment of several lines -/

/-- Settings without initialisms. -/
def plainSettings : Settings := { initialisms := .arr [] }

/-- A journey has legs, which are described as their starts are. -/
def journey : Json :=
  documentOf (objectOf [("legs", arrayOf (refTo "leg"))])
    [("leg", .obj [("type", .str "object"), ("description", .str "A leg,\nby bus or by train."),
      ("properties", .obj [("from \"place\"", .obj [("type", .arr [.str "string", .str "null"]),
        ("description", .str "Where it starts.\n\nNull if anywhere.")])])])]

set_option maxRecDepth 100000 in
theorem format_accepts_journey : ∃ s d c code g, plainSettings.style = .ok s ∧
    (Schema.read [] journey).1 = .ok d ∧ (compile s d).1 = .ok c ∧
    (d.graph.nodes.filterMap (·.description)).length = 2 ∧ c.typeNames = ["Leg", "Trip"] ∧
    Source.format (s.fileText c.baseTexts c.messageTexts) = .ok code ∧
    (generate plainSettings journey).1 = .ok g ∧ g.code = code := by
  have h : (plainSettings.style.toOption.bind fun s =>
      (Schema.read [] journey).1.toOption.bind fun d => (compile s d).1.toOption.map fun c =>
        decide (((d.graph.nodes.filterMap (·.description)).length = 2 ∧
          c.typeNames = ["Leg", "Trip"]) ∧
          isGoIdentifier s.package.display = true ∧ Acceptable d c)) = some true := by
    decide +kernel
  obtain ⟨s, hs, h⟩ := Option.bind_eq_some_iff.1 h
  obtain ⟨d, hd, h⟩ := Option.bind_eq_some_iff.1 h
  obtain ⟨c, hc, h⟩ := Option.map_eq_some_iff.1 h
  obtain ⟨⟨hcount, hnames⟩, hpackage, hacceptable⟩ := of_decide_eq_true h
  have hcustom : Schema.customFormats plainSettings.customFormats = .ok [] := rfl
  obtain ⟨code, hcode, g, hg, heq⟩ := format_accepts_generated hcustom
    (ok_of_toOption hd) (ok_of_toOption hs) (ok_of_toOption hc) (by decide +kernel) hpackage
    hacceptable.names hacceptable.fields hacceptable.keys hacceptable.types
    hacceptable.descriptions
  exact ⟨s, d, c, code, g, ok_of_toOption hs, ok_of_toOption hd, ok_of_toOption hc, hcount, hnames,
    hcode, hg, heq⟩

/-! ### Declarations of a generated source -/

theorem isDeclaration_topRemark (l : List Char) : (topRemark l).isDeclaration = false := by
  unfold topRemark
  split_ifs <;> rfl

theorem isDeclaration_item (e : Declaration) : e.item.isDeclaration = true := by
  unfold Declaration.item
  split_ifs <;> rfl

theorem filter_items (e : Declaration) : e.items.filter Item.isDeclaration = [e.item] := by
  have hremarks : (if e.docstring = "" then [] else (Text.lines e.docstring).map topRemark).filter
      Item.isDeclaration = [] := by
    split_ifs
    · rfl
    · rw [List.filter_map, List.map_eq_nil_iff, List.filter_eq_nil_iff]
      simp [isDeclaration_topRemark]
  rw [Declaration.items, List.filter_append, hremarks, List.nil_append]
  simp [isDeclaration_item]

/-- The declarations of a file. -/
theorem filter_fileItems (header package : String) (base messages : List Declaration) :
    (fileItems header package base messages).filter Item.isDeclaration =
      base.map (·.item) ++
        messages.flatMap fun e => [e.item, Item.function (factoryLine e.name)] := by
  have hheader : (if header = "" then [] else [Item.comment header, Item.blank]).filter
      Item.isDeclaration = [] := by
    split_ifs <;> rfl
  have hbase : (base.flatMap fun e => e.items ++ [Item.blank]).filter Item.isDeclaration =
      base.map (·.item) := by
    rw [List.filter_flatMap, List.map_eq_flatMap]
    refine List.flatMap_congr fun e _ => ?_
    rw [List.filter_append, filter_items]
    rfl
  have hmessages : (messages.flatMap fun e =>
      e.items ++ ([Item.blank] ++ (factoryItems e.name ++ [Item.blank]))).filter
        Item.isDeclaration =
      messages.flatMap fun e => [e.item, Item.function (factoryLine e.name)] := by
    rw [List.filter_flatMap]
    refine List.flatMap_congr fun e _ => ?_
    rw [List.filter_append, filter_items]
    rfl
  rw [fileItems]
  simp only [List.filter_append, hheader, hbase, hmessages]
  simp [Item.isDeclaration]

/-- The declaration of a node without comments: a struct with one field for each property and
nothing else, or a map if there are no properties. -/
def Spells (n : Node) (e : Declaration) : Prop :=
  e.fields.map (·.key) = n.sortedProperties.map Prod.fst ∧
    e.item = if n.properties = [] then Item.alias e.name ("map[string]" ++ e.unknownType)
      else Item.struct e.name (e.fields.map fun f => Source.BodyLine.field f.source)

theorem Spells.tidy_item {n : Node} {e : Declaration} (h : Spells n e) : e.item.tidy = e.item := by
  rw [h.2]
  split_ifs
  · rfl
  · rw [Item.tidy, Source.squeeze_of_forall_ne]
    simp

theorem fieldsBody_of_none (first : Bool) {fs : List FieldDeclaration}
    (h : ∀ f ∈ fs, f.comment = none) :
    fieldsBody first fs = fs.map fun f => Source.BodyLine.field f.source := by
  induction fs generalizing first with
  | nil => rfl
  | cons f fs ih =>
    have hbody : f.body first = [Source.BodyLine.field f.source] := by
      rw [FieldDeclaration.body, h f List.mem_cons_self]
      rfl
    rw [fieldsBody, hbody, ih false fun f hf => h f (List.mem_cons_of_mem _ hf)]
    rfl

theorem shownDescription_of_none {n : Node} (h : n.description = none) :
    s.shownDescription n = none := by
  have hstrip : (Text.strip "").isEmpty = true := by decide
  simp [Style.shownDescription, h, hstrip]

theorem spells_of_declare {g : Graph} {r : Registry} {name docstring : String} {id : NodeId}
    {e : Declaration} (h : s.declare g r name docstring id = .ok e)
    (hdescriptions : ∀ x, (g.node x).description = none) : Spells (g.node id) e := by
  obtain ⟨-, -, -, hfields⟩ := fields_of_declare h
  have hnone : ∀ f ∈ e.fields, f.comment = none := fun f hf => by
    obtain ⟨p, -, t, -, rfl⟩ := exists_of_forall₂ hfields hf
    exact shownDescription_of_none (hdescriptions p.2)
  have hempty : e.fields = [] ↔ (g.node id).properties = [] := by
    rw [← List.length_eq_zero_iff, ← List.length_eq_zero_iff, ← hfields.length_eq,
      Node.sortedProperties, List.length_mergeSort]
  refine ⟨keys_of_declare h, ?_⟩
  rw [Declaration.item, fieldsBody_of_none true hnone]
  simp only [hempty]

/-- Layout keeps the declarations of a file whose structs hold no blank lines. -/
theorem map_tidy_fileItems (header package : String) {base messages : List Declaration}
    (hbase : ∀ e ∈ base, e.item.tidy = e.item) (hmessages : ∀ e ∈ messages, e.item.tidy = e.item) :
    ((fileItems header package base messages).filter Item.isDeclaration).map Item.tidy =
      base.map (·.item) ++
        messages.flatMap fun e => [e.item, Item.function (factoryLine e.name)] := by
  have htypes : (base.map (·.item)).map Item.tidy = base.map (·.item) := by
    rw [List.map_map]
    exact List.map_congr_left hbase
  have hfunctions : (messages.flatMap fun e => [e.item, Item.function (factoryLine e.name)]).map
      Item.tidy = messages.flatMap fun e => [e.item, Item.function (factoryLine e.name)] := by
    rw [List.map_flatMap]
    refine List.flatMap_congr fun e he => ?_
    rw [List.map_cons, List.map_singleton, hmessages e he, Item.tidy]
    simp
  rw [filter_fileItems, List.map_append, htypes, hfunctions]

/-- **A source without comments declares what was compiled and nothing else**: the types, then each
message with its function, and a struct has exactly one field for each property. The texts of the
document can only do harm through a line feed in the type of a message, or through a line feed and a
back quote in one property name. -/
theorem generated_declarations
    (hcustom : Schema.customFormats settings.customFormats = .ok custom)
    (hread : (Schema.read custom contents).1 = .ok d) (hstyle : settings.style = .ok s)
    (hgenerate : (generate settings contents).1 = .ok g) (hwarnings : settings.warnings = .ok [])
    (hdescriptions : ∀ n ∈ d.graph.nodes, n.description = none)
    (htypes : ∀ m ∈ d.messages, '\n' ∉ m.type.toList)
    (hkeys : ∀ n ∈ d.graph.nodes, ∀ p ∈ n.properties, '\n' ∈ p.1.toList → '\x60' ∉ p.1.toList) :
    ∃ c ids r items, (compile s d).1 = .ok c ∧
      List.Forall₂ (fun id e => DeclaredAs s d.graph r id e ∧ Spells (d.graph.node id) e)
        ids c.base ∧
      List.Forall₂ (fun m e => e.name = messageName c.messageNames m ∧
        Spells (d.graph.node m.node) e) d.messages c.messages ∧
      Source.readItems g.code = .ok items ∧
      items.filter Item.isDeclaration = c.base.map (·.item) ++
        c.messages.flatMap fun e => [e.item, Item.function (factoryLine e.name)] := by
  obtain ⟨c, code, hcompile, hformat, rfl⟩ :=
    generateDocument_eq_ok.1 ((generate_eq_ok hcustom hread hstyle).1 hgenerate)
  have hs := plain_of_warnings hstyle hwarnings
  have hneat := neat_of_compile (Schema.wellRead_of_read hread) hcompile hs hkeys htypes
    fun n hn text htext => by rw [hdescriptions n hn] at htext; cases htext
  -- the source is accepted, so it consists of the declarations
  obtain ⟨items, hitems, rfl⟩ := map_eq_ok.1 hformat
  obtain ⟨-, rfl⟩ := (hs.readItems_fileText hneat.1 hneat.2).1 hitems
  obtain ⟨out, hout, hdeclarations⟩ := Source.declarations_of_sourceText hitems
  have hnone : ∀ x, (d.graph.node x).description = none :=
    forall_node (P := fun n => n.description = none) hdescriptions rfl
  obtain ⟨ids, r, h⟩ := compilation_of_compile hcompile
  have hbase : List.Forall₂ (fun id e => DeclaredAs s d.graph r id e ∧
      Spells (d.graph.node id) e) ids c.base :=
    h.base.imp fun id e he => ⟨he, spells_of_declare he.2 hnone⟩
  have hmessages : List.Forall₂ (fun m e => e.name = messageName c.messageNames m ∧
      Spells (d.graph.node m.node) e) d.messages c.messages := by
    refine (givenNames_of_compile hcompile).messages.imp ?_
    rintro m e ⟨hname, r', -, he⟩
    exact ⟨hname, spells_of_declare he hnone⟩
  refine ⟨c, ids, r, out, hcompile, hbase, hmessages, hout, ?_⟩
  rw [hdeclarations]
  refine map_tidy_fileItems _ _ (fun e he => ?_) fun e he => ?_
  · obtain ⟨id, -, -, hspells⟩ := exists_of_forall₂ hbase he
    exact hspells.tidy_item
  · obtain ⟨m, -, -, hspells⟩ := exists_of_forall₂ hmessages he
    exact hspells.tidy_item

/-! ### Documents whose source is accepted -/

/-- The declarations of a compiled document, with no blank lines in structs but those that layout
leaves. -/
def Compiled.tidied (c : Compiled) : List Item :=
  (c.base.map (·.item) ++
    c.messages.flatMap fun e => [e.item, Item.function (factoryLine e.name)]).map Item.tidy

/-- What a document is read and compiled to, if its source is accepted. -/
def acceptableUnder (s : Style) (contents : Json) : Option (Document × Compiled) :=
  (Schema.read [] contents).1.toOption.bind fun d =>
  (compile s d).1.toOption.bind fun c => if Acceptable d c then some (d, c) else none

theorem acceptableUnder_eq_some (h : acceptableUnder s contents = some (d, c)) :
    (Schema.read [] contents).1 = .ok d ∧ (compile s d).1 = .ok c ∧ Acceptable d c := by
  obtain ⟨d, hread, h⟩ := Option.bind_eq_some_iff.1 h
  obtain ⟨c, hcompile, h⟩ := Option.bind_eq_some_iff.1 h
  split_ifs at h with hacceptable
  cases h
  exact ⟨ok_of_toOption hread, ok_of_toOption hcompile, hacceptable⟩

/-- **A document whose source is accepted is generated**, with the warnings of reading it, and its
code declares what was compiled. -/
theorem exists_generated_of_acceptable
    (hcustom : Schema.customFormats settings.customFormats = .ok [])
    (hstyle : settings.style = .ok s) (hs : s.Acceptable)
    (h : acceptableUnder s contents = some (d, c)) :
    ∃ g out, (generate settings contents).1 = .ok g ∧ g.warnings = d.warnings.map (·.text) ∧
      Source.readItems g.code = .ok out ∧ out.filter Item.isDeclaration = c.tidied := by
  obtain ⟨hread, hcompile, hacceptable⟩ := acceptableUnder_eq_some h
  have hitems := readItems_of_acceptable hs hread hcompile hacceptable
  obtain ⟨out, hout, hfilter⟩ := Source.declarations_of_sourceText hitems
  rw [filter_fileItems] at hfilter
  exact ⟨_, out, (generate_eq_ok hcustom hread hstyle).2
    (generateDocument_eq_ok.2 ⟨c, _, hcompile, map_eq_ok.2 ⟨_, hitems, rfl⟩, rfl⟩), rfl, hout,
    hfilter⟩

/-- The default style asks for known types, and for a package name that is an identifier. -/
theorem acceptable_defaultStyle : defaultStyle.Acceptable where
  plain := ⟨⟨_, by decide, rfl⟩, ⟨_, by decide, rfl⟩, ⟨_, by decide, rfl⟩, ⟨_, by decide, rfl⟩⟩
  package := by decide +kernel

/-- A document that is acceptable by default is generated by default. -/
theorem exists_generated_by_default (h : acceptableUnder defaultStyle contents = some (d, c)) :
    ∃ g out, (generate .default contents).1 = .ok g ∧ g.warnings = d.warnings.map (·.text) ∧
      Source.readItems g.code = .ok out ∧ out.filter Item.isDeclaration = c.tidied :=
  exists_generated_of_acceptable customFormats_default style_default acceptable_defaultStyle h

/-- The codes of two documents are different if their declarations are. -/
theorem exists_generated_apart {contents' : Json}
    (h : ((acceptableUnder defaultStyle contents).bind fun p =>
      (acceptableUnder defaultStyle contents').map fun p' => decide (p.2.tidied ≠ p'.2.tidied)) =
        some true) :
    ∃ g g', (generate .default contents).1 = .ok g ∧ (generate .default contents').1 = .ok g' ∧
      g.code ≠ g'.code := by
  obtain ⟨⟨d, c⟩, hd, h⟩ := Option.bind_eq_some_iff.1 h
  obtain ⟨⟨d', c'⟩, hd', h⟩ := Option.map_eq_some_iff.1 h
  obtain ⟨g, out, hg, -, hout, hfilter⟩ := exists_generated_by_default hd
  obtain ⟨g', out', hg', -, hout', hfilter'⟩ := exists_generated_by_default hd'
  refine ⟨g, g', hg, hg', fun hcode => of_decide_eq_true h ?_⟩
  rw [hcode, hout'] at hout
  cases hout
  exact hfilter.symm.trans hfilter'

/-! #### Declarations of a trip, and one that is smuggled in -/

set_option maxRecDepth 100000 in
theorem trip_generated_declarations : ∃ d g c ids r items, (Schema.read [] trip).1 = .ok d ∧
    (∀ n ∈ d.graph.nodes, n.description = none) ∧ c.typeNames = ["Place", "Stop", "Trip"] ∧
    (generate .default trip).1 = .ok g ∧ (compile defaultStyle d).1 = .ok c ∧
      List.Forall₂ (fun id e => DeclaredAs defaultStyle d.graph r id e ∧
        Spells (d.graph.node id) e) ids c.base ∧
      List.Forall₂ (fun m e => e.name = messageName c.messageNames m ∧
        Spells (d.graph.node m.node) e) d.messages c.messages ∧
      Source.readItems g.code = .ok items ∧
      items.filter Item.isDeclaration = c.base.map (·.item) ++
        c.messages.flatMap fun e => [e.item, Item.function (factoryLine e.name)] := by
  have h : ((acceptableUnder defaultStyle trip).map fun p =>
      decide (p.2.typeNames = ["Place", "Stop", "Trip"] ∧
        ∀ n ∈ p.1.graph.nodes, n.description = none)) = some true := by decide +kernel
  obtain ⟨⟨d, c⟩, haccepted, h⟩ := Option.map_eq_some_iff.1 h
  obtain ⟨hnames, hdescriptions⟩ := of_decide_eq_true h
  obtain ⟨hread, hcompile, hacceptable⟩ := acceptableUnder_eq_some haccepted
  obtain ⟨g, -, hg, -⟩ := exists_generated_by_default haccepted
  obtain ⟨c', ids, r, items, hc', hrest⟩ := generated_declarations customFormats_default
    hread style_default hg warnings_default hdescriptions hacceptable.types
    fun n hn p hp _ => (hacceptable.keys n hn p hp).2
  obtain rfl := Except.ok.inj (hcompile.symm.trans hc')
  exact ⟨d, g, c, ids, r, items, hread, hdescriptions, hnames, hg, hcompile, hrest⟩

/-- A message whose type goes on behind the comment that it is pasted into. -/
def smuggler : Json :=
  .obj [("id", .str "travel"), ("schemas", .obj [("a\ntype B int\n//",
    .obj [("1", .obj [("type", .str "object")])])])]

set_option maxRecDepth 100000 in
/-- The type of a message can bring a declaration of its own into the source. -/
theorem smuggled_declaration : ∃ d c g items, (Schema.read [] smuggler).1 = .ok d ∧
    (∀ n ∈ d.graph.nodes, n.description = none) ∧ (compile defaultStyle d).1 = .ok c ∧
    (generate .default smuggler).1 = .ok g ∧ Source.readItems g.code = .ok items ∧
    Item.alias "B" "int" ∈ items ∧ "B" ∉ c.typeNames ∧
    items.filter Item.isDeclaration ≠ c.base.map (·.item) ++
      c.messages.flatMap fun e => [e.item, Item.function (factoryLine e.name)] := by
  have h : ((Schema.read [] smuggler).1.toOption.bind fun d =>
      (compile defaultStyle d).1.toOption.bind fun c =>
        (Source.readLines 1 false none (((sourceTexts "" "hedwig" c.base c.messages).flatMap
          Text.lines ++ [[]]).map Text.stripChars)).toOption.map fun items =>
          decide ((∀ n ∈ d.graph.nodes, n.description = none) ∧
            (∀ e ∈ c.base ++ c.messages, Naming.IsClean e.unknownType) ∧
            (items.filter Item.isDeclaration).map Item.tidy = [.alias "B" "int",
              .alias "AtypeBInt" "map[string]interface\x7b\x7d",
              .function (factoryLine "AtypeBInt")] ∧
            "B" ∉ c.typeNames ∧ c.base = [] ∧ c.messages.length = 1)) = some true := by
    decide +kernel
  obtain ⟨d, hd, h⟩ := Option.bind_eq_some_iff.1 h
  obtain ⟨c, hc, h⟩ := Option.bind_eq_some_iff.1 h
  obtain ⟨items, hitems, h⟩ := Option.map_eq_some_iff.1 h
  obtain ⟨hdescriptions, hclean, hdeclarations, hname, hbase, hlength⟩ := of_decide_eq_true h
  have hitems := (readItems_eq_readLines defaultStyle hclean).trans (ok_of_toOption hitems)
  obtain ⟨out, hout, hfilter⟩ := Source.declarations_of_sourceText hitems
  rw [hdeclarations] at hfilter
  refine ⟨d, c, _, out, ok_of_toOption hd, hdescriptions, ok_of_toOption hc,
    (generate_eq_ok customFormats_default (ok_of_toOption hd) style_default).2
      (generateDocument_eq_ok.2 ⟨c, _, ok_of_toOption hc, map_eq_ok.2 ⟨items, hitems, rfl⟩, rfl⟩),
    hout, ?_, hname, fun heq => ?_⟩
  · refine List.mem_of_mem_filter (p := Item.isDeclaration) ?_
    rw [hfilter]
    exact List.mem_cons_self
  -- one message makes two declarations, and there are three
  · have hlengths := congrArg List.length (hfilter.symm.trans heq)
    obtain ⟨e, he⟩ := List.length_eq_one_iff.1 hlength
    simp [hbase, he] at hlengths

end Go

end StructGen
