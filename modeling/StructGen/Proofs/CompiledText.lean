import StructGen.Generation
import StructGen.Proofs.CommentMarks
import StructGen.Proofs.GivenNames
import StructGen.Proofs.Reading

/-!
# Texts of compiled documents

Names and types of a compiled document are clean, since the settings are checked and names are
synthesized. Comments stay comments because every line of a description gets its own comment mark;
only the type of a message is pasted into a comment as it is.

* `Style.Plain` is what settings without warnings make sure of;
* `remarks_typeDocstring`, `remarks_messageDocstring`, `remarks_commentBlock` are about comments;
* `neat_of_compile` and `sound_of_compile` are about the declarations of a compiled document.
-/

namespace StructGen.Go

open Schema (NodeId Node Graph Message Document)
open Text (lines isBlank isLineBoundary stripChars)
open Naming (IsClean isGoIdentifier)

/-! ### Comments -/

section Comments

theorem isRemark_slashes (cs : List Char) : IsRemark ('/' :: '/' :: cs) := by
  have hslash : isBlank '/' = false := by decide
  refine Or.inr ⟨Text.dropTrailing isBlank cs, ?_⟩
  rw [Text.stripChars_cons _ hslash, Text.dropTrailing_cons _ hslash]

theorem IsRemark.tab {cs : List Char} (h : IsRemark cs) : IsRemark ('\t' :: cs) := by
  have htab : isBlank '\t' = true := by decide
  rwa [IsRemark, Text.stripChars_cons_of_blank cs htab]

theorem newline_not_mem_of_mem_lines {text : String} {l : List Char} (h : l ∈ lines text) :
    '\n' ∉ l := fun hmem => (Text.mem_of_mem_splitOn h hmem).2 rfl

/-- Every line of a text gets its own comment mark. -/
theorem lines_commentLines (text : String) :
    lines (commentLines "//" text) = (lines text).map fun l => '/' :: '/' :: ' ' :: l := by
  have hparts : (Text.split '\n' text).map (fun line => "//" ++ " " ++ line) =
      (lines text).map fun l => "//" ++ " " ++ String.ofList l := by
    rw [Text.split, List.map_map]
    rfl
  rw [commentLines, hparts, Text.lines_joinWith (by simp [Text.lines_ne_nil]), List.flatMap_map,
    List.map_eq_flatMap]
  refine List.flatMap_congr fun l hl => ?_
  have hchars : ("//" ++ " " ++ String.ofList l).toList = '/' :: '/' :: ' ' :: l := by simp
  rw [Text.lines_of_not_mem, hchars]
  rw [hchars]
  simpa using newline_not_mem_of_mem_lines hl

theorem remarks_commentLines (text : String) :
    ∀ l ∈ lines (commentLines "//" text), IsRemark l := by
  intro l hl
  rw [lines_commentLines] at hl
  obtain ⟨l', -, rfl⟩ := List.mem_map.1 hl
  exact isRemark_slashes _

/-- A text in which only line feeds end lines. -/
def PlainLines (text : String) : Prop := ∀ c ∈ text.toList, isLineBoundary c = true → c = '\n'

instance (text : String) : Decidable (PlainLines text) :=
  decidable_of_iff (text.toList.all fun c => !isLineBoundary c || c == '\n') (by
    simp only [PlainLines, List.all_eq_true, Bool.or_eq_true, Bool.not_eq_true', beq_iff_eq,
      ← Bool.not_eq_true, imp_iff_not_or])

theorem shownDescription_eq_some {s : Style} {n : Node} {text : String}
    (h : s.shownDescription n = some text) : text = Text.strip (n.description.getD "") := by
  simp only [Style.shownDescription] at h
  split_ifs at h
  exact (Option.some.inj h).symm

theorem getLast?_shownDescription {s : Style} {n : Node} {text : String}
    (h : s.shownDescription n = some text) : text.toList.getLast? ≠ some '\r' := by
  intro hlast
  rw [shownDescription_eq_some h, Text.strip_toList] at hlast
  exact absurd (Text.isBlank_of_getLast?_stripChars hlast) (by decide)

/-- The comment of a field, whose description has no other line boundaries than line feeds. -/
theorem remarks_commentBlock {s : Style} {n : Node} {field comment : String}
    (hname : IsClean field) (hcomment : s.shownDescription n = some comment)
    (hn : ∀ text, n.description = some text → PlainLines text) :
    ∀ l ∈ lines (commentBlock field comment), IsRemark l := by
  have hkeeps : KeepsMarks comment.toList := by
    intro b after hafter hb
    have hmem : b ∈ comment.toList := hafter.subset List.mem_cons_self
    rw [shownDescription_eq_some hcomment, Text.strip_toList] at hmem
    have hmem := Text.mem_of_mem_stripChars hmem
    cases hdescription : n.description with
    | none =>
      rw [hdescription] at hmem
      cases hmem
    | some text =>
      rw [hdescription] at hmem
      exact Or.inl (hn text hdescription b hmem hb)
  intro l hl
  have hmarked := (marked_commentBlock_iff hname (getLast?_shownDescription hcomment)).2 hkeeps
  obtain ⟨ds, rfl⟩ := hmarked l hl
  exact (isRemark_slashes ds).tab

theorem remarks_typeDocstring (s : Style) (name : String) (n : Node) :
    s.typeDocstring name n ≠ "" → ∀ l ∈ lines (s.typeDocstring name n), IsRemark l := by
  unfold Style.typeDocstring
  split
  · exact fun _ => remarks_commentLines _
  · exact fun h => absurd rfl h

/-- A version that can be read holds a line feed at its end only. -/
theorem newline_of_majorVersion {version : String} {major : Nat}
    (h : Schema.majorVersion version = .ok major) :
    ∃ cs, '\n' ∉ cs ∧ (version.toList = cs ∨ version.toList = cs ++ ['\n']) := by
  unfold Schema.majorVersion at h
  dsimp only at h
  split_ifs at h with hrest
  simp only [Bool.or_eq_true, Bool.not_eq_true', not_or, Bool.not_eq_false] at hrest
  have hdigits : '\n' ∉ version.toList.takeWhile Text.isDecimalDigit := fun hmem =>
    absurd (List.mem_takeWhile_imp hmem) (by decide)
  have hsplit := List.take_append_drop (version.toList.takeWhile Text.isDecimalDigit).length
    version.toList
  rw [← List.prefix_iff_eq_take.1 (List.takeWhile_prefix _)] at hsplit
  have hrest := hrest.2
  simp only [Schema.isVersionRest, Bool.or_eq_true, beq_iff_eq] at hrest
  rcases hrest with ((hrest | hrest) | hrest) | hrest
  · exact ⟨_, hdigits, Or.inl (by rw [hrest, List.append_nil] at hsplit; exact hsplit.symm)⟩
  · exact ⟨_, hdigits, Or.inr (by rw [hrest] at hsplit; exact hsplit.symm)⟩
  · refine ⟨version.toList, ?_, Or.inl rfl⟩
    rw [← hsplit, hrest]
    simpa using hdigits
  · refine ⟨version.toList.takeWhile Text.isDecimalDigit ++ ['.', '*'], by simpa using hdigits, ?_⟩
    rw [hrest] at hsplit
    exact Or.inr (by rw [List.append_assoc]; exact hsplit.symm)

/-- The comment of a message, whose type holds no line feed. -/
theorem remarks_messageDocstring {name type version : String} {major : Nat} (hname : IsClean name)
    (htype : '\n' ∉ type.toList) (hversion : Schema.majorVersion version = .ok major) :
    ∀ l ∈ lines (Style.messageDocstring name type version), IsRemark l := by
  obtain ⟨cs, hcs, hversion⟩ := newline_of_majorVersion hversion
  have hdocstring : Style.messageDocstring name type version =
      "// " ++ name ++ " represents the data for Hedwig message " ++ type ++ " v" ++ version := rfl
  -- what stands before the line feed is one line
  obtain ⟨before, hbefore, hchars⟩ : ∃ before, '\n' ∉ before ∧
      ("// " ++ name ++ " represents the data for Hedwig message " ++ type ++ " v").toList ++ cs =
        '/' :: '/' :: before := by
    refine ⟨' ' :: (name.toList ++ (" represents the data for Hedwig message ".toList ++
      (type.toList ++ (" v".toList ++ cs)))), ?_, by simp⟩
    simp [hname.newline_not_mem, htype, hcs]
  have hline : '\n' ∉ '/' :: '/' :: before := by simpa using hbefore
  intro l hl
  rw [hdocstring, lines, String.toList_append] at hl
  rcases hversion with hversion | hversion
  · rw [hversion, hchars, List.splitOn_eq_singleton hline, List.mem_singleton] at hl
    rw [hl]
    exact isRemark_slashes _
  · rw [hversion, ← List.append_assoc, hchars, List.splitOn_append_cons_self,
      List.splitOn_eq_singleton hline, List.splitOn_nil] at hl
    rcases List.mem_append.1 hl with hl | hl
    · rw [List.mem_singleton.1 hl]
      exact isRemark_slashes _
    · rw [List.mem_singleton.1 hl]
      exact Or.inl rfl

end Comments

/-! ### Settings without warnings -/

/-- The types and the package name of settings that nothing is doubtful about. -/
structure Style.Plain (s : Style) : Prop where
  int : ∃ name ∈ ["int", "int8", "int16", "int32", "int64"], s.types.int = .str name
  float : ∃ name ∈ ["float32", "float64"], s.types.float = .str name
  unknown : ∃ name ∈ ["interface\x7b\x7d", "any"], s.types.unknown = .str name
  package : ∃ name, Text.isIdentifier name = true ∧ s.package = .str name

theorem known_of_unknownNameWarning {what : String} {names : List String} {v : Json}
    (h : Settings.unknownNameWarning what names v = .ok []) : ∃ name ∈ names, v = .str name := by
  obtain ⟨known, hknown, h⟩ := bind_eq_ok.1 h
  have hknown' : known = true := by
    by_contra hfalse
    simp [hfalse] at h
    cases h
  subst hknown'
  unfold Settings.isKnown at hknown
  split at hknown
  · exact ⟨_, by simpa using hknown, rfl⟩
  · split_ifs at hknown
    cases hknown

theorem plain_of_warnings {settings : Settings} {s : Style} (hstyle : settings.style = .ok s)
    (h : settings.warnings = .ok []) : s.Plain := by
  obtain ⟨initialisms, -, hs⟩ := bind_eq_ok.1 hstyle
  cases hs
  obtain ⟨package, hpackage, h⟩ := bind_eq_ok.1 h
  obtain ⟨ofInt, hint, h⟩ := bind_eq_ok.1 h
  obtain ⟨ofFloat, hfloat, h⟩ := bind_eq_ok.1 h
  obtain ⟨ofUnknown, hunknown, h⟩ := bind_eq_ok.1 h
  have hnil := Except.ok.inj h
  simp only [List.append_eq_nil_iff] at hnil
  obtain ⟨⟨⟨hname, rfl⟩, rfl⟩, rfl⟩ := hnil
  refine ⟨known_of_unknownNameWarning hint, known_of_unknownNameWarning hfloat,
    known_of_unknownNameWarning hunknown, package, ?_, ?_⟩
  · by_contra hident
    simp [hident] at hname
  · unfold Settings.packageText at hpackage
    split at hpackage
    · rw [← Except.ok.inj hpackage]
      assumption
    · cases hpackage

/-- No character of an identifier is a blank. -/
theorem isSolid_of_isIdentifier {name : String} (h : Text.isIdentifier name = true) :
    Text.IsSolid name.toList ∧ name ≠ "" := by
  have hblank : ∀ {c : Char}, isBlank c = true → Text.identifierStarts.contains c = false ∧
      Text.identifierExtenders.contains c = false := fun hc =>
    ⟨Text.CharRanges.not_contains_of_disjoint (by decide +kernel) hc,
      Text.CharRanges.not_contains_of_disjoint (by decide +kernel) hc⟩
  unfold Text.isIdentifier at h
  split at h
  · cases h
  · rename_i c cs hname
    simp only [Bool.and_eq_true, List.all_eq_true, Bool.or_eq_true] at h
    refine ⟨fun x hx => ?_, fun hempty => by rw [hempty] at hname; cases hname⟩
    by_contra hx'
    obtain ⟨hstart, hextend⟩ := hblank (c := x) (by simpa using hx')
    rw [hname] at hx
    rcases List.mem_cons.1 hx with rfl | hx
    · rw [h.1] at hstart
      cases hstart
    · rcases h.2 x hx with h | h
      · rw [h] at hstart
        cases hstart
      · rw [h] at hextend
        cases hextend

theorem isTypeChars_of_isNameChars {cs : List Char} (h : Naming.isNameChars cs = true) :
    Source.isTypeChars cs = true := by
  have hchars := Naming.isNameChar_of_isNameChars h
  rw [Source.isTypeChars.eq_def]
  split
  · exact absurd (hchars '*' (by simp)) (by decide)
  · exact absurd (hchars '[' (by simp)) (by decide)
  · exact absurd (hchars '[' (by simp)) (by decide)
  · simp [Source.isTypeName, h]

/-- A spelling of a type that can be read. -/
def IsSpelling (type : String) : Prop := IsClean type ∧ Source.isTypeChars type.toList = true

instance (type : String) : Decidable (IsSpelling type) := inferInstanceAs (Decidable (_ ∧ _))

theorem Style.Plain.isSpelling_unknown {s : Style} (h : s.Plain) :
    IsSpelling s.types.unknown.display := by
  obtain ⟨name, hname, heq⟩ := h.unknown
  have hall : ∀ name ∈ ["interface\x7b\x7d", "any"], IsSpelling name := by decide
  rw [heq]
  exact hall name hname

theorem Style.Plain.isSpelling_primitives {s : Style} (h : s.Plain) :
    ∀ type ∈ s.types.primitives, IsSpelling type := by
  obtain ⟨i, hi, hint⟩ := h.int
  obtain ⟨f, hf, hfloat⟩ := h.float
  have hints : ∀ name ∈ ["int", "int8", "int16", "int32", "int64"], IsSpelling name := by decide
  have hfloats : ∀ name ∈ ["float32", "float64"], IsSpelling name := by decide
  have hothers : ∀ name ∈ ["string", "bool"], IsSpelling name := by decide
  rw [TypeNames.primitives, hint, hfloat]
  intro type htype
  simp only [List.mem_cons, List.not_mem_nil, or_false] at htype
  rcases htype with rfl | rfl | rfl | rfl
  · exact hints _ hi
  · exact hothers _ (by simp)
  · exact hothers _ (by simp)
  · exact hfloats _ hf

theorem Marked.isClean {core type : String} (h : Marked core type) (hcore : IsClean core) :
    IsClean type := by
  induction h with
  | core => exact hcore
  | pointer _ ih => exact IsClean.append (by decide) ih
  | slice _ ih => exact IsClean.append (by decide) ih

theorem Marked.isTypeChars {core type : String} (h : Marked core type)
    (hcore : Source.isTypeChars core.toList = true) : Source.isTypeChars type.toList = true := by
  induction h with
  | core => exact hcore
  | @pointer type _ ih =>
    have hchars : ("*" ++ type).toList = '*' :: type.toList := by simp
    rw [hchars]
    exact ih
  | @slice type _ ih =>
    have hchars : ("[]" ++ type).toList = '[' :: ']' :: type.toList := by simp
    rw [hchars]
    exact ih

/-! ### Declarations -/

section Declarations

variable {s : Style} {g : Graph} {r : Registry} {name docstring : String} {id : NodeId}
  {e : Declaration}

/-- A declaration is neat if the names around it are clean and the texts of others that it holds
do no harm. -/
theorem neat_of_declare (h : s.declare g r name docstring id = .ok e) (hs : s.Plain)
    (hname : IsClean name) (hknown : ∀ x name, r.get? x = some name → IsClean name)
    (hdocstring : docstring ≠ "" → ∀ l ∈ lines docstring, IsRemark l)
    (hkeys : ∀ p ∈ (g.node id).properties, '\n' ∈ p.1.toList → '\x60' ∉ p.1.toList)
    (hdescriptions : ∀ x text, (g.node x).description = some text → PlainLines text) : e.Neat := by
  have hmarked := marked_of_declare h
  obtain ⟨rfl, rfl, hunknown, hfields⟩ := fields_of_declare h
  refine ⟨hname, hunknown ▸ hs.isSpelling_unknown.1, hdocstring, fun f hf => ?_⟩
  have htype : IsClean f.type := by
    obtain ⟨core, hcore, hbasic | rfl | ⟨-, -, x, -, hx⟩⟩ := hmarked f hf
    · exact hcore.isClean (hs.isSpelling_primitives core hbasic).1
    · exact hcore.isClean hs.isSpelling_unknown.1
    · exact hcore.isClean (hknown x core hx)
  obtain ⟨p, hp, t, -, heq⟩ := exists_of_forall₂ hfields hf
  have hfieldName : f.name = s.initialisms.fieldName p.1 := by rw [heq]
  have hfield : IsClean f.name := hfieldName ▸ s.initialisms.isClean_fieldName p.1
  have hkey : f.key = p.1 := by rw [heq]
  have hshown : f.comment = s.shownDescription (g.node p.2) := by rw [heq]
  refine ⟨hfield, htype, hkey ▸ hkeys p (List.mem_mergeSort.1 hp), fun comment hcomment => ?_⟩
  exact remarks_commentBlock hfield (hshown ▸ hcomment) (hdescriptions p.2)

/-- A declaration can be read if the names around it are identifiers. -/
theorem sound_of_declare (h : s.declare g r name docstring id = .ok e) (hs : s.Plain)
    (hname : isGoIdentifier name = true)
    (hknown : ∀ x name, r.get? x = some name → Source.isTypeChars name.toList = true)
    (hfieldNames : ∀ f ∈ e.fields, isGoIdentifier f.name = true)
    (hkeys : ∀ p ∈ (g.node id).properties, '\n' ∉ p.1.toList ∧ '\x60' ∉ p.1.toList) : e.Sound := by
  have hmarked := marked_of_declare h
  obtain ⟨rfl, -, hunknown, hfields⟩ := fields_of_declare h
  refine ⟨hname, fun _ => hunknown ▸ hs.isSpelling_unknown.2, fun f hf => ?_⟩
  have htype : Source.isTypeChars f.type.toList = true := by
    obtain ⟨core, hcore, hbasic | rfl | ⟨-, -, x, -, hx⟩⟩ := hmarked f hf
    · exact hcore.isTypeChars (hs.isSpelling_primitives core hbasic).2
    · exact hcore.isTypeChars hs.isSpelling_unknown.2
    · exact hcore.isTypeChars (hknown x core hx)
  have hident := hfieldNames f hf
  obtain ⟨p, hp, t, -, rfl⟩ := exists_of_forall₂ hfields hf
  have hkey := hkeys p (List.mem_mergeSort.1 hp)
  exact ⟨hident, htype, hkey.1, hkey.2⟩

end Declarations

/-! ### Compiled documents -/

section Compiled

variable {s : Style} {d : Document} {c : Compiled}

theorem GivenNames.isClean (h : GivenNames s d c) : ∀ name ∈ c.typeNames, IsClean name := by
  intro name hname
  rcases List.mem_append.1 hname with hname | hname
  · obtain ⟨e, he, rfl⟩ := List.mem_map.1 hname
    obtain ⟨path, id, r, -, -, heq⟩ := h.base e he
    rw [heq]
    exact Naming.isClean_unusedName r (s.initialisms.isClean_pathName path)
  · obtain ⟨m, -, wanted, r, hwanted, rfl⟩ := h.messageNames name hname
    exact Naming.isClean_unusedName r (Naming.Initialisms.isClean_typeName hwanted)

/-- How the declarations of a compiled document were made: each from a node, while the nodes with
names had names of the document. -/
theorem declared_of_compile (hcompile : (compile s d).1 = .ok c) :
    (∀ e ∈ c.base, ∃ r id, (∀ x name, Registry.get? r x = some name → name ∈ c.typeNames) ∧
      e.name ∈ c.typeNames ∧
      s.declare d.graph r e.name (s.typeDocstring e.name (d.graph.node id)) id = .ok e) ∧
    ∀ e ∈ c.messages, ∃ m ∈ d.messages, ∃ r,
      (∀ x name, Registry.get? r x = some name → name ∈ c.typeNames) ∧ e.name ∈ c.typeNames ∧
      s.declare d.graph r e.name (Style.messageDocstring e.name m.type m.version) m.node = .ok e := by
  obtain ⟨ids, r, h⟩ := compilation_of_compile hcompile
  have hgiven := givenNames_of_compile hcompile
  have hbase : ∀ e ∈ c.base, e.name ∈ c.typeNames := fun e he =>
    List.mem_append_left _ (List.mem_map_of_mem he)
  constructor
  · intro e he
    obtain ⟨id, -, -, hdeclare⟩ := exists_of_forall₂ h.base he
    refine ⟨r, id, fun x name hx => ?_, hbase e he, hdeclare⟩
    obtain ⟨e', he', rfl⟩ := h.names x name hx
    exact hbase e' he'
  · intro e he
    obtain ⟨m, hm, hname, r', hr', hdeclare⟩ := exists_of_forall₂ hgiven.messages he
    refine ⟨m, hm, r', hr', ?_, hdeclare⟩
    rw [hname]
    exact List.mem_append_right _ (hgiven.named m hm)

/-- What holds of all nodes of a graph holds wherever a node is looked up, if it holds of the empty
node. -/
theorem forall_node {g : Graph} {P : Node → Prop} (h : ∀ n ∈ g.nodes, P n) (hempty : P {})
    (id : NodeId) : P (g.node id) := by
  unfold Graph.node
  cases hid : g.nodes[id]? with
  | none => exact hempty
  | some n => exact h n (List.mem_of_getElem? hid)

/-- **The declarations of a compiled document are neat** unless a property name holds line feeds and
back quotes both, the type of a message holds a line feed, or a description holds a line boundary of
another kind. -/
theorem neat_of_compile (hd : d.WellRead) (hcompile : (compile s d).1 = .ok c) (hs : s.Plain)
    (hkeys : ∀ n ∈ d.graph.nodes, ∀ p ∈ n.properties, '\n' ∈ p.1.toList → '\x60' ∉ p.1.toList)
    (htypes : ∀ m ∈ d.messages, '\n' ∉ m.type.toList)
    (hdescriptions : ∀ n ∈ d.graph.nodes, ∀ text, n.description = some text → PlainLines text) :
    (∀ e ∈ c.base, e.Neat) ∧ ∀ e ∈ c.messages, e.Neat := by
  have hclean := (givenNames_of_compile hcompile).isClean
  have hkeys := forall_node hkeys (by simp)
  have hdescriptions := forall_node hdescriptions (by simp)
  obtain ⟨hbase, hmessages⟩ := declared_of_compile hcompile
  constructor
  · intro e he
    obtain ⟨r, id, hr, hname, hdeclare⟩ := hbase e he
    exact neat_of_declare hdeclare hs (hclean _ hname) (fun x name hx => hclean _ (hr x name hx))
      (remarks_typeDocstring s e.name _) (hkeys id) hdescriptions
  · intro e he
    obtain ⟨m, hm, r, hr, hname, hdeclare⟩ := hmessages e he
    exact neat_of_declare hdeclare hs (hclean _ hname) (fun x name hx => hclean _ (hr x name hx))
      (fun _ => remarks_messageDocstring (hclean _ hname) (htypes m hm) (hd.majors m hm))
      (hkeys m.node) hdescriptions

/-- **The declarations of a compiled document can be read** if all names are identifiers and no
property name holds a line feed or a back quote. -/
theorem sound_of_compile (hcompile : (compile s d).1 = .ok c) (hs : s.Plain)
    (hnames : ∀ name ∈ c.typeNames, isGoIdentifier name = true)
    (hfields : ∀ e ∈ c.base ++ c.messages, ∀ f ∈ e.fields, isGoIdentifier f.name = true)
    (hkeys : ∀ n ∈ d.graph.nodes, ∀ p ∈ n.properties, '\n' ∉ p.1.toList ∧ '\x60' ∉ p.1.toList) :
    (∀ e ∈ c.base, e.Sound) ∧ ∀ e ∈ c.messages, e.Sound := by
  have htypes : ∀ name ∈ c.typeNames, Source.isTypeChars name.toList = true := fun name hname => by
    have hclean := (givenNames_of_compile hcompile).isClean name hname
    exact isTypeChars_of_isNameChars
      ((Naming.isGoIdentifier_iff hclean.newline_not_mem).1 (hnames name hname)).1
  have hkeys := forall_node hkeys (by simp)
  obtain ⟨hbase, hmessages⟩ := declared_of_compile hcompile
  constructor
  · intro e he
    obtain ⟨r, id, hr, hname, hdeclare⟩ := hbase e he
    exact sound_of_declare hdeclare hs (hnames _ hname) (fun x name hx => htypes _ (hr x name hx))
      (hfields e (List.mem_append_left _ he)) (hkeys id)
  · intro e he
    obtain ⟨m, hm, r, hr, hname, hdeclare⟩ := hmessages e he
    exact sound_of_declare hdeclare hs (hnames _ hname) (fun x name hx => htypes _ (hr x name hx))
      (hfields e (List.mem_append_right _ he)) (hkeys m.node)

end Compiled

end StructGen.Go
