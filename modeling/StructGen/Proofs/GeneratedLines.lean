import StructGen.Go.Compiled
import StructGen.Proofs.SourceLines

/-!
# Lines of generated sources

The text of a file is put together from the texts of its declarations, and here it is followed line
by line into the reader of sources. Names and types come in clean; property names and descriptions
are the texts of others and decide whether the source can be read, and as what.

* `FieldDeclaration.readsAs` is about the line of a field;
* `Declaration.readsAs` is about a declaration;
* `readItems_fileText` says when a file can be read, and what it then consists of.
-/

namespace StructGen.Go

open Source (ReadsAs BodyReadsAs Item BodyLine)
open Text (lines unlines stripChars isBlank)
open Naming (IsClean isGoIdentifier)

/-! ### Remarks -/

/-- A line that is blank or a comment. -/
def IsRemark (cs : List Char) : Prop := stripChars cs = [] ∨ ∃ ds, stripChars cs = '/' :: '/' :: ds

/-- What a remark is inside a struct. -/
def bodyRemark (cs : List Char) : BodyLine :=
  if stripChars cs = [] then .blank else .comment (String.ofList (stripChars cs))

/-- What a remark is outside structs. -/
def topRemark (cs : List Char) : Item :=
  if stripChars cs = [] then .blank else .comment (String.ofList (stripChars cs))

theorem bodyReadsAs_remark {cs : List Char} (h : IsRemark cs) :
    BodyReadsAs True [cs] [bodyRemark cs] := by
  refine BodyReadsAs.line ?_ fun n l => ?_
  · rcases h with h | ⟨ds, h⟩
    · simp [h]
    · simp [h]
  · rcases h with h | ⟨ds, h⟩
    · simp [h, bodyRemark, eq_comm]
    · simp [h, bodyRemark, Source.readBodyLine_comment, eq_comm]

theorem readsAs_remark (p : Bool) {cs : List Char} (h : IsRemark cs) :
    ReadsAs p p True [cs] [topRemark cs] := by
  refine ReadsAs.line (fun name => ?_) fun n t => ?_
  · unfold topRemark
    split_ifs <;> simp
  · rcases h with h | ⟨ds, h⟩
    · simp [h, topRemark, eq_comm]
    · have hcomment : Source.IsComment ('/' :: '/' :: ds) := Or.inl ⟨ds, rfl⟩
      simp [h, topRemark, Source.readTopLine_comment hcomment, eq_comm]

theorem bodyReadsAs_remarks {ls : List (List Char)} (h : ∀ l ∈ ls, IsRemark l) :
    BodyReadsAs True ls (ls.map bodyRemark) := by
  induction ls with
  | nil => exact BodyReadsAs.nil
  | cons l ls ih =>
    have hls := ih fun l hl => h l (List.mem_cons_of_mem _ hl)
    exact ((bodyReadsAs_remark (h l List.mem_cons_self)).append hls).congr (by simp)

theorem readsAs_remarks (p : Bool) {ls : List (List Char)} (h : ∀ l ∈ ls, IsRemark l) :
    ReadsAs p p True ls (ls.map topRemark) := by
  induction ls with
  | nil => exact ReadsAs.nil
  | cons l ls ih =>
    have hls := ih fun l hl => h l (List.mem_cons_of_mem _ hl)
    exact ((readsAs_remark p (h l List.mem_cons_self)).append fun _ => hls).congr (by simp)

/-- A comment of one line. -/
theorem readsAs_comment {p : Bool} {text : String} {c : Char} (h : Source.IsComment text.toList)
    (hline : '\n' ∉ text.toList) (hlast : text.toList.getLast? = some c) (hc : isBlank c = false) :
    ReadsAs p p True (lines text) [.comment text] := by
  have hhead : text.toList.head? = some '/' := by
    rcases h with ⟨ds, h⟩ | ⟨⟨ds, h⟩, -⟩
    · rw [← h]
      rfl
    · rw [← h]
      rfl
  rw [Text.lines_of_not_mem hline]
  exact ReadsAs.comment h (Text.stripChars_eq_self hhead (by decide) hlast hc)

/-! ### Fields -/

namespace FieldDeclaration

/-- What follows the property name in the tag of a field. -/
def tagEnd (f : FieldDeclaration) : String := if f.optional then ",omitempty\"`" else "\"`"

/-- The field of the source. -/
def source (f : FieldDeclaration) : Source.Field :=
  ⟨f.name, f.type, "`json:\"" ++ (f.key ++ f.tagEnd)⟩

/-- What is known of a field: its name and its type are clean, its comment is one, and its property
name does not hold line feeds and back quotes both. -/
structure Neat (f : FieldDeclaration) : Prop where
  name : IsClean f.name
  type : IsClean f.type
  key : '\n' ∈ f.key.toList → '\x60' ∉ f.key.toList
  comment : ∀ comment, f.comment = some comment → ∀ l ∈ lines (commentBlock f.name comment), IsRemark l

/-- What makes a field readable. -/
structure Sound (f : FieldDeclaration) : Prop where
  name : isGoIdentifier f.name = true
  type : Source.isTypeChars f.type.toList = true
  newline : '\n' ∉ f.key.toList
  backQuote : '\x60' ∉ f.key.toList

variable {f : FieldDeclaration}

/-- What follows the back quote that starts the tag of a field. -/
def tagRest (f : FieldDeclaration) : List Char :=
  "json:\"".toList ++ (f.key.toList ++ f.tagEnd.toList)

theorem tagRest_eq (f : FieldDeclaration) :
    f.tagRest = "json:\"".toList ++ (f.key.toList ++ f.tagEnd.toList) := rfl

theorem line_toList (f : FieldDeclaration) :
    f.line.toList = '\t' :: (f.name.toList ++ ' ' :: (f.type.toList ++ ' ' :: '\x60' ::
      f.tagRest)) := by
  have hline : f.line = "\t" ++ f.name ++ " " ++ f.type ++ " `json:\"" ++ f.key ++
    (if f.optional then ",omitempty" else "") ++ "\"`" := rfl
  rw [hline, tagRest_eq, tagEnd]
  split_ifs <;> simp

theorem tagEnd_eq (f : FieldDeclaration) : ∃ cs, f.tagEnd.toList = cs ++ ['"', '\x60'] ∧
    '\n' ∉ cs ∧ '\x60' ∉ cs := by
  unfold tagEnd
  split_ifs
  · exact ⟨",omitempty".toList, by decide, by decide, by decide⟩
  · exact ⟨[], by decide, by decide, by decide⟩

theorem isBackQuoted_tagRest (f : FieldDeclaration) :
    Source.isBackQuoted ('\x60' :: f.tagRest) = true ↔ '\x60' ∉ f.key.toList := by
  obtain ⟨cs, hend, -, hcs⟩ := f.tagEnd_eq
  have hjson : ("json:\"".toList).count '\x60' = 0 := by decide
  have hlast : f.tagRest.getLast? = some '\x60' :=
    List.getLast?_eq_some_iff.2
      ⟨"json:\"".toList ++ (f.key.toList ++ (cs ++ ['"'])), by simp [tagRest_eq, hend]⟩
  have hcount : f.tagRest.count '\x60' = f.key.toList.count '\x60' + 1 := by
    simp only [tagRest_eq, hend, List.count_append, hjson, List.count_eq_zero.2 hcs]
    simp
  simp only [Source.isBackQuoted_cons, hlast, hcount]
  simp [List.count_eq_zero]

theorem isJsonTag_tagRest (f : FieldDeclaration) : Source.isJsonTag ('\x60' :: f.tagRest) = true := by
  obtain ⟨cs, hend, -⟩ := f.tagEnd_eq
  have hsuffix : "\"`".toList <:+ '\x60' :: f.tagRest := by
    refine ⟨"`json:\"".toList ++ (f.key.toList ++ cs), ?_⟩
    simp [tagRest_eq, hend]
  have hprefix : "`json:\"".toList <+: '\x60' :: f.tagRest :=
    ⟨f.key.toList ++ f.tagEnd.toList, by simp [tagRest_eq]⟩
  have hlength : 9 ≤ ('\x60' :: f.tagRest).length := by
    simp [tagRest_eq, hend]
    omega
  simp only [Source.isJsonTag, List.isPrefixOf_iff_prefix.2 hprefix,
    List.isSuffixOf_iff_suffix.2 hsuffix, hlength, decide_true, Bool.and_self]

/-- A property name on one line: the tag is a tag if there is no back quote in the name. -/
theorem readsAs_of_newline_not_mem (hf : f.Neat) (hkey : '\n' ∉ f.key.toList) :
    BodyReadsAs f.Sound (lines f.line) [.field f.source] := by
  obtain ⟨cs, hend, hcs, -⟩ := f.tagEnd_eq
  have hline : '\n' ∉ f.line.toList := by
    have hname := hf.name.newline_not_mem
    have htype := hf.type.newline_not_mem
    simp [line_toList, tagRest_eq, hend, hname, htype, hkey, hcs]
  have hstrip : Text.dropTrailing isBlank f.tagRest = f.tagRest := by
    have h := Text.dropTrailing_append_cons (p := isBlank) (c := '\x60')
      ("json:\"".toList ++ (f.key.toList ++ (cs ++ ['"']))) [] (by decide)
    simpa [tagRest_eq, hend] using h
  have htag : "`json:\"" ++ (f.key ++ f.tagEnd) = String.ofList ('\x60' :: f.tagRest) := by
    apply String.toList_injective
    simp [tagRest_eq]
  rw [Text.lines_of_not_mem hline]
  refine BodyReadsAs.line (fun h => ?_) fun n l => ?_
  · have hquote : '\x60' ∈ stripChars f.line.toList :=
      Text.mem_stripChars (by simp [line_toList]) (by decide)
    rw [h] at hquote
    exact absurd hquote (by decide)
  · rw [line_toList, Source.readBodyLine_field hf.name hf.type, hstrip, isBackQuoted_tagRest, source,
      htag]
    refine and_congr_left fun _ => ?_
    constructor
    · rintro ⟨hname, htype, hquote, -⟩
      exact ⟨hname, htype, hkey, hquote⟩
    · rintro ⟨hname, htype, -, hquote⟩
      exact ⟨hname, htype, hquote, f.isJsonTag_tagRest⟩

/-- A property name with a line feed: the first of the lines has no end of a tag. -/
theorem readsAs_of_newline_mem (hf : f.Neat) (hkey : '\n' ∈ f.key.toList) :
    BodyReadsAs False (lines f.line) [.field f.source] := by
  obtain ⟨before, after, hsplit, hbefore⟩ := List.eq_append_cons_of_mem hkey
  have hfirst : '\n' ∉ '\t' :: (f.name.toList ++ ' ' :: (f.type.toList ++ ' ' :: '\x60' ::
      ("json:\"".toList ++ before))) := by
    have hname := hf.name.newline_not_mem
    have htype := hf.type.newline_not_mem
    simp [hname, htype, hbefore]
  have hline : f.line.toList = '\t' :: (f.name.toList ++ ' ' :: (f.type.toList ++ ' ' :: '\x60' ::
      ("json:\"".toList ++ before))) ++ '\n' :: (after ++ f.tagEnd.toList) := by
    simp [line_toList, tagRest_eq, hsplit]
  -- what is left of the tag on the first line holds no back quote
  have hopen : Source.isBackQuoted ('\x60' :: Text.dropTrailing isBlank
      ("json:\"".toList ++ before)) = false := by
    refine Source.isBackQuoted_open fun h => ?_
    rcases List.mem_append.1 (Text.mem_of_mem_dropTrailing h) with h | h
    · exact absurd h (by decide)
    · exact hf.key hkey (by simp [hsplit, h])
  rw [lines, hline, List.splitOn_append_cons_self, List.splitOn_eq_singleton hfirst]
  refine BodyReadsAs.false _ _ (fun h => ?_) fun n l h => ?_
  · have hquote : '\x60' ∈ stripChars ('\t' :: (f.name.toList ++ ' ' :: (f.type.toList ++
        ' ' :: '\x60' :: ("json:\"".toList ++ before)))) :=
      Text.mem_stripChars (by simp) (by decide)
    rw [h] at hquote
    exact absurd hquote (by decide)
  · have hquoted := ((Source.readBodyLine_field hf.name hf.type _).1 h).1.2.2.1
    rw [hopen] at hquoted
    cases hquoted

/-- The line of a field. -/
theorem line_readsAs (hf : f.Neat) : BodyReadsAs f.Sound (lines f.line) [.field f.source] := by
  by_cases hkey : '\n' ∈ f.key.toList
  · exact (readsAs_of_newline_mem hf hkey).congr ⟨False.elim, fun h => h.newline hkey⟩
  · exact readsAs_of_newline_not_mem hf hkey

/-- The texts of a field, its comment first. -/
def texts (first : Bool) (f : FieldDeclaration) : List String :=
  (match f.comment with
    | some comment => (if first then [] else [""]) ++ [commentBlock f.name comment]
    | none => []) ++ [f.line]

/-- What a field is inside a struct. -/
def body (first : Bool) (f : FieldDeclaration) : List BodyLine :=
  (match f.comment with
    | some comment => (if first then [] else [BodyLine.blank]) ++
      (lines (commentBlock f.name comment)).map bodyRemark
    | none => []) ++ [BodyLine.field f.source]

theorem layout_eq_unlines (first : Bool) (f : FieldDeclaration) :
    f.layout first = unlines (f.texts first) := by
  unfold layout texts
  cases f.comment with
  | none => simp
  | some comment => cases first <;> simp [String.append_assoc]

/-- A field with its comment. -/
theorem Neat.readsAs (hf : f.Neat) (first : Bool) :
    BodyReadsAs f.Sound ((f.texts first).flatMap lines) (f.body first) := by
  have hline := line_readsAs hf
  have hblank : BodyReadsAs True (lines "") [.blank] := bodyReadsAs_remark (Or.inl rfl)
  unfold texts body
  cases hcomment : f.comment with
  | none =>
    simp only [List.nil_append, List.flatMap_cons, List.flatMap_nil, List.append_nil]
    exact hline
  | some comment =>
    have hremarks := bodyReadsAs_remarks (hf.comment comment hcomment)
    cases first with
    | true =>
      simp only [if_true, List.nil_append, List.singleton_append, List.flatMap_cons, List.flatMap_nil,
        List.append_nil]
      have h := hremarks.append hline
      rw [true_and] at h
      exact h
    | false =>
      simp only [Bool.false_eq_true, if_false, List.cons_append, List.nil_append, List.flatMap_cons,
        List.flatMap_nil, List.append_nil]
      have h := hblank.append (hremarks.append hline)
      rw [true_and, true_and, List.singleton_append] at h
      exact h

end FieldDeclaration

/-- The texts of the fields of a struct. -/
def fieldsTexts : Bool → List FieldDeclaration → List String
  | _, [] => []
  | first, f :: fs => f.texts first ++ fieldsTexts false fs

/-- What the fields of a struct are. -/
def fieldsBody : Bool → List FieldDeclaration → List BodyLine
  | _, [] => []
  | first, f :: fs => f.body first ++ fieldsBody false fs

theorem fieldsLayout_eq_unlines (first : Bool) (fs : List FieldDeclaration) :
    fieldsLayout first fs = unlines (fieldsTexts first fs) := by
  induction fs generalizing first with
  | nil => rfl
  | cons f fs ih => simp [fieldsLayout, fieldsTexts, ih, f.layout_eq_unlines]

theorem fields_readsAs {fs : List FieldDeclaration} (h : ∀ f ∈ fs, f.Neat) (first : Bool) :
    BodyReadsAs (∀ f ∈ fs, f.Sound) ((fieldsTexts first fs).flatMap lines) (fieldsBody first fs) := by
  induction fs generalizing first with
  | nil => exact BodyReadsAs.nil.congr (by simp)
  | cons f fs ih =>
    have hfs := ih (fun f hf => h f (List.mem_cons_of_mem _ hf)) false
    rw [fieldsTexts, List.flatMap_append]
    exact (((h f List.mem_cons_self).readsAs first).append hfs).congr (by simp)

/-! ### Declarations -/

namespace Declaration

/-- What is known of a declaration: its names are clean and its comment is one. -/
structure Neat (d : Declaration) : Prop where
  name : IsClean d.name
  unknownType : IsClean d.unknownType
  docstring : d.docstring ≠ "" → ∀ l ∈ lines d.docstring, IsRemark l
  fields : ∀ f ∈ d.fields, f.Neat

/-- What makes a declaration readable. -/
structure Sound (d : Declaration) : Prop where
  name : isGoIdentifier d.name = true
  unknownType : d.fields = [] → Source.isTypeChars d.unknownType.toList = true
  fields : ∀ f ∈ d.fields, f.Sound

/-- The texts of a declaration after its comment. -/
def typeTexts (d : Declaration) : List String :=
  if d.fields = [] then ["type " ++ d.name ++ " map[string]" ++ d.unknownType]
  else ("type " ++ d.name ++ " struct \x7b") :: (fieldsTexts true d.fields ++ ["\x7d"])

/-- The texts of a declaration. -/
def texts (d : Declaration) : List String :=
  (if d.docstring = "" then [] else [d.docstring]) ++ d.typeTexts

/-- The type that a declaration declares. -/
def item (d : Declaration) : Item :=
  if d.fields = [] then .alias d.name ("map[string]" ++ d.unknownType)
  else .struct d.name (fieldsBody true d.fields)

/-- What a declaration is in a source. -/
def items (d : Declaration) : List Item :=
  (if d.docstring = "" then [] else (lines d.docstring).map topRemark) ++ [d.item]

variable {d : Declaration}

theorem layout_eq_unlines (d : Declaration) : d.layout = unlines d.texts := by
  have hopen : " struct \x7b\n" = " struct \x7b" ++ "\n" := by decide
  unfold layout texts typeTexts
  by_cases hdoc : d.docstring = "" <;> by_cases hfields : d.fields = []
  · simp [hdoc, hfields, String.append_assoc]
  · simp [hdoc, hfields, fieldsLayout_eq_unlines, String.append_assoc]
    rw [hopen, String.append_assoc]
  · simp [hdoc, hfields, String.append_assoc]
  · simp [hdoc, hfields, fieldsLayout_eq_unlines, String.append_assoc]
    rw [hopen, String.append_assoc]

/-- A declaration does not end in a line feed. -/
theorem exists_texts_eq (hunknown : d.fields = [] → IsClean d.unknownType) : ∃ before last c,
    d.texts = before ++ [last] ∧ last.toList.getLast? = some c ∧ c ≠ '\n' := by
  unfold texts typeTexts
  by_cases hfields : d.fields = []
  · refine ⟨_, _, ((d.unknownType.toList.getLast?).getD ']'), by rw [if_pos hfields], ?_, ?_⟩
    · rw [String.toList_append, List.getLast?_append]
      cases d.unknownType.toList.getLast? with
      | none =>
        rw [String.toList_append, List.getLast?_append]
        rfl
      | some c => rfl
    · cases hlast : d.unknownType.toList.getLast? with
      | none => decide
      | some c =>
        rintro rfl
        exact (hunknown hfields).newline_not_mem (List.mem_of_getLast? hlast)
  · refine ⟨(if d.docstring = "" then [] else [d.docstring]) ++
      ("type " ++ d.name ++ " struct \x7b") :: fieldsTexts true d.fields, "\x7d", '\x7d', ?_, by decide,
      by decide⟩
    rw [if_neg hfields]
    simp

theorem lines_text (hunknown : d.fields = [] → IsClean d.unknownType) :
    lines d.text = d.texts.flatMap lines := by
  obtain ⟨before, last, c, htexts, hlast, hc⟩ := exists_texts_eq hunknown
  rw [text, layout_eq_unlines, htexts]
  exact Text.lines_dropEnd_unlines before hlast hc

/-- A declaration without fields. -/
theorem alias_readsAs (hd : d.Neat) (hfields : d.fields = []) :
    ReadsAs true true d.Sound (lines ("type " ++ d.name ++ " map[string]" ++ d.unknownType))
      [.alias d.name ("map[string]" ++ d.unknownType)] := by
  have hchars : ("type " ++ d.name ++ " map[string]" ++ d.unknownType).toList =
      "type ".toList ++ (d.name.toList ++ ' ' :: ("map[string]" ++ d.unknownType).toList) := by
    simp
  have hmap : IsClean ("map[string]" ++ d.unknownType) := IsClean.append (by decide) hd.unknownType
  have hline : '\n' ∉ ("type " ++ d.name ++ " map[string]" ++ d.unknownType).toList := by
    simp [hd.name.newline_not_mem, hd.unknownType.newline_not_mem]
  have hstruct : "map[string]" ++ d.unknownType ≠ "struct\x7b" := by
    intro h
    have := congrArg (fun s : String => s.toList.head?) h
    simp at this
  rw [Text.lines_of_not_mem hline, hchars]
  refine (ReadsAs.alias hd.name.isSolid hmap.isSolid (by simp) hstruct).congr ?_
  rw [String.toList_append, Source.isTypeChars_map]
  constructor
  · rintro ⟨hname, htype⟩
    exact ⟨hname, fun _ => htype, by simp [hfields]⟩
  · intro h
    exact ⟨h.name, h.unknownType hfields⟩

/-- A declaration with fields. -/
theorem struct_readsAs (hd : d.Neat) (hfields : d.fields ≠ []) :
    ReadsAs true true d.Sound (lines ("type " ++ d.name ++ " struct \x7b") ++
      ((fieldsTexts true d.fields).flatMap lines ++ lines "\x7d"))
      [.struct d.name (fieldsBody true d.fields)] := by
  have hline : '\n' ∉ ("type " ++ d.name ++ " struct \x7b").toList := by
    simp [hd.name.newline_not_mem]
  have hchars : ("type " ++ d.name ++ " struct \x7b").toList =
      "type ".toList ++ (d.name.toList ++ " struct \x7b".toList) := by simp
  rw [Text.lines_of_not_mem hline, Text.lines_of_not_mem (by decide), hchars]
  refine (ReadsAs.struct hd.name.isSolid (fields_readsAs hd.fields true)).congr ?_
  constructor
  · rintro ⟨hname, h⟩
    exact ⟨hname, fun h => absurd h hfields, h⟩
  · intro h
    exact ⟨h.name, h.fields⟩

/-- The type of a declaration. -/
theorem type_readsAs (hd : d.Neat) :
    ReadsAs true true d.Sound (d.typeTexts.flatMap lines) [d.item] := by
  unfold typeTexts item
  by_cases hfields : d.fields = []
  · rw [if_pos hfields, if_pos hfields, List.flatMap_singleton]
    exact alias_readsAs hd hfields
  · rw [if_neg hfields, if_neg hfields, List.flatMap_cons, List.flatMap_append, List.flatMap_singleton]
    exact struct_readsAs hd hfields

theorem Neat.readsAs (hd : d.Neat) : ReadsAs true true d.Sound (lines d.text) d.items := by
  have htype := type_readsAs hd
  rw [lines_text fun _ => hd.unknownType, texts, List.flatMap_append, items]
  by_cases hdoc : d.docstring = ""
  · simp only [hdoc, if_true, List.flatMap_nil, List.nil_append]
    exact htype
  · simp only [hdoc, if_false, List.flatMap_cons, List.flatMap_nil, List.append_nil]
    exact ((readsAs_remarks true (hd.docstring hdoc)).append fun _ => htype).congr (by simp)

end Declaration

/-! ### Functions -/

/-- The line of the function that makes an empty message. -/
def factoryLine (name : String) : String :=
  "func " ++ factoryName name ++ "() interface\x7b\x7d \x7b return new(" ++ name ++ ") \x7d"

theorem factoryLine_eq (name : String) : factoryLine name = "func " ++ factoryName name ++
    "() interface\x7b\x7d \x7b return new(" ++ name ++ ") \x7d" := rfl

/-- The texts of the function that makes an empty message. -/
def factoryTexts (name : String) : List String :=
  ["// " ++ factoryName name ++ " creates a new " ++ name ++ " struct",
    "// this method can be used as NewData when registering callback", factoryLine name]

/-- What the function that makes an empty message is in a source. -/
def factoryItems (name : String) : List Item :=
  [.comment ("// " ++ factoryName name ++ " creates a new " ++ name ++ " struct"),
    .comment "// this method can be used as NewData when registering callback",
    .function (factoryLine name)]

theorem factoryTexts_eq (name : String) : factoryTexts name =
    ["// " ++ factoryName name ++ " creates a new " ++ name ++ " struct",
      "// this method can be used as NewData when registering callback", factoryLine name] := rfl

theorem factoryLayout_eq_unlines (name : String) :
    factoryLayout name = unlines (factoryTexts name) := by
  have hstruct : " struct\n" = " struct" ++ "\n" := by decide
  have hcallback : "// this method can be used as NewData when registering callback\n" =
      "// this method can be used as NewData when registering callback" ++ "\n" := by decide
  have hclose : ") \x7d\n" = ") \x7d" ++ "\n" := by decide
  have hlayout : factoryLayout name =
      "// " ++ factoryName name ++ " creates a new " ++ name ++ " struct\n" ++
      "// this method can be used as NewData when registering callback\n" ++
      "func " ++ factoryName name ++ "() interface\x7b\x7d \x7b return new(" ++ name ++ ") \x7d\n" :=
    rfl
  simp only [-String.reduceAppend, hlayout, factoryTexts_eq, factoryLine_eq, hstruct, hcallback,
    hclose, Text.unlines_cons, Text.unlines_nil, String.append_assoc, String.append_empty]

theorem lines_factoryText (name : String) :
    lines (factoryText name) = (factoryTexts name).flatMap lines := by
  rw [factoryText, factoryLayout_eq_unlines]
  refine Text.lines_dropEnd_unlines [_, _] (c := '\x7d') ?_ (by decide)
  rw [factoryLine_eq, String.toList_append, List.getLast?_append]
  rfl

theorem toList_factoryName (name : String) :
    (factoryName name).toList = "New".toList ++ (name.toList ++ "Data".toList) := by
  rw [factoryName, String.toList_append, String.toList_append, List.append_assoc]

/-- The name of the function of a message has the form of an identifier and is not reserved. -/
theorem isGoIdentifier_factoryName {name : String}
    (hname : ∀ c ∈ name.toList, Naming.isNameChar c = true) :
    Naming.isNameChars (factoryName name).toList = true ∧ isGoIdentifier (factoryName name) = true := by
  have hform : Naming.isNameChars (factoryName name).toList = true := by
    have hdata : "Data".toList.all Naming.isNameChar = true := by decide
    rw [toList_factoryName, show "New".toList = ['N', 'e', 'w'] by decide]
    simp only [List.cons_append, List.nil_append, Naming.isNameChars, List.all_cons, List.all_append,
      Bool.and_eq_true]
    exact ⟨by decide, by decide, by decide, List.all_eq_true.2 hname, hdata⟩
  refine ⟨hform, (Naming.isGoIdentifier_iff fun h => ?_).2 ⟨hform, fun h => ?_⟩⟩
  · exact absurd (Naming.isNameChar_of_isNameChars hform _ h) (by decide)
  · have hlower : ∀ word ∈ Naming.reservedWords, word.toList.head? ≠ some 'N' := by decide
    refine hlower _ h ?_
    rw [toList_factoryName, List.head?_append]
    rfl

/-- The line of the function of a message whose name is an identifier. -/
theorem isFunction_factoryLine {name : String} (hname : ∀ c ∈ name.toList, Naming.isNameChar c = true) :
    Source.IsFunction (factoryLine name).toList := by
  have hchars : (factoryLine name).toList = "func ".toList ++ ((factoryName name).toList ++
      '(' :: (") interface\x7b\x7d \x7b return new(".toList ++ (name.toList ++
      ") \x7d".toList))) := by
    simp [factoryLine_eq]
  have hcount : ∀ c, c = '\x7b' ∨ c = '\x7d' → (factoryLine name).toList.count c = 2 := by
    intro c hc
    have hzero : name.toList.count c = 0 := by
      refine List.count_eq_zero.2 fun hmem => ?_
      have := hname c hmem
      rcases hc with rfl | rfl <;> exact absurd this (by decide)
    rw [factoryLine_eq]
    simp only [String.toList_append, toList_factoryName, List.count_append, hzero]
    rcases hc with rfl | rfl <;> decide
  obtain ⟨hform, hident⟩ := isGoIdentifier_factoryName hname
  have hname : isGoIdentifier (String.ofList (factoryName name).toList) = true := by
    rwa [String.ofList_toList]
  refine ⟨⟨_, ?_, hname⟩, (hcount _ (Or.inl rfl)).trans (hcount _ (Or.inr rfl)).symm, ?_⟩
  · rw [hchars]
    exact Source.functionName?_func hform _
  · rw [factoryLine_eq, String.toList_append, List.getLast?_append]
    rfl

/-- The function of a message whose name is an identifier. -/
theorem factory_readsAs {name : String} (hname : IsClean name) (hident : isGoIdentifier name = true) :
    ReadsAs true true True (lines (factoryText name)) (factoryItems name) := by
  have hnewline := hname.newline_not_mem
  have hchars := Naming.isNameChar_of_isNameChars
    ((Naming.isGoIdentifier_iff hnewline).1 hident).1
  have hfirst : ReadsAs true true True
      (lines ("// " ++ factoryName name ++ " creates a new " ++ name ++ " struct"))
      [.comment ("// " ++ factoryName name ++ " creates a new " ++ name ++ " struct")] := by
    have hstart : Source.IsComment
        ("// " ++ factoryName name ++ " creates a new " ++ name ++ " struct").toList :=
      Or.inl ⟨(" " ++ factoryName name ++ " creates a new " ++ name ++ " struct").toList, by simp⟩
    refine readsAs_comment (c := 't') hstart (by simp [toList_factoryName, hnewline]) ?_ (by decide)
    rw [String.toList_append, List.getLast?_append]
    rfl
  have hsecond : ReadsAs true true True
      (lines "// this method can be used as NewData when registering callback")
      [.comment "// this method can be used as NewData when registering callback"] :=
    readsAs_comment (c := 'k') (Or.inl (by decide)) (by decide) (by decide) (by decide)
  have hthird : ReadsAs true true True (lines (factoryLine name)) [.function (factoryLine name)] := by
    rw [Text.lines_of_not_mem (by simp [factoryLine_eq, toList_factoryName, hnewline])]
    exact ReadsAs.function (isFunction_factoryLine hchars)
  have h := hfirst.append fun _ => hsecond.append fun _ => hthird
  rw [lines_factoryText, factoryTexts_eq]
  simp only [List.flatMap_cons, List.flatMap_nil, List.append_nil]
  exact h.congr (by simp)

/-! ### Files -/

theorem spaced_cons (text : String) (texts : List String) :
    spaced (text :: texts) = text ++ ("\n" ++ ("\n" ++ spaced texts)) := by
  have hblank : "\n\n" = "\n" ++ "\n" := by decide
  have hjoin : spaced (text :: texts) = text ++ "\n\n" ++ spaced texts := String.join_cons
  rw [hjoin, hblank, String.append_assoc, String.append_assoc]

theorem spaced_eq_unlines (texts : List String) :
    spaced texts = unlines (texts.flatMap fun text => [text, ""]) := by
  induction texts with
  | nil => rfl
  | cons text texts ih =>
    rw [spaced_cons, ih, List.flatMap_cons, List.cons_append, List.singleton_append,
      Text.unlines_cons, Text.unlines_cons, String.empty_append]

/-- The texts of a file. -/
def fileTexts (header package : String) (base messages : List String) : List String :=
  (if header = "" then [] else [header, ""]) ++
  (["package " ++ package, "", "/**** BEGIN base definitions ****/", ""] ++
  (base.flatMap (fun text => [text, ""]) ++
  (["/**** END base definitions ****/", "", "/**** BEGIN schema definitions ****/", ""] ++
  (messages.flatMap (fun text => [text, ""]) ++
  ["/**** END schema definitions ****/"]))))

theorem fileTexts_eq (header package : String) (base messages : List String) :
    fileTexts header package base messages =
      (if header = "" then [] else [header, ""]) ++
      (["package " ++ package, "", "/**** BEGIN base definitions ****/", ""] ++
      (base.flatMap (fun text => [text, ""]) ++
      (["/**** END base definitions ****/", "", "/**** BEGIN schema definitions ****/", ""] ++
      (messages.flatMap (fun text => [text, ""]) ++
      ["/**** END schema definitions ****/"])))) := rfl

theorem fileLayout_eq_unlines (header package : String) (base messages : List String) :
    fileLayout header package base messages = unlines (fileTexts header package base messages) := by
  have hlayout : fileLayout header package base messages =
      (if header.isEmpty then "" else header ++ "\n\n") ++
      "package " ++ package ++ "\n\n" ++
      "/**** BEGIN base definitions ****/\n\n" ++ spaced base ++
      "/**** END base definitions ****/\n\n" ++
      "/**** BEGIN schema definitions ****/\n\n" ++ spaced messages ++
      "/**** END schema definitions ****/\n" := rfl
  have hblank : "\n\n" = "\n" ++ "\n" := by decide
  have hbase : "/**** BEGIN base definitions ****/\n\n" =
      "/**** BEGIN base definitions ****/" ++ ("\n" ++ "\n") := by decide
  have hbaseEnd : "/**** END base definitions ****/\n\n" =
      "/**** END base definitions ****/" ++ ("\n" ++ "\n") := by decide
  have hschema : "/**** BEGIN schema definitions ****/\n\n" =
      "/**** BEGIN schema definitions ****/" ++ ("\n" ++ "\n") := by decide
  have hschemaEnd : "/**** END schema definitions ****/\n" =
      "/**** END schema definitions ****/" ++ "\n" := by decide
  have hheader : (if header.isEmpty then "" else header ++ "\n\n") =
      unlines (if header = "" then [] else [header, ""]) := by
    by_cases h : header = ""
    · simp [h]
    · simp [h, hblank]
  rw [hlayout, hheader]
  simp only [-String.reduceAppend, fileTexts_eq, spaced_eq_unlines,
    Text.unlines_append, Text.unlines_cons, Text.unlines_nil, String.append_assoc,
    String.append_empty, String.empty_append, hbase, hbaseEnd, hschema, hschemaEnd, hblank]

/-- The texts of a file with those of each declaration set apart. -/
def sourceTexts (header package : String) (base messages : List Declaration) : List String :=
  (if header = "" then [] else [header, ""]) ++
  (["package " ++ package, "", "/**** BEGIN base definitions ****/", ""] ++
  (base.flatMap (fun d => d.texts ++ [""]) ++
  (["/**** END base definitions ****/", "", "/**** BEGIN schema definitions ****/", ""] ++
  (messages.flatMap (fun d => d.texts ++ ([""] ++ (factoryTexts d.name ++ [""]))) ++
  ["/**** END schema definitions ****/"]))))

/-- The lines of a file are those of its declarations, whatever their texts hold. -/
theorem lines_fileText (s : Style) {base messages : List Declaration}
    (hbase : ∀ d ∈ base, IsClean d.unknownType)
    (hmessages : ∀ d ∈ messages, IsClean d.unknownType) :
    lines (s.fileText (base.map (·.text))
        (messages.flatMap fun d => [d.text, factoryText d.name])) =
      (sourceTexts s.fileHeader s.package.display base messages).flatMap lines ++ [[]] := by
  have htypes : ((base.map (·.text)).flatMap fun text => [text, ""]).flatMap lines =
      (base.flatMap fun d => d.texts ++ [""]).flatMap lines := by
    rw [List.flatMap_map, List.flatMap_assoc, List.flatMap_assoc]
    refine List.flatMap_congr fun d hd => ?_
    rw [List.flatMap_cons, d.lines_text fun _ => hbase d hd, List.flatMap_append]
  have hfunctions : ((messages.flatMap fun d => [d.text, factoryText d.name]).flatMap
      fun text => [text, ""]).flatMap lines =
      (messages.flatMap fun d =>
        d.texts ++ ([""] ++ (factoryTexts d.name ++ [""]))).flatMap lines := by
    rw [List.flatMap_assoc, List.flatMap_assoc, List.flatMap_assoc]
    refine List.flatMap_congr fun d hd => ?_
    simp only [List.flatMap_append, List.flatMap_cons, List.flatMap_nil, List.append_nil,
      d.lines_text fun _ => hmessages d hd, lines_factoryText, List.append_assoc]
  rw [Style.fileText, fileLayout_eq_unlines, Text.lines_unlines, fileTexts_eq, sourceTexts]
  simp only [List.flatMap_append, htypes, hfunctions]

/-- What a file consists of. -/
def fileItems (header package : String) (base messages : List Declaration) : List Item :=
  (if header = "" then [] else [Item.comment header, Item.blank]) ++
  ([Item.package package, Item.blank, Item.comment "/**** BEGIN base definitions ****/",
    Item.blank] ++
  (base.flatMap (fun d => d.items ++ [Item.blank]) ++
  ([Item.comment "/**** END base definitions ****/", Item.blank,
    Item.comment "/**** BEGIN schema definitions ****/", Item.blank] ++
  (messages.flatMap (fun d => d.items ++ ([Item.blank] ++ (factoryItems d.name ++ [Item.blank]))) ++
  [Item.comment "/**** END schema definitions ****/", Item.blank]))))

theorem readsAs_blank (p : Bool) : ReadsAs p p True (lines "") [.blank] := ReadsAs.blank

theorem readsAs_base {base : List Declaration} (h : ∀ d ∈ base, d.Neat) :
    ReadsAs true true (∀ d ∈ base, d.Sound)
      (((base.map (·.text)).flatMap fun text => [text, ""]).flatMap lines)
      (base.flatMap fun d => d.items ++ [Item.blank]) := by
  rw [List.flatMap_map, List.flatMap_assoc]
  refine ReadsAs.flatMap fun d hd => ?_
  simp only [List.flatMap_cons, List.flatMap_nil, List.append_nil]
  exact ((h d hd).readsAs.append fun _ => readsAs_blank true).congr (by simp)

theorem readsAs_messages {messages : List Declaration} (h : ∀ d ∈ messages, d.Neat) :
    ReadsAs true true (∀ d ∈ messages, d.Sound)
      (((messages.flatMap fun d => [d.text, factoryText d.name]).flatMap fun text =>
        [text, ""]).flatMap lines)
      (messages.flatMap fun d =>
        d.items ++ ([Item.blank] ++ (factoryItems d.name ++ [Item.blank]))) := by
  rw [List.flatMap_assoc, List.flatMap_assoc]
  refine ReadsAs.flatMap fun d hd => ?_
  have hlines : ([d.text, factoryText d.name].flatMap fun text => [text, ""].flatMap lines) =
      lines d.text ++ (lines "" ++ (lines (factoryText d.name) ++ lines "")) := by
    simp only [List.flatMap_cons, List.flatMap_nil, List.append_nil, List.append_assoc]
  have hblank := readsAs_blank true
  -- the function can be read because the name of the message has been
  have hfactory : d.Sound → ReadsAs true true (True ∧ True ∧ True)
      (lines "" ++ (lines (factoryText d.name) ++ lines ""))
      ([Item.blank] ++ (factoryItems d.name ++ [Item.blank])) := fun hsound =>
    hblank.append fun _ => (factory_readsAs (h d hd).name hsound.name).append fun _ => hblank
  rw [hlines]
  exact ((h d hd).readsAs.append hfactory).congr (by simp)

theorem readsAs_header {header : String}
    (h : header ≠ "" → ReadsAs false false True (lines header) [.comment header]) :
    ReadsAs false false True ((if header = "" then [] else [header, ""]).flatMap lines)
      (if header = "" then [] else [Item.comment header, Item.blank]) := by
  by_cases hempty : header = ""
  · rw [if_pos hempty, if_pos hempty]
    exact ReadsAs.nil
  · rw [if_neg hempty, if_neg hempty]
    simp only [List.flatMap_cons, List.flatMap_nil, List.append_nil]
    exact ((h hempty).append fun _ => readsAs_blank false).congr (by simp)

/-- The package clause and the mark after it. -/
theorem readsAs_package {package : String} (hsolid : Text.IsSolid package.toList)
    (hne : package ≠ "") :
    ReadsAs false true (isGoIdentifier package = true)
      (["package " ++ package, "", "/**** BEGIN base definitions ****/", ""].flatMap lines)
      [Item.package package, Item.blank, Item.comment "/**** BEGIN base definitions ****/",
        Item.blank] := by
  have hline : lines ("package " ++ package) = ["package ".toList ++ package.toList] := by
    rw [Text.lines_of_not_mem, String.toList_append]
    rw [String.toList_append]
    intro h
    rcases List.mem_append.1 h with h | h
    · exact absurd h (by decide)
    · exact absurd (hsolid _ h) (by decide)
  have hmark : ReadsAs true true True (lines "/**** BEGIN base definitions ****/")
      [.comment "/**** BEGIN base definitions ****/"] :=
    readsAs_comment (c := '/') (Or.inr (by decide)) (by decide) (by decide) (by decide)
  have hblank := readsAs_blank true
  simp only [List.flatMap_cons, List.flatMap_nil, List.append_nil]
  rw [hline]
  exact ((ReadsAs.package hsolid hne).append fun _ => hblank.append fun _ => hmark.append fun _ =>
    hblank).congr (by simp)

/-- The marks between the declarations of types and those of messages. -/
theorem readsAs_marks : ReadsAs true true True
    (["/**** END base definitions ****/", "", "/**** BEGIN schema definitions ****/", ""].flatMap
      lines)
    [Item.comment "/**** END base definitions ****/", Item.blank,
      Item.comment "/**** BEGIN schema definitions ****/", Item.blank] := by
  have hend : ReadsAs true true True (lines "/**** END base definitions ****/")
      [.comment "/**** END base definitions ****/"] :=
    readsAs_comment (c := '/') (Or.inr (by decide)) (by decide) (by decide) (by decide)
  have hbegin : ReadsAs true true True (lines "/**** BEGIN schema definitions ****/")
      [.comment "/**** BEGIN schema definitions ****/"] :=
    readsAs_comment (c := '/') (Or.inr (by decide)) (by decide) (by decide) (by decide)
  have hblank := readsAs_blank true
  simp only [List.flatMap_cons, List.flatMap_nil, List.append_nil]
  exact (hend.append fun _ => hblank.append fun _ => hbegin.append fun _ => hblank).congr (by simp)

/-- The mark that ends a file, and the empty line after it. -/
theorem readsAs_end : ReadsAs true true True
    (["/**** END schema definitions ****/"].flatMap lines ++ [[]])
    [Item.comment "/**** END schema definitions ****/", Item.blank] := by
  have hend : ReadsAs true true True (lines "/**** END schema definitions ****/")
      [.comment "/**** END schema definitions ****/"] :=
    readsAs_comment (c := '/') (Or.inr (by decide)) (by decide) (by decide) (by decide)
  rw [List.flatMap_singleton]
  exact (hend.append fun _ => readsAs_blank true).congr (by simp)

theorem readsAs_generatedHeader :
    ReadsAs false false True (lines generatedHeader) [.comment generatedHeader] :=
  readsAs_comment (c := '.') (Or.inl (by decide)) (by decide) (by decide) (by decide)

/-- **When the text of a file can be read, and as what**: the package name and the declarations must
be sound, and then the file consists of them. -/
theorem readItems_fileText {s : Style} {base messages : List Declaration}
    (hsolid : Text.IsSolid s.package.display.toList) (hne : s.package.display ≠ "")
    (hbase : ∀ d ∈ base, d.Neat) (hmessages : ∀ d ∈ messages, d.Neat) {out : List Item} :
    Source.readItems (s.fileText (base.map (·.text))
        (messages.flatMap fun d => [d.text, factoryText d.name])) = .ok out ↔
      (isGoIdentifier s.package.display = true ∧ (∀ d ∈ base, d.Sound) ∧ ∀ d ∈ messages, d.Sound) ∧
        out = fileItems s.fileHeader s.package.display base messages := by
  refine Source.readItems_eq_ok_iff ?_
  have hshown : s.fileHeader ≠ "" →
      ReadsAs false false True (lines s.fileHeader) [.comment s.fileHeader] := fun hne => by
    have hgenerated : s.fileHeader = generatedHeader := by
      rw [Style.fileHeader] at hne ⊢
      split_ifs at hne ⊢
      · rfl
      · exact absurd rfl hne
    rw [hgenerated]
    exact readsAs_generatedHeader
  have hheader := readsAs_header hshown
  have hlines : lines (s.fileText (base.map (·.text))
      (messages.flatMap fun d => [d.text, factoryText d.name])) =
      (if s.fileHeader = "" then [] else [s.fileHeader, ""]).flatMap lines ++
      (["package " ++ s.package.display, "", "/**** BEGIN base definitions ****/", ""].flatMap lines ++
      (((base.map (·.text)).flatMap fun text => [text, ""]).flatMap lines ++
      (["/**** END base definitions ****/", "", "/**** BEGIN schema definitions ****/", ""].flatMap
        lines ++
      (((messages.flatMap fun d => [d.text, factoryText d.name]).flatMap fun text =>
        [text, ""]).flatMap lines ++
      (["/**** END schema definitions ****/"].flatMap lines ++ [[]]))))) := by
    rw [Style.fileText, fileLayout_eq_unlines, Text.lines_unlines, fileTexts_eq]
    simp only [List.flatMap_append, List.append_assoc]
  rw [hlines]
  exact (hheader.append fun _ => (readsAs_package hsolid hne).append fun _ =>
    (readsAs_base hbase).append fun _ => readsAs_marks.append fun _ =>
    (readsAs_messages hmessages).append fun _ => readsAs_end).congr (by simp)

end StructGen.Go
