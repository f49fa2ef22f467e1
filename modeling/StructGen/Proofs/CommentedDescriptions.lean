import StructGen.Proofs.CompiledText
import StructGen.Proofs.DefaultStyle

/-!
# Descriptions in comments

The description of a property stands above its field. It stays in the comment there exactly if it
keeps the comment marks, and then it changes no line but comments and blank ones: the code is the
same without descriptions.

* `describedLines` are the lines of a declaration that descriptions contribute;
* `codeLines` are the lines of a text that are neither blank nor comments;
* `descriptions_in_comments` is the result for the declaration of a node.
-/

namespace StructGen.Go

open Schema (NodeId Node Graph)
open Text (lines unlines isBlank isLineBoundary stripChars)
open Naming (IsClean)

/-! ### Lines of code -/

instance (cs : List Char) : Decidable (IsRemark cs) :=
  decidable_of_iff (stripChars cs = [] ∨ "//".toList <+: stripChars cs)
    (or_congr Iff.rfl (exists_congr fun _ => eq_comm))

/-- The lines of a text that are neither blank nor comments. -/
def codeLines (text : String) : List (List Char) := (lines text).filter fun l => ¬ IsRemark l

theorem codeLines_eq_nil {text : String} (h : ∀ l ∈ lines text, IsRemark l) : codeLines text = [] :=
  List.filter_eq_nil_iff.2 fun l hl => by simpa using h l hl

theorem codeLines_unlines (texts : List String) :
    codeLines (unlines texts) = texts.flatMap codeLines := by
  rw [codeLines, Text.lines_unlines, List.filter_append, List.filter_flatMap]
  exact List.append_nil _

/-- Line feeds at the end of a text make blank lines only. -/
theorem codeLines_dropEnd (text : String) :
    codeLines (Text.dropEnd text '\n') = codeLines text := by
  have hblank : decide (¬ IsRemark []) = false := by decide
  rw [codeLines, codeLines, lines, lines, Text.dropEnd, String.toList_ofList, Text.dropTrailing,
    ← List.rdropWhile]
  induction text.toList using List.reverseRecOn with
  | nil => rfl
  | append_singleton cs c ih =>
    by_cases hc : c = '\n'
    · rw [List.rdropWhile_concat_pos _ _ _ (by simpa using hc), ih, hc, List.splitOn_append_cons_self,
        List.splitOn_nil, List.filter_append, List.filter_cons_of_neg (by simpa using hblank)]
      exact (List.append_nil _).symm
    · rw [List.rdropWhile_concat_neg _ _ _ (by simpa using hc)]

/-! ### Declarations without descriptions -/

namespace FieldDeclaration

/-- A field without its comment. -/
def undescribed (f : FieldDeclaration) : FieldDeclaration := { f with comment := none }

/-- The lines that the description of a field contributes. -/
def describedLines (f : FieldDeclaration) : List (List Char) :=
  match f.comment with
  | some comment => lines (commentBlock f.name comment)
  | none => []

@[simp] theorem describedLines_undescribed (f : FieldDeclaration) :
    f.undescribed.describedLines = [] := rfl

@[simp] theorem line_undescribed (f : FieldDeclaration) : f.undescribed.line = f.line := rfl

theorem codeLines_texts {f : FieldDeclaration} (h : ∀ l ∈ f.describedLines, IsRemark l)
    (first : Bool) : (f.texts first).flatMap codeLines = codeLines f.line := by
  unfold describedLines at h
  unfold texts
  cases hcomment : f.comment with
  | none => simp
  | some comment =>
    rw [hcomment] at h
    have hblank : codeLines "" = [] := rfl
    cases first <;> simp [codeLines_eq_nil h, hblank]

theorem describedLines_sublist (f : FieldDeclaration) (first : Bool) :
    f.describedLines.Sublist ((f.texts first).flatMap lines) := by
  unfold describedLines texts
  cases f.comment with
  | none => simp
  | some comment => cases first <;> simp

end FieldDeclaration

namespace Declaration

/-- A declaration without the comments of its fields. -/
def undescribed (d : Declaration) : Declaration :=
  { d with fields := d.fields.map FieldDeclaration.undescribed }

/-- The lines that the descriptions of the fields contribute. -/
def describedLines (d : Declaration) : List (List Char) :=
  d.fields.flatMap FieldDeclaration.describedLines

variable {d : Declaration}

theorem codeLines_text (d : Declaration) : codeLines d.text = d.texts.flatMap codeLines := by
  rw [text, codeLines_dropEnd, layout_eq_unlines, codeLines_unlines]

theorem codeLines_fieldsTexts {fs : List FieldDeclaration}
    (h : ∀ f ∈ fs, ∀ l ∈ f.describedLines, IsRemark l) (first : Bool) :
    (fieldsTexts first fs).flatMap codeLines = fs.flatMap fun f => codeLines f.line := by
  induction fs generalizing first with
  | nil => rfl
  | cons f fs ih =>
    rw [List.forall_mem_cons] at h
    rw [fieldsTexts, List.flatMap_append, f.codeLines_texts h.1, ih h.2, List.flatMap_cons]

/-- The code of a declaration does not depend on descriptions that stay in comments. -/
theorem codeLines_undescribed (h : ∀ l ∈ d.describedLines, IsRemark l) :
    codeLines d.undescribed.text = codeLines d.text := by
  have hfields : ∀ f ∈ d.fields, ∀ l ∈ f.describedLines, IsRemark l := fun f hf l hl =>
    h l (List.mem_flatMap.2 ⟨f, hf, hl⟩)
  have hnone : ∀ f ∈ d.fields.map FieldDeclaration.undescribed,
      ∀ l ∈ f.describedLines, IsRemark l := by
    intro f hf l hl
    obtain ⟨f, -, rfl⟩ := List.mem_map.1 hf
    simp at hl
  have hcode : (fieldsTexts true d.undescribed.fields).flatMap codeLines =
      (fieldsTexts true d.fields).flatMap codeLines := by
    rw [undescribed, codeLines_fieldsTexts hnone, codeLines_fieldsTexts hfields, List.flatMap_map]
    simp only [FieldDeclaration.line_undescribed]
  rw [codeLines_text, codeLines_text, texts, texts, typeTexts, typeTexts]
  by_cases hempty : d.fields = []
  · simp [undescribed, hempty]
  · have hempty' : d.undescribed.fields ≠ [] := by simpa [undescribed] using hempty
    rw [if_neg hempty, if_neg hempty']
    simp only [List.flatMap_append, List.flatMap_cons, hcode]
    rfl

theorem describedLines_sublist_fieldsTexts (fs : List FieldDeclaration) (first : Bool) :
    (fs.flatMap FieldDeclaration.describedLines).Sublist
      ((fieldsTexts first fs).flatMap lines) := by
  induction fs generalizing first with
  | nil => exact List.Sublist.refl []
  | cons f fs ih =>
    rw [List.flatMap_cons, fieldsTexts, List.flatMap_append]
    exact (f.describedLines_sublist first).append (ih false)

theorem describedLines_sublist_text (d : Declaration) :
    d.describedLines.Sublist (lines d.text) := by
  by_cases hfields : d.fields = []
  · rw [describedLines, hfields]
    exact List.nil_sublist _
  · rw [d.lines_text fun h => absurd h hfields, texts, typeTexts, if_neg hfields,
      List.flatMap_append, List.flatMap_cons, List.flatMap_append]
    refine (describedLines_sublist_fieldsTexts d.fields true).trans ?_
    exact ((List.sublist_append_left _ _).trans (List.sublist_append_right _ _)).trans
      (List.sublist_append_right _ _)

end Declaration

/-! ### Declarations of nodes -/

section Declare

variable {s : Style} {g : Graph} {r : Registry} {name docstring : String} {id : NodeId}
  {d : Declaration}

theorem field_undescribed {n : Node} {property : String} {f : FieldDeclaration}
    (h : s.field g r n property id = .ok f) :
    ({ s with comments := false } : Style).field g r n property id = .ok f.undescribed := by
  obtain ⟨type, htype, h⟩ := bind_eq_ok.1 h
  have hshown : ({ s with comments := false } : Style).shownDescription (g.node id) = none := by
    simp [Style.shownDescription]
  rw [← Except.ok.inj h, Style.field, hshown]
  dsimp only [FieldDeclaration.undescribed]
  rw [htype]
  rfl

/-- Where descriptions are not shown, a node is declared without them. -/
theorem declare_undescribed (h : s.declare g r name docstring id = .ok d) :
    ({ s with comments := false } : Style).declare g r name docstring id = .ok d.undescribed := by
  obtain ⟨fields, hfields, h⟩ := bind_eq_ok.1 h
  cases h
  refine bind_eq_ok.2 ⟨fields.map FieldDeclaration.undescribed, mapM_eq_ok.2 ?_, rfl⟩
  rw [List.forall₂_map_right_iff]
  exact (mapM_eq_ok.1 hfields).imp fun p f hf => field_undescribed hf

theorem marked_field_iff {f : FieldDeclaration} {n : Node} (hname : IsClean f.name)
    (hcomment : f.comment = s.shownDescription n) :
    (∀ l ∈ f.describedLines, "\t//".toList <+: l) ↔
      ∀ text, s.shownDescription n = some text → KeepsMarks text.toList := by
  rw [FieldDeclaration.describedLines, hcomment]
  cases hshown : s.shownDescription n with
  | none => simp
  | some text =>
    refine (marked_commentBlock_iff hname (getLast?_shownDescription hshown)).trans ?_
    simp

/-- The lines of descriptions are comments exactly if the descriptions keep the marks. -/
theorem marked_describedLines_iff (h : s.declare g r name docstring id = .ok d) :
    (∀ l ∈ d.describedLines, "\t//".toList <+: l) ↔ ∀ p ∈ (g.node id).properties, ∀ text,
      s.shownDescription (g.node p.2) = some text → KeepsMarks text.toList := by
  have hsorted : ∀ p, p ∈ (g.node id).properties ↔ p ∈ (g.node id).sortedProperties := fun p =>
    List.mem_mergeSort.symm
  simp only [hsorted, Declaration.describedLines]
  obtain ⟨-, -, -, hfields⟩ := fields_of_declare h
  generalize (g.node id).sortedProperties = properties at hfields ⊢
  generalize d.fields = fields at hfields ⊢
  induction hfields with
  | nil => simp
  | @cons p f _ _ hfield _ ih =>
    obtain ⟨t, -, heq⟩ := hfield
    have hname : f.name = s.initialisms.fieldName p.1 := by rw [heq]
    have hclean : IsClean f.name := hname ▸ s.initialisms.isClean_fieldName p.1
    have hcomment : f.comment = s.shownDescription (g.node p.2) := by rw [heq]
    rw [List.flatMap_cons, List.forall_mem_append, List.forall_mem_cons]
    exact and_congr (marked_field_iff hclean hcomment) ih

/-- **Descriptions stay in comments** exactly if a comment mark stands behind each of their line
boundaries other than line feeds, and then they change no line of code. -/
theorem descriptions_in_comments (h : s.declare g r name docstring id = .ok d) :
    d.describedLines.Sublist (lines d.text) ∧
      ((∀ l ∈ d.describedLines, "\t//".toList <+: l) ↔ ∀ p ∈ (g.node id).properties, ∀ text,
        s.shownDescription (g.node p.2) = some text → KeepsMarks text.toList) ∧
      ((∀ l ∈ d.describedLines, "\t//".toList <+: l) → ∃ d',
        ({ s with comments := false } : Style).declare g r name docstring id = .ok d' ∧
          codeLines d'.text = codeLines d.text) := by
  refine ⟨d.describedLines_sublist_text, marked_describedLines_iff h, fun hmarked => ?_⟩
  refine ⟨_, declare_undescribed h, d.codeLines_undescribed fun l hl => ?_⟩
  obtain ⟨ds, rfl⟩ := hmarked l hl
  exact (isRemark_slashes ds).tab

end Declare

/-- An object with one property, which has a description. -/
def describedObject (description : String) : Graph :=
  ⟨[{ types := [.str "object"], properties := [("x", 1)] },
    { types := [.str "string"], description := some description }]⟩

/-- The declaration of an object with a described property. -/
def describedStruct (comment : Option String) : Declaration :=
  { name := "Trip", docstring := "", unknownType := "interface\x7b\x7d"
    fields := [⟨"X", "string", "x", true, comment⟩] }

theorem describedObject_in_comments :
    defaultStyle.declare (describedObject "a\r\nb\u2028// c") {} "Trip" "" 0 =
      .ok (describedStruct (some "a\r\nb\u2028// c")) ∧
    (∀ l ∈ (describedStruct (some "a\r\nb\u2028// c")).describedLines, "\t//".toList <+: l) ∧
    ∃ d', ({ defaultStyle with comments := false } : Style).declare
        (describedObject "a\r\nb\u2028// c") {} "Trip" "" 0 = .ok d' ∧
      codeLines d'.text = codeLines (describedStruct (some "a\r\nb\u2028// c")).text := by
  have h : defaultStyle.declare (describedObject "a\r\nb\u2028// c") {} "Trip" "" 0 =
      .ok (describedStruct (some "a\r\nb\u2028// c")) := by decide +kernel
  obtain ⟨-, hmarked, hcode⟩ := descriptions_in_comments h
  have hkeeps : ∀ p ∈ ((describedObject "a\r\nb\u2028// c").node 0).properties, ∀ text,
      defaultStyle.shownDescription ((describedObject "a\r\nb\u2028// c").node p.2) = some text →
        KeepsMarks text.toList := by
    intro p hp text htext
    have hp : p = ("x", 1) := List.mem_singleton.1 hp
    have hshown : defaultStyle.shownDescription ((describedObject "a\r\nb\u2028// c").node 1) =
        some "a\r\nb\u2028// c" := by decide +kernel
    rw [hp, hshown] at htext
    rw [← Option.some.inj htext]
    decide +kernel
  exact ⟨h, hmarked.2 hkeeps, hcode (hmarked.2 hkeeps)⟩

/-- A vertical tab takes a description out of its comment and makes a field of the rest. -/
theorem describedObject_beyond_comment :
    defaultStyle.declare (describedObject "a\x0bExtra string") {} "Trip" "" 0 =
      .ok (describedStruct (some "a\x0bExtra string")) ∧
    "\tExtra string".toList ∈ (describedStruct (some "a\x0bExtra string")).describedLines ∧
    codeLines (describedStruct (some "a\x0bExtra string")).text =
      ["type Trip struct \x7b".toList, "\tExtra string".toList,
        "\tX string `json:\"x,omitempty\"`".toList, "\x7d".toList] :=
  ⟨by decide +kernel, by decide +kernel, by decide +kernel⟩

end StructGen.Go
