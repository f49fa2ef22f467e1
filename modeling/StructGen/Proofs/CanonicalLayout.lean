import StructGen.Proofs.LineKinds
import StructGen.Proofs.Reformatting
import Mathlib.Order.Bounds.Defs

/-!
# What a laid out source looks like

The layout of a source is described by its lines alone, without a look at how it was made: where
blank lines stand, that no line goes on behind its last character, where the package clause is and,
in structs, that the lines of a run of fields have their types and tags in the same columns.

* `IsCanonical` is the description, `IsCanonicalBody` that of a struct and `Aligned` that of a run;
* `columns_fieldText` tells the columns of a field that is written with given widths;
* `isCanonical_of_format` says that all laid out sources are so.
-/

namespace StructGen.Source

open Text (IsSolid isBlank stripChars words lines unlines)

/-! ### Lines and their words -/

/-- A line that holds nothing but blanks. -/
def IsBlankLine (cs : List Char) : Prop := ∀ c ∈ cs, isBlank c = true

/-- A line of a struct that is neither blank nor a comment. -/
def IsFieldLine (cs : List Char) : Prop :=
  ¬ IsBlankLine cs ∧ ¬ "//".toList <+: cs.dropWhile isBlank

/-- A line from its first word on. -/
def fromName (cs : List Char) : List Char := cs.dropWhile isBlank

/-- A line from its second word on. -/
def fromType (cs : List Char) : List Char := (cutWord (fromName cs)).2

/-- A line from its third word on. -/
def fromTag (cs : List Char) : List Char := (cutWord (fromType cs)).2

/-- The column in which a rest of a line starts. -/
def column (cs rest : List Char) : Nat := cs.length - rest.length

/-- The column behind the first word of a rest of a line. -/
def wordEnd (cs rest : List Char) : Nat := column cs rest + (cutWord rest).1.length

/-! ### Canonical texts -/

/-- A run of fields in columns: names start behind a tab, and types and tags one column behind the
longest name and type. -/
structure Aligned (run : List (List Char)) : Prop where
  names : ∀ l ∈ run, column l (fromName l) = 1
  types : ∃ k, (∀ l ∈ run, column l (fromType l) = k) ∧
    IsGreatest {m | ∃ l ∈ run, m = wordEnd l (fromName l) + 1} k
  tags : ∃ k, (∀ l ∈ run, fromTag l ≠ [] → column l (fromTag l) = k) ∧
    IsGreatest {m | ∃ l ∈ run, m = wordEnd l (fromType l) + 1} k

/-- A run of items that satisfy `p`, with no such item before and behind it. -/
def IsMaximalRun {α : Type} (p : α → Prop) (xs run : List α) : Prop :=
  run ≠ [] ∧ (∀ x ∈ run, p x) ∧ ∃ before after, xs = before ++ (run ++ after) ∧
    (∀ x, before.getLast? = some x → ¬ p x) ∧ ∀ x, after.head? = some x → ¬ p x

/-- The lines of a struct as they should be. -/
structure IsCanonicalBody (body : List (List Char)) : Prop where
  first : ∀ l, body.head? = some l → ¬ IsBlankLine l
  last : ∀ l, body.getLast? = some l → ¬ IsBlankLine l
  indented : ∀ l ∈ body, IsBlankLine l ∨ ∃ c cs, l = '\t' :: c :: cs ∧ isBlank c = false
  aligned : ∀ run, IsMaximalRun IsFieldLine body run → Aligned run

/-- The lines of a text, each ended by a line feed. -/
def rows (text : String) : List (List Char) := (lines text).dropLast

/-- A source as it should be laid out. -/
structure IsCanonical (text : String) : Prop where
  /-- The text ends in one line feed. -/
  ends : ∃ cs, text.toList = cs ++ ['\n'] ∧ cs.getLast? ≠ some '\n'
  first : ∀ l, (rows text).head? = some l → ¬ IsBlankLine l
  last : ∀ l, (rows text).getLast? = some l → ¬ IsBlankLine l
  spaced : (rows text).IsChain fun l l' => ¬ (IsBlankLine l ∧ IsBlankLine l')
  trimmed : ∀ l ∈ rows text, ∀ c, l.getLast? = some c → isBlank c = false
  /-- There is one package clause, behind comments and blank lines. -/
  package : ∃ before clause after, rows text = before ++ clause :: after ∧
    isPackageClause clause = true ∧ (∀ l ∈ before, IsBlankLine l ∨ IsComment l) ∧
    ∀ l ∈ after, isPackageClause l = false
  /-- Behind a line that opens a struct, its body goes on to the next brace. -/
  bodies : ∀ before opening rest, rows text = before ++ opening :: rest →
    opensStruct opening = true → ∃ body after, rest = body ++ "\x7d".toList :: after ∧
      "\x7d".toList ∉ body ∧ IsCanonicalBody body

/-! ### Lines without blanks at their end -/

/-- A line that does not end in a blank. -/
def Trimmed (cs : List Char) : Prop := ∀ c, cs.getLast? = some c → isBlank c = false

theorem Trimmed.isBlankLine_iff {cs : List Char} (h : Trimmed cs) : IsBlankLine cs ↔ cs = [] := by
  constructor
  · intro hblank
    by_contra hne
    have hlast := List.getLast?_eq_some_getLast hne
    have := hblank _ (List.getLast_mem hne)
    rw [h _ hlast] at this
    cases this
  · rintro rfl
    exact List.forall_mem_nil _

theorem trimmed_of_stripped {cs : List Char} (h : stripChars cs = cs) : Trimmed cs := by
  intro c hc
  rw [← h] at hc
  exact Text.isBlank_of_getLast?_stripChars hc

theorem Trimmed.append {cs ds : List Char} (h : Trimmed ds) (hne : ds ≠ []) :
    Trimmed (cs ++ ds) := by
  intro c hc
  rw [List.getLast?_append, List.getLast?_eq_some_getLast hne] at hc
  exact h c (List.getLast?_eq_some_getLast hne ▸ hc)

theorem trimmed_of_getLast? {cs : List Char} {d : Char} (h : cs.getLast? = some d)
    (hd : isBlank d = false) : Trimmed cs := by
  intro c hc
  rw [h] at hc
  exact Option.some.inj hc ▸ hd

theorem trimmed_of_isSolid {cs : List Char} (h : IsSolid cs) : Trimmed cs := fun c hc =>
  h c (List.mem_of_getLast? hc)

theorem IsCommentText.ne_nil {text : String} (h : IsCommentText text) : text.toList ≠ [] := by
  rintro hnil
  have := h.comment
  rw [hnil] at this
  exact absurd this (by simp [IsComment])

theorem IsField.trimmed_fieldText {f : Field} (hf : IsField f) (nameWidth typeWidth : Nat) :
    Trimmed (f.text nameWidth typeWidth).toList := by
  obtain ⟨c, hc, hblank⟩ := hf.getLast?_typeAndTag typeWidth
  refine trimmed_of_getLast? ?_ hblank
  rw [fieldText_toList, List.getLast?_cons, List.getLast?_append, List.getLast?_append, hc]
  rfl

theorem Renders.trimmed {l : BodyLine} {line : String} (h : l.Renders line) (hl : l.Legible) :
    Trimmed line.toList := by
  cases l with
  | blank =>
    rw [show line = "" from h]
    intro c hc
    cases hc
  | comment text =>
    rw [show line = "\t" ++ text from h, String.toList_append]
    exact (trimmed_of_stripped hl.1.stripped).append hl.1.ne_nil
  | field f =>
    obtain ⟨nameWidth, typeWidth, -, -, rfl⟩ := h
    exact hl.1.trimmed_fieldText _ _

theorem Item.Legible.trimmed {item : Item} (h : item.Legible) :
    ∀ l ∈ item.lines, Trimmed l.toList := by
  cases item with
  | blank => simp [Item.lines, Trimmed]
  | comment text => simpa [Item.lines] using trimmed_of_stripped h.stripped
  | package name =>
    simp only [Item.lines, List.mem_singleton, forall_eq, String.toList_append]
    exact (trimmed_of_isSolid h.solid).append h.ne_nil
  | struct name body =>
    intro l hl
    rw [Item.lines, List.mem_append, List.mem_cons, List.mem_singleton] at hl
    rcases hl with (rfl | hl) | rfl
    · have hopen : Trimmed " struct \x7b".toList :=
        trimmed_of_getLast? (d := '\x7b') (by decide) (by decide)
      rw [String.toList_append]
      exact hopen.append (by decide)
    · obtain ⟨line, hline, hrenders⟩ := exists_of_forall₂ (renders_bodyLines body) hl
      exact Renders.trimmed hrenders (h.2 line (mem_of_mem_squeeze hline))
    · exact trimmed_of_isSolid (by decide)
  | «alias» name type =>
    simp only [Item.lines, List.mem_singleton, forall_eq, String.toList_append]
    exact (trimmed_of_isSolid h.2.solid).append h.2.ne_nil
  | function text =>
    simp only [Item.lines, List.mem_singleton, forall_eq]
    exact trimmed_of_getLast? h.1.last (by decide)

/-! ### Blank lines -/

section Rows

variable {items : List Item}

theorem rows_sourceText (h : Legible false items) :
    rows (sourceText items) = (sourceLines (squeeze .blank items)).map String.toList := by
  rw [rows, h.lines_sourceText, List.dropLast_concat]

theorem trimmed_of_mem_rows (h : Legible false items) {l : List Char}
    (hl : l ∈ rows (sourceText items)) : Trimmed l := by
  rw [rows_sourceText h] at hl
  obtain ⟨line, hline, rfl⟩ := List.mem_map.1 hl
  obtain ⟨item, hitem, hline⟩ := List.mem_flatMap.1 hline
  exact ((legible_squeeze h).forall item hitem).trimmed line hline

theorem isBlankLine_of_mem_rows (h : Legible false items) {l : List Char}
    (hl : l ∈ rows (sourceText items)) : IsBlankLine l ↔ l = [] :=
  (trimmed_of_mem_rows h hl).isBlankLine_iff

/-- Blank lines of a laid out source stand alone, and not at its edges. -/
theorem squeezed_rows (h : Legible false items) : Squeezed [] (rows (sourceText items)) := by
  have hsqueezed := squeezed_squeeze "" (sourceLines items)
  rw [← collapseBlanks_eq_squeeze, collapseBlanks_sourceLines h.forall] at hsqueezed
  rw [rows_sourceText h]
  exact hsqueezed.map fun line => String.toList_eq_nil_iff

theorem ends_sourceText (h : Legible false items) :
    ∃ cs, (sourceText items).toList = cs ++ ['\n'] ∧ cs.getLast? ≠ some '\n' := by
  have hsqueezed := squeezed_rows h
  rw [rows_sourceText h] at hsqueezed
  have hnewline := h.newline_not_mem
  rw [h.sourceText_eq_unlines]
  obtain ⟨before, last, hlast⟩ := (List.eq_nil_or_concat _).resolve_left
    (legible_squeeze h).sourceLines_ne_nil
  rw [hlast, List.concat_eq_append] at hsqueezed hnewline ⊢
  have hne : last.toList ≠ [] := by simpa using hsqueezed.last
  refine ⟨(unlines before).toList ++ last.toList, by simp, fun hend => ?_⟩
  rw [List.getLast?_append, List.getLast?_eq_some_getLast hne] at hend
  refine hnewline last (by simp) ?_
  rw [← Option.some.inj hend]
  exact List.getLast_mem hne

end Rows

/-! ### Columns -/

theorem IsField.fromName_fieldText {f : Field} (hf : IsField f) (nameWidth typeWidth : Nat) :
    fromName (f.text nameWidth typeWidth).toList = f.name.toList ++
      (List.replicate (nameWidth - f.name.length) ' ' ++ f.typeAndTag typeWidth) := by
  obtain ⟨c, hc, hblank, -⟩ := hf.name.head
  obtain ⟨cs, hcs⟩ := List.head?_eq_some_iff.1 hc
  rw [fieldText_toList, fromName, List.dropWhile_cons_of_pos (by decide), hcs, List.cons_append,
    List.dropWhile_cons_of_neg (by simp [hblank])]

/-- The columns of a field that is written with given widths. -/
theorem columns_fieldText {f : Field} (hf : IsField f) {nameWidth typeWidth : Nat}
    (hname : f.name.length < nameWidth) (htype : f.type.length < typeWidth) {l : List Char}
    (hl : l = (f.text nameWidth typeWidth).toList) :
    (column l (fromName l) = 1 ∧ wordEnd l (fromName l) = 1 + f.name.length) ∧
      (column l (fromType l) = 1 + nameWidth ∧
        wordEnd l (fromType l) = 1 + nameWidth + f.type.length) ∧
      (fromTag l ≠ [] → column l (fromTag l) = 1 + nameWidth + typeWidth) := by
  obtain ⟨c, hc, hcblank⟩ := hf.head?_typeAndTag typeWidth
  have hfrom : fromName l = f.name.toList ++
      (List.replicate (nameWidth - f.name.length) ' ' ++ f.typeAndTag typeWidth) :=
    hl ▸ hf.fromName_fieldText nameWidth typeWidth
  have hcut : cutWord (fromName l) = (f.name.toList, f.typeAndTag typeWidth) := by
    rw [hfrom]
    exact cutWord_spaced hf.name.solid (by omega) hc hcblank
  have htypes : fromType l = f.typeAndTag typeWidth := by rw [fromType, hcut]
  have htags : fromTag l = f.tag.toList := by rw [fromTag, htypes, hf.cutWord_typeAndTag htype]
  have hlength : l.length =
      1 + (f.name.length + (nameWidth - f.name.length) + (f.typeAndTag typeWidth).length) := by
    rw [hl, fieldText_toList]
    simp only [List.length_cons, List.length_append, List.length_replicate, String.length_toList]
    omega
  have hstart : column l (fromName l) = 1 := by
    rw [column, hfrom, hlength]
    simp only [List.length_append, List.length_replicate, String.length_toList]
    omega
  have htypeStart : column l (fromType l) = 1 + nameWidth := by
    rw [column, htypes, hlength]
    omega
  refine ⟨⟨hstart, ?_⟩, ⟨htypeStart, ?_⟩, fun htag => ?_⟩
  · rw [wordEnd, hstart, hcut, String.length_toList]
  · rw [wordEnd, htypeStart, htypes, hf.cutWord_typeAndTag htype, String.length_toList]
  · have hne : f.tag ≠ "" := fun h => htag (by rw [htags, h, String.toList_empty])
    have hrest : (f.typeAndTag typeWidth).length =
        f.type.length + (typeWidth - f.type.length) + f.tag.length := by
      rw [Field.typeAndTag, if_neg hne]
      simp only [List.length_append, List.length_replicate, String.length_toList]
      omega
    rw [column, htags, hlength, hrest, String.length_toList]
    omega

/-! ### Package clauses -/

/-- The package clause of legible items: before it there are comments and blank lines. -/
theorem Legible.exists_package {items : List Item} (h : Legible false items) :
    ∃ before name after, items = before ++ .package name :: after ∧ IsWord name ∧
      (∀ item ∈ before, item = .blank ∨ ∃ text, item = .comment text ∧ IsCommentText text) ∧
      Legible true after := by
  induction items with
  | nil => cases h
  | cons item items ih =>
    obtain ⟨hitem, hfits, hitems⟩ := h
    cases item with
    | blank =>
      obtain ⟨before, name, after, rfl, hname, hbefore, hafter⟩ := ih hitems
      exact ⟨.blank :: before, name, after, rfl, hname,
        List.forall_mem_cons.2 ⟨Or.inl rfl, hbefore⟩, hafter⟩
    | comment text =>
      obtain ⟨before, name, after, rfl, hname, hbefore, hafter⟩ := ih hitems
      exact ⟨.comment text :: before, name, after, rfl, hname,
        List.forall_mem_cons.2 ⟨Or.inr ⟨text, rfl, hitem⟩, hbefore⟩, hafter⟩
    | package name => exact ⟨[], name, items, rfl, hitem, by simp, hitems⟩
    | struct name body => cases hfits
    | «alias» name type => cases hfits
    | function text => cases hfits

theorem Legible.ne_package {items : List Item} (h : Legible true items) :
    ∀ item ∈ items, ∀ name, item ≠ .package name := by
  induction items with
  | nil => simp
  | cons item items ih =>
    obtain ⟨-, hfits, hitems⟩ := h
    refine List.forall_mem_cons.2 ⟨?_, ?_⟩
    · rintro name rfl
      cases hfits
    · cases item with
      | package name => cases hfits
      | _ => exact ih hitems

/-! ### Bodies of structs -/

/-- A line that opens a struct is the first line of one. -/
theorem Item.Legible.of_opensStruct {item : Item} (h : item.Legible)
    {before after : List (List Char)} {opening : List Char}
    (hlines : item.lines.map String.toList = before ++ opening :: after)
    (hopens : opensStruct opening = true) :
    ∃ name body, item = .struct name body ∧
      after = (bodyLines body).map String.toList ++ ["\x7d".toList] := by
  have hmem : opening ∈ item.lines.map String.toList := by simp [hlines]
  obtain ⟨line, hline, rfl⟩ := List.mem_map.1 hmem
  by_cases hstruct : ∃ name body, item = .struct name body
  · obtain ⟨name, body, rfl⟩ := hstruct
    refine ⟨name, body, rfl, ?_⟩
    rw [Item.lines, List.map_append, List.map_cons, List.cons_append] at hlines
    cases before with
    | nil => exact (List.cons.inj hlines).2.symm
    | cons b before =>
      have htail : line.toList ∈
          (bodyLines body).map String.toList ++ ["\x7d"].map String.toList := by
        rw [(List.cons.inj hlines).2]
        exact List.mem_append_right _ List.mem_cons_self
      have hfree : StartsFreely line.toList := by
        rcases List.mem_append.1 htail with hbody | hclosing
        · obtain ⟨line', hline', heq⟩ := List.mem_map.1 hbody
          exact heq ▸ startsFreely_of_mem_bodyLines h.2 hline'
        · rw [List.mem_singleton.1 hclosing]
          exact startsFreely_closing
      rw [hfree.opensStruct] at hopens
      cases hopens
  · have hfalse := h.opensStruct_eq_false (fun name body heq => hstruct ⟨name, body, heq⟩) line hline
    rw [hfalse] at hopens
    cases hopens

/-- What stands behind a line that opens a struct are the other lines of one. -/
theorem exists_struct_of_opensStruct {items : List Item} (h : ∀ item ∈ items, item.Legible)
    {before rest : List (List Char)} {opening : List Char}
    (hlines : (sourceLines items).map String.toList = before ++ opening :: rest)
    (hopens : opensStruct opening = true) :
    ∃ name body after, .struct name body ∈ items ∧
      rest = (bodyLines body).map String.toList ++ "\x7d".toList :: after := by
  induction items generalizing before with
  | nil => simp [sourceLines] at hlines
  | cons item items ih =>
    obtain ⟨hitem, hitems⟩ := List.forall_mem_cons.1 h
    have hlater : ∀ before, (sourceLines items).map String.toList = before ++ opening :: rest →
        ∃ name body after, .struct name body ∈ item :: items ∧
          rest = (bodyLines body).map String.toList ++ "\x7d".toList :: after := by
      intro before hbefore
      obtain ⟨name, body, after, hmem, hrest⟩ := ih hitems hbefore
      exact ⟨name, body, after, List.mem_cons_of_mem _ hmem, hrest⟩
    rw [sourceLines, List.flatMap_cons, List.map_append, ← sourceLines] at hlines
    rcases List.append_eq_append_iff.1 hlines with ⟨mid, rfl, hmid⟩ | ⟨mid, hmap, hmid⟩
    · exact hlater mid hmid
    cases mid with
    | nil => exact hlater [] hmid.symm
    | cons first mid =>
      obtain ⟨rfl, rfl⟩ := List.cons.inj hmid
      obtain ⟨name, body, rfl, rfl⟩ := hitem.of_opensStruct hmap hopens
      exact ⟨name, body, _, List.mem_cons_self, List.append_assoc _ _ _⟩

/-! ### Runs of fields -/

section MaximalRun

variable {α : Type} {p : α → Prop} {xs ys run : List α}

theorem IsMaximalRun.eq_of_forall (h : IsMaximalRun p xs run) (hxs : ∀ x ∈ xs, p x) : run = xs := by
  obtain ⟨-, -, before, after, rfl, hbefore, hafter⟩ := h
  have hnil : before = [] := by
    by_contra hne
    have hlast := List.getLast?_eq_some_getLast hne
    exact hbefore _ hlast (hxs _ (List.mem_append_left _ (List.mem_of_getLast? hlast)))
  have hnil' : after = [] := by
    by_contra hne
    have hhead := List.head?_eq_some_head hne
    exact hafter _ hhead (hxs _ (by simp [List.head_mem hne]))
  rw [hnil, hnil', List.nil_append, List.append_nil]

/-- A run does not go past an item that does not belong to it. -/
theorem IsMaximalRun.of_append_cons {x : α} (h : IsMaximalRun p (xs ++ x :: ys) run) (hx : ¬ p x) :
    IsMaximalRun p xs run ∨ IsMaximalRun p ys run := by
  obtain ⟨hne, hrun, before, after, heq, hbefore, hafter⟩ := h
  rcases List.append_eq_append_iff.1 heq with ⟨mid, rfl, hmid⟩ | ⟨mid, rfl, hmid⟩
  · right
    cases mid with
    | nil =>
      obtain ⟨y, run, rfl⟩ := List.exists_cons_of_ne_nil hne
      obtain ⟨rfl, -⟩ := List.cons.inj hmid
      exact absurd (hrun _ List.mem_cons_self) hx
    | cons y mid =>
      obtain ⟨rfl, rfl⟩ := List.cons.inj hmid
      refine ⟨hne, hrun, mid, after, rfl, fun z hz => hbefore z ?_, hafter⟩
      rw [List.getLast?_append, List.getLast?_cons, hz]
      rfl
  · left
    rcases List.append_eq_append_iff.1 hmid with ⟨rest, rfl, rfl⟩ | ⟨rest, rfl, hrest⟩
    · refine ⟨hne, hrun, before, rest, rfl, hbefore, fun z hz => hafter z ?_⟩
      rw [List.head?_append, hz]
      rfl
    · cases rest with
      | nil => exact ⟨hne, hrun, before, [], by simp, hbefore, by simp⟩
      | cons y rest =>
        obtain ⟨rfl, -⟩ := List.cons.inj hrest
        exact absurd (hrun _ (by simp)) hx

end MaximalRun

/-- The fields of a struct are seen in its lines. -/
theorem Renders.isFieldLine_iff {l : BodyLine} {line : String} (h : l.Renders line)
    (hl : l.Legible) :
    IsFieldLine line.toList ↔ ∃ f, l = .field f := by
  cases l with
  | blank =>
    rw [show line = "" from h]
    simp [IsFieldLine, IsBlankLine]
  | comment text =>
    obtain ⟨-, ds, hds⟩ := hl
    have hline : line.toList = '\t' :: '/' :: '/' :: ds := by
      rw [show line = "\t" ++ text from h, String.toList_append, ← hds]
      rfl
    simp only [reduceCtorEq, exists_false, iff_false]
    rintro ⟨-, hslash⟩
    refine hslash ⟨ds, ?_⟩
    rw [hline, List.dropWhile_cons_of_pos (by decide), List.dropWhile_cons_of_neg (by decide)]
    rfl
  | field f =>
    obtain ⟨nameWidth, typeWidth, -, -, rfl⟩ := h
    obtain ⟨c, hc, hblank, hslash⟩ := hl.1.name.head
    obtain ⟨cs, hcs⟩ := List.head?_eq_some_iff.1 hc
    refine ⟨fun _ => ⟨f, rfl⟩, fun _ => ⟨fun hall => ?_, ?_⟩⟩
    · have := hall c (by rw [fieldText_toList, hcs]; simp)
      rw [hblank] at this
      cases this
    · rintro ⟨ds, hds⟩
      have hfrom := hl.1.fromName_fieldText nameWidth typeWidth
      rw [fromName, ← hds, hcs] at hfrom
      exact hslash (List.cons.inj hfrom).1.symm

theorem exists_length_eq_maxLength {texts : List String} (h : texts ≠ []) :
    ∃ text ∈ texts, text.length = maxLength texts := by
  have hmax : maxLength texts = (texts.map String.length).foldr max 0 := List.foldl_eq_foldr
  rw [hmax]
  clear hmax
  induction texts with
  | nil => exact absurd rfl h
  | cons text texts ih =>
    rw [List.map_cons, List.foldr_cons]
    cases texts with
    | nil => exact ⟨text, List.mem_cons_self, by simp⟩
    | cons text' texts =>
      obtain ⟨longest, hmem, hlongest⟩ := ih (by simp)
      rw [← hlongest]
      rcases le_total text.length longest.length with hle | hle
      · exact ⟨longest, List.mem_cons_of_mem _ hmem, (max_eq_right hle).symm⟩
      · exact ⟨text, List.mem_cons_self, (max_eq_left hle).symm⟩

/-- The column one past the longest entry. -/
theorem isGreatest_maxLength {run : List Field} {line : Field → List Char} {entry : Field → String}
    {wordEnd : List Char → Nat} {start : Nat} (hne : run ≠ [])
    (h : ∀ f ∈ run, wordEnd (line f) = start + (entry f).length) :
    IsGreatest {m | ∃ l ∈ run.map line, m = wordEnd l + 1}
      (start + (maxLength (run.map entry) + 1)) := by
  have hentries : run.map entry ≠ [] := by simpa using hne
  constructor
  · obtain ⟨text, htext, hlength⟩ := exists_length_eq_maxLength hentries
    obtain ⟨f, hf, rfl⟩ := List.mem_map.1 htext
    exact ⟨line f, List.mem_map_of_mem hf, by rw [h f hf, hlength, Nat.add_assoc]⟩
  · rintro m ⟨l, hl, rfl⟩
    obtain ⟨f, hf, rfl⟩ := List.mem_map.1 hl
    have hle : (entry f).length ≤ maxLength (run.map entry) :=
      length_le_maxLength (List.mem_map_of_mem hf)
    rw [h f hf]
    omega

/-- Fields that are written together have their types and tags in the same columns. -/
theorem aligned_alignRun {run : List Field} (h : ∀ f ∈ run, IsField f) (hne : run ≠ []) :
    Aligned ((alignRun run).map String.toList) := by
  have hcolumns := fun f hf => columns_fieldText (h f hf)
    (Nat.lt_succ_of_le (length_le_maxLength (List.mem_map_of_mem hf)))
    (Nat.lt_succ_of_le (length_le_maxLength (List.mem_map_of_mem hf))) rfl
  rw [alignRun, List.map_map]
  refine ⟨?_, ⟨_, ?_, isGreatest_maxLength hne fun f hf => (hcolumns f hf).1.2⟩,
    ⟨_, ?_, isGreatest_maxLength hne fun f hf => (hcolumns f hf).2.1.2⟩⟩
  · intro l hl
    obtain ⟨f, hf, rfl⟩ := List.mem_map.1 hl
    exact (hcolumns f hf).1.1
  · intro l hl
    obtain ⟨f, hf, rfl⟩ := List.mem_map.1 hl
    exact (hcolumns f hf).2.1.1
  · intro l hl
    obtain ⟨f, hf, rfl⟩ := List.mem_map.1 hl
    exact (hcolumns f hf).2.2

theorem aligned_of_isMaximalRun_alignRun {run : List Field}
    (h : ∀ f ∈ run, (BodyLine.field f).Legible) {ls : List (List Char)}
    (hls : IsMaximalRun IsFieldLine ((alignRun run).map String.toList) ls) : Aligned ls := by
  have hfields : ∀ l ∈ (alignRun run).map String.toList, IsFieldLine l := by
    intro l hl
    obtain ⟨line, hline, rfl⟩ := List.mem_map.1 hl
    obtain ⟨l, hl, hrenders⟩ := exists_of_forall₂ (renders_alignRun run) hline
    obtain ⟨f, hf, rfl⟩ := List.mem_map.1 hl
    exact (Renders.isFieldLine_iff hrenders (h f hf)).2 ⟨f, rfl⟩
  obtain rfl := hls.eq_of_forall hfields
  refine aligned_alignRun (fun f hf => (h f hf).1) ?_
  rintro rfl
  exact hls.1 rfl

/-- In the lines of a struct every run of fields is aligned. -/
theorem aligned_bodyLinesFrom {run : List Field} {body : List BodyLine}
    (hrun : ∀ f ∈ run, (BodyLine.field f).Legible) (hbody : ∀ l ∈ body, l.Legible)
    {ls : List (List Char)}
    (hls : IsMaximalRun IsFieldLine ((bodyLinesFrom run body).map String.toList) ls) :
    Aligned ls := by
  have hreverse : ∀ f ∈ run.reverse, (BodyLine.field f).Legible := fun f hf =>
    hrun f (List.mem_reverse.1 hf)
  induction body generalizing run with
  | nil => exact aligned_of_isMaximalRun_alignRun hreverse hls
  | cons l body ih =>
    obtain ⟨hl, hrest⟩ := List.forall_mem_cons.1 hbody
    have hsplit : ∀ line : String, l.Renders line → (∀ f, l ≠ .field f) →
        bodyLinesFrom run (l :: body) = alignRun run.reverse ++ line :: bodyLinesFrom [] body →
        Aligned ls := by
      intro line hrenders hne hlines
      rw [hlines, List.map_append, List.map_cons] at hls
      have hline : ¬ IsFieldLine line.toList := fun hfield => by
        obtain ⟨f, hf⟩ := (Renders.isFieldLine_iff hrenders hl).1 hfield
        exact hne f hf
      rcases hls.of_append_cons hline with hls | hls
      · exact aligned_of_isMaximalRun_alignRun hreverse hls
      · exact ih (by simp) hrest hls (by simp)
    cases l with
    | blank => exact hsplit "" rfl (by simp) rfl
    | comment text => exact hsplit ("\t" ++ text) rfl (by simp) rfl
    | field f =>
      have hcons : ∀ f' ∈ f :: run, (BodyLine.field f').Legible :=
        List.forall_mem_cons.2 ⟨hl, hrun⟩
      exact ih hcons hrest hls fun f' hf' => hcons f' (List.mem_reverse.1 hf')

/-! ### Laid out sources -/

theorem Renders.indented {l : BodyLine} {line : String} (h : l.Renders line) (hl : l.Legible) :
    IsBlankLine line.toList ∨ ∃ c cs, line.toList = '\t' :: c :: cs ∧ isBlank c = false := by
  cases l with
  | blank =>
    rw [show line = "" from h]
    exact Or.inl (List.forall_mem_nil _)
  | comment text =>
    obtain ⟨-, ds, hds⟩ := hl
    refine Or.inr ⟨'/', '/' :: ds, ?_, by decide⟩
    rw [show line = "\t" ++ text from h, String.toList_append, ← hds]
    rfl
  | field f =>
    obtain ⟨nameWidth, typeWidth, -, -, rfl⟩ := h
    obtain ⟨c, hc, hblank, -⟩ := hl.1.name.head
    obtain ⟨cs, hcs⟩ := List.head?_eq_some_iff.1 hc
    exact Or.inr ⟨c, _, by rw [fieldText_toList, hcs]; rfl, hblank⟩

/-- The lines of a struct are as they should be. -/
theorem isCanonicalBody_bodyLines {body : List BodyLine} (h : ∀ l ∈ body, l.Legible) :
    IsCanonicalBody ((bodyLines body).map String.toList) := by
  have hlegible : ∀ l ∈ squeeze .blank body, l.Legible := fun l hl => h l (mem_of_mem_squeeze hl)
  have hblank : ∀ l ∈ (bodyLines body).map String.toList, IsBlankLine l → l = [] := by
    intro l hl hblank
    obtain ⟨line, hline, rfl⟩ := List.mem_map.1 hl
    obtain ⟨l, hl, hrenders⟩ := exists_of_forall₂ (renders_bodyLines body) hline
    exact (Renders.trimmed hrenders (hlegible l hl)).isBlankLine_iff.1 hblank
  have hsqueezed : Squeezed [] ((bodyLines body).map String.toList) := by
    rw [bodyLines, collapseBlanks_eq_squeeze]
    exact (squeezed_squeeze "" _).map fun line => String.toList_eq_nil_iff
  refine ⟨?_, ?_, ?_, ?_⟩
  · intro l hl hblankLine
    exact hsqueezed.head (hblank l (List.mem_of_head? hl) hblankLine ▸ hl)
  · intro l hl hblankLine
    exact hsqueezed.last (hblank l (List.mem_of_getLast? hl) hblankLine ▸ hl)
  · intro l hl
    obtain ⟨line, hline, rfl⟩ := List.mem_map.1 hl
    obtain ⟨l, hl, hrenders⟩ := exists_of_forall₂ (renders_bodyLines body) hline
    exact Renders.indented hrenders (hlegible l hl)
  · intro run hrun
    rw [bodyLines_eq] at hrun
    exact aligned_bodyLinesFrom (by simp) hlegible hrun

theorem package_sourceText {items : List Item} (h : Legible false items) :
    ∃ before clause after, rows (sourceText items) = before ++ clause :: after ∧
      isPackageClause clause = true ∧ (∀ l ∈ before, IsBlankLine l ∨ IsComment l) ∧
      ∀ l ∈ after, isPackageClause l = false := by
  obtain ⟨before, name, after, heq, hname, hbefore, hafter⟩ := (legible_squeeze h).exists_package
  rw [rows_sourceText h, heq]
  refine ⟨(sourceLines before).map String.toList, ("package " ++ name).toList,
    (sourceLines after).map String.toList, by simp [sourceLines, Item.lines], ?_, ?_, ?_⟩
  · rw [isPackageClause, words_packageLine hname]
    exact beq_self_eq_true _
  · intro l hl
    obtain ⟨line, hline, rfl⟩ := List.mem_map.1 hl
    obtain ⟨item, hitem, hline⟩ := List.mem_flatMap.1 hline
    rcases hbefore item hitem with rfl | ⟨text, rfl, htext⟩
    · rw [List.mem_singleton.1 hline]
      exact Or.inl (List.forall_mem_nil _)
    · rw [List.mem_singleton.1 hline]
      exact Or.inr htext.comment
  · intro l hl
    obtain ⟨line, hline, rfl⟩ := List.mem_map.1 hl
    obtain ⟨item, hitem, hline⟩ := List.mem_flatMap.1 hline
    have hne := hafter.ne_package item hitem
    exact (hafter.forall item hitem).isPackageClause_eq_false hne line hline

/-- **What has been laid out is canonical.** -/
theorem isCanonical_of_format {source text : String} (h : format source = .ok text) :
    IsCanonical text := by
  obtain ⟨items, hitems, rfl⟩ := map_eq_ok.1 h
  have hlegible := legible_of_readItems hitems
  have hsqueezed := squeezed_rows hlegible
  refine ⟨ends_sourceText hlegible, ?_, ?_, ?_, fun l => trimmed_of_mem_rows hlegible,
    package_sourceText hlegible, ?_⟩
  · intro l hl hblank
    rw [isBlankLine_of_mem_rows hlegible (List.mem_of_head? hl)] at hblank
    exact hsqueezed.head (hblank ▸ hl)
  · intro l hl hblank
    rw [isBlankLine_of_mem_rows hlegible (List.mem_of_getLast? hl)] at hblank
    exact hsqueezed.last (hblank ▸ hl)
  · refine hsqueezed.tight.isChain.imp_of_mem_imp fun l l' hl hl' hne => ?_
    rw [isBlankLine_of_mem_rows hlegible hl, isBlankLine_of_mem_rows hlegible hl', not_and_or]
    exact hne
  · intro before opening rest hrows hopens
    rw [rows_sourceText hlegible] at hrows
    have hforall := (legible_squeeze hlegible).forall
    obtain ⟨name, body, after, hmem, rfl⟩ := exists_struct_of_opensStruct hforall hrows hopens
    exact ⟨_, after, rfl, closing_not_mem_bodyLines body,
      isCanonicalBody_bodyLines (hforall _ hmem).2⟩

theorem isCanonical_tidySource : format untidySource = .ok tidySource ∧ IsCanonical tidySource :=
  ⟨format_untidySource, isCanonical_of_format format_untidySource⟩

end StructGen.Source
