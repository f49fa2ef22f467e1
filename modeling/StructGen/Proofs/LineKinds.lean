import StructGen.Proofs.Relayout

/-!
# Kinds of lines

The words of a line tell what it is: a package clause and a line that opens a struct start with
their reserved words, and a comment, a field and a brace start with none. So the lines of an item are
told apart without reading them.

* `isPackageClause` and `opensStruct` are the two kinds;
* `StartsFreely` is a line that starts with no reserved word;
* `Item.Legible.isPackageClause_eq_false` and `Item.Legible.opensStruct_eq_false` say that no other
  items have such lines.
-/

namespace StructGen.Source

open Text (IsSolid isBlank words)

/-! ### First words -/

/-- Whether a line is a package clause. -/
def isPackageClause (cs : List Char) : Bool :=
  match words cs with
  | [key, _] => key == "package".toList
  | _ => false

/-- Whether a line opens a struct. -/
def opensStruct (cs : List Char) : Bool :=
  match words cs with
  | [key, _, third] => key == "type".toList && third == "struct\x7b".toList
  | [key, _, third, brace] =>
    key == "type".toList && third == "struct".toList && brace == "\x7b".toList
  | _ => false

section Words

variable {cs : List Char}

theorem isPackageClause_eq_false (h : (words cs).head? ≠ some "package".toList) :
    isPackageClause cs = false := by
  unfold isPackageClause
  split
  · rename_i key _ hwords
    rw [hwords] at h
    exact beq_eq_false_iff_ne.2 fun hkey => h (by rw [hkey]; rfl)
  · rfl

theorem opensStruct_eq_false (h : (words cs).head? ≠ some "type".toList) :
    opensStruct cs = false := by
  unfold opensStruct
  split
  · rename_i key _ _ hwords
    rw [hwords] at h
    rw [beq_eq_false_iff_ne.2 fun hkey => h (by rw [hkey]; rfl), Bool.false_and]
  · rename_i key _ _ _ hwords
    rw [hwords] at h
    rw [beq_eq_false_iff_ne.2 fun hkey => h (by rw [hkey]; rfl), Bool.false_and, Bool.false_and]
  · rfl

/-- A line that does not start with a reserved word. -/
def StartsFreely (cs : List Char) : Prop :=
  ∀ key ∈ Naming.reservedWords, (words cs).head? ≠ some key.toList

theorem StartsFreely.isPackageClause (h : StartsFreely cs) : isPackageClause cs = false :=
  isPackageClause_eq_false (h "package" (by decide))

theorem StartsFreely.opensStruct (h : StartsFreely cs) : opensStruct cs = false :=
  opensStruct_eq_false (h "type" (by decide))

theorem startsFreely_of_isComment (h : IsComment cs) : StartsFreely cs := by
  obtain ⟨ds, rfl⟩ : ∃ ds, cs = '/' :: ds := by
    rcases h with ⟨ds, rfl⟩ | ⟨⟨ds, rfl⟩, -⟩
    · exact ⟨_, rfl⟩
    · exact ⟨_, rfl⟩
  obtain ⟨u, ws, hwords⟩ := Text.exists_words_cons (c := '/') ds (by decide)
  have hslash : ∀ key ∈ Naming.reservedWords, key.toList.head? ≠ some '/' := by decide
  intro key hkey hhead
  rw [hwords, List.head?_cons] at hhead
  exact hslash key hkey (by rw [← Option.some.inj hhead]; rfl)

theorem words_fieldText {f : Field} (hf : IsField f) {nameWidth : Nat}
    (hname : f.name.length < nameWidth) (typeWidth : Nat) :
    (words (f.text nameWidth typeWidth).toList).head? = some f.name.toList := by
  obtain ⟨n, hn⟩ := Nat.exists_eq_add_of_lt hname
  have hpad : nameWidth - f.name.length = n + 1 := by omega
  rw [fieldText_toList, hpad, List.replicate_succ, List.cons_append,
    Text.words_cons_of_blank _ (by decide),
    Text.words_append_cons _ hf.name.solid hf.name.ne_nil (by decide), List.head?_cons]

theorem IsWord.not_reserved {name : String} (h : IsWord name) : name ∉ Naming.reservedWords :=
  ((Naming.isGoIdentifier_iff h.solid.newline_not_mem).1 h.ident).2

theorem IsWord.backQuote_not_mem {name : String} (h : IsWord name) : '\x60' ∉ name.toList := by
  have hform := ((Naming.isGoIdentifier_iff h.solid.newline_not_mem).1 h.ident).1
  exact fun hmem => absurd (Naming.isNameChar_of_isNameChars hform _ hmem) (by decide)

theorem Renders.startsFreely {l : BodyLine} {line : String} (h : l.Renders line) (hl : l.Legible) :
    StartsFreely line.toList := by
  cases l with
  | blank =>
    rw [show line = "" from h]
    intro key _ hhead
    cases hhead
  | comment text =>
    have hline : line.toList = '\t' :: text.toList := by simp [show line = "\t" ++ text from h]
    rw [hline, StartsFreely, Text.words_cons_of_blank _ (by decide)]
    exact startsFreely_of_isComment hl.1.comment
  | field f =>
    obtain ⟨nameWidth, typeWidth, hname, -, rfl⟩ := h
    intro key hkey hhead
    rw [words_fieldText hl.1 hname] at hhead
    exact hl.1.name.not_reserved (String.toList_injective (Option.some.inj hhead) ▸ hkey)

theorem startsFreely_of_mem_bodyLines {body : List BodyLine} (h : ∀ l ∈ body, l.Legible)
    {line : String} (hline : line ∈ bodyLines body) : StartsFreely line.toList := by
  obtain ⟨l, hl, hrenders⟩ := exists_of_forall₂ (renders_bodyLines body) hline
  exact Renders.startsFreely hrenders (h l (mem_of_mem_squeeze hl))

theorem IsFunction.head?_words (h : IsFunction cs) : (words cs).head? = some "func".toList := by
  obtain ⟨name, hname, -⟩ := h.name
  obtain ⟨-, ws, hwords⟩ := words_of_functionName? hname
  rw [hwords, List.head?_cons]

theorem words_packageLine {name : String} (h : IsWord name) :
    words ("package " ++ name).toList = ["package".toList, name.toList] := by
  have hkey : IsSolid "package".toList := by decide
  have hwords := Text.words_append_cons (c := ' ') name.toList hkey (by decide) (by decide)
  rw [Text.words_of_isSolid h.solid h.ne_nil] at hwords
  rw [← hwords, String.toList_append]
  rfl

theorem words_typeLine (rest : String) :
    words ("type " ++ rest).toList = "type".toList :: words rest.toList := by
  have hkey : IsSolid "type".toList := by decide
  rw [← Text.words_append_cons (c := ' ') rest.toList hkey (by decide) (by decide),
    String.toList_append]
  rfl

theorem words_aliasLine {name type : String} (hname : IsWord name) (htype : IsTypeWord type) :
    words ("type " ++ name ++ " " ++ type).toList =
      ["type".toList, name.toList, type.toList] := by
  have hrest : (name ++ (" " ++ type)).toList = name.toList ++ ' ' :: type.toList := by simp
  rw [String.append_assoc, String.append_assoc, words_typeLine, hrest,
    Text.words_append_cons _ hname.solid hname.ne_nil (by decide),
    Text.words_of_isSolid htype.solid htype.ne_nil]

/-- A line that names a type does not open a struct. -/
theorem opensStruct_of_alias {name type : String} (htype : IsTypeWord type)
    (hwords : words cs = ["type".toList, name.toList, type.toList]) : opensStruct cs = false := by
  have hstruct : type.toList ≠ "struct\x7b".toList := fun heq =>
    absurd htype.form (by rw [heq]; decide)
  rw [opensStruct, hwords]
  exact Bool.and_eq_false_iff.2 (Or.inr (beq_eq_false_iff_ne.2 hstruct))

end Words

theorem startsFreely_closing : StartsFreely "\x7d".toList := by
  have hwords : words "\x7d".toList = ["\x7d".toList] := by decide
  rw [StartsFreely, hwords]
  decide

/-! ### Lines of items -/

theorem Item.Legible.isPackageClause_eq_false {item : Item} (h : item.Legible)
    (hitem : ∀ name, item ≠ .package name) :
    ∀ l ∈ item.lines, isPackageClause l.toList = false := by
  intro l hl
  cases item with
  | blank =>
    rw [List.mem_singleton.1 hl]
    rfl
  | comment text =>
    rw [List.mem_singleton.1 hl]
    exact (startsFreely_of_isComment h.comment).isPackageClause
  | package name => exact absurd rfl (hitem name)
  | struct name body =>
    rw [Item.lines, List.mem_append, List.mem_cons, List.mem_singleton] at hl
    rcases hl with (rfl | hl) | rfl
    · refine Source.isPackageClause_eq_false ?_
      rw [String.append_assoc, words_typeLine, List.head?_cons]
      decide
    · exact (startsFreely_of_mem_bodyLines h.2 hl).isPackageClause
    · exact startsFreely_closing.isPackageClause
  | «alias» name type =>
    rw [List.mem_singleton.1 hl, String.append_assoc, String.append_assoc]
    refine Source.isPackageClause_eq_false ?_
    rw [words_typeLine, List.head?_cons]
    decide
  | function text =>
    rw [List.mem_singleton.1 hl]
    refine Source.isPackageClause_eq_false ?_
    rw [h.1.head?_words]
    decide

theorem Item.Legible.opensStruct_eq_false {item : Item} (h : item.Legible)
    (hitem : ∀ name body, item ≠ .struct name body) :
    ∀ l ∈ item.lines, opensStruct l.toList = false := by
  intro l hl
  cases item with
  | blank =>
    rw [List.mem_singleton.1 hl]
    rfl
  | comment text =>
    rw [List.mem_singleton.1 hl]
    exact (startsFreely_of_isComment h.comment).opensStruct
  | package name =>
    rw [List.mem_singleton.1 hl]
    refine Source.opensStruct_eq_false ?_
    rw [words_packageLine h, List.head?_cons]
    decide
  | struct name body => exact absurd rfl (hitem name body)
  | «alias» name type =>
    rw [List.mem_singleton.1 hl]
    exact opensStruct_of_alias h.2 (words_aliasLine h.1 h.2)
  | function text =>
    rw [List.mem_singleton.1 hl]
    refine Source.opensStruct_eq_false ?_
    rw [h.1.head?_words]
    decide

theorem Renders.ne_closing {l : BodyLine} {line : String} (h : l.Renders line) :
    line.toList ≠ "\x7d".toList := by
  cases l with
  | blank => simp [show line = "" from h]
  | comment text => simp [show line = "\t" ++ text from h]
  | field f =>
    obtain ⟨nameWidth, typeWidth, -, -, rfl⟩ := h
    rw [fieldText_toList]
    simp

theorem closing_not_mem_bodyLines (body : List BodyLine) :
    "\x7d".toList ∉ (bodyLines body).map String.toList := by
  intro hmem
  obtain ⟨line, hline, hclosing⟩ := List.mem_map.1 hmem
  obtain ⟨l, -, hrenders⟩ := exists_of_forall₂ (renders_bodyLines body) hline
  exact Renders.ne_closing hrenders hclosing

end StructGen.Source
