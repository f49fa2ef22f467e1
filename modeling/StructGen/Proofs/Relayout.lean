import StructGen.Source.Layout
import StructGen.Proofs.SourceLines

/-!
# Reading a source that has been laid out

Laying out a source changes blanks and blank lines only, so what has been read from a source is read
again from its layout, blank lines apart.

* `squeeze` is what happens to blank lines, and blank items;
* `renders_bodyLinesFrom` says which line each line of a struct is written as;
* `Gathers` is how lines are read as items, one case for each kind of line;
* `readItems_sourceText` is the result for whole sources.
-/

namespace StructGen.Source

open Text (IsSolid isBlank stripChars lines unlines)

/-! ### Single blank lines -/

section Squeeze

variable {α β : Type} [DecidableEq α] [DecidableEq β] {blank : α} {xs ys : List α} {b : Bool}

/-- A list without blanks after a blank, `afterBlank` telling whether one stands before it. -/
def squeezeFrom (blank : α) (afterBlank : Bool) : List α → List α
  | [] => []
  | x :: xs =>
    if x = blank then
      if afterBlank then squeezeFrom blank true xs else x :: squeezeFrom blank true xs
    else x :: squeezeFrom blank false xs

/-- A list without a blank at its end. -/
def dropFinal (blank : α) (xs : List α) : List α :=
  if xs.getLast? = some blank then xs.dropLast else xs

/-- A list with single blanks and none at the edges. -/
def squeeze (blank : α) (xs : List α) : List α := dropFinal blank (squeezeFrom blank true xs)

theorem collapseFrom_eq_squeezeFrom (b : Bool) (ls : List String) :
    collapseFrom b ls = squeezeFrom "" b ls := by
  induction ls generalizing b with
  | nil => rfl
  | cons l ls ih =>
    rw [collapseFrom, squeezeFrom, ih, ih]
    split_ifs with hl
    · rfl
    · rw [hl]
    · rfl

theorem collapseBlanks_eq_squeeze (ls : List String) : collapseBlanks ls = squeeze "" ls := by
  rw [collapseBlanks, collapseFrom_eq_squeezeFrom]
  rfl

theorem dropFinal_cons_cons (x y : α) (xs : List α) :
    dropFinal blank (x :: y :: xs) = x :: dropFinal blank (y :: xs) := by
  rw [dropFinal, dropFinal, List.getLast?_cons_cons]
  split_ifs
  · rfl
  · rfl

/-- Lists that correspond item by item still do without their superfluous blanks. -/
theorem squeezeFrom_forall₂ {R : α → β → Prop} {blank' : β} {ys : List β}
    (hR : ∀ x y, R x y → (x = blank ↔ y = blank')) (h : List.Forall₂ R xs ys) (b : Bool) :
    List.Forall₂ R (squeezeFrom blank b xs) (squeezeFrom blank' b ys) := by
  induction h generalizing b with
  | nil => exact .nil
  | @cons x y _ _ hxy _ ih =>
    rw [squeezeFrom, squeezeFrom]
    by_cases hx : x = blank
    · rw [if_pos hx, if_pos ((hR _ _ hxy).1 hx)]
      split_ifs
      · exact ih true
      · exact .cons hxy (ih true)
    · rw [if_neg hx, if_neg (mt (hR _ _ hxy).2 hx)]
      exact .cons hxy (ih false)

theorem dropFinal_forall₂ {R : α → β → Prop} {blank' : β} {ys : List β}
    (hR : ∀ x y, R x y → (x = blank ↔ y = blank')) (h : List.Forall₂ R xs ys) :
    List.Forall₂ R (dropFinal blank xs) (dropFinal blank' ys) := by
  induction h with
  | nil => exact .nil
  | @cons x y _ _ hxy hrest ih =>
    cases hrest with
    | nil =>
      by_cases hx : x = blank
      · simp [dropFinal, hx, (hR _ _ hxy).1 hx]
      · simp [dropFinal, hx, mt (hR _ _ hxy).2 hx, hxy]
    | cons hxy' _ =>
      rw [dropFinal_cons_cons, dropFinal_cons_cons]
      exact .cons hxy ih

theorem squeeze_forall₂ {R : α → β → Prop} {blank' : β} {ys : List β}
    (hR : ∀ x y, R x y → (x = blank ↔ y = blank')) (h : List.Forall₂ R xs ys) :
    List.Forall₂ R (squeeze blank xs) (squeeze blank' ys) :=
  dropFinal_forall₂ hR (squeezeFrom_forall₂ hR h true)

theorem mem_of_mem_squeezeFrom {x : α} (h : x ∈ squeezeFrom blank b xs) : x ∈ xs := by
  induction xs generalizing b with
  | nil => exact h
  | cons y xs ih =>
    rw [squeezeFrom] at h
    split_ifs at h
    · exact List.mem_cons_of_mem y (ih h)
    · exact (List.mem_cons.1 h).elim (· ▸ List.mem_cons_self) fun h => List.mem_cons_of_mem y (ih h)
    · exact (List.mem_cons.1 h).elim (· ▸ List.mem_cons_self) fun h => List.mem_cons_of_mem y (ih h)

theorem mem_of_mem_dropFinal {x : α} (h : x ∈ dropFinal blank xs) : x ∈ xs := by
  rw [dropFinal] at h
  split_ifs at h
  · exact List.mem_of_mem_dropLast h
  · exact h

theorem mem_of_mem_squeeze {x : α} (h : x ∈ squeeze blank xs) : x ∈ xs :=
  mem_of_mem_squeezeFrom (mem_of_mem_dropFinal h)

theorem filter_squeezeFrom {p : α → Bool} (hp : p blank = false) (b : Bool) (xs : List α) :
    (squeezeFrom blank b xs).filter p = xs.filter p := by
  induction xs generalizing b with
  | nil => rfl
  | cons x xs ih =>
    rw [squeezeFrom]
    split_ifs with hx
    · simp [ih, hx, hp]
    · simp [ih, hx, hp]
    · rw [List.filter_cons, List.filter_cons, ih]

theorem filter_dropFinal {p : α → Bool} (hp : p blank = false) (xs : List α) :
    (dropFinal blank xs).filter p = xs.filter p := by
  rw [dropFinal]
  split_ifs with hlast
  · obtain ⟨ys, rfl⟩ := List.getLast?_eq_some_iff.1 hlast
    simp [hp]
  · rfl

/-- Squeezing drops blanks only. -/
theorem filter_squeeze {p : α → Bool} (hp : p blank = false) (xs : List α) :
    (squeeze blank xs).filter p = xs.filter p := by
  rw [squeeze, filter_dropFinal hp, filter_squeezeFrom hp]

/-! #### Lists that are squeezed -/

/-- Whether blanks stand alone in a list, `b` telling whether one stands before it. -/
def Tight (blank : α) : Bool → List α → Prop
  | _, [] => True
  | b, x :: xs => (x = blank → b = false) ∧ Tight blank (decide (x = blank)) xs

theorem tight_squeezeFrom (b : Bool) (xs : List α) : Tight blank b (squeezeFrom blank b xs) := by
  induction xs generalizing b with
  | nil => trivial
  | cons x xs ih =>
    rw [squeezeFrom]
    split_ifs with hx hb
    · exact hb ▸ ih true
    · exact ⟨fun _ => by simpa using hb, by simpa [hx] using ih true⟩
    · exact ⟨fun h => absurd h hx, by simpa [hx] using ih false⟩

theorem Tight.of_append (h : Tight blank b (xs ++ ys)) : Tight blank b xs := by
  induction xs generalizing b with
  | nil => trivial
  | cons x xs ih => exact ⟨h.1, ih h.2⟩

theorem Tight.dropFinal (h : Tight blank b xs) : Tight blank b (dropFinal blank xs) := by
  rw [Source.dropFinal]
  split_ifs
  · rcases xs.eq_nil_or_concat with rfl | ⟨ys, y, rfl⟩
    · trivial
    · rw [List.concat_eq_append, List.dropLast_concat]
      rw [List.concat_eq_append] at h
      exact h.of_append
  · exact h

theorem Tight.mono (h : Tight blank true xs) (b : Bool) : Tight blank b xs := by
  cases xs with
  | nil => trivial
  | cons x xs => exact ⟨fun hx => absurd (h.1 hx) (by decide), h.2⟩

theorem Tight.squeezeFrom_append_cons {x : α} (h : Tight blank b xs) (hx : x ≠ blank)
    (rest : List α) :
    squeezeFrom blank b (xs ++ x :: rest) = xs ++ x :: squeezeFrom blank false rest := by
  induction xs generalizing b with
  | nil => simp [squeezeFrom, hx]
  | cons y xs ih =>
    rw [List.cons_append, squeezeFrom]
    split_ifs with hy hb
    · exact absurd (h.1 hy) (by simp [hb])
    · rw [ih (by simpa [hy] using h.2), List.cons_append]
    · rw [ih (by simpa [hy] using h.2), List.cons_append]

end Squeeze

/-! ### Fields -/

/-- A name of a source does not start as a comment does. -/
theorem IsWord.head {name : String} (h : IsWord name) :
    ∃ c, name.toList.head? = some c ∧ isBlank c = false ∧ c ≠ '/' := by
  have hform := ((Naming.isGoIdentifier_iff h.solid.newline_not_mem).1 h.ident).1
  have hchars := Naming.isNameChar_of_isNameChars hform
  cases hname : name.toList with
  | nil =>
    rw [hname] at hform
    cases hform
  | cons c cs =>
    have hc := hchars c (by simp [hname])
    exact ⟨c, rfl, Naming.isBlank_of_isNameChar hc, Naming.ne_of_isNameChar hc (by decide)⟩

theorem IsWord.ne_nil {name : String} (h : IsWord name) : name.toList ≠ [] := by
  obtain ⟨c, hc, -⟩ := h.head
  rintro hname
  rw [hname] at hc
  cases hc

theorem IsTypeWord.ne_nil {type : String} (h : IsTypeWord type) : type.toList ≠ [] := by
  intro htype
  have := h.form
  rw [htype] at this
  exact absurd this (by decide)

theorem dropWhile_spaces {cs : List Char} {c : Char} (n : Nat) (hcs : cs.head? = some c)
    (hc : isBlank c = false) : (List.replicate n ' ' ++ cs).dropWhile isBlank = cs := by
  obtain ⟨ds, rfl⟩ := List.head?_eq_some_iff.1 hcs
  rw [List.dropWhile_append_of_pos, List.dropWhile_cons_of_neg (by simp [hc])]
  intro d hd
  rw [List.eq_of_mem_replicate hd]
  decide

/-- The type of a field, and its tag in a given column behind the type. -/
def Field.typeAndTag (typeWidth : Nat) (f : Field) : List Char :=
  if f.tag = "" then f.type.toList
  else f.type.toList ++ (List.replicate (typeWidth - f.type.length) ' ' ++ f.tag.toList)

theorem fieldText_toList (f : Field) (nameWidth typeWidth : Nat) :
    (f.text nameWidth typeWidth).toList = '\t' :: (f.name.toList ++
      (List.replicate (nameWidth - f.name.length) ' ' ++ f.typeAndTag typeWidth)) := by
  rw [Field.text, Field.typeAndTag]
  split_ifs <;> simp_all [Text.padRight]

/-- A word, spaces behind it and a text that does not start in a blank. -/
theorem cutWord_spaced {cs ds : List Char} {c : Char} {n : Nat} (hcs : IsSolid cs) (hn : 0 < n)
    (hds : ds.head? = some c) (hc : isBlank c = false) :
    cutWord (cs ++ (List.replicate n ' ' ++ ds)) = (cs, ds) := by
  obtain ⟨m, rfl⟩ := Nat.exists_eq_add_of_lt hn
  rw [Nat.zero_add, List.replicate_succ, List.cons_append, cutWord_append_cons _ hcs (by decide),
    dropWhile_spaces m hds hc]

theorem IsField.head?_typeAndTag {f : Field} (hf : IsField f) (typeWidth : Nat) :
    ∃ c, (f.typeAndTag typeWidth).head? = some c ∧ isBlank c = false := by
  have hhead := List.head?_eq_some_head hf.type.ne_nil
  refine ⟨_, ?_, hf.type.solid _ (List.head_mem hf.type.ne_nil)⟩
  rw [Field.typeAndTag]
  split_ifs
  · exact hhead
  · rw [List.head?_append, hhead]
    rfl

theorem IsField.cutWord_typeAndTag {f : Field} (hf : IsField f) {typeWidth : Nat}
    (htype : f.type.length < typeWidth) :
    cutWord (f.typeAndTag typeWidth) = (f.type.toList, f.tag.toList) := by
  rw [Field.typeAndTag]
  split_ifs with htag
  · rw [cutWord_of_isSolid hf.type.solid, htag, String.toList_empty]
  · obtain ⟨u, hu, -⟩ := exists_of_isBackQuoted (hf.tag.resolve_left htag).1
    exact cutWord_spaced hf.type.solid (by omega) (by rw [hu]; rfl) (by decide)

theorem IsField.getLast?_typeAndTag {f : Field} (hf : IsField f) (typeWidth : Nat) :
    ∃ c, (f.typeAndTag typeWidth).getLast? = some c ∧ isBlank c = false := by
  rw [Field.typeAndTag]
  split_ifs with htag
  · have hlast := List.getLast?_eq_some_getLast hf.type.ne_nil
    exact ⟨_, hlast, hf.type.solid _ (List.mem_of_getLast? hlast)⟩
  · obtain ⟨u, -, hlast⟩ := exists_of_isBackQuoted (hf.tag.resolve_left htag).1
    refine ⟨'\x60', ?_, by decide⟩
    rw [List.getLast?_append, List.getLast?_append, hlast]
    rfl

/-- The line of a field is read as that field. -/
theorem readBodyLine_fieldText {f : Field} (hf : IsField f) {nameWidth typeWidth : Nat}
    (hname : f.name.length < nameWidth) (htype : f.type.length < typeWidth) (n : Nat) :
    readBodyLine n (stripChars (f.text nameWidth typeWidth).toList) = .ok (.field f) := by
  obtain ⟨b, hb, hblank, hslash⟩ := hf.name.head
  obtain ⟨c, hc, hcblank⟩ := hf.head?_typeAndTag typeWidth
  obtain ⟨d, hd, hdblank⟩ := hf.getLast?_typeAndTag typeWidth
  have hstart : (f.name.toList ++ (List.replicate (nameWidth - f.name.length) ' ' ++
      f.typeAndTag typeWidth)).head? = some b := by
    rw [List.head?_append, hb]
    rfl
  have hend : (f.name.toList ++ (List.replicate (nameWidth - f.name.length) ' ' ++
      f.typeAndTag typeWidth)).getLast? = some d := by
    rw [List.getLast?_append, List.getLast?_append, hd]
    rfl
  have hcut := cutWord_spaced (n := nameWidth - f.name.length) hf.name.solid (by omega) hc hcblank
  rw [fieldText_toList, Text.stripChars_cons_of_blank _ (by decide),
    Text.stripChars_eq_self hstart hblank hend hdblank, readBodyLine_eq_readField hstart hslash]
  refine map_eq_ok.2 ⟨f, (readField_eq_ok hcut (hf.cutWord_typeAndTag htype)).2 ?_, rfl⟩
  simp only [String.ofList_toList, and_true]
  refine ⟨?_, hf.name.ident, hf.type.form, hf.tag.imp_left fun h => by rw [h, String.toList_empty]⟩
  intro hnil
  rw [hnil] at hc
  cases hc

/-! ### Lines of a struct -/

/-- A comment that is read as itself. -/
structure IsCommentText (text : String) : Prop where
  comment : IsComment text.toList
  stripped : stripChars text.toList = text.toList
  newline : '\n' ∉ text.toList

/-- A line of a struct that is read as itself. -/
def BodyLine.Legible : BodyLine → Prop
  | .blank => True
  | .comment text => IsCommentText text ∧ "//".toList <+: text.toList
  | .field f => IsField f ∧ '\n' ∉ f.tag.toList

/-- How a line of a struct is written. -/
def BodyLine.Renders : BodyLine → String → Prop
  | .blank, line => line = ""
  | .comment text, line => line = "\t" ++ text
  | .field f, line => ∃ nameWidth typeWidth, f.name.length < nameWidth ∧ f.type.length < typeWidth ∧
      line = f.text nameWidth typeWidth

theorem length_le_maxLength {text : String} {texts : List String} (h : text ∈ texts) :
    text.length ≤ maxLength texts := by
  rw [maxLength, List.foldl_eq_foldr]
  exact List.le_max_of_le' 0 (List.mem_map_of_mem h) le_rfl

theorem renders_alignRun (run : List Field) :
    List.Forall₂ BodyLine.Renders (run.map BodyLine.field) (alignRun run) := by
  rw [alignRun, List.forall₂_map_left_iff, List.forall₂_map_right_iff, List.forall₂_same]
  intro f hf
  refine ⟨_, _, Nat.lt_succ_of_le ?_, Nat.lt_succ_of_le ?_, rfl⟩
  · exact length_le_maxLength (List.mem_map_of_mem hf)
  · exact length_le_maxLength (List.mem_map_of_mem hf)

/-- Every line of a struct is written as one line, fields in runs whose columns are aligned. -/
theorem renders_bodyLinesFrom (run : List Field) (body : List BodyLine) :
    List.Forall₂ BodyLine.Renders (run.reverse.map BodyLine.field ++ body)
      (bodyLinesFrom run body) := by
  induction body generalizing run with
  | nil =>
    rw [List.append_nil]
    exact renders_alignRun run.reverse
  | cons l body ih =>
    cases l with
    | blank => exact List.rel_append (renders_alignRun run.reverse) (.cons rfl (ih []))
    | comment text => exact List.rel_append (renders_alignRun run.reverse) (.cons rfl (ih []))
    | field f =>
      have h := ih (f :: run)
      rw [List.reverse_cons, List.map_append, List.append_assoc] at h
      exact h

theorem Renders.blank_iff {l : BodyLine} {line : String} (h : l.Renders line) :
    l = .blank ↔ line = "" := by
  cases l with
  | blank => simp [show line = "" from h]
  | comment text =>
    have hline : line = "\t" ++ text := h
    simp [hline]
  | field f =>
    obtain ⟨nameWidth, typeWidth, -, -, rfl⟩ := h
    rw [Field.text]
    split_ifs <;> simp

/-- The lines of a struct, blank ones apart. -/
theorem renders_bodyLines (body : List BodyLine) :
    List.Forall₂ BodyLine.Renders (squeeze BodyLine.blank body) (bodyLines body) := by
  rw [bodyLines, collapseBlanks_eq_squeeze]
  exact squeeze_forall₂ (fun _ _ => Renders.blank_iff) (renders_bodyLinesFrom [] body)

theorem newline_not_mem_fieldText {f : Field} (hf : IsField f) (htag : '\n' ∉ f.tag.toList)
    (nameWidth typeWidth : Nat) : '\n' ∉ (f.text nameWidth typeWidth).toList := by
  have hname := hf.name.solid.newline_not_mem
  have htype := hf.type.solid.newline_not_mem
  rw [fieldText_toList, Field.typeAndTag]
  split_ifs
  · simp [hname, htype]
  · simp [hname, htype, htag]

/-- A line of a struct is read as it was. -/
theorem Renders.readBodyLine {l : BodyLine} {line : String} (h : l.Renders line) (hl : l.Legible) :
    '\n' ∉ line.toList ∧ ∀ n, readBodyLine n (stripChars line.toList) = .ok l := by
  cases l with
  | blank =>
    rw [show line = "" from h]
    exact ⟨by simp, fun n => rfl⟩
  | comment text =>
    obtain ⟨⟨-, hstrip, hnewline⟩, ds, hds⟩ := hl
    have hline : line.toList = '\t' :: text.toList := by simp [show line = "\t" ++ text from h]
    refine ⟨by simp [hline, hnewline], fun n => ?_⟩
    rw [hline, Text.stripChars_cons_of_blank _ (by decide), hstrip]
    have hread := readBodyLine_comment (n := n) ds
    rwa [show '/' :: '/' :: ds = text.toList from hds, String.ofList_toList] at hread
  | field f =>
    obtain ⟨nameWidth, typeWidth, hname, htype, rfl⟩ := h
    exact ⟨newline_not_mem_fieldText hl.1 hl.2 _ _, readBodyLine_fieldText hl.1 hname htype⟩

theorem ne_brace_of_readBodyLine {cs : List Char} {l : BodyLine} {n : Nat}
    (h : Source.readBodyLine n cs = .ok l) : cs ≠ "\x7d".toList := by
  rintro rfl
  cases h

theorem bodyReadsAs_of_renders {body : List BodyLine} {texts : List String}
    (h : List.Forall₂ BodyLine.Renders body texts) (hbody : ∀ l ∈ body, l.Legible) :
    BodyReadsAs True (texts.map String.toList) body := by
  induction h with
  | nil => exact BodyReadsAs.nil
  | @cons l text body texts hl _ ih =>
    obtain ⟨-, hread⟩ := Renders.readBodyLine hl (hbody _ List.mem_cons_self)
    have hline : BodyReadsAs True [text.toList] [l] :=
      BodyReadsAs.line (ne_brace_of_readBodyLine (hread 0)) fun n l' => by simp [hread, eq_comm]
    exact (hline.append (ih fun l hl => hbody l (List.mem_cons_of_mem _ hl))).congr (by simp)

/-! ### Items -/

/-- An item that is read as itself, blank lines of structs apart. -/
def Item.Legible : Item → Prop
  | .blank => True
  | .comment text => IsCommentText text
  | .package name => IsWord name
  | .struct name body => IsWord name ∧ ∀ l ∈ body, l.Legible
  | .alias name type => IsWord name ∧ IsTypeWord type
  | .function text => IsFunction text.toList ∧ '\n' ∉ text.toList

/-- An item with single blank lines. -/
def Item.tidy : Item → Item
  | .struct name body => .struct name (squeeze .blank body)
  | item => item

/-- Whether an item can stand where `p` tells whether the package clause stands before it. -/
def Item.Fits (p : Bool) : Item → Prop
  | .blank | .comment _ => True
  | .package _ => p = false
  | _ => p = true

/-- Whether the package clause stands behind an item. -/
def Item.packaged (p : Bool) : Item → Bool
  | .package _ => true
  | _ => p

theorem Item.Legible.newline_not_mem {item : Item} (h : item.Legible) :
    ∀ l ∈ item.lines, '\n' ∉ l.toList := by
  cases item with
  | blank => simp [Item.lines]
  | comment text => simpa [Item.lines] using h.newline
  | package name => simp [Item.lines, h.solid.newline_not_mem]
  | struct name body =>
    intro l hl
    rw [Item.lines, List.mem_append, List.mem_cons, List.mem_singleton] at hl
    rcases hl with (rfl | hl) | rfl
    · simp [h.1.solid.newline_not_mem]
    · obtain ⟨line, hline, hrenders⟩ := exists_of_forall₂ (renders_bodyLines body) hl
      exact (Renders.readBodyLine hrenders (h.2 line (mem_of_mem_squeeze hline))).1
    · decide
  | «alias» name type =>
    simp [Item.lines, h.1.solid.newline_not_mem, h.2.solid.newline_not_mem]
  | function text => simpa [Item.lines] using h.2

/-- The lines of an item are read as that item. -/
theorem Item.Legible.readsAs {item : Item} (h : item.Legible) {p : Bool} (hp : item.Fits p) :
    ReadsAs p (item.packaged p) True (item.lines.map String.toList) [item.tidy] := by
  cases item with
  | blank => exact ReadsAs.blank
  | comment text => exact ReadsAs.comment h.comment h.stripped
  | package name =>
    subst hp
    have hne : name ≠ "" := fun hname => h.ne_nil (by rw [hname, String.toList_empty])
    have hchars : ("package " ++ name).toList = "package ".toList ++ name.toList :=
      String.toList_append
    rw [Item.lines, List.map_singleton, hchars]
    exact (ReadsAs.package h.solid hne).congr (by simp [h.ident])
  | struct name body =>
    subst hp
    have hbody := bodyReadsAs_of_renders (renders_bodyLines body) fun l hl =>
      h.2 l (mem_of_mem_squeeze hl)
    have hlines : (Item.struct name body).lines.map String.toList =
        ("type ".toList ++ (name.toList ++ " struct \x7b".toList)) ::
          ((bodyLines body).map String.toList ++ ["\x7d".toList]) := by
      simp [Item.lines]
    rw [hlines]
    exact (ReadsAs.struct h.1.solid hbody).congr (by simp [h.1.ident])
  | «alias» name type =>
    subst hp
    have hstruct : type ≠ "struct\x7b" := by
      rintro rfl
      exact absurd h.2.form (by decide)
    have hlines : (Item.alias name type).lines.map String.toList =
        ["type ".toList ++ (name.toList ++ ' ' :: type.toList)] := by
      simp [Item.lines]
    rw [hlines]
    exact (ReadsAs.alias h.1.solid h.2.solid h.2.ne_nil hstruct).congr (by simp [h.1.ident, h.2.form])
  | function text =>
    subst hp
    exact ReadsAs.function h.1

/-- Items that can be read one after the other, `p` telling whether the package clause stands before
them. -/
def Legible (p : Bool) : List Item → Prop
  | [] => p = true
  | item :: items => item.Legible ∧ item.Fits p ∧ Legible (item.packaged p) items

/-! ### Lines one after another -/

/-- How lines are read as items, line by line. The line number, whether the package clause stands
before them and the struct that is open are those of `readLines`. -/
inductive Gathers : Nat → Bool → Option OpenStruct → List (List Char) → List Item → Prop
  | nil {n : Nat} : Gathers n true none [] []
  | closes {n : Nat} {p : Bool} {s : OpenStruct} {ls : List (List Char)} {items : List Item}
      (h : Gathers (n + 1) p none ls items) :
      Gathers n p (some s) ("\x7d".toList :: ls) (.struct s.name s.body.reverse :: items)
  | body {n : Nat} {p : Bool} {s : OpenStruct} {cs : List Char} {l : BodyLine}
      {ls : List (List Char)} {items : List Item} (hbrace : cs ≠ "\x7d".toList)
      (hl : readBodyLine n cs = .ok l)
      (h : Gathers (n + 1) p (some { s with body := l :: s.body }) ls items) :
      Gathers n p (some s) (cs :: ls) items
  | opens {n : Nat} {p : Bool} {name : String} {cs : List Char} {ls : List (List Char)}
      {items : List Item} (ht : readTopLine n p cs = .ok (.opens name))
      (h : Gathers (n + 1) p (some ⟨n, name, []⟩) ls items) : Gathers n p none (cs :: ls) items
  | item {n : Nat} {p : Bool} {item : Item} {cs : List Char} {ls : List (List Char)}
      {items : List Item} (ht : readTopLine n p cs = .ok (.item item))
      (h : Gathers (n + 1) (item.packaged p) none ls items) :
      Gathers n p none (cs :: ls) (item :: items)

/-- Lines that are accepted are read line by line. -/
theorem gathers_of_readLines {n : Nat} {p : Bool} {opened : Option OpenStruct}
    {ls : List (List Char)} {items : List Item} (h : readLines n p opened ls = .ok items) :
    Gathers n p opened ls items := by
  induction ls generalizing n p opened items with
  | nil =>
    cases opened with
    | some s => cases h
    | none =>
      rw [readLines] at h
      split_ifs at h with hp
      cases h
      exact hp ▸ .nil
  | cons cs ls ih =>
    cases opened with
    | some s =>
      rw [readLines] at h
      split_ifs at h with hbrace
      · obtain ⟨rest, hrest, h⟩ := bind_eq_ok.1 h
        cases h
        rw [eq_of_beq hbrace]
        exact .closes (ih hrest)
      · obtain ⟨l, hl, h⟩ := bind_eq_ok.1 h
        exact .body (by simpa using hbrace) hl (ih h)
    | none =>
      rw [readLines] at h
      obtain ⟨t, ht, h⟩ := bind_eq_ok.1 h
      cases t with
      | opens name => exact .opens ht (ih h)
      | item item =>
        cases item with
        | _ =>
          obtain ⟨rest, hrest, h⟩ := bind_eq_ok.1 h
          cases h
          exact .item ht (ih hrest)

/-! ### Sources -/

theorem isCommentText_ofList {cs : List Char} (h : IsComment cs) (hstrip : stripChars cs = cs)
    (hnewline : '\n' ∉ cs) : IsCommentText (String.ofList cs) := by
  constructor
  · rwa [String.toList_ofList]
  · rwa [String.toList_ofList]
  · rwa [String.toList_ofList]

/-- What is read from a line of a struct is legible. -/
theorem legible_of_readBodyLine {n : Nat} {cs : List Char} {l : BodyLine}
    (hstrip : stripChars cs = cs) (hnewline : '\n' ∉ cs) (h : readBodyLine n cs = .ok l) :
    l.Legible := by
  rcases readBodyLine_ok_cases h with ⟨-, rfl⟩ | ⟨hslash, rfl⟩ | ⟨f, hf, htag, rfl⟩
  · trivial
  · have hchars : (String.ofList cs).toList = cs := String.toList_ofList
    exact ⟨isCommentText_ofList (Or.inl hslash) hstrip hnewline, by rwa [hchars]⟩
  · exact ⟨hf, fun h => hnewline (htag _ h)⟩

/-- A line that opens a struct stands behind the package clause. -/
theorem opensWith_of_readTopLine {n : Nat} {p : Bool} {cs : List Char} {name : String}
    (h : readTopLine n p cs = .ok (.opens name)) :
    p = true ∧ IsWord name ∧ OpensWith name cs := by
  rcases readTopLine_ok_cases h with ⟨-, heq⟩ | ⟨-, heq⟩ | ⟨-, _, -, -, heq⟩ |
    ⟨hp, ⟨_, hname, hopens, heq⟩ | ⟨_, _, -, -, -, heq⟩ | ⟨-, heq⟩⟩
  · cases heq
  · cases heq
  · cases heq
  · cases heq
    exact ⟨hp, hname, hopens⟩
  · cases heq
  · cases heq

/-- What is read from a line outside structs is legible, and in its place. -/
theorem legible_of_readTopLine {n : Nat} {p : Bool} {cs : List Char} {item : Item}
    (hstrip : stripChars cs = cs) (hnewline : '\n' ∉ cs)
    (h : readTopLine n p cs = .ok (.item item)) : item.Legible ∧ item.Fits p := by
  have hchars : (String.ofList cs).toList = cs := String.toList_ofList
  rcases readTopLine_ok_cases h with ⟨-, heq⟩ | ⟨hcomment, heq⟩ | ⟨hp, name, hname, -, heq⟩ |
    ⟨hp, ⟨name, -, -, heq⟩ | ⟨name, type, hname, htype, -, heq⟩ | ⟨hfunction, heq⟩⟩
  · cases heq
    exact ⟨trivial, trivial⟩
  · cases heq
    exact ⟨isCommentText_ofList hcomment hstrip hnewline, trivial⟩
  · cases heq
    exact ⟨hname, hp⟩
  · cases heq
  · cases heq
    exact ⟨⟨hname, htype⟩, hp⟩
  · cases heq
    refine ⟨⟨?_, ?_⟩, hp⟩
    · rwa [hchars]
    · rwa [hchars]

/-- A struct that is being read. -/
structure OpenStruct.Legible (s : OpenStruct) : Prop where
  name : IsWord s.name
  body : ∀ l ∈ s.body, l.Legible

/-- What is read from lines is legible. -/
theorem Gathers.legible {n : Nat} {p : Bool} {opened : Option OpenStruct} {ls : List (List Char)}
    {items : List Item} (h : Gathers n p opened ls items)
    (hls : ∀ cs ∈ ls, stripChars cs = cs ∧ '\n' ∉ cs)
    (hopened : ∀ s ∈ opened, p = true ∧ s.Legible) : Legible p items := by
  induction h with
  | nil => rfl
  | closes _ ih =>
    obtain ⟨rfl, hstruct⟩ := hopened _ rfl
    have hbody := fun l hl => hstruct.body l (List.mem_reverse.1 hl)
    exact ⟨⟨hstruct.name, hbody⟩, rfl, ih (List.forall_mem_cons.1 hls).2 (by simp)⟩
  | body _ hl _ ih =>
    obtain ⟨rfl, hstruct⟩ := hopened _ rfl
    obtain ⟨⟨hstrip, hnewline⟩, hls⟩ := List.forall_mem_cons.1 hls
    refine ih hls fun s hs => ?_
    cases hs
    have hline := legible_of_readBodyLine hstrip hnewline hl
    exact ⟨rfl, hstruct.name, List.forall_mem_cons.2 ⟨hline, hstruct.body⟩⟩
  | opens ht _ ih =>
    obtain ⟨rfl, hname, -⟩ := opensWith_of_readTopLine ht
    refine ih (List.forall_mem_cons.1 hls).2 fun s hs => ?_
    cases hs
    exact ⟨rfl, hname, by simp⟩
  | item ht _ ih =>
    obtain ⟨⟨hstrip, hnewline⟩, hls⟩ := List.forall_mem_cons.1 hls
    obtain ⟨hitem, hfits⟩ := legible_of_readTopLine hstrip hnewline ht
    exact ⟨hitem, hfits, ih hls (by simp)⟩

theorem legible_of_readItems {source : String} {items : List Item}
    (h : readItems source = .ok items) : Legible false items := by
  refine (gathers_of_readLines h).legible (fun cs hcs => ?_) (by simp)
  obtain ⟨line, hline, rfl⟩ := List.mem_map.1 hcs
  refine ⟨Text.stripChars_stripChars line, fun hmem => ?_⟩
  exact (Text.mem_of_mem_splitOn hline (Text.mem_of_mem_stripChars hmem)).2 rfl

/-- Legible items are read as they are, blank lines of structs apart. -/
theorem Legible.readsAs {p : Bool} {items : List Item} (h : Legible p items) :
    ReadsAs p true True ((sourceLines items).map String.toList) (items.map Item.tidy) := by
  induction items generalizing p with
  | nil =>
    rw [show p = true from h]
    exact ReadsAs.nil
  | cons item items ih =>
    obtain ⟨hitem, hfits, hitems⟩ := h
    rw [sourceLines, List.flatMap_cons, List.map_append]
    exact ((hitem.readsAs hfits).append fun _ => ih hitems).congr (by simp)

/-! #### Blank lines of sources -/

/-- Lines that squeezing leaves alone: they start and end in lines that are not blank. -/
structure IsBlock (ls : List String) : Prop where
  squeezeFrom : ∀ b rest, squeezeFrom "" b (ls ++ rest) = ls ++ squeezeFrom "" false rest
  last : ∃ before last, ls = before ++ [last] ∧ last ≠ ""

theorem isBlock_singleton {l : String} (h : l ≠ "") : IsBlock [l] :=
  ⟨fun b rest => by simp [Source.squeezeFrom, h], [], l, rfl, h⟩

theorem Item.Legible.isBlock {item : Item} (h : item.Legible) (hne : item ≠ .blank) :
    IsBlock item.lines := by
  cases item with
  | blank => exact absurd rfl hne
  | comment text =>
    refine isBlock_singleton ?_
    rintro rfl
    exact absurd h.comment (by simp [IsComment])
  | package name => exact isBlock_singleton (by simp)
  | struct name body =>
    have hopen : "type " ++ name ++ " struct \x7b" ≠ "" := by simp
    have htight : Tight "" false (bodyLines body) := by
      rw [bodyLines, collapseBlanks_eq_squeeze]
      exact (tight_squeezeFrom true _).dropFinal.mono false
    refine ⟨fun b rest => ?_, ("type " ++ name ++ " struct \x7b") :: bodyLines body, "\x7d", rfl,
      by decide⟩
    have hbrace := htight.squeezeFrom_append_cons (x := "\x7d") (by decide) rest
    rw [Item.lines, List.append_assoc, List.cons_append, List.singleton_append, Source.squeezeFrom,
      if_neg hopen, hbrace]
    simp
  | «alias» name type => exact isBlock_singleton (by simp)
  | function text =>
    refine isBlock_singleton ?_
    rintro rfl
    exact absurd h.1.last (by simp)

theorem squeezeFrom_sourceLines {items : List Item} (h : ∀ item ∈ items, item.Legible) (b : Bool) :
    squeezeFrom "" b (sourceLines items) = sourceLines (squeezeFrom .blank b items) := by
  induction items generalizing b with
  | nil => rfl
  | cons item items ih =>
    have ih := ih fun item hitem => h item (List.mem_cons_of_mem _ hitem)
    have hlines : sourceLines (item :: items) = item.lines ++ sourceLines items := List.flatMap_cons
    rw [hlines, squeezeFrom]
    by_cases hblank : item = .blank
    · subst hblank
      rw [if_pos rfl]
      change squeezeFrom "" b ("" :: sourceLines items) = _
      rw [squeezeFrom, if_pos rfl, ih]
      split_ifs
      · rfl
      · rfl
    · rw [if_neg hblank, ((h item List.mem_cons_self).isBlock hblank).squeezeFrom, ih]
      rfl

theorem dropFinal_sourceLines {items : List Item} (h : ∀ item ∈ items, item.Legible) :
    dropFinal "" (sourceLines items) = sourceLines (dropFinal .blank items) := by
  rcases items.eq_nil_or_concat with rfl | ⟨before, item, rfl⟩
  · rfl
  · rw [List.concat_eq_append] at h ⊢
    have hlines : sourceLines (before ++ [item]) = sourceLines before ++ item.lines := by
      simp [sourceLines]
    by_cases hblank : item = .blank
    · subst hblank
      have hblanks : sourceLines (before ++ [.blank]) = sourceLines before ++ [""] := hlines
      simp [dropFinal, hblanks]
    · obtain ⟨ls, l, hls, hl⟩ := ((h item (by simp)).isBlock hblank).last
      have hsource : (sourceLines (before ++ [item])).getLast? = some l := by
        rw [hlines, hls]
        simp
      have hitem : (before ++ [item]).getLast? = some item := by simp
      rw [dropFinal, dropFinal, hsource, hitem, if_neg (by simpa using hl), if_neg (by simpa using hblank)]

/-- Blank lines of a source are those of its items. -/
theorem collapseBlanks_sourceLines {items : List Item} (h : ∀ item ∈ items, item.Legible) :
    collapseBlanks (sourceLines items) = sourceLines (squeeze .blank items) := by
  rw [collapseBlanks_eq_squeeze, squeeze, squeezeFrom_sourceLines h, squeeze,
    dropFinal_sourceLines fun item hitem => h item (mem_of_mem_squeezeFrom hitem)]

theorem Legible.forall {p : Bool} {items : List Item} (h : Legible p items) :
    ∀ item ∈ items, item.Legible := by
  induction items generalizing p with
  | nil => simp
  | cons item items ih => exact List.forall_mem_cons.2 ⟨h.1, ih h.2.2⟩

theorem legible_squeezeFrom {p : Bool} {items : List Item} (h : Legible p items) (b : Bool) :
    Legible p (squeezeFrom .blank b items) := by
  induction items generalizing p b with
  | nil => exact h
  | cons item items ih =>
    rw [squeezeFrom]
    split_ifs with hitem
    · subst hitem
      exact ih h.2.2 true
    · exact ⟨h.1, h.2.1, ih h.2.2 true⟩
    · exact ⟨h.1, h.2.1, ih h.2.2 false⟩

theorem Legible.of_append_blank {p : Bool} {items : List Item} (h : Legible p (items ++ [.blank])) :
    Legible p items := by
  induction items generalizing p with
  | nil => exact h.2.2
  | cons item items ih => exact ⟨h.1, h.2.1, ih h.2.2⟩

theorem legible_squeeze {p : Bool} {items : List Item} (h : Legible p items) :
    Legible p (squeeze .blank items) := by
  have h := legible_squeezeFrom h true
  rw [squeeze, dropFinal]
  split_ifs with hlast
  · obtain ⟨before, hbefore⟩ := List.getLast?_eq_some_iff.1 hlast
    rw [hbefore] at h ⊢
    rw [List.dropLast_concat]
    exact h.of_append_blank
  · exact h

theorem Item.lines_ne_nil (item : Item) : item.lines ≠ [] := by
  cases item <;> simp [Item.lines]

theorem Legible.sourceLines_ne_nil {items : List Item} (h : Legible false items) :
    sourceLines items ≠ [] := by
  cases items with
  | nil => cases h
  | cons item items =>
    rw [sourceLines, List.flatMap_cons]
    exact fun hnil => item.lines_ne_nil (List.append_eq_nil_iff.1 hnil).1

/-- The lines of legible items are written with a line feed after each. -/
theorem Legible.sourceText_eq_unlines {items : List Item} (h : Legible false items) :
    sourceText items = unlines (sourceLines (squeeze .blank items)) := by
  rw [sourceText, collapseBlanks_sourceLines h.forall,
    Text.joinWith_append_newline (legible_squeeze h).sourceLines_ne_nil]

theorem Legible.newline_not_mem {items : List Item} (h : Legible false items) :
    ∀ l ∈ sourceLines (squeeze .blank items), '\n' ∉ l.toList := by
  intro l hl
  obtain ⟨item, hitem, hl⟩ := List.mem_flatMap.1 hl
  exact ((legible_squeeze h).forall item hitem).newline_not_mem l hl

/-- Legible items have the lines that they are written as. -/
theorem Legible.lines_sourceText {items : List Item} (h : Legible false items) :
    lines (sourceText items) =
      (sourceLines (squeeze .blank items)).map String.toList ++ [[]] := by
  rw [h.sourceText_eq_unlines, Text.lines_unlines, List.map_eq_flatMap]
  congr 1
  exact List.flatMap_congr fun l hl => Text.lines_of_not_mem (h.newline_not_mem l hl)

/-- **What a source is read as once it has been laid out**: its items with single blank lines, and
the empty line at the end. -/
theorem readItems_sourceText {source : String} {items : List Item}
    (h : readItems source = .ok items) :
    readItems (sourceText items) = .ok ((squeeze .blank items).map Item.tidy ++ [.blank]) := by
  have hlegible := legible_of_readItems h
  have hreads : ReadsAs false true True (Text.lines (sourceText items))
      ((squeeze .blank items).map Item.tidy ++ [.blank]) := by
    rw [hlegible.lines_sourceText]
    exact ((legible_squeeze hlegible).readsAs.append fun _ => ReadsAs.blank).congr (by simp)
  exact (readItems_eq_ok_iff hreads).2 ⟨trivial, rfl⟩

end StructGen.Source
