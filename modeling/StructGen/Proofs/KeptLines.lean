import StructGen.Proofs.CanonicalLayout

/-!
# What a layout keeps

Laying out moves blanks and nothing else: the lines of a source that are not blank are those of its
layout, one by one and in order. A line keeps its characters other than blanks and its tag, and a
comment or a function is written as it is, in structs behind a tab.

* `placed` tells which lines stand in a struct, and `KeptAs` what becomes of a line;
* `keptAs_of_readTopLine` and `keptAs_of_renders` compare a line with what is written for it;
* `format_keeps_lines` is the result.
-/

namespace StructGen.Source

open Text (IsSolid isBlank stripChars words lines)

/-! ### Lines and their places -/

/-- The lines of a source, each with its place: whether it is a line of a struct body. -/
def placed (inside : Bool) : List (List Char) → List (Bool × List Char)
  | [] => []
  | cs :: ls =>
    if inside then
      if cs = "\x7d".toList then (false, cs) :: placed false ls else (true, cs) :: placed true ls
    else (false, cs) :: placed (opensStruct cs) ls

/-- The lines of a source that are not blank, without the blanks around them. -/
def contentLines (source : String) : List (Bool × List Char) :=
  (placed false ((lines source).map stripChars)).filter (!·.2.isEmpty)

/-- The lines of a text that are not blank. -/
def writtenLines (text : String) : List (List Char) :=
  (lines text).filter fun l => !(stripChars l).isEmpty

/-- Whether a line is a comment or declares a function. -/
def isVerbatim (cs : List Char) : Bool :=
  "//".toList.isPrefixOf cs || "/*".toList.isPrefixOf cs ||
    (words cs).head? == some "func".toList

/-- How a line may be written: comments and functions as they are, in structs behind a tab, and
other lines with other blanks before their tag. -/
structure KeptAs (line : Bool × List Char) (written : List Char) : Prop where
  verbatim : isVerbatim line.2 = true → written = if line.1 then '\t' :: line.2 else line.2
  chars : written.filter (!isBlank ·) = line.2.filter (!isBlank ·)
  tag : written.dropWhile (· ≠ '\x60') = line.2.dropWhile (· ≠ '\x60')

/-! ### Lines by themselves -/

section Line

variable {cs out : List Char} {inside : Bool} {n : Nat}

theorem isVerbatim_eq_false {w : List Char} (hw : (words cs).head? = some w)
    (hfunc : w ≠ "func".toList) (hslash : w.head? ≠ some '/') : isVerbatim cs = false := by
  have hstart : ∀ ds, cs ≠ '/' :: ds := by
    rintro ds rfl
    obtain ⟨u, ws, hwords⟩ := Text.exists_words_cons (c := '/') ds (by decide)
    rw [hwords, List.head?_cons] at hw
    exact hslash (by rw [← Option.some.inj hw]; rfl)
  have hprefix : ∀ d, ['/', d].isPrefixOf cs = false := fun d => by
    rw [Bool.eq_false_iff, Ne, List.isPrefixOf_iff_prefix]
    rintro ⟨ds, rfl⟩
    exact hstart _ rfl
  have hhead : ((words cs).head? == some "func".toList) = false := by
    rw [hw, beq_eq_false_iff_ne]
    exact fun h => hfunc (Option.some.inj h)
  rw [isVerbatim, hhead, show "//".toList = ['/', '/'] from rfl, hprefix,
    show "/*".toList = ['/', '*'] from rfl, hprefix]
  rfl

theorem keptAs_self (cs : List Char) : KeptAs (false, cs) cs := ⟨fun _ => rfl, rfl, rfl⟩

theorem keptAs_behind_tab (cs : List Char) : KeptAs (true, cs) ('\t' :: cs) := by
  refine ⟨fun _ => rfl, ?_, ?_⟩
  · rw [List.filter_cons_of_neg (by decide)]
  · rw [List.dropWhile_cons_of_pos (by decide)]

theorem dropWhile_eq_nil_of_not_mem (h : '\x60' ∉ cs) : cs.dropWhile (· ≠ '\x60') = [] := by
  rw [List.dropWhile_eq_nil_iff]
  intro c hc
  simpa using fun hquote : c = '\x60' => h (hquote ▸ hc)

/-- A line without a tag is kept if its words are, put together. -/
theorem keptAs_of_words {w : List Char} (hw : (words cs).head? = some w)
    (hfunc : w ≠ "func".toList) (hslash : w.head? ≠ some '/')
    (hwords : (words out).flatten = (words cs).flatten) (hquote : '\x60' ∉ (words cs).flatten) :
    KeptAs (inside, cs) out := by
  have hblank : isBlank '\x60' = false := by decide
  refine ⟨fun hverbatim => ?_, ?_, ?_⟩
  · rw [isVerbatim_eq_false hw hfunc hslash] at hverbatim
    cases hverbatim
  · rw [← Text.flatten_words, ← Text.flatten_words, hwords]
  · rw [dropWhile_eq_nil_of_not_mem, dropWhile_eq_nil_of_not_mem]
    · rwa [← Text.mem_flatten_words hblank]
    · rwa [← Text.mem_flatten_words hblank, hwords]

/-! #### Fields -/

/-- A text is its first word, a gap and what is cut off. -/
theorem exists_gap (cs : List Char) : IsSolid (cutWord cs).1 ∧
    ∃ gap, cs = (cutWord cs).1 ++ (gap ++ (cutWord cs).2) ∧ (∀ c ∈ gap, isBlank c = true) ∧
      (gap = [] → (cutWord cs).2 = []) := by
  have hsolid : IsSolid (cutWord cs).1 := by
    intro c hc
    simpa using List.mem_takeWhile_imp hc
  refine ⟨hsolid, (cs.dropWhile (!isBlank ·)).takeWhile isBlank, ?_, ?_, ?_⟩
  · rw [cutWord, List.takeWhile_append_dropWhile, List.takeWhile_append_dropWhile]
  · exact fun c hc => List.mem_takeWhile_imp hc
  · intro hgap
    cases hrest : cs.dropWhile (!isBlank ·) with
    | nil => rw [cutWord, hrest, List.dropWhile_nil]
    | cons c ds =>
      have hc := List.head?_dropWhile_not (!isBlank ·) cs
      rw [hrest, List.head?_cons] at hc
      rw [hrest, List.takeWhile_cons_of_pos (by simpa using hc)] at hgap
      cases hgap

theorem filter_word_append {gap : List Char} (hcs : IsSolid cs)
    (hgap : ∀ c ∈ gap, isBlank c = true) (rest : List Char) :
    (cs ++ (gap ++ rest)).filter (!isBlank ·) = cs ++ rest.filter (!isBlank ·) := by
  have hword : cs.filter (!isBlank ·) = cs :=
    List.filter_eq_self.2 fun c hc => by simp [hcs c hc]
  have hblanks : gap.filter (!isBlank ·) = [] :=
    List.filter_eq_nil_iff.2 fun c hc => by simp [hgap c hc]
  rw [List.filter_append, List.filter_append, hword, hblanks, List.nil_append]

theorem dropWhile_word_append {gap : List Char} (hcs : '\x60' ∉ cs)
    (hgap : ∀ c ∈ gap, isBlank c = true) (rest : List Char) :
    (cs ++ (gap ++ rest)).dropWhile (· ≠ '\x60') = rest.dropWhile (· ≠ '\x60') := by
  have hquote : '\x60' ∉ gap := fun hmem => absurd (hgap _ hmem) (by decide)
  rw [List.dropWhile_append_of_pos fun c hc => by simpa using ne_of_mem_of_not_mem hc hcs,
    List.dropWhile_append_of_pos fun c hc => by simpa using ne_of_mem_of_not_mem hc hquote]

theorem head?_words (h : (cutWord cs).1 ≠ []) : (words cs).head? = some (cutWord cs).1 := by
  obtain ⟨hsolid, gap, hsplit, hgap, hend⟩ := exists_gap cs
  conv_lhs => rw [hsplit]
  cases gap with
  | nil =>
    rw [hend rfl, List.append_nil, List.append_nil, Text.words_of_isSolid hsolid h,
      List.head?_cons]
  | cons c gap =>
    rw [List.cons_append, Text.words_append_cons _ hsolid h (hgap c List.mem_cons_self),
      List.head?_cons]

theorem typeAndTag_eq (f : Field) (typeWidth : Nat) : ∃ n, f.typeAndTag typeWidth =
    f.type.toList ++ (List.replicate n ' ' ++ f.tag.toList) := by
  rw [Field.typeAndTag]
  split_ifs with htag
  · exact ⟨0, by simp [htag]⟩
  · exact ⟨_, rfl⟩

/-- The parts of a field stand in its line with blanks between them. -/
theorem exists_gaps_of_readField {f : Field} (h : readField n cs = .ok f) :
    (cutWord cs).1 = f.name.toList ∧
      ∃ gap gap', cs = f.name.toList ++ (gap ++ (f.type.toList ++ (gap' ++ f.tag.toList))) ∧
        (∀ c ∈ gap, isBlank c = true) ∧ ∀ c ∈ gap', isBlank c = true := by
  obtain ⟨-, gap, hcs, hgap, -⟩ := exists_gap cs
  obtain ⟨-, gap', hrest, hgap', -⟩ := exists_gap (cutWord cs).2
  have hcut : cutWord cs = ((cutWord cs).1, (cutWord cs).2) := rfl
  have hcut' : cutWord (cutWord cs).2 =
    ((cutWord (cutWord cs).2).1, (cutWord (cutWord cs).2).2) := rfl
  obtain ⟨-, rfl⟩ := (readField_eq_ok hcut hcut').1 h
  simp only [String.toList_ofList]
  refine ⟨trivial, gap, gap', ?_, hgap, hgap'⟩
  rw [← hrest, ← hcs]

/-- A field is kept as it is read, whatever its columns are. -/
theorem keptAs_fieldText {f : Field} (h : readField n cs = .ok f) (nameWidth typeWidth : Nat) :
    KeptAs (true, cs) (f.text nameWidth typeWidth).toList := by
  have hf := (isField_of_readField h).1
  obtain ⟨hname, gap, gap', hcs, hgap, hgap'⟩ := exists_gaps_of_readField h
  obtain ⟨m, hm⟩ := typeAndTag_eq f typeWidth
  have hspaces : ∀ k, ∀ c ∈ List.replicate k ' ', isBlank c = true := by
    intro k c hc
    rw [List.eq_of_mem_replicate hc]
    decide
  rw [fieldText_toList, hm]
  refine ⟨fun hverbatim => ?_, ?_, ?_⟩
  · obtain ⟨c, hc, -, hslash⟩ := hf.name.head
    have hfunc : f.name.toList ≠ "func".toList := fun heq =>
      hf.name.not_reserved (String.toList_injective heq ▸ by decide)
    have hhead := head?_words (hname ▸ hf.name.ne_nil)
    rw [hname] at hhead
    rw [isVerbatim_eq_false hhead hfunc (by simpa [hc] using hslash)] at hverbatim
    cases hverbatim
  · rw [List.filter_cons_of_neg (by decide), hcs, filter_word_append hf.name.solid (hspaces _),
      filter_word_append hf.name.solid hgap, filter_word_append hf.type.solid (hspaces _),
      filter_word_append hf.type.solid hgap']
  · have hquote := backQuote_not_mem_of_isTypeChars hf.type.form
    rw [List.dropWhile_cons_of_pos (by decide), hcs,
      dropWhile_word_append hf.name.backQuote_not_mem (hspaces _),
      dropWhile_word_append hf.name.backQuote_not_mem hgap,
      dropWhile_word_append hquote (hspaces _), dropWhile_word_append hquote hgap']

/-- A line of a struct is kept as it is read. -/
theorem keptAs_of_renders {l : BodyLine} {line : String} (h : readBodyLine n cs = .ok l)
    (hl : l.Renders line) : KeptAs (true, cs) line.toList := by
  unfold readBodyLine at h
  split_ifs at h with hempty hslash
  · cases h
    rw [List.isEmpty_iff.1 hempty, show line = "" from hl]
    exact ⟨fun hverbatim => absurd hverbatim (by decide), rfl, rfl⟩
  · cases h
    have hline : line.toList = '\t' :: cs := by simp [show line = "\t" ++ String.ofList cs from hl]
    rw [hline]
    exact keptAs_behind_tab cs
  · obtain ⟨f, hf, rfl⟩ := map_eq_ok.1 h
    obtain ⟨nameWidth, typeWidth, -, -, rfl⟩ := hl
    exact keptAs_fieldText hf nameWidth typeWidth

/-! #### Lines outside structs -/

theorem opensStruct_of_opensWith {name : String} (h : OpensWith name cs) :
    opensStruct cs = true := by
  unfold opensStruct
  rcases h with hwords | hwords
  · rw [hwords]
    simp
  · rw [hwords]
    simp

theorem words_openLine {name : String} (h : IsWord name) :
    words ("type " ++ name ++ " struct \x7b").toList =
      ["type".toList, name.toList, "struct".toList, "\x7b".toList] := by
  have hrest : (name ++ " struct \x7b").toList =
      name.toList ++ ' ' :: "struct \x7b".toList := by simp
  have hstruct : words "struct \x7b".toList = ["struct".toList, "\x7b".toList] := by decide
  rw [String.append_assoc, words_typeLine, hrest,
    Text.words_append_cons _ h.solid h.ne_nil (by decide), hstruct]

theorem head?_words_of_opensWith {name : String} (h : OpensWith name cs) :
    (words cs).head? = some "type".toList := by
  rcases h with hwords | hwords
  · rw [hwords, List.head?_cons]
  · rw [hwords, List.head?_cons]

/-- A line that opens a struct is kept. -/
theorem keptAs_of_opensWith {name : String} (hname : IsWord name) (h : OpensWith name cs) :
    KeptAs (false, cs) ("type " ++ name ++ " struct \x7b").toList := by
  have hflatten : (words cs).flatten = "type".toList ++ (name.toList ++ "struct\x7b".toList) := by
    rcases h with hwords | hwords
    · simp [hwords]
    · simp [hwords]
  refine keptAs_of_words (head?_words_of_opensWith h) (by decide) (by decide) ?_ ?_
  · rw [words_openLine hname, hflatten]
    rfl
  · rw [hflatten]
    simp [hname.backQuote_not_mem]

theorem ne_nil_of_head?_words {w : List Char} (h : (words cs).head? = some w) : cs ≠ [] := by
  rintro rfl
  cases h

/-- A line outside structs that is an item is kept, and opens no struct. -/
theorem keptAs_of_readTopLine {p : Bool} {item : Item} (h : readTopLine n p cs = .ok (.item item)) :
    opensStruct cs = false ∧
      ∃ line, item.lines = [line] ∧ (cs = [] ↔ line = "") ∧ KeptAs (false, cs) line.toList := by
  have hchars : (String.ofList cs).toList = cs := String.toList_ofList
  rcases readTopLine_ok_cases h with ⟨rfl, heq⟩ | ⟨hcomment, heq⟩ |
    ⟨-, name, hname, hwords, heq⟩ | ⟨-, ⟨name, -, -, heq⟩ |
    ⟨name, type, hname, htype, hwords, heq⟩ | ⟨hfunction, heq⟩⟩
  · cases heq
    exact ⟨rfl, "", rfl, by simp, keptAs_self []⟩
  · cases heq
    refine ⟨(startsFreely_of_isComment hcomment).opensStruct, _, rfl, ?_, ?_⟩
    · rw [← String.toList_eq_nil_iff, hchars]
    · rw [hchars]
      exact keptAs_self cs
  · cases heq
    have hhead : (words cs).head? = some "package".toList := by rw [hwords, List.head?_cons]
    refine ⟨opensStruct_eq_false (by rw [hhead]; decide), _, rfl, ?_, ?_⟩
    · simp [ne_nil_of_head?_words hhead]
    · refine keptAs_of_words hhead (by decide) (by decide) ?_ ?_
      · rw [words_packageLine hname, hwords]
      · rw [hwords]
        simp [hname.backQuote_not_mem]
  · cases heq
  · cases heq
    have hhead : (words cs).head? = some "type".toList := by rw [hwords, List.head?_cons]
    refine ⟨opensStruct_of_alias htype hwords, _, rfl, ?_, ?_⟩
    · simp [ne_nil_of_head?_words hhead]
    · refine keptAs_of_words hhead (by decide) (by decide) ?_ ?_
      · rw [words_aliasLine hname htype, hwords]
      · rw [hwords]
        simp [hname.backQuote_not_mem, backQuote_not_mem_of_isTypeChars htype.form]
  · cases heq
    refine ⟨opensStruct_eq_false (by rw [hfunction.head?_words]; decide), _, rfl, ?_, ?_⟩
    · rw [← String.toList_eq_nil_iff, hchars]
    · rw [hchars]
      exact keptAs_self cs

end Line

/-! ### Sources -/

/-- Lines that are written line by line, blank ones apart. -/
def Kept (read : List (Bool × List Char)) (written : List String) : Prop :=
  List.Forall₂ KeptAs (read.filter (!·.2.isEmpty))
    ((written.map String.toList).filter (!·.isEmpty))

section Kept

variable {read read' : List (Bool × List Char)} {written written' : List String} {n : Nat}
  {p : Bool}

theorem Kept.append (h : Kept read written) (h' : Kept read' written') :
    Kept (read ++ read') (written ++ written') := by
  rw [Kept, List.filter_append, List.map_append, List.filter_append]
  exact List.rel_append h h'

theorem kept_singleton {line : Bool × List Char} {out : String} (hblank : line.2 = [] ↔ out = "")
    (h : KeptAs line out.toList) : Kept [line] [out] := by
  rw [Kept, List.map_singleton]
  by_cases hout : out = ""
  · simp [hblank.2 hout, hout]
  · rw [List.filter_cons_of_pos (by simpa using mt hblank.1 hout),
      List.filter_cons_of_pos (by simpa using hout)]
    exact .cons h .nil

theorem kept_squeeze_iff : Kept read (squeeze "" written) ↔ Kept read written := by
  rw [Kept, Kept, List.filter_map, List.filter_map, filter_squeeze (by decide)]

/-- What is read from a line of a struct. -/
def Yields (cs : List Char) (l : BodyLine) : Prop := ∃ n, readBodyLine n cs = .ok l

theorem Yields.blank_iff {cs : List Char} {l : BodyLine} (h : Yields cs l) :
    cs = [] ↔ l = .blank := by
  obtain ⟨n, h⟩ := h
  constructor
  · rintro rfl
    exact (Except.ok.inj h).symm
  · rintro rfl
    rcases readBodyLine_ok_cases h with ⟨hcs, -⟩ | ⟨-, heq⟩ | ⟨f, -, -, heq⟩
    · exact hcs
    · cases heq
    · cases heq

theorem kept_of_renders {ls : List (List Char)} {body : List BodyLine} {texts : List String}
    (h : List.Forall₂ Yields ls body) (htexts : List.Forall₂ BodyLine.Renders body texts) :
    Kept (ls.map (true, ·)) texts := by
  induction h generalizing texts with
  | nil =>
    cases htexts
    exact .nil
  | cons hread _ ih =>
    cases htexts with
    | cons hrenders htexts =>
      have hblank := hread.blank_iff.trans (Renders.blank_iff hrenders)
      obtain ⟨n, hl⟩ := hread
      exact (kept_singleton hblank (keptAs_of_renders hl hrenders)).append (ih htexts)

/-- The lines of a struct are kept. -/
theorem kept_bodyLines {ls : List (List Char)} {body : List BodyLine}
    (h : List.Forall₂ Yields ls body) : Kept (ls.map (true, ·)) (bodyLines body) := by
  rw [bodyLines, collapseBlanks_eq_squeeze, kept_squeeze_iff]
  exact kept_of_renders h (renders_bodyLinesFrom [] body)

/-- What is kept of the lines behind an open struct: those of its body and, behind its brace, those
of the other items. -/
def KeptFrom (opened : Option OpenStruct) (ls : List (List Char)) (items : List Item) : Prop :=
  match opened with
  | none => Kept (placed false ls) (sourceLines items)
  | some s => ∃ inner body rest outer, placed true ls =
      inner.map (true, ·) ++ (false, "\x7d".toList) :: rest ∧ List.Forall₂ Yields inner body ∧
      items = .struct s.name (s.body.reverse ++ body) :: outer ∧ Kept rest (sourceLines outer)

/-- The lines behind a line that opens a struct go on to its brace. -/
theorem KeptFrom.opens {cs : List Char} {name : String} {ls : List (List Char)} {items : List Item}
    (hname : IsWord name) (hopens : OpensWith name cs)
    (h : KeptFrom (some ⟨n, name, []⟩) ls items) : KeptFrom none (cs :: ls) items := by
  obtain ⟨inner, body, rest, outer, hplaced, hread, rfl, hkept⟩ := h
  have hplaced : placed false (cs :: ls) = [(false, cs)] ++ (inner.map (true, ·) ++
      ([(false, "\x7d".toList)] ++ rest)) := by
    rw [placed, if_neg (by decide), opensStruct_of_opensWith hopens, hplaced]
    rfl
  have hlines : sourceLines (.struct name body :: outer) = ["type " ++ name ++ " struct \x7b"] ++
      (bodyLines body ++ (["\x7d"] ++ sourceLines outer)) := by
    simp [sourceLines, Item.lines]
  have hne := ne_nil_of_head?_words (head?_words_of_opensWith hopens)
  have hopening := kept_singleton (by simp [hne]) (keptAs_of_opensWith hname hopens)
  have hclosing : Kept [(false, "\x7d".toList)] ["\x7d"] :=
    kept_singleton (by decide) (keptAs_self _)
  rw [KeptFrom, hplaced, List.reverse_nil, List.nil_append, hlines]
  exact hopening.append ((kept_bodyLines hread).append (hclosing.append hkept))

/-- Whatever is read from lines keeps them. -/
theorem Gathers.keptFrom {opened : Option OpenStruct} {ls : List (List Char)} {items : List Item}
    (h : Gathers n p opened ls items) : KeptFrom opened ls items := by
  induction h with
  | nil => exact .nil
  | @closes _ _ s ls items _ ih =>
    exact ⟨[], [], placed false ls, items, rfl, .nil, by rw [List.append_nil], ih⟩
  | @body _ _ s cs l _ _ hbrace hl _ ih =>
    obtain ⟨inner, body, rest, outer, hplaced, hread, hitems, hkept⟩ := ih
    refine ⟨cs :: inner, l :: body, rest, outer, ?_, .cons ⟨_, hl⟩ hread, ?_, hkept⟩
    · rw [placed, if_pos rfl, if_neg hbrace, hplaced]
      rfl
    · rw [hitems, List.reverse_cons, List.append_assoc]
      rfl
  | opens ht _ ih =>
    obtain ⟨-, hname, hopens⟩ := opensWith_of_readTopLine ht
    exact ih.opens hname hopens
  | @item _ _ item cs ls _ ht _ ih =>
    obtain ⟨hopens, line, hlines, hblank, hkept⟩ := keptAs_of_readTopLine ht
    have hplaced : placed false (cs :: ls) = [(false, cs)] ++ placed false ls := by
      rw [placed, hopens]
      rfl
    rw [KeptFrom, hplaced, sourceLines, List.flatMap_cons, hlines]
    exact (kept_singleton hblank hkept).append ih

end Kept

theorem Trimmed.isEmpty_stripChars {cs : List Char} (h : Trimmed cs) :
    (stripChars cs).isEmpty = cs.isEmpty := by
  by_cases hcs : cs = []
  · rw [hcs]
    rfl
  · have hlast := List.getLast?_eq_some_getLast hcs
    have hmem := Text.mem_stripChars (List.getLast_mem hcs) (h _ hlast)
    rw [List.isEmpty_eq_false_iff.2 hcs, List.isEmpty_eq_false_iff.2 (List.ne_nil_of_mem hmem)]

theorem writtenLines_sourceText {items : List Item} (h : Legible false items) :
    writtenLines (sourceText items) =
      ((squeeze "" (sourceLines items)).map String.toList).filter (!·.isEmpty) := by
  have hlines : ∀ l ∈ (sourceLines (squeeze .blank items)).map String.toList,
      (!(stripChars l).isEmpty) = !l.isEmpty := by
    intro l hl
    rw [← rows_sourceText h] at hl
    rw [(trimmed_of_mem_rows h hl).isEmpty_stripChars]
  rw [writtenLines, h.lines_sourceText, List.filter_append, List.filter_congr hlines,
    ← collapseBlanks_eq_squeeze, collapseBlanks_sourceLines h.forall]
  exact List.append_nil _

/-- The lines of a source that are not blank are kept in its layout. -/
theorem keptAs_of_readItems {source : String} {items : List Item}
    (h : readItems source = .ok items) :
    List.Forall₂ KeptAs (contentLines source) (writtenLines (sourceText items)) := by
  have hkept : KeptFrom none ((lines source).map stripChars) items :=
    (gathers_of_readLines h).keptFrom
  rw [KeptFrom, ← kept_squeeze_iff] at hkept
  rw [writtenLines_sourceText (legible_of_readItems h)]
  exact hkept

/-- **Laying out changes blanks only**: the lines of a source that are not blank are kept, one by
one and in order. -/
theorem format_keeps_lines {source text : String} (h : format source = .ok text) :
    List.Forall₂ KeptAs (contentLines source) (writtenLines text) := by
  obtain ⟨items, hitems, rfl⟩ := map_eq_ok.1 h
  exact keptAs_of_readItems hitems

theorem untidySource_kept : format untidySource = .ok tidySource ∧
    List.Forall₂ KeptAs (contentLines untidySource) (writtenLines tidySource) :=
  ⟨format_untidySource, format_keeps_lines format_untidySource⟩

/-- A comment of a struct is not written as it is: it gets a tab. -/
theorem structComment_not_as_it_is : ∃ source text, format source = .ok text ∧
    ¬ List.Forall₂ (fun line out => isVerbatim line.2 = true → out = line.2)
      (contentLines source) (writtenLines text) :=
  ⟨"package p\ntype T struct \x7b\n// c\n\x7d", "package p\ntype T struct \x7b\n\t// c\n\x7d\n",
    by decide +kernel, by decide +kernel⟩

/-! ### Characters -/

section Characters

variable {c : Char} {source : String}

theorem map_snd_placed (inside : Bool) (ls : List (List Char)) :
    (placed inside ls).map Prod.snd = ls := by
  induction ls generalizing inside with
  | nil => rfl
  | cons cs ls ih =>
    rw [placed]
    split_ifs
    · rw [List.map_cons, ih]
    · rw [List.map_cons, ih]
    · rw [List.map_cons, ih]

/-- The characters of a text other than blanks stand in its lines. -/
theorem exists_mem_lines_iff (hc : isBlank c = false) :
    (∃ l ∈ lines source, c ∈ l) ↔ c ∈ source.toList := by
  constructor
  · rintro ⟨l, hl, hmem⟩
    exact (Text.mem_of_mem_splitOn hl hmem).1
  · intro hmem
    refine Text.exists_mem_splitOn hmem ?_
    rintro rfl
    cases hc

theorem exists_mem_contentLines_iff (hc : isBlank c = false) :
    (∃ line ∈ contentLines source, c ∈ line.2) ↔ c ∈ source.toList := by
  rw [← exists_mem_lines_iff hc]
  constructor
  · rintro ⟨line, hline, hmem⟩
    have hplaced := List.mem_map_of_mem (f := Prod.snd) (List.mem_filter.1 hline).1
    rw [map_snd_placed] at hplaced
    obtain ⟨l, hl, heq⟩ := List.mem_map.1 hplaced
    rw [← heq] at hmem
    exact ⟨l, hl, Text.mem_of_mem_stripChars hmem⟩
  · rintro ⟨l, hl, hmem⟩
    have hstripped := Text.mem_stripChars hmem hc
    have hplaced : stripChars l ∈
        (placed false ((lines source).map stripChars)).map Prod.snd := by
      rw [map_snd_placed]
      exact List.mem_map_of_mem hl
    obtain ⟨line, hline, heq⟩ := List.mem_map.1 hplaced
    rw [← heq] at hstripped
    refine ⟨line, List.mem_filter.2 ⟨hline, ?_⟩, hstripped⟩
    simpa using List.ne_nil_of_mem hstripped

theorem exists_mem_writtenLines_iff (hc : isBlank c = false) :
    (∃ l ∈ writtenLines source, c ∈ l) ↔ c ∈ source.toList := by
  rw [← exists_mem_lines_iff hc]
  constructor
  · rintro ⟨l, hl, hmem⟩
    exact ⟨l, (List.mem_filter.1 hl).1, hmem⟩
  · rintro ⟨l, hl, hmem⟩
    refine ⟨l, List.mem_filter.2 ⟨hl, ?_⟩, hmem⟩
    simpa using List.ne_nil_of_mem (Text.mem_stripChars hmem hc)

theorem KeptAs.mem_iff {line : Bool × List Char} {written : List Char} (h : KeptAs line written)
    (hc : isBlank c = false) : c ∈ written ↔ c ∈ line.2 := by
  have hmem : ∀ cs : List Char, c ∈ cs.filter (!isBlank ·) ↔ c ∈ cs := fun cs => by simp [hc]
  rw [← hmem, h.chars, hmem]

/-- A layout has the characters of its source, blanks apart. -/
theorem mem_sourceText_iff {items : List Item} (h : readItems source = .ok items)
    (hc : isBlank c = false) : c ∈ (sourceText items).toList ↔ c ∈ source.toList := by
  have hkept := keptAs_of_readItems h
  rw [← exists_mem_writtenLines_iff hc, ← exists_mem_contentLines_iff hc]
  constructor
  · rintro ⟨written, hwritten, hmem⟩
    obtain ⟨line, hline, hline'⟩ := exists_of_forall₂ hkept hwritten
    exact ⟨line, hline, (hline'.mem_iff hc).1 hmem⟩
  · rintro ⟨line, hline, hmem⟩
    obtain ⟨written, hwritten, hline'⟩ := exists_of_forall₂ hkept.flip hline
    exact ⟨written, hwritten, (hline'.mem_iff hc).2 hmem⟩

end Characters

end StructGen.Source
