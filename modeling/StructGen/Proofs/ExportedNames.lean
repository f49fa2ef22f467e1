import StructGen.Proofs.GeneratedSource

/-!
# Exported names

A name that starts with an upper-case letter is exported. Camel case puts the first letter of a text
in upper case, except behind a character that is dropped and is no separator; and the formatter takes
no name that starts with anything but a letter.

* `losesCapital` tells which texts give names that are not exported;
* `Accepted` are the lines that a formatted source can have, and `isGoIdentifier_of_accepted_field`
  and its companions find names in them;
* `exported_iff` tells which names of generated models are exported.
-/

namespace StructGen

namespace Naming

/-! ### First letters -/

/-- Whether the first letter of a text stays in lower case: a character stands before it that is
dropped and is no separator. -/
def losesCapital (text : String) : Bool :=
  let cs := Text.stripChars text.toList
  (cs.dropWhile (!·.isAlphanum)).head?.any Char.isLower &&
    (cs.takeWhile (!·.isAlphanum)).getLast?.any (!isWordSeparator ·)

/-- Whether a letter starts a word after some characters that are dropped. -/
def capAfter (cap : Bool) (dropped : List Char) : Bool :=
  (dropped.getLast?.map isWordSeparator).getD cap

theorem capAfter_cons (cap : Bool) (c : Char) (dropped : List Char) :
    capAfter cap (c :: dropped) = capAfter (isWordSeparator c) dropped := by
  rw [capAfter, capAfter, List.getLast?_cons]
  cases dropped.getLast? <;> rfl

/-- Camel case starts with the first letter or digit of a text, in upper case if that starts a
word. -/
theorem head?_camelFrom (cap : Bool) (cs : List Char) :
    (camelFrom cap cs).head? = (cs.dropWhile (!·.isAlphanum)).head?.map fun c =>
      if capAfter cap (cs.takeWhile (!·.isAlphanum)) then c.toUpper else c := by
  induction cs generalizing cap with
  | nil => rfl
  | cons c cs ih =>
    by_cases hc : c.isAlphanum = true
    · rw [List.dropWhile_cons_of_neg (by simp [hc]), List.takeWhile_cons_of_neg (by simp [hc]),
        camelFrom]
      change _ = some (if cap then c.toUpper else c)
      simp only [Char.isAlphanum, Char.isAlpha, Bool.or_eq_true] at hc
      by_cases hlower : c.isLower = true
      · rw [if_neg (Char.not_isUpper_of_isLower hlower), if_pos hlower]
        rfl
      · rw [Char.toUpper_eq_of_not_isLower hlower, ite_self, if_neg hlower]
        by_cases hupper : c.isUpper = true
        · rw [if_pos hupper]
          rfl
        · rw [if_neg hupper, if_pos (by tauto)]
          rfl
    · rw [List.dropWhile_cons_of_pos (by simp [hc]), List.takeWhile_cons_of_pos (by simp [hc]),
        capAfter_cons, ← ih]
      simp only [Char.isAlphanum, Char.isAlpha, Bool.or_eq_true, not_or] at hc
      rw [camelFrom, if_neg hc.1.1, if_neg hc.1.2, if_neg hc.2]

end Naming

namespace Source

/-! ### Accepted lines -/

open Text (IsSolid isBlank words)

variable {n : Nat} {packaged : Bool} {cs : List Char}

/-- A line that some reader of lines takes. -/
def Accepted (cs : List Char) : Prop :=
  cs = "\x7d".toList ∨ (∃ n l, readBodyLine n cs = .ok l) ∨ ∃ n p t, readTopLine n p cs = .ok t

theorem accepted_of_mem {opened : Option OpenStruct} {ls : List (List Char)} {items : List Item}
    (h : readLines n packaged opened ls = .ok items) (hcs : cs ∈ ls) : Accepted cs := by
  replace h := gathers_of_readLines h
  induction h with
  | nil => cases hcs
  | closes _ ih =>
    rcases List.mem_cons.1 hcs with rfl | hcs
    · exact Or.inl rfl
    · exact ih hcs
  | body _ hl _ ih =>
    rcases List.mem_cons.1 hcs with rfl | hcs
    · exact Or.inr (Or.inl ⟨_, _, hl⟩)
    · exact ih hcs
  | opens ht _ ih | item ht _ ih =>
    rcases List.mem_cons.1 hcs with rfl | hcs
    · exact Or.inr (Or.inr ⟨_, _, _, ht⟩)
    · exact ih hcs

/-- The line of a type is no line of a struct, as its first word is reserved. -/
theorem readBodyLine_type_ne_ok (cs : List Char) {l : BodyLine} :
    readBodyLine n ("type ".toList ++ cs) ≠ .ok l := by
  intro h
  rw [readBodyLine_eq_readField (c := 't') (by simp) (by decide)] at h
  obtain ⟨f, hf, -⟩ := map_eq_ok.1 h
  have hword : IsSolid "type".toList := by decide
  have hcut := cutWord_append_cons (c := ' ') cs hword (by decide)
  obtain ⟨⟨-, hname, -⟩, -⟩ := (readField_eq_ok hcut rfl).1 hf
  exact absurd hname (by decide)

/-- Before the package clause there is no declaration. -/
theorem readTopLine_false_ne_ok {c : Char} (hcs : cs.head? = some c) (hc : c ≠ '/')
    (h : ∀ name, words cs ≠ ["package".toList, name]) {t : TopLine} :
    readTopLine n false cs ≠ .ok t := by
  obtain ⟨ds, rfl⟩ := List.head?_eq_some_iff.1 hcs
  have hslash : "//".toList.isPrefixOf (c :: ds) = false := by simp [List.isPrefixOf, hc.symm]
  have hstar : "/*".toList.isPrefixOf (c :: ds) = false := by simp [List.isPrefixOf, hc.symm]
  unfold readTopLine
  simp only [hslash, hstar, List.isEmpty_cons, Bool.false_eq_true, if_false]
  split
  · rename_i key name hwords
    rw [if_neg fun hkey => h name (by rw [hwords, eq_of_beq hkey])]
    simp
  · simp

theorem exists_readTopLine_of_type {cs : List Char} (h : Accepted ("type ".toList ++ cs)) :
    ∃ n t, readTopLine n true ("type ".toList ++ cs) = .ok t := by
  rcases h with h | ⟨n, l, h⟩ | ⟨n, p, t, h⟩
  · exact absurd (congrArg List.head? h) (by simp)
  · exact absurd h (readBodyLine_type_ne_ok cs)
  · cases p with
    | true => exact ⟨n, t, h⟩
    | false =>
      refine absurd h (readTopLine_false_ne_ok (c := 't') (by simp) (by decide) fun name hwords => ?_)
      rw [(readTopLine_type n cs).2] at hwords
      exact absurd (List.cons.inj hwords).1 (by decide)

/-- The name of an accepted line that opens a struct. -/
theorem isGoIdentifier_of_accepted_struct {name : List Char} (hname : IsSolid name)
    (h : Accepted ("type ".toList ++ (name ++ " struct \x7b".toList))) :
    Naming.isGoIdentifier (String.ofList name) = true := by
  obtain ⟨n, t, h⟩ := exists_readTopLine_of_type h
  exact ((readTopLine_structOpen hname).1 h).1

/-- The name of an accepted line that declares another type. -/
theorem isGoIdentifier_of_accepted_alias {name type : List Char} (hname : IsSolid name)
    (htype : IsSolid type) (hne : type ≠ []) (hstruct : type ≠ "struct\x7b".toList)
    (h : Accepted ("type ".toList ++ (name ++ ' ' :: type))) :
    Naming.isGoIdentifier (String.ofList name) = true := by
  obtain ⟨n, t, h⟩ := exists_readTopLine_of_type h
  exact ((readTopLine_alias hname htype hne hstruct).1 h).1

/-! #### Words that start with a back quote -/

theorem backQuote_cons_ne {u : List Char} {word : String} (h : word.toList.head? ≠ some '\x60') :
    '\x60' :: u ≠ word.toList := fun heq => h (heq ▸ rfl)

theorem IsWord.backQuote_cons_ne {name : String} (h : IsWord name) (u : List Char) :
    '\x60' :: u ≠ name.toList := by
  intro heq
  have hident := h.ident
  rw [← String.ofList_toList (s := name), ← heq, isGoIdentifier_backQuote] at hident
  cases hident

/-- A line outside structs holds no word that starts with a back quote, unless it is a comment or a
function. -/
theorem words_of_readTopLine {t : TopLine} (h : readTopLine n packaged cs = .ok t) :
    cs.head? = some '/' ∨ (∃ name, functionName? cs = some name) ∨ ∀ u, '\x60' :: u ∉ words cs := by
  rcases readTopLine_ok_cases h with ⟨rfl, -⟩ | ⟨hcomment, -⟩ | ⟨-, name, hname, hwords, -⟩ |
    ⟨-, ⟨name, hname, hopens, -⟩ | ⟨name, type, hname, hform, hwords, -⟩ | ⟨hfunction, -⟩⟩
  · exact Or.inr (Or.inr fun u hu => by cases hu)
  · refine Or.inl ?_
    rcases hcomment with ⟨ds, rfl⟩ | ⟨⟨ds, rfl⟩, -⟩
    · rfl
    · rfl
  · refine Or.inr (Or.inr fun u hu => ?_)
    rw [hwords, List.mem_cons, List.mem_singleton] at hu
    exact hu.elim (backQuote_cons_ne (by decide)) (hname.backQuote_cons_ne u)
  · refine Or.inr (Or.inr fun u hu => ?_)
    rcases hopens with hwords | hwords
    · rw [hwords, List.mem_cons, List.mem_cons, List.mem_singleton] at hu
      exact hu.elim (backQuote_cons_ne (by decide)) fun hu =>
        hu.elim (hname.backQuote_cons_ne u) (backQuote_cons_ne (by decide))
    · rw [hwords, List.mem_cons, List.mem_cons, List.mem_cons, List.mem_singleton] at hu
      exact hu.elim (backQuote_cons_ne (by decide)) fun hu =>
        hu.elim (hname.backQuote_cons_ne u) fun hu =>
          hu.elim (backQuote_cons_ne (by decide)) (backQuote_cons_ne (by decide))
  · refine Or.inr (Or.inr fun u hu => ?_)
    rw [hwords, List.mem_cons, List.mem_cons, List.mem_singleton] at hu
    rcases hu with hu | hu | hu
    · exact backQuote_cons_ne (by decide) hu
    · exact hname.backQuote_cons_ne u hu
    · exact backQuote_not_mem_of_isTypeChars hform.form (hu ▸ List.mem_cons_self)
  · obtain ⟨name, hname, -⟩ := hfunction.name
    exact Or.inr (Or.inl ⟨name, hname⟩)

/-- Before the argument list of a function there are no back quotes. -/
theorem find?_of_functionName? {name : List Char} (h : functionName? cs = some name) :
    cs.find? (fun c => c == '(' || c == '\x60') = some '(' := by
  have hnone : ∀ {ds : List Char} {p : Char → Bool}, p '(' = false → p '\x60' = false →
      (∀ c ∈ ds, p c = true) → ds.find? (fun c => c == '(' || c == '\x60') = none := by
    intro ds p hopen hquote hds
    refine List.find?_eq_none.2 fun c hc => ?_
    have hp := hds c hc
    simp only [Bool.or_eq_true, beq_iff_eq, not_or]
    constructor
    · rintro rfl
      rw [hopen] at hp
      cases hp
    · rintro rfl
      rw [hquote] at hp
      cases hp
  unfold functionName? at h
  split at h
  · rename_i c rest
    split_ifs at h with hc
    extract_lets rest' name' after at h
    split_ifs at h with hafter
    simp only [Bool.and_eq_true, beq_iff_eq] at hafter
    obtain ⟨ds, hds⟩ := List.head?_eq_some_iff.1 hafter.2
    have hrest : name' ++ rest'.drop name'.length = rest' :=
      List.prefix_iff_eq_append.1 (List.takeWhile_prefix _)
    have hsplit : 'f' :: 'u' :: 'n' :: 'c' :: c :: rest = "func".toList ++ ([c] ++
        (rest.takeWhile isBlank ++ (name' ++ ((rest'.drop name'.length).takeWhile isBlank ++
          '(' :: ds)))) := by
      rw [← hds, List.takeWhile_append_dropWhile, hrest, List.takeWhile_append_dropWhile]
      rfl
    have hfunc : "func".toList.find? (fun c => c == '(' || c == '\x60') = none := by decide
    rw [hsplit, List.find?_append, hfunc, List.find?_append, hnone rfl rfl (by simpa using hc),
      List.find?_append, hnone rfl rfl fun c hc => List.mem_takeWhile_imp hc, List.find?_append,
      hnone rfl rfl fun c hc => List.mem_takeWhile_imp hc, List.find?_append,
      hnone rfl rfl fun c hc => List.mem_takeWhile_imp hc]
    rfl
  · cases h

theorem readTopLine_backQuote_ne_ok {c : Char} (hhead : cs.head? = some c) (hc : c ≠ '/')
    (hfind : cs.find? (fun c => c == '(' || c == '\x60') = some '\x60') {u : List Char}
    (hword : '\x60' :: u ∈ words cs) {t : TopLine} : readTopLine n packaged cs ≠ .ok t := by
  intro h
  rcases words_of_readTopLine h with hslash | ⟨name, hname⟩ | hwords
  · rw [hhead] at hslash
    exact hc (Option.some.inj hslash)
  · rw [find?_of_functionName? hname] at hfind
    exact absurd hfind (by decide)
  · exact hwords u hword

/-- A text without parentheses and back quotes. -/
def IsUnmarked (cs : List Char) : Prop := ∀ c ∈ cs, c ≠ '(' ∧ c ≠ '\x60'

instance (cs : List Char) : Decidable (IsUnmarked cs) :=
  decidable_of_iff (cs.all fun c => c != '(' && c != '\x60') (by simp [IsUnmarked])

/-- A line with a back quote behind a blank, and no mark before it. -/
theorem readTopLine_append_backQuote_ne_ok {c : Char} {pre v : List Char} (hpre : IsUnmarked pre)
    (hhead : pre.head? = some c) (hc : c ≠ '/') {t : TopLine} :
    readTopLine n packaged (pre ++ ' ' :: '\x60' :: v) ≠ .ok t := by
  have hnone : pre.find? (fun c => c == '(' || c == '\x60') = none :=
    List.find?_eq_none.2 fun c hc => by simp [hpre c hc]
  obtain ⟨u, ws, hquote⟩ := Text.exists_words_cons (c := '\x60') v (by decide)
  refine readTopLine_backQuote_ne_ok (c := c) (u := u) ?_ hc ?_ ?_
  · rw [List.head?_append, hhead]
    rfl
  · rw [List.find?_append, hnone]
    simp
  · rw [Text.words_append_blank _ _ (by decide), hquote]
    simp

/-- The name of an accepted line that declares a field, its tag going on as it may. -/
theorem isGoIdentifier_of_accepted_field {name type : String} (hname : Naming.IsClean name)
    (htype : Naming.IsClean type) (hnameMarks : IsUnmarked name.toList)
    (htypeMarks : IsUnmarked type.toList) {u : List Char}
    (h : Accepted (Text.stripChars ('\t' :: (name.toList ++ ' ' :: (type.toList ++
      ' ' :: '\x60' :: u))))) : Naming.isGoIdentifier name = true := by
  rcases h with h | ⟨n, l, h⟩ | ⟨n, p, t, h⟩
  · have hquote : '\x60' ∈ Text.stripChars ('\t' :: (name.toList ++ ' ' :: (type.toList ++
        ' ' :: '\x60' :: u))) := Text.mem_stripChars (by simp) (by decide)
    rw [h] at hquote
    exact absurd hquote (by decide)
  · exact ((readBodyLine_field hname htype u).1 h).1.1
  -- outside a struct the line is nothing
  · exfalso
    have hquote : isBlank '\x60' = false := by decide
    rw [Text.stripChars_cons_of_blank _ (by decide)] at h
    by_cases hn : name = ""
    · rw [hn, String.toList_empty, List.nil_append, Text.stripChars_cons_of_blank _ (by decide)] at h
      by_cases ht : type = ""
      · rw [ht, String.toList_empty, List.nil_append, Text.stripChars_cons_of_blank _ (by decide),
          Text.stripChars_cons _ hquote] at h
        obtain ⟨v, ws, hwords⟩ := Text.exists_words_cons (c := '\x60')
          (Text.dropTrailing isBlank u) hquote
        exact readTopLine_backQuote_ne_ok (c := '\x60') (u := v) rfl (by decide) (by simp)
          (by rw [hwords]; exact List.mem_cons_self) h
      · obtain ⟨c, hc, hslash⟩ := htype.exists_head ht
        have hstrip := Text.stripChars_word_append [' '] u htype.isSolid
          (String.toList_eq_nil_iff.not.2 ht) hquote
        rw [List.singleton_append] at hstrip
        rw [hstrip] at h
        exact readTopLine_append_backQuote_ne_ok htypeMarks hc hslash h
    · obtain ⟨c, hc, hslash⟩ := hname.exists_head hn
      have hstrip := Text.stripChars_word_append (' ' :: (type.toList ++ [' '])) u hname.isSolid
        (String.toList_eq_nil_iff.not.2 hn) hquote
      have hline : ∀ u, name.toList ++ (' ' :: (type.toList ++ [' ']) ++ '\x60' :: u) =
          (name.toList ++ ' ' :: type.toList) ++ ' ' :: '\x60' :: u := by simp
      have hline' : name.toList ++ ' ' :: (type.toList ++ ' ' :: '\x60' :: u) =
          (name.toList ++ ' ' :: type.toList) ++ ' ' :: '\x60' :: u := by simp
      rw [hline, hline] at hstrip
      rw [hline', hstrip] at h
      refine readTopLine_append_backQuote_ne_ok (fun c hc => ?_) (by rw [List.head?_append, hc]; rfl)
        hslash h
      rcases List.mem_append.1 hc with hc | hc
      · exact hnameMarks c hc
      · rcases List.mem_cons.1 hc with rfl | hc
        · decide
        · exact htypeMarks c hc

end Source

namespace Naming

/-! ### Names of letters and digits -/

/-- A text of ASCII letters and digits. -/
def IsAlnum (s : String) : Prop := ∀ c ∈ s.toList, c.isAlphanum = true

instance (s : String) : Decidable (IsAlnum s) :=
  decidable_of_iff (s.toList.all Char.isAlphanum) (by simp [IsAlnum])

theorem IsAlnum.append {s t : String} (hs : IsAlnum s) (ht : IsAlnum t) : IsAlnum (s ++ t) := by
  intro c hc
  rw [String.toList_append] at hc
  exact (List.mem_append.1 hc).elim (hs c) (ht c)

theorem IsAlnum.isUnmarked {s : String} (h : IsAlnum s) : Source.IsUnmarked s.toList := by
  intro c hc
  have hc := h c hc
  constructor
  · rintro rfl
    exact absurd hc (by decide)
  · rintro rfl
    exact absurd hc (by decide)

theorem IsAlnum.isClean {s : String} (h : IsAlnum s) : IsClean s :=
  isClean_of_isNameChar fun c hc => by simp [isNameChar, h c hc]

theorem isAlnum_camel (name : String) : IsAlnum (camel name) := by
  intro c hc
  rw [camel_toList] at hc
  exact isAlphanum_of_mem_camelFrom c hc

theorem isAlnum_toString (k : Nat) : IsAlnum (toString k) := by
  intro c hc
  rw [Nat.toString_eq_ofList_toDigits, String.toList_ofList] at hc
  have := Nat.isDigit_of_mem_toDigits (b := 10) (by decide) (by decide) hc
  simp [Char.isAlphanum, this]

theorem isAlnum_unusedName (r : Registry) {name : String} (h : IsAlnum name) :
    IsAlnum (r.unusedName name) := by
  unfold Registry.unusedName
  split_ifs
  · exact h.append (isAlnum_toString _)
  · exact h

namespace Initialisms

theorem isAlnum_of_mem_goOrdered : ∀ i ∈ goOrdered.ordered, IsAlnum i := by
  have hall : ∀ i ∈ goOrdered.ordered, (i.toList.all Char.isAlphanum) = true := by decide +kernel
  exact fun i hi c hc => List.all_eq_true.1 (hall i hi) c hc

theorem isAlnum_apply {name : String} (h : IsAlnum name) : IsAlnum (goOrdered.apply name) := by
  rcases goOrdered_apply_cases name with heq | ⟨i, hi, cs, hname, heq⟩
  · rwa [heq]
  · intro c hc
    rw [heq] at hc
    rcases List.mem_append.1 hc with hc | hc
    · exact h c (by rw [hname]; exact List.mem_append_left _ hc)
    · exact isAlnum_of_mem_goOrdered i hi c hc

theorem isAlnum_pathName (path : List String) : IsAlnum (goOrdered.pathName path) :=
  isAlnum_apply (isAlnum_camel _)

theorem isAlnum_fieldName (property : String) : IsAlnum (goOrdered.fieldName property) := by
  rcases goOrdered.fieldName_cases property with ⟨-, heq⟩ | heq
  · rw [heq]
    decide
  · rw [heq]
    exact isAlnum_apply (isAlnum_camel _)

theorem isAlnum_typeName {path : List String} {major : Nat} {versioned : Bool} {name : String}
    (h : goOrdered.typeName path (some major) versioned = .ok name) : IsAlnum name := by
  have hv : IsAlnum "V" := by decide
  unfold typeName at h
  split_ifs at h
  · rw [← Except.ok.inj h]
    exact ((isAlnum_pathName path).append hv).append (isAlnum_toString major)
  · rw [← Except.ok.inj h]
    exact isAlnum_pathName path

/-! ### First characters of names -/

theorem head?_titleForm : ∀ i ∈ goOrdered.ordered,
    i.toList.head? = (titleForm i).toList.head? :=
  forall_of_goTitled (P := fun i title => i.toList.head? = title.toList.head?) (by decide +kernel)

/-- Initialisms do not change the first character of a name. -/
theorem head?_apply (name : String) : (goOrdered.apply name).toList.head? = name.toList.head? := by
  rcases goOrdered_apply_cases name with heq | ⟨i, hi, cs, hname, heq⟩
  · rw [heq]
  · rw [heq, hname, List.head?_append, List.head?_append, head?_titleForm i hi]

theorem head?_pathName (path : List String) :
    (goOrdered.pathName path).toList.head? = (camel (Text.joinWith "_" path)).toList.head? :=
  head?_apply _

theorem head?_typeName {type name : String} {major : Int} {versioned : Bool}
    (h : goOrdered.typeName [type] (some major) versioned = .ok name) :
    name.toList.head? = (camel type).toList.head? ∨
      (camel type).toList = [] ∧ name.toList.head? = some 'V' := by
  have hpath := head?_pathName [type]
  rw [Text.joinWith_singleton] at hpath
  unfold typeName at h
  split_ifs at h
  · rw [← Except.ok.inj h, String.append_assoc, String.toList_append, List.head?_append, hpath]
    cases hcamel : (camel type).toList with
    | nil => exact Or.inr ⟨rfl, by rw [String.toList_append]; rfl⟩
    | cons c cs => exact Or.inl rfl
  · rw [← Except.ok.inj h]
    exact Or.inl hpath

theorem head?_fieldName (property : String) :
    (goOrdered.fieldName property).toList.head? = (camel property).toList.head? := by
  rcases goOrdered.fieldName_cases property with ⟨hid, heq⟩ | heq
  · rw [heq, hid]
    decide
  · rw [heq, head?_apply]

end Initialisms

/-- How camel case starts: with nothing, with a digit, or with a letter that is in upper case unless
the text loses it. -/
theorem camel_head_cases (text : String) :
    ((camel text).toList = [] ∧ losesCapital text = false) ∨
      ∃ c, (camel text).toList.head? = some c ∧
        (c.isDigit = true ∨ c.isAlpha = true ∧ (c.isUpper = true ↔ losesCapital text = false)) := by
  have hhead := head?_camelFrom true (Text.stripChars text.toList)
  rw [camel_toList, camelChars]
  unfold losesCapital
  extract_lets cs
  rw [show Text.stripChars text.toList = cs from rfl] at hhead ⊢
  cases hkept : (cs.dropWhile (!·.isAlphanum)).head? with
  | none =>
    rw [hkept, Option.map_none, List.head?_eq_none_iff] at hhead
    exact Or.inl ⟨hhead, rfl⟩
  | some c =>
    rw [hkept, Option.map_some] at hhead
    refine Or.inr ⟨_, hhead, ?_⟩
    have halnum : c.isAlphanum = true := by
      have := List.head?_dropWhile_not (fun c : Char => !c.isAlphanum) cs
      simpa [hkept] using this
    by_cases hlower : c.isLower = true
    · refine Or.inr ?_
      have hc : c.isUpper = false := by simpa using Char.not_isUpper_of_isLower hlower
      rw [Option.any_some, hlower, Bool.true_and, capAfter]
      cases (cs.takeWhile (!·.isAlphanum)).getLast? with
      | none => simp [Char.isAlpha, hlower]
      | some d => cases hd : isWordSeparator d <;> simp [Char.isAlpha, hlower, hc, hd]
    · rw [Char.toUpper_eq_of_not_isLower hlower, ite_self]
      simp only [Char.isAlphanum, Char.isAlpha, Bool.or_eq_true] at halnum
      rcases halnum with (hupper | h) | hdigit
      · exact Or.inr (by simp [Char.isAlpha, hupper, hlower])
      · exact absurd h hlower
      · exact Or.inl hdigit

/-- A name starts with a letter, which is in upper case unless the text that the name was made of
loses it. -/
def StartsLike (name text : String) : Prop :=
  ∃ c, name.toList.head? = some c ∧ c.isAlpha = true ∧
    (c.isUpper = true ↔ losesCapital text = false)

theorem not_isAlpha_of_isDigit {c : Char} (h : c.isDigit = true) : ¬ c.isAlpha = true := by
  simp [Char.isDigit, Char.isAlpha, Char.isUpper, Char.isLower, UInt32.le_iff_toNat_le] at h ⊢
  omega

theorem exists_start {name : String} (halnum : IsAlnum name) (hident : isGoIdentifier name = true) :
    ∃ c, name.toList.head? = some c ∧ c.isAlpha = true := by
  have hnewline : '\n' ∉ name.toList := fun h => absurd (halnum _ h) (by decide)
  have hform := ((isGoIdentifier_iff hnewline).1 hident).1
  cases hname : name.toList with
  | nil =>
    rw [hname] at hform
    cases hform
  | cons c cs =>
    rw [hname, isNameChars, Bool.and_eq_true] at hform
    have hstart := hform.1
    have hc := halnum c (by rw [hname]; exact List.mem_cons_self)
    simp only [isNameStart, Bool.or_eq_true, beq_iff_eq] at hstart
    refine ⟨c, rfl, hstart.resolve_right ?_⟩
    rintro rfl
    exact absurd hc (by decide)

/-- An identifier that starts as the camel case of a text does. -/
theorem startsLike_of_head? {name text : String} (halnum : IsAlnum name)
    (hident : isGoIdentifier name = true)
    (hhead : name.toList.head? = (camel text).toList.head?) : StartsLike name text := by
  obtain ⟨c, hc, halpha⟩ := exists_start halnum hident
  rcases camel_head_cases text with ⟨hnil, -⟩ | ⟨d, hd, hcases⟩
  · rw [hhead, hnil] at hc
    cases hc
  · obtain rfl : c = d := Option.some.inj (hc.symm.trans (hhead.trans hd))
    rcases hcases with hdigit | ⟨-, hupper⟩
    · exact absurd halpha (not_isAlpha_of_isDigit hdigit)
    · exact ⟨c, hc, halpha, hupper⟩

/-- An identifier that was claimed starts as the name that was wanted. -/
theorem head?_unusedName {r : Registry} {wanted : String} (halnum : IsAlnum wanted)
    (hident : isGoIdentifier (r.unusedName wanted) = true) :
    wanted ≠ "" ∧ (r.unusedName wanted).toList.head? = wanted.toList.head? := by
  obtain ⟨c, hc, halpha⟩ := exists_start (isAlnum_unusedName r halnum) hident
  unfold Registry.unusedName at hc ⊢
  cases hw : wanted.toList with
  | nil =>
    -- nothing but a number would be left
    exfalso
    obtain rfl : wanted = "" := String.toList_eq_nil_iff.1 hw
    split_ifs at hc
    · rw [String.empty_append, Nat.toString_eq_ofList_toDigits, String.toList_ofList] at hc
      exact not_isAlpha_of_isDigit (Nat.isDigit_of_mem_toDigits (b := 10) (by decide) (by decide)
        (List.mem_of_mem_head? hc)) halpha
    · cases hc
  | cons d ds =>
    constructor
    · rintro rfl
      cases hw
    split_ifs
    · rw [String.toList_append, hw]
      rfl
    · rw [hw]

/-- An object type starts as the camel case of its path. -/
theorem startsLike_pathName {r : Registry} {path : List String}
    (hident : isGoIdentifier (r.unusedName (Initialisms.goOrdered.pathName path)) = true) :
    StartsLike (r.unusedName (Initialisms.goOrdered.pathName path)) (Text.joinWith "_" path) := by
  have halnum := Initialisms.isAlnum_pathName path
  refine startsLike_of_head? (isAlnum_unusedName r halnum) hident ?_
  rw [(head?_unusedName halnum hident).2, Initialisms.head?_pathName]

/-- A message starts as the camel case of its type. -/
theorem startsLike_typeName {r : Registry} {type wanted : String} {major : Nat} {versioned : Bool}
    (hwanted : Initialisms.goOrdered.typeName [type] (some major) versioned = .ok wanted)
    (hident : isGoIdentifier (r.unusedName wanted) = true) :
    StartsLike (r.unusedName wanted) type := by
  have halnum := Initialisms.isAlnum_typeName hwanted
  have hhead := (head?_unusedName halnum hident).2
  rcases Initialisms.head?_typeName hwanted with hcamel | ⟨hnil, hv⟩
  · exact startsLike_of_head? (isAlnum_unusedName r halnum) hident (hhead.trans hcamel)
  -- only the version is left
  · rcases camel_head_cases type with ⟨-, hcapital⟩ | ⟨d, hd, -⟩
    · exact ⟨'V', hhead.trans hv, by decide, by simp [hcapital]⟩
    · rw [hnil] at hd
      cases hd

end Naming

namespace Go

open Schema (NodeId Graph Message Document)
open Naming (isGoIdentifier IsAlnum IsClean StartsLike)
open Source (Accepted)
open Text (isBlank)

variable {d : Document} {c : Compiled}

/-! ### Names in an accepted source -/

theorem line_mem_fieldsTexts {fs : List FieldDeclaration} {f : FieldDeclaration} (hf : f ∈ fs)
    (first : Bool) : f.line ∈ fieldsTexts first fs := by
  induction fs generalizing first with
  | nil => cases hf
  | cons f' fs ih =>
    rw [fieldsTexts]
    rcases List.mem_cons.1 hf with rfl | hf
    · exact List.mem_append_left _ (List.mem_append_right _ List.mem_cons_self)
    · exact List.mem_append_right _ (ih hf false)

theorem mem_sourceTexts {header package text : String} {base messages : List Declaration}
    {e : Declaration} (he : e ∈ base ++ messages) (h : text ∈ e.typeTexts) :
    text ∈ sourceTexts header package base messages := by
  have htext : text ∈ e.texts := List.mem_append_right _ h
  simp only [sourceTexts, List.mem_append, List.mem_flatMap]
  rcases List.mem_append.1 he with he | he
  · exact Or.inr (Or.inr (Or.inl ⟨e, he, Or.inl htext⟩))
  · exact Or.inr (Or.inr (Or.inr (Or.inr (Or.inl ⟨e, he, Or.inl htext⟩))))

/-- The first line of a field: its name, its type and the start of its tag. -/
theorem exists_line_mem_lines {f : FieldDeclaration} (hname : IsClean f.name)
    (htype : IsClean f.type) : ∃ u, '\t' :: (f.name.toList ++ ' ' :: (f.type.toList ++
      ' ' :: '\x60' :: u)) ∈ Text.lines f.line := by
  have hstart : ∀ u, '\n' ∉ u → '\n' ∉ '\t' :: (f.name.toList ++ ' ' :: (f.type.toList ++
      ' ' :: '\x60' :: u)) := by
    intro u hu
    simp [hname.newline_not_mem, htype.newline_not_mem, hu]
  rw [Text.lines, FieldDeclaration.line_toList]
  by_cases hrest : '\n' ∈ f.tagRest
  · obtain ⟨before, after, hsplit, hbefore⟩ := List.eq_append_cons_of_mem hrest
    have hline : '\t' :: (f.name.toList ++ ' ' :: (f.type.toList ++ ' ' :: '\x60' :: f.tagRest)) =
        '\t' :: (f.name.toList ++ ' ' :: (f.type.toList ++ ' ' :: '\x60' :: before)) ++
          '\n' :: after := by simp [hsplit]
    rw [hline, List.splitOn_append_cons_self, List.splitOn_eq_singleton (hstart before hbefore)]
    exact ⟨before, List.mem_cons_self⟩
  · rw [List.splitOn_eq_singleton (hstart _ hrest)]
    exact ⟨f.tagRest, List.mem_cons_self⟩

theorem Marked.isUnmarked {core type : String} (h : Marked core type)
    (hcore : Source.IsUnmarked core.toList) : Source.IsUnmarked type.toList := by
  have hmark : ∀ {mark type : String}, Source.IsUnmarked mark.toList →
      Source.IsUnmarked type.toList → Source.IsUnmarked (mark ++ type).toList := by
    intro mark type hmark htype c hc
    rw [String.toList_append] at hc
    exact (List.mem_append.1 hc).elim (hmark c) (htype c)
  induction h with
  | core => exact hcore
  | pointer _ ih => exact hmark (by decide) ih
  | slice _ ih => exact hmark (by decide) ih

theorem GivenNames.isAlnum (h : GivenNames defaultStyle d c) : ∀ name ∈ c.typeNames, IsAlnum name := by
  intro name hname
  rcases List.mem_append.1 hname with hname | hname
  · obtain ⟨e, he, rfl⟩ := List.mem_map.1 hname
    obtain ⟨path, id, r, -, -, heq⟩ := h.base e he
    rw [heq, initialisms_defaultStyle]
    exact Naming.isAlnum_unusedName r (Naming.Initialisms.isAlnum_pathName path)
  · obtain ⟨m, -, wanted, r, hwanted, rfl⟩ := h.messageNames name hname
    rw [initialisms_defaultStyle] at hwanted
    exact Naming.isAlnum_unusedName r (Naming.Initialisms.isAlnum_typeName hwanted)

/-- The type of a field is plain text if the names of the declared types are. -/
theorem type_of_declare {g : Graph} {r : Registry} {name docstring : String} {id : NodeId}
    {e : Declaration} (h : defaultStyle.declare g r name docstring id = .ok e)
    (hknown : ∀ x name, r.get? x = some name → IsAlnum name) :
    ∀ f ∈ e.fields, IsClean f.type ∧ Source.IsUnmarked f.type.toList := by
  intro f hf
  obtain ⟨core, hcore, hbasic | rfl | ⟨-, -, x, -, hx⟩⟩ := marked_of_declare h f hf
  · have hall : ∀ core ∈ defaultStyle.types.primitives,
        IsClean core ∧ Source.IsUnmarked core.toList := by decide
    exact ⟨hcore.isClean (hall core hbasic).1, hcore.isUnmarked (hall core hbasic).2⟩
  · exact ⟨hcore.isClean (by decide), hcore.isUnmarked (by decide)⟩
  · have hx := hknown x core hx
    exact ⟨hcore.isClean hx.isClean, hcore.isUnmarked hx.isUnmarked⟩

/-- A line that starts a type and has no blank behind it is accepted as it is. -/
theorem accepted_type_line {text : String} {c : Char} (rest : List Char)
    (haccepted : ∀ l ∈ Text.lines text, Accepted (Text.stripChars l))
    (hchars : text.toList = "type ".toList ++ rest) (hnewline : '\n' ∉ text.toList)
    (hlast : text.toList.getLast? = some c) (hc : isBlank c = false) :
    Accepted ("type ".toList ++ rest) := by
  have hmem : text.toList ∈ Text.lines text := by
    rw [Text.lines_of_not_mem hnewline]
    exact List.mem_cons_self
  have hstrip := Text.stripChars_eq_self (c := 't') (by rw [hchars]; rfl) (by decide) hlast hc
  have hline := haccepted _ hmem
  rwa [hstrip, hchars] at hline

/-- A declaration whose lines are accepted has identifiers for its names. -/
theorem identifiers_of_declare {g : Graph} {r : Registry} {name docstring : String} {id : NodeId}
    {e : Declaration} (h : defaultStyle.declare g r name docstring id = .ok e) (hname : IsAlnum name)
    (hknown : ∀ x name, r.get? x = some name → IsAlnum name)
    (haccepted : ∀ text ∈ e.typeTexts, ∀ l ∈ Text.lines text, Accepted (Text.stripChars l)) :
    isGoIdentifier e.name = true ∧ ∀ f ∈ e.fields, isGoIdentifier f.name = true := by
  obtain ⟨rfl, -, hunknown, hfields⟩ := fields_of_declare h
  have hsolid := hname.isClean.isSolid
  have hunknown : e.unknownType = "interface\x7b\x7d" := hunknown
  have hnewline := hname.isClean.newline_not_mem
  unfold Declaration.typeTexts at haccepted
  by_cases hempty : e.fields = []
  · refine ⟨?_, by simp [hempty]⟩
    rw [if_pos hempty, hunknown] at haccepted
    have h := accepted_type_line (e.name.toList ++ ' ' :: "map[string]interface\x7b\x7d".toList)
      (haccepted _ List.mem_cons_self) (by simp) (by simp [hnewline])
      (c := '\x7d') (by rw [String.toList_append, List.getLast?_append]; rfl) (by decide)
    have := Source.isGoIdentifier_of_accepted_alias hsolid (by decide) (by decide) (by decide) h
    rwa [String.ofList_toList] at this
  · rw [if_neg hempty] at haccepted
    refine ⟨?_, fun f hf => ?_⟩
    · have h := accepted_type_line (e.name.toList ++ " struct \x7b".toList)
        (haccepted _ List.mem_cons_self) (by simp) (by simp [hnewline])
        (c := '\x7b') (by rw [String.toList_append, List.getLast?_append]; rfl) (by decide)
      have := Source.isGoIdentifier_of_accepted_struct hsolid h
      rwa [String.ofList_toList] at this
    · obtain ⟨p, -, t, -, heq⟩ := exists_of_forall₂ hfields hf
      have hfieldName : f.name = defaultStyle.initialisms.fieldName p.1 := by rw [heq]
      have hfield : IsAlnum f.name := by
        rw [hfieldName, initialisms_defaultStyle]
        exact Naming.Initialisms.isAlnum_fieldName p.1
      obtain ⟨htype, hmarks⟩ := type_of_declare h hknown f hf
      obtain ⟨u, hu⟩ := exists_line_mem_lines hfield.isClean htype
      have hmem : f.line ∈ ("type " ++ e.name ++ " struct \x7b") ::
          (fieldsTexts true e.fields ++ ["\x7d"]) :=
        List.mem_cons_of_mem _ (List.mem_append_left _ (line_mem_fieldsTexts hf true))
      exact Source.isGoIdentifier_of_accepted_field hfield.isClean htype hfield.isUnmarked hmarks
        (haccepted _ hmem _ hu)

/-- Every declaration of a compiled document is that of a node. -/
theorem exists_declare_of_mem {s : Style} {e : Declaration} (hcompile : (compile s d).1 = .ok c)
    (he : e ∈ c.base ++ c.messages) : ∃ r docstring id,
      (∀ x name, Registry.get? r x = some name → name ∈ c.typeNames) ∧ e.name ∈ c.typeNames ∧
      s.declare d.graph r e.name docstring id = .ok e := by
  obtain ⟨hbase, hmessages⟩ := declared_of_compile hcompile
  rcases List.mem_append.1 he with he | he
  · obtain ⟨r, id, hknown, hname, hdeclare⟩ := hbase e he
    exact ⟨r, _, id, hknown, hname, hdeclare⟩
  · obtain ⟨m, -, r, hknown, hname, hdeclare⟩ := hmessages e he
    exact ⟨r, _, m.node, hknown, hname, hdeclare⟩

/-- **All names in an accepted source are identifiers.** -/
theorem identifiers_of_readItems {items : List Source.Item}
    (hcompile : (compile defaultStyle d).1 = .ok c)
    (h : Source.readItems (defaultStyle.fileText c.baseTexts c.messageTexts) = .ok items) :
    ∀ e ∈ c.base ++ c.messages,
      isGoIdentifier e.name = true ∧ ∀ f ∈ e.fields, isGoIdentifier f.name = true := by
  have halnum := (givenNames_of_compile hcompile).isAlnum
  have hclean : ∀ e ∈ c.base ++ c.messages, IsClean e.unknownType := by
    intro e he
    obtain ⟨r, docstring, id, -, -, hdeclare⟩ := exists_declare_of_mem hcompile he
    rw [(fields_of_declare hdeclare).2.2.1]
    decide
  rw [readItems_eq_readLines _ hclean] at h
  intro e he
  obtain ⟨r, docstring, id, hknown, hname, hdeclare⟩ := exists_declare_of_mem hcompile he
  refine identifiers_of_declare hdeclare (halnum _ hname)
    (fun x name hx => halnum name (hknown x name hx)) fun text htext l hl => ?_
  refine Source.accepted_of_mem h (List.mem_map_of_mem (List.mem_append_left _ ?_))
  exact List.mem_flatMap.2 ⟨text, mem_sourceTexts he htext, hl⟩

/-! ### Generated models -/

/-- **Which names of generated models are exported**: every type and every field starts with a
letter, and that is in upper case unless the text that it was made of loses it. A type is named by
the place of an object or the type of a message, a field by its property. -/
theorem exported_iff {contents : Json} {g : Generated}
    (hread : (Schema.read [] contents).1 = .ok d)
    (hgenerate : (generate .default contents).1 = .ok g) :
    ∃ c, (compile defaultStyle d).1 = .ok c ∧
      (∀ e ∈ c.base, ∃ path id r, Place d c.messageNames path id ∧ d.graph.IsObject id ∧
        e.name = Registry.unusedName r (defaultStyle.initialisms.pathName path) ∧
        StartsLike e.name (Text.joinWith "_" path)) ∧
      (∀ e ∈ c.messages, ∃ m ∈ d.messages, ∃ wanted r,
        defaultStyle.initialisms.typeName [m.type] (some m.major) (d.isVersioned m.type) =
          .ok wanted ∧
        e.name = Registry.unusedName r wanted ∧ StartsLike e.name m.type) ∧
      ∀ e ∈ c.base ++ c.messages, ∀ f ∈ e.fields,
        f.name = defaultStyle.initialisms.fieldName f.key ∧ StartsLike f.name f.key := by
  obtain ⟨c, code, hcompile, hformat, rfl⟩ := generateDocument_eq_ok.1
    ((generate_eq_ok customFormats_default hread style_default).1 hgenerate)
  obtain ⟨items, hitems, -⟩ := map_eq_ok.1 hformat
  have hident := identifiers_of_readItems hcompile hitems
  have hgiven := givenNames_of_compile hcompile
  refine ⟨c, hcompile, fun e he => ?base, fun e he => ?message, fun e he f hf => ?field⟩
  case base =>
    have hname := (hident e (List.mem_append_left _ he)).1
    obtain ⟨path, id, r, hplace, ho, heq⟩ := hgiven.base e he
    refine ⟨path, id, r, hplace, ho, heq, ?_⟩
    rw [heq, initialisms_defaultStyle] at hname ⊢
    exact Naming.startsLike_pathName hname
  case message =>
    have hname := (hident e (List.mem_append_right _ he)).1
    obtain ⟨m, hm, heq, -⟩ := exists_of_forall₂ hgiven.messages he
    -- two messages may share a key, so the name may have been given for another one
    obtain ⟨m', hm', wanted, r, hwanted, hunused⟩ := hgiven.messageNames _ (hgiven.named m hm)
    refine ⟨m', hm', wanted, r, hwanted, heq.trans hunused, ?_⟩
    rw [heq, hunused] at hname ⊢
    rw [initialisms_defaultStyle] at hwanted
    exact Naming.startsLike_typeName hwanted hname
  case field =>
    have hname := (hident e he).2 f hf
    obtain ⟨r, docstring, id, -, -, hdeclare⟩ := exists_declare_of_mem hcompile he
    obtain ⟨p, -, t, -, heq⟩ := exists_of_forall₂ (fields_of_declare hdeclare).2.2.2 hf
    have hfield : f.name = defaultStyle.initialisms.fieldName f.key := by rw [heq]
    refine ⟨hfield, ?_⟩
    rw [hfield, initialisms_defaultStyle] at hname ⊢
    exact Naming.startsLike_of_head? (Naming.Initialisms.isAlnum_fieldName f.key) hname
      (Naming.Initialisms.head?_fieldName f.key)

/-! #### A field that is hidden -/

/-- A trip with a property that starts with a letter that is dropped. -/
def lowered : Json := documentOf (objectOf [("éa", .obj [("type", .str "string")])]) []

set_option maxRecDepth 100000 in
theorem lowered_generates : ∃ d c g, (Schema.read [] lowered).1 = .ok d ∧
    (compile defaultStyle d).1 = .ok c ∧ (generate .default lowered).1 = .ok g ∧
    c.typeNames = ["Trip"] ∧ c.messages.map (fun e => e.fields.map (·.name)) = [["a"]] := by
  have h : ((acceptableUnder defaultStyle lowered).map fun p =>
      decide (p.2.typeNames = ["Trip"] ∧
        p.2.messages.map (fun e => e.fields.map (·.name)) = [["a"]])) = some true := by
    decide +kernel
  obtain ⟨⟨d, c⟩, haccepted, h⟩ := Option.map_eq_some_iff.1 h
  obtain ⟨hread, hcompile, -⟩ := acceptableUnder_eq_some haccepted
  obtain ⟨g, -, hg, -⟩ := exists_generated_by_default haccepted
  exact ⟨d, c, g, hread, hcompile, hg, of_decide_eq_true h⟩

theorem lowered_exported_iff : ∃ d c g, (Schema.read [] lowered).1 = .ok d ∧
    (generate .default lowered).1 = .ok g ∧ (compile defaultStyle d).1 = .ok c ∧
    c.messages.map (fun e => e.fields.map (·.name)) = [["a"]] ∧
    (∀ e ∈ c.messages, ∃ m ∈ d.messages, StartsLike e.name m.type) ∧
    ∀ e ∈ c.base ++ c.messages, ∀ f ∈ e.fields, StartsLike f.name f.key := by
  obtain ⟨d, c, g, hread, hcompile, hgenerate, -, hfields⟩ := lowered_generates
  obtain ⟨c', hc', -, hmessages, hall⟩ := exported_iff hread hgenerate
  obtain rfl := Except.ok.inj (hcompile.symm.trans hc')
  refine ⟨d, c, g, hread, hgenerate, hcompile, hfields, fun e he => ?_, fun e he f hf =>
    (hall e he f hf).2⟩
  obtain ⟨m, hm, -, -, -, -, hstarts⟩ := hmessages e he
  exact ⟨m, hm, hstarts⟩

/-- A field can start with a lower-case letter. -/
theorem lowered_field_hidden : ∃ d c g, (Schema.read [] lowered).1 = .ok d ∧
    (compile defaultStyle d).1 = .ok c ∧ (generate .default lowered).1 = .ok g ∧
    ∃ e ∈ c.messages, ∃ f ∈ e.fields, f.name.toList.head?.any Char.isUpper = false := by
  obtain ⟨d, c, g, hread, hcompile, hgenerate, -, hfields⟩ := lowered_generates
  refine ⟨d, c, g, hread, hcompile, hgenerate, ?_⟩
  have hmem : ["a"] ∈ c.messages.map fun e => e.fields.map (·.name) := by
    rw [hfields]
    exact List.mem_cons_self
  obtain ⟨e, he, hnames⟩ := List.mem_map.1 hmem
  have hname : "a" ∈ e.fields.map (·.name) := by
    rw [hnames]
    exact List.mem_cons_self
  obtain ⟨f, hf, hname⟩ := List.mem_map.1 hname
  exact ⟨e, he, f, hf, by rw [hname]; rfl⟩

end Go

end StructGen
