import StructGen.Source.Item
import StructGen.Proofs.NameCharacters
import StructGen.Proofs.Outcome

/-!
# Lines of a source

What a line of a source is read as, for the lines that generated sources consist of.

* `readTopLine_structOpen`, `readTopLine_alias` and their companions are about lines outside structs;
* `readBodyLine_eq_ok_iff` is about the line of a field, however its tag goes on;
* `Reader` reads a source line by line, and `readItems_eq_ok_iff` says that it reads the same items.
-/

namespace StructGen

namespace Source

open Text (IsSolid isBlank words)

variable {n : Nat} {packaged : Bool} {cs : List Char}

/-! ### Names and types -/

theorem checkName_eq_ok {name : String} :
    checkName n cs = .ok name ↔ Naming.isGoIdentifier name = true ∧ name = String.ofList cs := by
  unfold checkName
  dsimp only
  split_ifs with h
  · grind
  · grind

theorem checkType_eq_ok {type : String} :
    checkType n cs = .ok type ↔ isTypeChars cs = true ∧ type = String.ofList cs := by
  unfold checkType
  split_ifs with h
  · grind
  · grind

theorem isTypeChars_map (cs : List Char) :
    isTypeChars ("map[string]".toList ++ cs) = isTypeChars cs := by
  have h : "map[string]".toList = ['m', 'a', 'p', '[', 's', 't', 'r', 'i', 'n', 'g', ']'] := by decide
  rw [h]
  rfl

/-! ### Lines outside structs -/

@[simp] theorem readTopLine_nil : readTopLine n packaged [] = .ok (.item .blank) := rfl

/-- A comment outside structs. -/
def IsComment (cs : List Char) : Prop :=
  "//".toList <+: cs ∨ "/*".toList <+: cs ∧ "*/".toList <:+ cs

theorem readTopLine_comment (h : IsComment cs) :
    readTopLine n packaged cs = .ok (.item (.comment (String.ofList cs))) := by
  rcases h with ⟨ds, rfl⟩ | ⟨⟨ds, rfl⟩, hend⟩
  · simp [readTopLine]
  · have hend : "*/".toList.isSuffixOf ("/*".toList ++ ds) = true :=
      List.isSuffixOf_iff_suffix.2 hend
    simp only [readTopLine, hend]
    simp

/-- A line that is neither blank nor a comment, and no package clause either. -/
theorem readTopLine_eq_readDeclaration {c : Char} (hcs : cs.head? = some c) (hc : c ≠ '/')
    (h : ∀ name, words cs ≠ ["package".toList, name]) :
    readTopLine n true cs = readDeclaration n cs := by
  obtain ⟨ds, rfl⟩ := List.head?_eq_some_iff.1 hcs
  have hslash : "//".toList.isPrefixOf (c :: ds) = false := by simp [List.isPrefixOf, hc.symm]
  have hstar : "/*".toList.isPrefixOf (c :: ds) = false := by simp [List.isPrefixOf, hc.symm]
  unfold readTopLine
  simp only [hslash, hstar, List.isEmpty_cons, Bool.false_eq_true, if_false]
  split
  · rename_i key name hwords
    rw [if_neg fun hkey => h name (by rw [hwords, eq_of_beq hkey])]
    rfl
  · rfl

theorem readTopLine_package {name : List Char} (hsolid : IsSolid name) (hne : name ≠ []) :
    readTopLine n false ("package ".toList ++ name) =
      (fun name => .item (.package name)) <$> checkName n name := by
  have hwords : words ("package ".toList ++ name) = ["package".toList, name] := by
    have hkey : IsSolid "package".toList := by decide
    have h := Text.words_append_cons (c := ' ') name hkey (by decide) rfl
    rw [Text.words_of_isSolid hsolid hne] at h
    exact h
  unfold readTopLine
  rw [hwords]
  simp

/-! #### Declarations of types -/

/-- A line that starts as a type declaration. -/
theorem readTopLine_type (n : Nat) (cs : List Char) :
    readTopLine n true ("type ".toList ++ cs) = readDeclaration n ("type ".toList ++ cs) ∧
      words ("type ".toList ++ cs) = "type".toList :: words cs := by
  have hkey : IsSolid "type".toList := by decide
  have hwords : words ("type ".toList ++ cs) = "type".toList :: words cs :=
    Text.words_append_cons (c := ' ') cs hkey (by decide) rfl
  refine ⟨readTopLine_eq_readDeclaration (c := 't') (by simp) (by decide) fun name h => ?_, hwords⟩
  rw [hwords] at h
  exact absurd (List.cons.inj h).1 (by decide)

/-- The words of a line that opens a struct. -/
theorem words_structOpen {name : List Char} (hsolid : IsSolid name) (hne : name ≠ []) :
    words (name ++ " struct \x7b".toList) = [name, "struct".toList, "\x7b".toList] := by
  have h := Text.words_append_cons (c := ' ') "struct \x7b".toList hsolid hne rfl
  rw [show words "struct \x7b".toList = ["struct".toList, "\x7b".toList] by decide] at h
  exact h

/-- The line that opens a struct. -/
theorem readTopLine_structOpen {name : List Char} (hsolid : IsSolid name) {t : TopLine} :
    readTopLine n true ("type ".toList ++ (name ++ " struct \x7b".toList)) = .ok t ↔
      Naming.isGoIdentifier (String.ofList name) = true ∧ t = .opens (String.ofList name) := by
  obtain ⟨hread, hwords⟩ := readTopLine_type n (name ++ " struct \x7b".toList)
  rw [hread]
  unfold readDeclaration
  rw [hwords]
  by_cases hne : name = []
  -- the word behind the key would be reserved
  · subst hne
    have hreserved : ∀ name, checkName n "struct".toList ≠ .ok name := by
      intro name h
      obtain ⟨hname, rfl⟩ := checkName_eq_ok.1 h
      exact absurd hname (by decide)
    have hempty : Naming.isGoIdentifier (String.ofList []) = false := by decide
    rw [show words ([] ++ " struct \x7b".toList) = ["struct".toList, "\x7b".toList] by decide, hempty]
    simp only [beq_self_eq_true, if_true, Bool.false_eq_true, false_and, iff_false, bind_eq_ok]
    rintro ⟨name, h, -⟩
    exact hreserved name h
  · rw [words_structOpen hsolid hne]
    simp only [beq_self_eq_true, Bool.and_self, if_true, map_eq_ok, checkName_eq_ok]
    constructor
    · rintro ⟨a, ⟨hname, rfl⟩, rfl⟩
      exact ⟨hname, rfl⟩
    · rintro ⟨hname, rfl⟩
      exact ⟨_, ⟨hname, rfl⟩, rfl⟩

/-- The line that declares a type other than a struct. -/
theorem readTopLine_alias {name type : List Char} (hname : IsSolid name) (htype : IsSolid type)
    (hne : type ≠ []) (hstruct : type ≠ "struct\x7b".toList) {t : TopLine} :
    readTopLine n true ("type ".toList ++ (name ++ ' ' :: type)) = .ok t ↔
      Naming.isGoIdentifier (String.ofList name) = true ∧ isTypeChars type = true ∧
        t = .item (.alias (String.ofList name) (String.ofList type)) := by
  obtain ⟨hread, hwords⟩ := readTopLine_type n (name ++ ' ' :: type)
  rw [hread]
  unfold readDeclaration
  rw [hwords]
  by_cases hempty : name = []
  · subst hempty
    have hno : Naming.isGoIdentifier (String.ofList []) = false := by decide
    rw [List.nil_append, Text.words_cons_of_blank _ rfl, Text.words_of_isSolid htype hne, hno]
    simp [functionName?]
  · rw [Text.words_append_cons type hname hempty rfl, Text.words_of_isSolid htype hne]
    simp only [beq_self_eq_true, if_true, beq_eq_false_iff_ne.2 hstruct, Bool.false_eq_true, if_false,
      bind_eq_ok, checkName_eq_ok, checkType_eq_ok]
    constructor
    · rintro ⟨a, ⟨hname, rfl⟩, b, ⟨htype, rfl⟩, ht⟩
      exact ⟨hname, htype, (Except.ok.inj ht).symm⟩
    · rintro ⟨hname, htype, rfl⟩
      exact ⟨_, ⟨hname, rfl⟩, _, ⟨htype, rfl⟩, rfl⟩

/-! #### Functions -/

/-- The name of a function without arguments. -/
theorem functionName?_func {name : List Char} (hname : Naming.isNameChars name = true)
    (rest : List Char) : functionName? ("func ".toList ++ (name ++ '(' :: rest)) = some name := by
  have hchars := Naming.isNameChar_of_isNameChars hname
  obtain ⟨c, cs, rfl⟩ : ∃ c cs, name = c :: cs := by
    cases name with
    | nil => cases hname
    | cons c cs => exact ⟨c, cs, rfl⟩
  have hblank : isBlank c = false := Naming.isBlank_of_isNameChar (hchars c List.mem_cons_self)
  have hdrop : ((c :: cs) ++ '(' :: rest).dropWhile isBlank = (c :: cs) ++ '(' :: rest :=
    List.dropWhile_cons_of_neg (by simp [hblank])
  have htake : ((c :: cs) ++ '(' :: rest).takeWhile Naming.isNameChar = c :: cs := by
    rw [List.takeWhile_append_of_pos hchars, List.takeWhile_cons_of_neg (by decide), List.append_nil]
  have hafter : ('(' :: rest).dropWhile isBlank = '(' :: rest :=
    List.dropWhile_cons_of_neg (by decide)
  have hfunc : "func ".toList = ['f', 'u', 'n', 'c', ' '] := by decide
  simp only [hfunc, List.cons_append, List.nil_append, functionName?] at hdrop htake ⊢
  simp [hdrop, htake, hafter, hname, show isBlank ' ' = true by decide]

/-- A line that declares a function and closes it. -/
structure IsFunction (cs : List Char) : Prop where
  name : ∃ name, functionName? cs = some name ∧
    Naming.isGoIdentifier (String.ofList name) = true
  braces : cs.count '\x7b' = cs.count '\x7d'
  last : cs.getLast? = some '\x7d'

/-- The first word of a line that declares a function. -/
theorem words_of_functionName? {name : List Char} (h : functionName? cs = some name) :
    cs.head? = some 'f' ∧ ∃ ws, words cs = "func".toList :: ws := by
  unfold functionName? at h
  split at h
  · rename_i c rest
    split_ifs at h with hc
    refine ⟨rfl, words rest, ?_⟩
    have hfunc : IsSolid "func".toList := by decide
    exact Text.words_append_cons rest hfunc (by decide) hc
  · cases h

theorem readTopLine_function (h : IsFunction cs) :
    readTopLine n true cs = .ok (.item (.function (String.ofList cs))) := by
  obtain ⟨⟨name, hname, hident⟩, hbraces, hlast⟩ := h
  obtain ⟨hhead, ws, hwords⟩ := words_of_functionName? hname
  have hcheck : checkName n name = .ok (String.ofList name) := checkName_eq_ok.2 ⟨hident, rfl⟩
  rw [readTopLine_eq_readDeclaration hhead (by decide)]
  · unfold readDeclaration
    rw [hwords, hname, hbraces, hlast]
    dsimp only
    rw [hcheck]
    split
    · rename_i key _ _ heq
      have hkey := (List.cons.inj heq).1
      subst hkey
      rw [if_neg (by decide)]
      simp [pure, Except.pure, bind, Except.bind]
    · rename_i key _ _ _ heq
      have hkey := (List.cons.inj heq).1
      subst hkey
      rw [if_neg (by simp)]
      simp [pure, Except.pure, bind, Except.bind]
    · simp [pure, Except.pure, bind, Except.bind]
  · intro name' h
    rw [hwords] at h
    exact absurd (List.cons.inj h).1 (by decide)

/-! #### What lines are -/

/-- An identifier as it stands between blanks. -/
structure IsWord (name : String) : Prop where
  ident : Naming.isGoIdentifier name = true
  solid : IsSolid name.toList

/-- A type as it stands between blanks. -/
structure IsTypeWord (type : String) : Prop where
  form : isTypeChars type.toList = true
  solid : IsSolid type.toList

/-- The words of a line that opens a struct. -/
def OpensWith (name : String) (cs : List Char) : Prop :=
  words cs = ["type".toList, name.toList, "struct\x7b".toList] ∨
    words cs = ["type".toList, name.toList, "struct".toList, "\x7b".toList]

/-- What a line after the package clause can be. -/
theorem readDeclaration_ok_cases {t : TopLine} (h : readDeclaration n cs = .ok t) :
    (∃ name, IsWord name ∧ OpensWith name cs ∧ t = .opens name) ∨
      (∃ name type, IsWord name ∧ IsTypeWord type ∧
        words cs = ["type".toList, name.toList, type.toList] ∧ t = .item (.alias name type)) ∨
      IsFunction cs ∧ t = .item (.function (String.ofList cs)) := by
  have hword : ∀ {w : List Char} {name : String}, w ∈ words cs → checkName n w = .ok name →
      IsWord name ∧ w = name.toList := by
    intro w name hw h
    obtain ⟨hident, rfl⟩ := checkName_eq_ok.1 h
    rw [String.toList_ofList]
    exact ⟨⟨hident, by simpa using Text.isSolid_of_mem_words hw⟩, rfl⟩
  unfold readDeclaration at h
  extract_lets type done function at h
  have hfunction : function = .ok t → IsFunction cs ∧ t = .item (.function (String.ofList cs)) := by
    intro h
    simp only [function] at h
    split at h
    · rename_i name hname
      obtain ⟨given, hgiven, h⟩ := bind_eq_ok.1 h
      obtain ⟨hident, rfl⟩ := checkName_eq_ok.1 hgiven
      split_ifs at h with hbraces
      · cases h
      · simp only [Bool.or_eq_true, bne_iff_ne, not_or, not_not] at hbraces
        exact ⟨⟨⟨name, hname, hident⟩, hbraces.1, hbraces.2⟩, (Except.ok.inj h).symm⟩
    · cases h
  split at h
  · rename_i key name third hwords
    rw [hwords] at hword
    split at h
    · rename_i hkey
      obtain rfl := eq_of_beq hkey
      obtain ⟨given, hgiven, hrest⟩ := bind_eq_ok.1 h
      obtain ⟨hname, rfl⟩ := hword (by simp) hgiven
      split at hrest
      · rename_i hthird
        obtain rfl := eq_of_beq hthird
        exact Or.inl ⟨given, hname, Or.inl hwords, (Except.ok.inj hrest).symm⟩
      · obtain ⟨given', hgiven', hrest⟩ := bind_eq_ok.1 hrest
        obtain ⟨hform, rfl⟩ := checkType_eq_ok.1 hgiven'
        have hmem : third ∈ words cs := by simp [hwords]
        have hsolid : IsSolid third := Text.isSolid_of_mem_words hmem
        have hchars : (String.ofList third).toList = third := String.toList_ofList
        refine Or.inr (Or.inl ⟨given, _, hname, ⟨?_, ?_⟩, ?_, (Except.ok.inj hrest).symm⟩)
        · rwa [hchars]
        · rwa [hchars]
        · rw [hwords, hchars]
    · exact Or.inr (Or.inr (hfunction h))
  · rename_i key name third brace hwords
    rw [hwords] at hword
    split_ifs at h with hopens
    · simp only [Bool.and_eq_true, beq_iff_eq] at hopens
      obtain ⟨⟨rfl, rfl⟩, rfl⟩ := hopens
      obtain ⟨given, hgiven, rfl⟩ := map_eq_ok.1 h
      obtain ⟨hname, rfl⟩ := hword (by simp) hgiven
      exact Or.inl ⟨given, hname, Or.inr hwords, rfl⟩
    · exact Or.inr (Or.inr (hfunction h))
  · exact Or.inr (Or.inr (hfunction h))

/-- What a line outside structs can be. -/
theorem readTopLine_ok_cases {t : TopLine} (h : readTopLine n packaged cs = .ok t) :
    (cs = [] ∧ t = .item .blank) ∨
      (IsComment cs ∧ t = .item (.comment (String.ofList cs))) ∨
      (packaged = false ∧ ∃ name, IsWord name ∧ words cs = ["package".toList, name.toList] ∧
        t = .item (.package name)) ∨
      packaged = true ∧ ((∃ name, IsWord name ∧ OpensWith name cs ∧ t = .opens name) ∨
        (∃ name type, IsWord name ∧ IsTypeWord type ∧
          words cs = ["type".toList, name.toList, type.toList] ∧ t = .item (.alias name type)) ∨
        IsFunction cs ∧ t = .item (.function (String.ofList cs))) := by
  unfold readTopLine at h
  by_cases hempty : cs.isEmpty = true
  · rw [if_pos hempty] at h
    exact Or.inl ⟨List.isEmpty_iff.1 hempty, (Except.ok.inj h).symm⟩
  by_cases hslash : "//".toList.isPrefixOf cs = true
  · rw [if_neg hempty, if_pos hslash] at h
    exact Or.inr (Or.inl ⟨Or.inl (List.isPrefixOf_iff_prefix.1 hslash), (Except.ok.inj h).symm⟩)
  rw [if_neg hempty, if_neg hslash] at h
  refine Or.inr ?_
  split at h
  · rename_i hstar
    split at h
    · rename_i hend
      exact Or.inl ⟨Or.inr ⟨List.isPrefixOf_iff_prefix.1 hstar, List.isSuffixOf_iff_suffix.1 hend⟩,
        (Except.ok.inj h).symm⟩
    · cases h
  refine Or.inr ?_
  split at h
  · rename_i key name hwords
    split at h
    · rename_i hkey
      obtain rfl := eq_of_beq hkey
      split at h
      · cases h
      · rename_i hpackaged
        obtain ⟨given, hgiven, rfl⟩ := map_eq_ok.1 h
        obtain ⟨hident, rfl⟩ := checkName_eq_ok.1 hgiven
        have hmem : name ∈ words cs := by simp [hwords]
        have hsolid : IsSolid name := Text.isSolid_of_mem_words hmem
        have hchars : (String.ofList name).toList = name := String.toList_ofList
        exact Or.inl ⟨by simpa using hpackaged, _, ⟨hident, by rwa [hchars]⟩, by rw [hwords, hchars], rfl⟩
    · split at h
      · rename_i hpackaged
        exact Or.inr ⟨hpackaged, readDeclaration_ok_cases h⟩
      · cases h
  · split at h
    · rename_i hpackaged
      exact Or.inr ⟨hpackaged, readDeclaration_ok_cases h⟩
    · cases h

/-! ### Lines of a struct body -/

@[simp] theorem readBodyLine_nil : readBodyLine n [] = .ok .blank := rfl

theorem readBodyLine_comment (cs : List Char) :
    readBodyLine n ('/' :: '/' :: cs) = .ok (.comment (String.ofList ('/' :: '/' :: cs))) := by
  simp [readBodyLine]

theorem readBodyLine_eq_readField {c : Char} (hcs : cs.head? = some c) (hc : c ≠ '/') :
    readBodyLine n cs = BodyLine.field <$> readField n cs := by
  obtain ⟨ds, rfl⟩ := List.head?_eq_some_iff.1 hcs
  have hslash : "//".toList.isPrefixOf (c :: ds) = false := by simp [List.isPrefixOf, hc.symm]
  simp only [readBodyLine, hslash, List.isEmpty_cons, Bool.false_eq_true, if_false]

theorem cutWord_append_cons {c : Char} (ds : List Char) (hcs : IsSolid cs) (hc : isBlank c = true) :
    cutWord (cs ++ c :: ds) = (cs, ds.dropWhile isBlank) := by
  have hsolid : ∀ d ∈ cs, (!isBlank d) = true := fun d hd => by simp [hcs d hd]
  rw [cutWord, List.takeWhile_append_of_pos hsolid, List.dropWhile_append_of_pos hsolid,
    List.takeWhile_cons_of_neg (by simp [hc]), List.dropWhile_cons_of_neg (by simp [hc]),
    List.dropWhile_cons_of_pos hc, List.append_nil]

theorem cutWord_of_isSolid (hcs : IsSolid cs) : cutWord cs = (cs, []) := by
  have hsolid : ∀ d ∈ cs, (!isBlank d) = true := fun d hd => by simp [hcs d hd]
  rw [cutWord, List.takeWhile_eq_self_iff.2 hsolid, List.dropWhile_eq_nil_iff.2 hsolid,
    List.dropWhile_nil]

/-- When a field is read: there are a name, a type and, if anything more, a tag. -/
theorem readField_eq_ok {name rest type tag : List Char} (hcs : cutWord cs = (name, rest))
    (hrest : cutWord rest = (type, tag)) {f : Field} :
    readField n cs = .ok f ↔
      (rest ≠ [] ∧ Naming.isGoIdentifier (String.ofList name) = true ∧ isTypeChars type = true ∧
        (tag = [] ∨ isBackQuoted tag = true ∧ isJsonTag tag = true)) ∧
      f = ⟨String.ofList name, String.ofList type, String.ofList tag⟩ := by
  unfold readField
  simp only [hcs, hrest]
  by_cases hempty : rest = []
  · simp [hempty, throw, throwThe, MonadExceptOf.throw, bind, Except.bind]
  by_cases htag : tag = []
  · simp [hempty, htag, bind_eq_ok, checkName_eq_ok, checkType_eq_ok, pure, Except.pure]
    grind
  by_cases hquoted : isBackQuoted tag = true
  · by_cases hjson : isJsonTag tag = true
    · simp [hempty, htag, hquoted, hjson, bind_eq_ok, checkName_eq_ok, checkType_eq_ok, pure,
        Except.pure]
      grind
    · simp [hempty, htag, hquoted, hjson, bind_eq_ok, throw, throwThe, MonadExceptOf.throw]
  · simp [hempty, htag, hquoted, bind_eq_ok, throw, throwThe, MonadExceptOf.throw]

/-- A word that starts with a back quote is no name. -/
theorem isGoIdentifier_backQuote (cs : List Char) :
    Naming.isGoIdentifier (String.ofList ('\x60' :: cs)) = false := by
  have hform : Naming.hasNameForm (String.ofList ('\x60' :: cs)) = false := by
    rw [Naming.hasNameForm, Naming.dropFinalNewline, String.toList_ofList]
    split_ifs
    · cases cs with
      | nil => rfl
      | cons c cs => rfl
    · rfl
  rw [Naming.isGoIdentifier, hform, Bool.false_and]

/-- A type holds no back quotes. -/
theorem backQuote_not_mem_of_isTypeChars (h : isTypeChars cs = true) : '\x60' ∉ cs := by
  have hname : ∀ {ds : List Char}, Naming.isNameChars ds = true → '\x60' ∉ ds := fun h hmem =>
    absurd (Naming.isNameChar_of_isNameChars h _ hmem) (by decide)
  fun_induction isTypeChars cs with
  | case1 cs ih => simpa using ih h
  | case2 cs ih => simpa using ih h
  | case3 cs ih => simpa using ih h
  | case4 cs =>
    rw [isTypeName, Bool.or_eq_true, Bool.or_eq_true] at h
    rcases h with (h | h) | h
    · exact hname h
    · intro hmem
      obtain ⟨part, hpart, hmem⟩ : ∃ part ∈ cs.splitOn '.', '\x60' ∈ part :=
        Text.exists_mem_splitOn hmem (by decide)
      split at h
      · rename_i package name hparts
        rw [Bool.and_eq_true] at h
        rw [hparts] at hpart
        rcases List.mem_cons.1 hpart with rfl | hpart
        · exact hname h.1 hmem
        · rw [List.mem_singleton.1 hpart] at hmem
          exact hname h.2 hmem
      · cases h
    · rw [eq_of_beq h]
      decide

/-- A word that starts with a back quote is no type. -/
theorem isTypeChars_backQuote (cs : List Char) : isTypeChars ('\x60' :: cs) = false := by
  by_contra h
  exact backQuote_not_mem_of_isTypeChars (by simpa using h) List.mem_cons_self

theorem isBackQuoted_cons (cs : List Char) : isBackQuoted ('\x60' :: cs) =
    (cs.getLast? == some '\x60' && cs.count '\x60' == 1) := rfl

theorem exists_of_isBackQuoted (h : isBackQuoted cs = true) :
    ∃ ds, cs = '\x60' :: ds ∧ cs.getLast? = some '\x60' := by
  unfold isBackQuoted at h
  split at h
  · rename_i ds
    simp only [Bool.and_eq_true, beq_iff_eq] at h
    refine ⟨ds, rfl, ?_⟩
    rw [List.getLast?_cons, h.1]
    rfl
  · cases h

theorem isBackQuoted_open (h : '\x60' ∉ cs) : isBackQuoted ('\x60' :: cs) = false := by
  simp [isBackQuoted_cons, List.count_eq_zero.2 h]

/-- A tag in the place of the name. -/
theorem readField_tag_ne_ok (u : List Char) {f : Field} : readField n ('\x60' :: u) ≠ .ok f := by
  intro h
  have hcut : cutWord ('\x60' :: u) =
      ('\x60' :: u.takeWhile (!isBlank ·), (cutWord ('\x60' :: u)).2) := by
    rw [cutWord, List.takeWhile_cons_of_pos (by decide)]
  obtain ⟨⟨-, hname, -⟩, -⟩ := (readField_eq_ok hcut rfl).1 h
  rw [isGoIdentifier_backQuote] at hname
  cases hname

/-- A tag in the place of the type. -/
theorem readField_name_tag_ne_ok {name ds u : List Char} (hname : IsSolid name)
    (hds : ds.dropWhile isBlank = '\x60' :: u) {f : Field} :
    readField n (name ++ ' ' :: ds) ≠ .ok f := by
  intro h
  have hcut : cutWord (name ++ ' ' :: ds) = (name, '\x60' :: u) := by
    rw [cutWord_append_cons ds hname (by decide), hds]
  have hcut' : cutWord ('\x60' :: u) =
      ('\x60' :: u.takeWhile (!isBlank ·), (cutWord ('\x60' :: u)).2) := by
    rw [cutWord, List.takeWhile_cons_of_pos (by decide)]
  obtain ⟨⟨-, -, htype, -⟩, -⟩ := (readField_eq_ok hcut hcut').1 h
  rw [isTypeChars_backQuote] at htype
  cases htype

/-- A name, a type and what follows a back quote. -/
theorem readField_name_type_tag {name type u : List Char} (hname : IsSolid name)
    (htype : IsSolid type) (hne : type ≠ []) {f : Field} :
    readField n (name ++ ' ' :: (type ++ ' ' :: '\x60' :: u)) = .ok f ↔
      (Naming.isGoIdentifier (String.ofList name) = true ∧ isTypeChars type = true ∧
        isBackQuoted ('\x60' :: u) = true ∧ isJsonTag ('\x60' :: u) = true) ∧
      f = ⟨String.ofList name, String.ofList type, String.ofList ('\x60' :: u)⟩ := by
  have hrest : (type ++ ' ' :: '\x60' :: u).dropWhile isBlank = type ++ ' ' :: '\x60' :: u := by
    obtain ⟨c, cs, rfl⟩ := List.exists_cons_of_ne_nil hne
    exact List.dropWhile_cons_of_neg (by simp [htype c List.mem_cons_self])
  have hcut := cutWord_append_cons (c := ' ') (type ++ ' ' :: '\x60' :: u) hname (by decide)
  have hcut' := cutWord_append_cons (c := ' ') ('\x60' :: u) htype (by decide)
  rw [hrest] at hcut
  rw [List.dropWhile_cons_of_neg (by decide)] at hcut'
  rw [readField_eq_ok hcut hcut']
  simp

/-- The line of a field, its tag going on as it may. -/
theorem readBodyLine_field {name type : String} (hname : Naming.IsClean name)
    (htype : Naming.IsClean type) (u : List Char) {l : BodyLine} :
    readBodyLine n (Text.stripChars ('\t' :: (name.toList ++ ' ' :: (type.toList ++
        ' ' :: '\x60' :: u)))) = .ok l ↔
      (Naming.isGoIdentifier name = true ∧ isTypeChars type.toList = true ∧
        isBackQuoted ('\x60' :: Text.dropTrailing isBlank u) = true ∧
        isJsonTag ('\x60' :: Text.dropTrailing isBlank u) = true) ∧
      l = .field ⟨name, type, String.ofList ('\x60' :: Text.dropTrailing isBlank u)⟩ := by
  have hquote : isBlank '\x60' = false := by decide
  have hempty : Naming.isGoIdentifier "" = false := by decide
  rw [Text.stripChars_cons_of_blank _ (by decide)]
  -- without a name or a type the tag moves forward, where it is malformed
  by_cases hn : name = ""
  · rw [hn, hempty, String.toList_empty, List.nil_append, Text.stripChars_cons_of_blank _ (by decide)]
    by_cases ht : type = ""
    · rw [ht, String.toList_empty, List.nil_append, Text.stripChars_cons_of_blank _ (by decide),
        Text.stripChars_cons _ hquote, readBodyLine_eq_readField rfl (by decide)]
      simp [map_eq_ok, readField_tag_ne_ok]
    · obtain ⟨c, hc, hslash⟩ := htype.exists_head ht
      have hstrip := Text.stripChars_word_append [' '] u htype.isSolid
        (String.toList_eq_nil_iff.not.2 ht) hquote
      rw [List.singleton_append] at hstrip
      rw [hstrip, readBodyLine_eq_readField (by rw [List.head?_append, hc]; rfl) hslash]
      simp [map_eq_ok, readField_name_tag_ne_ok htype.isSolid (List.dropWhile_cons_of_neg (by decide))]
  · obtain ⟨c, hc, hslash⟩ := hname.exists_head hn
    have hstrip := Text.stripChars_word_append (' ' :: (type.toList ++ [' '])) u hname.isSolid
      (String.toList_eq_nil_iff.not.2 hn) hquote
    have hassoc : ∀ u, ' ' :: (type.toList ++ [' ']) ++ '\x60' :: u =
        ' ' :: (type.toList ++ ' ' :: '\x60' :: u) := by simp
    rw [hassoc, hassoc] at hstrip
    rw [hstrip, readBodyLine_eq_readField (by rw [List.head?_append, hc]; rfl) hslash, map_eq_ok]
    by_cases ht : type = ""
    · have hnone : isTypeChars [] = false := by decide
      have hdrop : ∀ u, (' ' :: '\x60' :: u).dropWhile isBlank = '\x60' :: u := fun u => by
        rw [List.dropWhile_cons_of_pos (by decide), List.dropWhile_cons_of_neg (by decide)]
      simp only [ht, String.toList_empty, List.nil_append, hnone]
      simp [readField_name_tag_ne_ok hname.isSolid (hdrop _)]
    · simp only [readField_name_type_tag hname.isSolid htype.isSolid
        (String.toList_eq_nil_iff.not.2 ht), String.ofList_toList]
      constructor
      · rintro ⟨f, ⟨h, rfl⟩, rfl⟩
        exact ⟨h, rfl⟩
      · rintro ⟨h, rfl⟩
        exact ⟨_, ⟨h, rfl⟩, rfl⟩

/-- A field as it is read: what stands behind its type is a tag. -/
structure IsField (f : Field) : Prop where
  name : IsWord f.name
  type : IsTypeWord f.type
  tag : f.tag = "" ∨ isBackQuoted f.tag.toList = true ∧ isJsonTag f.tag.toList = true

theorem isField_of_readField {f : Field} (h : readField n cs = .ok f) :
    IsField f ∧ ∀ c ∈ f.tag.toList, c ∈ cs := by
  have hsolid : ∀ ds, IsSolid (cutWord ds).1 := fun ds c hc => by
    simpa using List.mem_takeWhile_imp hc
  have hrest : ∀ ds, ∀ c ∈ (cutWord ds).2, c ∈ ds := fun ds c hc =>
    (List.dropWhile_sublist _).mem ((List.dropWhile_sublist _).mem hc)
  have hcut : cutWord cs = ((cutWord cs).1, (cutWord cs).2) := rfl
  obtain ⟨⟨-, hname, htype, htag⟩, rfl⟩ := (readField_eq_ok hcut rfl).1 h
  refine ⟨⟨⟨hname, ?_⟩, ⟨?_, ?_⟩, ?_⟩, fun c hc => ?_⟩
  · rw [String.toList_ofList]
    exact hsolid cs
  · rwa [String.toList_ofList]
  · rw [String.toList_ofList]
    exact hsolid (cutWord cs).2
  · rw [String.toList_ofList]
    exact htag.imp_left fun h => by
      apply String.toList_injective
      rw [String.toList_ofList]
      exact h
  · rw [String.toList_ofList] at hc
    exact hrest cs c (hrest _ c hc)

/-- What a line of a struct can be. -/
theorem readBodyLine_ok_cases {l : BodyLine} (h : readBodyLine n cs = .ok l) :
    (cs = [] ∧ l = .blank) ∨ ("//".toList <+: cs ∧ l = .comment (String.ofList cs)) ∨
      ∃ f, IsField f ∧ (∀ c ∈ f.tag.toList, c ∈ cs) ∧ l = .field f := by
  unfold readBodyLine at h
  split at h
  · rename_i hempty
    exact Or.inl ⟨List.isEmpty_iff.1 hempty, (Except.ok.inj h).symm⟩
  split at h
  · rename_i hslash
    exact Or.inr (Or.inl ⟨List.isPrefixOf_iff_prefix.1 hslash, (Except.ok.inj h).symm⟩)
  · obtain ⟨f, hf, rfl⟩ := map_eq_ok.1 h
    obtain ⟨hfield, htag⟩ := isField_of_readField hf
    exact Or.inr (Or.inr ⟨f, hfield, htag, rfl⟩)

/-! ### Sources -/

/-- Lines outside structs are read as some items exactly if `ok` holds, whatever follows them;
`p` and `p'` tell whether the package clause stands before and after them. -/
def ReadsAs (p p' : Bool) (ok : Prop) (ls : List (List Char)) (items : List Item) : Prop :=
  ∀ n rest out, readLines n p none (ls.map Text.stripChars ++ rest) = .ok out ↔
    ok ∧ ∃ tail, readLines (n + ls.length) p' none rest = .ok tail ∧ out = items ++ tail

/-- Lines of a struct are read as a body exactly if `ok` holds, whatever follows them. -/
def BodyReadsAs (ok : Prop) (ls : List (List Char)) (body : List BodyLine) : Prop :=
  ∀ n s rest out, readLines n true (some s) (ls.map Text.stripChars ++ rest) = .ok out ↔
    ok ∧ readLines (n + ls.length) true (some { s with body := body.reverse ++ s.body }) rest =
      .ok out

section ReadsAs

variable {p p' p'' : Bool} {ok ok' : Prop} {ls ls' : List (List Char)} {items items' : List Item}

theorem ReadsAs.nil : ReadsAs p p True [] [] := by
  intro n rest out
  simp

theorem ReadsAs.congr (h : ReadsAs p p' ok ls items) (hok : ok ↔ ok') : ReadsAs p p' ok' ls items :=
  fun n rest out => by rw [h n rest out, hok]

/-- Lines after lines; what the second are read as may depend on the first. -/
theorem ReadsAs.append (h : ReadsAs p p' ok ls items) (h' : ok → ReadsAs p' p'' ok' ls' items') :
    ReadsAs p p'' (ok ∧ ok') (ls ++ ls') (items ++ items') := by
  intro n rest out
  rw [List.map_append, List.append_assoc, h]
  constructor
  · rintro ⟨hok, tail, htail, rfl⟩
    obtain ⟨hok', tail', htail', rfl⟩ := (h' hok _ _ _).1 htail
    refine ⟨⟨hok, hok'⟩, tail', ?_, by rw [List.append_assoc]⟩
    rwa [List.length_append, ← Nat.add_assoc]
  · rintro ⟨⟨hok, hok'⟩, tail, htail, rfl⟩
    rw [List.length_append, ← Nat.add_assoc] at htail
    exact ⟨hok, items' ++ tail, (h' hok _ _ _).2 ⟨hok', tail, htail, rfl⟩, List.append_assoc _ _ _⟩

/-- Many lines of one kind. -/
theorem ReadsAs.flatMap {α : Type} {ok : α → Prop} {f : α → List (List Char)} {g : α → List Item}
    {xs : List α} (h : ∀ x ∈ xs, ReadsAs p p (ok x) (f x) (g x)) :
    ReadsAs p p (∀ x ∈ xs, ok x) (xs.flatMap f) (xs.flatMap g) := by
  induction xs with
  | nil => exact ReadsAs.nil.congr (by simp)
  | cons x xs ih =>
    have hxs := ih fun y hy => h y (List.mem_cons_of_mem x hy)
    exact ((h x List.mem_cons_self).append fun _ => hxs).congr (by simp)

/-- A single line. -/
theorem ReadsAs.line {cs : List Char} {item : Item} (hpackage : ∀ name, item ≠ .package name)
    (h : ∀ n t, readTopLine n p (Text.stripChars cs) = .ok t ↔ ok ∧ t = .item item) :
    ReadsAs p p ok [cs] [item] := by
  intro n rest out
  rw [List.map_singleton, List.singleton_append, readLines, bind_eq_ok]
  constructor
  · rintro ⟨t, ht, hread⟩
    obtain ⟨hok, rfl⟩ := (h n t).1 ht
    refine ⟨hok, ?_⟩
    cases item with
    | package name => exact absurd rfl (hpackage name)
    | _ =>
      obtain ⟨tail, htail, hout⟩ := bind_eq_ok.1 hread
      exact ⟨tail, htail, (Except.ok.inj hout).symm⟩
  · rintro ⟨hok, tail, htail, rfl⟩
    refine ⟨.item item, (h n _).2 ⟨hok, rfl⟩, ?_⟩
    cases item with
    | package name => exact absurd rfl (hpackage name)
    | _ => exact bind_eq_ok.2 ⟨tail, htail, rfl⟩

/-- A single line without blanks around it. -/
theorem ReadsAs.of_stripped {cs : List Char} {item : Item} (hstrip : Text.stripChars cs = cs)
    (hpackage : ∀ name, item ≠ .package name) (h : ∀ n, readTopLine n p cs = .ok (.item item)) :
    ReadsAs p p True [cs] [item] :=
  ReadsAs.line hpackage fun n t => by
    rw [hstrip, h]
    simp [eq_comm]

theorem ReadsAs.blank : ReadsAs p p True [[]] [.blank] :=
  ReadsAs.of_stripped rfl (by simp) fun _ => rfl

theorem ReadsAs.comment {text : String} (h : IsComment text.toList)
    (hstrip : Text.stripChars text.toList = text.toList) :
    ReadsAs p p True [text.toList] [.comment text] := by
  refine ReadsAs.of_stripped hstrip (by simp) fun n => ?_
  rw [readTopLine_comment h, String.ofList_toList]

theorem ReadsAs.function {text : String} (h : IsFunction text.toList) :
    ReadsAs true true True [text.toList] [.function text] := by
  obtain ⟨name, hname, -⟩ := h.name
  have hstrip : Text.stripChars text.toList = text.toList :=
    Text.stripChars_eq_self (words_of_functionName? hname).1 (by decide) h.last (by decide)
  refine ReadsAs.of_stripped hstrip (by simp) fun n => ?_
  rw [readTopLine_function h, String.ofList_toList]

/-- The declaration of a type other than a struct. -/
theorem ReadsAs.alias {name type : String} (hname : IsSolid name.toList)
    (htype : IsSolid type.toList) (hne : type.toList ≠ []) (hstruct : type ≠ "struct\x7b") :
    ReadsAs true true (Naming.isGoIdentifier name = true ∧ isTypeChars type.toList = true)
      ["type ".toList ++ (name.toList ++ ' ' :: type.toList)] [.alias name type] := by
  have hstrip : Text.stripChars ("type ".toList ++ (name.toList ++ ' ' :: type.toList)) =
      "type ".toList ++ (name.toList ++ ' ' :: type.toList) := by
    have hhead : ("type ".toList ++ (name.toList ++ [' '])).head? = some 't' := by simp
    have h := Text.stripChars_append_word hhead (by decide) htype hne
    simpa using h
  have hstruct : type.toList ≠ "struct\x7b".toList := fun h => hstruct (String.toList_injective h)
  refine ReadsAs.line (by simp) fun n t => ?_
  rw [hstrip, readTopLine_alias hname htype hne hstruct, String.ofList_toList, String.ofList_toList,
    and_assoc]

/-- The package clause. -/
theorem ReadsAs.package {name : String} (hname : IsSolid name.toList) (hne : name ≠ "") :
    ReadsAs false true (Naming.isGoIdentifier name = true) ["package ".toList ++ name.toList]
      [.package name] := by
  have hstrip : Text.stripChars ("package ".toList ++ name.toList) =
      "package ".toList ++ name.toList :=
    Text.stripChars_append_word (c := 'p') (by simp) (by decide) hname
      (String.toList_eq_nil_iff.not.2 hne)
  intro n rest out
  rw [List.map_singleton, List.singleton_append, readLines, bind_eq_ok, hstrip,
    readTopLine_package hname (String.toList_eq_nil_iff.not.2 hne)]
  simp only [map_eq_ok, checkName_eq_ok, String.ofList_toList]
  constructor
  · rintro ⟨t, ⟨a, ⟨hok, rfl⟩, rfl⟩, hread⟩
    obtain ⟨tail, htail, hout⟩ := bind_eq_ok.1 hread
    exact ⟨hok, tail, htail, (Except.ok.inj hout).symm⟩
  · rintro ⟨hok, tail, htail, rfl⟩
    exact ⟨_, ⟨name, ⟨hok, rfl⟩, rfl⟩, bind_eq_ok.2 ⟨tail, htail, rfl⟩⟩

/-- A struct: the line that opens it, its body and a brace. -/
theorem ReadsAs.struct {name : String} {body : List BodyLine} (hname : IsSolid name.toList)
    (h : BodyReadsAs ok ls body) :
    ReadsAs true true (Naming.isGoIdentifier name = true ∧ ok)
      (("type ".toList ++ (name.toList ++ " struct \x7b".toList)) :: (ls ++ ["\x7d".toList]))
      [.struct name body] := by
  have hstrip : Text.stripChars ("type ".toList ++ (name.toList ++ " struct \x7b".toList)) =
      "type ".toList ++ (name.toList ++ " struct \x7b".toList) := by
    refine Text.stripChars_eq_self (c := 't') (d := '\x7b') (by simp) (by decide) ?_ (by decide)
    rw [← List.append_assoc, List.getLast?_append]
    rfl
  have hbrace : Text.stripChars "\x7d".toList = "\x7d".toList := by decide
  intro n rest out
  rw [List.map_cons, List.cons_append, readLines, bind_eq_ok, hstrip, List.map_append,
    List.append_assoc]
  simp only [readTopLine_structOpen hname, String.ofList_toList]
  constructor
  · rintro ⟨t, ⟨hident, rfl⟩, hread⟩
    obtain ⟨hok, hread⟩ := (h _ _ _ _).1 hread
    rw [List.map_singleton, List.singleton_append, hbrace, readLines, if_pos (by simp)] at hread
    obtain ⟨tail, htail, hout⟩ := bind_eq_ok.1 hread
    refine ⟨⟨hident, hok⟩, tail, ?_, ?_⟩
    · rw [← htail]
      congr 1
      simp
      omega
    · simpa using (Except.ok.inj hout).symm
  · rintro ⟨⟨hident, hok⟩, tail, htail, rfl⟩
    refine ⟨_, ⟨hident, rfl⟩, (h _ _ _ _).2 ⟨hok, ?_⟩⟩
    rw [List.map_singleton, List.singleton_append, hbrace, readLines, if_pos (by simp)]
    refine bind_eq_ok.2 ⟨tail, ?_, by simp [pure, Except.pure]⟩
    rw [← htail]
    congr 1
    simp
    omega

theorem BodyReadsAs.nil : BodyReadsAs True [] [] := by
  intro n s rest out
  simp

theorem BodyReadsAs.congr {body : List BodyLine} (h : BodyReadsAs ok ls body) (hok : ok ↔ ok') :
    BodyReadsAs ok' ls body := fun n s rest out => by rw [h n s rest out, hok]

/-- Lines of a struct after others. -/
theorem BodyReadsAs.append {body body' : List BodyLine} (h : BodyReadsAs ok ls body)
    (h' : BodyReadsAs ok' ls' body') : BodyReadsAs (ok ∧ ok') (ls ++ ls') (body ++ body') := by
  intro n s rest out
  rw [List.map_append, List.append_assoc, h, h', and_assoc, List.length_append, Nat.add_assoc,
    List.reverse_append, List.append_assoc]

/-- A single line of a struct. -/
theorem BodyReadsAs.line {cs : List Char} {l : BodyLine}
    (hbrace : Text.stripChars cs ≠ "\x7d".toList)
    (h : ∀ n l', readBodyLine n (Text.stripChars cs) = .ok l' ↔ ok ∧ l' = l) :
    BodyReadsAs ok [cs] [l] := by
  intro n s rest out
  rw [List.map_singleton, List.singleton_append, readLines, if_neg (by simpa using hbrace), bind_eq_ok]
  constructor
  · rintro ⟨l', hl, hread⟩
    obtain ⟨hok, rfl⟩ := (h n l').1 hl
    exact ⟨hok, hread⟩
  · rintro ⟨hok, hread⟩
    exact ⟨l, (h n l).2 ⟨hok, rfl⟩, hread⟩

/-- A line of a struct that cannot be read. -/
theorem BodyReadsAs.false {cs : List Char} (ls : List (List Char)) (body : List BodyLine)
    (hbrace : Text.stripChars cs ≠ "\x7d".toList)
    (h : ∀ n l, readBodyLine n (Text.stripChars cs) ≠ .ok l) : BodyReadsAs False (cs :: ls) body := by
  intro n s rest out
  rw [List.map_cons, List.cons_append, readLines, if_neg (by simpa using hbrace), bind_eq_ok]
  simp [h]

/-- What a whole source is read as. -/
theorem readItems_eq_ok_iff {source : String} (h : ReadsAs false true ok (Text.lines source) items)
    {out : List Item} : readItems source = .ok out ↔ ok ∧ out = items := by
  have h := h 1 [] out
  rw [List.append_nil] at h
  rw [readItems, ← Text.lines, h]
  simp [readLines]

end ReadsAs

end Source

end StructGen
