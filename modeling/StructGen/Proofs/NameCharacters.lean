import StructGen.Naming.GoName
import StructGen.Naming.Initialism
import StructGen.Registry
import StructGen.Proofs.Lines
import Mathlib

/-!
# Characters of names

Names are made of ASCII letters and digits, of initialisms whose title form they ended in, and of
numbers. None of these brings in a blank or a slash: such characters have no case, so an initialism
that holds one has a title form that no name ends in.

* `IsClean` says that a text holds neither blanks nor slashes;
* `isClean_apply`, `isClean_pathName`, `isClean_fieldName` are about synthesized names;
* `isClean_unusedName` is about names that have been claimed.
-/

namespace StructGen.Text

/-! ### Blanks have no case -/

/-- The code points of a set of characters. -/
def CharRanges.codes (r : CharRanges) : List Nat :=
  r.ranges.flatMap fun (lo, hi) => List.range' lo (hi + 1 - lo)

theorem CharRanges.toNat_mem_codes {r : CharRanges} {c : Char} (h : r.contains c = true) :
    c.toNat ∈ r.codes := by
  obtain ⟨range, hrange, hc⟩ := List.any_eq_true.1 h
  refine List.mem_flatMap.2 ⟨range, hrange, ?_⟩
  simp only [Bool.and_eq_true, decide_eq_true_eq] at hc
  exact List.mem_range'_1.2 ⟨hc.1, by omega⟩

/-- What holds of all code points of a set holds of its characters. -/
theorem CharRanges.forall_of_codes {r : CharRanges} {P : Char → Prop}
    (h : ∀ n ∈ r.codes, P (Char.ofNat n)) {c : Char} (hc : r.contains c = true) : P c := by
  have := h c.toNat (toNat_mem_codes hc)
  rwa [Char.ofNat_toNat] at this

/-- Whether no range of one set meets a range of another. -/
def CharRanges.disjoint (r r' : CharRanges) : Bool :=
  r.ranges.all fun x => r'.ranges.all fun y => x.2.blt y.1 || y.2.blt x.1

theorem CharRanges.not_contains_of_disjoint {r r' : CharRanges} {c : Char}
    (h : r.disjoint r' = true) (hc : r'.contains c = true) : r.contains c = false := by
  obtain ⟨y, hy, hcy⟩ := List.any_eq_true.1 hc
  refine List.any_eq_false.2 fun x hx => ?_
  have hxy := List.all_eq_true.1 (List.all_eq_true.1 h x hx) y hy
  simp only [Bool.or_eq_true, Nat.blt_eq, Bool.and_eq_true, decide_eq_true_eq] at hxy hcy ⊢
  omega

/-- A character that is its own lower-case and title-case form. -/
def Caseless (c : Char) : Prop := lowerChar c = [c] ∧ titleChar c = [c] ∧ c ≠ 'Σ'

theorem caseless_of_isBlank {c : Char} (h : isBlank c = true) : Caseless c := by
  refine CharRanges.forall_of_codes (r := blanks) (P := Caseless) ?_ h
  unfold Caseless
  decide +kernel

theorem caseless_slash : Caseless '/' := by
  unfold Caseless
  decide

theorem mem_lowerFrom {c : Char} (h : Caseless c) {cs : List Char} (hc : c ∈ cs) (after : Bool) :
    c ∈ lowerFrom after cs := by
  induction cs generalizing after with
  | nil => cases hc
  | cons d cs ih =>
    rw [lowerFrom]
    rcases List.mem_cons.1 hc with rfl | hc
    · refine List.mem_append_left _ ?_
      rw [if_neg (by simp [h.2.2]), h.1]
      exact List.mem_cons_self
    · exact List.mem_append_right _ (ih hc _)

theorem mem_capitalize {c : Char} (h : Caseless c) {cs : List Char} (hc : c ∈ cs) :
    c ∈ capitalize cs := by
  cases cs with
  | nil => cases hc
  | cons d cs =>
    rcases List.mem_cons.1 hc with rfl | hc
    · exact List.mem_append_left _ (h.2.1 ▸ List.mem_cons_self)
    · exact List.mem_append_right _ (mem_lowerFrom h hc _)

end StructGen.Text

namespace StructGen.Naming

/-! ### Characters of identifiers -/

theorem toNat_of_isNameChar {c : Char} (h : isNameChar c = true) :
    (65 ≤ c.toNat ∧ c.toNat ≤ 90) ∨ (97 ≤ c.toNat ∧ c.toNat ≤ 122) ∨
      (48 ≤ c.toNat ∧ c.toNat ≤ 57) ∨ c.toNat = 95 := by
  simp only [isNameChar, Char.isAlphanum, Char.isAlpha, Char.isUpper, Char.isLower, Char.isDigit,
    Bool.or_eq_true, Bool.and_eq_true, decide_eq_true_eq, beq_iff_eq, ge_iff_le,
    UInt32.le_iff_toNat_le] at h
  change (((65 ≤ c.toNat ∧ c.toNat ≤ 90) ∨ (97 ≤ c.toNat ∧ c.toNat ≤ 122)) ∨
    (48 ≤ c.toNat ∧ c.toNat ≤ 57)) ∨ c = '_' at h
  rcases h with ((h | h) | h) | rfl
  · exact Or.inl h
  · exact Or.inr (Or.inl h)
  · exact Or.inr (Or.inr (Or.inl h))
  · exact Or.inr (Or.inr (Or.inr rfl))

theorem isBlank_of_isNameChar {c : Char} (h : isNameChar c = true) : Text.isBlank c = false := by
  have hrange := toNat_of_isNameChar h
  simp only [Text.isBlank, Text.blanks, Text.CharRanges.contains_cons, Text.CharRanges.contains_nil,
    Bool.or_false, Bool.or_eq_false_iff, Bool.and_eq_false_iff, decide_eq_false_iff_not]
  omega

theorem ne_of_isNameChar {c d : Char} (h : isNameChar c = true) (hd : isNameChar d = false) :
    c ≠ d := by
  rintro rfl
  rw [h] at hd
  cases hd

theorem isDigit_of_isAlpha {c : Char} (h : c.isAlpha = true) : c.isDigit = false := by
  simp only [Char.isAlpha, Char.isUpper, Char.isLower, Char.isDigit, UInt32.le_iff_toNat_le] at h ⊢
  grind

theorem isNameChar_of_isNameChars {cs : List Char} (h : isNameChars cs = true) :
    ∀ c ∈ cs, isNameChar c = true := by
  cases cs with
  | nil => simp
  | cons c cs =>
    simp only [isNameChars, Bool.and_eq_true, List.all_eq_true] at h
    have hstart : isNameChar c = true := by
      have := h.1
      simp only [isNameStart, isNameChar, Char.isAlphanum, Bool.or_eq_true] at this ⊢
      tauto
    exact List.forall_mem_cons.2 ⟨hstart, h.2⟩

/-- A text without a line feed is an identifier if it has the form of one and is not reserved. -/
theorem isGoIdentifier_iff {name : String} (h : '\n' ∉ name.toList) :
    isGoIdentifier name = true ↔
      isNameChars name.toList = true ∧ name ∉ reservedWords := by
  have hform : dropFinalNewline name.toList = name.toList := by
    refine if_neg fun hlast => h ?_
    exact List.mem_of_getLast? hlast
  simp [isGoIdentifier, hasNameForm, hform]

/-! ### Characters of synthesized names -/

/-- A text without blanks and slashes. -/
def IsClean (s : String) : Prop := ∀ c ∈ s.toList, Text.isBlank c = false ∧ c ≠ '/'

instance (s : String) : Decidable (IsClean s) :=
  decidable_of_iff (s.toList.all fun c => !Text.isBlank c && c != '/') (by simp [IsClean])

theorem IsClean.isSolid {s : String} (h : IsClean s) : Text.IsSolid s.toList := fun c hc => (h c hc).1

theorem IsClean.exists_head {s : String} (h : IsClean s) (hne : s ≠ "") :
    ∃ c, s.toList.head? = some c ∧ c ≠ '/' := by
  cases hs : s.toList with
  | nil => exact absurd (String.toList_eq_nil_iff.1 hs) hne
  | cons c cs => exact ⟨c, rfl, (h c (by simp [hs])).2⟩

theorem IsClean.newline_not_mem {s : String} (h : IsClean s) : '\n' ∉ s.toList :=
  h.isSolid.newline_not_mem

theorem isClean_of_isNameChar {s : String} (h : ∀ c ∈ s.toList, isNameChar c = true) : IsClean s :=
  fun c hc => ⟨isBlank_of_isNameChar (h c hc), ne_of_isNameChar (h c hc) (by decide)⟩

theorem IsClean.append {s t : String} (hs : IsClean s) (ht : IsClean t) : IsClean (s ++ t) := by
  intro c hc
  rw [String.toList_append] at hc
  rcases List.mem_append.1 hc with hc | hc
  · exact hs c hc
  · exact ht c hc

theorem isNameChar_of_isAlpha {c : Char} (h : c.isAlpha = true) : isNameChar c = true := by
  simp [isNameChar, Char.isAlphanum, h]

theorem isAlphanum_of_mem_camelFrom {cap : Bool} {cs : List Char} :
    ∀ c ∈ camelFrom cap cs, c.isAlphanum = true := by
  induction cs generalizing cap with
  | nil => simp
  | cons d cs ih =>
    rw [camelFrom]
    split_ifs with hupper hlower hcap hdigit
    · exact List.forall_mem_cons.2 ⟨by simp [Char.isAlphanum, Char.isAlpha, hupper], ih⟩
    · have hd : d.toUpper.isAlpha = true := by simp [Char.isAlpha, hlower]
      exact List.forall_mem_cons.2 ⟨by simp [Char.isAlphanum, hd], ih⟩
    · exact List.forall_mem_cons.2 ⟨by simp [Char.isAlphanum, Char.isAlpha, hlower], ih⟩
    · exact List.forall_mem_cons.2 ⟨by simp [Char.isAlphanum, hdigit], ih⟩
    · exact ih

theorem isClean_camel (name : String) : IsClean (camel name) := by
  refine isClean_of_isNameChar fun c hc => ?_
  rw [camel_toList] at hc
  simp [isNameChar, isAlphanum_of_mem_camelFrom c hc]

namespace Initialisms

/-- A character without case is in the title form of an initialism that holds it. -/
theorem mem_titleForm {c : Char} (h : Text.Caseless c) {initialism : String}
    (hc : c ∈ initialism.toList) : c ∈ (titleForm initialism).toList := by
  rw [titleForm_toList]
  exact Text.mem_capitalize h (Text.mem_lowerFrom h hc false)

theorem isClean_of_titleForm {initialism : String} (h : IsClean (titleForm initialism)) :
    IsClean initialism := by
  intro c hc
  constructor
  · by_contra hblank
    have hblank : Text.isBlank c = true := by simpa using hblank
    have hclean := (h c (mem_titleForm (Text.caseless_of_isBlank hblank) hc)).1
    rw [hblank] at hclean
    cases hclean
  · rintro rfl
    exact (h _ (mem_titleForm Text.caseless_slash hc)).2 rfl

theorem isClean_replaceEnd {name ending replacement : String} (hname : IsClean name)
    (h : IsClean replacement) : IsClean (replaceEnd name ending replacement) := by
  unfold replaceEnd
  split_ifs
  · exact h
  · refine IsClean.append (fun c hc => ?_) h
    rw [String.toList_ofList] at hc
    exact hname c (List.mem_of_mem_take hc)

theorem isClean_apply (is : Initialisms) {name : String} (h : IsClean name) :
    IsClean (is.apply name) := by
  unfold apply
  split
  · rename_i i hi
    have hend : (titleForm i).toList <:+ name.toList := by
      simpa using List.find?_some hi
    exact isClean_replaceEnd h (isClean_of_titleForm fun c hc => h c (hend.mem hc))
  · exact h

theorem isClean_pathName (is : Initialisms) (path : List String) : IsClean (is.pathName path) :=
  is.isClean_apply (isClean_camel _)

/-- The name of a field is its camel case with an initialism applied; the initialism of an identity
is always known. -/
theorem fieldName_cases (is : Initialisms) (property : String) :
    camel property = "Id" ∧ is.fieldName property = "ID" ∨
      is.fieldName property = is.apply (camel property) := by
  simp only [fieldName]
  split_ifs with hid
  · exact Or.inl ⟨hid, rfl⟩
  · exact Or.inr rfl

theorem isClean_fieldName (is : Initialisms) (property : String) :
    IsClean (is.fieldName property) := by
  rcases is.fieldName_cases property with ⟨-, heq⟩ | heq
  · rw [heq]
    decide
  · rw [heq]
    exact is.isClean_apply (isClean_camel _)

theorem isClean_toString_nat (k : Nat) : IsClean (toString k) := by
  refine isClean_of_isNameChar fun c hc => ?_
  rw [Nat.toString_eq_ofList_toDigits, String.toList_ofList] at hc
  have := Nat.isDigit_of_mem_toDigits (b := 10) (by decide) (by decide) hc
  simp [isNameChar, Char.isAlphanum, this]

theorem isClean_toString_int (k : Int) : IsClean (toString k) := by
  cases k with
  | ofNat k => exact isClean_toString_nat k
  | negSucc k =>
    change IsClean ("-" ++ toString (k + 1))
    refine IsClean.append ?_ (isClean_toString_nat _)
    decide

theorem isClean_typeName {is : Initialisms} {path : List String} {major : Option Int}
    {versioned : Bool} {name : String} (h : is.typeName path major versioned = .ok name) :
    IsClean name := by
  unfold typeName at h
  split at h
  · split at h
    · cases h
      refine ((is.isClean_pathName path).append ?_).append (isClean_toString_int _)
      decide
    · cases h
  · cases h
    exact is.isClean_pathName path

end Initialisms

theorem isClean_unusedName (r : Registry) {name : String} (h : IsClean name) :
    IsClean (r.unusedName name) := by
  unfold Registry.unusedName
  split_ifs
  · exact h.append (Initialisms.isClean_toString_nat _)
  · exact h

end StructGen.Naming
