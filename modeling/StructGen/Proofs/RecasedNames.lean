import StructGen.Proofs.DefaultStyle

/-!
# Names in another case

Applying initialisms puts an initialism in the place of the title form that a name ends in. The two
have the same letters in another case if the initialism is ASCII, so the name keeps its length and
its lower-case form. The empty initialism is the exception: it ends every name, and the whole name
is replaced by it unless a longer one is found first.

* `SameLetter` relates characters that lower-casing does not tell apart, whatever stands around
  them; `lowerFrom_eq_of_sameLetters` is about texts of such characters;
* `ofList_apply_cases` tells which initialism is applied: one that no other is tried before;
* `apply_keeps_letters` is the result.
-/

namespace StructGen

/-! ### Letters in another case -/

namespace Text

/-- Two characters that lower-casing does not tell apart: they have the same lower-case form, and
the same part in finding the ends of words. -/
structure SameLetter (c d : Char) : Prop where
  lower : lowerChar c = lowerChar d
  cased : isCased c = isCased d
  ignorable : isCaseIgnorable c = isCaseIgnorable d
  sigma : (c == 'Σ') = (d == 'Σ')

theorem SameLetter.refl (c : Char) : SameLetter c c := ⟨rfl, rfl, rfl, rfl⟩

theorem SameLetter.trans {c d e : Char} (h : SameLetter c d) (h' : SameLetter d e) :
    SameLetter c e :=
  ⟨h.lower.trans h'.lower, h.cased.trans h'.cased, h.ignorable.trans h'.ignorable,
    h.sigma.trans h'.sigma⟩

/-- A text of ASCII characters only. -/
def IsAscii (s : String) : Prop := ∀ c ∈ s.toList, c.toNat < 0x80

instance (s : String) : Decidable (IsAscii s) :=
  List.decidableBAll (fun c : Char => c.toNat < 0x80) s.toList

section Ascii

variable {c : Char}

/-- What holds of the first code points holds of every ASCII character. -/
theorem forall_ascii {P : Char → Prop} (h : ∀ n < 0x80, P (Char.ofNat n)) (hc : c.toNat < 0x80) :
    P c := by
  have := h c.toNat hc
  rwa [Char.ofNat_toNat] at this

theorem toNat_toLower_lt (hc : c.toNat < 0x80) : c.toLower.toNat < 0x80 :=
  forall_ascii (P := fun c => c.toLower.toNat < 0x80) (by decide +kernel) hc

/-- Only the ranges that start below a bound hold characters below it. -/
theorem CharRanges.contains_eq_of_lt {bound : Nat} (r : CharRanges) (hc : c.toNat < bound) :
    r.contains c = contains ⟨r.ranges.filter (·.1 < bound)⟩ c := by
  unfold contains
  rw [List.any_filter]
  refine List.any_congr rfl fun range => ?_
  rw [Bool.eq_iff_iff]
  simp only [Bool.and_eq_true, decide_eq_true_eq]
  omega

/-- The ASCII characters with a case. -/
def asciiCased : CharRanges := ⟨[(0x41, 0x5A), (0x61, 0x7A)]⟩

theorem isCased_ascii (hc : c.toNat < 0x80) : isCased c = asciiCased.contains c := by
  have hranges : casedCharacters.ranges.filter (·.1 < 0x80) = asciiCased.ranges := by
    decide +kernel
  rw [isCased, CharRanges.contains_eq_of_lt casedCharacters hc, hranges]

/-- The ASCII characters that are looked past. -/
def asciiIgnorable : CharRanges :=
  ⟨[(0x27, 0x27), (0x2E, 0x2E), (0x3A, 0x3A), (0x5E, 0x5E), (0x60, 0x60)]⟩

theorem isCaseIgnorable_ascii (hc : c.toNat < 0x80) :
    isCaseIgnorable c = asciiIgnorable.contains c := by
  have hranges : caseIgnorableCharacters.ranges.filter (·.1 < 0x80) = asciiIgnorable.ranges := by
    decide +kernel
  rw [isCaseIgnorable, CharRanges.contains_eq_of_lt caseIgnorableCharacters hc, hranges]

theorem sameLetter_toLower (hc : c.toNat < 0x80) : SameLetter c.toLower c := by
  have hlt : c.toLower.toNat < 0x80 := toNat_toLower_lt hc
  have hform : lowerChar c.toLower = lowerChar c ∧
      asciiCased.contains c.toLower = asciiCased.contains c ∧
      asciiIgnorable.contains c.toLower = asciiIgnorable.contains c ∧
      (c.toLower == 'Σ') = (c == 'Σ') :=
    forall_ascii (P := fun c => lowerChar c.toLower = lowerChar c ∧
      asciiCased.contains c.toLower = asciiCased.contains c ∧
      asciiIgnorable.contains c.toLower = asciiIgnorable.contains c ∧
      (c.toLower == 'Σ') = (c == 'Σ')) (by decide +kernel) hc
  refine ⟨hform.1, ?_, ?_, hform.2.2.2⟩
  · rw [isCased_ascii hlt, isCased_ascii hc, hform.2.1]
  · rw [isCaseIgnorable_ascii hlt, isCaseIgnorable_ascii hc, hform.2.2.1]

theorem titleChar_toLower (hc : c.toNat < 0x80) : titleChar c.toLower = [c.toLower.toUpper] :=
  if_pos (toNat_toLower_lt hc)

/-- The title-case form of a letter in lower case is the letter again. -/
theorem sameLetter_toLower_toUpper (hc : c.toNat < 0x80) : SameLetter c.toLower.toUpper c := by
  have hback : c.toLower.toUpper.toLower = c.toLower ∧ c.toLower.toUpper.toNat < 0x80 :=
    forall_ascii (P := fun c => c.toLower.toUpper.toLower = c.toLower ∧
      c.toLower.toUpper.toNat < 0x80) (by decide +kernel) hc
  obtain ⟨hlower, hcased, hignorable, hsigma⟩ := sameLetter_toLower hback.2
  rw [hback.1] at hlower hcased hignorable hsigma
  exact .trans ⟨hlower.symm, hcased.symm, hignorable.symm, hsigma.symm⟩ (sameLetter_toLower hc)

theorem lowerFrom_ascii {cs : List Char} (h : ∀ c ∈ cs, c.toNat < 0x80) (after : Bool) :
    lowerFrom after cs = cs.map Char.toLower := by
  induction cs generalizing after with
  | nil => rfl
  | cons c cs ih =>
    have hc : c.toNat < 0x80 := h c List.mem_cons_self
    have hsigma : c ≠ 'Σ' := by
      rintro rfl
      exact absurd hc (by decide)
    rw [lowerFrom, ih fun d hd => h d (List.mem_cons_of_mem c hd), if_neg (by simp [hsigma]),
      lowerChar, if_pos hc]
    rfl

end Ascii

section Words

variable {cs ds : List Char}

/-- Whether a letter follows is the same for texts of the same letters. -/
theorem followed_of_sameLetters (h : List.Forall₂ SameLetter cs ds) :
    (cs.dropWhile isCaseIgnorable).head?.any isCased =
      (ds.dropWhile isCaseIgnorable).head?.any isCased := by
  induction h with
  | nil => rfl
  | @cons c d cs ds hc _ ih =>
    rw [List.dropWhile_cons, List.dropWhile_cons, hc.ignorable]
    split_ifs
    · exact ih
    · exact hc.cased

/-- Texts of the same letters have the same lower-case form. -/
theorem lowerFrom_eq_of_sameLetters (h : List.Forall₂ SameLetter cs ds) (after : Bool) :
    lowerFrom after cs = lowerFrom after ds := by
  induction h generalizing after with
  | nil => rfl
  | cons hc hcs ih =>
    rw [lowerFrom, lowerFrom, hc.lower, hc.cased, hc.ignorable, hc.sigma,
      followed_of_sameLetters hcs, ih]

end Words

end Text

/-! ### The initialism that is applied -/

namespace Naming.Initialisms

open Text (SameLetter IsAscii lower)

/-- The title form of an initialism ends a name. -/
def Ends (i name : String) : Prop := (titleForm i).toList <:+ name.toList

instance (i name : String) : Decidable (Ends i name) :=
  inferInstanceAs (Decidable (_ <:+ _))

theorem isSuffixOf_iff_ends {i name : String} :
    (titleChars i).isSuffixOf name.toList = true ↔ Ends i name := by
  rw [List.isSuffixOf_iff_suffix, Ends, titleForm_toList]

/-- Dropping repetitions goes on, after a text, with those that differ from it. -/
theorem eraseDups_induction {P : List String → Prop} (nil : P [])
    (cons : ∀ i l, P (l.filter fun j => !j == i) → P (i :: l)) (l : List String) : P l := by
  induction hlength : l.length using Nat.strong_induction_on generalizing l with
  | _ n ih =>
    cases l with
    | nil => exact nil
    | cons i l =>
      have hle := List.length_filter_le (fun j => !j == i) l
      rw [List.length_cons] at hlength
      exact cons i l (ih _ (by omega) _ rfl)

theorem eraseDups_sublist (l : List String) : l.eraseDups.Sublist l := by
  induction l using eraseDups_induction with
  | nil => simp
  | cons i l ih =>
    rw [List.eraseDups_cons]
    exact List.Sublist.cons_cons i (ih.trans List.filter_sublist)

theorem nodup_eraseDups (l : List String) : l.eraseDups.Nodup := by
  induction l using eraseDups_induction with
  | nil => simp
  | cons i l ih =>
    rw [List.eraseDups_cons]
    exact List.nodup_cons.2 ⟨by simp, ih⟩

theorem mem_ofList {i : String} {l : List String} : i ∈ (ofList l).ordered ↔ i ∈ l := by
  rw [ofList, List.mem_eraseDups, List.mem_mergeSort]

/-- The initialisms of a list stand in the order in which they are tried. -/
theorem pairwise_ofList (l : List String) : (ofList l).ordered.Pairwise (precedes · · = true) :=
  (List.pairwise_mergeSort precedes_trans precedes_total l).sublist (eraseDups_sublist _)

theorem apply_of_ending? {is : Initialisms} {name i : String} (h : is.ending? name = some i) :
    is.apply name = replaceEnd name (titleForm i) i := by
  rw [apply, h]

/-- No initialism ends a name, or the one that is tried before all others that end it is applied. -/
theorem ofList_apply_cases (l : List String) (name : String) :
    (∀ i ∈ l, ¬ Ends i name) ∧ (ofList l).apply name = name ∨
      ∃ i ∈ l, Ends i name ∧ (∀ j ∈ l, Ends j name → precedes i j = true) ∧
        (ofList l).apply name = replaceEnd name (titleForm i) i := by
  cases hending : (ofList l).ending? name with
  | none =>
    refine .inl ⟨fun i hi hends => ?_, by rw [apply, hending]⟩
    rw [ending?, List.find?_eq_none] at hending
    exact hending i (mem_ofList.2 hi) (isSuffixOf_iff_ends.2 hends)
  | some i =>
    obtain ⟨hends, before, after, hsplit, hbefore⟩ := List.find?_eq_some_iff_append.1 hending
    have hi : i ∈ (ofList l).ordered := by simp [hsplit]
    refine .inr ⟨i, mem_ofList.1 hi, isSuffixOf_iff_ends.1 hends, fun j hj hjends => ?_,
      apply_of_ending? hending⟩
    have hj' : j ∈ before ++ i :: after := hsplit ▸ mem_ofList.2 hj
    have horder : (before ++ i :: after).Pairwise (precedes · · = true) :=
      hsplit ▸ pairwise_ofList l
    rcases List.mem_append.1 hj' with hj' | hj'
    · -- those that are tried before it do not end the name
      have hnot := hbefore j hj'
      rw [Bool.not_eq_true', ← Bool.not_eq_true, isSuffixOf_iff_ends] at hnot
      exact absurd hjends hnot
    · rcases List.mem_cons.1 hj' with rfl | hj'
      · exact precedes_iff.2 (.inr ⟨rfl, String.le_refl _⟩)
      · exact (List.pairwise_cons.1 (List.pairwise_append.1 horder).2.1).1 j hj'

/-! ### Letters of names -/

/-- The first letter of a title form is in upper case and the others are in lower case. -/
theorem toList_titleForm {i : String} (h : IsAscii i) {c : Char} {cs : List Char}
    (hchars : i.toList = c :: cs) :
    (titleForm i).toList = c.toLower.toUpper :: cs.map Char.toLower := by
  have hlower : Text.lowerFrom false i.toList = c.toLower :: cs.map Char.toLower := by
    rw [Text.lowerFrom_ascii h, hchars, List.map_cons]
  unfold IsAscii at h
  rw [hchars, List.forall_mem_cons] at h
  have hcs : ∀ d ∈ cs.map Char.toLower, d.toNat < 0x80 :=
    List.forall_mem_map.2 fun d hd => Text.toNat_toLower_lt (h.2 d hd)
  have hagain : (cs.map Char.toLower).map Char.toLower = cs.map Char.toLower := by
    rw [List.map_map]
    exact List.map_congr_left fun d hd => Text.forall_ascii
      (P := fun d => d.toLower.toLower = d.toLower) (by decide +kernel) (h.2 d hd)
  rw [titleForm_toList, titleChars, hlower, Text.capitalize, Text.titleChar_toLower h.1,
    Text.lowerFrom_ascii hcs, hagain, List.singleton_append]

/-- The title form of an initialism has its letters. -/
theorem sameLetters_titleForm {i : String} (h : IsAscii i) :
    List.Forall₂ SameLetter (titleForm i).toList i.toList := by
  cases hchars : i.toList with
  | nil =>
    rw [String.toList_eq_nil_iff.1 hchars]
    exact .nil
  | cons c cs =>
    rw [toList_titleForm h hchars]
    unfold IsAscii at h
    rw [hchars, List.forall_mem_cons] at h
    exact .cons (Text.sameLetter_toLower_toUpper h.1) (List.forall₂_map_left_iff.2
      (List.forall₂_same.2 fun d hd => Text.sameLetter_toLower (h.2 d hd)))

theorem titleForm_eq_empty_iff {i : String} (h : IsAscii i) : titleForm i = "" ↔ i = "" := by
  have hlength := (sameLetters_titleForm h).length_eq
  rw [← String.toList_inj, ← String.toList_inj]
  simp only [String.toList_empty, ← List.length_eq_zero_iff, hlength]

/-- Putting an initialism in the place of its title form changes nothing but the case of letters. -/
theorem replaceEnd_keeps_letters {i name : String} (h : IsAscii i) (hi : i ≠ "")
    (hends : Ends i name) : (replaceEnd name (titleForm i) i).length = name.length ∧
      lower (replaceEnd name (titleForm i) i) = lower name := by
  obtain ⟨cs, hname⟩ := hends
  have hchars := toList_replaceEnd (mt (titleForm_eq_empty_iff h).1 hi) hname.symm i
  have hsame : List.Forall₂ SameLetter name.toList (replaceEnd name (titleForm i) i).toList := by
    rw [hchars, ← hname]
    exact List.rel_append (List.forall₂_same.2 fun c _ => .refl c) (sameLetters_titleForm h)
  constructor
  · rw [← String.length_toList, ← String.length_toList, hsame.length_eq]
  · rw [lower, lower, Text.lowerFrom_eq_of_sameLetters hsame]

/-- **Initialisms change nothing but the case of letters.** With ASCII initialisms a name keeps its
length and its lower-case form, unless the empty one is among them. That one is tried last; where no
other ends the name, nothing of the name is left. -/
theorem apply_keeps_letters (initialisms : List String) (h : ∀ i ∈ initialisms, IsAscii i)
    (name : String) :
    ("" ∉ initialisms ∨ (∃ i ∈ initialisms, i ≠ "" ∧ Ends i name) →
      ((ofList initialisms).apply name).length = name.length ∧
        lower ((ofList initialisms).apply name) = lower name) ∧
    ("" ∈ initialisms → (∀ i ∈ initialisms, i ≠ "" → ¬ Ends i name) →
      (ofList initialisms).apply name = "") := by
  obtain ⟨hnone, heq⟩ | ⟨i, hi, hends, hfirst, heq⟩ := ofList_apply_cases initialisms name
  · refine ⟨fun _ => by rw [heq]; exact ⟨rfl, rfl⟩, fun hempty _ => ?_⟩
    exact absurd (List.nil_suffix : ([] : List Char) <:+ name.toList) (hnone "" hempty)
  · rw [heq]
    refine ⟨fun hcase => replaceEnd_keeps_letters (h i hi) ?_ hends, fun _ hothers => ?_⟩
    · -- another one would have been tried before the empty one
      rintro rfl
      obtain hnot | ⟨j, hj, hne, hjends⟩ := hcase
      · exact hnot hi
      · obtain hlt | ⟨hlength, -⟩ := precedes_iff.1 (hfirst j hj hjends)
        · exact absurd hlt (Nat.not_lt_zero _)
        · exact hne (String.length_eq_zero_iff.1 hlength.symm)
    · have hempty : i = "" := by
        by_contra hne
        exact hothers i hi hne hends
      subst hempty
      rfl

theorem uuid_keeps_letters :
    (∀ i ∈ ["", "ID", "UUID"], IsAscii i) ∧ Ends "UUID" "ΦΣUuid" ∧
      ((ofList ["", "ID", "UUID"]).apply "ΦΣUuid").length = "ΦΣUuid".length ∧
      lower ((ofList ["", "ID", "UUID"]).apply "ΦΣUuid") = lower "ΦΣUuid" := by
  have hascii : ∀ i ∈ ["", "ID", "UUID"], IsAscii i := by decide
  have hends : Ends "UUID" "ΦΣUuid" := by decide +kernel
  exact ⟨hascii, hends,
    (apply_keeps_letters _ hascii "ΦΣUuid").1 (.inr ⟨"UUID", by simp, by decide, hends⟩)⟩

/-- With an empty initialism nothing of a name is left. -/
theorem emptyInitialism_loses_name : IsAscii "" ∧ (ofList [""]).apply "Trip" = "" ∧
    ¬ (((ofList [""]).apply "Trip").length = "Trip".length ∧
      lower ((ofList [""]).apply "Trip") = lower "Trip") := by
  decide +kernel

end Naming.Initialisms

end StructGen
