import StructGen.Proofs.NameCharacters
import StructGen.Proofs.RecasedNames

/-!
# The choice of an initialism

Initialisms may end in each other, as `UUID` and `ID` do, and the title forms of several may end one
name. The order in which they are tried settles which one is applied: it depends on no more than
which initialisms there are, and a longer one comes first. For initialisms of capitals and digits
applying them once is enough.

* `ofList_congr` says that lists of the same initialisms are ordered alike;
* `titleForm_eq_self` and `titleForm_of_suffix` are the two ways in which a title form can end a name
  that has got its initialism, and `replaceEnd_applied` says that neither changes the name again;
* `initialisms_well_chosen` is the result.
-/

namespace StructGen.Naming.Initialisms

open Text (IsAscii)

/-! ### Lists of the same initialisms -/

/-- The order of initialisms depends on no more than which there are. -/
theorem ofList_congr {l l' : List String} (h : ∀ i, i ∈ l ↔ i ∈ l') : ofList l = ofList l' := by
  have hperm : (ofList l).ordered.Perm (ofList l').ordered :=
    (List.perm_ext_iff_of_nodup (nodup_eraseDups _) (nodup_eraseDups _)).2 fun i =>
      mem_ofList.trans ((h i).trans mem_ofList.symm)
  have hordered : (ofList l).ordered = (ofList l').ordered :=
    List.Perm.eq_of_pairwise (fun _ _ _ _ => precedes_antisymm) (pairwise_ofList l)
      (pairwise_ofList l') hperm
  exact congrArg Initialisms.mk hordered

/-! ### Initialisms of capitals and digits -/

/-- Whether a character may stand in an initialism. -/
def isCapital (c : Char) : Bool := c.isUpper || c.isDigit

/-- A text of one or more ASCII capitals and digits. -/
def IsCapitals (i : String) : Prop := i ≠ "" ∧ ∀ c ∈ i.toList, isCapital c = true

instance (i : String) : Decidable (IsCapitals i) :=
  haveI := List.decidableBAll (fun c : Char => isCapital c = true) i.toList
  inferInstanceAs (Decidable (_ ∧ _))

section Capitals

variable {c : Char} {i j name : String}

theorem isNameChar_of_isCapital (h : isCapital c = true) : isNameChar c = true := by
  rw [isCapital, Bool.or_eq_true] at h
  rcases h with h | h <;> simp [isNameChar, Char.isAlphanum, Char.isAlpha, h]

theorem IsCapitals.isAscii (h : IsCapitals i) : IsAscii i := fun c hc => by
  have := toNat_of_isNameChar (isNameChar_of_isCapital (h.2 c hc))
  omega

theorem isLower_of_isCapital (h : isCapital c = true) : c.isLower = false := by
  refine eq_false_of_ne_true fun hlower => ?_
  have hdigit : c.isDigit = false := isDigit_of_isAlpha (by rw [Char.isAlpha, hlower, Bool.or_true])
  rw [isCapital, hdigit, eq_false_of_ne_true (Char.not_isUpper_of_isLower hlower)] at h
  cases h

theorem toUpper_of_isCapital (h : isCapital c = true) : c.toUpper = c :=
  Char.toUpper_eq_of_not_isLower (by simp [isLower_of_isCapital h])

/-- What is a capital or a digit in lower case is a digit. -/
theorem toLower_of_isCapital (h : isCapital c.toLower = true) : c.toLower = c := by
  have hlower := isLower_of_isCapital h
  rw [Char.isLower_toLower_eq_isAlpha, Char.isAlpha, Bool.or_eq_false_iff] at hlower
  exact Char.toLower_eq_of_not_isUpper (by simp [hlower.1])

/-- The title form of an initialism of capitals keeps the first of them. -/
theorem IsCapitals.toList_titleForm (h : IsCapitals i) :
    ∃ c cs, i.toList = c :: cs ∧ (titleForm i).toList = c :: cs.map Char.toLower := by
  cases hchars : i.toList with
  | nil => exact absurd (String.toList_eq_nil_iff.1 hchars) h.1
  | cons c cs =>
    have hc : isCapital c = true := h.2 c (by simp [hchars])
    refine ⟨c, cs, rfl, ?_⟩
    rw [Initialisms.toList_titleForm h.isAscii hchars, Char.toUpper_toLower_eq_toUpper,
      toUpper_of_isCapital hc]

/-- Letters that are capitals in lower case are digits, so they are the same in any case. -/
theorem map_toLower_of_isCapital {cs : List Char}
    (h : ∀ c ∈ cs.map Char.toLower, isCapital c = true) : cs.map Char.toLower = cs :=
  (List.map_congr_left fun _ hc =>
    toLower_of_isCapital (h _ (List.mem_map_of_mem hc))).trans (List.map_id' cs)

/-- A title form of capitals and digits is the initialism itself. -/
theorem titleForm_eq_self (hj : IsCapitals j) (h : ∀ c ∈ (titleForm j).toList, isCapital c = true) :
    titleForm j = j := by
  obtain ⟨c, cs, hchars, htitle⟩ := hj.toList_titleForm
  rw [htitle, List.forall_mem_cons] at h
  refine String.toList_inj.1 ?_
  rw [htitle, hchars, map_toLower_of_isCapital h.2]

/-- A title form that ends in an initialism of capitals is that initialism, or the initialism holds
digits only. -/
theorem titleForm_of_suffix (hi : IsCapitals i) (hj : IsCapitals j)
    (h : i.toList <:+ (titleForm j).toList) : titleForm j = i ∨ titleForm i = i := by
  obtain ⟨_, cs, -, htitle⟩ := hj.toList_titleForm
  rw [htitle, List.suffix_cons_iff] at h
  rcases h with heq | hsuffix
  · exact .inl (String.toList_inj.1 (htitle.trans heq.symm))
  · obtain ⟨d, ds, hchars, htitle'⟩ := hi.toList_titleForm
    have hlower : ∀ e ∈ ds, e.toLower = e := fun e he => by
      have hmem : e ∈ i.toList := hchars ▸ List.mem_cons_of_mem d he
      obtain ⟨x, -, rfl⟩ := List.mem_map.1 (hsuffix.subset hmem)
      exact Char.toLower_toLower_eq_toLower x
    refine .inr (String.toList_inj.1 ?_)
    rw [htitle', hchars, List.map_congr_left hlower, List.map_id']

/-! ### Names that have got their initialism -/

theorem length_titleForm (hj : IsCapitals j) : (titleForm j).length = j.length := by
  rw [← String.length_toList, ← String.length_toList, (sameLetters_titleForm hj.isAscii).length_eq]

/-- A title form that ends a name after the initialism that comes first was applied is that of an
initialism which is its own title form. -/
theorem titleForm_of_ends_applied (hi : IsCapitals i) (hj : IsCapitals j) (hends : Ends i name)
    (hfirst : Ends j name → precedes i j = true)
    (hagain : Ends j (replaceEnd name (titleForm i) i)) : titleForm j = j := by
  obtain ⟨cs, hname⟩ := hends
  have hchars : (replaceEnd name (titleForm i) i).toList = cs ++ i.toList :=
    toList_replaceEnd (mt (titleForm_eq_empty_iff hi.isAscii).1 hi.1) hname.symm i
  rcases List.suffix_or_suffix_of_suffix hagain ⟨cs, hchars.symm⟩ with hshort | hlong
  · exact titleForm_eq_self hj fun c hc => hi.2 c (hshort.subset hc)
  rcases titleForm_of_suffix hi hj hlong with heq | hself
  · exact titleForm_eq_self hj (heq ▸ hi.2)
  · -- the name has not changed, so the other one was passed over and is no longer than this one
    have hsame : replaceEnd name (titleForm i) i = name := by
      rw [← String.toList_inj, hchars, ← hname, hself]
    rw [hsame] at hagain
    have hle : (titleForm j).toList.length ≤ i.toList.length := by
      rw [String.length_toList, String.length_toList, length_titleForm hj]
      rcases precedes_iff.1 (hfirst hagain) with hlt | ⟨heq, -⟩ <;> omega
    refine titleForm_eq_self hj ?_
    rw [← hlong.eq_of_length_le hle]
    exact hi.2

/-- Trying initialisms again changes nothing in a name that has got its initialism. -/
theorem replaceEnd_applied (hi : IsCapitals i) (hj : IsCapitals j) (hends : Ends i name)
    (hfirst : Ends j name → precedes i j = true)
    (hagain : Ends j (replaceEnd name (titleForm i) i)) :
    replaceEnd (replaceEnd name (titleForm i) i) (titleForm j) j =
      replaceEnd name (titleForm i) i := by
  have hself := titleForm_of_ends_applied hi hj hends hfirst hagain
  obtain ⟨cs, hname⟩ := hagain
  rw [hself] at hname ⊢
  rw [← String.toList_inj, toList_replaceEnd hj.1 hname.symm, hname]

end Capitals

theorem apply_apply {l : List String} (h : ∀ i ∈ l, IsCapitals i) (name : String) :
    (ofList l).apply ((ofList l).apply name) = (ofList l).apply name := by
  obtain ⟨-, heq⟩ | ⟨i, hi, hends, hfirst, heq⟩ := ofList_apply_cases l name
  · rw [heq, heq]
  · rw [heq]
    obtain ⟨-, hagain⟩ | ⟨j, hj, hjends, -, hagain⟩ :=
      ofList_apply_cases l (replaceEnd name (titleForm i) i)
    · exact hagain
    · rw [hagain]
      exact replaceEnd_applied (h i hi) (h j hj) hends (hfirst j hj) hjends

/-- **The choice of an initialism.** Lists of the same initialisms, in any order and with any
repetitions, give the same names. What is applied to a name is a longest one of those whose title
form ends the name: it stands in the place of its title form then, or of the whole name if that form
is empty. The name stays as it is if there are none. Initialisms of capitals and digits leave a name
alone the second time. -/
theorem initialisms_well_chosen :
    (∀ l l' : List String, (∀ i, i ∈ l ↔ i ∈ l') →
      (∀ name, (ofList l).apply name = (ofList l').apply name) ∧
      (∀ property, (ofList l).fieldName property = (ofList l').fieldName property) ∧
      ∀ path major versioned,
        (ofList l).typeName path major versioned = (ofList l').typeName path major versioned) ∧
    (∀ (l : List String) (name : String),
      (∀ i ∈ l, ¬ Ends i name) ∧ (ofList l).apply name = name ∨
      ∃ i ∈ l, Ends i name ∧ (∀ j ∈ l, Ends j name → j.length ≤ i.length) ∧
        (titleForm i = "" ∧ (ofList l).apply name = i ∨
          titleForm i ≠ "" ∧ ∃ cs, name.toList = cs ++ (titleForm i).toList ∧
            ((ofList l).apply name).toList = cs ++ i.toList)) ∧
    ∀ l : List String, (∀ i ∈ l, IsCapitals i) → ∀ name,
      (ofList l).apply ((ofList l).apply name) = (ofList l).apply name := by
  refine ⟨fun l l' h => ?same, fun l name => ?longest, fun l h => apply_apply h⟩
  case same =>
    rw [ofList_congr h]
    exact ⟨fun _ => rfl, fun _ => rfl, fun _ _ _ => rfl⟩
  case longest =>
    refine (ofList_apply_cases l name).imp_right ?_
    rintro ⟨i, hi, hends, hfirst, heq⟩
    refine ⟨i, hi, hends, fun j hj hjends => ?_, ?_⟩
    · rcases precedes_iff.1 (hfirst j hj hjends) with hlt | ⟨hlength, -⟩
      · exact hlt.le
      · exact hlength.ge
    · rw [heq]
      by_cases htitle : titleForm i = ""
      · refine .inl ⟨htitle, ?_⟩
        rw [htitle, replaceEnd, if_pos (by decide)]
      · obtain ⟨cs, hcs⟩ := hends
        exact .inr ⟨htitle, cs, hcs.symm, toList_replaceEnd htitle hcs.symm i⟩

/-- The longest of three initialisms that end a name is applied to it. -/
theorem uuid_well_chosen :
    (∀ i, i ∈ ["ID", "UUID", "8", "UID"] ↔ i ∈ ["UID", "8", "ID", "UUID", "ID"]) ∧
      (ofList ["ID", "UUID", "8", "UID"]).apply "TripUuid" =
        (ofList ["UID", "8", "ID", "UUID", "ID"]).apply "TripUuid" ∧
      (ofList ["ID", "UUID", "8", "UID"]).apply "TripUuid" = "TripUUID" ∧
    (∀ i ∈ ["ID", "UUID", "8", "UID"], IsCapitals i) ∧
      (ofList ["ID", "UUID", "8", "UID"]).apply
          ((ofList ["ID", "UUID", "8", "UID"]).apply "TripUuid") =
        (ofList ["ID", "UUID", "8", "UID"]).apply "TripUuid" := by
  have hsame : ∀ i, i ∈ ["ID", "UUID", "8", "UID"] ↔ i ∈ ["UID", "8", "ID", "UUID", "ID"] := by
    intro i
    simp only [List.mem_cons, List.not_mem_nil, or_false]
    tauto
  have hcapitals : ∀ i ∈ ["ID", "UUID", "8", "UID"], IsCapitals i := by decide +kernel
  have happly : (ofList ["ID", "UUID", "8", "UID"]).apply "TripUuid" = "TripUUID" := by
    have hends : Ends "UUID" "TripUuid" := by decide +kernel
    obtain ⟨hnone, -⟩ | ⟨i, hi, -, hlongest, hchars⟩ :=
      initialisms_well_chosen.2.1 ["ID", "UUID", "8", "UID"] "TripUuid"
    · exact absurd hends (hnone "UUID" (by decide))
    · -- no other one is as long
      have honly : ∀ j ∈ ["ID", "UUID", "8", "UID"], "UUID".length ≤ j.length → j = "UUID" := by
        decide
      obtain rfl := honly i hi (hlongest "UUID" (by decide) hends)
      have htitle : titleForm "UUID" = "Uuid" := by decide +kernel
      rw [htitle] at hchars
      obtain ⟨hempty, -⟩ | ⟨-, cs, hcs, happlied⟩ := hchars
      · exact absurd hempty (by decide)
      · have htrip : "TripUuid".toList = "Trip".toList ++ "Uuid".toList := by decide
        obtain rfl : cs = "Trip".toList := List.append_cancel_right (hcs.symm.trans htrip)
        rw [← String.toList_inj, happlied]
        decide
  exact ⟨hsame, (initialisms_well_chosen.1 _ _ hsame).1 _, happly, hcapitals,
    initialisms_well_chosen.2.2 _ hcapitals _⟩

end StructGen.Naming.Initialisms
