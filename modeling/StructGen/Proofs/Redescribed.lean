import StructGen.Proofs.Checking
import StructGen.Proofs.TwinReadings

/-!
# Values with other descriptions

Two values differ only in their descriptions if they are the same once every text under a
description keyword is left empty. Lists of data are not looked into. The check does not look at
these texts: it passes for both values.

* `Json.undescribed` leaves descriptions empty, `Json.Redescribed` compares what is left;
* `Json.redescribed_obj` and `Json.redescribed_arr` are about the parts of such values;
* `Metaschema.findings_of_redescribed` is about the check.
-/

namespace StructGen

namespace Json

/-! ### Without descriptions -/

/-- The keywords under which arrays list data, not schemas. -/
def dataKeywords : List String := ["enum", "required", "type"]

/-- What is left of a value under a keyword, `inner` being what is left of it elsewhere. -/
def leftUnder (keyword : String) (v inner : Json) : Json :=
  if keyword = "description" then
    match v with
    | .str _ => .str ""
    | _ => inner
  else if dataKeywords.contains keyword then
    match v with
    | .arr items => .arr items
    | _ => inner
  else inner

mutual

/-- A value with empty descriptions. -/
def undescribed : Json → Json
  | .arr items => .arr (undescribedList items)
  | .obj entries => .obj (undescribedEntries entries)
  | v => v

/-- Values with empty descriptions. -/
def undescribedList : List Json → List Json
  | [] => []
  | v :: vs => v.undescribed :: undescribedList vs

/-- Entries with empty descriptions. -/
def undescribedEntries : List (String × Json) → List (String × Json)
  | [] => []
  | (k, v) :: es => (k, leftUnder k v v.undescribed) :: undescribedEntries es

end

/-- Two values differ only in the texts of descriptions. -/
def Redescribed (v w : Json) : Prop := v.undescribed = w.undescribed

/-- Two values under a keyword differ only in the texts of descriptions. -/
def RedescribedUnder (keyword : String) (v w : Json) : Prop :=
  keyword = "description" ∧ v.str?.isSome = true ∧ w.str?.isSome = true ∨
    v.Redescribed w ∧ (keyword ∈ dataKeywords → ∀ items, v = .arr items → w = v)

instance (v w : Json) : Decidable (Redescribed v w) :=
  inferInstanceAs (Decidable (v.undescribed = w.undescribed))

variable {v w : Json} {items items' : List Json} {entries entries' : Entries} {keyword : String}

theorem Redescribed.symm (h : v.Redescribed w) : w.Redescribed v := Eq.symm h

/-! ### Parts of values that differ in descriptions -/

theorem redescribed_arr (h : (arr items).Redescribed w) :
    ∃ items', w = arr items' ∧ List.Forall₂ Redescribed items items' := by
  unfold Redescribed at h
  cases w with
  | arr items' =>
    refine ⟨items', rfl, ?_⟩
    rw [undescribed, undescribed, arr.injEq] at h
    induction items generalizing items' with
    | nil =>
      cases items' with
      | nil => exact .nil
      | cons _ _ => simp [undescribedList] at h
    | cons v items ih =>
      cases items' with
      | nil => simp [undescribedList] at h
      | cons w items' =>
        rw [undescribedList, undescribedList, List.cons.injEq] at h
        exact .cons h.1 (ih items' h.2)
  | _ => simp [undescribed] at h

theorem redescribedUnder_of_left
    (h : leftUnder keyword v v.undescribed = leftUnder keyword w w.undescribed) :
    RedescribedUnder keyword v w := by
  unfold leftUnder at h
  by_cases hdescription : keyword = "description"
  · rw [if_pos hdescription, if_pos hdescription] at h
    have hdata : keyword ∉ dataKeywords := by
      rw [hdescription]
      decide
    cases v with
    | str s =>
      cases w with
      | str t => exact Or.inl ⟨hdescription, rfl, rfl⟩
      | _ => simp [undescribed] at h
    | _ =>
      cases w with
      | str t => simp [undescribed] at h
      | _ => exact Or.inr ⟨h, fun hk => absurd hk hdata⟩
  · rw [if_neg hdescription, if_neg hdescription] at h
    by_cases hdata : dataKeywords.contains keyword = true
    · rw [if_pos hdata, if_pos hdata] at h
      cases v with
      | arr items =>
        cases w with
        | arr items' =>
          dsimp only at h
          rw [h]
          exact Or.inr ⟨rfl, fun _ _ _ => rfl⟩
        | _ => simp [undescribed] at h
      | _ =>
        cases w with
        | arr items' => simp [undescribed] at h
        | _ => exact Or.inr ⟨h, by simp⟩
    · rw [if_neg hdata, if_neg hdata] at h
      exact Or.inr ⟨h, fun hk => absurd (List.contains_iff_mem.2 hk) hdata⟩

theorem redescribed_obj (h : (obj entries).Redescribed w) :
    ∃ entries', w = obj entries' ∧
      List.Forall₂ (Schema.SameKey RedescribedUnder) entries entries' := by
  unfold Redescribed at h
  cases w with
  | obj entries' =>
    refine ⟨entries', rfl, ?_⟩
    rw [undescribed, undescribed, obj.injEq] at h
    induction entries generalizing entries' with
    | nil =>
      cases entries' with
      | nil => exact .nil
      | cons _ _ => simp [undescribedEntries] at h
    | cons p entries ih =>
      cases entries' with
      | nil => simp [undescribedEntries] at h
      | cons q entries' =>
        obtain ⟨k, v⟩ := p
        obtain ⟨k', w⟩ := q
        rw [undescribedEntries, undescribedEntries, List.cons.injEq, Prod.mk.injEq] at h
        obtain ⟨⟨rfl, hvalue⟩, hrest⟩ := h
        exact .cons ⟨rfl, redescribedUnder_of_left hvalue⟩ (ih entries' hrest)
  | _ => simp [undescribed] at h

/-- Values without parts are the same. -/
theorem Redescribed.eq_of_scalar (h : v.Redescribed w) (hv : v.isCompound = false) : v = w := by
  unfold Redescribed at h
  cases v with
  | arr items => cases hv
  | obj entries => cases hv
  | _ => cases w <;> simp_all [undescribed]

theorem Redescribed.str?_eq (h : v.Redescribed w) : v.str? = w.str? := by
  cases v with
  | arr items =>
    obtain ⟨items', rfl, -⟩ := redescribed_arr h
    rfl
  | obj entries =>
    obtain ⟨entries', rfl, -⟩ := redescribed_obj h
    rfl
  | _ => rw [h.eq_of_scalar rfl]

/-- Only a text under the description keyword makes a difference. -/
theorem RedescribedUnder.redescribed (h : RedescribedUnder keyword v w)
    (hother : keyword ≠ "description" ∨ v.str? = none) : v.Redescribed w := by
  rcases h with ⟨hkeyword, htext, -⟩ | ⟨h, -⟩
  · rcases hother with hother | hother
    · exact absurd hkeyword hother
    · rw [hother] at htext
      cases htext
  · exact h

/-- Arrays of data are the same. -/
theorem RedescribedUnder.eq_of_data (h : RedescribedUnder keyword (arr items) w)
    (hdata : keyword ∈ dataKeywords) : w = arr items := by
  rcases h with ⟨-, htext, -⟩ | ⟨-, h⟩
  · cases htext
  · exact h hdata items rfl

/-! ### What descriptions do not count for -/

/-- Two values have the same size and the same references, and their objects have each key once or
not. -/
structure SameParts (v w : Json) : Prop where
  size : v.size = w.size
  references : v.references = w.references
  uniqueKeys : v.hasUniqueKeys = w.hasUniqueKeys

theorem SameParts.refl (v : Json) : SameParts v v := ⟨rfl, rfl, rfl⟩

theorem sameParts_leftUnder (keyword : String) {inner : Json} (h : SameParts inner v) :
    SameParts (leftUnder keyword v inner) v := by
  unfold leftUnder
  split_ifs
  · cases v with
    | str s => exact ⟨rfl, rfl, rfl⟩
    | _ => exact h
  · cases v with
    | arr items => exact .refl _
    | _ => exact h
  · exact h

theorem str?_leftUnder_ref {inner : Json} (h : inner.str? = v.str?) :
    (leftUnder "$ref" v inner).str? = v.str? := h

theorem keys_undescribedEntries (entries : Entries) :
    (undescribedEntries entries).map Prod.fst = entries.map Prod.fst := by
  induction entries with
  | nil => rfl
  | cons p entries ih => rw [undescribedEntries, List.map_cons, List.map_cons, ih]

theorem str?_undescribed (v : Json) : v.undescribed.str? = v.str? := by
  cases v <;> rfl

mutual

theorem sameParts_undescribed : (v : Json) → SameParts v.undescribed v
  | .arr items => by
    have h := sameParts_undescribedList items
    refine ⟨?_, ?_, ?_⟩
    · rw [undescribed, size, size, h.1]
    · rw [undescribed, references, references, h.2.1]
    · rw [undescribed, hasUniqueKeys, hasUniqueKeys, h.2.2]
  | .obj entries => by
    have h := sameParts_undescribedEntries entries
    refine ⟨?_, ?_, ?_⟩
    · rw [undescribed, size, size, h.1]
    · rw [undescribed, references, references, h.2.1]
    · rw [undescribed, hasUniqueKeys, hasUniqueKeys, h.2.2, keys_undescribedEntries]
  | .null | .bool _ | .int _ | .float _ | .str _ => .refl _

theorem sameParts_undescribedList : (items : List Json) →
    sizeList (undescribedList items) = sizeList items ∧
      referencesList (undescribedList items) = referencesList items ∧
      hasUniqueKeysList (undescribedList items) = hasUniqueKeysList items
  | [] => ⟨rfl, rfl, rfl⟩
  | v :: items => by
    have hv := sameParts_undescribed v
    have h := sameParts_undescribedList items
    refine ⟨?_, ?_, ?_⟩
    · rw [undescribedList, sizeList, sizeList, hv.size, h.1]
    · rw [undescribedList, referencesList, referencesList, hv.references, h.2.1]
    · rw [undescribedList, hasUniqueKeysList, hasUniqueKeysList, hv.uniqueKeys, h.2.2]

theorem sameParts_undescribedEntries : (entries : List (String × Json)) →
    sizeEntries (undescribedEntries entries) = sizeEntries entries ∧
      referencesEntries (undescribedEntries entries) = referencesEntries entries ∧
      hasUniqueKeysEntries (undescribedEntries entries) = hasUniqueKeysEntries entries
  | [] => ⟨rfl, rfl, rfl⟩
  | (k, v) :: entries => by
    have hv := sameParts_leftUnder k (sameParts_undescribed v)
    have h := sameParts_undescribedEntries entries
    refine ⟨?_, ?_, ?_⟩
    · rw [undescribedEntries, sizeEntries, sizeEntries, hv.size, h.1]
    · have href : (if k = "$ref" then (leftUnder k v v.undescribed).str?.toList else []) =
          if k = "$ref" then v.str?.toList else [] := by
        split_ifs with hk
        · rw [hk, str?_leftUnder_ref (str?_undescribed v)]
        · rfl
      rw [undescribedEntries, referencesEntries, referencesEntries, hv.references, h.2.1, href]
    · rw [undescribedEntries, hasUniqueKeysEntries, hasUniqueKeysEntries, hv.uniqueKeys, h.2.2]

end

theorem Redescribed.sameParts (h : v.Redescribed w) : SameParts v w := by
  have hv := sameParts_undescribed v
  have hw := sameParts_undescribed w
  rw [h] at hv
  exact ⟨hv.size.symm.trans hw.size, hv.references.symm.trans hw.references,
    hv.uniqueKeys.symm.trans hw.uniqueKeys⟩

/-- Lists of values without parts are the same. -/
theorem eq_of_forall₂_redescribed (h : List.Forall₂ Redescribed items items')
    (hscalar : ∀ v ∈ items, v.isCompound = false) : items' = items := by
  induction h with
  | nil => rfl
  | cons hvw _ ih =>
    rw [ih fun v hv => hscalar v (List.mem_cons_of_mem _ hv),
      hvw.eq_of_scalar (hscalar _ List.mem_cons_self)]

end Json

/-! ### The check -/

namespace Metaschema

open Json (Redescribed RedescribedUnder)

variable {shape : Shape} {v w : Json} {items items' : List Json} {entries entries' : Entries}

theorem alternativeFindings_eq_nil {findings : List Finding} :
    alternativeFindings v findings = [] ↔ findings = [] := by
  constructor
  · exact eq_nil_of_alternativeFindings
  · rintro rfl
    rfl

theorem itemFindings_eq_nil :
    itemFindings items = [] ↔ ∀ v ∈ items, Shape.findings .schema v = [] := by
  induction items with
  | nil => simp [itemFindings]
  | cons v items ih => simp [itemFindings, ih]

theorem memberFindings_eq_nil :
    memberFindings shape entries = [] ↔ ∀ p ∈ entries, Shape.findings shape p.2 = [] := by
  induction entries with
  | nil => simp [memberFindings]
  | cons p entries ih => simp [memberFindings, ih]

/-- A schema passes if its keywords do and each has the one that it needs. -/
theorem schemaFindings_eq_nil : schemaFindings entries (keywordFindings entries) = [] ↔
    (∀ p ∈ keywordShapes, ∀ v, entries.lookup p.1 = some v → Shape.findings p.2 v = []) ∧
      ∀ p ∈ dependencies, (entries.lookup p.1).isSome = true →
        (entries.lookup p.2).isSome = true := by
  have hshapes : ∀ p ∈ keywordShapes, keywordShapes.lookup p.1 = some p.2 := by decide
  rw [schemaFindings, List.append_eq_nil_iff, List.flatMap_eq_nil_iff, List.map_eq_nil_iff,
    List.filter_eq_nil_iff]
  refine and_congr (forall₂_congr fun p hp => ?_) (forall₂_congr fun p hp => ?_)
  · dsimp only
    rw [lookup_keywordFindings (hshapes p hp)]
    cases entries.lookup p.1 with
    | none => simp
    | some v => simp
  · dsimp only
    generalize entries.lookup p.1 = a
    generalize entries.lookup p.2 = b
    cases a <;> cases b <;> simp

theorem isCompound_of_textsFindings (h : textsFindings (.arr items) = []) :
    ∀ v ∈ items, v.isCompound = false := by
  intro v hv
  rw [textsFindings, List.append_eq_nil_iff, List.filterMap_eq_nil_iff] at h
  have htext := h.1 v hv
  cases v with
  | arr _ => simp at htext
  | obj _ => simp at htext
  | _ => rfl

theorem isCompound_of_isTypes (h : isTypes (.arr items) = true) :
    ∀ v ∈ items, v.isCompound = false := by
  intro v hv
  simp only [isTypes, Bool.and_eq_true, List.all_eq_true] at h
  have htype := h.1.2 v hv
  cases v with
  | arr _ => cases htype
  | obj _ => cases htype
  | _ => rfl

/-- Values below a size pass with other descriptions. Only a list of values can be spoilt by
descriptions that become the same. -/
def PassRedescribed (n : Nat) : Prop :=
  ∀ {shape : Shape} {v w : Json}, v.size < n → v.Redescribed w →
    (shape = .values → ∀ items, v = .arr items → w = v) → Shape.findings shape v = [] →
    Shape.findings shape w = []

/-- The items of an array of schemas pass with other descriptions if smaller values do. -/
theorem itemFindings_of_redescribed (hitems : List.Forall₂ Redescribed items items')
    (ih : PassRedescribed (Json.arr items).size) (h : itemFindings items = []) :
    itemFindings items' = [] := by
  rw [itemFindings_eq_nil] at h ⊢
  intro w hw
  obtain ⟨v, hv, hvw⟩ := exists_of_forall₂ hitems hw
  refine ih ?_ hvw (by simp) (h v hv)
  have := Json.size_le_sizeList hv
  rw [Json.size]
  omega

/-- The members of an object pass with other descriptions if smaller values do. No member is a
text, so none is a description. -/
theorem memberFindings_of_redescribed
    (hentries : List.Forall₂ (Schema.SameKey RedescribedUnder) entries entries')
    (ih : PassRedescribed (Json.obj entries).size) (hshape : shape ≠ .values)
    (htext : ∀ s, Shape.findings shape (.str s) ≠ []) (h : memberFindings shape entries = []) :
    memberFindings shape entries' = [] := by
  rw [memberFindings_eq_nil] at h ⊢
  intro q hq
  obtain ⟨⟨key, v⟩, hp, -, hpq⟩ := exists_of_forall₂ hentries hq
  have hv := h _ hp
  have hother : v.str? = none := by
    cases v with
    | str s => exact absurd hv (htext s)
    | _ => rfl
  exact ih (Json.size_lt_of_entry hp) (hpq.redescribed (Or.inr hother))
    (fun hvalues => absurd hvalues hshape) hv

/-- A schema passes with other descriptions if smaller values do. -/
theorem schemaFindings_of_redescribed
    (hentries : List.Forall₂ (Schema.SameKey RedescribedUnder) entries entries')
    (ih : PassRedescribed (Json.obj entries).size)
    (h : schemaFindings entries (keywordFindings entries) = []) :
    schemaFindings entries' (keywordFindings entries') = [] := by
  rw [schemaFindings_eq_nil] at h ⊢
  have hlookup := Schema.lookup_of_sameKey hentries
  constructor
  · rintro ⟨keyword, shape⟩ hshape w hw
    rcases optionRel_cases (hlookup keyword) with ⟨-, hnone⟩ | ⟨v, w', hv, hw', hvw⟩
    · rw [hnone] at hw
      cases hw
    cases hw.symm.trans hw'
    have hpass := h.1 _ hshape v hv
    rcases hvw with ⟨rfl, -, htext⟩ | ⟨hvw, hdata⟩
    · -- a description is a text before and after
      obtain rfl : shape = .text := by
        revert hshape
        simp [keywordShapes]
      cases w with
      | str t => rfl
      | _ => cases htext
    · refine ih (Json.size_lt_of_entry (mem_of_lookup hv)) hvw
        (fun hvalues items hitems => ?_) hpass
      refine hdata ?_ items hitems
      subst hvalues
      revert hshape
      simp [keywordShapes, Json.dataKeywords]
      grind
  · rintro ⟨keyword, needed⟩ hneeded hkeyword
    have hsome : ∀ key, (entries.lookup key).isSome = (entries'.lookup key).isSome := by
      intro key
      rcases optionRel_cases (hlookup key) with ⟨ha, hb⟩ | ⟨_, _, ha, hb, -⟩
      · rw [ha, hb]
      · rw [ha, hb]
        rfl
    rw [← hsome] at hkeyword ⊢
    exact h.2 _ hneeded hkeyword

theorem objFindings_of_redescribed
    (hentries : List.Forall₂ (Schema.SameKey RedescribedUnder) entries entries')
    (ih : PassRedescribed (Json.obj entries).size) (h : Shape.findings shape (.obj entries) = []) :
    Shape.findings shape (.obj entries') = [] := by
  have hschema := schemaFindings_of_redescribed hentries ih
  cases shape with
  | schema =>
    rw [Shape.findings] at h ⊢
    exact hschema h
  | flagOrSchema | schemaOrSchemas | schemaOrTexts =>
    rw [Shape.findings, alternativeFindings_eq_nil] at h ⊢
    exact hschema h
  | schemaMap | dependencyMap =>
    rw [Shape.findings] at h ⊢
    refine memberFindings_of_redescribed hentries ih (by simp) (fun s => ?_) h
    simp [Shape.findings, plainFindings, textsFindings, alternativeFindings_eq_nil]
  | anything => simp [Shape.findings, plainFindings]
  | _ => simp [Shape.findings, plainFindings, textsFindings, isTypes, isSimpleType] at h

theorem arrFindings_of_redescribed (hitems : List.Forall₂ Redescribed items items')
    (ih : PassRedescribed (Json.arr items).size) (hvalues : shape = .values → items' = items)
    (h : Shape.findings shape (.arr items) = []) : Shape.findings shape (.arr items') = [] := by
  have hempty : items'.isEmpty = items.isEmpty := by
    cases hitems <;> rfl
  have hschemas := itemFindings_of_redescribed hitems ih
  have hsame := Json.eq_of_forall₂_redescribed hitems
  cases shape with
  | schemas =>
    rw [Shape.findings] at h ⊢
    rw [hempty]
    split_ifs at h ⊢
    exact hschemas h
  | schemaOrSchemas =>
    rw [Shape.findings] at h ⊢
    rw [hempty]
    split_ifs at h ⊢
    rw [alternativeFindings_eq_nil] at h ⊢
    exact hschemas h
  | anything => simp [Shape.findings, plainFindings]
  | values =>
    rw [hvalues rfl]
    exact h
  -- a list of texts or of types has no descriptions inside
  | texts =>
    rw [hsame (isCompound_of_textsFindings (by simpa [Shape.findings, plainFindings] using h))]
    exact h
  | schemaOrTexts =>
    simp only [Shape.findings, plainFindings] at h
    rw [hsame (isCompound_of_textsFindings (alternativeFindings_eq_nil.1 h))]
    simpa only [Shape.findings, plainFindings] using h
  | types =>
    rw [hsame (isCompound_of_isTypes (by simpa [Shape.findings, plainFindings] using h))]
    exact h
  | _ => simp [Shape.findings, plainFindings] at h

/-- **The check passes for other descriptions as well.** -/
theorem findings_of_redescribed (h : v.Redescribed w)
    (hvalues : shape = .values → ∀ items, v = .arr items → w = v)
    (hv : Shape.findings shape v = []) : Shape.findings shape w = [] := by
  induction hsize : v.size using Nat.strong_induction_on generalizing shape v w with
  | _ n ih =>
    subst hsize
    have hsmaller : PassRedescribed v.size := fun hlt hvw hvalues hpass =>
      ih _ hlt hvw hvalues hpass rfl
    cases v with
    | obj entries =>
      obtain ⟨entries', rfl, hentries⟩ := Json.redescribed_obj h
      exact objFindings_of_redescribed hentries hsmaller hv
    | arr items =>
      obtain ⟨items', rfl, hitems⟩ := Json.redescribed_arr h
      refine arrFindings_of_redescribed hitems hsmaller (fun hshape => ?_) hv
      exact Json.arr.inj (hvalues hshape items rfl)
    | _ =>
      rw [← h.eq_of_scalar rfl]
      exact hv

end Metaschema

end StructGen
