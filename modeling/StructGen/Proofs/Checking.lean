import StructGen.Proofs.Parts
import StructGen.Metaschema.Check

/-!
# What checking a schema tells

A check is stopped by patterns only. A schema that passes it has keywords of the right shape, and
the schemas below it pass the check as well.

* `fromPattern_of_findings` says what stops a check;
* `findings_of_lookup` says that the keywords of a schema that passes have their shapes.
-/

namespace StructGen

/-! ### Checking stops at patterns only -/

namespace Metaschema

variable {m : Misfit} {shape : Shape}

/-- Whether a misfit is found by reading a pattern. -/
def FromPattern (m : Misfit) : Prop := ∃ text, Finding.stop m ∈ patternFindings text

theorem FromPattern.ne_endlessNesting (h : FromPattern m) : m ≠ .endlessNesting := by
  rintro rfl
  obtain ⟨text, h⟩ := h
  unfold patternFindings at h
  split at h <;> simp at h

theorem fromPattern_of_alternativeFindings {v : Json} {findings : List Finding}
    (hfindings : Finding.stop m ∈ findings → FromPattern m)
    (h : .stop m ∈ alternativeFindings v findings) : FromPattern m := by
  unfold alternativeFindings at h
  split at h
  · rename_i m' hfirst
    rw [List.mem_singleton, Finding.stop.injEq] at h
    subst h
    obtain ⟨finding, hmem, hmisfit⟩ := List.exists_of_findSome?_eq_some hfirst
    cases finding with
    | violation _ => cases hmisfit
    | stop m' =>
      cases hmisfit
      exact hfindings hmem
  · split_ifs at h <;> simp at h

theorem stop_not_mem_textsFindings (v : Json) : Finding.stop m ∉ textsFindings v := by
  unfold textsFindings distinctFindings
  intro h
  split at h
  · simp only [List.mem_append, List.mem_filterMap] at h
    rcases h with ⟨v, -, h⟩ | h
    · split_ifs at h
      simp at h
    · split_ifs at h <;> simp at h
  · simp at h

theorem fromPattern_of_plainFindings {v : Json} (h : .stop m ∈ plainFindings shape v) :
    FromPattern m := by
  cases shape with
  | pattern =>
    cases v with
    | str text => exact ⟨text, h⟩
    | _ => simp [plainFindings] at h
  | schemaOrTexts =>
    exact fromPattern_of_alternativeFindings
      (fun h => (stop_not_mem_textsFindings v h).elim) h
  | texts => exact (stop_not_mem_textsFindings v h).elim
  | _ => cases v <;> grind [plainFindings, distinctFindings]

theorem exists_of_schemaFindings {entries : Entries} {findings : List (String × List Finding)}
    (h : .stop m ∈ schemaFindings entries findings) :
    ∃ keyword fs, (keyword, fs) ∈ findings ∧ .stop m ∈ fs := by
  unfold schemaFindings at h
  rcases List.mem_append.1 h with h | h
  · obtain ⟨⟨keyword, _⟩, -, hstop⟩ := List.mem_flatMap.1 h
    dsimp only at hstop
    cases hlookup : findings.lookup keyword with
    | none =>
      rw [hlookup] at hstop
      cases hstop
    | some fs =>
      rw [hlookup] at hstop
      obtain ⟨before, after, hfindings, -⟩ := List.lookup_eq_some_iff.1 hlookup
      exact ⟨keyword, fs, by simp [hfindings], hstop⟩
  · obtain ⟨p, -, h⟩ := List.mem_map.1 h
    cases h

mutual

/-- **Checking stops at patterns only.** -/
theorem fromPattern_of_findings (shape : Shape) : (v : Json) →
    .stop m ∈ Shape.findings shape v → FromPattern m
  | .obj entries, h => by
    have hschema : .stop m ∈ schemaFindings entries (keywordFindings entries) →
        FromPattern m := fun h =>
      let ⟨_, _, hmem, hstop⟩ := exists_of_schemaFindings h
      fromPattern_of_keywordFindings entries hmem hstop
    cases shape with
    | schema => exact hschema (by rwa [Shape.findings] at h)
    | flagOrSchema | schemaOrSchemas | schemaOrTexts =>
      rw [Shape.findings] at h
      exact fromPattern_of_alternativeFindings hschema h
    | schemaMap | dependencyMap =>
      rw [Shape.findings] at h
      exact fromPattern_of_memberFindings _ entries h
    | _ => exact fromPattern_of_plainFindings (by simpa only [Shape.findings] using h)
  | .arr items, h => by
    cases shape with
    | schemas =>
      rw [Shape.findings] at h
      split_ifs at h
      · simp at h
      · exact fromPattern_of_itemFindings items h
    | schemaOrSchemas =>
      rw [Shape.findings] at h
      split_ifs at h
      · simp at h
      · exact fromPattern_of_alternativeFindings (fromPattern_of_itemFindings items) h
    | _ => exact fromPattern_of_plainFindings (by simpa only [Shape.findings] using h)
  | .null, h | .bool _, h | .int _, h | .float _, h | .str _, h => fromPattern_of_plainFindings h

theorem fromPattern_of_itemFindings : (items : List Json) →
    .stop m ∈ itemFindings items → FromPattern m
  | [], h => by cases h
  | v :: items, h => by
    rw [itemFindings] at h
    rcases List.mem_append.1 h with h | h
    · exact fromPattern_of_findings _ v h
    · exact fromPattern_of_itemFindings items h

theorem fromPattern_of_memberFindings (shape : Shape) : (entries : List (String × Json)) →
    .stop m ∈ memberFindings shape entries → FromPattern m
  | [], h => by cases h
  | (_, v) :: entries, h => by
    rw [memberFindings] at h
    rcases List.mem_append.1 h with h | h
    · exact fromPattern_of_findings _ v h
    · exact fromPattern_of_memberFindings _ entries h

theorem fromPattern_of_keywordFindings : (entries : List (String × Json)) →
    ∀ {keyword : String} {fs : List Finding}, (keyword, fs) ∈ keywordFindings entries →
      .stop m ∈ fs → FromPattern m
  | [], _, _, hmem, _ => by cases hmem
  | (k, v) :: entries, _, _, hmem, h => by
    rw [keywordFindings] at hmem
    split at hmem
    · rcases List.mem_cons.1 hmem with hmem | hmem
      · cases hmem
        exact fromPattern_of_findings _ v h
      · exact fromPattern_of_keywordFindings entries hmem h
    · exact fromPattern_of_keywordFindings entries hmem h

end

/-- A check fails as it is told to report violations, or by a pattern. -/
theorem checkSchema_eq_error {report : Violation → Failure} {schema : Json} {f : Failure}
    (h : checkSchema report schema = .error f) :
    (∃ violation, f = report violation) ∨
      ∃ m, f = .misfit m ∧ (Shape.findings .schema schema).head? = some (.stop m) := by
  unfold checkSchema at h
  split at h
  · cases h
  · cases h
    exact Or.inl ⟨_, rfl⟩
  · cases h
    exact Or.inr ⟨_, rfl, ‹_›⟩

/-! ### Schemas that pass -/

theorem checkSchema_eq_ok {report : Violation → Failure} {schema : Json} :
    checkSchema report schema = .ok () ↔ Shape.findings .schema schema = [] := by
  unfold checkSchema
  cases hfindings : Shape.findings .schema schema with
  | nil => simp
  | cons finding findings => cases finding <;> simp

/-- The findings of a keyword are those of its first value. -/
theorem lookup_keywordFindings {keyword : String}
    (hshape : keywordShapes.lookup keyword = some shape) (entries : Entries) :
    (keywordFindings entries).lookup keyword =
      (entries.lookup keyword).map (Shape.findings shape) := by
  induction entries with
  | nil => rfl
  | cons entry entries ih =>
    obtain ⟨k, v⟩ := entry
    rw [keywordFindings]
    by_cases hk : keyword = k
    · subst hk
      rw [hshape]
      simp
    · have hne : (keyword == k) = false := by simpa using hk
      split <;> simp [List.lookup_cons, hne, ih]

/-- **A schema that passes has keywords of the right shape.** -/
theorem findings_of_lookup {entries : Entries} {keyword : String} {v : Json}
    (h : Shape.findings .schema (.obj entries) = [])
    (hshape : keywordShapes.lookup keyword = some shape)
    (hlookup : entries.lookup keyword = some v) : Shape.findings shape v = [] := by
  rw [Shape.findings, schemaFindings, List.append_eq_nil_iff, List.flatMap_eq_nil_iff] at h
  have hkeyword := h.1 _ (mem_of_lookup hshape)
  simpa [lookup_keywordFindings hshape, hlookup] using hkeyword

theorem elements?_ne_none_of_types {v : Json} (h : Shape.findings .types v = []) :
    v.elements? ≠ none := by
  cases v <;> simp [Shape.findings, plainFindings, isTypes, isSimpleType, Json.elements?] at h ⊢

theorem elements?_ne_none_of_texts {v : Json} (h : Shape.findings .texts v = []) :
    v.elements? ≠ none := by
  cases v <;> simp [Shape.findings, plainFindings, textsFindings, Json.elements?] at h ⊢

theorem findings_of_mem_memberFindings {entries : Entries} {key : String} {v : Json}
    (h : memberFindings shape entries = []) (hmem : (key, v) ∈ entries) :
    Shape.findings shape v = [] := by
  induction entries with
  | nil => cases hmem
  | cons entry entries ih =>
    rw [memberFindings, List.append_eq_nil_iff] at h
    rcases List.mem_cons.1 hmem with rfl | hmem
    · exact h.1
    · exact ih h.2 hmem

/-- Schemas by name are an object of schemas. -/
theorem exists_of_schemaMap {v : Json} (h : Shape.findings .schemaMap v = []) :
    ∃ entries, v = .obj entries ∧
      ∀ key schema, (key, schema) ∈ entries → Shape.findings .schema schema = [] := by
  cases v with
  | obj entries =>
    rw [Shape.findings] at h
    exact ⟨entries, rfl, fun _ _ => findings_of_mem_memberFindings h⟩
  | _ => simp [Shape.findings, plainFindings] at h

theorem eq_nil_of_alternativeFindings {v : Json} {findings : List Finding}
    (h : alternativeFindings v findings = []) : findings = [] := by
  unfold alternativeFindings at h
  split at h
  · cases h
  · split_ifs at h with hempty
    exact List.isEmpty_iff.1 hempty

/-- An object that is a schema or an array of schemas is a schema. -/
theorem findings_of_schemaOrSchemas {entries : Entries}
    (h : Shape.findings .schemaOrSchemas (.obj entries) = []) :
    Shape.findings .schema (.obj entries) = [] := by
  simp only [Shape.findings] at h ⊢
  exact eq_nil_of_alternativeFindings h

end Metaschema

end StructGen
