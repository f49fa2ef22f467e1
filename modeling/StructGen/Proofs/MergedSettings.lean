import StructGen.Proofs.SettingsFailures

/-!
# How settings are merged

Overrides win over the settings file and the file wins over the defaults. The keys that are not
known are put over the custom settings, and of the custom settings those of the overrides win as a
whole.

* `GivenBy` relates the file that is named to the entries that it gives;
* `toEntries_withCustom` and `extendCustom_obj` say what becomes of the known and of the unknown
  keys of merged entries;
* `load_merges_layers` is the result.
-/

namespace StructGen.Settings

/-- The entries that a settings file gives: those that it holds, or none if no file is named. -/
inductive GivenBy (files : FileTree) : Json → Entries → Prop
  | none {file : Json} (h : file.truthy = false) : GivenBy files file []
  | file {path : String} {entries : Entries} (hpath : path ≠ "")
      (h : Holds files (.ofText path) entries) : GivenBy files (.str path) entries

/-- Custom settings, if there are any, are an object. -/
def HasCustomObject (entries : Entries) : Prop :=
  ∀ custom, entries.lookup "custom" = some custom → ∃ table, custom = .obj table

section Merging

variable {files : FileTree} {file : Json} {given overrides : Entries}

theorem GivenBy.nodup_keys (h : GivenBy files file given) : (given.map Prod.fst).Nodup := by
  cases h with
  | none => exact List.nodup_nil
  | file _ h => exact nodup_keys_of_holds h

theorem load_of_givenBy (h : GivenBy files file given) :
    load files file overrides = ofEntries (merged given overrides) := by
  cases h with
  | none h =>
    unfold load
    rw [h]
    rfl
  | file hpath h => exact load_of_holds hpath h overrides

/-- Unknown keys can be put over an object. -/
theorem extendCustom_obj (entries new : Entries) :
    extendCustom (.obj entries) new = .ok (.value (.obj (updateEntries entries new))) := by
  unfold extendCustom
  split_ifs with hnew hempty
  · rw [List.isEmpty_iff.1 hnew]
    rfl
  · have hentries : entries = [] := by simpa [Json.truthy] using hempty
    rw [hentries]
  · rfl

/-- The known settings are the defaults where entries give no others. -/
theorem toEntries_withCustom (entries : Entries) (custom : CustomSettings) :
    (withCustom entries custom).toEntries =
      default.toEntries.map fun e => (e.1, (entries.lookup e.1).getD e.2) := rfl

/-- A known setting of merged entries is that of the overrides, else that of the file, else the
default. -/
theorem lookup_toEntries_withCustom (hgiven : (given.map Prod.fst).Nodup)
    (hoverrides : (overrides.map Prod.fst).Nodup) (custom : CustomSettings) {key : String}
    {v : Json} (h : (key, v) ∈ default.toEntries) :
    (withCustom (merged given overrides) custom).toEntries.lookup key =
      some (((overrides.lookup key).or (given.lookup key)).getD v) := by
  have hkeys : (default.toEntries.map Prod.fst).Nodup := by decide
  have hmerged : ((merged given overrides).lookup key).getD v =
      ((overrides.lookup key).or (given.lookup key)).getD v := by
    rw [lookup_merged hgiven hoverrides, lookup_of_mem hkeys h]
    cases (overrides.lookup key).or (given.lookup key) <;> rfl
  rw [toEntries_withCustom, ← hmerged]
  refine lookup_of_mem ?_ (List.mem_map.2 ⟨(key, v), h, rfl⟩)
  rw [List.map_map]
  exact hkeys

/-- The value of a key among the unknown keys. -/
theorem lookup_unknown (entries : Entries) (key : String) :
    (unknown entries).lookup key = if key ∈ keys then none else entries.lookup key := by
  rw [unknown, lookup_filter (fun key => !keys.contains key)]
  by_cases hkey : key ∈ keys
  · simp [hkey]
  · simp [hkey]

/-- The custom settings of the overrides win over those of the file. -/
theorem exists_winning (hgiven : HasCustomObject given) (hoverrides : HasCustomObject overrides) :
    ∃ winning, ((overrides.lookup "custom").or (given.lookup "custom")).getD (.obj []) =
      .obj winning := by
  cases hover : overrides.lookup "custom" with
  | some custom => exact hoverrides custom hover
  | none =>
    cases hfile : given.lookup "custom" with
    | some custom => exact hgiven custom hfile
    | none => exact ⟨[], rfl⟩

/-- The value of a key among the custom settings: an unknown key has that of the overrides, else
that of the file, else that of the custom settings that win, and a known key only the last. -/
theorem lookup_extended (hgiven : (given.map Prod.fst).Nodup)
    (hoverrides : (overrides.map Prod.fst).Nodup) (winning : Entries) (key : String) :
    (updateEntries winning (updateEntries (unknown given) (unknown overrides))).lookup key =
      if key ∈ keys then winning.lookup key
      else ((overrides.lookup key).or (given.lookup key)).or (winning.lookup key) := by
  have hnew : ((updateEntries (unknown given) (unknown overrides)).map Prod.fst).Nodup :=
    nodup_keys_updateEntries (nodup_keys_unknown hgiven)
  rw [lookup_updateEntries _ hnew, lookup_updateEntries _ (nodup_keys_unknown hoverrides),
    lookup_unknown, lookup_unknown]
  split_ifs
  · rfl
  · rfl

end Merging

/-- **How settings are merged.** A known setting other than the custom settings is that of the
overrides, else that of the file, else the default. The custom settings are those of the overrides,
else those of the file, else none, with the unknown keys of the file put over them and those of the
overrides over both. So every unknown key is found there, and a known key only if the custom
settings themselves have it. -/
theorem load_merges_layers {files : FileTree} {file : Json} {given overrides : Entries}
    (hgiven : GivenBy files file given) (hkeys : (overrides.map Prod.fst).Nodup)
    (hfile : HasCustomObject given) (hoverrides : HasCustomObject overrides) :
    ∃ s winning custom, load files file overrides = .ok s ∧
      (∀ key v, (key, v) ∈ default.toEntries →
        s.toEntries.lookup key = some (((overrides.lookup key).or (given.lookup key)).getD v)) ∧
      ((overrides.lookup "custom").or (given.lookup "custom")).getD (.obj []) = .obj winning ∧
      s.custom = .value (.obj custom) ∧
      custom = updateEntries winning (updateEntries (unknown given) (unknown overrides)) ∧
      (∀ key, key ∉ keys → custom.lookup key =
        ((overrides.lookup key).or (given.lookup key)).or (winning.lookup key)) ∧
      ∀ key ∈ keys, custom.lookup key = winning.lookup key := by
  obtain ⟨winning, hwinning⟩ := exists_winning hfile hoverrides
  have hunique := hgiven.nodup_keys
  have hcustom := lookup_extended hunique hkeys winning
  refine ⟨_, winning, _, ?_, fun key v h => lookup_toEntries_withCustom hunique hkeys _ h,
    hwinning, rfl, rfl, fun key hkey => ?_, fun key hkey => ?_⟩
  · rw [load_of_givenBy hgiven, ofEntries, customOf_merged hunique hkeys, hwinning,
      unknown_merged hunique, extendCustom_obj]
    rfl
  · rw [hcustom, if_neg hkey]
  · rw [hcustom, if_pos hkey]

/-- Overrides of `teamEntries`. -/
def teamOverrides : Entries :=
  [("owner", .str "fleet"), ("int_type", .str "int64"), ("team", .int 7)]

theorem teamOverrides_win :
    GivenBy teamFiles (.str "team.json") teamEntries ∧ (teamOverrides.map Prod.fst).Nodup ∧
      HasCustomObject teamEntries ∧ HasCustomObject teamOverrides ∧
      ∃ s custom, load teamFiles (.str "team.json") teamOverrides = .ok s ∧
        s.toEntries.lookup "int_type" = some (.str "int64") ∧
        s.toEntries.lookup "float_type" = some (.str "float64") ∧
        s.custom = .value (.obj custom) ∧ custom.lookup "team" = some (.int 7) ∧
        custom.lookup "owner" = some (.str "fleet") ∧ custom.lookup "region" = some (.int 2) ∧
        custom.lookup "int_type" = none := by
  have hgiven : GivenBy teamFiles (.str "team.json") teamEntries :=
    .file (by decide) holds_teamFiles
  have hkeys : (teamOverrides.map Prod.fst).Nodup := by decide
  have hfile : HasCustomObject teamEntries := by
    rintro custom ⟨⟩
    exact ⟨_, rfl⟩
  have hoverrides : HasCustomObject teamOverrides := by rintro custom ⟨⟩
  refine ⟨hgiven, hkeys, hfile, hoverrides, ?_⟩
  obtain ⟨s, winning, custom, hload, hknown, hwinning, hcustom, -, hunknown, hkept⟩ :=
    load_merges_layers hgiven hkeys hfile hoverrides
  cases hwinning
  exact ⟨s, custom, hload, hknown "int_type" (.str "int") (by decide),
    hknown "float_type" (.str "float64") (by decide), hcustom, hunknown "team" (by decide),
    hunknown "owner" (by decide), hunknown "region" (by decide), hkept "int_type" (by decide)⟩

end StructGen.Settings
