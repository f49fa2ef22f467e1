import StructGen.Settings
import StructGen.Proofs.LoadingFailures
import StructGen.Proofs.Outcome
import StructGen.Proofs.UpdatedEntries

/-!
# How settings fail

A settings file that cannot be used is reported as a fault of settings: it is missing, its name has
another suffix, it is a directory, its text is no JSON, or its value is no object. Some failures are
not reported this way but come through as they are: paths that are too long for the system, octets
that are no text, integers with too many digits, and custom settings that unknown keys cannot be put
over.

* `HoldsText` and `Holds` relate a settings file to its text and to its entries;
* `Rejects` lists the faults of settings, `ComesThrough` the failures that come through;
* `IsTable` and `Refuses` tell which custom settings can be extended;
* `InOrder` excludes what comes through by what is given;
* `load_settings_outcomes` is the result.
-/

namespace StructGen.Settings

/-! ### Custom settings -/

/-- A value that stands for a pair: it can be listed, has two elements, and the first can be a
key. -/
def IsPair (v : Json) : Prop :=
  ∃ key value, v.elements? = some [key, value] ∧ key.isCompound = false

/-- Why a value stands for no pair. -/
inductive IsNoPair (v : Json) : Misfit → Prop
  | notAList (h : v.elements? = none) : IsNoPair v (.notAList v)
  | notTwo {elements : List Json} (h : v.elements? = some elements)
      (hlength : elements.length ≠ 2) : IsNoPair v (.notAPair v)
  | compoundKey {key value : Json} (h : v.elements? = some [key, value])
      (hkey : key.isCompound = true) : IsNoPair v (.compoundKey key)

/-- Custom settings that unknown keys can be put over: none, an object, or a list of pairs. -/
def IsTable (custom : Json) : Prop :=
  custom.truthy = false ∨ (∃ entries, custom = .obj entries) ∨
    ∃ elements, custom.elements? = some elements ∧ ∀ v ∈ elements, IsPair v

/-- Why unknown keys cannot be put over custom settings: they cannot be listed, or an element,
the first one to tell, is no pair. -/
inductive Refuses (custom : Json) : Misfit → Prop
  | notAList (htruthy : custom.truthy = true) (h : custom.elements? = none) :
      Refuses custom (.notAList custom)
  | noPair {before after : List Json} {v : Json} {m : Misfit}
      (hobj : ∀ entries, custom ≠ .obj entries)
      (h : custom.elements? = some (before ++ v :: after)) (hbefore : ∀ u ∈ before, IsPair u)
      (hv : IsNoPair v m) : Refuses custom m

section Custom

variable {custom : Json} {unknown : Entries} {m : Misfit}

/-- A value is a pair exactly if it is taken for one. -/
theorem isPair_iff {v : Json} : IsPair v ↔ ∃ p, pairOf v = .ok p := by
  unfold pairOf
  constructor
  · rintro ⟨key, value, helements, hkey⟩
    rw [helements]
    exact ⟨(key, value), by simp [hkey]⟩
  · rintro ⟨p, hp⟩
    split at hp
    · rename_i key value helements
      split_ifs at hp with hkey
      exact ⟨key, value, helements, by simpa using hkey⟩
    · cases hp
    · cases hp

theorem pairOf_of_isNoPair {v : Json} (h : IsNoPair v m) : pairOf v = .error (.misfit m) := by
  unfold pairOf
  cases h with
  | notAList h => rw [h]
  | notTwo h hlength =>
    rw [h]
    split
    · rename_i heq
      cases heq
      exact absurd rfl hlength
    · rfl
    · rename_i heq
      cases heq
  | compoundKey h hkey =>
    rw [h]
    simp [hkey]

theorem isNoPair_of_error {v : Json} {f : Failure} (h : pairOf v = .error f) :
    ∃ m, IsNoPair v m := by
  unfold pairOf at h
  split at h
  · rename_i helements
    split_ifs at h with hkey
    exact ⟨_, .compoundKey helements hkey⟩
  · rename_i elements hnot helements
    refine ⟨_, .notTwo helements fun hlength => ?_⟩
    obtain ⟨key, value, rfl⟩ := List.length_eq_two.1 hlength
    exact hnot key value rfl
  · rename_i helements
    exact ⟨_, .notAList helements⟩

theorem truthy_of_elements {v : Json} {elements : List Json} (h : custom.elements? = some elements)
    (hv : v ∈ elements) : custom.truthy = true := by
  cases custom with
  | arr items =>
    cases h
    simpa [Json.truthy] using List.ne_nil_of_mem hv
  | obj entries =>
    cases h
    have hne := List.ne_nil_of_mem hv
    simpa [Json.truthy] using hne
  | str s =>
    cases h
    have hne := List.ne_nil_of_mem hv
    simpa [Json.truthy] using hne
  | _ => cases h

/-- Custom settings that are neither empty nor an object are put together from their elements. -/
theorem extendCustom_eq (hunknown : unknown ≠ []) (htruthy : custom.truthy = true)
    (hobj : ∀ entries, custom ≠ .obj entries) {elements : List Json}
    (h : custom.elements? = some elements) : extendCustom custom unknown = (do
      let pairs := (← elements.mapM pairOf) ++ unknown.map fun e => (.str e.1, e.2)
      return .table (pairs.foldl (fun ps e => putPair e.1 e.2 ps) [])) := by
  unfold extendCustom
  rw [if_neg (by simpa using hunknown), if_neg (by simpa using htruthy)]
  split
  · exact absurd rfl (hobj _)
  · rw [h]

theorem extendCustom_of_isTable (hunknown : unknown ≠ []) (h : IsTable custom) :
    ∃ c, extendCustom custom unknown = .ok c := by
  by_cases hobj : ∃ entries, custom = .obj entries
  · obtain ⟨entries, rfl⟩ := hobj
    unfold extendCustom
    rw [if_neg (by simpa using hunknown)]
    split_ifs
    · exact ⟨_, rfl⟩
    · exact ⟨_, rfl⟩
  · cases htruthy : custom.truthy with
    | false =>
      unfold extendCustom
      rw [if_neg (by simpa using hunknown), if_pos (by simpa using htruthy)]
      exact ⟨_, rfl⟩
    | true =>
      obtain ⟨elements, helements, hpairs⟩ : ∃ elements, custom.elements? = some elements ∧
          ∀ v ∈ elements, IsPair v := by
        obtain hfalse | hentries | h := h
        · rw [htruthy] at hfalse
          cases hfalse
        · exact absurd hentries hobj
        · exact h
      rw [extendCustom_eq hunknown htruthy (fun entries heq => hobj ⟨entries, heq⟩) helements]
      cases hmap : elements.mapM pairOf with
      | ok pairs => exact ⟨_, rfl⟩
      | error e =>
        obtain ⟨v, hv, herror⟩ := mapM_eq_error hmap
        obtain ⟨p, hp⟩ := isPair_iff.1 (hpairs v hv)
        rw [hp] at herror
        cases herror

theorem extendCustom_of_refuses (hunknown : unknown ≠ []) (h : Refuses custom m) :
    extendCustom custom unknown = .error (.misfit m) := by
  cases h with
  | notAList htruthy h =>
    unfold extendCustom
    rw [if_neg (by simpa using hunknown), if_neg (by simpa using htruthy)]
    split
    · cases h
    · rw [h]
  | noPair hobj h hbefore hv =>
    have htruthy : custom.truthy = true :=
      truthy_of_elements h (List.mem_append_right _ List.mem_cons_self)
    rw [extendCustom_eq hunknown htruthy hobj h,
      mapM_of_first_error (fun u hu => isPair_iff.1 (hbefore u hu)) (pairOf_of_isNoPair hv)]
    rfl

theorem isTable_or_refuses (custom : Json) : IsTable custom ∨ ∃ m, Refuses custom m := by
  cases htruthy : custom.truthy with
  | false => exact .inl (.inl htruthy)
  | true =>
    by_cases hobj : ∃ entries, custom = .obj entries
    · exact .inl (.inr (.inl hobj))
    · cases helements : custom.elements? with
      | none => exact .inr ⟨_, .notAList htruthy helements⟩
      | some elements =>
        obtain hall | ⟨before, v, after, e, rfl, hbefore, herror⟩ :=
          forall_ok_or_first_error pairOf elements
        · exact .inl (.inr (.inr ⟨elements, helements, fun v hv => isPair_iff.2 (hall v hv)⟩))
        · obtain ⟨m, hm⟩ := isNoPair_of_error herror
          exact .inr ⟨m, .noPair (fun entries heq => hobj ⟨entries, heq⟩) helements
            (fun u hu => isPair_iff.2 (hbefore u hu)) hm⟩

end Custom

/-! ### Settings files -/

/-- A settings file has a text: a file is there, its name has the right suffix, and its octets are
UTF-8. -/
inductive HoldsText (files : FileTree) (path : Path) : List Char → Prop
  | intro {key : String} {octets : List UInt8} {cs : List Char}
      (hfound : files.find path = .file key octets) (hsuffix : Text.lower path.suffix = ".json")
      (hdecode : Text.Utf8.decode? octets = .ok cs) : HoldsText files path (Text.foldNewlines cs)

/-- A settings file holds an object with these entries. -/
def Holds (files : FileTree) (path : Path) (entries : Entries) : Prop :=
  ∃ text, HoldsText files path text ∧ Json.read files.spare text = .ok (.obj entries)

/-- A file or a directory is at a path. -/
def IsThere (files : FileTree) (path : Path) : Prop :=
  (∃ key octets, files.find path = .file key octets) ∨ files.find path = .directory

/-- The faults of a settings file. -/
inductive Rejects (files : FileTree) (path : Path) : SettingsFault → Prop
  | missing (hmissing : ¬ IsThere files path) (hshort : files.find path ≠ .tooLong) :
      Rejects files path (.notFound path.text)
  | wrongSuffix (hthere : IsThere files path) (hsuffix : Text.lower path.suffix ≠ ".json") :
      Rejects files path (.wrongSuffix path.text)
  | directory (hfound : files.find path = .directory)
      (hsuffix : Text.lower path.suffix = ".json") :
      Rejects files path (.unreadable path.text (.isADirectory path.text))
  | notJson {text : List Char} {what : Json.Malformation} {position : Nat}
      (htext : HoldsText files path text)
      (hread : Json.read files.spare text = .error (.malformed what position)) :
      Rejects files path (.notJson path.text (Json.malformedText text what position))
  | notAnObject {text : List Char} {v : Json} (htext : HoldsText files path text)
      (hread : Json.read files.spare text = .ok v) (hobj : ∀ entries, v ≠ .obj entries) :
      Rejects files path (.notAnObject path.text)

/-- What keeps a settings file from being read and is no fault of it. -/
inductive Hinders (files : FileTree) (path : Path) : Failure → Prop
  | longPath (hfound : files.find path = .tooLong) :
      Hinders files path (.refused (.nameTooLong path.text))
  | undecodable {key : String} {octets : List UInt8} {fault : Text.Utf8.Fault}
      (hfound : files.find path = .file key octets) (hsuffix : Text.lower path.suffix = ".json")
      (hdecode : Text.Utf8.decode? octets = .error fault) :
      Hinders files path (.misfit (.undecodable fault))
  | longNumber {text : List Char} (htext : HoldsText files path text)
      (hread : Json.read files.spare text = .error .tooManyDigits) : Hinders files path (.misfit .tooManyDigits)

section Files

variable {files : FileTree} {path : Path} {entries : Entries} {text : List Char}

/-- Reading a settings file that has a text is reading the text. -/
theorem readFile_of_holdsText (h : HoldsText files path text) :
    (∀ entries, Json.read files.spare text = .ok (.obj entries) → readFile files path = .ok entries) ∧
    (∀ v, Json.read files.spare text = .ok v → (∀ entries, v ≠ .obj entries) →
      readFile files path = .error (.settings (.notAnObject path.text))) ∧
    (∀ what position, Json.read files.spare text = .error (.malformed what position) →
      readFile files path = .error (.settings
        (.notJson path.text (Json.malformedText text what position)))) ∧
    (Json.read files.spare text = .error .tooManyDigits →
      readFile files path = .error (.misfit .tooManyDigits)) := by
  cases h with
  | intro hfound hsuffix hdecode =>
    have hsame : (Text.lower path.suffix != ".json") = false := by simp [hsuffix]
    unfold readFile
    simp only [hfound, pure_bind, hsame, Bool.false_eq_true, if_false, hdecode]
    refine ⟨fun entries hread => ?_, fun v hread hobj => ?_, fun what position hread => ?_,
      fun hread => ?_⟩
    · rw [hread]
      rfl
    · rw [hread]
      cases v with
      | obj entries => exact absurd rfl (hobj entries)
      | _ => rfl
    · rw [hread]
      rfl
    · rw [hread]
      rfl

theorem readFile_of_rejects {fault : SettingsFault} (h : Rejects files path fault) :
    readFile files path = .error (.settings fault) := by
  cases h with
  | missing hmissing hshort =>
    unfold readFile
    cases hfound : files.find path with
    | file key octets => exact absurd (.inl ⟨key, octets, hfound⟩) hmissing
    | directory => exact absurd (.inr hfound) hmissing
    | tooLong => exact absurd hfound hshort
    | _ => rfl
  | wrongSuffix hthere hsuffix =>
    have hne : (Text.lower path.suffix != ".json") = true := bne_iff_ne.2 hsuffix
    unfold readFile
    obtain ⟨key, octets, hfound⟩ | hfound := hthere
    · simp only [hfound, pure_bind, hne]
      rfl
    · simp only [hfound, pure_bind, hne]
      rfl
  | directory hfound hsuffix =>
    have hsame : (Text.lower path.suffix != ".json") = false := by simp [hsuffix]
    unfold readFile
    simp only [hfound, pure_bind, hsame]
    rfl
  | notJson htext hread => exact (readFile_of_holdsText htext).2.2.1 _ _ hread
  | notAnObject htext hread hobj => exact (readFile_of_holdsText htext).2.1 _ hread hobj

theorem readFile_of_hinders {f : Failure} (h : Hinders files path f) :
    readFile files path = .error f := by
  cases h with
  | longPath hfound =>
    unfold readFile
    rw [hfound]
    rfl
  | undecodable hfound hsuffix hdecode =>
    have hsame : (Text.lower path.suffix != ".json") = false := by simp [hsuffix]
    unfold readFile
    simp only [hfound, pure_bind, hsame, hdecode]
    rfl
  | longNumber htext hread => exact (readFile_of_holdsText htext).2.2.2 hread

theorem readFile_of_holds (h : Holds files path entries) : readFile files path = .ok entries := by
  obtain ⟨text, htext, hread⟩ := h
  exact (readFile_of_holdsText htext).1 entries hread

/-- A settings file holds an object, or has a fault, or something keeps it from being read. -/
theorem holds_or_rejects_or_hinders (files : FileTree) (path : Path) :
    (∃ entries, Holds files path entries) ∨ (∃ fault, Rejects files path fault) ∨
      ∃ f, Hinders files path f := by
  by_cases hlong : files.find path = .tooLong
  · exact .inr (.inr ⟨_, .longPath hlong⟩)
  by_cases hthere : IsThere files path
  · by_cases hsuffix : Text.lower path.suffix = ".json"
    · obtain ⟨key, octets, hfound⟩ | hfound := hthere
      · cases hdecode : Text.Utf8.decode? octets with
        | error fault => exact .inr (.inr ⟨_, .undecodable hfound hsuffix hdecode⟩)
        | ok cs =>
          have htext : HoldsText files path _ := .intro hfound hsuffix hdecode
          cases hread : Json.read files.spare (Text.foldNewlines cs) with
          | error e =>
            cases e with
            | malformed what position => exact .inr (.inl ⟨_, .notJson htext hread⟩)
            | tooManyDigits => exact .inr (.inr ⟨_, .longNumber htext hread⟩)
          | ok v =>
            by_cases hobj : ∃ entries, v = .obj entries
            · obtain ⟨entries, rfl⟩ := hobj
              exact .inl ⟨entries, _, htext, hread⟩
            · exact .inr (.inl ⟨_, .notAnObject htext hread fun entries heq => hobj ⟨entries, heq⟩⟩)
      · exact .inr (.inl ⟨_, .directory hfound hsuffix⟩)
    · exact .inr (.inl ⟨_, .wrongSuffix hthere hsuffix⟩)
  · exact .inr (.inl ⟨_, .missing hthere hlong⟩)

/-- A settings file has one text. -/
theorem HoldsText.unique {text' : List Char} (h : HoldsText files path text)
    (h' : HoldsText files path text') : text = text' := by
  cases h with
  | intro hfound _ hdecode =>
    cases h' with
    | intro hfound' _ hdecode' =>
      rw [hfound] at hfound'
      cases hfound'
      rw [hdecode] at hdecode'
      cases hdecode'
      rfl

theorem Holds.unique {entries' : Entries} (h : Holds files path entries)
    (h' : Holds files path entries') : entries = entries' := by
  have hread := readFile_of_holds h
  rw [readFile_of_holds h'] at hread
  cases hread
  rfl

theorem nodup_keys_of_holds (h : Holds files path entries) : (entries.map Prod.fst).Nodup := by
  obtain ⟨text, -, hread⟩ := h
  exact Json.nodup_keys (Json.hasUniqueKeys_of_read hread)

end Files

/-! ### Merged entries -/

section Merged

variable {entries given overrides : Entries}

theorem nodup_keys_unknown (h : (entries.map Prod.fst).Nodup) :
    ((unknown entries).map Prod.fst).Nodup :=
  nodup_keys_filter (fun key => !keys.contains key) h

theorem lookup_merged (hgiven : (given.map Prod.fst).Nodup)
    (hoverrides : (overrides.map Prod.fst).Nodup) (key : String) :
    (merged given overrides).lookup key =
      ((overrides.lookup key).or (given.lookup key)).or (default.toEntries.lookup key) := by
  rw [merged, lookup_updateEntries _ hoverrides, lookup_updateEntries _ hgiven, Option.or_assoc]

/-- The unknown keys of merged entries are those of the file and those of the overrides. -/
theorem unknown_merged (hgiven : (given.map Prod.fst).Nodup) :
    unknown (merged given overrides) = updateEntries (unknown given) (unknown overrides) := by
  have hdefault : unknown default.toEntries = [] := by decide
  have hunknown : ∀ old new : Entries,
      unknown (updateEntries old new) = updateEntries (unknown old) (unknown new) :=
    filter_updateEntries fun key => !keys.contains key
  have hfile : updateEntries [] (unknown given) = unknown given :=
    updateEntries_of_nodup (nodup_keys_unknown hgiven)
  rw [merged, hunknown, hunknown, hdefault, hfile]

theorem customOf_merged (hgiven : (given.map Prod.fst).Nodup)
    (hoverrides : (overrides.map Prod.fst).Nodup) : customOf (merged given overrides) =
      ((overrides.lookup "custom").or (given.lookup "custom")).getD (.obj []) := by
  have hdefault : default.toEntries.lookup "custom" = none := by decide
  rw [customOf, lookup_merged hgiven hoverrides, hdefault, Option.or_none]

end Merged

/-! ### Loading -/

theorem load_str (files : FileTree) {path : String} (hpath : path ≠ "") (overrides : Entries) :
    load files (.str path) overrides =
      (do ofEntries (merged (← readFile files (.ofText path)) overrides)) := by
  have htruthy : (Json.str path).truthy = true := by simpa [Json.truthy] using hpath
  unfold load
  rw [htruthy]
  rfl

/-- The custom settings among entries can be extended by the unknown keys, if there are any. -/
def Extensible (entries : Entries) : Prop :=
  unknown entries ≠ [] → ∀ custom, entries.lookup "custom" = some custom → IsTable custom

/-- The failures of loading settings that are not reported as faults of settings. -/
inductive ComesThrough (files : FileTree) (path : Path) : Failure → Prop
  | reading {f : Failure} (h : Hinders files path f) : ComesThrough files path f
  | custom {entries : Entries} {custom : Json} {m : Misfit} (hholds : Holds files path entries)
      (hunknown : unknown entries ≠ []) (hcustom : entries.lookup "custom" = some custom)
      (h : Refuses custom m) : ComesThrough files path (.misfit m)

/-- What is given is in order: the path is not too long, the file holds UTF-8 and no integer with
too many digits, and its custom settings, if it has any, can be extended. -/
structure InOrder (files : FileTree) (path : Path) : Prop where
  short : ¬ path.TooLong
  decodes : ∀ key octets, files.find path = .file key octets →
    ∃ cs, Text.Utf8.decode? octets = .ok cs
  numbers : ∀ text, HoldsText files path text → ¬ Json.HasLongNumber text
  custom : ∀ entries, Holds files path entries → Extensible entries

section Outcomes

variable {files : FileTree} {path : String} {entries : Entries} {f : Failure}

/-- The entries of a file are merged with the defaults and the overrides. -/
theorem load_of_holds (hpath : path ≠ "") (h : Holds files (.ofText path) entries)
    (overrides : Entries) :
    load files (.str path) overrides = ofEntries (merged entries overrides) := by
  rw [load_str files hpath, readFile_of_holds h]
  rfl

/-- Without overrides, the unknown keys of a file are put over its own custom settings. -/
theorem load_of_holds_alone (hpath : path ≠ "") (h : Holds files (.ofText path) entries) :
    load files (.str path) [] = (do
      let custom ← extendCustom ((entries.lookup "custom").getD (.obj [])) (unknown entries)
      return withCustom (merged entries []) custom) := by
  have hkeys := nodup_keys_of_holds h
  have hnone : (([] : Entries).map Prod.fst).Nodup := List.nodup_nil
  rw [load_of_holds hpath h, ofEntries, customOf_merged hkeys hnone, unknown_merged hkeys]
  rfl

theorem load_of_extensible (hpath : path ≠ "") (h : Holds files (.ofText path) entries)
    (hextensible : Extensible entries) : ∃ s, load files (.str path) [] = .ok s := by
  rw [load_of_holds_alone hpath h]
  by_cases hunknown : unknown entries = []
  · rw [hunknown]
    exact ⟨_, rfl⟩
  · have htable : IsTable ((entries.lookup "custom").getD (.obj [])) := by
      cases hcustom : entries.lookup "custom" with
      | none => exact .inl rfl
      | some custom => exact hextensible hunknown custom hcustom
    obtain ⟨c, hc⟩ := extendCustom_of_isTable hunknown htable
    rw [hc]
    exact ⟨_, rfl⟩

theorem load_of_rejects {fault : SettingsFault} (hpath : path ≠ "")
    (h : Rejects files (.ofText path) fault) :
    load files (.str path) [] = .error (.settings fault) := by
  rw [load_str files hpath, readFile_of_rejects h]
  rfl

theorem load_of_comesThrough (hpath : path ≠ "") (h : ComesThrough files (.ofText path) f) :
    load files (.str path) [] = .error f := by
  cases h with
  | reading h =>
    rw [load_str files hpath, readFile_of_hinders h]
    rfl
  | custom hholds hunknown hcustom h =>
    rw [load_of_holds_alone hpath hholds, hcustom, Option.getD_some,
      extendCustom_of_refuses hunknown h]
    rfl

theorem ComesThrough.not_settings {path : Path} (h : ComesThrough files path f)
    (fault : SettingsFault) : f ≠ .settings fault := by
  cases h with
  | reading h => cases h <;> rintro ⟨⟩
  | custom => rintro ⟨⟩

theorem InOrder.not_comesThrough {path : Path} (h : InOrder files path) :
    ¬ ComesThrough files path f := by
  intro hthrough
  cases hthrough with
  | reading hhinders =>
    cases hhinders with
    | longPath hfound => exact h.short (FileTree.tooLong_of_find hfound)
    | undecodable hfound _ hdecode =>
      obtain ⟨cs, hcs⟩ := h.decodes _ _ hfound
      rw [hdecode] at hcs
      cases hcs
    | longNumber htext hread => exact h.numbers _ htext (Json.hasLongNumber_of_read hread)
  | custom hholds hunknown hcustom hrefuses =>
    obtain ⟨c, hc⟩ := extendCustom_of_isTable hunknown (h.custom _ hholds hunknown _ hcustom)
    rw [extendCustom_of_refuses hunknown hrefuses] at hc
    cases hc

/-- Loading gives settings, reports a fault, or lets a failure come through. -/
theorem load_settings_cases (files : FileTree) (hpath : path ≠ "") :
    (∃ s entries, load files (.str path) [] = .ok s ∧ Holds files (.ofText path) entries ∧
        Extensible entries) ∨
      (∃ fault, load files (.str path) [] = .error (.settings fault) ∧
        Rejects files (.ofText path) fault) ∨
      ∃ f, load files (.str path) [] = .error f ∧ ComesThrough files (.ofText path) f := by
  obtain ⟨entries, hholds⟩ | ⟨fault, hfault⟩ | ⟨f, hf⟩ :=
    holds_or_rejects_or_hinders files (.ofText path)
  · by_cases hextensible : Extensible entries
    · obtain ⟨s, hs⟩ := load_of_extensible hpath hholds hextensible
      exact .inl ⟨s, entries, hs, hholds, hextensible⟩
    · unfold Extensible at hextensible
      push Not at hextensible
      obtain ⟨hunknown, custom, hcustom, hnot⟩ := hextensible
      obtain htable | ⟨m, hm⟩ := isTable_or_refuses custom
      · exact absurd htable hnot
      · have hthrough := ComesThrough.custom hholds hunknown hcustom hm
        exact .inr (.inr ⟨_, load_of_comesThrough hpath hthrough, hthrough⟩)
  · exact .inr (.inl ⟨fault, load_of_rejects hpath hfault, hfault⟩)
  · exact .inr (.inr ⟨f, load_of_comesThrough hpath (.reading hf), .reading hf⟩)

theorem exists_load_iff (hpath : path ≠ "") : (∃ s, load files (.str path) [] = .ok s) ↔
    ∃ entries, Holds files (.ofText path) entries ∧ Extensible entries := by
  constructor
  · rintro ⟨s, hok⟩
    obtain ⟨-, entries, -, hentries⟩ | ⟨fault, hload, -⟩ | ⟨f, hload, -⟩ :=
      load_settings_cases files hpath
    · exact ⟨entries, hentries⟩
    · rw [hload] at hok
      cases hok
    · rw [hload] at hok
      cases hok
  · rintro ⟨entries, hholds, hextensible⟩
    exact load_of_extensible hpath hholds hextensible

theorem load_rejects_iff (hpath : path ≠ "") (fault : SettingsFault) :
    load files (.str path) [] = .error (.settings fault) ↔ Rejects files (.ofText path) fault := by
  refine ⟨fun herror => ?_, load_of_rejects hpath⟩
  obtain ⟨s, -, hload, -⟩ | ⟨fault', hload, hfault⟩ | ⟨f, hload, hf⟩ :=
    load_settings_cases files hpath
  · rw [hload] at herror
    cases herror
  · rw [hload] at herror
    cases herror
    exact hfault
  · rw [hload] at herror
    exact absurd (Except.error.inj herror) (hf.not_settings fault)

theorem load_comesThrough_iff (hpath : path ≠ "") (f : Failure) :
    (load files (.str path) [] = .error f ∧ ∀ fault, f ≠ .settings fault) ↔
      ComesThrough files (.ofText path) f := by
  refine ⟨?_, fun h => ⟨load_of_comesThrough hpath h, h.not_settings⟩⟩
  rintro ⟨herror, hnot⟩
  obtain ⟨s, -, hload, -⟩ | ⟨fault, hload, -⟩ | ⟨f', hload, hf⟩ :=
    load_settings_cases files hpath
  · rw [hload] at herror
    cases herror
  · rw [hload] at herror
    exact absurd (Except.error.inj herror).symm (hnot fault)
  · rw [hload] at herror
    cases herror
    exact hf

end Outcomes

/-- **How loading settings ends.** Settings are given back exactly if no file is named, or the file
holds an object whose custom settings can be extended by its unknown keys. What is reported as a
fault of settings is what `Rejects` lists, and what comes through is what `ComesThrough` lists, so
nothing comes through if what is given is in order. -/
theorem load_settings_outcomes (files : FileTree) (path : String) :
    ((∃ s, load files (.str path) [] = .ok s) ↔
      path = "" ∨ ∃ entries, Holds files (.ofText path) entries ∧ Extensible entries) ∧
    (∀ fault, load files (.str path) [] = .error (.settings fault) ↔
      path ≠ "" ∧ Rejects files (.ofText path) fault) ∧
    (∀ f, (load files (.str path) [] = .error f ∧ ∀ fault, f ≠ .settings fault) ↔
      path ≠ "" ∧ ComesThrough files (.ofText path) f) ∧
    (InOrder files (.ofText path) → (∃ s, load files (.str path) [] = .ok s) ∨
      ∃ fault, load files (.str path) [] = .error (.settings fault)) := by
  by_cases hpath : path = ""
  · subst hpath
    have hload : load files (.str "") [] = .ok default := rfl
    rw [hload]
    simp
  · simp only [hpath, false_or, ne_eq, not_false_iff, true_and]
    refine ⟨exists_load_iff hpath, load_rejects_iff hpath, load_comesThrough_iff hpath,
      fun horder => ?_⟩
    obtain ⟨s, -, hload, -⟩ | ⟨fault, hload, -⟩ | ⟨f, -, hf⟩ := load_settings_cases files hpath
    · exact .inl ⟨s, hload⟩
    · exact .inr ⟨fault, hload⟩
    · exact absurd hf horder.not_comesThrough

/-- The text of a settings file. -/
def teamText : List Char :=
  "\x7b\"team\": 5, \"int_type\": \"int32\", ".toList ++
    "\"custom\": \x7b\"team\": 1, \"region\": 2\x7d\x7d".toList

/-- A tree with that file. -/
def teamFiles : FileTree where
  entries := [("team.json", .file (teamText.map fun c => c.toNat.toUInt8))]

/-- The entries of that file. -/
def teamEntries : Entries :=
  [("team", .int 5), ("int_type", .str "int32"),
    ("custom", .obj [("team", .int 1), ("region", .int 2)])]

/-- The settings of that file: the team outside its custom settings wins. -/
def teamSettings : Settings :=
  { intType := .str "int32", custom := .value (.obj [("team", .int 5), ("region", .int 2)]) }

theorem find_teamFiles : teamFiles.find (.ofText "team.json") =
    .file "team.json" (teamText.map fun c => c.toNat.toUInt8) := by decide +kernel

theorem decode_teamText :
    Text.Utf8.decode? (teamText.map fun c => c.toNat.toUInt8) = .ok teamText :=
  ok_of_toOption (by decide +kernel)

theorem holdsText_teamFiles : HoldsText teamFiles (.ofText "team.json") teamText := by
  have htext : Text.foldNewlines teamText = teamText := by decide +kernel
  have h : HoldsText teamFiles (.ofText "team.json") (Text.foldNewlines teamText) :=
    .intro find_teamFiles (by decide +kernel) decode_teamText
  rwa [htext] at h

theorem holds_teamFiles : Holds teamFiles (.ofText "team.json") teamEntries :=
  ⟨teamText, holdsText_teamFiles, ok_of_toOption (by decide +kernel)⟩

theorem ofEntries_teamEntries : ofEntries (merged teamEntries []) = .ok teamSettings :=
  ok_of_toOption (by decide +kernel)

/-- The file is in order, so settings are given back or a fault is reported: here it is the first. -/
theorem teamFiles_in_order : InOrder teamFiles (.ofText "team.json") ∧
    ((∃ s, load teamFiles (.str "team.json") [] = .ok s) ∨
      ∃ fault, load teamFiles (.str "team.json") [] = .error (.settings fault)) ∧
    load teamFiles (.str "team.json") [] = .ok teamSettings := by
  have horder : InOrder teamFiles (.ofText "team.json") := by
    refine ⟨?_, fun key octets hfile => ?_, fun text htext => ?_, fun entries hholds => ?_⟩
    · unfold Path.TooLong
      decide +kernel
    · rw [find_teamFiles] at hfile
      cases hfile
      exact ⟨teamText, decode_teamText⟩
    · rw [htext.unique holdsText_teamFiles]
      rintro ⟨digits, hinfix, -, hlong⟩
      have hshort : teamText.length < Text.maxDigits := by decide +kernel
      have hle := hinfix.length_le
      omega
    · rw [hholds.unique holds_teamFiles]
      rintro - custom hcustom
      cases hcustom
      exact .inr (.inl ⟨_, rfl⟩)
  refine ⟨horder, (load_settings_outcomes ..).2.2.2 horder, ?_⟩
  rw [load_of_holds (by decide) holds_teamFiles, ofEntries_teamEntries]

/-- A tree with a settings file that is no text. -/
def brokenFiles : FileTree := { entries := [("team.json", .file [0xFF])] }

/-- Octets that are no text are no settings and no fault of settings. -/
theorem brokenFiles_not_reported :
    load brokenFiles (.str "team.json") [] =
        .error (.misfit (.undecodable ⟨0, 1, 0xFF, .invalidStart⟩)) ∧
      ¬ ((∃ s, load brokenFiles (.str "team.json") [] = .ok s) ∨
        ∃ fault, load brokenFiles (.str "team.json") [] = .error (.settings fault)) := by
  have hfound : brokenFiles.find (.ofText "team.json") = .file "team.json" [0xFF] := by
    decide +kernel
  have hload : load brokenFiles (.str "team.json") [] =
      .error (.misfit (.undecodable ⟨0, 1, 0xFF, .invalidStart⟩)) :=
    load_of_comesThrough (by decide) (.reading (.undecodable hfound (by decide +kernel) rfl))
  refine ⟨hload, ?_⟩
  rw [hload]
  rintro (⟨s, ⟨⟩⟩ | ⟨fault, ⟨⟩⟩)

end StructGen.Settings
