import StructGen.Proofs.SortedKeys
import StructGen.Proofs.Declarations
import StructGen.Proofs.UpdatedEntries

/-!
# Names of messages

A message is known by a key made of its type and its version, and named after its type, with the
major version where the type has several. What a version looks like makes the keys of different
messages different, and the names depend on the types and versions alone.

* `eq_of_key_eq` shows that a key can be taken apart in one way only;
* `labels_of_read` tells which messages there are and in which order;
* `namesFor` are the names of messages with given types and versions;
* `messageNames_of_labels` shows that compiling gives these names.
-/

namespace StructGen.Schema

/-! ### Keys -/

/-- A version is a row of digits and something that has no digits. -/
theorem digits_of_majorVersion {version : String} {major : Nat}
    (h : majorVersion version = .ok major) : ∃ digits rest, version.toList = digits ++ rest ∧
      digits ≠ [] ∧ (∀ c ∈ digits, Text.isDecimalDigit c = true) ∧
      ∀ c ∈ rest, Text.isDecimalDigit c = false := by
  unfold majorVersion at h
  dsimp only at h
  split_ifs at h with hform
  rw [Bool.or_eq_true, not_or, Bool.not_eq_true, Bool.not_eq_true', Bool.not_eq_false,
    List.isEmpty_eq_false_iff] at hform
  have hsplit := List.prefix_iff_eq_append.1
    (List.takeWhile_prefix Text.isDecimalDigit (l := version.toList))
  refine ⟨_, _, hsplit.symm, hform.1, fun c hc => List.mem_takeWhile_imp hc, fun c hc => ?_⟩
  have hmark : c = '\n' ∨ c = '.' ∨ c = '*' := by
    have hrest := hform.2
    simp only [isVersionRest, Bool.or_eq_true, beq_iff_eq] at hrest
    rcases hrest with ((hrest | hrest) | hrest) | hrest
    · rw [hrest] at hc
      cases hc
    all_goals
      rw [hrest] at hc
      simp only [List.mem_cons, List.not_mem_nil, or_false] at hc
      tauto
  rcases hmark with rfl | rfl | rfl <;> decide

/-- The type that a key is made of: what stands before the last row of digits, without the dot. -/
def typeOfKey (key : String) : List Char :=
  (((key.toList.reverse.dropWhile (!Text.isDecimalDigit ·)).dropWhile Text.isDecimalDigit).drop
    1).reverse

theorem typeOfKey_eq {type version : String} {major : Nat}
    (h : majorVersion version = .ok major) :
    typeOfKey (type ++ "." ++ version) = type.toList := by
  obtain ⟨digits, rest, hversion, hne, hdigits, hrest⟩ := digits_of_majorVersion h
  obtain ⟨front, last, rfl⟩ := List.eq_nil_or_concat digits |>.resolve_left hne
  have hkey : (type ++ "." ++ version).toList.reverse =
      rest.reverse ++ (last :: front.reverse ++ '.' :: type.toList.reverse) := by
    simp [hversion]
  have hlast : Text.isDecimalDigit last = true := hdigits last (by simp)
  rw [typeOfKey, hkey, List.dropWhile_append_of_pos (by simpa using hrest), List.cons_append,
    List.dropWhile_cons_of_neg (by simpa using hlast), List.dropWhile_cons_of_pos hlast,
    List.dropWhile_append_of_pos (by simpa using fun c hc => hdigits c (by simp [hc])),
    List.dropWhile_cons_of_neg (by decide)]
  simp

/-- **Different types or versions make different keys**, whatever dots there are in the types. -/
theorem eq_of_key_eq {type type' version version' : String} {major major' : Nat}
    (h : majorVersion version = .ok major) (h' : majorVersion version' = .ok major')
    (hkey : type ++ "." ++ version = type' ++ "." ++ version') :
    type = type' ∧ version = version' := by
  have htype : type = type' := by
    refine String.toList_injective ?_
    rw [← @typeOfKey_eq type version major h, hkey, typeOfKey_eq h']
  subst htype
  have hchars := congrArg String.toList hkey
  simp only [String.toList_append, List.append_cancel_left_eq] at hchars
  exact ⟨rfl, String.toList_injective hchars⟩

/-! ### Types and versions -/

/-- The type and the version of a message. -/
def Message.label (m : Message) : String × String := (m.type, m.version)

/-- A document has a schema for a version of a message type. -/
def HasMessage (contents : Json) (label : String × String) : Prop :=
  ∃ schemas versions schema, contents.get? "schemas" = some (.obj schemas) ∧
    (label.1, .obj versions) ∈ schemas ∧ (label.2, schema) ∈ versions

/-- Whether a type and version stand before others: by the type first, then by the version. -/
def Precedes (l l' : String × String) : Prop := l.1 < l'.1 ∨ l.1 = l'.1 ∧ l.2 < l'.2

theorem Precedes.asymm {l l' : String × String} (h : Precedes l l') : ¬ Precedes l' l := by
  rintro (h' | ⟨heq, h'⟩)
  · rcases h with h | ⟨heq, -⟩
    · exact String.lt_asymm h h'
    · exact String.lt_irrefl _ (heq ▸ h')
  · rcases h with h | ⟨-, h⟩
    · exact String.lt_irrefl _ (heq ▸ h)
    · exact String.lt_asymm h h'

instance : Std.Antisymm Precedes := ⟨fun _ _ h h' => absurd h' h.asymm⟩

instance : Std.Irrefl Precedes := ⟨fun _ h => h.asymm h⟩

/-- A type with its versions, in the order of reading. -/
def versionLabels (type : String) : Json → List (String × String)
  | .obj versions => (sortEntries versions).map fun q => (type, q.1)
  | _ => []

/-- The types and versions of a document's schemas, in the order of reading. -/
def labelsOf (schemas : Entries) : List (String × String) :=
  (sortEntries schemas).flatMap fun p => versionLabels p.1 p.2

theorem labels_readVersions {id type : String} {source : Source} {versions : Json} {b : Builder} :
    Ends (readVersions id source type versions) b
      (fun ms _ => ms.map Message.label = versionLabels type versions) fun _ => True := by
  unfold readVersions
  split
  · rw [versionLabels]
    refine ends_mapM (fun (pre : Entries) (ms : List Message) _ =>
      ms.map Message.label = pre.map fun q => (type, q.1)) rfl ?_
    intro pre q post ms b₁ _ hpre
    refine endsIn_readMessage (fun _ _ => trivial) (fun _ _ => trivial) fun major locator _ _ => ?_
    refine (buildsTo_buildNode source _ (q.2, _) b₁).mono (fun node b₂ _ b₃ _ _ => ?_) fun _ hf => hf
    rw [List.map_append, List.map_append, hpre]
    rfl
  · trivial

/-- The messages of a document, by type and version, are those of its schemas. -/
theorem labels_of_read {custom : List String} {contents : Json} {d : Document}
    (h : (read custom contents).1 = .ok d) : ∃ schemas,
      contents.get? "schemas" = some (.obj schemas) ∧
      d.messages.map Message.label = labelsOf schemas := by
  have hends : Ends (readDocument custom contents) {} (fun d _ => ∃ schemas,
      contents.get? "schemas" = some (.obj schemas) ∧
      d.messages.map Message.label = labelsOf schemas) fun _ => True := by
    refine ends_readDocument (fun _ _ => trivial) (fun _ _ => trivial) fun id schemas hschemas => ?_
    refine (ends_mapM (fun (pre : Entries) (mss : List (List Message)) _ =>
      mss.flatten.map Message.label = pre.flatMap fun p => versionLabels p.1 p.2) rfl ?_).mono
      (fun mss b' h => ⟨schemas, hschemas, h⟩) fun _ hf => hf
    intro pre p post mss b₁ _ hpre
    refine labels_readVersions.mono (fun ms b₂ hms => ?_) fun _ hf => hf
    rw [List.flatten_append, List.map_append, hpre, List.flatMap_append, List.flatten_singleton,
      hms, List.flatMap_singleton]
  exact of_read_eq_ok hends h

theorem mem_labelsOf {contents : Json} {schemas : Entries} {label : String × String}
    (h : contents.get? "schemas" = some (.obj schemas)) :
    label ∈ labelsOf schemas ↔ HasMessage contents label := by
  rw [labelsOf, List.mem_flatMap]
  constructor
  · rintro ⟨⟨type, value⟩, hp, hlabel⟩
    cases value with
    | obj versions =>
      obtain ⟨q, hq, rfl⟩ := List.mem_map.1 hlabel
      exact ⟨schemas, versions, q.2, h, mem_sortEntries.1 hp, mem_sortEntries.1 hq⟩
    | _ => cases hlabel
  · rintro ⟨schemas', versions, schema, h', htype, hversion⟩
    cases h.symm.trans h'
    exact ⟨_, mem_sortEntries.2 htype, List.mem_map.2 ⟨_, mem_sortEntries.2 hversion, rfl⟩⟩

/-- The types and versions ascend. -/
theorem pairwise_labelsOf {contents : Json} {schemas : Entries} (hkeys : contents.hasUniqueKeys)
    (h : contents.get? "schemas" = some (.obj schemas)) : (labelsOf schemas).Pairwise Precedes := by
  obtain ⟨entries, rfl, hlookup⟩ := Json.get?_eq_some h
  have hschemas := (Json.entry_within (mem_of_lookup hlookup)).uniqueKeys hkeys
  refine List.pairwise_flatMap.2 ⟨fun p hp => ?_, ?_⟩
  · obtain ⟨type, value⟩ := p
    cases value with
    | obj versions =>
      have hversions := (Json.entry_within (mem_sortEntries.1 hp)).uniqueKeys hschemas
      refine List.pairwise_map.2 ((ascending_sortEntries (Json.nodup_keys hversions)).imp ?_)
      exact fun hlt => Or.inr ⟨rfl, hlt⟩
    | _ => exact .nil
  · refine (ascending_sortEntries (Json.nodup_keys hschemas)).imp ?_
    rintro ⟨type, value⟩ ⟨type', value'⟩ hlt l hl l' hl'
    cases value with
    | obj versions =>
      cases value' with
      | obj versions' =>
        obtain ⟨q, -, rfl⟩ := List.mem_map.1 hl
        obtain ⟨q', -, rfl⟩ := List.mem_map.1 hl'
        exact Or.inl hlt
      | _ => cases hl'
    | _ => cases hl

end StructGen.Schema

namespace StructGen.Registry

/-- Reserve names one after another, starting with no names. -/
def claimAll (names : List String) : List String × Registry :=
  names.foldl (fun given name => (given.1 ++ [(given.2.claim name).1], (given.2.claim name).2))
    ([], {})

theorem claimAll_concat (names : List String) (name : String) :
    claimAll (names ++ [name]) = ((claimAll names).1 ++ [((claimAll names).2.claim name).1],
      ((claimAll names).2.claim name).2) := by
  rw [claimAll, List.foldl_append]
  rfl

end StructGen.Registry

namespace StructGen.Go

open Schema (NodeId Graph Message Document HasMessage Precedes)

/-! ### Wanted names -/

/-- The major version of a version. -/
def majorOf (version : String) : Nat := (Schema.majorVersion version).toOption.getD 0

/-- Whether a type has several major versions. -/
def HasMajors (labels : List (String × String)) (type : String) : Prop :=
  ∃ l ∈ labels, ∃ l' ∈ labels, l.1 = type ∧ l'.1 = type ∧ majorOf l.2 ≠ majorOf l'.2

instance (labels : List (String × String)) (type : String) : Decidable (HasMajors labels type) :=
  inferInstanceAs (Decidable (∃ l ∈ labels, ∃ l' ∈ labels, _))

/-- The name that is wanted for a message, among those with some types and versions. -/
def wantedName (is : Naming.Initialisms) (labels : List (String × String))
    (label : String × String) : String :=
  if HasMajors labels label.1 then is.pathName [label.1] ++ "V" ++ toString (majorOf label.2)
  else is.pathName [label.1]

/-- The names of messages with some types and versions, by their keys. -/
def namesFor (is : Naming.Initialisms) (labels : List (String × String)) : List (String × String) :=
  (labels.map fun l => l.1 ++ "." ++ l.2).zip
    (Registry.claimAll (labels.map (wantedName is labels))).1

/-- Of a list without repetitions more than one item is left if two of its items differ. -/
theorem one_lt_length_eraseDups {l : List Nat} :
    1 < l.eraseDups.length ↔ ∃ a ∈ l, ∃ b ∈ l, a ≠ b := by
  cases l with
  | nil => simp
  | cons a l =>
    have hrest : 1 < (a :: l).eraseDups.length ↔ ∃ b ∈ l, b ≠ a := by
      rw [List.eraseDups_cons, List.length_cons, Nat.lt_add_left_iff_pos, List.length_pos_iff_exists_mem]
      simp [List.mem_eraseDups]
    rw [hrest]
    constructor
    · rintro ⟨b, hb, hne⟩
      exact ⟨b, List.mem_cons_of_mem _ hb, a, List.mem_cons_self, hne⟩
    · rintro ⟨x, hx, y, hy, hne⟩
      by_cases hxa : x = a
      · refine ⟨y, (List.mem_cons.1 hy).resolve_left fun hya => ?_, fun hya => ?_⟩
        · exact hne (hxa.trans hya.symm)
        · exact hne (hxa.trans hya.symm)
      · exact ⟨x, (List.mem_cons.1 hx).resolve_left hxa, hxa⟩

variable {s : Style} {d : Document} {c : Compiled}

theorem isVersioned_iff (hmajors : ∀ m ∈ d.messages, Schema.majorVersion m.version = .ok m.major)
    (type : String) : d.isVersioned type = true ↔ HasMajors (d.messages.map Message.label) type := by
  have hmajor : ∀ m ∈ d.messages, majorOf m.version = m.major := fun m hm => by
    rw [majorOf, hmajors m hm]
    rfl
  rw [Document.isVersioned, decide_eq_true_iff, Document.majors, one_lt_length_eraseDups]
  simp only [List.mem_mergeSort, List.mem_map, List.mem_filter, beq_iff_eq, HasMajors]
  constructor
  · rintro ⟨_, ⟨m, ⟨hm, htype⟩, rfl⟩, _, ⟨m', ⟨hm', htype'⟩, rfl⟩, hne⟩
    refine ⟨_, ⟨m, hm, rfl⟩, _, ⟨m', hm', rfl⟩, htype, htype', ?_⟩
    rw [Message.label, Message.label, hmajor m hm, hmajor m' hm']
    exact hne
  · rintro ⟨_, ⟨m, hm, rfl⟩, _, ⟨m', hm', rfl⟩, htype, htype', hne⟩
    rw [Message.label, Message.label, hmajor m hm, hmajor m' hm'] at hne
    exact ⟨_, ⟨m, ⟨hm, htype⟩, rfl⟩, _, ⟨m', ⟨hm', htype'⟩, rfl⟩, hne⟩

theorem typeName_eq_wantedName
    (hmajors : ∀ m ∈ d.messages, Schema.majorVersion m.version = .ok m.major) {m : Message}
    (hm : m ∈ d.messages) (is : Naming.Initialisms) :
    is.typeName [m.type] (some m.major) (d.isVersioned m.type) =
      .ok (wantedName is (d.messages.map Message.label) m.label) := by
  have hmajor : majorOf m.version = m.major := by
    rw [majorOf, hmajors m hm]
    rfl
  have hversioned := isVersioned_iff hmajors m.type
  rw [show m.label = (m.type, m.version) from rfl, wantedName, Naming.Initialisms.typeName]
  by_cases h : HasMajors (d.messages.map Message.label) m.type
  · rw [if_pos (hversioned.2 h), if_pos h, hmajor]
    rfl
  · rw [if_neg (mt hversioned.1 h), if_neg h]

/-! ### Naming -/

/-- Messages with different keys get the names that are claimed for them one after another. -/
theorem nameMessages_claim
    (hmajors : ∀ m ∈ d.messages, Schema.majorVersion m.version = .ok m.major)
    (hkeys : (d.messages.map Message.key).Nodup) :
    Ends (d.messages.foldlM (nameMessage s d) []) {} (fun names _ =>
      names.map Prod.fst = d.messages.map Message.key ∧
      names.map Prod.snd = (Registry.claimAll (d.messages.map fun m =>
        wantedName s.initialisms (d.messages.map Message.label) m.label)).1) fun _ => True := by
  refine (ends_foldlM (fun pre (names : List (String × String)) (w : Workspace) =>
    names.map Prod.fst = pre.map Message.key ∧
    (names.map Prod.snd, w.registry) = Registry.claimAll (pre.map fun m =>
      wantedName s.initialisms (d.messages.map Message.label) m.label)) ⟨rfl, rfl⟩ ?_).mono
      (fun names w h => ⟨h.1, congrArg Prod.fst h.2⟩) fun _ hf => hf
  rintro pre m post names w hsplit ⟨hfst, hsnd⟩
  have hm : m ∈ d.messages := by rw [hsplit]; simp
  have hnew : m.key ∉ names.map Prod.fst := by
    rw [hsplit, List.map_append, List.nodup_append] at hkeys
    rw [hfst]
    exact fun hmem => hkeys.2.2 _ hmem _ (by simp) rfl
  unfold nameMessage
  rw [typeName_eq_wantedName hmajors hm, ends_bind]
  change Ends (Compile.claim _ >>= _) w _ _
  rw [ends_bind]
  refine ends_claim fun w' hreg _ => ?_
  rw [ends_pure, putEntry_of_not_mem hnew, hreg, List.map_append, List.map_append, List.map_append,
    List.map_append, hfst, List.map_singleton, List.map_singleton, List.map_singleton,
    List.map_singleton, Registry.claimAll_concat, ← hsnd]
  exact ⟨rfl, rfl⟩

/-- The names of the messages are those that they get before anything else is done. -/
theorem messageNames_of_compile {P : List (String × String) → Prop}
    (hnames : Ends (d.messages.foldlM (nameMessage s d) []) {} (fun names _ => P names)
      fun _ => True) (h : (compile s d).1 = .ok c) : P c.messageNames := by
  have hends : Ends (compileDocument s d) {} (fun c _ => P c.messageNames) fun _ => True := by
    unfold compileDocument
    simp only [ends_bind, ends_get, ends_pure]
    refine hnames.mono (fun names w hP => ?_) fun _ hf => hf
    refine (ends_trivial _ _).mono (fun _ w₁ _ => ?_) fun _ hf => hf
    refine (ends_trivial _ _).mono (fun _ w₂ _ => ?_) fun _ hf => hf
    exact ends_note fun _ _ _ => hP
  unfold compile at h
  split at h
  · cases h
    exact hends.of_ok ‹_›
  · cases h

/-- Messages that ascend by type and version have different keys. -/
theorem nodup_keys_of_pairwise
    (hmajors : ∀ m ∈ d.messages, Schema.majorVersion m.version = .ok m.major)
    (h : (d.messages.map Message.label).Pairwise Precedes) :
    (d.messages.map Message.key).Nodup := by
  refine List.pairwise_map.2 ((List.pairwise_map.1 h).imp_of_mem ?_)
  intro m m' hm hm' hlt hkey
  obtain ⟨htype, hversion⟩ := Schema.eq_of_key_eq (hmajors m hm) (hmajors m' hm') hkey
  rw [Message.label, Message.label, htype, hversion] at hlt
  exact hlt.asymm hlt

theorem messageNames_eq_namesFor {custom : List String} {contents : Json}
    (hkeys : contents.hasUniqueKeys) (hread : (Schema.read custom contents).1 = .ok d)
    (hcompile : (compile s d).1 = .ok c) :
    (d.messages.map Message.key).Nodup ∧
      c.messageNames.map Prod.fst = d.messages.map Message.key ∧
      c.messageNames = namesFor s.initialisms (d.messages.map Message.label) := by
  obtain ⟨schemas, hschemas, hlabels⟩ := Schema.labels_of_read hread
  have hmajors := (Schema.wellRead_of_read hread).majors
  have hnodup := nodup_keys_of_pairwise hmajors
    (hlabels ▸ Schema.pairwise_labelsOf hkeys hschemas)
  obtain ⟨hfst, hsnd⟩ := messageNames_of_compile (nameMessages_claim hmajors hnodup) hcompile
  refine ⟨hnodup, hfst, List.zip_of_prod ?_ ?_⟩
  · rw [hfst, List.map_map]
    rfl
  · rw [hsnd, List.map_map]
    rfl

/-- **The messages of a document have different keys, and their names depend on their types and
versions alone.** There is one message for each version of each type, in ascending order; a name is
made of the type, with the major version where the type has several, and claimed in this order. -/
theorem messageNames_of_labels {custom : List String} {contents : Json}
    (hkeys : contents.hasUniqueKeys) (hread : (Schema.read custom contents).1 = .ok d)
    (hcompile : (compile s d).1 = .ok c) :
    (∀ label, label ∈ d.messages.map Message.label ↔ HasMessage contents label) ∧
    (d.messages.map Message.label).Pairwise Precedes ∧
    (d.messages.map Message.key).Nodup ∧
    c.messageNames.map Prod.fst = d.messages.map Message.key ∧
    c.messageNames = namesFor s.initialisms (d.messages.map Message.label) ∧
    ∀ (custom' : List String) (contents' : Json) (s' : Style) (d' : Document) (c' : Compiled),
      contents'.hasUniqueKeys → (Schema.read custom' contents').1 = .ok d' →
      (compile s' d').1 = .ok c' → s'.initialisms = s.initialisms →
      (∀ label, HasMessage contents' label ↔ HasMessage contents label) →
      c'.messageNames = c.messageNames := by
  obtain ⟨schemas, hschemas, hlabels⟩ := Schema.labels_of_read hread
  obtain ⟨hnodup, hfst, hnames⟩ := messageNames_eq_namesFor hkeys hread hcompile
  have hascend := Schema.pairwise_labelsOf hkeys hschemas
  refine ⟨fun label => ?_, hlabels ▸ hascend, hnodup, hfst, hnames, ?_⟩
  · rw [hlabels]
    exact Schema.mem_labelsOf hschemas
  · intro custom' contents' s' d' c' hkeys' hread' hcompile' his hsame
    obtain ⟨schemas', hschemas', hlabels'⟩ := Schema.labels_of_read hread'
    obtain ⟨-, -, hnames'⟩ := messageNames_eq_namesFor hkeys' hread' hcompile'
    -- two ascending lists with the same members are the same
    have heq : Schema.labelsOf schemas' = Schema.labelsOf schemas := by
      refine (Schema.pairwise_labelsOf hkeys' hschemas').eq_of_mem_iff hascend fun label => ?_
      rw [Schema.mem_labelsOf hschemas', Schema.mem_labelsOf hschemas]
      exact hsame label
    rw [hnames', hnames, hlabels', hlabels, heq, his]

/-- The schema of a message without properties. -/
def emptyObject : Json := .obj [("type", .str "object")]

/-- The versions of a message type. -/
def tripVersions : Entries := [("1", emptyObject), ("2", emptyObject)]

/-- Message types, one of which looks like a version of the other one. -/
def tripTypes : Entries := [("trip", .obj tripVersions), ("trip_v1", .obj [("1.*", emptyObject)])]

/-- A document with several versions of a message type. -/
def versionedTrips : Json := .obj [("id", .str "travel"), ("schemas", .obj tripTypes)]

set_option maxRecDepth 100000 in
theorem read_versionedTrips : ∃ d, (Schema.read [] versionedTrips).1 = .ok d ∧
    d.messages.map Message.label = [("trip", "1"), ("trip", "2"), ("trip_v1", "1.*")] ∧
    d.messages.all d.isObjectMessage = true ∧ d.starts = [] := by
  have htypes : Schema.sortEntries tripTypes = tripTypes :=
    Schema.sortEntries_of_ascending (by decide)
  have hversions : Schema.sortEntries tripVersions = tripVersions :=
    Schema.sortEntries_of_ascending (by decide)
  have hid : Schema.textOf [("id", .str "travel"), ("schemas", .obj tripTypes)] "id" =
      some "travel" := rfl
  have hschemas : [("id", Json.str "travel"), ("schemas", .obj tripTypes)].lookup "schemas" =
      some (.obj tripTypes) := rfl
  have h : ((Schema.read [] versionedTrips).1.toOption.map fun d =>
      (d.messages.map Message.label, d.messages.all d.isObjectMessage, d.starts)) =
      some ([("trip", "1"), ("trip", "2"), ("trip_v1", "1.*")], true, []) := by
    -- sorting is left out before the rest is evaluated
    simp only [Schema.read, Schema.readDocument, versionedTrips, hid, hschemas, htypes]
    rw [tripTypes]
    simp only [List.mapM_cons, Schema.readVersions, hversions]
    decide +kernel
  obtain ⟨d, hd, h⟩ := Option.map_eq_some_iff.1 h
  simp only [Prod.mk.injEq] at h
  exact ⟨d, ok_of_toOption hd, h⟩

theorem versionedTrips_names : ∃ d c, versionedTrips.hasUniqueKeys ∧
    (Schema.read [] versionedTrips).1 = .ok d ∧ (compile plainStyle d).1 = .ok c ∧
    c.messageNames = [("trip.1", "TripV1"), ("trip.2", "TripV2"), ("trip_v1.1.*", "TripV12")] := by
  obtain ⟨d, hread, hlabels, hvalid, hstarts⟩ := read_versionedTrips
  have hnone : ∀ a, a ∉ d.starts := fun a ha => by
    rw [hstarts] at ha
    cases ha
  obtain ⟨c, hcompile⟩ := exists_compiled plainStyle (fun m hm => List.all_eq_true.1 hvalid m hm)
    (fun a ha => absurd ha (hnone a)) fun a ha => absurd ha (hnone a)
  have hkeys : versionedTrips.hasUniqueKeys = true := by decide
  refine ⟨d, c, hkeys, hread, hcompile, ?_⟩
  obtain ⟨-, -, -, -, hnames, -⟩ := messageNames_of_labels hkeys hread hcompile
  rw [hnames, hlabels]
  decide +kernel

end StructGen.Go
