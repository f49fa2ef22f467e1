import StructGen.Proofs.KeyOrder
import StructGen.Proofs.Redescribed

/-!
# Documents with other descriptions

Nothing but the descriptions of nodes comes from the texts under description keywords. In documents
that differ only in these, pointers to objects lead to the same places, and a pointer into a text
leads to no schema, so the documents are read alike.

* `lookUpFrom_of_redescribed` follows a pointer through both documents;
* `sameKeywords_of_redescribed` compares what two schemas say to reading;
* `twinDocuments_of_redescribed` says that the documents are twins.
-/

namespace StructGen

namespace Schema

open Json (Redescribed RedescribedUnder)

/-! ### Pointers -/

variable {v w u : Json} {items items' : List Json} {entries entries' : Entries} {base : String}
  {trail : List String} {segment : List Char} {segments : List (List Char)}

theorem str_mem_of_redescribed (h : List.Forall₂ Redescribed items items') {s : String} :
    .str s ∈ items ↔ .str s ∈ items' := by
  induction h with
  | nil => simp
  | @cons v w _ _ hvw _ ih =>
    have hhead : .str s = v ↔ .str s = w := by
      rw [eq_comm, ← str?_eq_some, hvw.str?_eq, str?_eq_some, eq_comm]
    rw [List.mem_cons, List.mem_cons, ih, hhead]

/-- Identifiers are not descriptions. -/
theorem identifier?_of_redescribed (h : v.Redescribed w) {id : Option String}
    (hv : Dialect.draft4.identifier? v = .ok id) : Dialect.draft4.identifier? w = .ok id := by
  cases v with
  | obj entries =>
    obtain ⟨entries', rfl, hentries⟩ := Json.redescribed_obj h
    have hlookup := lookup_of_sameKey hentries
    have href : (entries'.lookup "$ref").isSome = (entries.lookup "$ref").isSome := by
      rcases optionRel_cases (hlookup "$ref") with ⟨ha, hb⟩ | ⟨_, _, ha, hb, -⟩
      · rw [ha, hb]
      · rw [ha, hb]
        rfl
    simp only [Dialect.identifier?, Dialect.hasBooleans, Dialect.isHiddenByReference,
      Dialect.holdsReference, Dialect.keyword?, Dialect.idKeyword, href] at hv ⊢
    cases hflag : (entries.lookup "$ref").isSome with
    | true =>
      rw [hflag] at hv
      exact hv
    | false =>
      rw [hflag] at hv
      rcases optionRel_cases (hlookup "id") with ⟨ha, hb⟩ | ⟨a, b, ha, hb, hab⟩
      · rw [ha] at hv
        rw [hb]
        exact hv
      · have hab := hab.redescribed (Or.inl (by decide))
        rw [ha] at hv
        rw [hb]
        cases a with
        | obj _ => cases hv
        | arr _ => cases hv
        | _ =>
          rw [← hab.eq_of_scalar rfl]
          exact hv
  | arr items =>
    obtain ⟨items', rfl, hitems⟩ := Json.redescribed_arr h
    have hcontains : items.contains (.str "$ref") = items'.contains (.str "$ref") := by
      rw [Bool.eq_iff_iff, List.contains_iff_mem, List.contains_iff_mem]
      exact str_mem_of_redescribed hitems
    simp only [Dialect.identifier?, Dialect.hasBooleans, Dialect.isHiddenByReference,
      Dialect.holdsReference, Dialect.keyword?, ← hcontains] at hv ⊢
    cases hflag : items.contains (.str "$ref") with
    | true =>
      rw [hflag] at hv
      exact hv
    | false =>
      rw [hflag] at hv
      cases hv
  | _ =>
    rw [← h.eq_of_scalar rfl]
    exact hv

theorem isSubschema_obj (entries entries' : Entries) : (trail : List String) →
    isSubschema (.obj entries) trail = isSubschema (.obj entries') trail
  | [] => rfl
  | [segment] => rfl
  | segment :: next :: rest => by
    rw [isSubschema, isSubschema, isSubschema_obj entries entries' (next :: rest),
      isSubschema_obj entries entries' rest]

theorem isSubschema_arr (items items' : List Json) : (trail : List String) →
    isSubschema (.arr items) trail = isSubschema (.arr items') trail
  | [] => rfl
  | [segment] => rfl
  | segment :: next :: rest => by
    rw [isSubschema, isSubschema, isSubschema_arr items items' (next :: rest),
      isSubschema_arr items items' rest]
    · simp
    · simp

theorem isSubschema_of_redescribed (h : v.Redescribed w) (trail : List String) :
    isSubschema v trail = isSubschema w trail := by
  cases v with
  | obj entries =>
    obtain ⟨entries', rfl, -⟩ := Json.redescribed_obj h
    exact isSubschema_obj _ _ _
  | arr items =>
    obtain ⟨items', rfl, -⟩ := Json.redescribed_arr h
    exact isSubschema_arr _ _ _
  | _ => rw [h.eq_of_scalar rfl]

/-- Entering a part leads to the same place. -/
theorem Place.enter_of_redescribed {p p' q : Place} (h : v.Redescribed w)
    (hbase : p.base = p'.base) (htrail : p.trail = p'.trail) {name : String}
    (hq : p.enter name v = .ok q) :
    ∃ q', p'.enter name w = .ok q' ∧ q'.value = w ∧ q.base = q'.base ∧ q.trail = q'.trail := by
  unfold Place.enter at hq ⊢
  dsimp only at hq ⊢
  rw [← htrail, ← isSubschema_of_redescribed h]
  split_ifs at hq ⊢
  · obtain ⟨id, hid, hq⟩ := bind_eq_ok.1 hq
    rw [identifier?_of_redescribed h hid]
    cases id with
    | none =>
      cases hq
      exact ⟨_, rfl, rfl, hbase, rfl⟩
    | some id =>
      obtain ⟨uri, huri, hq⟩ := bind_eq_ok.1 hq
      cases hq
      rw [hbase] at huri
      exact ⟨_, bind_eq_ok.2 ⟨_, rfl, bind_eq_ok.2 ⟨uri, huri, rfl⟩⟩, rfl, rfl, rfl⟩
  · cases hq
    exact ⟨_, rfl, rfl, hbase, rfl⟩

theorem itemAt?_of_forall₂ {α β : Type} {P : α → β → Prop} {l : List α} {l' : List β}
    (h : List.Forall₂ P l l') (index : Int) :
    Option.Rel P (itemAt? l index) (itemAt? l' index) := by
  have hget : ∀ i : Nat, Option.Rel P l[i]? l'[i]? := by
    intro i
    induction h generalizing i with
    | nil => exact .none
    | cons hab _ ih =>
      cases i with
      | zero => exact .some hab
      | succ i => exact ih i
  unfold itemAt?
  rw [← h.length_eq]
  split_ifs
  · exact hget _
  · exact .none
  · exact hget _

/-- A segment leads to a part with other descriptions, or to a text. -/
theorem part_of_redescribed (h : v.Redescribed w) (hu : part v segment = .ok (some u)) :
    (∃ u', part w segment = .ok (some u') ∧ u.Redescribed u') ∨ u.str?.isSome = true := by
  cases v with
  | obj entries =>
    obtain ⟨entries', rfl, hentries⟩ := Json.redescribed_obj h
    rw [part, Except.ok.injEq] at hu
    rcases optionRel_cases (lookup_of_sameKey hentries
      (String.ofList (Pointer.unescapeChars segment))) with ⟨hnone, -⟩ | ⟨_, u', hu', hpart, hrel⟩
    · rw [hnone] at hu
      cases hu
    · cases hu.symm.trans hu'
      rcases hrel with ⟨-, htext, -⟩ | ⟨hrel, -⟩
      · exact Or.inr htext
      · exact Or.inl ⟨u', by rw [part, hpart], hrel⟩
  | arr items =>
    obtain ⟨items', rfl, hitems⟩ := Json.redescribed_arr h
    unfold part at hu ⊢
    dsimp only at hu ⊢
    cases hindex : Text.readInteger segment with
    | none =>
      rw [hindex] at hu
      cases hu
    | some index =>
      rw [hindex] at hu
      dsimp only at hu ⊢
      rw [Except.ok.injEq] at hu
      rcases optionRel_cases (itemAt?_of_forall₂ hitems index) with
        ⟨hnone, -⟩ | ⟨_, u', hu', hitem, hrel⟩
      · rw [hnone] at hu
        cases hu
      · cases hu.symm.trans hu'
        exact Or.inl ⟨u', by rw [hitem], hrel⟩
  | _ =>
    rw [← h.eq_of_scalar rfl]
    exact Or.inl ⟨u, hu, rfl⟩

/-- Segments lead from a text to texts only. -/
theorem str?_of_follow (hv : v.str?.isSome = true) (h : follow v segments = some u) :
    u.str?.isSome = true := by
  induction segments generalizing v with
  | nil =>
    cases h
    exact hv
  | cons segment segments ih =>
    rw [follow] at h
    split at h
    · rename_i inner hpart
      refine ih ?_ h
      cases v with
      | str s =>
        unfold part at hpart
        dsimp only at hpart
        split at hpart
        · rw [Except.ok.injEq, Option.map_eq_some_iff] at hpart
          obtain ⟨c, -, rfl⟩ := hpart
          rfl
        · cases hpart
      | _ => cases hv
    · cases h

theorem segmentName_of_redescribed (h : v.Redescribed w) (segment : List Char) :
    segmentName v segment = segmentName w segment := by
  cases v with
  | obj entries =>
    obtain ⟨entries', rfl, -⟩ := Json.redescribed_obj h
    rfl
  | arr items =>
    obtain ⟨items', rfl, -⟩ := Json.redescribed_arr h
    rfl
  | _ => rw [h.eq_of_scalar rfl]

/-- **A pointer to an object leads to one with other descriptions.** -/
theorem lookUpFrom_of_redescribed {p p' : Place} (h : p.value.Redescribed p'.value)
    (hbase : p.base = p'.base) (htrail : p.trail = p'.trail)
    (hobject : lookUpFrom p segments = .ok (some (.obj entries))) :
    ∃ u, lookUpFrom p' segments = .ok (some u) ∧ (Json.obj entries).Redescribed u := by
  induction segments generalizing p p' with
  | nil =>
    rw [lookUpFrom, Except.ok.injEq, Option.some.injEq] at hobject
    rw [hobject] at h
    exact ⟨p'.value, rfl, h⟩
  | cons segment segments ih =>
    obtain ⟨inner, q, hpart, hq, hobject⟩ := lookUpFrom_cons.1 hobject
    rcases part_of_redescribed h hpart with ⟨inner', hpart', hinner⟩ | htext
    · obtain ⟨q', hq', hvalue, hqbase, hqtrail⟩ := Place.enter_of_redescribed hinner hbase htrail hq
      rw [segmentName_of_redescribed h] at hq'
      rw [← hvalue, ← Place.value_of_enter hq] at hinner
      obtain ⟨u, hu, hrel⟩ := ih hinner hqbase hqtrail hobject
      exact ⟨u, lookUpFrom_cons.2 ⟨inner', q', hpart', hq', hu⟩, hrel⟩
    · -- inside a text there is no object
      have hfollow := follow_of_lookUpFrom hobject
      rw [Place.value_of_enter hq] at hfollow
      cases str?_of_follow htext hfollow

/-! ### Reading -/

/-- A schema is met at a place, and its twin has other descriptions if it is an object. -/
def TwinSchemas (source : Source) (schema schema' : Json) (pointer : String) : Prop :=
  source.Meets schema pointer ∧ ∀ entries, schema = .obj entries → schema.Redescribed schema'

variable {custom : List String} {contents contents' : Json} {source : Source} {pointer : String}

theorem twinSchemas_of_under {keyword : String} (hmeets : source.Meets v pointer)
    (h : RedescribedUnder keyword v w) : TwinSchemas source v w pointer := by
  refine ⟨hmeets, fun entries hv => h.redescribed (Or.inr ?_)⟩
  rw [hv]
  rfl

theorem textOf_of_redescribed (h : List.Forall₂ (SameKey RedescribedUnder) entries entries')
    {keyword : String} (hkeyword : keyword ≠ "description") :
    textOf entries' keyword = textOf entries keyword := by
  unfold textOf
  rcases optionRel_cases (lookup_of_sameKey h keyword) with ⟨ha, hb⟩ | ⟨a, b, ha, hb, hab⟩
  · rw [ha, hb]
  · rw [ha, hb, Option.bind_some, Option.bind_some,
      (hab.redescribed (Or.inl hkeyword)).str?_eq]

/-- What a keyword lists is the same, where it lists data. -/
theorem elements?_of_redescribed {keyword : String} (h : RedescribedUnder keyword v w)
    (hdata : keyword ∈ Json.dataKeywords) : v.elements? = w.elements? := by
  have hother : keyword ≠ "description" := by
    rintro rfl
    revert hdata
    decide
  have hvw := h.redescribed (Or.inl hother)
  cases v with
  | arr items => rw [h.eq_of_data hdata]
  | obj entries =>
    obtain ⟨entries', rfl, hentries⟩ := Json.redescribed_obj hvw
    have hkeys := congrArg (List.map Json.str) (keys_of_sameKey hentries)
    rw [List.map_map, List.map_map] at hkeys
    exact congrArg some hkeys
  | _ => rw [hvw.eq_of_scalar rfl]

theorem typesOf_of_redescribed (h : List.Forall₂ (SameKey RedescribedUnder) entries entries')
    {types : List Json} (htypes : typesOf entries = .ok types) : typesOf entries' = .ok types := by
  unfold typesOf at htypes ⊢
  rcases optionRel_cases (lookup_of_sameKey h "type") with ⟨ha, hb⟩ | ⟨a, b, ha, hb, hab⟩
  · rw [ha] at htypes
    rw [hb]
    exact htypes
  · have helements := elements?_of_redescribed hab (by decide)
    have hrel := hab.redescribed (Or.inl (by decide))
    rw [ha] at htypes
    rw [hb]
    cases a with
    | obj inner =>
      obtain ⟨inner', rfl, -⟩ := Json.redescribed_obj hrel
      dsimp only at htypes ⊢
      rw [← helements]
      exact htypes
    | arr items =>
      rw [hab.eq_of_data (by decide)]
      exact htypes
    | _ =>
      rw [← hrel.eq_of_scalar rfl]
      exact htypes

theorem requiredOf_of_redescribed (h : List.Forall₂ (SameKey RedescribedUnder) entries entries')
    {names : List Json} (hnames : requiredOf entries = .ok names) :
    requiredOf entries' = .ok names := by
  unfold requiredOf at hnames ⊢
  rcases optionRel_cases (lookup_of_sameKey h "required") with ⟨ha, hb⟩ | ⟨a, b, ha, hb, hab⟩
  · rw [ha] at hnames
    rw [hb]
    exact hnames
  · rw [ha] at hnames
    rw [hb]
    dsimp only at hnames ⊢
    rw [← elements?_of_redescribed hab (by decide)]
    cases helements : a.elements? with
    | none =>
      rw [helements] at hnames
      cases hnames
    | some l =>
      rw [helements] at hnames
      exact hnames

/-- An object under a keyword has other descriptions. -/
theorem exists_lookup_redescribed (h : List.Forall₂ (SameKey RedescribedUnder) entries entries')
    {keyword : String} {inner : Entries} (hlookup : entries.lookup keyword = some (.obj inner)) :
    ∃ inner', entries'.lookup keyword = some (.obj inner') ∧
      List.Forall₂ (SameKey RedescribedUnder) inner inner' := by
  rcases optionRel_cases (lookup_of_sameKey h keyword) with ⟨ha, -⟩ | ⟨a, b, ha, hb, hab⟩
  · rw [hlookup] at ha
    cases ha
  · cases hlookup.symm.trans ha
    obtain ⟨inner', rfl, hinner⟩ := Json.redescribed_obj (hab.redescribed (Or.inr rfl))
    exact ⟨inner', hb, hinner⟩

theorem itemsOf_of_redescribed (h : List.Forall₂ (SameKey RedescribedUnder) entries entries') :
    Option.Rel (RedescribedUnder "items") (itemsOf entries) (itemsOf entries') := by
  unfold itemsOf
  rcases optionRel_cases (lookup_of_sameKey h "items") with ⟨ha, hb⟩ | ⟨a, b, ha, hb, hab⟩
  · rw [ha, hb]
    exact .none
  · have hrel := hab.redescribed (Or.inl (by decide))
    rw [ha, hb]
    cases a with
    | obj items =>
      obtain ⟨items', rfl, -⟩ := Json.redescribed_obj hrel
      exact .some hab
    | arr items =>
      obtain ⟨items', rfl, -⟩ := Json.redescribed_arr hrel
      exact .none
    | _ =>
      rw [← hrel.eq_of_scalar rfl]
      exact .none

theorem sameKeywords_of_redescribed (hmeets : source.Meets (.obj entries) pointer)
    (h : List.Forall₂ (SameKey RedescribedUnder) entries entries') :
    SameKeywords (fun _ _ => True) (TwinSchemas source) pointer entries entries' where
  reference := textOf_of_redescribed h (by decide)
  types _ := typesOf_of_redescribed h
  required _ := requiredOf_of_redescribed h
  properties href properties hproperties := by
    rcases propertiesOf_eq_ok hproperties with ⟨hnone, rfl⟩ | hlookup
    · refine ⟨[], ?_, .nil⟩
      rcases optionRel_cases (lookup_of_sameKey h "properties") with ⟨-, hb⟩ | ⟨_, _, ha, -, -⟩
      · rw [propertiesOf, hb]
      · rw [hnone] at ha
        cases ha
    · obtain ⟨properties', hlookup', hinner⟩ := exists_lookup_redescribed h hlookup
      refine ⟨properties', by rw [propertiesOf, hlookup'], ?_⟩
      refine forall₂_imp_of_mem hinner fun p hp q _ hpq => ⟨hpq.1, twinSchemas_of_under ?_ hpq.2⟩
      exact .inside hmeets href hproperties (mem_below.2 (Or.inl ⟨_, hp, rfl⟩))
  items href properties hproperties := by
    rcases optionRel_cases (itemsOf_of_redescribed h) with ⟨ha, hb⟩ | ⟨a, b, ha, hb, hab⟩
    · rw [ha, hb]
      exact .none
    · rw [ha, hb]
      refine .some (twinSchemas_of_under ?_ hab)
      exact .inside hmeets href hproperties (mem_below.2 (Or.inr ⟨ha, rfl⟩))
  format := textOf_of_redescribed h (by decide)
  description := trivial

theorem get?_of_redescribed (h : contents.Redescribed contents') (keyword : String) :
    Option.Rel (RedescribedUnder keyword) (contents.get? keyword) (contents'.get? keyword) := by
  cases contents with
  | obj entries =>
    obtain ⟨entries', rfl, hentries⟩ := Json.redescribed_obj h
    exact lookup_of_sameKey hentries keyword
  | arr items =>
    obtain ⟨items', rfl, -⟩ := Json.redescribed_arr h
    exact .none
  | _ =>
    rw [← h.eq_of_scalar rfl]
    exact .none

theorem id_of_redescribed (h : contents.Redescribed contents') :
    (contents.get? "id").bind Json.str? = (contents'.get? "id").bind Json.str? := by
  rcases optionRel_cases (get?_of_redescribed h "id") with ⟨ha, hb⟩ | ⟨a, b, ha, hb, hab⟩
  · rw [ha, hb]
  · rw [ha, hb]
    exact (hab.redescribed (Or.inl (by decide))).str?_eq

/-- A reference to an object leads to one with other descriptions. -/
theorem resolveReference_of_redescribed {reference place : String} {inner : Entries}
    (h : contents.Redescribed contents') (hplain : isPlainReference reference = true)
    (hresolve : resolveReference base contents reference = .ok (.obj inner, place)) :
    ∃ u, resolveReference base contents' reference = .ok (u, place) ∧
      (Json.obj inner).Redescribed u := by
  rcases resolveReference_cases hplain hresolve contents' with
    ⟨hroot, -, hresolve'⟩ | ⟨pointer, -, hlookUp, hresolve'⟩
  · rw [hroot]
    exact ⟨contents', hresolve', h⟩
  · have hstart : (Place.mk contents base []).value.Redescribed
        (Place.mk contents' base []).value := h
    obtain ⟨u, hu, hrel⟩ := lookUpFrom_of_redescribed hstart rfl rfl hlookUp
    exact ⟨u, hresolve' u hu, hrel⟩

theorem twins_of_redescribed (h : contents.Redescribed contents')
    (hplain : (Source.ofDocument custom contents).Plain) :
    Source.Twins (fun _ _ => True) (TwinSchemas (.ofDocument custom contents))
      (.ofDocument custom contents) (.ofDocument custom contents') where
  absent := trivial
  formats := rfl
  depth := by
    have hsize : contents.size = contents'.size := h.sameParts.size
    simp only [Source.depth, Source.ofDocument, hsize, Nat.le_refl]
  keywords := by
    rintro entries schema pointer ⟨hmeets, hrel⟩
    obtain ⟨entries', rfl, hentries⟩ := Json.redescribed_obj (hrel entries rfl)
    exact ⟨entries', rfl, sameKeywords_of_redescribed hmeets hentries⟩
  target := by
    rintro entries schema pointer reference value place ⟨hmeets, -⟩ href hresolve
    have htarget := Source.Meets.target hmeets href hresolve
    have hbase : (Source.ofDocument custom contents').base =
        (Source.ofDocument custom contents).base := by
      simp only [Source.ofDocument, id_of_redescribed h]
    cases value with
    | obj inner =>
      have hmem := hmeets.mem_references href
      obtain ⟨u, hu, hrel⟩ := resolveReference_of_redescribed h
        (List.all_eq_true.1 hplain.references reference hmem) hresolve
      refine Or.inl ⟨u, ?_, htarget, fun _ _ => hrel⟩
      rw [hbase]
      exact hu
    | _ =>
      -- at a place of a plain document stands one value, and this one is no object
      refine Or.inr ⟨by simp, fun inner schema hschema => ?_⟩
      cases (hplain.valueAt htarget).symm.trans (hplain.valueAt hschema.1)
  check := by
    rintro schema schema' pointer failure ⟨-, hrel⟩ hcheck
    rw [Metaschema.checkSchema_eq_ok] at hcheck ⊢
    cases schema with
    | obj entries => exact Metaschema.findings_of_redescribed (hrel entries rfl) (by simp) hcheck
    | _ => simp [Metaschema.Shape.findings, Metaschema.plainFindings] at hcheck

/-- **Documents that differ only in descriptions are twins.** -/
theorem twinDocuments_of_redescribed (h : contents.Redescribed contents')
    (hplain : (Source.ofDocument custom contents).Plain) :
    TwinDocuments (fun _ _ => True) (TwinSchemas (.ofDocument custom contents)) custom contents
      contents' where
  id := id_of_redescribed h
  schemas := by
    intro schemas hschemas
    rcases optionRel_cases (get?_of_redescribed h "schemas") with ⟨ha, -⟩ | ⟨a, b, ha, hb, hab⟩
    · rw [hschemas] at ha
      cases ha
    cases hschemas.symm.trans ha
    obtain ⟨schemas', rfl, hentries⟩ := Json.redescribed_obj (hab.redescribed (Or.inr rfl))
    refine ⟨schemas', hb, forall₂_imp_of_mem hentries fun p hp q _ hpq => ⟨hpq.1, ?_⟩⟩
    intro versions hversions
    have htype := hpq.2.redescribed (Or.inr (by rw [hversions]; rfl))
    rw [hversions] at htype
    obtain ⟨versions', hversions', hinner⟩ := Json.redescribed_obj htype
    refine ⟨versions', hversions', forall₂_imp_of_mem hinner fun r hr _ _ hrs => ⟨hrs.1, ?_⟩⟩
    obtain ⟨type, versions⟩ := p
    cases hversions
    exact twinSchemas_of_under (.message hschemas hp hr) hrs.2
  check hcheck := by
    rw [Metaschema.checkSchema_eq_ok] at hcheck ⊢
    exact Metaschema.findings_of_redescribed h (by simp) hcheck
  source := twins_of_redescribed h hplain

end Schema

end StructGen
