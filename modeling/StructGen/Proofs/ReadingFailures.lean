import StructGen.Proofs.FilledNodes
import StructGen.Proofs.Checking
import StructGen.Proofs.Declarations

/-!
# How reading fails

Reading a document fails in one of three ways: the input cannot be read, a version is no version, or
a reference is not supported. Schemas at places that the metaschema does not look into can hold
anything, so a fourth way is left: a value of the wrong kind is met there.

* `OnlyMisfits` says of a computation that it fails in this fourth way only;
* `Source.Beyond` are the schemas beyond references; all others pass the check before they are read;
* `Source.unseen` counts the references that can still lead to new places; `fails_buildNode` shows
  by it that reading is never too deep;
* `Source.Misread` lists the values of the wrong kind, `failure_of_read` the failures.
-/

namespace StructGen

/-! ### References are not supported, or meet values of the wrong kind -/

/-- Whether a computation fails only by values of the wrong kind. -/
def OnlyMisfits {α : Type} (x : Except Failure α) : Prop :=
  ∀ f, x = .error f → ∃ m, f = .misfit m ∧ m ≠ .endlessNesting

section OnlyMisfits

variable {α β : Type} {x : Except Failure α} {f : α → Except Failure β} {m : Misfit}

@[simp] theorem onlyMisfits_ok (a : α) : OnlyMisfits (.ok a) := by
  intro f h
  cases h

@[simp] theorem onlyMisfits_pure (a : α) : OnlyMisfits (pure a) := onlyMisfits_ok a

@[simp] theorem onlyMisfits_error :
    OnlyMisfits (.error (.misfit m) : Except Failure α) ↔ m ≠ .endlessNesting := by
  constructor
  · intro h
    obtain ⟨m', hm, hne⟩ := h _ rfl
    rw [Failure.misfit.injEq] at hm
    rwa [hm]
  · rintro hne f ⟨⟩
    exact ⟨m, rfl, hne⟩

@[simp] theorem onlyMisfits_throw :
    OnlyMisfits (throw (.misfit m) : Except Failure α) ↔ m ≠ .endlessNesting := onlyMisfits_error

theorem OnlyMisfits.bind (hx : OnlyMisfits x) (hf : ∀ a, OnlyMisfits (f a)) :
    OnlyMisfits (x >>= f) := by
  cases x with
  | ok a => exact hf a
  | error e =>
    intro f h
    cases h
    exact hx e rfl

theorem onlyMisfits_mapM (hf : ∀ a, OnlyMisfits (f a)) (l : List α) :
    OnlyMisfits (l.mapM f) := by
  intro e he
  obtain ⟨a, -, ha⟩ := mapM_eq_error he
  exact hf a e ha

end OnlyMisfits

namespace Uri

theorem onlyMisfits_split (uri : String) : OnlyMisfits (split uri) := by
  unfold split
  dsimp only
  split_ifs
  · exact (onlyMisfits_throw.2 (by simp)).bind fun _ => onlyMisfits_pure _
  · exact onlyMisfits_pure _

theorem onlyMisfits_defragment (reference : String) : OnlyMisfits (defragment reference) := by
  unfold defragment
  split_ifs
  · exact (onlyMisfits_split _).bind fun _ => onlyMisfits_pure _
  · simp

theorem onlyMisfits_join (base reference : String) : OnlyMisfits (join base reference) := by
  unfold join
  split_ifs
  · simp
  · simp
  · refine (onlyMisfits_split _).bind fun b => (onlyMisfits_split _).bind fun r => ?_
    dsimp only
    split_ifs <;> simp

end Uri

namespace Schema

namespace Dialect

theorem onlyMisfits_keyword? (schema : Json) (keyword : String) :
    OnlyMisfits (keyword? schema keyword) := by
  unfold keyword?
  split <;> simp

theorem onlyMisfits_holdsReference (v : Json) : OnlyMisfits (holdsReference v) := by
  unfold holdsReference
  split <;> simp

theorem onlyMisfits_identifier? (d : Dialect) (schema : Json) :
    OnlyMisfits (d.identifier? schema) := by
  unfold identifier?
  extract_lets named
  have hnamed : ∀ u, OnlyMisfits (named u) := by
    intro u
    refine (onlyMisfits_keyword? _ _).bind fun v => ?_
    split <;> simp
  split_ifs
  · exact onlyMisfits_pure _
  · refine (onlyMisfits_holdsReference _).bind fun hidden => ?_
    split_ifs
    · exact onlyMisfits_pure _
    · exact hnamed ()
  · exact hnamed ()

theorem onlyMisfits_anchorName? (schema : Json) (keyword : String) :
    OnlyMisfits (anchorName? schema keyword) := by
  refine (onlyMisfits_keyword? _ _).bind fun v => ?_
  split
  · exact onlyMisfits_pure _
  · split_ifs <;> simp

theorem onlyMisfits_anchorNames (d : Dialect) (schema : Json) :
    OnlyMisfits (d.anchorNames schema) := by
  unfold anchorNames
  split_ifs
  · exact onlyMisfits_pure _
  · refine (onlyMisfits_keyword? _ _).bind fun v => ?_
    split
    · exact onlyMisfits_pure _
    · split <;> exact onlyMisfits_pure _
    · simp
  · exact (onlyMisfits_mapM (onlyMisfits_anchorName? schema) _).bind fun _ => onlyMisfits_pure _

theorem onlyMisfits_listed (v : Json) : OnlyMisfits (listed v) := by
  unfold listed
  split <;> simp

theorem onlyMisfits_tabled (v : Json) : OnlyMisfits (tabled v) := by
  unfold tabled
  split <;> simp

theorem onlyMisfits_detect (d : Dialect) (schema : Json) : OnlyMisfits (d.detect schema) := by
  unfold detect
  split <;> simp

theorem onlyMisfits_dependencySchemas (entries : Entries) :
    OnlyMisfits (dependencySchemas entries) := by
  unfold dependencySchemas
  split
  · simp
  · simp
  · exact (onlyMisfits_tabled _).bind fun _ => onlyMisfits_pure _

theorem onlyMisfits_subschemas (d : Dialect) (schema : Json) :
    OnlyMisfits (d.subschemas schema) := by
  unfold subschemas
  split
  · refine (onlyMisfits_mapM onlyMisfits_listed _).bind fun _ =>
      (onlyMisfits_mapM onlyMisfits_tabled _).bind fun _ => ?_
    dsimp only
    by_cases hd : d.hasDependencies = true
    · rw [if_pos hd]
      exact (onlyMisfits_dependencySchemas _).bind fun _ => onlyMisfits_pure _
    · rw [if_neg hd]
      exact (onlyMisfits_pure _).bind fun _ => onlyMisfits_pure _
  · simp

end Dialect

theorem onlyMisfits_anchorsFrom (fuel : Nat) (d : Dialect) (uri : String) (schema : Json) :
    OnlyMisfits (anchorsFrom fuel d uri schema) := by
  induction fuel generalizing d uri schema with
  | zero => exact onlyMisfits_ok _
  | succ fuel ih =>
    unfold anchorsFrom
    refine (d.onlyMisfits_identifier? schema).bind fun id => ?_
    have hbelow : ∀ child, OnlyMisfits (do return (← d.detect child, child)) := fun child =>
      (d.onlyMisfits_detect child).bind fun _ => onlyMisfits_pure _
    have hrest : ∀ uri, OnlyMisfits (do
        let own := (← d.anchorNames schema).map fun name => { uri, name, schema : Anchor }
        let below ← (← d.subschemas schema).mapM fun child => return (← d.detect child, child)
        let anchors ← below.reverse.mapM fun p => anchorsFrom fuel p.1 uri p.2
        return own ++ anchors.flatten) := fun uri =>
      (d.onlyMisfits_anchorNames schema).bind fun _ =>
        (d.onlyMisfits_subschemas schema).bind fun _ =>
          (onlyMisfits_mapM hbelow _).bind fun _ =>
            (onlyMisfits_mapM (fun p : Dialect × Json => ih p.1 uri p.2) _).bind fun _ => onlyMisfits_pure _
    cases id with
    | none => exact hrest uri
    | some id => exact (Uri.onlyMisfits_join _ _).bind hrest

theorem onlyMisfits_anchored? (base : String) (document : Json) (name : String) :
    OnlyMisfits (anchored? base document name) := by
  refine (onlyMisfits_anchorsFrom _ _ _ _).bind fun as => ?_
  dsimp only
  split
  · exact onlyMisfits_pure _
  · exact (Dialect.draft4.onlyMisfits_identifier? _).bind fun _ => onlyMisfits_pure _

theorem onlyMisfits_part (value : Json) (segment : List Char) :
    OnlyMisfits (part value segment) := by
  unfold part
  split
  · simp
  · split <;> simp
  · split <;> simp
  · simp

theorem Place.onlyMisfits_enter (p : Place) (name : String) (value : Json) :
    OnlyMisfits (p.enter name value) := by
  unfold Place.enter
  dsimp only
  split_ifs
  · refine (Dialect.draft4.onlyMisfits_identifier? _).bind fun id => ?_
    cases id with
    | none => exact onlyMisfits_pure _
    | some id => exact (Uri.onlyMisfits_join _ _).bind fun _ => onlyMisfits_pure _
  · exact onlyMisfits_pure _

theorem onlyMisfits_lookUpFrom (p : Place) (segments : List (List Char)) :
    OnlyMisfits (lookUpFrom p segments) := by
  induction segments generalizing p with
  | nil => exact onlyMisfits_ok _
  | cons segment segments ih =>
    unfold lookUpFrom
    refine (onlyMisfits_part _ _).bind fun found => ?_
    cases found with
    | none => exact onlyMisfits_pure _
    | some value => exact (p.onlyMisfits_enter _ value).bind fun q => ih q

theorem onlyMisfits_schemaAt? (base : String) (document : Json) (fragment : List Char) :
    OnlyMisfits (schemaAt? base document fragment) := by
  unfold schemaAt?
  split
  · exact onlyMisfits_ok _
  · exact onlyMisfits_lookUpFrom _ _
  · exact onlyMisfits_anchored? _ _ _

/-- A reference is not supported, or a value of the wrong kind is met on its way. -/
theorem resolveReference_eq_error {base reference : String} {document : Json} {f : Failure}
    (h : resolveReference base document reference = .error f) :
    f = .unsupportedReference reference ∨ ∃ m, f = .misfit m ∧ m ≠ .endlessNesting := by
  unfold resolveReference at h
  rcases bind_eq_error.1 h with h | ⟨⟨url, fragment⟩, -, h⟩
  · exact Or.inr (Uri.onlyMisfits_defragment _ f h)
  dsimp only at h
  by_cases hurl : (!url.isEmpty && Text.dropEnd url '#' != base) = true
  · rw [if_pos hurl] at h
    cases h
    exact Or.inl rfl
  rw [if_neg hurl] at h
  split_ifs at h
  · cases h
    exact Or.inl rfl
  · rcases bind_eq_error.1 h with h | ⟨found, -, h⟩
    · exact Or.inr (onlyMisfits_schemaAt? _ _ _ f h)
    · cases found with
      | none =>
        cases h
        exact Or.inl rfl
      | some schema => cases h

/-! ### Failures of reading -/

end Schema

namespace Failure

/-- Whether a failure is that the input cannot be read. -/
def isUnreadable : Failure → Bool
  | .documentNotObject | .missingId | .missingSchemas | .invalidDocument _ | .versionsNotObject _
  | .invalidMessage _ _ _ | .schemaNotObject _ => true
  | _ => false

/-- Whether a failure is that a version is no version. -/
def isBadVersion : Failure → Bool
  | .badVersion _ => true
  | _ => false

/-- Whether a failure is that a reference is not supported. -/
def isUnsupportedReference : Failure → Bool
  | .unsupportedReference _ | .circularReference _ => true
  | _ => false

end Failure

namespace Schema

/-- Reading meets a schema beyond a reference. Such a schema need not have been checked. -/
inductive Source.Beyond (source : Source) : Json → String → Prop
  | target {entries : Entries} {pointer reference place : String} {schema : Json}
      (hmeets : source.Meets (.obj entries) pointer)
      (href : textOf entries "$ref" = some reference)
      (hresolve : resolveReference source.base source.contents reference = .ok (schema, place)) :
      Beyond source schema place
  | inside {entries properties : Entries} {pointer place : String} {schema : Json}
      (hbeyond : Beyond source (.obj entries) pointer) (href : textOf entries "$ref" = none)
      (hproperties : propertiesOf entries = .ok properties)
      (hbelow : (schema, place) ∈ below entries properties pointer) : Beyond source schema place

/-- A value of the wrong kind is met while a document is read.

* `document`, `message`: a pattern in the document or in the schema of a message stops the check;
* `version`: a version has more digits than can be read;
* `types`, `required`, `properties`: beyond a reference, the value of a keyword lists nothing, or is
  no object;
* `reference`: a reference leads by something that cannot be followed. -/
inductive Source.Misread (source : Source) : Misfit → Prop
  | document {m : Misfit} (hpattern : Metaschema.FromPattern m)
      (hstop : (Metaschema.Shape.findings .schema source.contents).head? = some (.stop m)) :
      Misread source m
  | message {schemas versions : Entries} {type version : String} {schema : Json} {m : Misfit}
      (hschemas : source.contents.get? "schemas" = some (.obj schemas))
      (htype : (type, .obj versions) ∈ schemas) (hversion : (version, schema) ∈ versions)
      (hpattern : Metaschema.FromPattern m)
      (hstop : (Metaschema.Shape.findings .schema schema).head? = some (.stop m)) :
      Misread source m
  | version {schemas versions : Entries} {type version : String} {schema : Json}
      (hschemas : source.contents.get? "schemas" = some (.obj schemas))
      (htype : (type, .obj versions) ∈ schemas) (hversion : (version, schema) ∈ versions)
      (hdigits : Text.maxDigits < (version.toList.takeWhile Text.isDecimalDigit).length) :
      Misread source .tooManyDigits
  | types {entries : Entries} {pointer : String} {v : Json}
      (hbeyond : source.Beyond (.obj entries) pointer) (href : textOf entries "$ref" = none)
      (hlookup : entries.lookup "type" = some v) (hv : v.elements? = none) :
      Misread source (.notAList v)
  | required {entries : Entries} {pointer : String} {v : Json}
      (hbeyond : source.Beyond (.obj entries) pointer) (href : textOf entries "$ref" = none)
      (hlookup : entries.lookup "required" = some v) (hv : v.elements? = none) :
      Misread source (.notAList v)
  | properties {entries : Entries} {pointer : String} {v : Json}
      (hbeyond : source.Beyond (.obj entries) pointer) (href : textOf entries "$ref" = none)
      (hlookup : entries.lookup "properties" = some v) (hv : ∀ properties, v ≠ .obj properties) :
      Misread source (.notAnObject v)
  | reference {entries : Entries} {pointer reference : String} {m : Misfit}
      (hmeets : source.Meets (.obj entries) pointer)
      (href : textOf entries "$ref" = some reference)
      (hresolve : resolveReference source.base source.contents reference = .error (.misfit m)) :
      Misread source m

/-- How reading a document can fail. -/
def Source.Fails (source : Source) (f : Failure) : Prop :=
  f.isUnreadable = true ∨ f.isBadVersion = true ∨ f.isUnsupportedReference = true ∨
    ∃ m, f = .misfit m ∧ m ≠ .endlessNesting ∧ source.Misread m

variable {source : Source} {f : Failure} {g g' : Graph}

theorem fails_of_misread {m : Misfit} (h : source.Misread m) (hm : m ≠ .endlessNesting) :
    source.Fails (.misfit m) := Or.inr (Or.inr (Or.inr ⟨m, rfl, hm, h⟩))

/-! #### Keywords -/

theorem typesOf_eq_error {entries : Entries} (h : typesOf entries = .error f) :
    ∃ v, f = .misfit (.notAList v) ∧ entries.lookup "type" = some v ∧ v.elements? = none := by
  unfold typesOf at h
  split at h
  · cases h
  · cases h
  · split at h
    · cases h
    · cases h
      exact ⟨_, rfl, ‹_›, ‹_›⟩

theorem requiredOf_eq_error {entries : Entries} (h : requiredOf entries = .error f) :
    ∃ v, f = .misfit (.notAList v) ∧ entries.lookup "required" = some v ∧ v.elements? = none := by
  unfold requiredOf at h
  split at h
  · cases h
  · split at h
    · cases h
    · cases h
      exact ⟨_, rfl, ‹_›, ‹_›⟩

theorem propertiesOf_eq_error {entries : Entries} (h : propertiesOf entries = .error f) :
    ∃ v, f = .misfit (.notAnObject v) ∧ entries.lookup "properties" = some v ∧
      ∀ properties, v ≠ .obj properties := by
  unfold propertiesOf at h
  split at h
  · cases h
  · cases h
  · rename_i v hother hlookup
    cases h
    exact ⟨v, rfl, hlookup, hother⟩

/-- Beyond a reference the keywords of a schema fail by values of the wrong kind. -/
theorem fails_of_keywords {entries : Entries} {pointer : String}
    (hbeyond : source.Beyond (.obj entries) pointer) (href : textOf entries "$ref" = none)
    (h : typesOf entries = .error f ∨ requiredOf entries = .error f ∨
      propertiesOf entries = .error f) : source.Fails f := by
  rcases h with h | h | h
  · obtain ⟨v, rfl, hlookup, hv⟩ := typesOf_eq_error h
    exact fails_of_misread (.types hbeyond href hlookup hv) (by simp)
  · obtain ⟨v, rfl, hlookup, hv⟩ := requiredOf_eq_error h
    exact fails_of_misread (.required hbeyond href hlookup hv) (by simp)
  · obtain ⟨v, rfl, hlookup, hv⟩ := propertiesOf_eq_error h
    exact fails_of_misread (.properties hbeyond href hlookup hv) (by simp)

/-- The keywords of a schema that passes the check can be read. -/
theorem keywords_ne_error {entries : Entries}
    (hpass : Metaschema.Shape.findings .schema (.obj entries) = [])
    (h : typesOf entries = .error f ∨ requiredOf entries = .error f ∨
      propertiesOf entries = .error f) : False := by
  rcases h with h | h | h
  · obtain ⟨v, -, hlookup, hv⟩ := typesOf_eq_error h
    have htypes : Metaschema.Shape.findings .types _ = [] :=
      Metaschema.findings_of_lookup hpass rfl hlookup
    exact Metaschema.elements?_ne_none_of_types htypes hv
  · obtain ⟨v, -, hlookup, hv⟩ := requiredOf_eq_error h
    have htexts : Metaschema.Shape.findings .texts _ = [] :=
      Metaschema.findings_of_lookup hpass rfl hlookup
    exact Metaschema.elements?_ne_none_of_texts htexts hv
  · obtain ⟨v, -, hlookup, hv⟩ := propertiesOf_eq_error h
    have hmap : Metaschema.Shape.findings .schemaMap _ = [] :=
      Metaschema.findings_of_lookup hpass rfl hlookup
    obtain ⟨properties, hproperties, -⟩ := Metaschema.exists_of_schemaMap hmap
    exact hv properties hproperties

/-- What is right below a schema that passes the check passes as well. -/
theorem findings_of_mem_below {entries properties : Entries} {pointer place : String}
    {schema : Json} (hpass : Metaschema.Shape.findings .schema (.obj entries) = [])
    (hproperties : propertiesOf entries = .ok properties)
    (hbelow : (schema, place) ∈ below entries properties pointer) :
    Metaschema.Shape.findings .schema schema = [] := by
  rcases mem_below.1 hbelow with ⟨name, hname, -⟩ | ⟨hitems, -⟩
  · rcases propertiesOf_eq_ok hproperties with ⟨-, rfl⟩ | hlookup
    · cases hname
    · have hmap : Metaschema.Shape.findings .schemaMap _ = [] :=
        Metaschema.findings_of_lookup hpass rfl hlookup
      obtain ⟨_, ⟨⟩, hschemas⟩ := Metaschema.exists_of_schemaMap hmap
      exact hschemas _ _ hname
  · obtain ⟨hlookup, items, rfl⟩ := itemsOf_eq_some.1 hitems
    exact Metaschema.findings_of_schemaOrSchemas
      (Metaschema.findings_of_lookup hpass rfl hlookup)

/-! #### References and checks -/

theorem fails_of_reference {entries : Entries} {pointer reference : String}
    (hmeets : source.Meets (.obj entries) pointer) (href : textOf entries "$ref" = some reference)
    (h : resolveReference source.base source.contents reference = .error f) : source.Fails f := by
  rcases resolveReference_eq_error h with rfl | ⟨m, rfl, hm⟩
  · exact Or.inr (Or.inr (Or.inl rfl))
  · exact fails_of_misread (.reference hmeets href h) hm

theorem fails_of_check {report : Violation → Failure} {schema : Json}
    (hreport : ∀ violation, (report violation).isUnreadable = true)
    (hmisread : ∀ m, Metaschema.FromPattern m →
      (Metaschema.Shape.findings .schema schema).head? = some (.stop m) → source.Misread m)
    (h : Metaschema.checkSchema report schema = .error f) : source.Fails f := by
  rcases Metaschema.checkSchema_eq_error h with ⟨violation, rfl⟩ | ⟨m, rfl, hstop⟩
  · exact Or.inl (hreport violation)
  · have hpattern := Metaschema.fromPattern_of_findings _ _ (List.mem_of_head? hstop)
    exact fails_of_misread (hmisread m hpattern hstop) hpattern.ne_endlessNesting

/-! ### Reading is never too deep -/

/-- The place that the fragment of a reference names. -/
def fragmentPlace (reference : String) : Option String :=
  (Uri.defragment reference).toOption.map fun p => String.ofList (Uri.percentDecode p.2)

theorem fragmentPlace_of_resolveReference {base reference place : String} {v w : Json}
    (h : resolveReference base v reference = .ok (w, place)) :
    fragmentPlace reference = some place := by
  obtain ⟨url, fragment, hdefragment, -, rfl, -⟩ := resolveReference_eq_ok h
  rw [fragmentPlace, hdefragment]
  rfl

/-- Whether a reference leads to a place without a node. -/
def leadsOut (g : Graph) (reference : String) : Bool :=
  (fragmentPlace reference).any fun place => !g.pointers.contains place

theorem leadsOut_iff {reference : String} :
    leadsOut g reference = true ↔
      ∃ place, fragmentPlace reference = some place ∧ place ∉ g.pointers := by
  simp [leadsOut, Option.any_eq_true]

theorem leadsOut_mono {reference : String} (h : g.pointers ⊆ g'.pointers)
    (hout : leadsOut g' reference = true) : leadsOut g reference = true := by
  obtain ⟨place, hplace, hnew⟩ := leadsOut_iff.1 hout
  exact leadsOut_iff.2 ⟨place, hplace, fun hmem => hnew (h hmem)⟩

/-- Counting fewer things, and one of them for sure. -/
theorem countP_lt_countP {α : Type} {p q : α → Bool} {l : List α} {a : α}
    (h : ∀ x ∈ l, p x = true → q x = true) (ha : a ∈ l) (hp : ¬ p a = true) (hq : q a = true) :
    l.countP p < l.countP q := by
  obtain ⟨l₁, l₂, rfl⟩ := List.append_of_mem ha
  have h₁ : l₁.countP p ≤ l₁.countP q := List.countP_mono_left fun x hx => h x (by simp [hx])
  have h₂ : l₂.countP p ≤ l₂.countP q := List.countP_mono_left fun x hx => h x (by simp [hx])
  rw [List.countP_append, List.countP_append, List.countP_cons_of_neg hp,
    List.countP_cons_of_pos hq]
  omega

/-- The number of references of a document that lead to places without a node. -/
def Source.unseen (source : Source) (g : Graph) : Nat :=
  source.contents.references.countP (leadsOut g)

theorem Graph.GrowsTo.pointers_subset (h : g.GrowsTo g') : g.pointers ⊆ g'.pointers :=
  (List.IsPrefix.map _ h).subset

theorem unseen_le (h : g.pointers ⊆ g'.pointers) : source.unseen g' ≤ source.unseen g :=
  List.countP_mono_left fun _ _ => leadsOut_mono h

/-- Entering the place of a reference leaves one reference less. -/
theorem unseen_push_lt {reference place : String} (hmem : reference ∈ source.contents.references)
    (hplace : fragmentPlace reference = some place) (hnew : g.find? place = none) :
    source.unseen (g.push { pointer := place }) < source.unseen g := by
  refine countP_lt_countP (fun _ _ => leadsOut_mono ?_) hmem (fun hout => ?_) ?_
  · exact (Graph.growsTo_push g _).pointers_subset
  · obtain ⟨place', hplace', hout⟩ := leadsOut_iff.1 hout
    rw [hplace, Option.some.injEq] at hplace'
    subst hplace'
    exact hout (by simp)
  · exact leadsOut_iff.2 ⟨place, hplace, Graph.find?_eq_none.1 hnew⟩

/-- Whether a depth suffices to read a schema: the path to a place that is new goes through places
of references that are seen for the first time, and from each of them down through schemas that get
smaller. -/
def Source.Suffices (source : Source) (g : Graph) (fuel : Nat) (contents : Json)
    (pointer : String) : Prop :=
  0 < fuel ∧ (g.find? pointer = none →
    source.unseen (g.push { pointer }) * (source.contents.size + 1) + contents.size < fuel)

/-- The depth suffices for the target of a reference. -/
theorem Source.Suffices.target {fuel : Nat} {entries : Entries}
    {pointer reference place : String} {schema : Json}
    (h : source.Suffices g (fuel + 1) (.obj entries) pointer)
    (hfind : g.find? pointer = none) (hmeets : source.Meets (.obj entries) pointer)
    (href : textOf entries "$ref" = some reference)
    (hresolve : resolveReference source.base source.contents reference = .ok (schema, place)) :
    source.Suffices (g.push { pointer }) fuel schema place := by
  have hmeasure := h.2 hfind
  have hpos := (Json.obj entries).size_pos
  refine ⟨by omega, fun hnew => ?_⟩
  -- one reference less is worth more than the whole size of what it leads to
  have hlt := unseen_push_lt (hmeets.mem_references href)
    (fragmentPlace_of_resolveReference hresolve) hnew
  have hsize := (within_of_resolveReference hresolve).size_le
  have hmul := Nat.mul_le_mul_right (source.contents.size + 1) (Nat.succ_le_of_lt hlt)
  rw [Nat.succ_mul] at hmul
  omega

/-- The depth suffices for what is right below a schema. -/
theorem Source.Suffices.below {fuel : Nat} {entries properties : Entries}
    {pointer place : String} {schema : Json}
    (h : source.Suffices g (fuel + 1) (.obj entries) pointer) (hfind : g.find? pointer = none)
    (hproperties : propertiesOf entries = .ok properties)
    (hbelow : (schema, place) ∈ below entries properties pointer)
    (hgrows : (g.push { pointer }).GrowsTo g') : source.Suffices g' fuel schema place := by
  have hmeasure := h.2 hfind
  have hpos := (Json.obj entries).size_pos
  refine ⟨by omega, fun _ => ?_⟩
  obtain ⟨key, v, hentry, hwithin⟩ := exists_entry_of_mem_below hproperties hbelow
  have hsize := Nat.lt_of_le_of_lt hwithin.size_le (Json.size_lt_of_entry hentry)
  have hunseen : source.unseen (g'.push { pointer := place }) ≤
      source.unseen (g.push { pointer }) :=
    unseen_le (hgrows.trans (Graph.growsTo_push g' _)).pointers_subset
  have hmul := Nat.mul_le_mul_right (source.contents.size + 1) hunseen
  omega

/-- **Reading a schema never goes too deep**, and fails only as documents can. -/
theorem fails_buildNode (fuel : Nat) {contents : Json} {pointer : String} {b : Builder}
    (hmeets : source.Meets contents pointer)
    (hpass : Metaschema.Shape.findings .schema contents = [] ∨ source.Beyond contents pointer)
    (hfuel : source.Suffices b.graph fuel contents pointer) :
    Ends (buildNode source fuel contents pointer) b (fun _ b' => b.graph.GrowsTo b'.graph)
      source.Fails := by
  induction fuel generalizing contents pointer b with
  | zero => exact absurd hfuel.1 (Nat.lt_irrefl 0)
  | succ fuel ih =>
    refine endsIn_buildNode (fun _ _ => .refl _) (fun _ => Or.inl rfl) ?_ ?_
    · rintro entries reference rfl hfind href
      refine ⟨fun f => fails_of_reference hmeets href, fun schema place hresolve => ?_⟩
      refine (ih (b := b.entered pointer) (.target hmeets href hresolve)
        (Or.inr (.target hmeets href hresolve))
        (hfuel.target hfind hmeets href hresolve)).mono (fun target b₁ h₁ => ⟨fun _ => ?_,
          fun _ => ?_⟩) fun _ hf => hf
      · exact Or.inr (Or.inr (Or.inl rfl))
      · exact ((Graph.growsTo_push _ _).trans h₁).set (Nat.le_refl _)
    · rintro entries rfl hfind href
      refine ⟨fun f hf => ?_, fun types required properties _ _ hproperties => ?_⟩
      -- only what lies beyond a reference can be unchecked
      · rcases hpass with hpass | hbeyond
        · exact (keywords_ne_error hpass hf).elim
        · exact fails_of_keywords hbeyond href hf
      -- reading the schemas below enters more places, which leaves the bound as it is or lowers it
      refine (ends_mapM (fun _ _ b' => (b.graph.push { pointer }).GrowsTo b'.graph) (.refl _)
        ?_).mono (fun ids b₁ h₁ => ?_) fun _ hf => hf
      · rintro pre ⟨schema, place⟩ post ids b₁ htasks h₁
        have hbelow : (schema, place) ∈ below entries properties pointer := by
          rw [htasks]
          simp
        have hpass' : Metaschema.Shape.findings .schema schema = [] ∨ source.Beyond schema place :=
          hpass.imp (findings_of_mem_below · hproperties hbelow)
            (.inside · href hproperties hbelow)
        exact (ih (.inside hmeets href hproperties hbelow) hpass'
          (hfuel.below hfind hproperties hbelow h₁)).mono (fun _ b₂ h₂ => h₁.trans h₂) fun _ hf => hf
      · exact ((Graph.growsTo_push _ _).trans h₁).set (Nat.le_refl _)

/-- The depth with which reading starts suffices for every message. -/
theorem suffices_depth {schema : Json} {place : String} (hmeets : source.Meets schema place) :
    source.Suffices g source.depth schema place := by
  have hunseen : source.unseen (g.push { pointer := place }) ≤ source.contents.size :=
    Nat.le_trans List.countP_le_length source.contents.length_references_le
  have hsize := hmeets.within.size_le
  have hmul := Nat.mul_le_mul_right (source.contents.size + 1) hunseen
  have hdepth : source.depth =
      source.contents.size * (source.contents.size + 1) + (source.contents.size + 1) := by
    rw [Source.depth, Nat.succ_mul]
  exact ⟨by omega, fun _ => by omega⟩

/-! ### Documents -/

theorem fails_readVersions {b : Builder} {id type : String} {versions : Json} {schemas : Entries}
    (hschemas : source.contents.get? "schemas" = some (.obj schemas))
    (htype : (type, versions) ∈ schemas) :
    Ends (readVersions id source type versions) b (fun _ _ => True) source.Fails := by
  unfold readVersions
  split
  · rename_i versions
    refine ends_mapM (fun _ _ _ => True) trivial ?_
    rintro pre ⟨version, schema⟩ post ms b₁ hentries -
    have hversion : (version, schema) ∈ versions := by
      have hmem : (version, schema) ∈ sortEntries versions := by
        rw [hentries]
        simp
      exact List.mem_mergeSort.1 hmem
    have hmeets := Source.Meets.message hschemas htype hversion
    refine endsIn_readMessage (fun f hf => ?_)
      (fun f => fails_of_check (fun _ => rfl) fun _ => .message hschemas htype hversion)
      fun major locator _ hpass => ?_
    · unfold majorVersion at hf
      dsimp only at hf
      split_ifs at hf with hbad hdigits
      · cases hf
        exact Or.inr (Or.inl rfl)
      · cases hf
        exact fails_of_misread (.version hschemas htype hversion hdigits) (by simp)
    · exact (fails_buildNode _ hmeets (Or.inl (Metaschema.checkSchema_eq_ok.1 hpass))
        (suffices_depth hmeets)).mono (fun _ _ _ _ _ _ => trivial)
        fun _ hf => hf
  · exact Or.inl rfl

/-- **How reading fails.** Whatever the contents of a document are, reading it gives a document, or
tells that the input cannot be read, that a version is no version or that a reference is not
supported, or it meets a value of the wrong kind. It is never too deep. -/
theorem failure_of_read (custom : List String) (contents : Json) :
    (∃ d, (read custom contents).1 = .ok d) ∨ ∃ f, (read custom contents).1 = .error f ∧
      (Source.ofDocument custom contents).Fails f := by
  have hends : Ends (readDocument custom contents) {} (fun _ _ => True)
      (Source.ofDocument custom contents).Fails := by
    refine ends_readDocument ?_
      (fun f => fails_of_check (fun _ => rfl) fun _ hpattern hstop => .document hpattern hstop)
      fun id schemas hschemas => ?_
    · rintro f (rfl | rfl | rfl)
      · exact Or.inl rfl
      · exact Or.inl rfl
      · exact Or.inl rfl
    · refine (ends_mapM (fun _ _ _ => True) trivial ?_).mono (fun _ _ _ => trivial) fun _ hf => hf
      rintro pre ⟨type, versions⟩ post mss b₁ hentries -
      have hmem : (type, versions) ∈ sortEntries schemas := by
        rw [hentries]
        simp
      exact fails_readVersions hschemas (List.mem_mergeSort.1 hmem)
  simp only [read, outcome]
  cases hread : readDocument custom contents {} with
  | ok d b => exact Or.inl ⟨d, rfl⟩
  | error f b => exact Or.inr ⟨f, rfl, hends.of_error hread⟩

open Go (documentOf objectOf refTo)

/-- A document with a schema below the name of a definition, where the metaschema does not look. -/
def nestedDefinition : Json :=
  documentOf (objectOf [("x", refTo "v/1")]) [("v", .obj [("1", .obj [("type", .int 5)])])]

set_option maxRecDepth 100000 in
/-- A schema that is not checked can have a type of the wrong kind. -/
theorem nestedDefinition_misread :
    (read [] nestedDefinition).1 = .error (.misfit (.notAList (.int 5))) := by
  decide +kernel

end Schema

end StructGen
