import StructGen.Proofs.Checking
import StructGen.Proofs.GeneratedSource
import StructGen.Proofs.TwinReadings

/-!
# A definition that nothing refers to

A definition that is put among those of a document changes the document and nothing else that
reading sees: every reference that could be resolved leads to what it led to before. The two
documents are twins in which all schemas are the same but the document itself, which is a schema
too.

* `AddsDefinition` says that a document has one more definition than another one;
* `lookUp_of_extends` follows pointers through both;
* `twinDocuments_of_addsDefinition` shows that the documents are twins;
* `generate_of_addsDefinition` is the result for documents with plain references.
-/

namespace StructGen

theorem Json.sizeEntries_append (entries entries' : Entries) :
    sizeEntries (entries ++ entries') = sizeEntries entries + sizeEntries entries' := by
  induction entries with
  | nil => simp [sizeEntries]
  | cons e entries ih => rw [List.cons_append, sizeEntries, sizeEntries, ih, Nat.add_assoc]

namespace Schema

/-! ### One definition more -/

/-- A document has one more definition than another one, anywhere among them. -/
inductive AddsDefinition (key : String) (value : Json) : Json → Json → Prop
  | intro {before after earlier later : Entries} (first : before.lookup "definitions" = none)
      (fresh : (earlier ++ later).lookup key = none) :
      AddsDefinition key value
        (.obj (before ++ ("definitions", .obj (earlier ++ later)) :: after))
        (.obj (before ++ ("definitions", .obj (earlier ++ (key, value) :: later)) :: after))

/-- Putting an entry into an object does not change what is under the other keys. -/
theorem lookup_insert {α : Type} {key k : String} (value : α) {earlier later : List (String × α)}
    (hk : k ≠ key) : (earlier ++ (key, value) :: later).lookup k = (earlier ++ later).lookup k := by
  rw [List.lookup_append, List.lookup_append, List.lookup_cons, beq_eq_false_iff_ne.2 hk]

/-- What the documents have in common: all but the definitions, and all definitions of the first. -/
structure Extends (entries entries' inner inner' : Entries) : Prop where
  others : ∀ k, k ≠ "definitions" → entries'.lookup k = entries.lookup k
  definitions : entries.lookup "definitions" = some (.obj inner)
  definitions' : entries'.lookup "definitions" = some (.obj inner')
  same : ∀ k v, inner.lookup k = some v → inner'.lookup k = some v
  size : (Json.obj entries).size ≤ (Json.obj entries').size

variable {key : String} {value contents contents' : Json}

theorem AddsDefinition.extends (h : AddsDefinition key value contents contents') :
    ∃ entries entries' inner inner', contents = .obj entries ∧ contents' = .obj entries' ∧
      Extends entries entries' inner inner' := by
  obtain ⟨first, fresh⟩ := h
  rename_i before after earlier later
  have hlookup : ∀ v : Json,
      (before ++ ("definitions", v) :: after).lookup "definitions" = some v := by
    intro v
    rw [List.lookup_append, first, List.lookup_cons]
    simp
  refine ⟨_, _, _, _, rfl, rfl, fun k hk => ?_, hlookup _, hlookup _, fun k v hv => ?_, ?_⟩
  · rw [lookup_insert _ hk, lookup_insert _ hk]
  · have hk : k ≠ key := by
      rintro rfl
      rw [fresh] at hv
      cases hv
    rw [lookup_insert _ hk, hv]
  · simp only [Json.size, Json.sizeEntries_append, Json.sizeEntries]
    omega

/-! ### Following pointers -/

/-- A segment that stands for a name without slashes and tildes is that name. -/
theorem unescapeChars_eq_self (segment : List Char) (htilde : '~' ∉ Pointer.unescapeChars segment)
    (hslash : '/' ∉ Pointer.unescapeChars segment) : Pointer.unescapeChars segment = segment := by
  fun_induction Pointer.unescapeChars segment with
  | case1 => rfl
  | case2 cs ih => simp at hslash
  | case3 cs ih => simp at htilde
  | case4 c cs _ _ ih =>
    rw [ih (fun h => htilde (List.mem_cons_of_mem _ h)) fun h => hslash (List.mem_cons_of_mem _ h)]

section Pointers

variable {entries entries' inner inner' : Entries} {base : String} {trail : List String}
  {segment : List Char} {segments : List (List Char)} {v : Json}

/-- A pointer leads on from two objects with the same entry. -/
theorem lookUpFrom_of_lookup
    (hsame : ∀ v, entries.lookup (String.ofList (Pointer.unescapeChars segment)) = some v →
      entries'.lookup (String.ofList (Pointer.unescapeChars segment)) = some v)
    (h : lookUpFrom ⟨.obj entries, base, trail⟩ (segment :: segments) = .ok (some v)) :
    lookUpFrom ⟨.obj entries', base, trail⟩ (segment :: segments) = .ok (some v) := by
  obtain ⟨inside, q, hpart, hq, h⟩ := lookUpFrom_cons.1 h
  rw [part, Except.ok.injEq] at hpart
  exact lookUpFrom_cons.2 ⟨inside, q, by rw [part, hsame _ hpart], hq, h⟩

/-- The definitions have no identifier of their own. -/
theorem lookUpFrom_definitions
    (hname : String.ofList (Pointer.unescapeChars segment) = "definitions")
    (hlookup : entries.lookup "definitions" = some (.obj inner)) :
    lookUpFrom ⟨.obj entries, base, []⟩ (segment :: segments) =
      lookUpFrom ⟨.obj inner, base, ["definitions"]⟩ segments := by
  rw [lookUpFrom]
  simp only [part, hname, hlookup]
  rfl

/-- A pointer leads to the same value in both documents, unless it is the one of the
definitions. -/
theorem lookUp_of_extends (hext : Extends entries entries' inner inner')
    (hsegments : segments ≠ []) (hplace : segments ≠ ["definitions".toList])
    (h : lookUp base (.obj entries) segments = .ok (some v)) :
    lookUp base (.obj entries') segments = .ok (some v) := by
  unfold lookUp at h ⊢
  cases segments with
  | nil => exact absurd rfl hsegments
  | cons segment segments =>
    by_cases hname : String.ofList (Pointer.unescapeChars segment) = "definitions"
    · rw [lookUpFrom_definitions hname hext.definitions] at h
      rw [lookUpFrom_definitions hname hext.definitions']
      cases segments with
      | nil =>
        have hchars : Pointer.unescapeChars segment = "definitions".toList := by
          rw [← hname, String.toList_ofList]
        have hself := unescapeChars_eq_self segment (by rw [hchars]; decide)
          (by rw [hchars]; decide)
        exact absurd (congrArg (fun cs => [cs]) (hself.symm.trans hchars)) hplace
      | cons segment segments => exact lookUpFrom_of_lookup (hext.same _) h
    · exact lookUpFrom_of_lookup (fun v hv => (hext.others _ hname).trans hv) h

theorem eq_of_splitOn_eq_singleton {sep : Char} {cs ds : List Char}
    (h : cs.splitOn sep = [ds]) : cs = ds := by
  have hjoin : [sep].intercalate (cs.splitOn sep) = cs := List.intercalate_splitOn sep
  rw [h] at hjoin
  simpa [List.intercalate] using hjoin.symm

/-- A plain reference leads to the same schema in both documents, the documents themselves being the
same here. -/
theorem resolveReference_of_extends {reference place : String}
    (hext : Extends entries entries' inner inner') (hplain : isPlainReference reference = true)
    (hplace : place ≠ "/definitions")
    (h : resolveReference base (.obj entries) reference = .ok (v, place)) :
    ∃ v', resolveReference base (.obj entries') reference = .ok (v', place) ∧
      (v = v' ∨ v = .obj entries ∧ v' = .obj entries') := by
  rcases resolveReference_cases hplain h (.obj entries') with
    ⟨hv, -, hresolve⟩ | ⟨pointer, hpointer, hlookUp, hresolve⟩
  · exact ⟨_, hresolve, Or.inr ⟨hv, rfl⟩⟩
  · refine ⟨v, hresolve v (lookUp_of_extends hext (List.splitOn_ne_nil _ _) (fun hsplit => ?_)
      hlookUp), Or.inl rfl⟩
    rw [eq_of_splitOn_eq_singleton hsplit] at hpointer
    exact hplace hpointer

end Pointers

/-! ### Twins -/

/-- The schemas of both documents are the same, the documents themselves apart. -/
def SameButRoot (contents contents' schema schema' : Json) (_ : String) : Prop :=
  schema.Within contents ∧ (schema = schema' ∨ schema = contents ∧ schema' = contents')

/-- Whether a reference names the definitions of the document that it stands in. -/
def namesDefinitions (contents : Json) (reference : String) : Bool :=
  match resolveReference (Source.ofDocument [] contents).base contents reference with
  | .ok (_, place) => place == "/definitions"
  | .error _ => false

section Twins

variable {entries entries' inner inner' : Entries}

/-- Reading looks at no keyword but those that the documents have in common. -/
theorem sameKeywords_of_lookup {pointer : String} {e e' : Entries}
    (hwithin : (Json.obj e).Within contents)
    (hsame : ∀ k, k ≠ "definitions" → e'.lookup k = e.lookup k) :
    SameKeywords Eq (SameButRoot contents contents') pointer e e' := by
  have htext : ∀ k, k ≠ "definitions" → textOf e' k = textOf e k := by
    intro k hk
    rw [textOf, textOf, hsame k hk]
  refine
    { reference := htext _ (by decide)
      types := fun types htypes => ?_
      required := fun names hnames => ?_
      properties := fun _ properties hproperties => ⟨properties, ?_, ?_⟩
      items := fun _ _ _ => ?_
      format := htext _ (by decide)
      description := (htext _ (by decide)).symm }
  · rwa [typesOf, hsame _ (by decide)]
  · rwa [requiredOf, hsame _ (by decide)]
  · rwa [propertiesOf, hsame _ (by decide)]
  · refine List.forall₂_same.2 fun p hp => ⟨rfl, ?_, Or.inl rfl⟩
    rcases propertiesOf_eq_ok hproperties with ⟨-, rfl⟩ | hlookup
    · cases hp
    · exact ((Json.entry_within hp).trans (Json.entry_within (mem_of_lookup hlookup))).trans hwithin
  · have hitems : itemsOf e' = itemsOf e := by
      rw [itemsOf, itemsOf, hsame _ (by decide)]
    rw [hitems]
    cases hitem : itemsOf e with
    | none => exact .none
    | some schema =>
      have hlookup := (itemsOf_eq_some.1 hitem).1
      exact .some ⟨(Json.entry_within (mem_of_lookup hlookup)).trans hwithin, Or.inl rfl⟩

theorem twins_of_extends (custom : List String) (hext : Extends entries entries' inner inner')
    (hplain : (Json.obj entries).references.all isPlainReference = true)
    (hnames : (Json.obj entries).references.all (!namesDefinitions (.obj entries) ·) = true)
    (hcheck : Metaschema.checkSchema .invalidDocument (.obj entries') = .ok ()) :
    Source.Twins Eq (SameButRoot (.obj entries) (.obj entries'))
      (.ofDocument custom (.obj entries)) (.ofDocument custom (.obj entries')) := by
  have hbase : (Source.ofDocument custom (.obj entries')).base =
      (Source.ofDocument custom (.obj entries)).base := by
    simp only [Source.ofDocument, Json.get?, hext.others "id" (by decide)]
  refine
    { absent := rfl
      formats := rfl
      depth := Nat.mul_le_mul (Nat.succ_le_succ hext.size) (Nat.succ_le_succ hext.size)
      keywords := ?_
      target := ?_
      check := ?_ }
  · rintro e schema pointer ⟨hwithin, rfl | ⟨he, rfl⟩⟩
    · exact ⟨e, rfl, sameKeywords_of_lookup hwithin fun _ _ => rfl⟩
    · cases he
      exact ⟨entries', rfl, sameKeywords_of_lookup hwithin hext.others⟩
  · rintro e schema pointer reference v place ⟨hwithin, -⟩ href hresolve
    have hmem : reference ∈ (Json.obj entries).references :=
      hwithin.references (Json.mem_references (mem_of_lookup (textOf_eq_some.1 href)))
    have hplace : place ≠ "/definitions" := by
      have hresolve' : resolveReference (Source.ofDocument [] (.obj entries)).base
        (.obj entries) reference = .ok (v, place) := hresolve
      have hthis := List.all_eq_true.1 hnames reference hmem
      rw [namesDefinitions, hresolve'] at hthis
      simpa using hthis
    obtain ⟨v', hresolve', hv⟩ := resolveReference_of_extends hext
      (List.all_eq_true.1 hplain reference hmem) hplace hresolve
    refine Or.inl ⟨v', ?_, within_of_resolveReference hresolve, hv⟩
    rw [hbase]
    exact hresolve'
  · rintro schema schema' pointer failure ⟨-, rfl | ⟨-, rfl⟩⟩ hschema
    · exact hschema
    · rw [Metaschema.checkSchema_eq_ok] at hcheck ⊢
      exact hcheck

theorem twinDocuments_of_addsDefinition (custom : List String)
    (h : AddsDefinition key value contents contents')
    (hplain : contents.references.all isPlainReference = true)
    (hnames : contents.references.all (!namesDefinitions contents ·) = true)
    (hcheck : Metaschema.checkSchema .invalidDocument contents' = .ok ()) :
    TwinDocuments Eq (SameButRoot contents contents') custom contents contents' := by
  obtain ⟨entries, entries', inner, inner', rfl, rfl, hext⟩ := h.extends
  refine
    { id := by simp only [Json.get?, hext.others "id" (by decide)]
      schemas := fun schemas hschemas => ⟨schemas, ?_, ?_⟩
      check := fun _ => hcheck
      source := twins_of_extends custom hext hplain hnames hcheck }
  · rw [Json.get?, hext.others _ (by decide)]
    exact hschemas
  · refine List.forall₂_same.2 fun p hp =>
      ⟨rfl, fun versions hversions => ⟨versions, hversions, ?_⟩⟩
    refine List.forall₂_same.2 fun q hq => ⟨rfl, ?_, Or.inl rfl⟩
    have hp' := Json.entry_within hp
    rw [hversions] at hp'
    exact ((Json.entry_within hq).trans hp').trans (Json.entry_within (mem_of_lookup hschemas))

end Twins

end Schema

namespace Go

open Schema (AddsDefinition isPlainReference namesDefinitions)

variable {key : String} {value contents contents' : Json}

/-- **A definition that nothing refers to changes nothing**: a document with plain references, none
of which names its definitions as a whole, generates the same when a definition under a new key is
put among them, if it still passes the check. -/
theorem generate_of_addsDefinition {settings : Settings} {g : Generated}
    (hadds : AddsDefinition key value contents contents')
    (hplain : contents.references.all isPlainReference = true)
    (hnames : contents.references.all (!namesDefinitions contents ·) = true)
    (hcheck : Metaschema.checkSchema .invalidDocument contents' = .ok ())
    (h : (generate settings contents).1 = .ok g) : (generate settings contents').1 = .ok g := by
  unfold generate at h ⊢
  simp only [Noted.andThen_eq_ok, Noted.silent] at h ⊢
  obtain ⟨custom, hcustom, d, hread, s, hstyle, h⟩ := h
  have htwins := Schema.twinDocuments_of_addsDefinition custom hadds hplain hnames hcheck
  obtain ⟨d', hread', hd'⟩ := Schema.read_of_twins htwins hread
  cases hd'.eq
  exact ⟨custom, hcustom, d, hread', s, hstyle, h⟩

/-! #### A trip with a definition aside, and one with two schemas for a place -/

/-- A document with one message and more keywords beside it. -/
def rootedTrip (message : Json) (root definitions : Entries) : Json :=
  .obj (([("id", Json.str "travel"),
      ("schemas", Json.obj [("trip", .obj [("1", message)])])] ++ root) ++
    [("definitions", Json.obj definitions)])

theorem rootedTrip_addsDefinition (message : Json) {root earlier later : Entries}
    (hroot : root.lookup "definitions" = none) (hfresh : (earlier ++ later).lookup key = none) :
    AddsDefinition key value (rootedTrip message root (earlier ++ later))
      (rootedTrip message root (earlier ++ (key, value) :: later)) := by
  refine @AddsDefinition.intro key value _ [] earlier later ?_ hfresh
  rw [List.lookup_append, hroot]
  rfl

/-- A trip to a stop, with some definitions before that of the stop. -/
def stopTrip (earlier : Entries) : Json :=
  rootedTrip (objectOf [("stop", refTo "stop")]) []
    (earlier ++ [("stop", .obj [("type", .str "string"), ("format", .str "itinerary")])])

/-- A definition that could not be read. -/
def aside : Json := arrayOf (refTo "nowhere")

set_option maxRecDepth 100000 in
theorem stopTrip_generated : ∃ g,
    AddsDefinition "aside" aside (stopTrip []) (stopTrip [("aside", aside)]) ∧
    (stopTrip []).references.all isPlainReference = true ∧
    (stopTrip []).references.all (!namesDefinitions (stopTrip []) ·) = true ∧
    Metaschema.checkSchema .invalidDocument (stopTrip [("aside", aside)]) = .ok () ∧
    (generate .default (stopTrip [])).1 = .ok g ∧
    (generate .default (stopTrip [("aside", aside)])).1 = .ok g := by
  have hadds : AddsDefinition "aside" aside (stopTrip []) (stopTrip [("aside", aside)]) :=
    rootedTrip_addsDefinition _ rfl rfl
  have hplain : (stopTrip []).references.all isPlainReference = true := by decide +kernel
  have hnames : (stopTrip []).references.all (!namesDefinitions (stopTrip []) ·) = true := by
    decide +kernel
  have hcheck : Metaschema.checkSchema .invalidDocument (stopTrip [("aside", aside)]) = .ok () := by
    rw [Metaschema.checkSchema_eq_ok, ← List.isEmpty_iff]
    decide +kernel
  have hacceptable : (acceptableUnder defaultStyle (stopTrip [])).isSome = true := by decide +kernel
  obtain ⟨⟨d, c⟩, hd⟩ := Option.isSome_iff_exists.1 hacceptable
  obtain ⟨g, -, hg, -⟩ := exists_generated_by_default hd
  exact ⟨g, hadds, hplain, hnames, hcheck, hg,
    generate_of_addsDefinition hadds hplain hnames hcheck hg⟩

/-- A schema that is known by an anchor that looks like a pointer. -/
def anchored (type : String) : Json :=
  .obj [("id", .str "#%2Fdefinitions%2Fx"), ("type", .str type)]

/-- A trip with a number or a text that is found by the anchor. -/
def anchoredTrip (definitions : Entries) : Json :=
  rootedTrip (objectOf [("x", .obj [("$ref", .str "#%2Fdefinitions%2Fx")])])
    [("items", anchored "string")] definitions

set_option maxRecDepth 100000 in
/-- A definition with the same anchor takes the place of the schema that has been found before. -/
theorem anchoredTrip_depends_on_definition : ∃ g g',
    AddsDefinition "e" (anchored "integer") (anchoredTrip [])
      (anchoredTrip [("e", anchored "integer")]) ∧
    (anchoredTrip []).references.all (!namesDefinitions (anchoredTrip []) ·) = true ∧
    Metaschema.checkSchema .invalidDocument (anchoredTrip [("e", anchored "integer")]) = .ok () ∧
    (generate .default (anchoredTrip [])).1 = .ok g ∧
    (generate .default (anchoredTrip [("e", anchored "integer")])).1 = .ok g' ∧
    g.code ≠ g'.code := by
  have hadds : AddsDefinition "e" (anchored "integer") (anchoredTrip [])
      (anchoredTrip [("e", anchored "integer")]) :=
    @rootedTrip_addsDefinition _ _ _ _ [] [] rfl rfl
  have hcheck : Metaschema.checkSchema .invalidDocument
      (anchoredTrip [("e", anchored "integer")]) = .ok () := by
    rw [Metaschema.checkSchema_eq_ok, ← List.isEmpty_iff]
    decide +kernel
  obtain ⟨g, g', hg, hg', hcode⟩ : ∃ g g', (generate .default (anchoredTrip [])).1 = .ok g ∧
      (generate .default (anchoredTrip [("e", anchored "integer")])).1 = .ok g' ∧
      g.code ≠ g'.code := exists_generated_apart (by decide +kernel)
  exact ⟨g, g', hadds, by decide +kernel, hcheck, hg, hg', hcode⟩

end Go

end StructGen
