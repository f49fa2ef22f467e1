import StructGen.Proofs.Lines
import StructGen.Proofs.Outcome
import StructGen.Proofs.Parts
import StructGen.Schema.Reference

/-!
# What references lead to

A reference that can be resolved leads to a part of the document, by the segments of a pointer or by
the name of an anchor.

* `follow` and `valueAt` follow the segments of a pointer and nothing else;
* `resolveReference_eq_ok` tells what has been found when a reference is resolved;
* `within_of_resolveReference`: a reference leads to no more than the document;
* `valueAt_of_resolveReference`: the schema is the value at the place that is given for it, unless
  the fragment starts with an escape.
-/

namespace StructGen

/-! ### Percent escapes -/

namespace Text.Utf8

/-- The character that is put for a piece. -/
def Piece.shown : Piece → Char
  | .char c => c
  | .fault _ => '\ufffd'

theorem decodeLossy_eq (octets : List UInt8) :
    decodeLossy octets = (piecesFrom 0 none octets).map Piece.shown := rfl

/-- An open character, wherever it starts. -/
def Open.unplaced (o : Open) : Open := { o with position := 0 }

theorem start_shown (p q : Nat) (b : UInt8) :
    (start p b).1.map Piece.shown = (start q b).1.map Piece.shown ∧
      (start p b).2.map Open.unplaced = (start q b).2.map Open.unplaced := by
  -- The branches are taken by the octet alone, so both sides are compared branch by branch.
  have h : Prod.map (List.map Piece.shown) (Option.map Open.unplaced) (start p b) =
      Prod.map (List.map Piece.shown) (Option.map Open.unplaced) (start q b) := by
    simp only [start, apply_ite (Prod.map (List.map Piece.shown) (Option.map Open.unplaced))]
    rfl
  exact Prod.mk.inj h

/-- What is shown does not depend on where it stands. -/
theorem step_shown {o o' : Option Open} (ho : o.map Open.unplaced = o'.map Open.unplaced)
    (p q : Nat) (b : UInt8) :
    (step p o b).1.map Piece.shown = (step q o' b).1.map Piece.shown ∧
      (step p o b).2.map Open.unplaced = (step q o' b).2.map Open.unplaced := by
  obtain ⟨hchars, hnext⟩ := start_shown p q b
  cases o with
  | none =>
    cases o' with
    | none => exact ⟨hchars, hnext⟩
    | some o' => cases ho
  | some o =>
    cases o' with
    | none => cases ho
    | some o' =>
      obtain ⟨_, octet, taken, owed, low, high, bits⟩ := o
      obtain ⟨_, _, _, _, _, _, _⟩ := o'
      cases ho
      simp only [step]
      split_ifs
      · cases owed with
        | zero => exact ⟨rfl, rfl⟩
        | succ owed => exact ⟨rfl, rfl⟩
      · exact ⟨congrArg ('\ufffd' :: ·) hchars, hnext⟩

theorem piecesFrom_shown {o o' : Option Open} (ho : o.map Open.unplaced = o'.map Open.unplaced)
    (p q : Nat) (octets : List UInt8) :
    (piecesFrom p o octets).map Piece.shown = (piecesFrom q o' octets).map Piece.shown := by
  induction octets generalizing p q o o' with
  | nil =>
    cases o with
    | none =>
      cases o' with
      | none => rfl
      | some o' => cases ho
    | some o =>
      cases o' with
      | none => cases ho
      | some o' => rfl
  | cons b octets ih =>
    obtain ⟨hchars, hnext⟩ := step_shown ho p q b
    rw [piecesFrom, piecesFrom, List.map_append, List.map_append, hchars, ih hnext]

/-- An octet of ASCII is a character of its own. -/
theorem decodeLossy_cons {b : UInt8} (hb : b.toNat < 0x80) (octets : List UInt8) :
    decodeLossy (b :: octets) = Char.ofNat b.toNat :: decodeLossy octets := by
  have hstart : step 0 none b = ([.char (Char.ofNat b.toNat)], none) := by
    rw [step, start]
    exact if_pos hb
  rw [decodeLossy_eq, decodeLossy_eq, piecesFrom, hstart, List.map_append,
    piecesFrom_shown rfl _ 0]
  rfl

end Text.Utf8

namespace Uri

theorem decodeParts_append {b : UInt8} (hb : b.toNat < 0x80) (run : List UInt8)
    (parts : List Escaped) :
    decodeParts (run ++ [b]) parts = Char.ofNat b.toNat :: decodeParts run parts := by
  induction parts generalizing run with
  | nil =>
    rw [decodeParts, decodeParts, List.reverse_append]
    exact Text.Utf8.decodeLossy_cons hb _
  | cons part parts ih =>
    cases part with
    | octet b' => exact ih (b' :: run)
    | char c =>
      rw [decodeParts, decodeParts, List.reverse_append]
      exact congrArg (· ++ c :: decodeParts [] parts) (Text.Utf8.decodeLossy_cons hb _)

/-- A character that starts no escape stands for itself. -/
theorem percentDecode_cons {c : Char} (hc : c ≠ '%') (cs : List Char) :
    percentDecode (c :: cs) = c :: percentDecode cs := by
  have hparts : escapedParts (c :: cs) =
      (if c.toNat < 0x80 then .octet c.toUInt8 else .char c) :: escapedParts cs := by
    rw [escapedParts]
    exact fun _ _ _ h _ => hc h
  rw [percentDecode, hparts]
  split_ifs with hascii
  · have hoctet : c.toUInt8.toNat = c.toNat := by
      rw [Char.toUInt8, UInt32.toNat_toUInt8]
      exact Nat.mod_eq_of_lt (Nat.lt_trans hascii (by decide))
    rw [decodeParts]
    have h := decodeParts_append (b := c.toUInt8) (by rwa [hoctet]) [] (escapedParts cs)
    rw [List.nil_append, hoctet, Char.ofNat_toNat] at h
    exact h
  · rfl

end Uri

/-! ### Segments -/

namespace Pointer

theorem unescapeChars_cons {c : Char} (hc : c ≠ '~') (cs : List Char) :
    unescapeChars (c :: cs) = c :: unescapeChars cs := by
  rw [unescapeChars]
  · exact fun _ h _ => hc h
  · exact fun _ h _ => hc h

/-- Reading a segment undoes writing it. -/
theorem unescapeChars_escapeChars (cs : List Char) : unescapeChars (escapeChars cs) = cs := by
  induction cs with
  | nil => rfl
  | cons c cs ih =>
    rw [escapeChars]
    split_ifs with htilde hslash
    · rw [unescapeChars, ih, htilde]
    · rw [unescapeChars, ih, hslash]
    · rw [unescapeChars_cons htilde, ih]

theorem unescapeChars_escape (segment : String) :
    String.ofList (unescapeChars (escape segment).toList) = segment := by
  rw [escape, String.toList_ofList, unescapeChars_escapeChars, String.ofList_toList]

/-- A segment holds no slash as it is written. -/
theorem count_escapeChars (cs : List Char) : (escapeChars cs).count '/' = 0 := by
  induction cs with
  | nil => rfl
  | cons c cs ih =>
    rw [escapeChars]
    split_ifs with htilde hslash
    · simpa using ih
    · simpa using ih
    · rw [List.count_cons_of_ne hslash, ih]

theorem slash_not_mem_escape (segment : String) : '/' ∉ (escape segment).toList := by
  rw [escape, String.toList_ofList]
  exact List.count_eq_zero.1 (count_escapeChars _)

end Pointer

namespace Schema

/-! ### Following a pointer -/

/-- The value that segments lead to. -/
def follow (value : Json) : List (List Char) → Option Json
  | [] => some value
  | segment :: segments =>
    match part value segment with
    | .ok (some inner) => follow inner segments
    | _ => none

/-- The value at a place of a document. -/
def valueAt (document : Json) (pointer : String) : Option Json :=
  match pointer.toList with
  | [] => some document
  | c :: rest => if c = '/' then follow document (rest.splitOn '/') else none

variable {v w : Json} {segment : List Char} {segments : List (List Char)}

theorem follow_cons (h : part v segment = .ok (some w)) :
    follow v (segment :: segments) = follow w segments := by
  rw [follow, h]

theorem follow_append (v : Json) (p q : List (List Char)) :
    follow v (p ++ q) = (follow v p).bind fun w => follow w q := by
  induction p generalizing v with
  | nil => rfl
  | cons segment p ih =>
    rw [List.cons_append, follow, follow]
    split
    · exact ih _
    · rfl

/-- One more segment at the end of a pointer. -/
theorem valueAt_append (document : Json) (pointer : String) {cs : List Char} (hcs : '/' ∉ cs) :
    valueAt document (pointer ++ "/" ++ String.ofList cs) =
      (valueAt document pointer).bind fun w => follow w [cs] := by
  have hsplit : cs.splitOn '/' = [cs] := List.splitOn_eq_singleton hcs
  have hchars : (pointer ++ "/" ++ String.ofList cs).toList = pointer.toList ++ '/' :: cs := by
    simp
  unfold valueAt
  rw [hchars]
  cases pointer.toList with
  | nil => simp only [List.nil_append, if_true, hsplit, Option.bind_some]
  | cons c rest =>
    simp only [List.cons_append]
    split_ifs
    · rw [List.splitOn_append_cons_self, hsplit, follow_append]
    · rfl

/-- A segment of an object is the name of an entry. -/
theorem follow_escape (entries : Entries) (name : String) :
    follow (.obj entries) [(Pointer.escape name).toList] = entries.lookup name := by
  rw [follow, part, Pointer.unescapeChars_escape]
  cases entries.lookup name with
  | none => rfl
  | some v => rfl

/-- The value at the place of a member of an object. -/
theorem valueAt_child {document : Json} {pointer : String} {entries : Entries}
    (h : valueAt document pointer = some (.obj entries)) (name : String) :
    valueAt document (Pointer.child pointer name) = entries.lookup name := by
  have hchild : Pointer.child pointer name =
      pointer ++ "/" ++ String.ofList (Pointer.escape name).toList := by
    rw [String.ofList_toList, Pointer.child]
  rw [hchild, valueAt_append _ _ (Pointer.slash_not_mem_escape name), h, Option.bind_some,
    follow_escape]

theorem mem_of_itemAt? {α : Type} {items : List α} {index : Int} {a : α}
    (h : itemAt? items index = some a) : a ∈ items := by
  unfold itemAt? at h
  split_ifs at h
  · exact List.mem_of_getElem? h
  · exact List.mem_of_getElem? h

/-- A segment leads to a part. -/
theorem part_within (h : part v segment = .ok (some w)) : w.Within v := by
  unfold part at h
  split at h
  · rw [Except.ok.injEq] at h
    exact Json.entry_within (mem_of_lookup h)
  · split at h
    · rw [Except.ok.injEq] at h
      exact Json.item_within (mem_of_itemAt? h)
    · cases h
  · split at h
    · rw [Except.ok.injEq, Option.map_eq_some_iff] at h
      obtain ⟨c, -, rfl⟩ := h
      exact Json.str_within _ _
    · cases h
  · cases h

theorem follow_within (h : follow v segments = some w) : w.Within v := by
  induction segments generalizing v with
  | nil =>
    cases h
    exact .refl _
  | cons segment segments ih =>
    rw [follow] at h
    split at h
    · rename_i inner hpart
      exact (ih h).trans (part_within hpart)
    · cases h

theorem Place.value_of_enter {p q : Place} {name : String} (h : p.enter name v = .ok q) :
    q.value = v := by
  unfold Place.enter at h
  dsimp only at h
  split_ifs at h
  · obtain ⟨id, -, h⟩ := bind_eq_ok.1 h
    cases id with
    | none =>
      cases h
      rfl
    | some id =>
      obtain ⟨base, -, h⟩ := bind_eq_ok.1 h
      cases h
      rfl
  · cases h
    rfl

/-- Looking something up follows the segments; identifiers on the way only make it fail. -/
theorem follow_of_lookUpFrom {p : Place} (h : lookUpFrom p segments = .ok (some w)) :
    follow p.value segments = some w := by
  induction segments generalizing p with
  | nil =>
    rw [lookUpFrom, Except.ok.injEq] at h
    exact h
  | cons segment segments ih =>
    rw [lookUpFrom] at h
    obtain ⟨found, hpart, h⟩ := bind_eq_ok.1 h
    cases found with
    | none => cases h
    | some inner =>
      obtain ⟨q, hq, h⟩ := bind_eq_ok.1 h
      rw [follow_cons hpart, ← Place.value_of_enter hq]
      exact ih h

/-! ### Anchors -/

theorem given_within {entries : Entries} {keywords : List String}
    (hw : w ∈ keywords.filterMap fun k => entries.lookup k) : w.Within (.obj entries) := by
  obtain ⟨k, -, hk⟩ := List.mem_filterMap.1 hw
  exact Json.entry_within (mem_of_lookup hk)

theorem listed_within {l : List Json} (h : Dialect.listed v = .ok l) (hw : w ∈ l) :
    w.Within v := by
  unfold Dialect.listed at h
  split at h
  · rename_i items hitems
    cases h
    exact Json.element_within hitems hw
  · cases h

theorem tabled_within {l : List Json} (h : Dialect.tabled v = .ok l) (hw : w ∈ l) :
    w.Within v := by
  cases v with
  | obj entries =>
    cases h
    obtain ⟨p, hp, rfl⟩ := List.mem_map.1 hw
    exact Json.entry_within hp
  | _ => cases h

/-- What is collected from parts of a value are parts of it. -/
theorem collected_within {u : Json} {f : Json → Except Failure (List Json)} {vs : List Json}
    {ls : List (List Json)} (h : vs.mapM f = .ok ls) (hvs : ∀ v ∈ vs, v.Within u)
    (hf : ∀ v l, f v = .ok l → ∀ w ∈ l, w.Within v) (hw : w ∈ ls.flatten) : w.Within u := by
  obtain ⟨l, hl, hw⟩ := List.mem_flatten.1 hw
  obtain ⟨v, hv, hl⟩ := exists_of_forall₂ (mapM_eq_ok.1 h) hl
  exact (hf v l hl w hw).trans (hvs v hv)

theorem itemSchemas_within {entries : Entries} (hw : w ∈ Dialect.itemSchemas entries) :
    w.Within (.obj entries) := by
  unfold Dialect.itemSchemas at hw
  split at hw
  · cases hw
  · cases hw
  · rename_i v _ hv
    refine Json.Within.trans ?_ (Json.entry_within (mem_of_lookup hv))
    split_ifs at hw
    · rw [List.mem_singleton.1 hw]
      exact .refl _
    · cases helements : v.elements? with
      | none =>
        rw [helements, Option.getD_none, List.mem_singleton] at hw
        rw [hw]
        exact .refl _
      | some items =>
        rw [helements, Option.getD_some] at hw
        exact Json.element_within helements hw

theorem dependencySchemas_within {entries : Entries} {l : List Json}
    (h : Dialect.dependencySchemas entries = .ok l) (hw : w ∈ l) : w.Within (.obj entries) := by
  unfold Dialect.dependencySchemas at h
  split at h
  · cases h
    cases hw
  · cases h
    cases hw
  · rename_i v _ hv
    obtain ⟨values, hvalues, h⟩ := bind_eq_ok.1 h
    refine (tabled_within hvalues ?_).trans (Json.entry_within (mem_of_lookup hv))
    cases h
    split_ifs at hw
    · exact hw
    · cases hw

/-- The schemas right below a schema are parts of it. -/
theorem subschemas_within {d : Dialect} {schemas : List Json} (h : d.subschemas v = .ok schemas)
    (hw : w ∈ schemas) : w.Within v := by
  cases v with
  | obj entries =>
    rw [Dialect.subschemas] at h
    obtain ⟨lists, hlists, h⟩ := bind_eq_ok.1 h
    obtain ⟨tables, htables, h⟩ := bind_eq_ok.1 h
    extract_lets collect at h
    obtain ⟨dependencies, hdependencies, h⟩ : ∃ dependencies,
        (if d.hasDependencies then Dialect.dependencySchemas entries else pure []) =
          .ok dependencies ∧ collect dependencies = .ok schemas := by
      split_ifs at h ⊢
      · exact bind_eq_ok.1 h
      · exact bind_eq_ok.1 h
    cases h
    simp only [List.mem_append] at hw
    rcases hw with ((((hw | hw) | hw) | hw) | hw) | hw
    · exact given_within hw
    · exact collected_within hlists (fun _ => given_within) (fun _ _ hl _ => listed_within hl) hw
    · exact collected_within htables (fun _ => given_within) (fun _ _ hl _ => tabled_within hl) hw
    · split_ifs at hw
      · exact itemSchemas_within hw
      · cases hw
    · split_ifs at hdependencies
      · exact dependencySchemas_within hdependencies hw
      · cases hdependencies
        cases hw
    · exact given_within (List.mem_of_mem_filter hw)
  | _ =>
    cases h
    cases hw

theorem anchorsFrom_within {fuel : Nat} {d : Dialect} {uri : String} {as : List Anchor}
    (h : anchorsFrom fuel d uri v = .ok as) {a : Anchor} (ha : a ∈ as) : a.schema.Within v := by
  induction fuel generalizing d uri v as a with
  | zero =>
    cases h
    cases ha
  | succ fuel ih =>
    rw [anchorsFrom] at h
    obtain ⟨id, -, h⟩ := bind_eq_ok.1 h
    obtain ⟨uri', h⟩ : ∃ uri', (do
        let own := (← d.anchorNames v).map fun name => { uri := uri', name, schema := v : Anchor }
        let below ← (← d.subschemas v).mapM fun child => return (← d.detect child, child)
        let anchors ← below.reverse.mapM fun (d, child) => anchorsFrom fuel d uri' child
        return own ++ anchors.flatten) = .ok as := by
      cases id with
      | none => exact ⟨uri, h⟩
      | some id =>
        obtain ⟨uri', -, h⟩ := bind_eq_ok.1 h
        exact ⟨uri', h⟩
    obtain ⟨names, -, h⟩ := bind_eq_ok.1 h
    obtain ⟨schemas, hschemas, h⟩ := bind_eq_ok.1 h
    obtain ⟨below, hbelow, h⟩ := bind_eq_ok.1 h
    obtain ⟨anchors, hanchors, h⟩ := bind_eq_ok.1 h
    cases h
    rcases List.mem_append.1 ha with ha | ha
    · obtain ⟨name, -, rfl⟩ := List.mem_map.1 ha
      exact .refl _
    · obtain ⟨as, has, ha⟩ := List.mem_flatten.1 ha
      obtain ⟨p, hp, has⟩ := exists_of_forall₂ (mapM_eq_ok.1 hanchors) has
      obtain ⟨child, hchild, hp⟩ := exists_of_forall₂ (mapM_eq_ok.1 hbelow) (List.mem_reverse.1 hp)
      obtain ⟨d', -, hp⟩ := bind_eq_ok.1 hp
      cases hp
      exact (ih has ha).trans (subschemas_within hschemas hchild)

theorem anchored?_within {base name : String} (h : anchored? base v name = .ok (some w)) :
    w.Within v := by
  unfold anchored? at h
  obtain ⟨as, has, h⟩ := bind_eq_ok.1 h
  have hunder : ∀ uri, (((as.reverse.filter (·.name == name)).find? (·.uri == uri)).map
      (·.schema)) = some w → w.Within v := by
    intro uri huri
    obtain ⟨a, ha, rfl⟩ := Option.map_eq_some_iff.1 huri
    have hmem := List.mem_of_mem_filter (List.mem_of_find?_eq_some ha)
    exact anchorsFrom_within has (List.mem_reverse.1 hmem)
  dsimp only at h
  split at h
  · rename_i schema hschema
    cases h
    exact hunder _ hschema
  · obtain ⟨id, -, h⟩ := bind_eq_ok.1 h
    obtain ⟨uri, -, huri⟩ := Option.bind_eq_some_iff.1 (Except.ok.inj h)
    exact hunder uri huri

/-! ### Resolving references -/

/-- What has been found when a reference is resolved. -/
theorem resolveReference_eq_ok {base reference place : String}
    (h : resolveReference base v reference = .ok (w, place)) :
    ∃ url fragment, Uri.defragment reference = .ok (url, fragment) ∧
      schemaAt? base v fragment = .ok (some w) ∧
      place = String.ofList (Uri.percentDecode fragment) ∧
      (Uri.percentDecode fragment = [] ∨ (Uri.percentDecode fragment).head? = some '/') := by
  unfold resolveReference at h
  obtain ⟨⟨url, fragment⟩, hdefragment, h⟩ := bind_eq_ok.1 h
  refine ⟨url, fragment, hdefragment, ?_⟩
  dsimp only at h
  by_cases hurl : (!url.isEmpty && Text.dropEnd url '#' != base) = true
  · rw [if_pos hurl] at h
    cases h
  · rw [if_neg hurl] at h
    split_ifs at h with hpointer
    · cases h
    · obtain ⟨found, hfound, h⟩ := bind_eq_ok.1 h
      cases found with
      | none => cases h
      | some schema =>
        cases h
        refine ⟨hfound, rfl, ?_⟩
        simpa [or_iff_not_imp_left] using hpointer

/-- A reference leads to no more than the document. -/
theorem within_of_resolveReference {base reference place : String}
    (h : resolveReference base v reference = .ok (w, place)) : w.Within v := by
  obtain ⟨url, fragment, -, hschema, -⟩ := resolveReference_eq_ok h
  unfold schemaAt? at hschema
  split at hschema
  · cases hschema
    exact .refl _
  · exact follow_within (follow_of_lookUpFrom hschema)
  · exact anchored?_within hschema

/-- The schema that a reference leads to is the value at the place that is given for it. An anchor
can be in the way only if the fragment starts with an escape. -/
theorem valueAt_of_resolveReference {base reference place : String}
    (h : resolveReference base v reference = .ok (w, place))
    (hplain : ∀ url fragment, Uri.defragment reference = .ok (url, fragment) →
      fragment.head? ≠ some '%') : valueAt v place = some w := by
  obtain ⟨url, fragment, hdefragment, hschema, rfl, hpointer⟩ := resolveReference_eq_ok h
  have hstart := hplain url fragment hdefragment
  unfold valueAt
  rw [String.toList_ofList]
  cases fragment with
  | nil =>
    cases hschema
    rfl
  | cons c cs =>
    rw [Uri.percentDecode_cons (by simpa using hstart)] at hpointer ⊢
    simp only [reduceCtorEq, List.head?_cons, Option.some.injEq, false_or] at hpointer
    subst hpointer
    exact follow_of_lookUpFrom hschema

end Schema

end StructGen
