import StructGen.Proofs.Declarations
import StructGen.Proofs.DefaultStyle
import StructGen.Proofs.GeneratedLines
import StructGen.Proofs.GivenNames

/-!
# Names that share a scope

Types are given different names, but the fields of a struct and the functions that make messages
are named without regard to each other. This module tells when names of one scope clash.

* `snakeFrom` undoes camel case, whatever initialisms have been applied, so property names in snake
  case make different field names;
* `fields_distinct_iff` is about the fields of a struct;
* `clash_of_factory` is about the types and functions of a package.
-/

namespace StructGen

namespace Naming

/-! ### Names in snake case -/

/-- Whether a text goes on in snake case: words of two or more lower-case letters with an underscore
between them. `n` is the number of letters of the word so far. -/
def isSnakeFrom (n : Nat) : List Char → Bool
  | [] => 2 ≤ n
  | c :: cs => if c = '_' then decide (2 ≤ n) && isSnakeFrom 0 cs else c.isLower && isSnakeFrom (n + 1) cs

/-- Whether a name is in snake case. -/
def isSnakeCase (name : String) : Bool := isSnakeFrom 0 name.toList

/-- The words of a text in camel case, put in lower case with an underscore before each but the
first. An upper-case letter starts a word unless it follows another one; `inner` tells whether one
here would start a word after the first. -/
def snakeFrom (inner : Bool) : List Char → List Char
  | [] => []
  | c :: cs =>
    if c.isUpper then (if inner then ['_'] else []) ++ c.toLower :: snakeFrom false cs
    else c :: snakeFrom true cs

theorem camelFrom_of_isLower {cap : Bool} {c : Char} (h : c.isLower = true) (cs : List Char) :
    camelFrom cap (c :: cs) = (if cap then c.toUpper else c) :: camelFrom false cs := by
  rw [camelFrom, if_neg (Char.not_isUpper_of_isLower h), if_pos h]

/-- Camel case of a text in snake case can be undone, from the start of a word as well as from
inside it. -/
theorem snakeFrom_camelFrom (cs : List Char) :
    (∀ inner, isSnakeFrom 0 cs = true →
      snakeFrom inner (camelFrom true cs) = (if inner then ['_'] else []) ++ cs) ∧
    ∀ n, isSnakeFrom (n + 1) cs = true → snakeFrom (decide (1 ≤ n)) (camelFrom false cs) = cs := by
  induction cs with
  | nil => exact ⟨fun _ h => (by cases h), fun _ _ => rfl⟩
  | cons c cs ih =>
    refine ⟨fun inner h => ?start, fun n h => ?inside⟩
    case start =>
      rw [isSnakeFrom] at h
      split_ifs at h
      · cases h
      · rw [Bool.and_eq_true] at h
        have halpha : c.isAlpha = true := by simp [Char.isAlpha, h.1]
        have hlower : c.toLower = c := Char.toLower_eq_of_not_isUpper (Char.not_isUpper_of_isLower h.1)
        rw [camelFrom_of_isLower h.1, if_pos rfl, snakeFrom, Char.isUpper_toUpper_eq_isAlpha,
          if_pos halpha, Char.toLower_toUpper_eq_toLower, hlower]
        exact congrArg (fun rest => _ ++ c :: rest) (ih.2 0 h.2)
    case inside =>
      rw [isSnakeFrom] at h
      split_ifs at h with hc
      · rw [Bool.and_eq_true, decide_eq_true_eq] at h
        have hn : decide (1 ≤ n) = true := decide_eq_true (by omega)
        have hcamel : camelFrom false (c :: cs) = camelFrom true cs := by rw [hc]; rfl
        rw [hn, hcamel, ih.1 true h.2, hc]
        rfl
      · rw [Bool.and_eq_true] at h
        rw [camelFrom_of_isLower h.1, if_neg Bool.false_ne_true, snakeFrom,
          if_neg (Char.not_isUpper_of_isLower h.1)]
        exact congrArg (c :: ·) (ih.2 (n + 1) h.2)

theorem isSolid_of_isSnakeFrom {n : Nat} {cs : List Char} (h : isSnakeFrom n cs = true) :
    Text.IsSolid cs := by
  induction cs generalizing n with
  | nil => exact List.forall_mem_nil _
  | cons c cs ih =>
    rw [isSnakeFrom] at h
    split_ifs at h with hc
    · rw [Bool.and_eq_true] at h
      exact List.forall_mem_cons.2 ⟨by rw [hc]; decide, ih h.2⟩
    · rw [Bool.and_eq_true] at h
      have halpha : c.isAlpha = true := by simp [Char.isAlpha, h.1]
      exact List.forall_mem_cons.2 ⟨isBlank_of_isNameChar (isNameChar_of_isAlpha halpha), ih h.2⟩

theorem snakeFrom_camel {name : String} (h : isSnakeCase name = true) :
    snakeFrom false (camel name).toList = name.toList := by
  rw [camel_toList, camelChars, Text.stripChars_of_isSolid (isSolid_of_isSnakeFrom h)]
  exact (snakeFrom_camelFrom _).1 false h

namespace Initialisms

/-- Texts that have the same words also have them at the end of a name. -/
theorem snakeFrom_append {xs ys : List Char} (h : ∀ inner, snakeFrom inner xs = snakeFrom inner ys)
    (inner : Bool) (cs : List Char) : snakeFrom inner (cs ++ xs) = snakeFrom inner (cs ++ ys) := by
  induction cs generalizing inner with
  | nil => exact h inner
  | cons c cs ih => simp only [List.cons_append, snakeFrom, ih]

/-- An initialism is one word, as its title form is. -/
theorem snakeFrom_titleForm : ∀ i ∈ goOrdered.ordered, ∀ inner,
    snakeFrom inner i.toList = snakeFrom inner (titleForm i).toList :=
  forall_of_goTitled (P := fun i title => ∀ inner,
    snakeFrom inner i.toList = snakeFrom inner title.toList) (by decide +kernel)

theorem snakeFrom_apply (name : String) :
    snakeFrom false (go.apply name).toList = snakeFrom false name.toList := by
  rw [go_eq]
  rcases goOrdered_apply_cases name with heq | ⟨i, hi, cs, hname, heq⟩
  · rw [heq]
  · rw [heq, hname]
    exact snakeFrom_append (snakeFrom_titleForm i hi) false cs

theorem snakeFrom_fieldName (property : String) :
    snakeFrom false (go.fieldName property).toList = snakeFrom false (camel property).toList := by
  rcases go.fieldName_cases property with ⟨hid, heq⟩ | heq
  · rw [heq, hid]
    decide
  · rw [heq, snakeFrom_apply]

/-- Different property names in snake case make different field names. -/
theorem eq_of_fieldName_eq {p q : String} (hp : isSnakeCase p = true) (hq : isSnakeCase q = true)
    (h : go.fieldName p = go.fieldName q) : p = q := by
  refine String.toList_inj.1 ?_
  calc p.toList = snakeFrom false (go.fieldName p).toList := by
        rw [snakeFrom_fieldName, snakeFrom_camel hp]
    _ = q.toList := by rw [h, snakeFrom_fieldName, snakeFrom_camel hq]

end Initialisms

end Naming

namespace Schema

namespace Graph

instance (g : Graph) (a : NodeId) : Decidable (g.IsBasic a) :=
  inferInstanceAs (Decidable (∃ tag ∈ _, _))

theorem inside_of_isBasic {g : Graph} {a : NodeId} (h : g.IsBasic a) : g.inside a = [] := by
  obtain ⟨tag, htag, h⟩ := h
  refine inside_of_neither (fun ho => ?_) fun ha => ?_
  · rw [IsObject, h, Option.some.injEq, Json.str.injEq] at ho
    simp [ho] at htag
  · rw [IsArray, h, Option.some.injEq, Json.str.injEq] at ha
    simp [ha] at htag

/-- A node of a basic type that is no reference is ready and has a type. -/
theorem ready_of_isBasic {g : Graph} {a : NodeId} (href : (g.node a).ref = none)
    (h : g.IsBasic a) : g.Ready a ∧ g.Typed a := by
  have htarget := target_of_none href
  refine ⟨⟨fun t ht => ?_, ?_⟩, .basic (htarget.symm ▸ h)⟩
  · rw [href] at ht
    cases ht
  · refine declarable_of_ready ?_ fun _ => ?_ <;> simp [htarget, inside_of_isBasic h]

end Graph

/-- Whether the messages of a document are objects whose properties have basic types. -/
def Document.IsFlat (d : Document) : Prop :=
  ∀ m ∈ d.messages, d.isObjectMessage m = true ∧ ∀ p ∈ (d.graph.node m.node).properties,
    (d.graph.node p.2).ref = none ∧ d.graph.IsBasic p.2

instance (d : Document) : Decidable d.IsFlat := inferInstanceAs (Decidable (∀ m ∈ _, _))

end Schema

namespace Go

open Schema (NodeId Node Graph Message Document)
open Naming (isSnakeCase)

variable {s : Style} {d : Document} {c : Compiled}

/-! ### Fields of a struct -/

/-- Whether the fields of a declaration have different names. -/
def Declaration.FieldsDiffer (e : Declaration) : Prop := (e.fields.map (·.name)).Nodup

instance (e : Declaration) : Decidable e.FieldsDiffer := inferInstanceAs (Decidable (List.Nodup _))

/-- Whether the properties of a node get different field names. -/
def Style.TellsApart (s : Style) (n : Node) : Prop :=
  n.properties.Pairwise fun p q => s.initialisms.fieldName p.1 ≠ s.initialisms.fieldName q.1

theorem fieldNames_of_declare {g : Graph} {r : Registry} {name docstring : String} {id : NodeId}
    {e : Declaration} (h : s.declare g r name docstring id = .ok e) :
    e.fields.map (·.name) =
      (g.node id).sortedProperties.map fun p => s.initialisms.fieldName p.1 := by
  refine map_fields_of_declare h fun p type => ?_
  dsimp only

theorem fieldsDiffer_iff {g : Graph} {r : Registry} {name docstring : String} {id : NodeId}
    {e : Declaration} (h : s.declare g r name docstring id = .ok e) :
    e.FieldsDiffer ↔ s.TellsApart (g.node id) := by
  rw [Declaration.FieldsDiffer, fieldNames_of_declare h, List.Nodup, List.pairwise_map]
  exact (List.mergeSort_perm _ _).pairwise_iff fun hne => hne.symm

/-- Properties in snake case get different field names. -/
theorem tellsApart_of_isSnakeCase (hs : s.initialisms = .go) {n : Node}
    (hkeys : (n.properties.map Prod.fst).Nodup)
    (hsnake : ∀ p ∈ n.properties, isSnakeCase p.1 = true) : s.TellsApart n := by
  rw [List.Nodup, List.pairwise_map] at hkeys
  refine hkeys.imp_of_mem fun {p q} hp hq hne heq => hne ?_
  rw [hs] at heq
  exact Naming.Initialisms.eq_of_fieldName_eq (hsnake p hp) (hsnake q hq) heq

/-- **The fields of a struct have different names exactly if the properties get different ones**,
for each object that the messages lead to and for each message. With the initialisms of Go, property
names in snake case do. -/
theorem fields_distinct_iff {custom : List String} {contents : Json}
    (hread : (Schema.read custom contents).1 = .ok d) (hcompile : (compile s d).1 = .ok c) :
    (∃ (ids : List NodeId) (r : Registry), ids.Nodup ∧
      (∀ a, a ∈ ids ↔ d.Reaches a ∧ d.graph.IsObject a) ∧
      List.Forall₂ (fun id e => DeclaredAs s d.graph r id e ∧
        (e.FieldsDiffer ↔ s.TellsApart (d.graph.node id))) ids c.base) ∧
    List.Forall₂ (fun m e => e.name = messageName c.messageNames m ∧
      (e.FieldsDiffer ↔ s.TellsApart (d.graph.node m.node))) d.messages c.messages ∧
    ∀ n ∈ d.graph.nodes, s.initialisms = .go → (n.properties.map Prod.fst).Nodup →
      (∀ p ∈ n.properties, isSnakeCase p.1 = true) → s.TellsApart n := by
  obtain ⟨ids, r, h⟩ := compilation_of_compile hcompile
  have hreaches := h.mem_iff_reaches (Schema.wellRead_of_read hread)
  refine ⟨⟨ids, r, h.nodup, hreaches, h.base.imp fun id e he => ⟨he, fieldsDiffer_iff he.2⟩⟩,
    (givenNames_of_compile hcompile).messages.imp ?_,
    fun n _ hs hkeys hsnake => tellsApart_of_isSnakeCase hs hkeys hsnake⟩
  rintro m e ⟨hname, r', -, he⟩
  exact ⟨hname, fieldsDiffer_iff he⟩

/-! #### Property names that clash and others that do not -/

/-- The schema of a text. -/
def textSchema : Json := .obj [("type", .str "string")]

theorem exists_compiled_of_isFlat (s : Style) (h : d.IsFlat) : ∃ c, (compile s d).1 = .ok c := by
  have hvalid : ∀ m ∈ d.messages, d.isObjectMessage m = true := fun m hm => (h m hm).1
  have hstarts : ∀ a ∈ d.starts, d.graph.Ready a ∧ d.graph.Typed a := by
    intro a ha
    rw [Document.starts_of_valid hvalid] at ha
    obtain ⟨m, hm, ha⟩ := List.mem_flatMap.1 ha
    obtain ⟨name, hp⟩ := Graph.mem_members.1 ha
    obtain ⟨href, hb⟩ := (h m hm).2 _ hp
    exact Graph.ready_of_isBasic href hb
  exact exists_compiled s hvalid (fun a ha => (hstarts a ha).1) fun a ha => (hstarts a ha).2

/-- Trips are told apart by two numbers. -/
def numberedTrip : Json :=
  documentOf (objectOf [("user_id", textSchema), ("trip_id", textSchema)]) []

set_option maxRecDepth 100000 in
theorem numberedTrip_fields_distinct : ∃ d c m e, (Schema.read [] numberedTrip).1 = .ok d ∧
    (compile defaultStyle d).1 = .ok c ∧ d.messages = [m] ∧ c.messages = [e] ∧
    (d.graph.node m.node).properties.map Prod.fst = ["user_id", "trip_id"] ∧ e.FieldsDiffer := by
  have h : ((Schema.read [] numberedTrip).1.toOption.map fun d =>
      decide (d.IsFlat ∧ d.messages.length = 1 ∧
        ∀ m ∈ d.messages, d.graph.node m.node ∈ d.graph.nodes ∧
          (d.graph.node m.node).properties.map Prod.fst = ["user_id", "trip_id"])) = some true := by
    decide +kernel
  obtain ⟨d, hd, h⟩ := Option.map_eq_some_iff.1 h
  obtain ⟨hflat, hone, hkeys⟩ := of_decide_eq_true h
  obtain ⟨c, hc⟩ := exists_compiled_of_isFlat defaultStyle hflat
  obtain ⟨-, hmessages, hsnake⟩ := fields_distinct_iff (ok_of_toOption hd) hc
  obtain ⟨m, hm⟩ := List.length_eq_one_iff.1 hone
  rw [hm] at hmessages hkeys
  obtain ⟨e, es, ⟨-, hiff⟩, hrest, hes⟩ := List.forall₂_cons_left_iff.1 hmessages
  obtain ⟨hnode, hkeys⟩ := hkeys m List.mem_cons_self
  rw [List.forall₂_nil_left_iff.1 hrest] at hes
  refine ⟨d, c, m, e, ok_of_toOption hd, hc, hm, hes, hkeys, hiff.2 (hsnake _ hnode ?_ ?_ ?_)⟩
  · rw [Naming.Initialisms.go_eq]
    rfl
  · rw [hkeys]
    decide
  · have hall : ∀ key ∈ (d.graph.node m.node).properties.map Prod.fst, isSnakeCase key = true := by
      rw [hkeys]
      decide
    exact fun p hp => hall p.1 (List.mem_map_of_mem hp)

/-- Two spellings of one name. -/
def respelled : Json := documentOf (objectOf [("user_id", textSchema), ("userId", textSchema)]) []

set_option maxRecDepth 100000 in
/-- Two properties of one object can share a field name, whatever the style. -/
theorem respelled_fields_clash : ∃ d, (Schema.read [] respelled).1 = .ok d ∧
    ∀ s : Style, ∃ c m e, (compile s d).1 = .ok c ∧ d.messages = [m] ∧ c.messages = [e] ∧
    (d.graph.node m.node).properties.map Prod.fst = ["user_id", "userId"] ∧ ¬ e.FieldsDiffer := by
  have h : ((Schema.read [] respelled).1.toOption.map fun d =>
      decide (d.IsFlat ∧ d.messages.length = 1 ∧ ∀ m ∈ d.messages,
        (d.graph.node m.node).properties.map Prod.fst = ["user_id", "userId"])) = some true := by
    decide +kernel
  obtain ⟨d, hd, h⟩ := Option.map_eq_some_iff.1 h
  obtain ⟨hflat, hone, hkeys⟩ := of_decide_eq_true h
  refine ⟨d, ok_of_toOption hd, fun s => ?_⟩
  obtain ⟨c, hc⟩ := exists_compiled_of_isFlat s hflat
  obtain ⟨m, hm⟩ := List.length_eq_one_iff.1 hone
  have hmessages := (givenNames_of_compile hc).messages
  rw [hm] at hmessages hkeys
  obtain ⟨e, es, ⟨-, r, -, he⟩, hrest, hes⟩ := List.forall₂_cons_left_iff.1 hmessages
  have hkeys := hkeys m List.mem_cons_self
  rw [List.forall₂_nil_left_iff.1 hrest] at hes
  refine ⟨c, m, e, hc, hm, hes, hkeys, fun hdiffer => ?_⟩
  -- both spellings have the same camel case
  have hsame : s.initialisms.fieldName "user_id" = s.initialisms.fieldName "userId" := by
    have hcamel : Naming.camel "user_id" = Naming.camel "userId" := by decide
    simp only [Naming.Initialisms.fieldName, hcamel]
  have hapart := (fieldsDiffer_iff he).1 hdiffer
  have hpairs : (["user_id", "userId"] : List String).Pairwise fun p q =>
      s.initialisms.fieldName p ≠ s.initialisms.fieldName q := by
    rw [← hkeys, List.pairwise_map]
    exact hapart
  exact (List.pairwise_cons.1 hpairs).1 "userId" List.mem_cons_self hsame

/-! ### Types and functions of a package -/

/-- The names of the functions that make messages. -/
def Compiled.factoryNames (c : Compiled) : List String :=
  c.messageNames.map fun p => factoryName p.2

theorem factoryName_injective : Function.Injective factoryName := by
  intro a b h
  simpa [factoryName, ← String.toList_inj] using h

/-- Whether a name ends in a digit. -/
def EndsInDigit (name : String) : Prop := ∃ c ∈ name.toList.getLast?, c.isDigit = true

theorem EndsInDigit.append (name : String) {t : String} (h : EndsInDigit t) :
    EndsInDigit (name ++ t) := by
  obtain ⟨c, hc, hdigit⟩ := h
  refine ⟨c, ?_, hdigit⟩
  rw [String.toList_append, List.getLast?_append, Option.mem_def.1 hc]
  rfl

theorem endsInDigit_toString (k : Nat) : EndsInDigit (toString k) := by
  have hne : Nat.toDigits 10 k ≠ [] := by simp
  refine ⟨(Nat.toDigits 10 k).getLast hne, ?_, ?_⟩
  · rw [Nat.toString_eq_ofList_toDigits, String.toList_ofList]
    exact List.getLast?_eq_getLast_of_ne_nil hne
  · exact Nat.isDigit_of_mem_toDigits (b := 10) (by decide) (by decide) (List.getLast_mem hne)

theorem not_endsInDigit_factoryName (name : String) : ¬ EndsInDigit (factoryName name) := by
  rintro ⟨c, hc, hdigit⟩
  rw [factoryName, String.toList_append, List.getLast?_append] at hc
  obtain rfl : 'a' = c := by simpa using hc
  cases hdigit

/-- A name that was claimed is the one that was wanted, or has a number behind it. -/
theorem unusedName_cases (r : Registry) (wanted : String) :
    r.unusedName wanted = wanted ∨ EndsInDigit (r.unusedName wanted) := by
  unfold Registry.unusedName
  split_ifs
  · exact Or.inr ((endsInDigit_toString _).append wanted)
  · exact Or.inl rfl

/-- A type is named by its path, or has a version behind it. -/
theorem typeName_cases {is : Naming.Initialisms} {path : List String} {major : Nat}
    {versioned : Bool} {name : String} (h : is.typeName path (some major) versioned = .ok name) :
    versioned = false ∧ name = is.pathName path ∨ EndsInDigit name := by
  unfold Naming.Initialisms.typeName at h
  split_ifs at h with hv
  · cases h
    exact Or.inr ((endsInDigit_toString major).append _)
  · cases h
    exact Or.inl ⟨by simpa using hv, rfl⟩

/-- **Functions have different names, and a type shares the name of a function only if it is named so
without a number**: an object by its place, or the only version of a message by its type. -/
theorem clash_of_factory (hcompile : (compile s d).1 = .ok c) :
    c.typeNames.Nodup ∧ c.factoryNames.Nodup ∧
    ∀ name ∈ c.typeNames, name ∈ c.factoryNames →
      (∃ path id, Place d c.messageNames path id ∧ d.graph.IsObject id ∧
        name = s.initialisms.pathName path) ∨
      ∃ m ∈ d.messages, d.isVersioned m.type = false ∧ name = s.initialisms.pathName [m.type] := by
  obtain ⟨ids, r, h⟩ := compilation_of_compile hcompile
  have hgiven := givenNames_of_compile hcompile
  refine ⟨h.distinct, ?_, fun name hname hfactory => ?_⟩
  · have hnames : (c.messageNames.map Prod.snd).Nodup := h.distinct.of_append_right
    have hmap := hnames.map factoryName_injective
    rwa [List.map_map] at hmap
  · obtain ⟨p, -, rfl⟩ := List.mem_map.1 hfactory
    have hdigit := not_endsInDigit_factoryName p.2
    rcases List.mem_append.1 hname with hname | hname
    · obtain ⟨e, he, heq⟩ := List.mem_map.1 hname
      obtain ⟨path, id, r', hplace, ho, hunused⟩ := hgiven.base e he
      rw [← heq, hunused] at hdigit ⊢
      exact Or.inl ⟨path, id, hplace, ho, (unusedName_cases r' _).resolve_right hdigit⟩
    · obtain ⟨m, hm, wanted, r', hwanted, hunused⟩ := hgiven.messageNames _ hname
      rw [hunused] at hdigit ⊢
      have hclaimed := (unusedName_cases r' wanted).resolve_right hdigit
      rw [hclaimed] at hdigit ⊢
      obtain ⟨hversion, hpath⟩ := (typeName_cases hwanted).resolve_right hdigit
      exact Or.inr ⟨m, hm, hversion, hpath⟩

set_option maxRecDepth 100000 in
theorem trip_clash_of_factory : ∃ d c, (Schema.read [] trip).1 = .ok d ∧
    (compile plainStyle d).1 = .ok c ∧ c.typeNames = ["Place", "Stop", "Trip"] ∧
    c.factoryNames = ["NewTripData"] ∧ c.typeNames.Nodup ∧ c.factoryNames.Nodup ∧
    ∀ name ∈ c.typeNames, name ∈ c.factoryNames →
      (∃ path id, Place d c.messageNames path id ∧ d.graph.IsObject id ∧
        name = plainStyle.initialisms.pathName path) ∨
      ∃ m ∈ d.messages, d.isVersioned m.type = false ∧
        name = plainStyle.initialisms.pathName [m.type] := by
  have h : ((Schema.read [] trip).1.toOption.bind fun d =>
      (compile plainStyle d).1.toOption.map fun c => (c.typeNames, c.factoryNames)) =
      some (["Place", "Stop", "Trip"], ["NewTripData"]) := by decide +kernel
  obtain ⟨d, hd, h⟩ := Option.bind_eq_some_iff.1 h
  obtain ⟨c, hc, hnames⟩ := Option.map_eq_some_iff.1 h
  rw [Prod.mk.injEq] at hnames
  exact ⟨d, c, ok_of_toOption hd, ok_of_toOption hc, hnames.1, hnames.2,
    clash_of_factory (ok_of_toOption hc)⟩

/-- A trip with a definition that is named like the function for trips. -/
def newTrip : Json :=
  documentOf (objectOf [("data", refTo "new_trip_data")])
    [("new_trip_data", .obj [("type", .str "object")])]

set_option maxRecDepth 100000 in
/-- A definition can be named like the function that makes a message. -/
theorem newTrip_factory_clash : ∃ d c, (Schema.read [] newTrip).1 = .ok d ∧
    (compile defaultStyle d).1 = .ok c ∧ c.typeNames = ["NewTripData", "Trip"] ∧
    c.factoryNames = ["NewTripData"] := by
  have h : ((Schema.read [] newTrip).1.toOption.bind fun d =>
      (compile defaultStyle d).1.toOption.map fun c => (c.typeNames, c.factoryNames)) =
      some (["NewTripData", "Trip"], ["NewTripData"]) := by decide +kernel
  obtain ⟨d, hd, h⟩ := Option.bind_eq_some_iff.1 h
  obtain ⟨c, hc, hnames⟩ := Option.map_eq_some_iff.1 h
  rw [Prod.mk.injEq] at hnames
  exact ⟨d, c, ok_of_toOption hd, ok_of_toOption hc, hnames.1, hnames.2⟩

end Go

end StructGen
