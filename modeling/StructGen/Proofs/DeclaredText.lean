import StructGen.Proofs.CompiledText
import StructGen.Proofs.DefaultStyle

/-!
# The text of a declaration

Declaring a node either writes the whole declaration and records its name, or fails and leaves all
as it was. The text is put together from the properties in the order of their names: each gives the
line of its field, with the comment above it if a description is shown.

* `propertyTexts` is what one property contributes, `declaredText` is the whole text;
* `commentBlock_of_plainLines` says what a comment looks like;
* `declare_or_first_failure` is the result.
-/

namespace StructGen

/-! ### Texts with line feeds between them -/

namespace Text

theorem joinWith_concat (texts : List String) (text : String) :
    joinWith "\n" (texts ++ [text]) = unlines texts ++ text := by
  induction texts with
  | nil => simp
  | cons first texts ih =>
    obtain ⟨next, rest, hrest⟩ := List.exists_cons_of_ne_nil (List.concat_ne_nil text texts)
    rw [List.cons_append, hrest, joinWith_cons_cons, ← hrest, ih, unlines_cons]
    simp [String.append_assoc]

/-- Line feeds at the end are taken from the last text only, if there is anything else in it. -/
theorem dropEnd_unlines (texts : List String) (text ending : String) {c : Char}
    (hlast : text.toList.getLast? = some c) (hc : c ≠ '\n') :
    dropEnd (unlines (texts ++ [text ++ ending])) '\n' =
      joinWith "\n" (texts ++ [text ++ dropEnd ending '\n']) := by
  obtain ⟨cs, hcs⟩ := List.getLast?_eq_some_iff.1 hlast
  have hchars : (unlines (texts ++ [text ++ ending])).toList =
      ((unlines texts).toList ++ cs) ++ c :: (ending.toList ++ ['\n']) := by
    simp [hcs]
  have hending : dropTrailing (· == '\n') (ending.toList ++ ['\n']) =
      dropTrailing (· == '\n') ending.toList := by
    rw [dropTrailing, ← List.rdropWhile, List.rdropWhile_concat_pos _ _ _ (by simp)]
    rfl
  rw [joinWith_concat, ← String.toList_inj, dropEnd, dropEnd, hchars,
    dropTrailing_append_cons _ _ (by simpa using hc), hending]
  simp [hcs]

theorem splitLinesFrom_of_plain {cs : List Char}
    (h : ∀ c ∈ cs, isLineBoundary c = true → c = '\n') (line : List Char) :
    splitLinesFrom line (cs ++ ['\n']) = (cs.splitOn '\n').modifyHead (line.reverse ++ ·) := by
  induction cs generalizing line with
  | nil => simp [splitLinesFrom_newline, splitLinesFrom_nil]
  | cons c cs ih =>
    rw [List.forall_mem_cons] at h
    rw [List.cons_append, List.splitOn_cons_eq_if_modifyHead]
    by_cases hc : c = '\n'
    · rw [hc, splitLinesFrom_newline, ih h.2, if_pos (by rfl)]
      cases cs.splitOn '\n' <;> simp
    · have hboundary : isLineBoundary c = false := by
        by_contra hb
        exact hc (h.1 (by simpa using hb))
      rw [splitLinesFrom_cons hboundary, ih h.2, if_neg (by simpa using hc)]
      cases hparts : cs.splitOn '\n' with
      | nil => exact absurd hparts (List.splitOn_ne_nil _ _)
      | cons part parts => simp

/-- A text in which only line feeds end lines is cut at these. -/
theorem splitLines_of_plain {s : String}
    (h : ∀ c ∈ s.toList, isLineBoundary c = true → c = '\n') :
    splitLines (s ++ "\n") = split '\n' s := by
  have hchars : (s ++ "\n").toList = s.toList ++ ['\n'] := by simp
  rw [splitLines, split, hchars, splitLinesFrom_of_plain h]
  cases s.toList.splitOn '\n' <;> rfl

end Text

namespace Go

open Schema (NodeId Node Graph)
open Text (lines unlines isLineBoundary splitLinesFrom)

/-! ### What is written -/

/-- What a property contributes to a struct, `place` being the number of properties before it: its
comment, if descriptions are shown and there is one, with a blank line above it unless the property
is the first, and the line of its field. -/
def propertyTexts (s : Style) (g : Graph) (n : Node) (types : NodeId → GoType)
    (p : String × NodeId) (place : Nat) : List String :=
  let field := s.initialisms.fieldName p.1
  let remark := Text.strip ((g.node p.2).description.getD "")
  (if s.comments = true ∧ remark ≠ "" then
    (if place = 0 then [] else [""]) ++ [commentBlock field remark] else []) ++
  ["\t" ++ field ++ " " ++ (types p.2).text ++ " `json:\"" ++ p.1 ++
    (if .str p.1 ∈ n.required then "" else ",omitempty") ++ "\"`"]

/-- The text of the declaration of a node with the given properties. -/
def declaredText (s : Style) (g : Graph) (n : Node) (types : NodeId → GoType)
    (properties : List (String × NodeId)) (name docstring : String) : String :=
  Text.joinWith "\n" ((if docstring = "" then [] else [docstring]) ++
    if properties = [] then
      ["type " ++ name ++ " map[string]" ++ Text.dropEnd s.types.unknown.display '\n']
    else
      ["type " ++ name ++ " struct \x7b"] ++
        (properties.zipIdx.flatMap fun e => propertyTexts s g n types e.1 e.2) ++ ["\x7d"])

/-- The type of a property; whether null is allowed is read from the target of its node. -/
def propertyType (s : Style) (g : Graph) (r : Registry) (child : NodeId) : Except Failure GoType :=
  resolveType s.types g r child ((g.node (g.target child)).types.contains (.str "null"))

/-- The field of a property whose type is known. -/
def fieldOf (s : Style) (g : Graph) (n : Node) (types : NodeId → GoType) (p : String × NodeId) :
    FieldDeclaration where
  name := s.initialisms.fieldName p.1
  type := (types p.2).text
  key := p.1
  optional := !n.isRequired p.1
  comment := s.shownDescription (g.node p.2)

section Texts

variable (s : Style) (g : Graph) (n : Node) (types : NodeId → GoType) (p : String × NodeId)

theorem texts_fieldOf (place : Nat) :
    (fieldOf s g n types p).texts (place == 0) = propertyTexts s g n types p place := by
  have hline : (fieldOf s g n types p).line = "\t" ++ s.initialisms.fieldName p.1 ++ " " ++
      (types p.2).text ++ " `json:\"" ++ p.1 ++
        (if .str p.1 ∈ n.required then "" else ",omitempty") ++ "\"`" := by
    by_cases hrequired : .str p.1 ∈ n.required <;>
      simp [FieldDeclaration.line, fieldOf, Node.isRequired, hrequired]
  have hcomment : (fieldOf s g n types p).comment =
      if s.comments = true ∧ Text.strip ((g.node p.2).description.getD "") ≠ "" then
        some (Text.strip ((g.node p.2).description.getD "")) else none := by
    simp [fieldOf, Style.shownDescription]
  unfold FieldDeclaration.texts propertyTexts
  rw [hline, hcomment]
  split_ifs with hshown hfirst <;> simp_all [fieldOf]

theorem fieldsTexts_map (properties : List (String × NodeId)) (place : Nat) :
    fieldsTexts (place == 0) (properties.map (fieldOf s g n types)) =
      (properties.zipIdx place).flatMap fun e => propertyTexts s g n types e.1 e.2 := by
  induction properties generalizing place with
  | nil => rfl
  | cons p properties ih =>
    have hlater : false = (place + 1 == 0) := rfl
    rw [List.map_cons, fieldsTexts, hlater, ih, texts_fieldOf, List.zipIdx_cons, List.flatMap_cons]

theorem text_eq_declaredText (properties : List (String × NodeId)) (name docstring : String) :
    (Declaration.mk name docstring (properties.map (fieldOf s g n types))
        s.types.unknown.display).text =
      declaredText s g n types properties name docstring := by
  rw [Declaration.text, Declaration.layout_eq_unlines, Declaration.texts, Declaration.typeTexts,
    declaredText]
  by_cases hnone : properties = []
  · have hlast : ("type " ++ name ++ " map[string]").toList.getLast? = some ']' := by
      rw [String.toList_append, List.getLast?_append]
      rfl
    simp only [hnone, List.map_nil, if_true]
    exact Text.dropEnd_unlines _ _ _ hlast (by decide)
  · have hbrace : "\x7d".toList.getLast? = some '\x7d' := by decide
    have hfields : fieldsTexts true (properties.map (fieldOf s g n types)) = _ :=
      fieldsTexts_map s g n types properties 0
    simp only [hnone, List.map_eq_nil_iff, if_false]
    rw [hfields, List.singleton_append, ← List.append_assoc, ← List.cons_append,
      ← List.append_assoc]
    exact Text.dropEnd_unlines _ "\x7d" "" hbrace (by decide)

end Texts

/-! ### Comments -/

/-- Comment marks end no lines. -/
theorem plainLines_commentLines {text : String} (h : PlainLines text) :
    PlainLines (commentLines "//" text) := by
  intro c hc hb
  by_contra hnewline
  obtain ⟨line, hline, hmem⟩ := Text.exists_mem_splitOn hc hnewline
  rw [← lines, lines_commentLines] at hline
  obtain ⟨l, hl, rfl⟩ := List.mem_map.1 hline
  rcases List.mem_cons.1 hmem with rfl | hmem
  · cases hb
  rcases List.mem_cons.1 hmem with rfl | hmem
  · cases hb
  rcases List.mem_cons.1 hmem with rfl | hmem
  · cases hb
  exact hnewline (h c (Text.mem_of_mem_splitOn hl hmem).1 hb)

/-- Where only line feeds end lines, every line gets a tab and a comment mark. -/
theorem indentLines_commentLines {text : String} (h : PlainLines text) :
    indentLines (commentLines "//" text) =
      Text.joinWith "\n" ((Text.split '\n' text).map fun line => "\t// " ++ line) := by
  have hlines : Text.splitLines (commentLines "//" text ++ "\n") =
      (Text.split '\n' text).map fun line => "// " ++ line := by
    have hmarked := lines_commentLines text
    rw [lines] at hmarked
    rw [Text.splitLines_of_plain (plainLines_commentLines h), Text.split, hmarked, Text.split,
      lines, List.map_map, List.map_map]
    exact List.map_congr_left fun l _ => by simp [← String.toList_inj]
  have htabs : ∀ texts : List String, (texts.map fun line => "// " ++ line).map
      (fun l => if l.isEmpty then l else "\t" ++ l) = texts.map fun line => "\t// " ++ line := by
    intro texts
    rw [List.map_map]
    refine List.map_congr_left fun line _ => ?_
    simp [← String.append_assoc]
  obtain ⟨first, rest, hrest⟩ := List.exists_cons_of_ne_nil
    (show Text.split '\n' text ≠ [] by simp [Text.split, List.splitOn_ne_nil])
  rw [indentLines, hlines, hrest, List.map_cons, List.map_cons]
  dsimp only
  rw [htabs]
  cases rest with
  | nil => simp [← String.append_assoc]
  | cons second rest =>
    simp only [List.map_cons, Text.joinWith_cons_cons, ← String.append_assoc]
    rfl

/-- The comment of a description in which only line feeds end lines. -/
theorem commentBlock_of_plainLines (s : Style) (property : String) {remark : String}
    (h : PlainLines remark) :
    commentBlock (s.initialisms.fieldName property) remark = Text.joinWith "\n"
      ((Text.split '\n' (s.initialisms.fieldName property ++ " - " ++ remark)).map
        fun line => "\t// " ++ line) := by
  refine indentLines_commentLines fun c hc hb => ?_
  rw [String.toList_append, String.toList_append, List.mem_append, List.mem_append] at hc
  rcases hc with (hc | hc) | hc
  · have hblank := (s.initialisms.isClean_fieldName property c hc).1
    rw [isBlank_of_isLineBoundary hb] at hblank
    cases hblank
  · have hdash : c = ' ' ∨ c = '-' ∨ c = ' ' := by simpa using hc
    rcases hdash with rfl | rfl | rfl
    all_goals cases hb
  · exact h c hc hb

/-! ### Declaring a node -/

section Declare

variable {s : Style} {g : Graph} {r : Registry} {name docstring : String} {id : NodeId}

/-- A node whose properties have types is declared with their fields. -/
theorem declare_of_types {types : NodeId → GoType}
    (h : ∀ p ∈ (g.node id).sortedProperties, propertyType s g r p.2 = .ok (types p.2)) :
    s.declare g r name docstring id = .ok
      ⟨name, docstring, (g.node id).sortedProperties.map (fieldOf s g (g.node id) types),
        s.types.unknown.display⟩ := by
  refine bind_eq_ok.2 ⟨_, mapM_eq_ok.2 ?_, rfl⟩
  rw [List.forall₂_map_right_iff, List.forall₂_same]
  exact fun p hp => field_of_ok (h p hp)

/-- A node cannot be declared if a property has no type, and the failure is that of the first such
property. -/
theorem declare_of_first_error {before rest : List (String × NodeId)} {p : String × NodeId}
    {f : Failure} (hsplit : (g.node id).sortedProperties = before ++ p :: rest)
    (hbefore : ∀ q ∈ before, ∃ t, propertyType s g r q.2 = .ok t)
    (hp : propertyType s g r p.2 = .error f) : s.declare g r name docstring id = .error f := by
  refine bind_eq_error.2 (Or.inl ?_)
  rw [hsplit]
  refine mapM_of_first_error (fun q hq => ?_) (field_of_error hp)
  obtain ⟨t, ht⟩ := hbefore q hq
  exact ⟨_, field_of_ok ht⟩

theorem pairwise_sortedProperties (n : Node) :
    n.sortedProperties.Pairwise fun p q => p.1 ≤ q.1 := by
  refine (List.pairwise_mergeSort (fun p q r hpq hqr => ?_) (fun p q => ?_) n.properties).imp
    fun h => of_decide_eq_true h
  · rw [decide_eq_true_iff] at hpq hqr ⊢
    exact String.le_trans hpq hqr
  · rw [Bool.or_eq_true, decide_eq_true_iff, decide_eq_true_iff]
    exact String.le_total _ _

/-- A declaration is made and its name recorded. -/
theorem compileDeclare_of_ok {w : Workspace} {d : Declaration}
    (h : s.declare g w.registry name docstring id = .ok d) :
    Compile.declare s g name docstring id w =
      .ok d { w with
        registry := w.registry.register id name
        notices := w.notices ++ [.registered name (g.node id).pointer] } := by
  simp only [Compile.declare, bind, EStateM.bind, get, getThe, MonadStateOf.get, EStateM.get, h]
  rfl

/-- A node that cannot be declared leaves everything as it is. -/
theorem compileDeclare_of_error {w : Workspace} {f : Failure}
    (h : s.declare g w.registry name docstring id = .error f) :
    Compile.declare s g name docstring id w = .error f w := by
  simp only [Compile.declare, bind, EStateM.bind, get, getThe, MonadStateOf.get, EStateM.get, h]
  rfl

end Declare

/-- **A node is declared as a whole or not at all.** If every property has a type, the declaration
is written from the properties in the order of their names and the registry has one name more; if
not, the failure is that of the first property without a type, and nothing has changed. In a comment
every line has a mark, if only line feeds end its lines. -/
theorem declare_or_first_failure (s : Style) (g : Graph) (w : Workspace) (name docstring : String)
    (id : NodeId) :
    ∃ properties : List (String × NodeId), properties.Perm (g.node id).properties ∧
      properties.Pairwise (fun p q => p.1 ≤ q.1) ∧
      (∀ types : NodeId → GoType,
        (∀ p ∈ properties, propertyType s g w.registry p.2 = .ok (types p.2)) →
        ∃ d r, Compile.declare s g name docstring id w =
            .ok d { w with
              registry := r, notices := w.notices ++ [.registered name (g.node id).pointer] } ∧
          d.text = declaredText s g (g.node id) types properties name docstring ∧
          (∀ x, r.get? x = if x = id then some name else w.registry.get? x) ∧
          ∀ n, n ∈ r.used ↔ n = name ∨ n ∈ w.registry.used) ∧
      (∀ before p rest f, properties = before ++ p :: rest →
        (∀ q ∈ before, ∃ t, propertyType s g w.registry q.2 = .ok t) →
        propertyType s g w.registry p.2 = .error f →
        Compile.declare s g name docstring id w = .error f w) ∧
      ∀ property remark, PlainLines remark →
        commentBlock (s.initialisms.fieldName property) remark = Text.joinWith "\n"
          ((Text.split '\n' (s.initialisms.fieldName property ++ " - " ++ remark)).map
            fun line => "\t// " ++ line) := by
  refine ⟨(g.node id).sortedProperties, List.mergeSort_perm _ _, pairwise_sortedProperties _,
    fun types htypes => ?_, fun before p rest f hsplit hbefore hp => ?_,
    fun property remark h => commentBlock_of_plainLines s property h⟩
  · refine ⟨_, _, compileDeclare_of_ok (declare_of_types htypes), ?_,
      fun x => w.registry.get?_register id x name, fun n => List.mem_cons⟩
    exact text_eq_declaredText s g (g.node id) types _ name docstring
  · exact compileDeclare_of_error (declare_of_first_error hsplit hbefore hp)

/-- A stop with its number, which may be null and is told elsewhere. -/
def numberedStop : Graph :=
  ⟨[{ types := [.str "object"], properties := [("number", 1), ("id", 2)], required := [.str "id"] },
    { ref := some 3, description := some " Of the\nstop " },
    { types := [.str "string"] },
    { types := [.str "null", .str "integer"] }]⟩

/-- The types of the properties of the stop. -/
def numberedTypes (x : NodeId) : GoType :=
  if x = 1 then .pointer (.basic (.str "int")) else .basic (.str "string")

theorem numberedStop_declared : ∃ d r,
    Compile.declare defaultStyle numberedStop "Stop" "// A stop" 0 {} =
      .ok d { registry := r, notices := [.registered "Stop" ""] } ∧
    d.text = "// A stop\ntype Stop struct \x7b\n\tID string `json:\"id\"`\n\n" ++
      "\t// Number - Of the\n\t// stop\n\tNumber *int `json:\"number,omitempty\"`\n\x7d" ∧
    r.get? 0 = some "Stop" := by
  obtain ⟨properties, hperm, horder, hdeclared, -⟩ :=
    declare_or_first_failure defaultStyle numberedStop {} "Stop" "// A stop" 0
  -- the names of the properties are different, so there is one order
  have hperm : properties.Perm [("id", 2), ("number", 1)] := hperm.trans (List.Perm.swap _ _ _)
  have hnames : ∀ p ∈ [("id", 2), ("number", 1)], ∀ q ∈ [("id", 2), ("number", 1)],
      p.1 = q.1 → p = q := by decide
  have hproperties : properties = [("id", 2), ("number", 1)] :=
    List.Perm.eq_of_pairwise (fun p q hp hq hpq hqp =>
      hnames p (hperm.mem_iff.1 hp) q hq (String.le_antisymm hpq hqp)) horder (by decide) hperm
  subst hproperties
  obtain ⟨d, r, hdeclare, htext, hget, -⟩ := hdeclared numberedTypes (by decide +kernel)
  refine ⟨d, r, hdeclare, htext.trans (by decide +kernel), ?_⟩
  rw [hget, if_pos rfl]

/-- A style whose unknown type ends in a line feed. -/
def brokenStyle : Style :=
  { defaultStyle with types := { defaultStyle.types with unknown := .str "any\n" } }

/-- Line feeds at the end of the unknown type are lost. -/
theorem bareObject_without_line_feed : ∃ d w,
    Compile.declare brokenStyle ⟨[{ types := [.str "object"] }]⟩ "Bare" "" 0 {} = .ok d w ∧
      d.text = "type Bare map[string]any" ∧
      d.text ≠ "type Bare map[string]" ++ brokenStyle.types.unknown.display := by
  have hdeclare : brokenStyle.declare ⟨[{ types := [.str "object"] }]⟩ {} "Bare" "" 0 =
      .ok ⟨"Bare", "", [], "any\n"⟩ := by decide +kernel
  exact ⟨_, _, compileDeclare_of_ok hdeclare, by decide +kernel, by decide +kernel⟩

end Go

end StructGen
