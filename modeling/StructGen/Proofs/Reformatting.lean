import StructGen.Proofs.Relayout

/-!
# Laying out a source twice

A source that has been laid out is laid out to itself. What is read from the layout are the items of
the source with single blank lines, so it is enough that blank lines do not matter to the writer:
squeezing the lines of a struct before they are written is the same as squeezing what is written.

* `Squeezed` are the lists that squeezing leaves alone;
* `bodyLines_eq` moves squeezing from the written lines of a struct to its body;
* `format_idempotent` is the result.
-/

namespace StructGen.Source

/-! ### Squeezed lists -/

section Squeezed

variable {α : Type} [DecidableEq α] {blank : α} {xs ys : List α} {b : Bool}

theorem Tight.squeezeFrom_eq (h : Tight blank b xs) : squeezeFrom blank b xs = xs := by
  induction xs generalizing b with
  | nil => rfl
  | cons x xs ih =>
    rw [squeezeFrom]
    split_ifs with hx hb
    · exact absurd (h.1 hx) (by simp [hb])
    · rw [ih (by simpa [hx] using h.2)]
    · rw [ih (by simpa [hx] using h.2)]

/-- Of two neighbours in a list, one is no blank. -/
theorem Tight.isChain (h : Tight blank b xs) : xs.IsChain fun x y => x ≠ blank ∨ y ≠ blank := by
  induction xs generalizing b with
  | nil => exact .nil
  | cons x xs ih =>
    cases xs with
    | nil => exact .singleton x
    | cons y xs =>
      refine .cons_cons ?_ (ih h.2)
      by_cases hx : x = blank
      · refine Or.inr fun hy => ?_
        have := h.2.1 hy
        simp [hx] at this
      · exact Or.inl hx

/-- A list with single blanks and none at the edges. -/
structure Squeezed (blank : α) (xs : List α) : Prop where
  tight : Tight blank true xs
  last : xs.getLast? ≠ some blank

theorem squeezed_squeeze (blank : α) (xs : List α) : Squeezed blank (squeeze blank xs) := by
  have htight : Tight blank true (squeezeFrom blank true xs) := tight_squeezeFrom true xs
  refine ⟨htight.dropFinal, fun hlast => ?_⟩
  rw [squeeze, dropFinal] at hlast
  split_ifs at hlast with hblank
  · obtain ⟨ys, hys⟩ := List.getLast?_eq_some_iff.1 hblank
    rw [hys, List.dropLast_concat] at hlast
    obtain ⟨zs, rfl⟩ := List.getLast?_eq_some_iff.1 hlast
    rw [hys, List.append_assoc] at htight
    have hpair : [blank, blank] <:+: zs ++ ([blank] ++ [blank]) := ⟨zs, [], by simp⟩
    simpa using htight.isChain.infix hpair
  · exact hblank hlast

theorem Squeezed.head (h : Squeezed blank xs) : xs.head? ≠ some blank := by
  intro hhead
  obtain ⟨ys, rfl⟩ := List.head?_eq_some_iff.1 hhead
  exact absurd (h.tight.1 rfl) (by decide)

theorem Tight.map {β : Type} [DecidableEq β] {f : α → β} {blank' : β}
    (hf : ∀ x, f x = blank' ↔ x = blank) (h : Tight blank b xs) : Tight blank' b (xs.map f) := by
  induction xs generalizing b with
  | nil => trivial
  | cons x xs ih => exact ⟨fun hx => h.1 ((hf x).1 hx), by simpa only [hf] using ih h.2⟩

theorem Squeezed.map {β : Type} [DecidableEq β] {f : α → β} {blank' : β}
    (hf : ∀ x, f x = blank' ↔ x = blank) (h : Squeezed blank xs) : Squeezed blank' (xs.map f) := by
  refine ⟨h.tight.map hf, fun hlast => h.last ?_⟩
  rw [List.getLast?_map] at hlast
  obtain ⟨x, hx, hblank⟩ := Option.map_eq_some_iff.1 hlast
  rw [hx, (hf x).1 hblank]

theorem Squeezed.squeeze_eq (h : Squeezed blank xs) : squeeze blank xs = xs := by
  rw [squeeze, h.tight.squeezeFrom_eq, dropFinal, if_neg h.last]

theorem squeezeFrom_append_of_forall_ne (h : ∀ x ∈ xs, x ≠ blank) (b : Bool) (ys : List α) :
    squeezeFrom blank b (xs ++ ys) = xs ++ squeezeFrom blank (b && xs.isEmpty) ys := by
  induction xs generalizing b with
  | nil => simp
  | cons x xs ih =>
    rw [List.forall_mem_cons] at h
    rw [List.cons_append, squeezeFrom, if_neg h.1, ih h.2]
    simp

/-- A blank behind a squeezed list is dropped. -/
theorem Squeezed.squeeze_append_blank (h : Squeezed blank xs) :
    squeeze blank (xs ++ [blank]) = xs := by
  rcases xs.eq_nil_or_concat with rfl | ⟨ys, y, rfl⟩
  · simp [squeeze, squeezeFrom, dropFinal]
  · rw [List.concat_eq_append] at h ⊢
    have hy : y ≠ blank := by simpa using h.last
    have hfrom := h.tight.of_append.squeezeFrom_append_cons hy [blank]
    rw [squeeze, List.append_assoc, List.singleton_append, hfrom]
    simp [squeezeFrom, dropFinal]

end Squeezed

/-! ### Lines of a struct -/

theorem ne_empty_of_mem_alignRun {run : List Field} {line : String} (h : line ∈ alignRun run) :
    line ≠ "" := by
  obtain ⟨l, hl, hrenders⟩ := exists_of_forall₂ (renders_alignRun run) h
  obtain ⟨f, -, rfl⟩ := List.mem_map.1 hl
  exact fun hempty => absurd ((Renders.blank_iff hrenders).2 hempty) (by simp)

theorem squeezeFrom_alignRun_append (run : List Field) (b : Bool) (ls : List String) :
    squeezeFrom "" b (alignRun run.reverse ++ ls) =
      alignRun run.reverse ++ squeezeFrom "" (b && run.isEmpty) ls := by
  have hempty : (alignRun run.reverse).isEmpty = run.isEmpty := by cases run <;> simp [alignRun]
  rw [squeezeFrom_append_of_forall_ne fun _ => ne_empty_of_mem_alignRun, hempty]

/-- Blank lines of a struct are squeezed before or after it is written; behind the fields of `run`
the first of them is kept. -/
theorem squeezeFrom_bodyLinesFrom (run : List Field) (body : List BodyLine) (b : Bool) :
    squeezeFrom "" b (bodyLinesFrom run body) =
      bodyLinesFrom run (squeezeFrom .blank (b && run.isEmpty) body) := by
  induction body generalizing run b with
  | nil => simpa [squeezeFrom, bodyLinesFrom] using squeezeFrom_alignRun_append run b []
  | cons l body ih =>
    cases l with
    | blank =>
      rw [bodyLinesFrom, squeezeFrom_alignRun_append, squeezeFrom, squeezeFrom, if_pos rfl, if_pos rfl,
        ih]
      split_ifs with hb
      · -- no field stands before the line, so nothing is written for `run`
        obtain ⟨-, hrun⟩ := Bool.and_eq_true_iff.1 hb
        rw [List.isEmpty_iff.1 hrun]
        rfl
      · rfl
    | comment text =>
      have htext : "\t" ++ text ≠ "" := by simp
      rw [bodyLinesFrom, squeezeFrom_alignRun_append, squeezeFrom, squeezeFrom, if_neg htext,
        if_neg (by simp), ih]
      rfl
    | field f =>
      rw [bodyLinesFrom, squeezeFrom, if_neg (by simp), ih, List.isEmpty_cons, Bool.and_false]
      rfl

theorem bodyLinesFrom_append_blank (run : List Field) (body : List BodyLine) :
    bodyLinesFrom run (body ++ [.blank]) = bodyLinesFrom run body ++ [""] := by
  induction body generalizing run with
  | nil => rfl
  | cons l body ih => cases l <;> simp [bodyLinesFrom, ih]

theorem getLast?_eq_blank_iff {body : List BodyLine} {texts : List String}
    (h : List.Forall₂ BodyLine.Renders body texts) :
    body.getLast? = some .blank ↔ texts.getLast? = some "" := by
  induction h with
  | nil => simp
  | cons hl hrest ih =>
    cases hrest with
    | nil => simpa using Renders.blank_iff hl
    | cons _ _ => rwa [List.getLast?_cons_cons, List.getLast?_cons_cons]

theorem dropFinal_bodyLinesFrom (body : List BodyLine) :
    dropFinal "" (bodyLinesFrom [] body) = bodyLinesFrom [] (dropFinal .blank body) := by
  have hlast := getLast?_eq_blank_iff (renders_bodyLinesFrom [] body)
  rw [dropFinal, dropFinal]
  by_cases hblank : body.getLast? = some .blank
  · obtain ⟨before, rfl⟩ := List.getLast?_eq_some_iff.1 hblank
    rw [if_pos (hlast.1 hblank), if_pos hblank, bodyLinesFrom_append_blank, List.dropLast_concat,
      List.dropLast_concat]
  · rw [if_neg (mt hlast.2 hblank), if_neg hblank]

/-- The lines of a struct are those of its squeezed body. -/
theorem bodyLines_eq (body : List BodyLine) :
    bodyLines body = bodyLinesFrom [] (squeeze .blank body) := by
  rw [bodyLines, collapseBlanks_eq_squeeze, squeeze, squeezeFrom_bodyLinesFrom,
    dropFinal_bodyLinesFrom]
  rfl

/-! ### Sources -/

theorem Item.lines_tidy (item : Item) : item.tidy.lines = item.lines := by
  cases item with
  | struct name body =>
    have hbody : bodyLines (squeeze .blank body) = bodyLines body := by
      rw [bodyLines_eq, bodyLines_eq, (squeezed_squeeze .blank body).squeeze_eq]
    rw [Item.tidy, Item.lines, Item.lines, hbody]
  | _ => rfl

theorem sourceLines_map_tidy (items : List Item) :
    sourceLines (items.map Item.tidy) = sourceLines items := by
  rw [sourceLines, sourceLines, List.flatMap_map]
  simp only [Item.lines_tidy]

/-- **Laying out is idempotent**: what has been laid out is accepted and laid out to itself. -/
theorem format_idempotent {source text : String} (h : format source = .ok text) :
    format text = .ok text := by
  obtain ⟨items, hitems, rfl⟩ := map_eq_ok.1 h
  refine map_eq_ok.2 ⟨_, readItems_sourceText hitems, ?_⟩
  have hlines : sourceLines ((squeeze .blank items).map Item.tidy ++ [.blank]) =
      squeeze "" (sourceLines items) ++ [""] := by
    rw [← collapseBlanks_eq_squeeze, collapseBlanks_sourceLines (legible_of_readItems hitems).forall,
      ← sourceLines_map_tidy (squeeze .blank items), sourceLines, List.flatMap_append]
    rfl
  rw [sourceText, hlines, collapseBlanks_eq_squeeze,
    (squeezed_squeeze "" (sourceLines items)).squeeze_append_blank, ← collapseBlanks_eq_squeeze]
  rfl

/-- A source with superfluous blanks and blank lines. -/
def untidySource : String :=
  "\n// Trips.\u2003\n\n\npackage\u00a0 travel\ntype  Trip struct\x7b\n\n" ++
  "  UserID string `json:\"user id\"`\n// Where to.\n\n\n\tTo *string\n Seats []int\n\n\x7d\n" ++
  "type Tags\tmap[string]any\n  func F() \x7b  \x7d \n\n"

/-- The source as it should be. -/
def tidySource : String :=
  "// Trips.\n\npackage travel\ntype Trip struct \x7b\n" ++
  "\tUserID string `json:\"user id\"`\n\t// Where to.\n\n\tTo    *string\n\tSeats []int\n\x7d\n" ++
  "type Tags map[string]any\nfunc F() \x7b  \x7d\n"

theorem toList_append_of_eq {a b : String} {as bs : List Char} (ha : a.toList = as)
    (hb : b.toList = bs) : (a ++ b).toList = as ++ bs := by
  rw [String.toList_append, ha, hb]

set_option maxRecDepth 100000 in
theorem format_untidySource : format untidySource = .ok tidySource := by
  -- evaluating `toList` takes long for a long text, so the characters are put in its place
  have hchars : untidySource.toList = _ := toList_append_of_eq
    (toList_append_of_eq String.toList_ofList String.toList_ofList) String.toList_ofList
  rw [format, readItems, hchars]
  decide +kernel

theorem tidySource_format : format untidySource = .ok tidySource ∧
    format tidySource = .ok tidySource :=
  ⟨format_untidySource, format_idempotent format_untidySource⟩

end StructGen.Source
