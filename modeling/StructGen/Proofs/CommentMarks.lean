import StructGen.Proofs.GeneratedLines

/-!
# Comment marks

The comment of a field is made in two steps. A comment mark is set behind every line feed, and then
the text is cut at the line boundaries of all scripts and every line gets a tab. So a line may start
behind another boundary, where no mark has been set.

* `KeepsMarks` is a text with a mark behind each of its other line boundaries;
* `marked_pieces_iff` follows it along the cutting of lines;
* `marked_commentBlock_iff` says that these are the texts which make a comment.
-/

namespace StructGen.Go

open Text (lines isBlank isLineBoundary splitLinesFrom)
open Naming (IsClean)

/-! ### Comment marks -/

section Marks

variable {cs : List Char} {c : Char}

/-- Behind every line boundary other than a line feed there is a comment mark; a carriage return and
its line feed are one boundary. -/
def KeepsMarks (cs : List Char) : Prop :=
  ∀ b after, b :: after <:+ cs → isLineBoundary b = true →
    b = '\n' ∨ (b = '\r' ∧ after.head? = some '\n') ∨ "//".toList <+: after

theorem keepsMarks_nil : KeepsMarks [] := by
  intro b after h
  simp at h

theorem keepsMarks_cons : KeepsMarks (c :: cs) ↔
    (isLineBoundary c = true → c = '\n' ∨ (c = '\r' ∧ cs.head? = some '\n') ∨ "//".toList <+: cs) ∧
      KeepsMarks cs := by
  constructor
  · intro h
    refine ⟨h c cs List.suffix_rfl, fun b after hafter => h b after ?_⟩
    exact hafter.trans (List.suffix_cons c cs)
  · rintro ⟨hc, hcs⟩ b after hafter
    rcases List.suffix_cons_iff.1 hafter with heq | hafter
    · obtain ⟨rfl, rfl⟩ := List.cons.inj heq
      exact hc
    · exact hcs b after hafter

instance decidableKeepsMarks : (cs : List Char) → Decidable (KeepsMarks cs)
  | [] => isTrue keepsMarks_nil
  | _ :: cs =>
    have := decidableKeepsMarks cs
    decidable_of_iff _ keepsMarks_cons.symm

theorem keepsMarks_append {ds : List Char} (h : ∀ c ∈ cs, isLineBoundary c = false) :
    KeepsMarks (cs ++ ds) ↔ KeepsMarks ds := by
  induction cs with
  | nil => rfl
  | cons c cs ih =>
    rw [List.forall_mem_cons] at h
    rw [List.cons_append, keepsMarks_cons, ih h.2]
    simp [h.1]

/-- A text with a comment mark behind every line feed. -/
def markLines (cs : List Char) : List Char :=
  cs.flatMap fun c => if c = '\n' then "\n// ".toList else [c]

theorem markLines_newline (cs : List Char) :
    markLines ('\n' :: cs) = '\n' :: '/' :: '/' :: ' ' :: markLines cs := rfl

theorem markLines_cons (cs : List Char) (h : c ≠ '\n') :
    markLines (c :: cs) = c :: markLines cs := by
  rw [markLines, List.flatMap_cons, if_neg h]
  rfl

theorem commentLines_toList (text : String) :
    (commentLines "//" text).toList = '/' :: '/' :: ' ' :: markLines text.toList := by
  rw [commentLines, Text.split, List.map_map]
  induction text.toList with
  | nil => rfl
  | cons c cs ih =>
    rw [List.splitOn_cons_eq_if_modifyHead]
    split_ifs with hc
    · obtain rfl := eq_of_beq hc
      rw [markLines_newline, ← ih]
      cases hparts : cs.splitOn '\n' with
      | nil => exact absurd hparts (List.splitOn_ne_nil _ _)
      | cons part parts => simp [Text.joinWith_cons_cons]
    · rw [markLines_cons cs (by simpa using hc)]
      cases hparts : cs.splitOn '\n' with
      | nil => exact absurd hparts (List.splitOn_ne_nil _ _)
      | cons part parts =>
        rw [hparts] at ih
        cases parts with
        | nil => simpa using ih
        | cons part' parts => simpa [Text.joinWith_cons_cons] using ih

theorem slashes_prefix_iff (ds : List Char) (h : c ≠ '/') :
    "//".toList <+: cs ++ c :: ds ↔ "//".toList <+: cs := by
  have hslashes : "//".toList = ['/', '/'] := rfl
  rw [hslashes]
  cases cs with
  | nil => simp [List.cons_prefix_cons, h.symm]
  | cons a cs =>
    cases cs with
    | nil => simp [List.cons_prefix_cons, h.symm]
    | cons b cs => simp [List.cons_prefix_cons]

/-- The lines of a marked text have marks if the one that is open has and the text keeps them. -/
theorem marked_pieces_iff (hlast : cs.getLast? ≠ some '\r') (line : List Char) :
    (∀ piece ∈ splitLinesFrom line (markLines cs ++ ['\n']), "//".toList <+: piece) ↔
      "//".toList <+: line.reverse ++ cs ∧ KeepsMarks cs := by
  induction cs generalizing line with
  | nil =>
    rw [markLines, List.flatMap_nil, List.nil_append, Text.splitLinesFrom_newline,
      Text.splitLinesFrom_nil]
    simp [keepsMarks_nil]
  | cons c cs ih =>
    have hcs : cs.getLast? ≠ some '\r' := fun h => hlast (by rw [List.getLast?_cons, h]; rfl)
    rw [keepsMarks_cons]
    by_cases hc : isLineBoundary c = true
    · have hslash : c ≠ '/' := by
        rintro rfl
        cases hc
      rw [slashes_prefix_iff cs hslash]
      by_cases hnewline : c = '\n'
      · -- the next line starts with the mark that stands behind the line feed
        subst hnewline
        have hnext := ih hcs [' ', '/', '/']
        rw [markLines_newline, List.cons_append, Text.splitLinesFrom_newline, List.forall_mem_cons]
        refine and_congr Iff.rfl (hnext.trans ?_)
        simp [List.cons_prefix_cons]
      rw [markLines_cons cs hnewline, List.cons_append]
      by_cases hreturn : c = '\r' ∧ cs.head? = some '\n'
      · -- both characters are one boundary, as the second alone would be
        obtain ⟨rfl, hhead⟩ := hreturn
        obtain ⟨ds, rfl⟩ := List.head?_eq_some_iff.1 hhead
        have hnext := ih hcs line
        rw [slashes_prefix_iff ds (by decide)] at hnext
        refine Iff.trans ?_ (hnext.trans (and_congr_right fun _ => ?_))
        · rw [markLines_newline, List.cons_append, Text.splitLinesFrom_return_newline,
            Text.splitLinesFrom_newline]
        · simp
      · have hhead : c = '\r' → (markLines cs ++ ['\n']).head? ≠ some '\n' := by
          rintro rfl
          cases cs with
          | nil => exact absurd rfl hlast
          | cons d ds =>
            have hd : d ≠ '\n' := fun hd => hreturn ⟨rfl, by rw [hd]; rfl⟩
            rw [markLines_cons ds hd]
            simpa using hd
        have hnext := ih hcs []
        rw [Text.splitLinesFrom_boundary hc hhead, List.forall_mem_cons]
        refine and_congr Iff.rfl (hnext.trans ?_)
        simp only [List.reverse_nil, List.nil_append, hc, hnewline, hreturn, false_or, forall_const]
    · have hboundary : isLineBoundary c = false := by simpa using hc
      have hne : c ≠ '\n' := by
        rintro rfl
        exact hc (by decide)
      have hnext := ih hcs (c :: line)
      rw [markLines_cons cs hne, List.cons_append, Text.splitLinesFrom_cons hboundary]
      refine hnext.trans ?_
      simp [hboundary]

end Marks

/-! ### Indented lines -/

/-- Indenting cuts a text at every line boundary and sets tabs before lines that are not empty. -/
theorem lines_indentLines {text : String} {first : List Char} {rest : List (List Char)}
    (hcut : splitLinesFrom [] (text.toList ++ ['\n']) = first :: rest) :
    lines (indentLines text) =
      ('\t' :: first) :: rest.map fun l => if l = [] then [] else '\t' :: l := by
  have hnewline : ∀ l ∈ first :: rest, '\n' ∉ l := fun l hl =>
    Text.newline_not_mem_of_mem_splitLinesFrom (by simp) (hcut ▸ hl)
  rw [List.forall_mem_cons] at hnewline
  have hlines : Text.splitLines (text ++ "\n") = String.ofList first :: rest.map String.ofList := by
    have hchars : (text ++ "\n").toList = text.toList ++ ['\n'] := by simp
    rw [Text.splitLines, hchars, hcut, List.map_cons]
  have hjoin : indentLines text = Text.joinWith "\n" (("\t" ++ String.ofList first) ::
      (rest.map String.ofList).map fun l => if l.isEmpty then l else "\t" ++ l) := by
    rw [indentLines, hlines]
    cases rest with
    | nil => rfl
    | cons second rest => simp only [List.map_cons, Text.joinWith_cons_cons, String.append_assoc]
  have hfirst : lines ("\t" ++ String.ofList first) = ['\t' :: first] := by
    have hchars : ("\t" ++ String.ofList first).toList = '\t' :: first := by simp
    rw [Text.lines_of_not_mem (by simpa using hnewline.1), hchars]
  have hrest : ∀ l ∈ rest, lines (if (String.ofList l).isEmpty then String.ofList l
      else "\t" ++ String.ofList l) = [if l = [] then [] else '\t' :: l] := by
    intro l hl
    have hl := hnewline.2 l hl
    by_cases hempty : l = []
    · rw [hempty]
      rfl
    · have hchars : ("\t" ++ String.ofList l).toList = '\t' :: l := by simp
      rw [if_neg (by simpa using hempty), if_neg hempty, Text.lines_of_not_mem (by simpa using hl),
        hchars]
  rw [hjoin, Text.lines_joinWith (by simp), List.flatMap_cons, hfirst, List.map_map,
    List.flatMap_map, List.map_eq_flatMap]
  exact congrArg _ (List.flatMap_congr hrest)

theorem isBlank_of_isLineBoundary {c : Char} (h : isLineBoundary c = true) : isBlank c = true := by
  simp only [isLineBoundary, Bool.or_eq_true, beq_iff_eq] at h
  rcases h with ((((((((rfl | rfl) | rfl) | rfl) | rfl) | rfl) | rfl) | rfl) | rfl) | rfl <;> decide

/-- The comment of a field has a mark on every line exactly if its text keeps them. -/
theorem marked_commentBlock_iff {field comment : String}
    (hname : IsClean field) (hlast : comment.toList.getLast? ≠ some '\r') :
    (∀ l ∈ lines (commentBlock field comment), "\t//".toList <+: l) ↔ KeepsMarks comment.toList := by
  have hboundary : ∀ c ∈ field.toList, isLineBoundary c = false := by
    intro c hc
    by_contra hb
    have hblank := (hname c hc).1
    rw [isBlank_of_isLineBoundary (by simpa using hb)] at hblank
    cases hblank
  have hchars : (field ++ " - " ++ comment).toList =
      field.toList ++ ([' ', '-', ' '] ++ comment.toList) := by simp
  have hends : (field ++ " - " ++ comment).toList.getLast? ≠ some '\r' := by
    rw [hchars, List.getLast?_append, List.getLast?_append]
    cases hcomment : comment.toList.getLast? with
    | none => simp
    | some c => simpa [hcomment] using hlast
  have hdash : ∀ c ∈ [' ', '-', ' '], isLineBoundary c = false := by
    simp only [List.forall_mem_cons]
    exact ⟨by decide, by decide, by decide, List.forall_mem_nil _⟩
  have hpieces := marked_pieces_iff hends [' ', '/', '/']
  rw [hchars, keepsMarks_append hboundary, keepsMarks_append hdash] at hpieces
  have hmark : "//".toList <+: [' ', '/', '/'].reverse ++
      (field.toList ++ ([' ', '-', ' '] ++ comment.toList)) := ⟨_, rfl⟩
  rw [and_iff_right hmark, ← hchars] at hpieces
  obtain ⟨first, rest, hcut⟩ := List.exists_cons_of_ne_nil
    (Text.splitLinesFrom_ne_nil (List.cons_ne_nil ' ' ['/', '/'])
      (markLines (field ++ " - " ++ comment).toList ++ ['\n']))
  have hblock : splitLinesFrom []
      ((commentLines "//" (field ++ " - " ++ comment)).toList ++ ['\n']) = first :: rest := by
    rw [commentLines_toList, ← hcut]
    rfl
  rw [hcut] at hpieces
  have hslashes : "//".toList = ['/', '/'] := rfl
  have htab : ∀ l, "\t//".toList <+: '\t' :: l ↔ "//".toList <+: l := fun l =>
    List.cons_prefix_cons.trans (and_iff_right rfl)
  rw [← hpieces, commentBlock, lines_indentLines hblock, List.forall_mem_cons,
    List.forall_mem_cons, htab, List.forall_mem_map]
  refine and_congr_right fun _ => forall₂_congr fun l _ => ?_
  split_ifs with hempty
  · simp [hempty]
  · exact htab l

end StructGen.Go
