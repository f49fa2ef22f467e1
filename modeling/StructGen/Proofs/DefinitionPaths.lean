import StructGen.Proofs.References

/-!
# Paths of definitions

A definition is pointed to by the segments of its path, written behind `/definitions/` with slashes
between them. A slash or a tilde inside a segment is escaped, so cutting the pointer at its slashes
and reading every part gives the path back, whatever characters its segments have.

* `Text.replaceAll` replaces a pattern everywhere in a text; `escapeChars_eq_replaceAll` and
  `unescapeChars_eq_replaceAll` say that a segment is written and read by two replacements, one
  after the other;
* `definitionPointer` is the pointer to a definition, which is the one of its place in a document;
* `definitionPath_definitionPointer` is the result.
-/

namespace StructGen

/-! ### Replacing everywhere -/

namespace Text

/-- A text with every occurrence of `old`, which is not empty, replaced, from the left. -/
def replaceAll (old new : List Char) : List Char → List Char
  | [] => []
  | c :: cs =>
    if old.isPrefixOf (c :: cs) then new ++ replaceAll old new (cs.drop (old.length - 1))
    else c :: replaceAll old new cs
  termination_by cs => cs.length
  decreasing_by all_goals grind

variable {old new : List Char} {a b c : Char} {cs : List Char}

@[simp] theorem replaceAll_nil : replaceAll old new [] = [] := by
  rw [replaceAll]

theorem replaceAll_cons (h : ¬ old <+: c :: cs) :
    replaceAll old new (c :: cs) = c :: replaceAll old new cs := by
  rw [replaceAll, if_neg (by simpa using h)]

theorem replaceAll_char (a c : Char) (new cs : List Char) :
    replaceAll [a] new (c :: cs) = (if c = a then new else [c]) ++ replaceAll [a] new cs := by
  by_cases h : c = a
  · rw [replaceAll, if_pos (by simp [h]), if_pos h]
    rfl
  · rw [replaceAll_cons (by simpa using Ne.symm h), if_neg h]
    rfl

theorem replaceAll_pair :
    replaceAll [a, b] new (a :: b :: cs) = new ++ replaceAll [a, b] new cs := by
  rw [replaceAll, if_pos (by simp)]
  rfl

/-- A text that starts with another character than `a` does so after `a` and `b` are replaced. -/
theorem replaceAll_pair_cons (h : c ≠ a) :
    replaceAll [a, b] new (c :: cs) = c :: replaceAll [a, b] new cs :=
  replaceAll_cons fun hpre => h (List.cons_prefix_cons.1 hpre).1.symm

theorem replaceAll_pair_cons_self (h : cs.head? ≠ some b) :
    replaceAll [a, b] new (a :: cs) = a :: replaceAll [a, b] new cs := by
  refine replaceAll_cons fun hpre => ?_
  obtain ⟨ds, rfl⟩ := (List.cons_prefix_cons.1 hpre).2
  exact h rfl

end Text

namespace Pointer

open Text (replaceAll replaceAll_char replaceAll_pair replaceAll_pair_cons
  replaceAll_pair_cons_self)

/-! ### Segments -/

/-- A segment is written with its tildes replaced first and its slashes after them. -/
theorem escapeChars_eq_replaceAll (cs : List Char) :
    escapeChars cs = replaceAll ['/'] ['~', '1'] (replaceAll ['~'] ['~', '0'] cs) := by
  induction cs with
  | nil => simp [escapeChars]
  | cons c cs ih =>
    rw [escapeChars, replaceAll_char, ih]
    split_ifs with htilde hslash
    · simp [replaceAll_char]
    · simp [replaceAll_char, hslash]
    · simp [replaceAll_char, hslash]

/-- Replacing what stands for slashes brings no `0` to the start of a text. -/
theorem head?_replaceAll_slashes {cs : List Char} (h : cs.head? ≠ some '0') :
    (replaceAll ['~', '1'] ['/'] cs).head? ≠ some '0' := by
  cases cs with
  | nil => simp
  | cons c cs =>
    by_cases hpre : ['~', '1'] <+: c :: cs
    · obtain ⟨ds, hds⟩ := hpre
      rw [← hds, List.cons_append, List.cons_append, List.nil_append, replaceAll_pair]
      simp
    · rw [Text.replaceAll_cons hpre]
      exact h

/-- A tilde that no `0` or `1` follows stays as it is. -/
theorem unescapeChars_tilde {cs : List Char} (hone : cs.head? ≠ some '1')
    (hzero : cs.head? ≠ some '0') : unescapeChars ('~' :: cs) = '~' :: unescapeChars cs := by
  rw [unescapeChars]
  · rintro ds - rfl
    exact hone rfl
  · rintro ds - rfl
    exact hzero rfl

/-- A segment is read with its slashes put back first and its tildes after them. -/
theorem unescapeChars_eq_replaceAll (cs : List Char) :
    unescapeChars cs = replaceAll ['~', '0'] ['~'] (replaceAll ['~', '1'] ['/'] cs) := by
  induction hlength : cs.length using Nat.strong_induction_on generalizing cs with
  | _ n ih =>
    cases cs with
    | nil => simp [unescapeChars]
    | cons c cs =>
      rw [List.length_cons] at hlength
      by_cases hc : c = '~'
      · subst hc
        by_cases hone : cs.head? = some '1'
        · obtain ⟨ds, rfl⟩ := List.head?_eq_some_iff.1 hone
          rw [List.length_cons] at hlength
          rw [replaceAll_pair, List.singleton_append, replaceAll_pair_cons (by decide),
            unescapeChars, ih ds.length (by omega) ds rfl]
        · rw [replaceAll_pair_cons_self hone]
          by_cases hzero : cs.head? = some '0'
          · obtain ⟨ds, rfl⟩ := List.head?_eq_some_iff.1 hzero
            rw [List.length_cons] at hlength
            have hslashes : replaceAll ['~', '1'] ['/'] ('0' :: ds) =
                '0' :: replaceAll ['~', '1'] ['/'] ds := replaceAll_pair_cons (by decide)
            rw [hslashes, replaceAll_pair, List.singleton_append, unescapeChars,
              ih ds.length (by omega) ds rfl]
          · -- a tilde alone stays one: no `0` comes to stand behind it
            rw [replaceAll_pair_cons_self (head?_replaceAll_slashes hzero),
              unescapeChars_tilde hone hzero, ih cs.length (by omega) cs rfl]
      · rw [replaceAll_pair_cons hc, replaceAll_pair_cons hc, unescapeChars_cons hc,
          ih cs.length (by omega) cs rfl]

theorem unescape_escape (segment : String) : unescape (escape segment) = segment :=
  unescapeChars_escape segment

/-! ### Pointers -/

/-- The pointer to the definition at a path. -/
def definitionPointer (segments : List String) : String :=
  definitionsStart ++ Text.joinWith "/" (segments.map escape)

/-- The pointer to a definition is the one to its place in a document. -/
theorem ofSegments_definitions {segments : List String} (h : segments ≠ []) :
    ofSegments ("definitions" :: segments) = definitionPointer segments := by
  have hstart : ∀ (pointer segment : String) (segments : List String),
      (segment :: segments).foldl child pointer =
        pointer ++ "/" ++ Text.joinWith "/" ((segment :: segments).map escape) := by
    intro pointer segment segments
    induction segments generalizing pointer segment with
    | nil => rfl
    | cons next segments ih =>
      rw [List.foldl_cons, ih, child]
      simp only [List.map_cons, Text.joinWith_cons_cons, String.append_assoc]
  cases segments with
  | nil => exact absurd rfl h
  | cons segment segments =>
    have hdefinitions : child "" "definitions" ++ "/" = definitionsStart := by decide
    rw [ofSegments, List.foldl_cons, hstart, hdefinitions, definitionPointer]

/-- Segments that are joined by slashes are the parts between the slashes. -/
theorem splitOn_joinWith {segments : List String} (h : segments ≠ []) :
    (Text.joinWith "/" (segments.map escape)).toList.splitOn '/' =
      segments.map fun segment => (escape segment).toList := by
  induction segments with
  | nil => exact absurd rfl h
  | cons segment segments ih =>
    have hfirst : (escape segment).toList.splitOn '/' = [(escape segment).toList] :=
      List.splitOn_eq_singleton (slash_not_mem_escape segment)
    cases segments with
    | nil => exact hfirst
    | cons next segments =>
      have hchars : (Text.joinWith "/" ((segment :: next :: segments).map escape)).toList =
          (escape segment).toList ++
            '/' :: (Text.joinWith "/" ((next :: segments).map escape)).toList := by
        simp [Text.joinWith_cons_cons]
      rw [hchars, List.splitOn_append_cons_self, hfirst, ih (List.cons_ne_nil _ _)]
      rfl

/-- Reading the pointer to a definition gives its path. -/
theorem definitionPath_of_pointer {segments : List String} (h : segments ≠ []) :
    definitionPath (definitionPointer segments) = .ok segments := by
  have hchars : (definitionPointer segments).toList =
      definitionsStart.toList ++ (Text.joinWith "/" (segments.map escape)).toList := by
    rw [definitionPointer, String.toList_append]
  have hstart : definitionsStart.length = definitionsStart.toList.length := rfl
  rw [definitionPath, if_pos (by simp [hchars]), hchars, hstart, List.drop_left,
    splitOn_joinWith h, List.map_map]
  congr 1
  conv_rhs => rw [← List.map_id segments]
  exact List.map_congr_left fun segment _ => unescape_escape segment

/-- **Paths of definitions are read as they are written.** The pointer to the definition at a path,
which is the place of that path below `definitions`, has this path; a segment is written and read
by two replacements that undo each other; and no other path has the same pointer. -/
theorem definitionPath_definitionPointer (segments : List String) (h : segments ≠ []) :
    definitionPath (definitionPointer segments) = .ok segments ∧
    definitionPointer segments = ofSegments ("definitions" :: segments) ∧
    (∀ segment, unescape (escape segment) = segment) ∧
    (∀ segment, (escape segment).toList =
      replaceAll ['/'] ['~', '1'] (replaceAll ['~'] ['~', '0'] segment.toList)) ∧
    (∀ segment, (unescape segment).toList =
      replaceAll ['~', '0'] ['~'] (replaceAll ['~', '1'] ['/'] segment.toList)) ∧
    ∀ others, others ≠ [] → others ≠ segments →
      definitionPointer others ≠ definitionPointer segments := by
  refine ⟨definitionPath_of_pointer h, (ofSegments_definitions h).symm, unescape_escape, ?_, ?_, ?_⟩
  · intro segment
    rw [escape, String.toList_ofList, escapeChars_eq_replaceAll]
  · intro segment
    rw [unescape, String.toList_ofList, unescapeChars_eq_replaceAll]
  · intro others hothers hne hpointer
    have hpath := definitionPath_of_pointer hothers
    rw [hpointer, definitionPath_of_pointer h] at hpath
    exact hne (Except.ok.inj hpath).symm

theorem definitionPath_of_slashes :
    ["a/b~1", "", "~0"] ≠ [] ∧
      definitionPath (definitionPointer ["a/b~1", "", "~0"]) = .ok ["a/b~1", "", "~0"] ∧
      definitionPointer ["a/b~1", "", "~0"] = "/definitions/a~1b~01//~00" :=
  ⟨by decide, (definitionPath_definitionPointer _ (by decide)).1, by decide⟩

end Pointer

end StructGen
