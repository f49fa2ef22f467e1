import StructGen.Naming.Initialism
import StructGen.Proofs.Lines
import StructGen.Proofs.NameCharacters

/-!
# Camel case of joined names

The name of a type is the camel case of a path whose segments are joined by underscores. Camel case
reads a text letter by letter and remembers only whether the next letter starts a word. The last
character decides that, so an underscore leads back to the start, and what stands behind it is put
in camel case as if it stood alone.

* `camelFrom_cons` is one step; what is remembered after it does not depend on what was before;
* `camelChars_eq` says that only the blanks before a text have to be stripped;
* `camel_joined` is the result, for two names and for a path.
-/

namespace StructGen

namespace Text

/-- Whether a text begins with a blank. -/
def StartsBlank (s : String) : Prop := s.toList.head?.any isBlank = true

instance (s : String) : Decidable (StartsBlank s) :=
  inferInstanceAs (Decidable (s.toList.head?.any isBlank = true))

theorem dropWhile_of_not_startsBlank {s : String} (h : ¬ StartsBlank s) :
    s.toList.dropWhile isBlank = s.toList := by
  unfold StartsBlank at h
  cases hs : s.toList with
  | nil => rfl
  | cons c cs =>
    rw [hs] at h
    exact List.dropWhile_cons_of_neg h

/-- A joined text begins with a blank only if its first part does. -/
theorem startsBlank_of_joinWith {part : String} {parts : List String}
    (h : StartsBlank (joinWith "_" (part :: parts))) : StartsBlank part := by
  cases parts with
  | nil => exact h
  | cons next parts =>
    unfold StartsBlank at h ⊢
    rw [joinWith_cons_cons, String.append_assoc, String.toList_append] at h
    cases hpart : part.toList with
    | nil =>
      rw [hpart] at h
      exact absurd (show isBlank '_' = true by simpa using h) (by decide)
    | cons c cs =>
      rw [hpart] at h
      exact h

end Text

namespace Naming

open Text (isBlank dropTrailing StartsBlank)

/-! ### Steps of camel case -/

/-- What is left of a character, `cap` telling whether it starts a word. -/
def camelChar (cap : Bool) (c : Char) : List Char :=
  if c.isUpper then [c]
  else if c.isLower then [if cap then c.toUpper else c]
  else if c.isDigit then [c]
  else []

/-- Whether a letter after a character starts a word. -/
def endsWord (c : Char) : Bool := c.isDigit || isWordSeparator c

theorem endsWord_of_isAlpha {c : Char} (h : c.isAlpha = true) : endsWord c = false := by
  have hseparator : isWordSeparator c = false := by
    simp only [isWordSeparator, Bool.or_eq_false_iff, beq_eq_false_iff_ne]
    refine ⟨⟨⟨?_, ?_⟩, ?_⟩, ?_⟩ <;> rintro rfl <;> cases h
  rw [endsWord, isDigit_of_isAlpha h, hseparator, Bool.or_self]

theorem camelFrom_cons (cap : Bool) (c : Char) (cs : List Char) :
    camelFrom cap (c :: cs) = camelChar cap c ++ camelFrom (endsWord c) cs := by
  rw [camelFrom, camelChar]
  split_ifs with hupper hlower hcap hdigit
  · rw [endsWord_of_isAlpha (by simp [Char.isAlpha, hupper]), List.singleton_append]
  · rw [endsWord_of_isAlpha (by simp [Char.isAlpha, hlower]), List.singleton_append]
  · rw [endsWord_of_isAlpha (by simp [Char.isAlpha, hlower]), List.singleton_append]
  · rw [endsWord, hdigit, Bool.true_or, List.singleton_append]
  · rw [endsWord, eq_false_of_ne_true hdigit, Bool.false_or, List.nil_append]

/-- An underscore leads back to the start, whatever stands before it. -/
theorem camelFrom_append_underscore (cap : Bool) (cs ds : List Char) :
    camelFrom cap (cs ++ '_' :: ds) = camelFrom cap cs ++ camelFrom true ds := by
  induction cs generalizing cap with
  | nil => rfl
  | cons c cs ih => rw [List.cons_append, camelFrom_cons, ih, camelFrom_cons, List.append_assoc]

theorem camelChar_of_isBlank {c : Char} (h : isBlank c = true) (cap : Bool) :
    camelChar cap c = [] := by
  have hname : isNameChar c = false := by
    refine eq_false_of_ne_true fun hname => ?_
    rw [isBlank_of_isNameChar hname] at h
    cases h
  simp only [isNameChar, Char.isAlphanum, Char.isAlpha, Bool.or_eq_false_iff] at hname
  simp [camelChar, hname]

theorem camelFrom_append_blank {c : Char} (h : isBlank c = true) (cap : Bool) (cs : List Char) :
    camelFrom cap (cs ++ [c]) = camelFrom cap cs := by
  induction cs generalizing cap with
  | nil => rw [List.nil_append, camelFrom_cons, camelChar_of_isBlank h, camelFrom_nil, camelFrom_nil,
      List.nil_append]
  | cons d cs ih => rw [List.cons_append, camelFrom_cons, ih, camelFrom_cons]

/-- Blanks at the end of a text leave nothing. -/
theorem camelFrom_dropTrailing (cap : Bool) (cs : List Char) :
    camelFrom cap (dropTrailing isBlank cs) = camelFrom cap cs := by
  -- blanks are dropped from the end, so the induction goes that way
  induction cs using List.reverseRecOn with
  | nil => rfl
  | append_singleton cs c ih =>
    by_cases hc : isBlank c = true
    · rw [camelFrom_append_blank hc, ← ih]
      exact congrArg (camelFrom cap) (List.rdropWhile_concat_pos _ _ _ hc)
    · exact congrArg (camelFrom cap) (List.rdropWhile_concat_neg _ _ _ hc)

theorem camelChars_eq (cs : List Char) : camelChars cs = camelFrom true (cs.dropWhile isBlank) :=
  camelFrom_dropTrailing true _

/-! ### Joined names -/

theorem camel_append_underscore (a : String) {b : String} (h : ¬ StartsBlank b) :
    camel (a ++ "_" ++ b) = camel a ++ camel b := by
  have hchars : (a ++ "_" ++ b).toList = a.toList ++ '_' :: b.toList := by simp
  refine String.toList_inj.1 ?_
  rw [String.toList_append, camel_toList, camel_toList, camel_toList, hchars, camelChars_eq,
    camelChars_eq, camelChars_eq, Text.dropWhile_of_not_startsBlank h, List.dropWhile_append]
  split_ifs with hblank
  · -- only blanks stand before the underscore
    rw [List.isEmpty_iff.1 hblank]
    rfl
  · exact camelFrom_append_underscore true _ _

theorem camel_joinWith {path : List String} (h : ∀ s ∈ path.tail, ¬ StartsBlank s) :
    camel (Text.joinWith "_" path) = String.join (path.map camel) := by
  induction path with
  | nil => rfl
  | cons s path ih =>
    cases path with
    | nil => simp
    | cons next path =>
      obtain ⟨hnext, hpath⟩ := List.forall_mem_cons.1 h
      rw [Text.joinWith_cons_cons,
        camel_append_underscore s (mt Text.startsBlank_of_joinWith hnext), ih hpath,
        ← String.join_cons, ← List.map_cons]

/-- **Camel case is compositional.** Two names joined by an underscore have the camel case of the one
followed by that of the other, whatever the first one ends in, unless the second one begins with a
blank. So a joined path has the camel case of its segments one after another. -/
theorem camel_joined :
    (∀ a b : String, ¬ StartsBlank b → camel (a ++ "_" ++ b) = camel a ++ camel b) ∧
    ∀ path : List String, (∀ s ∈ path.tail, ¬ StartsBlank s) →
      camel (Text.joinWith "_" path) = String.join (path.map camel) :=
  ⟨fun a _ hb => camel_append_underscore a hb, fun _ hpath => camel_joinWith hpath⟩

theorem camel_joined_stops :
    ¬ StartsBlank "2nd stop\t" ∧
      camel ("\ttrip\u00a0" ++ "_" ++ "2nd stop\t") = camel "\ttrip\u00a0" ++ camel "2nd stop\t" ∧
    (∀ s ∈ [" trip-1", "", "stops ", "v2\tid"].tail, ¬ StartsBlank s) ∧
      camel (Text.joinWith "_" [" trip-1", "", "stops ", "v2\tid"]) =
        String.join ([" trip-1", "", "stops ", "v2\tid"].map camel) := by
  have hstop : ¬ StartsBlank "2nd stop\t" := by decide +kernel
  have hpath : ∀ s ∈ [" trip-1", "", "stops ", "v2\tid"].tail, ¬ StartsBlank s := by decide +kernel
  exact ⟨hstop, camel_joined.1 _ _ hstop, hpath, camel_joined.2 _ hpath⟩

/-- A tab behind the underscore stays, where it would be stripped from a name that stands alone. -/
example : camel "trip_\tid" = "Tripid" ∧ camel "\tid" = "Id" := by decide +kernel

end Naming

end StructGen
