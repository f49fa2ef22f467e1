import StructGen.Text.Blank
import StructGen.Text.Lines
import Mathlib.Data.List.DropRight
import Mathlib.Tactic

/-!
# Lines, blanks and words of texts

A text that is put together from lines has these lines again when it is cut. Stripping leaves alone
what starts and ends in a character that is no blank, and words that hold no blank are found again.

* `lines_unlines` cuts texts that are each ended by a line feed;
* `splitLinesFrom_cons` and `splitLinesFrom_boundary` follow the cutting at all line boundaries;
* `stripChars_eq_self`, `words_append_cons` and `words_of_isSolid` are about single lines;
* `flatten_words` says that words are what is left of a text without blanks.
-/

namespace StructGen.Text

/-! ### Lines -/

section Split

variable {sep : Char} {cs : List Char}

/-- The parts of a text hold its characters other than the separator. -/
theorem mem_of_mem_splitOn {part : List Char} {c : Char} (h : part ∈ cs.splitOn sep)
    (hc : c ∈ part) : c ∈ cs ∧ c ≠ sep := by
  induction cs generalizing part with
  | nil => simp_all
  | cons d cs ih =>
    rw [List.splitOn_cons_eq_if_modifyHead] at h
    split_ifs at h with hd
    · rcases List.mem_cons.1 h with rfl | h
      · cases hc
      · exact (ih h hc).imp_left (List.mem_cons_of_mem _)
    · cases hparts : cs.splitOn sep with
      | nil => exact absurd hparts (List.splitOn_ne_nil sep cs)
      | cons first parts =>
        rw [hparts] at h ih
        rcases List.mem_cons.1 h with rfl | h
        · rcases List.mem_cons.1 hc with rfl | hc
          · exact ⟨List.mem_cons_self, by simpa using hd⟩
          · exact (ih List.mem_cons_self hc).imp_left (List.mem_cons_of_mem _)
        · exact (ih (List.mem_cons_of_mem _ h) hc).imp_left (List.mem_cons_of_mem _)

theorem exists_mem_splitOn {c : Char} (h : c ∈ cs) (hc : c ≠ sep) :
    ∃ part ∈ cs.splitOn sep, c ∈ part := by
  induction cs with
  | nil => cases h
  | cons d cs ih =>
    rw [List.splitOn_cons_eq_if_modifyHead]
    split_ifs with hd
    · rcases List.mem_cons.1 h with rfl | h
      · exact absurd (eq_of_beq hd) hc
      · obtain ⟨part, hpart, hmem⟩ := ih h
        exact ⟨part, List.mem_cons_of_mem _ hpart, hmem⟩
    · cases hparts : cs.splitOn sep with
      | nil => exact absurd hparts (List.splitOn_ne_nil sep cs)
      | cons first parts =>
        rw [hparts] at ih
        rcases List.mem_cons.1 h with rfl | h
        · exact ⟨c :: first, List.mem_cons_self, List.mem_cons_self⟩
        · obtain ⟨part, hpart, hmem⟩ := ih h
          rcases List.mem_cons.1 hpart with rfl | hpart
          · exact ⟨d :: part, List.mem_cons_self, List.mem_cons_of_mem _ hmem⟩
          · exact ⟨part, List.mem_cons_of_mem _ hpart, hmem⟩

end Split

/-- The lines of a text. -/
def lines (s : String) : List (List Char) := s.toList.splitOn '\n'

theorem lines_of_not_mem {s : String} (h : '\n' ∉ s.toList) : lines s = [s.toList] :=
  List.splitOn_eq_singleton h

theorem lines_ne_nil (s : String) : lines s ≠ [] := List.splitOn_ne_nil _ _

@[simp] theorem unlines_nil : unlines [] = "" := rfl

@[simp] theorem unlines_cons (text : String) (texts : List String) :
    unlines (text :: texts) = text ++ ("\n" ++ unlines texts) := by
  simp [unlines, String.append_assoc]

@[simp] theorem unlines_append (texts texts' : List String) :
    unlines (texts ++ texts') = unlines texts ++ unlines texts' := by
  induction texts with
  | nil => simp
  | cons text texts ih => simp [ih, String.append_assoc]

theorem lines_append_newline (s t : String) : lines (s ++ ("\n" ++ t)) = lines s ++ lines t := by
  rw [lines, String.toList_append, String.toList_append]
  exact List.splitOn_append_cons_self s.toList t.toList

/-- Texts that are ended by line feeds are cut into their lines, and an empty one after the last
line feed. -/
theorem lines_unlines (texts : List String) : lines (unlines texts) = texts.flatMap lines ++ [[]] := by
  induction texts with
  | nil => rfl
  | cons text texts ih => rw [unlines_cons, lines_append_newline, ih, List.flatMap_cons, List.append_assoc]

/-- Texts with line feeds between them are cut into their lines. -/
theorem lines_joinWith {parts : List String} (h : parts ≠ []) :
    lines (joinWith "\n" parts) = parts.flatMap lines := by
  induction parts with
  | nil => exact absurd rfl h
  | cons part parts ih =>
    cases parts with
    | nil => simp
    | cons next parts =>
      rw [joinWith_cons_cons, String.append_assoc, lines_append_newline, ih (by simp)]
      rfl

theorem joinWith_append_newline {parts : List String} (h : parts ≠ []) :
    joinWith "\n" parts ++ "\n" = unlines parts := by
  induction parts with
  | nil => exact absurd rfl h
  | cons part parts ih =>
    cases parts with
    | nil => simp
    | cons next parts =>
      rw [joinWith_cons_cons, String.append_assoc, String.append_assoc, ih (by simp), unlines_cons part]

/-- The last of some texts without the line feed that ends it. -/
theorem lines_dropEnd_unlines (texts : List String) {text : String} {c : Char}
    (hlast : text.toList.getLast? = some c) (hc : c ≠ '\n') :
    lines (dropEnd (unlines (texts ++ [text])) '\n') = (texts ++ [text]).flatMap lines := by
  obtain ⟨ds, hds⟩ := List.getLast?_eq_some_iff.1 hlast
  have hchars : (unlines (texts ++ [text])).toList =
      (unlines texts).toList ++ ds ++ [c] ++ ['\n'] := by
    simp [hds]
  have hdrop : dropEnd (unlines (texts ++ [text])) '\n' =
      String.ofList ((unlines texts).toList ++ text.toList) := by
    rw [dropEnd, hchars, dropTrailing, ← List.rdropWhile]
    rw [List.rdropWhile_concat_pos _ _ _ (by simp), List.rdropWhile_concat_neg _ _ _ (by simpa using hc)]
    rw [hds, List.append_assoc]
  have hunlines : ∀ texts : List String,
      lines (unlines texts ++ text) = texts.flatMap lines ++ lines text := by
    intro texts
    induction texts with
    | nil => simp
    | cons first texts ih =>
      rw [unlines_cons, String.append_assoc, String.append_assoc, lines_append_newline, ih,
        List.flatMap_cons, List.append_assoc]
  rw [hdrop, String.ofList_append, String.ofList_toList, String.ofList_toList, hunlines,
    List.flatMap_append]
  simp

theorem splitLinesFrom_nil : splitLinesFrom [] [] = [] := rfl

theorem splitLinesFrom_newline (line cs : List Char) :
    splitLinesFrom line ('\n' :: cs) = line.reverse :: splitLinesFrom [] cs := rfl

theorem splitLinesFrom_cons {c : Char} (h : isLineBoundary c = false) (line cs : List Char) :
    splitLinesFrom line (c :: cs) = splitLinesFrom (c :: line) cs := by
  rw [splitLinesFrom.eq_def]
  split
  · rename_i heq
    cases heq
  · rename_i heq
    cases heq
    cases h
  · rename_i heq
    cases heq
    rw [h]
    rfl

theorem splitLinesFrom_return_newline (line cs : List Char) :
    splitLinesFrom line ('\r' :: '\n' :: cs) = line.reverse :: splitLinesFrom [] cs := rfl

theorem splitLinesFrom_boundary {c : Char} {cs : List Char} (h : isLineBoundary c = true)
    (hreturn : c = '\r' → cs.head? ≠ some '\n') (line : List Char) :
    splitLinesFrom line (c :: cs) = line.reverse :: splitLinesFrom [] cs := by
  rw [splitLinesFrom.eq_def]
  split
  · rename_i heq
    cases heq
  · rename_i heq
    cases heq
    exact absurd rfl (hreturn rfl)
  · rename_i heq
    cases heq
    rw [if_pos h]

theorem newline_not_mem_of_mem_splitLinesFrom {line cs piece : List Char} (hline : '\n' ∉ line)
    (h : piece ∈ splitLinesFrom line cs) : '\n' ∉ piece := by
  fun_induction splitLinesFrom line cs with
  | case1 line hempty => cases h
  | case2 line hempty =>
    rw [List.mem_singleton.1 h]
    simpa using hline
  | case3 line cs ih =>
    rcases List.mem_cons.1 h with rfl | h
    · simpa using hline
    · exact ih (by simp) h
  | case4 line c cs hc hboundary ih =>
    rcases List.mem_cons.1 h with rfl | h
    · simpa using hline
    · exact ih (by simp) h
  | case5 line c cs hc hboundary ih =>
    refine ih ?_ h
    have hne : '\n' ≠ c := by
      rintro rfl
      exact hboundary (by decide)
    simpa [hne] using hline

theorem splitLinesFrom_ne_nil {line : List Char} (h : line ≠ []) (cs : List Char) :
    splitLinesFrom line cs ≠ [] := by
  fun_induction splitLinesFrom line cs with
  | case1 line hempty => exact absurd (List.isEmpty_iff.1 hempty) h
  | case2 line hempty => simp
  | case3 line cs ih => simp
  | case4 line c cs hc hboundary ih => simp
  | case5 line c cs hc hboundary ih => exact ih (by simp)

/-! ### Blanks -/

section Blanks

variable {p : Char → Bool} {c d : Char} {cs ds : List Char}

theorem dropTrailing_append_cons (cs ds : List Char) (h : p c = false) :
    dropTrailing p (cs ++ c :: ds) = cs ++ c :: dropTrailing p ds := by
  have hreverse : (cs ++ c :: ds).reverse = ds.reverse ++ c :: cs.reverse := by simp
  rw [dropTrailing, dropTrailing, hreverse, List.dropWhile_append]
  split_ifs with hds
  · rw [List.dropWhile_cons_of_neg (by simp [h]), List.isEmpty_iff.1 hds]
    simp
  · simp

theorem dropTrailing_cons (ds : List Char) (h : p c = false) :
    dropTrailing p (c :: ds) = c :: dropTrailing p ds :=
  dropTrailing_append_cons [] ds h

@[simp] theorem dropTrailing_nil : dropTrailing p [] = [] := rfl

theorem mem_of_mem_dropTrailing (h : c ∈ dropTrailing p cs) : c ∈ cs :=
  (List.rdropWhile_prefix p cs).subset h

/-- Stripping a text that is blank up to a character and ends in another one. -/
theorem stripChars_append_cons (hcs : ∀ b ∈ cs, isBlank b = true) (hc : isBlank c = false) :
    stripChars (cs ++ c :: ds) = c :: dropTrailing isBlank ds := by
  rw [stripChars, List.dropWhile_append_of_pos hcs, List.dropWhile_cons_of_neg (by simp [hc]),
    dropTrailing_cons ds hc]

theorem stripChars_cons (ds : List Char) (hc : isBlank c = false) :
    stripChars (c :: ds) = c :: dropTrailing isBlank ds :=
  stripChars_append_cons (List.forall_mem_nil _) hc

theorem stripChars_cons_of_blank (ds : List Char) (hc : isBlank c = true) :
    stripChars (c :: ds) = stripChars ds := by
  rw [stripChars, List.dropWhile_cons_of_pos hc, stripChars]

/-- Of a text that starts in a character other than a blank, blanks are stripped at the end. -/
theorem stripChars_cons_append_cons (cs ds : List Char) (hc : isBlank c = false)
    (hd : isBlank d = false) :
    stripChars (c :: (cs ++ d :: ds)) = c :: (cs ++ d :: dropTrailing isBlank ds) := by
  rw [stripChars_cons _ hc, dropTrailing_append_cons cs ds hd]

/-- Nothing is stripped of a text that starts and ends in characters other than blanks. -/
theorem stripChars_eq_self (hhead : cs.head? = some c) (hc : isBlank c = false)
    (hlast : cs.getLast? = some d) (hd : isBlank d = false) : stripChars cs = cs := by
  have hdrop : cs.dropWhile isBlank = cs := by
    obtain ⟨ds, rfl⟩ := List.head?_eq_some_iff.1 hhead
    exact List.dropWhile_cons_of_neg (by simp [hc])
  obtain ⟨ds, rfl⟩ := List.getLast?_eq_some_iff.1 hlast
  rw [stripChars, hdrop, dropTrailing_append_cons ds [] hd, dropTrailing_nil]

theorem stripChars_stripChars (cs : List Char) : stripChars (stripChars cs) = stripChars cs := by
  cases h : cs.dropWhile isBlank with
  | nil =>
    have hstrip : stripChars cs = [] := by rw [stripChars, h]; rfl
    rw [hstrip, stripChars_nil]
  | cons c ds =>
    have hc : isBlank c = false := by
      have := List.head?_dropWhile_not isBlank cs
      simpa [h] using this
    have hstrip : stripChars cs = c :: dropTrailing isBlank ds := by
      rw [stripChars, h, dropTrailing_cons ds hc]
    rw [hstrip, stripChars_cons _ hc]
    congr 1
    exact List.rdropWhile_idempotent isBlank ds

/-- A stripped text does not end in a blank. -/
theorem isBlank_of_getLast?_stripChars (h : (stripChars cs).getLast? = some c) :
    isBlank c = false := by
  have hne : stripChars cs ≠ [] := fun hnil => by simp [hnil] at h
  rw [List.getLast?_eq_some_getLast hne] at h
  rw [← Option.some.inj h]
  exact eq_false_of_ne_true (List.rdropWhile_last_not isBlank (cs.dropWhile isBlank) hne)

theorem mem_of_mem_stripChars (h : c ∈ stripChars cs) : c ∈ cs :=
  (List.dropWhile_sublist isBlank).mem (mem_of_mem_dropTrailing h)

/-- Stripping takes away blanks only. -/
theorem mem_stripChars (h : c ∈ cs) (hc : isBlank c = false) : c ∈ stripChars cs := by
  have hdrop : ∀ {cs : List Char}, c ∈ cs → c ∈ cs.dropWhile isBlank := by
    intro cs h
    rw [← List.takeWhile_append_dropWhile (p := isBlank) (l := cs)] at h
    refine (List.mem_append.1 h).resolve_left fun htake => ?_
    rw [List.mem_takeWhile_imp htake] at hc
    cases hc
  rw [stripChars, dropTrailing, List.mem_reverse]
  exact hdrop (List.mem_reverse.2 (hdrop h))

/-! ### Words -/

/-- A text without blanks. -/
def IsSolid (cs : List Char) : Prop := ∀ c ∈ cs, isBlank c = false

instance (cs : List Char) : Decidable (IsSolid cs) :=
  decidable_of_iff (cs.all (!isBlank ·) = true) (by simp [IsSolid])

theorem IsSolid.newline_not_mem (h : IsSolid cs) : '\n' ∉ cs := fun hmem =>
  absurd (h _ hmem) (by decide)

theorem stripChars_of_isSolid (h : IsSolid cs) : stripChars cs = cs := by
  cases cs with
  | nil => rfl
  | cons c cs =>
    have hlast := List.getLast?_eq_getLast_of_ne_nil (List.cons_ne_nil c cs)
    exact stripChars_eq_self rfl (h c List.mem_cons_self) hlast (h _ (List.getLast_mem _))

theorem wordsFrom_append (word : List Char) (h : IsSolid cs) :
    wordsFrom word (cs ++ ds) = wordsFrom (cs.reverse ++ word) ds := by
  induction cs generalizing word with
  | nil => rfl
  | cons c cs ih =>
    have hc : isBlank c = false := h c List.mem_cons_self
    rw [List.cons_append, wordsFrom, if_neg (by simp [hc]),
      ih _ fun d hd => h d (List.mem_cons_of_mem c hd)]
    simp

theorem words_cons_of_blank (ds : List Char) (hc : isBlank c = true) :
    words (c :: ds) = words ds := by
  rw [words, wordsFrom, if_pos hc]
  rfl

/-- Of a text that starts with a word, blanks are stripped at the end. -/
theorem stripChars_word_append (mid ds : List Char) (hcs : IsSolid cs) (hne : cs ≠ [])
    (hd : isBlank d = false) :
    stripChars (cs ++ (mid ++ d :: ds)) = cs ++ (mid ++ d :: dropTrailing isBlank ds) := by
  obtain ⟨c, cs, rfl⟩ := List.exists_cons_of_ne_nil hne
  have h := stripChars_cons_append_cons (cs ++ mid) ds (hcs c List.mem_cons_self) hd
  simpa using h

/-- Nothing is stripped of a text that ends in a word. -/
theorem stripChars_append_word (hhead : cs.head? = some c) (hc : isBlank c = false)
    (hds : IsSolid ds) (hne : ds ≠ []) : stripChars (cs ++ ds) = cs ++ ds := by
  have hlast := List.getLast?_eq_some_getLast hne
  refine stripChars_eq_self (c := c) ?_ hc ?_ (hds _ (List.mem_of_getLast? hlast))
  · rw [List.head?_append, hhead]
    rfl
  · rw [List.getLast?_append, hlast]
    rfl

/-- A word with a blank behind it. -/
theorem words_append_cons (ds : List Char) (hcs : IsSolid cs) (hne : cs ≠ [])
    (hc : isBlank c = true) : words (cs ++ c :: ds) = cs :: words ds := by
  rw [words, wordsFrom_append [] hcs, wordsFrom, if_pos hc]
  simp [hne, words]

/-- A word that ends the text. -/
theorem words_of_isSolid (hcs : IsSolid cs) (hne : cs ≠ []) : words cs = [cs] := by
  have h : wordsFrom [] (cs ++ []) = wordsFrom (cs.reverse ++ []) [] := wordsFrom_append [] hcs
  rw [List.append_nil] at h
  rw [words, h]
  simp [wordsFrom, hne]

theorem isSolid_of_mem_wordsFrom {word w : List Char} (hword : IsSolid word)
    (h : w ∈ wordsFrom word cs) : IsSolid w := by
  have hreverse : IsSolid word.reverse := fun c hc => hword c (List.mem_reverse.1 hc)
  induction cs generalizing word with
  | nil =>
    rw [wordsFrom] at h
    split_ifs at h
    · cases h
    · rwa [List.mem_singleton.1 h]
  | cons c cs ih =>
    have hnil : IsSolid [] := fun _ hc => nomatch hc
    rw [wordsFrom] at h
    split_ifs at h with hc hempty
    · exact ih hnil h hnil
    · rcases List.mem_cons.1 h with rfl | h
      · exact hreverse
      · exact ih hnil h hnil
    · have hcons : IsSolid (c :: word) := List.forall_mem_cons.2 ⟨by simpa using hc, hword⟩
      exact ih hcons h fun d hd => hcons d (List.mem_reverse.1 hd)

/-- Words hold no blanks. -/
theorem isSolid_of_mem_words {w : List Char} (h : w ∈ words cs) : IsSolid w :=
  isSolid_of_mem_wordsFrom (by simp [IsSolid]) h

theorem wordsFrom_append_blank (word : List Char) (hc : isBlank c = true) :
    wordsFrom word (cs ++ c :: ds) = wordsFrom word cs ++ words ds := by
  induction cs generalizing word with
  | nil =>
    simp only [List.nil_append, wordsFrom, hc, if_true]
    split_ifs <;> rfl
  | cons b cs ih =>
    rw [List.cons_append, wordsFrom, wordsFrom]
    split_ifs
    · exact ih []
    · rw [ih, List.cons_append]
    · exact ih _

theorem words_append_blank (cs ds : List Char) (hc : isBlank c = true) :
    words (cs ++ c :: ds) = words cs ++ words ds := wordsFrom_append_blank [] hc

theorem exists_wordsFrom_cons (b : Char) (word cs : List Char) :
    ∃ u ws, wordsFrom (word ++ [b]) cs = (b :: u) :: ws := by
  induction cs generalizing word with
  | nil => exact ⟨word.reverse, [], by simp [wordsFrom]⟩
  | cons c cs ih =>
    rw [wordsFrom]
    split_ifs with hc hempty
    · simp at hempty
    · exact ⟨word.reverse, wordsFrom [] cs, by simp⟩
    · exact ih (c :: word)

/-- A character other than a blank starts a word. -/
theorem exists_words_cons (cs : List Char) (hc : isBlank c = false) :
    ∃ u ws, words (c :: cs) = (c :: u) :: ws := by
  rw [words, wordsFrom, if_neg (by simp [hc])]
  exact exists_wordsFrom_cons c [] cs

theorem flatten_wordsFrom (word cs : List Char) :
    (wordsFrom word cs).flatten = word.reverse ++ cs.filter (!isBlank ·) := by
  induction cs generalizing word with
  | nil =>
    rw [wordsFrom]
    split_ifs with hword
    · simp [List.isEmpty_iff.1 hword]
    · simp
  | cons c cs ih =>
    rw [wordsFrom]
    split_ifs with hc hword
    · simp [ih, hc, List.isEmpty_iff.1 hword]
    · simp [ih, hc]
    · simp [ih, hc]

/-- The words of a text are the text without its blanks. -/
theorem flatten_words (cs : List Char) : (words cs).flatten = cs.filter (!isBlank ·) :=
  flatten_wordsFrom [] cs

/-- A character other than a blank stands in a text if it stands in one of its words. -/
theorem mem_flatten_words (hc : isBlank c = false) : c ∈ (words cs).flatten ↔ c ∈ cs := by
  simp [flatten_words, hc]

end Blanks

end StructGen.Text
