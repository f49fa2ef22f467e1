import StructGen.CommandLine.Run
import StructGen.Proofs.GeneratedSource
import StructGen.Proofs.KeptLines

/-!
# What a run of the command line leaves behind

Nearly all that can fail in a run comes before the only thing that it delivers. A run that makes
models puts them, and nothing else, into the file that its settings name, or else on the standard
output. A run that does not succeed has printed nothing. It has touched no file either, unless its
models have half of a surrogate pair: the file is then opened before it turns out that the models
have no octets, and is left empty.

* `Plane.HasSurrogate` tells which texts have no octets, and `hasSurrogate_code_iff` that those of
  the declarations decide about the code;
* `FileTree.write_cases` tells what writing a file does to a tree;
* `Outcome.LeavesNothing`, `Outcome.LeavesEmpty` and `Outcome.Delivers` are the ways for a run to
  end;
* `run_cases` goes through the stages of a run;
* `run_outcomes` is the result.
-/

namespace StructGen

/-! ### Texts without octets -/

namespace Text.Plane

variable {p : Plane} {c : Char} {text : String} {octets : List UInt8}

/-- A text has half of a surrogate pair. -/
def HasSurrogate (p : Plane) (text : String) : Prop :=
  ∃ c ∈ text.toList, (p.surrogate? c).isSome = true

theorem encode?_eq_none_iff : p.encode? text = none ↔ p.HasSurrogate text := by
  simp [encode?, HasSurrogate, Option.isSome_iff_ne_none]

theorem encode?_eq_some_iff :
    p.encode? text = some octets ↔ ¬ p.HasSurrogate text ∧ text.toUTF8.toList = octets := by
  simp [encode?, HasSurrogate]

/-- What stands for a surrogate is no blank: all blanks are in the first plane. -/
theorem isBlank_of_surrogate? (h : (p.surrogate? c).isSome = true) : isBlank c = false := by
  refine Bool.eq_false_iff.2 fun hblank => ?_
  obtain ⟨range, hrange, hwithin⟩ := List.any_eq_true.1 hblank
  have hplane : ∀ r ∈ blanks.ranges, r.2 < 0x10000 := by decide
  have hlow : range.2 < 0x10000 := hplane range hrange
  have hle : c.toNat ≤ range.2 := by simp_all
  have hbase : 0x40000 ≤ p.base := by
    unfold base
    omega
  have hunit : c.toNat - p.base = 0 := by omega
  rw [surrogate?, hunit] at h
  cases h

end Text.Plane

namespace Go

variable {s : Style} {d : Schema.Document} {g : Generated} {c : Compiled}

/-- The characters of generated code are those of the texts of its declarations, blanks apart. -/
theorem mem_code_iff {x : Char} (hx : Text.isBlank x = false) (hg : (generateDocument s d).1 = .ok g)
    (hc : (compile s d).1 = .ok c)
    (hclean : ∀ e ∈ c.base ++ c.messages, Naming.IsClean e.unknownType) :
    x ∈ g.code.toList ↔
      ∃ text ∈ sourceTexts s.fileHeader s.package.display c.base c.messages, x ∈ text.toList := by
  obtain ⟨c', code, hc', hformat, rfl⟩ := generateDocument_eq_ok.1 hg
  obtain rfl := Except.ok.inj (hc.symm.trans hc')
  obtain ⟨items, hitems, rfl⟩ := map_eq_ok.1 hformat
  have hlines : Text.lines (s.fileText c.baseTexts c.messageTexts) =
      (sourceTexts s.fileHeader s.package.display c.base c.messages).flatMap Text.lines ++ [[]] :=
    lines_fileText s (fun e he => hclean e (List.mem_append_left _ he)) fun e he =>
      hclean e (List.mem_append_right _ he)
  rw [Source.mem_sourceText_iff hitems hx, ← Source.exists_mem_lines_iff hx, hlines]
  constructor
  · rintro ⟨l, hl, hmem⟩
    rcases List.mem_append.1 hl with hl | hl
    · obtain ⟨text, htext, hl⟩ := List.mem_flatMap.1 hl
      exact ⟨text, htext, (Source.exists_mem_lines_iff hx).1 ⟨l, hl, hmem⟩⟩
    · rw [List.mem_singleton.1 hl] at hmem
      cases hmem
  · rintro ⟨text, htext, hmem⟩
    obtain ⟨l, hl, hmem⟩ := (Source.exists_mem_lines_iff hx).2 hmem
    exact ⟨l, List.mem_append_left _ (List.mem_flatMap.2 ⟨text, htext, hl⟩), hmem⟩

/-- Code has half of a surrogate pair exactly if some text of a declaration has one. -/
theorem hasSurrogate_code_iff (spare : Text.Plane) (hg : (generateDocument s d).1 = .ok g)
    (hc : (compile s d).1 = .ok c)
    (hclean : ∀ e ∈ c.base ++ c.messages, Naming.IsClean e.unknownType) :
    spare.HasSurrogate g.code ↔
      ∃ text ∈ sourceTexts s.fileHeader s.package.display c.base c.messages,
        spare.HasSurrogate text := by
  constructor
  · rintro ⟨x, hmem, hx⟩
    obtain ⟨text, htext, hmem⟩ :=
      (mem_code_iff (Text.Plane.isBlank_of_surrogate? hx) hg hc hclean).1 hmem
    exact ⟨text, htext, x, hmem, hx⟩
  · rintro ⟨text, htext, x, hmem, hx⟩
    exact ⟨x, (mem_code_iff (Text.Plane.isBlank_of_surrogate? hx) hg hc hclean).2
      ⟨text, htext, hmem⟩, hx⟩

end Go

/-! ### Writing a file -/

namespace FileTree

variable {t : FileTree} {key k root : String} {here parts : List String} {p : Path}
  {octets : List UInt8}

theorem lookup_put (t : FileTree) (key : String) (octets : List UInt8) (k : String) :
    (t.put key octets).entries.lookup k =
      if k = key then some (.file octets) else t.entries.lookup k :=
  lookup_putEntry key k _ _

theorem mem_putEntry {α : Type} (key : String) (v : α) {entries : List (String × α)} {name : String}
    {w : α} (h : (name, w) ∈ entries) : ∃ w', (name, w') ∈ putEntry key v entries := by
  induction entries with
  | nil => cases h
  | cons e entries ih =>
    obtain ⟨k, u⟩ := e
    rw [putEntry]
    rcases List.mem_cons.1 h with h | h
    · cases h
      by_cases hk : name = key
      · exact ⟨v, by simp [hk]⟩
      · exact ⟨w, by simp [hk]⟩
    · obtain ⟨w', hw'⟩ := ih h
      by_cases hk : k = key
      · exact ⟨w, by simp [hk, h]⟩
      · exact ⟨w', by simp [hk, hw']⟩

/-- A directory stays one when a file is put elsewhere. -/
theorem at?_put_of_directory (hk : t.at? k = some .directory)
    (hkey : t.at? key ≠ some .directory) : (t.put key octets).at? k = some .directory := by
  have hne : k ≠ key := by
    rintro rfl
    exact hkey hk
  unfold at? at hk ⊢
  rw [lookup_put, if_neg hne]
  cases hlookup : t.entries.lookup k with
  | some e =>
    rw [hlookup] at hk
    exact hk
  | none =>
    rw [hlookup] at hk
    dsimp only at hk ⊢
    -- the entry that makes it a directory is still there, with whatever it holds now
    have hany : (t.entries.any fun e => (k ++ "/").toList.isPrefixOf e.1.toList) = true := by
      by_contra hnone
      rw [if_neg hnone] at hk
      cases hk
    obtain ⟨⟨name, w⟩, hmem, hpre⟩ := List.any_eq_true.1 hany
    obtain ⟨w', hmem'⟩ := mem_putEntry key (.file octets) hmem
    rw [if_pos]
    exact List.any_eq_true.2 ⟨(name, w'), hmem', hpre⟩

/-- A path leads to a file or to a place where one can be made. -/
def LeadsTo (s : Spot) (key : String) : Prop := s = .free key ∨ ∃ octets, s = .file key octets

theorem not_leadsTo {s : Spot} (hfree : ∀ k, s ≠ .free k) (hfile : ∀ k octets, s ≠ .file k octets) :
    ¬ LeadsTo s key := by
  rintro (h | ⟨octets, h⟩)
  · exact hfree _ h
  · exact hfile _ _ h

/-- A path that leads to a file either ends there or goes on below a directory. -/
theorem leadsTo_follow_cons {part : String}
    (h : LeadsTo (t.follow root here (part :: parts)) key) :
    (part = ".." ∧ LeadsTo (t.follow root (Path.above root here) parts) key) ∨
      (part ≠ ".." ∧ ¬ part.utf8ByteSize > maxNameOctets ∧
        (t.at? (Path.keyOf root (here ++ [part])) = some .directory ∧
            LeadsTo (t.follow root (here ++ [part]) parts) key ∨
          t.at? (Path.keyOf root (here ++ [part])) ≠ some .directory ∧ parts = [] ∧
            key = Path.keyOf root (here ++ [part]))) := by
  rw [follow] at h
  by_cases hup : part = ".."
  · rw [if_pos hup] at h
    exact Or.inl ⟨hup, h⟩
  rw [if_neg hup] at h
  by_cases hlong : part.utf8ByteSize > maxNameOctets
  · rw [if_pos hlong] at h
    exact absurd h (not_leadsTo (by simp) (by simp))
  rw [if_neg hlong] at h
  refine Or.inr ⟨hup, hlong, ?_⟩
  dsimp only at h
  cases hat : t.at? (Path.keyOf root (here ++ [part])) with
  | none =>
    rw [hat] at h
    dsimp only at h
    by_cases hlast : parts = []
    · subst hlast
      rcases h with h | ⟨octets, h⟩
      · cases h
        exact Or.inr ⟨by simp, rfl, rfl⟩
      · cases h
    · rw [if_neg (by simpa using hlast)] at h
      exact absurd h (not_leadsTo (by simp) (by simp))
  | some e =>
    rw [hat] at h
    cases e with
    | directory => exact Or.inl ⟨rfl, h⟩
    | file octets =>
      dsimp only at h
      by_cases hlast : parts = []
      · subst hlast
        rcases h with h | ⟨octets', h⟩
        · cases h
        · cases h
          exact Or.inr ⟨by simp, rfl, rfl⟩
      · rw [if_neg (by simpa using hlast)] at h
        exact absurd h (not_leadsTo (by simp) (by simp))

/-- No directory is where a path leads to a file. -/
theorem at?_of_leadsTo (h : LeadsTo (t.follow root here parts) key) :
    t.at? key ≠ some .directory := by
  induction parts generalizing here with
  | nil => exact absurd h (not_leadsTo (by simp [follow]) (by simp [follow]))
  | cons part parts ih =>
    rcases leadsTo_follow_cons h with ⟨-, h⟩ | ⟨-, -, ⟨-, h⟩ | ⟨hat, -, rfl⟩⟩
    · exact ih h
    · exact ih h
    · exact hat

/-- A path leads to the file that has been put where it leads. -/
theorem follow_put (h : LeadsTo (t.follow root here parts) key) (octets : List UInt8) :
    (t.put key octets).follow root here parts = .file key octets := by
  have hkey := at?_of_leadsTo h
  induction parts generalizing here with
  | nil => exact absurd h (not_leadsTo (by simp [follow]) (by simp [follow]))
  | cons part parts ih =>
    rcases leadsTo_follow_cons h with ⟨hup, h⟩ | ⟨hup, hlong, ⟨hat, h⟩ | ⟨-, rfl, rfl⟩⟩
    · rw [follow, if_pos hup]
      exact ih h
    · rw [follow, if_neg hup, if_neg hlong]
      dsimp only
      rw [at?_put_of_directory hat hkey]
      exact ih h
    · have hself : (t.put (Path.keyOf root (here ++ [part])) octets).at?
          (Path.keyOf root (here ++ [part])) = some (.file octets) := by
        rw [at?, lookup_put, if_pos rfl]
      rw [follow, if_neg hup, if_neg hlong]
      dsimp only
      rw [hself]
      rfl

theorem find_put (h : LeadsTo (t.find p) key) (octets : List UInt8) :
    (t.put key octets).find p = .file key octets := by
  have hspare : (t.put key octets).spare = t.spare := rfl
  unfold find at h ⊢
  rw [hspare]
  split_ifs at h ⊢ with hname hlong
  · exact absurd h (not_leadsTo (by simp) (by simp))
  · exact absurd h (not_leadsTo (by simp) (by simp))
  · exact follow_put h octets

theorem write_of_not_hasSurrogate {text : String} (h : LeadsTo (t.find p) key)
    (hnone : ¬ t.spare.HasSurrogate text) :
    t.write p text = (.ok (), t.put key text.toUTF8.toList) := by
  have hencode := Text.Plane.encode?_eq_some_iff.2 ⟨hnone, rfl⟩
  rcases h with h | ⟨octets, h⟩
  · simp only [write, h, hencode]
  · simp only [write, h, hencode]

theorem write_of_hasSurrogate {text : String} (h : LeadsTo (t.find p) key)
    (hsome : t.spare.HasSurrogate text) :
    t.write p text = (.error (.misfit .unencodable), t.put key []) := by
  have hencode := Text.Plane.encode?_eq_none_iff.2 hsome
  rcases h with h | ⟨octets, h⟩
  · simp only [write, h, hencode]
  · simp only [write, h, hencode]

/-- A text is written to the file that its path leads to, or that file is left empty since the text
has half of a surrogate pair, or the path leads to no file and the tree stays as it is. -/
theorem write_cases (t : FileTree) (p : Path) (text : String) :
    (∃ key, LeadsTo (t.find p) key ∧ ¬ t.spare.HasSurrogate text ∧
        t.write p text = (.ok (), t.put key text.toUTF8.toList)) ∨
      (∃ key, LeadsTo (t.find p) key ∧ t.spare.HasSurrogate text ∧
        t.write p text = (.error (.misfit .unencodable), t.put key [])) ∨
      (∃ fault, t.write p text = (.error (.unwritable fault), t)) := by
  have hopened : ∀ {key}, LeadsTo (t.find p) key →
      (∃ key, LeadsTo (t.find p) key ∧ ¬ t.spare.HasSurrogate text ∧
          t.write p text = (.ok (), t.put key text.toUTF8.toList)) ∨
        (∃ key, LeadsTo (t.find p) key ∧ t.spare.HasSurrogate text ∧
          t.write p text = (.error (.misfit .unencodable), t.put key [])) := by
    intro key hkey
    by_cases hsome : t.spare.HasSurrogate text
    · exact Or.inr ⟨key, hkey, hsome, write_of_hasSurrogate hkey hsome⟩
    · exact Or.inl ⟨key, hkey, hsome, write_of_not_hasSurrogate hkey hsome⟩
  cases hspot : t.find p with
  | file key octets =>
    rw [← or_assoc, ← hspot]
    exact Or.inl (hopened (Or.inr ⟨octets, hspot⟩))
  | free key =>
    rw [← or_assoc, ← hspot]
    exact Or.inl (hopened (Or.inl hspot))
  | directory => exact Or.inr (Or.inr ⟨_, by rw [write, hspot]⟩)
  | missing => exact Or.inr (Or.inr ⟨_, by rw [write, hspot]⟩)
  | blocked => exact Or.inr (Or.inr ⟨_, by rw [write, hspot]⟩)
  | tooLong => exact Or.inr (Or.inr ⟨_, by rw [write, hspot]⟩)

end FileTree

namespace CommandLine

/-! ### The ways to end -/

/-- A run has not succeeded: it has printed nothing and touched no file. -/
structure Outcome.LeavesNothing (r : Outcome) (files : FileTree) : Prop where
  exit : r.exit ≠ .ok 0
  stdout : r.stdout = ""
  files : r.files = files

/-- A run has been broken off between opening the file at a path and writing to it. -/
structure Outcome.LeavesEmpty (r : Outcome) (files : FileTree) (path : Path) (key : String) :
    Prop where
  exit : r.exit = .error .unencodable
  stdout : r.stdout = ""
  file : r.files.find path = .file key []
  others : ∀ k ≠ key, r.files.entries.lookup k = files.entries.lookup k

/-- A run has put some code where the setting `output` says, and nothing anywhere else. -/
inductive Outcome.Delivers (r : Outcome) (files : FileTree) (output : Json) (code : String) : Prop
  /-- No file is named, and the code is printed. -/
  | printed (unnamed : output.truthy = false) (stdout : r.stdout = code) (files : r.files = files)
  /-- The code is all that the file at the path holds. -/
  | written {path key : String} (named : output = .str path) (given : output.truthy = true)
      (stdout : r.stdout = "") (file : r.files.find (.ofText path) = .file key code.toUTF8.toList)
      (others : ∀ k ≠ key, r.files.entries.lookup k = files.entries.lookup k)

section WrittenOut

variable {r : Outcome} {files : FileTree} {path : Path} {key code : String} {output : Json}

theorem Outcome.exit_writtenOut (r : Outcome) (spare : Text.Plane) :
    (r.writtenOut spare).exit = r.exit := rfl

theorem Outcome.LeavesNothing.writtenOut (h : r.LeavesNothing files) (spare : Text.Plane) :
    (r.writtenOut spare).LeavesNothing files :=
  ⟨h.exit, h.stdout, h.files⟩

theorem Outcome.LeavesEmpty.writtenOut (h : r.LeavesEmpty files path key) (spare : Text.Plane) :
    (r.writtenOut spare).LeavesEmpty files path key :=
  ⟨h.exit, h.stdout, h.file, h.others⟩

theorem Outcome.Delivers.writtenOut (h : r.Delivers files output code) (spare : Text.Plane) :
    (r.writtenOut spare).Delivers files output code := by
  cases h with
  | printed unnamed stdout files => exact .printed unnamed stdout files
  | written named given stdout file others => exact .written named given stdout file others

end WrittenOut

/-! ### Delivering -/

/-- A setting names a path that leads to a file, or to a place where one can be made. -/
structure Opens (files : FileTree) (output : Json) (path : Path) (key : String) : Prop where
  named : outputPath? files.spare output = .ok (some path)
  leads : FileTree.LeadsTo (files.find path) key

variable {files : FileTree} {requests : List Request} {stderr source key : String} {o : Options}
  {settings : Settings} {g : Generated} {env : Environment} {argv : List String} {path : Path}
  {output : Json} {spare : Text.Plane}

theorem leavesNothing_failed (files : FileTree) (requests : List Request) (stderr : String)
    (f : Failure) : (failed files requests stderr f).LeavesNothing files := by
  unfold failed
  split
  · exact ⟨by simp, rfl, rfl⟩
  · exact ⟨by simp, rfl, rfl⟩
  · exact ⟨by simp, rfl, rfl⟩

/-- A path is named by a text that counts as given. -/
theorem outputPath?_eq_ok {path? : Option Path} (h : outputPath? spare output = .ok path?) :
    path? = none ∧ output.truthy = false ∨
      ∃ path, path? = some (.ofText path) ∧ output = .str path ∧ output.truthy = true := by
  unfold outputPath? at h
  split_ifs at h with hgiven
  · cases h
    exact Or.inl ⟨rfl, by simpa using hgiven⟩
  · split at h
    · split_ifs at h
      cases h
      exact Or.inr ⟨_, rfl, rfl, by simpa using hgiven⟩
    · cases h

theorem outputPath?_of_not_truthy (h : output.truthy = false) :
    outputPath? spare output = .ok none := by
  unfold outputPath?
  rw [if_pos (by simp [h])]

section Deliver

variable (o : Options) (settings : Settings) (files : FileTree) (requests : List Request)
  (stderr source : String) (g : Generated)

/-- Models are delivered, or the run fails before a file is opened, or right after. -/
theorem deliver_cases :
    (deliver o settings files requests stderr source g).LeavesNothing files ∨
      ((deliver o settings files requests stderr source g).exit = .ok 0 ∧
        ¬ files.spare.HasSurrogate g.code ∧
        (deliver o settings files requests stderr source g).Delivers files settings.outputFile
          g.code) ∨
      ∃ path key, Opens files settings.outputFile path key ∧ files.spare.HasSurrogate g.code ∧
        (deliver o settings files requests stderr source g).LeavesEmpty files path key := by
  unfold deliver
  dsimp only
  cases hpath : outputPath? files.spare settings.outputFile with
  | error f => exact Or.inl (leavesNothing_failed _ _ _ _)
  | ok path? =>
    rcases outputPath?_eq_ok hpath with ⟨rfl, hunnamed⟩ | ⟨path, rfl, hnamed, hgiven⟩
    · dsimp only
      cases hencode : files.spare.encode? g.code with
      | none => exact Or.inl (leavesNothing_failed _ _ _ _)
      | some octets =>
        have hnone := (Text.Plane.encode?_eq_some_iff.1 hencode).1
        exact Or.inr (Or.inl ⟨rfl, hnone, .printed hunnamed rfl rfl⟩)
    · dsimp only
      have hothers : ∀ key octets, ∀ k ≠ key,
          (files.put key octets).entries.lookup k = files.entries.lookup k := fun key octets k hk => by
        rw [FileTree.lookup_put, if_neg hk]
      rcases files.write_cases (.ofText path) g.code with
        ⟨key, hkey, hnone, hwrite⟩ | ⟨key, hkey, hsome, hwrite⟩ | ⟨fault, hwrite⟩
      · rw [hwrite]
        exact Or.inr (Or.inl ⟨rfl, hnone,
          .written hnamed hgiven rfl (FileTree.find_put hkey _) (hothers _ _)⟩)
      · rw [hwrite]
        exact Or.inr (Or.inr ⟨_, key, ⟨hpath, hkey⟩, hsome,
          ⟨rfl, rfl, FileTree.find_put hkey _, hothers _ _⟩⟩)
      · rw [hwrite]
        exact Or.inl (leavesNothing_failed _ _ _ _)

variable {o settings files requests stderr source g}

theorem leavesEmpty_deliver (h : Opens files settings.outputFile path key)
    (hsome : files.spare.HasSurrogate g.code) :
    (deliver o settings files requests stderr source g).LeavesEmpty files path key := by
  unfold deliver
  dsimp only
  rw [h.named]
  dsimp only
  rw [FileTree.write_of_hasSurrogate h.leads hsome]
  exact ⟨rfl, rfl, FileTree.find_put h.leads _, fun k hk => by
    dsimp only [failed]
    rw [FileTree.lookup_put, if_neg hk]⟩

theorem exit_deliver
    (h : settings.outputFile.truthy = false ∨ ∃ path key, Opens files settings.outputFile path key)
    (hnone : ¬ files.spare.HasSurrogate g.code) :
    (deliver o settings files requests stderr source g).exit = .ok 0 := by
  unfold deliver
  dsimp only
  rcases h with h | ⟨path, key, h⟩
  · rw [outputPath?_of_not_truthy h]
    dsimp only
    rw [Text.Plane.encode?_eq_some_iff.2 ⟨hnone, rfl⟩]
  · rw [h.named]
    dsimp only
    rw [FileTree.write_of_not_hasSurrogate h.leads hnone]

end Deliver

/-! ### Stages of a run -/

/-- The document that options name, with its source. -/
def Options.document (o : Options) (env : Environment) : Except Failure (String × Json) :=
  (load env ((o.schemaFile.map OptionValue.toJson).getD .null)
    ((o.schemaUrl.map OptionValue.toJson).getD .null) defaultTimeout).run.1

/-- Models come from the document that the options name and the settings. -/
theorem produce_eq_ok_iff : (produce o settings env).1.1 = .ok (source, g) ↔
    ∃ contents, o.document env = .ok (source, contents) ∧
      (generate settings contents).1 = .ok g := by
  unfold produce
  dsimp only
  constructor
  · intro h
    obtain ⟨⟨source', contents⟩, hdocument, h⟩ := Noted.andThen_eq_ok.1 h
    obtain ⟨g', hg, h⟩ := Noted.andThen_eq_ok.1 h
    cases h
    exact ⟨contents, hdocument, hg⟩
  · rintro ⟨contents, hdocument, hg⟩
    exact Noted.andThen_eq_ok.2 ⟨_, hdocument, Noted.andThen_eq_ok.2 ⟨g, hg, rfl⟩⟩

/-- A run comes as far as making models: its options and settings are in order, and so is the
document that they name. -/
inductive Makes (argv : List String) (env : Environment) (settings : Settings) (g : Generated) :
    Prop
  | intro {o : Options} {warnings : List String} {source : String} {contents : Json}
      (parsed : parse argv = .ok o) (settled : o.settings env.files = .ok settings)
      (checked : settingWarnings settings = .ok warnings)
      (loaded : o.document env = .ok (source, contents))
      (generated : (generate settings contents).1 = .ok g)

/-- A run that makes models ends by delivering them. -/
theorem Makes.exists_deliver (h : Makes argv env settings g) : ∃ o requests stderr source,
    run argv env =
      (deliver o settings env.files requests stderr source g).writtenOut env.files.spare := by
  obtain @⟨o, warnings, source, contents, ho, hsettings, hwarnings, hdocument, hg⟩ := h
  have hsettled : (do
      let settings ← o.settings env.files
      return (settings, ← settingWarnings settings) : Except Failure (Settings × List String)) =
      .ok (settings, warnings) :=
    bind_eq_ok.2 ⟨settings, hsettings, bind_eq_ok.2 ⟨warnings, hwarnings, rfl⟩⟩
  have hmade := produce_eq_ok_iff.2 ⟨contents, hdocument, hg⟩
  rw [run, ho]
  dsimp only
  unfold runOptions
  dsimp only
  rw [hsettled]
  dsimp only
  rw [hmade]
  exact ⟨o, _, _, source, rfl⟩

/-- A run that makes models delivers them, or fails before a file is opened, or right after. -/
theorem Makes.cases (h : Makes argv env settings g) :
    (run argv env).LeavesNothing env.files ∨
      ((run argv env).exit = .ok 0 ∧ ¬ env.files.spare.HasSurrogate g.code ∧
        (run argv env).Delivers env.files settings.outputFile g.code) ∨
      ∃ path key, Opens env.files settings.outputFile path key ∧
        env.files.spare.HasSurrogate g.code ∧ (run argv env).LeavesEmpty env.files path key := by
  obtain ⟨o, requests, stderr, source, hrun⟩ := h.exists_deliver
  rw [hrun, Outcome.exit_writtenOut]
  rcases deliver_cases o settings env.files requests stderr source g with
    hr | ⟨hexit, hnone, hr⟩ | ⟨path, key, hopens, hsome, hr⟩
  · exact Or.inl (hr.writtenOut _)
  · exact Or.inr (Or.inl ⟨hexit, hnone, hr.writtenOut _⟩)
  · exact Or.inr (Or.inr ⟨path, key, hopens, hsome, hr.writtenOut _⟩)

/-- Models with half of a surrogate pair leave the file that they are for empty. -/
theorem Makes.leavesEmpty (h : Makes argv env settings g)
    (hopens : Opens env.files settings.outputFile path key)
    (hsome : env.files.spare.HasSurrogate g.code) :
    (run argv env).LeavesEmpty env.files path key := by
  obtain ⟨o, requests, stderr, source, hrun⟩ := h.exists_deliver
  rw [hrun]
  exact (leavesEmpty_deliver hopens hsome).writtenOut _

/-- Models without one are delivered, given a place for them. -/
theorem Makes.delivers (h : Makes argv env settings g)
    (hplace : settings.outputFile.truthy = false ∨
      ∃ path key, Opens env.files settings.outputFile path key)
    (hnone : ¬ env.files.spare.HasSurrogate g.code) :
    (run argv env).exit = .ok 0 ∧
      (run argv env).Delivers env.files settings.outputFile g.code := by
  have hexit : (run argv env).exit = .ok 0 := by
    obtain ⟨o, requests, stderr, source, hrun⟩ := h.exists_deliver
    rw [hrun, Outcome.exit_writtenOut]
    exact exit_deliver hplace hnone
  rcases h.cases with hr | ⟨-, -, hr⟩ | ⟨path, key, -, hsome, -⟩
  · exact absurd hexit hr.exit
  · exact ⟨hexit, hr⟩
  · exact absurd hsome hnone

/-- A run with its options leaves nothing, or makes the models of the document that they name. -/
theorem runOptions_cases (ho : parse argv = .ok o) (env : Environment) :
    (runOptions o env).LeavesNothing env.files ∨ ∃ settings g, Makes argv env settings g := by
  unfold runOptions
  dsimp only
  cases hsettled : (do
      let settings ← o.settings env.files
      return (settings, ← settingWarnings settings) : Except Failure (Settings × List String)) with
  | error f => exact Or.inl (leavesNothing_failed _ _ _ _)
  | ok settled =>
    obtain ⟨settings, hsettings, hsettled⟩ := bind_eq_ok.1 hsettled
    obtain ⟨warnings, hwarnings, hpair⟩ := bind_eq_ok.1 hsettled
    cases hpair
    dsimp only
    cases hresult : (produce o settings env).1.1 with
    | error f => exact Or.inl (leavesNothing_failed _ _ _ _)
    | ok result =>
      obtain ⟨source, g⟩ := result
      obtain ⟨contents, hdocument, hg⟩ := produce_eq_ok_iff.1 hresult
      exact Or.inr ⟨settings, g, .intro ho hsettings hwarnings hdocument hg⟩

/-- A run ends at its command line, leaves nothing, or makes models. -/
theorem run_cases (argv : List String) (env : Environment) :
    (run argv env).LeavesNothing env.files ∨
      ((parse argv = .error .help ∨ parse argv = .error .version) ∧
        (run argv env).exit = .ok 0 ∧ (run argv env).files = env.files) ∨
      ∃ settings g, Makes argv env settings g := by
  unfold run
  dsimp only
  cases hparse : parse argv with
  | error ending =>
    cases ending with
    | help => exact Or.inr (Or.inl ⟨Or.inl rfl, rfl, rfl⟩)
    | version => exact Or.inr (Or.inl ⟨Or.inr rfl, rfl, rfl⟩)
    | usage fault => exact Or.inl (.writtenOut ⟨by simp, rfl, rfl⟩ _)
  | ok o => exact (runOptions_cases hparse env).imp (·.writtenOut _) Or.inr

/-! ### What is left behind -/

/-- A run that fails or is broken off has printed nothing. It has changed no file, except that one
whose models have half of a surrogate pair empties, or makes, the file that it was to put them into.
A run that succeeds has only told about itself, or has put the models of its document into its one
place: into the file that its settings name if they name one, and on the standard output if not. A
run that makes models without such halves does succeed if there is a place for them. -/
theorem run_outcomes (argv : List String) (env : Environment) :
    ((run argv env).exit ≠ .ok 0 → (run argv env).stdout = "" ∧
      ((run argv env).files = env.files ∨
        ∃ settings g path key, Makes argv env settings g ∧
          Opens env.files settings.outputFile path key ∧ env.files.spare.HasSurrogate g.code ∧
          (run argv env).LeavesEmpty env.files path key)) ∧
    ((run argv env).exit = .ok 0 →
      ((parse argv = .error .help ∨ parse argv = .error .version) ∧
        (run argv env).files = env.files) ∨
      ∃ settings g, Makes argv env settings g ∧ ¬ env.files.spare.HasSurrogate g.code ∧
        (run argv env).Delivers env.files settings.outputFile g.code) ∧
    ∀ settings g, Makes argv env settings g →
      (∀ path key, Opens env.files settings.outputFile path key →
        env.files.spare.HasSurrogate g.code → (run argv env).LeavesEmpty env.files path key) ∧
      ((settings.outputFile.truthy = false ∨
          ∃ path key, Opens env.files settings.outputFile path key) →
        ¬ env.files.spare.HasSurrogate g.code → (run argv env).exit = .ok 0 ∧
          (run argv env).Delivers env.files settings.outputFile g.code) := by
  refine ⟨fun hfailed => ?_, fun hexit => ?_, fun settings g hmakes => ?_⟩
  · rcases run_cases argv env with h | ⟨-, hexit, -⟩ | ⟨settings, g, hmakes⟩
    · exact ⟨h.stdout, Or.inl h.files⟩
    · exact absurd hexit hfailed
    · rcases hmakes.cases with h | ⟨hexit, -⟩ | ⟨path, key, hopens, hsome, h⟩
      · exact ⟨h.stdout, Or.inl h.files⟩
      · exact absurd hexit hfailed
      · exact ⟨h.stdout, Or.inr ⟨settings, g, path, key, hmakes, hopens, hsome, h⟩⟩
  · rcases run_cases argv env with h | ⟨htold, -, hfiles⟩ | ⟨settings, g, hmakes⟩
    · exact absurd hexit h.exit
    · exact Or.inl ⟨htold, hfiles⟩
    · rcases hmakes.cases with h | ⟨-, hnone, h⟩ | ⟨path, key, -, -, h⟩
      · exact absurd hexit h.exit
      · exact Or.inr ⟨settings, g, hmakes, hnone, h⟩
      · exact absurd (h.exit.symm.trans hexit) (by simp)
  · exact ⟨fun path key hopens hsome => hmakes.leavesEmpty hopens hsome,
      fun hplace hnone => hmakes.delivers hplace hnone⟩

/-! #### Models of a trip -/

/-- The text of a document with one message, whose one property has a key as it is written. -/
def tripText (key : String) : List Char :=
  "\x7b\"id\": \"travel\", \"schemas\": \x7b\"trip\": \x7b\"1\": ".toList ++
    "\x7b\"type\": \"object\", \"properties\": \x7b\"".toList ++ key.toList ++
    "\": \x7b\"type\": \"string\"\x7d\x7d\x7d\x7d\x7d, \"definitions\": \x7b\x7d\x7d".toList

/-- The octets of an earlier file. -/
def earlierOctets : List UInt8 := "package trip\n".toList.map fun c => c.toNat.toUInt8

/-- Such a document beside that file. -/
def tripEnvironment (key : String) : Environment where
  files := { entries := [("trip.json", .file ((tripText key).map fun c => c.toNat.toUInt8)),
    ("trip.go", .file earlierOctets)] }

/-- What such a document holds. -/
def tripContents (key : String) : Json :=
  Go.documentOf (Go.objectOf [(key, .obj [("type", .str "string")])]) []

/-- The arguments for models in a file. -/
def toFile : List String := ["--schema-file", "trip.json", "-o", "trip.go"]

/-- The arguments for models on the standard output. -/
def toStdout : List String := ["--schema-file", "trip.json"]

/-- The settings for models in a file. -/
def fileSettings : Settings := { outputFile := .str "trip.go" }

/-- A key with the first half of a surrogate pair. -/
def halfKey : String := String.ofList ['a', Text.Plane.standIn default 0xD800]

/-- Whether some text of acceptable contents has half of a surrogate pair. -/
def halfIn (contents : Json) : Option Bool :=
  (Go.acceptableUnder Go.defaultStyle contents).bind fun p =>
    if ∀ e ∈ p.2.base ++ p.2.messages, Naming.IsClean e.unknownType then
      some ((Go.sourceTexts "" "hedwig" p.2.base p.2.messages).any fun text =>
        (Text.Plane.encode? default text).isNone)
    else none

theorem exists_generated_of_halfIn {contents : Json} {half : Bool} (h : halfIn contents = some half) :
    ∃ g, (generate .default contents).1 = .ok g ∧
      (Text.Plane.HasSurrogate default g.code ↔ half = true) := by
  obtain ⟨⟨d, c⟩, haccepted, h⟩ := Option.bind_eq_some_iff.1 h
  split_ifs at h with hclean
  cases h
  obtain ⟨hread, hcompile, -⟩ := Go.acceptableUnder_eq_some haccepted
  obtain ⟨g, -, hg, -⟩ := Go.exists_generated_by_default haccepted
  refine ⟨g, hg, ?_⟩
  rw [Go.hasSurrogate_code_iff default ((Go.generate_eq_ok Go.customFormats_default hread
    Go.style_default).1 hg) hcompile hclean, List.any_eq_true]
  simp only [Option.isNone_iff_eq_none, Text.Plane.encode?_eq_none_iff]
  rfl

theorem makes_trip {written key : String} {g : Generated}
    (hdocument : Options.document { schemaFile := some (.text "trip.json") }
      (tripEnvironment written) = .ok ("trip.json", tripContents key))
    (hg : (generate .default (tripContents key)).1 = .ok g) :
    Makes toFile (tripEnvironment written) fileSettings g ∧
      Makes toStdout (tripEnvironment written) .default g := by
  have hwarnings : settingWarnings .default = .ok [] := by decide +kernel
  have hfile : parse toFile =
      .ok { schemaFile := some (.text "trip.json"), output := some (.text "trip.go") } := rfl
  have hstdout : parse toStdout = .ok { schemaFile := some (.text "trip.json") } := rfl
  exact ⟨.intro hfile rfl hwarnings hdocument hg, .intro hstdout rfl hwarnings hdocument hg⟩

theorem opens_trip {written : String}
    (h : (tripEnvironment written).files.find (.ofText "trip.go") = .file "trip.go" earlierOctets) :
    Opens (tripEnvironment written).files fileSettings.outputFile (.ofText "trip.go") "trip.go" where
  named := by
    have hnamed : outputPath? default (.str "trip.go") = .ok (some (.ofText "trip.go")) :=
      ok_of_toOption (by decide +kernel)
    exact hnamed
  leads := .inr ⟨_, h⟩

set_option maxRecDepth 100000 in
/-- The models of a document are written to a file or printed, as the arguments say. Without the
document no file is made, though the arguments name one. -/
theorem trip_delivered :
    (∃ g, (generate .default (tripContents "a")).1 = .ok g ∧
      ((run toFile (tripEnvironment "a")).exit = .ok 0 ∧
        (run toFile (tripEnvironment "a")).stdout = "" ∧
        ∃ key, (run toFile (tripEnvironment "a")).files.find (.ofText "trip.go") =
          .file key g.code.toUTF8.toList) ∧
      (run toStdout (tripEnvironment "a")).exit = .ok 0 ∧
      (run toStdout (tripEnvironment "a")).stdout = g.code ∧
      (run toStdout (tripEnvironment "a")).files = (tripEnvironment "a").files) ∧
    (run toFile {}).exit = .ok 1 ∧ (run toFile {}).stdout = "" ∧ (run toFile {}).files = {} := by
  have hdocument : Options.document { schemaFile := some (.text "trip.json") }
      (tripEnvironment "a") = .ok ("trip.json", tripContents "a") :=
    ok_of_toOption (by decide +kernel)
  have hhalf : halfIn (tripContents "a") = some false := by decide +kernel
  obtain ⟨g, hg, hnone⟩ := exists_generated_of_halfIn hhalf
  obtain ⟨hfile, hstdout⟩ := makes_trip hdocument hg
  have hnone : ¬ Text.Plane.HasSurrogate default g.code := by simp [hnone]
  refine ⟨⟨g, hg, ?_, ?_⟩, ?_⟩
  · obtain ⟨hexit, hdelivers⟩ := ((run_outcomes _ _).2.2 _ _ hfile).2
      (.inr ⟨_, _, opens_trip (by decide +kernel)⟩) hnone
    cases hdelivers with
    | printed unnamed => cases unnamed
    | written named given stdout file others =>
      cases named
      exact ⟨hexit, stdout, _, file⟩
  · obtain ⟨hexit, hdelivers⟩ := ((run_outcomes _ _).2.2 _ _ hstdout).2 (.inl rfl) hnone
    cases hdelivers with
    | printed unnamed stdout files => exact ⟨hexit, stdout, files⟩
    | written named => cases named
  · have hexit : (run toFile {}).exit = .ok 1 := rfl
    obtain ⟨hstdout, hfiles⟩ := (run_outcomes toFile {}).1 (by simp [hexit])
    refine ⟨hexit, hstdout, hfiles.resolve_right ?_⟩
    rintro ⟨settings, g, path, key, -, -, -, hempty⟩
    exact absurd (hempty.exit.symm.trans hexit) (by simp)

set_option maxRecDepth 100000 in
/-- A key with half of a surrogate pair breaks the run off when the earlier file has been emptied. -/
theorem trip_emptied :
    (run toFile (tripEnvironment "a\\ud800")).exit = .error .unencodable ∧
      (tripEnvironment "a\\ud800").files.find (.ofText "trip.go") =
        .file "trip.go" earlierOctets ∧
      (run toFile (tripEnvironment "a\\ud800")).files.find (.ofText "trip.go") =
        .file "trip.go" [] := by
  have hdocument : Options.document { schemaFile := some (.text "trip.json") }
      (tripEnvironment "a\\ud800") = .ok ("trip.json", tripContents halfKey) :=
    ok_of_toOption (by decide +kernel)
  have hhalf : halfIn (tripContents halfKey) = some true := by decide +kernel
  obtain ⟨g, hg, hsome⟩ := exists_generated_of_halfIn hhalf
  have hfind : (tripEnvironment "a\\ud800").files.find (.ofText "trip.go") =
      .file "trip.go" earlierOctets := by decide +kernel
  have hempty := (makes_trip hdocument hg).1.leavesEmpty (opens_trip hfind) (hsome.2 rfl)
  exact ⟨hempty.exit, hfind, hempty.file⟩

end CommandLine

end StructGen
