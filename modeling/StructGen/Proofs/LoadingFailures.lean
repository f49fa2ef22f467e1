import StructGen.Loading
import StructGen.Proofs.LongNumbers

/-!
# How loading fails

A document that cannot be loaded is reported as a fault of loading, whatever went wrong: no source
or two, a path where no file is, octets that are no text, a URL that is not fetched, a status, a
reply that does not come, a text that is no JSON. Some failures are not reported this way but come
through as they are: values that name neither a path nor a URL, paths that are too long for the
system, URLs with a malformed authority, and integers with too many digits.

* `Supplies` relates what is to be loaded to the text that is found there;
* `Escapes` lists the failures that come through;
* `Usable` excludes them by what is given, without following paths or reading texts;
* `load_outcomes` is the result.
-/

namespace StructGen

/-! ### Authorities -/

namespace Uri

/-- The authority of a URI: what stands between a double slash after the scheme and the path, the
query or the fragment. -/
def authorityOf (uri : String) : List Char :=
  match (cutScheme (clean uri.toList)).2 with
  | '/' :: '/' :: rest => rest.takeWhile fun c => !(c == '/' || c == '?' || c == '#')
  | _ => []

theorem authorityOf_of_slashes {uri : String} {rest : List Char}
    (h : (cutScheme (clean uri.toList)).2 = '/' :: '/' :: rest) :
    authorityOf uri = rest.takeWhile fun c => !(c == '/' || c == '?' || c == '#') := by
  unfold authorityOf
  rw [h]
  rfl

theorem authorityOf_of_no_slashes {uri : String}
    (h : ∀ rest, (cutScheme (clean uri.toList)).2 ≠ '/' :: '/' :: rest) : authorityOf uri = [] := by
  unfold authorityOf
  split
  · rename_i heq
    exact absurd heq (h _)
  · rfl

/-- A URI is cut into its parts unless its authority is malformed. -/
theorem split_cases (uri : String) :
    isAuthority (authorityOf uri) = false ∧ split uri = .error (.misfit (.malformedUri uri)) ∨
      isAuthority (authorityOf uri) = true ∧ ∃ parts, split uri = .ok parts := by
  unfold split
  dsimp only
  split
  · rename_i heq
    rw [authorityOf_of_slashes heq]
    cases isAuthority (List.takeWhile _ _) with
    | false => exact .inl ⟨rfl, rfl⟩
    | true => exact .inr ⟨rfl, _, rfl⟩
  · rename_i hne
    rw [authorityOf_of_no_slashes fun rest heq => hne rest heq]
    exact .inr ⟨rfl, _, rfl⟩

end Uri

/-! ### Long paths -/

/-- A path is longer than the system allows, or a part of it is. -/
def Path.TooLong (p : Path) : Prop :=
  FileTree.maxPathOctets < p.text.utf8ByteSize ∨
    ∃ part ∈ p.parts, FileTree.maxNameOctets < part.utf8ByteSize

namespace FileTree

theorem long_part_of_follow {t : FileTree} {root : String} {parts here : List String}
    (h : t.follow root here parts = .tooLong) :
    ∃ part ∈ parts, maxNameOctets < part.utf8ByteSize := by
  induction parts generalizing here with
  | nil => cases h
  | cons part parts ih =>
    have later : ∀ {here}, t.follow root here parts = .tooLong →
        ∃ p ∈ part :: parts, maxNameOctets < p.utf8ByteSize := by
      intro here h
      obtain ⟨p, hp, hlong⟩ := ih h
      exact ⟨p, List.mem_cons_of_mem part hp, hlong⟩
    unfold follow at h
    dsimp only at h
    split_ifs at h with hup hlong hend
    · exact later h
    · exact ⟨part, List.mem_cons_self, hlong⟩
    · split at h
      · exact later h
      · cases h
      · cases h
    · split at h
      · exact later h
      · cases h
      · cases h

theorem tooLong_of_find {t : FileTree} {p : Path} (h : t.find p = .tooLong) : p.TooLong := by
  unfold find at h
  split_ifs at h with hnull hlong
  · exact .inl hlong
  · exact .inr (long_part_of_follow h)

end FileTree

/-! ### Results of loading -/

namespace Load

variable {α : Type}

/-- The result of a step of loading, without the journal. -/
def result (x : Load α) (j : Journal) : Except Failure α :=
  match x j with
  | .ok a _ => .ok a
  | .error f _ => .error f

theorem run_fst (x : Load α) : x.run.1 = x.result {} := by
  unfold run result
  cases x {} <;> rfl

/-- A result that is given back together with its source. -/
theorem result_labelled (source : String) (x : Load α) (j : Journal) :
    result (do return (source, ← x)) j = (result x j).map (source, ·) := by
  simp only [result, bind, EStateM.bind]
  cases x j <;> rfl

end Load

/-! ### What is loaded -/

/-- A source has a text: a file is there and holds UTF-8, or a URL is fetched and a response comes
back whose status tells of no error. -/
inductive Supplies (env : Environment) : Json → Json → String → List Char → Prop
  | file {path key : String} {octets : List UInt8} {cs : List Char}
      (hfound : env.files.find (.ofText path) = .file key octets)
      (hdecode : Text.Utf8.decode? octets = .ok cs) :
      Supplies env (.str path) .null path (Text.foldNewlines cs)
  | url {url body : String} {parts : Uri} {status : Nat}
      (hsplit : Uri.split url = .ok parts)
      (hscheme : isFetched (String.ofList parts.scheme) = true)
      (hhost : parts.authority.isEmpty = false)
      (hreply : env.reply = .response status body) (hstatus : isErrorStatus status = false) :
      Supplies env .null (.str url) url body.toList

/-- The failures of loading that are not reported as faults of loading. -/
inductive Escapes (env : Environment) : Json → Json → Failure → Prop
  | notAPath {file : Json} (hnull : file ≠ .null) (htext : ∀ path, file ≠ .str path) :
      Escapes env file .null (.misfit (.notAPath file))
  | notAText {url : Json} (htext : ∀ text, url ≠ .str text) (htruthy : url.truthy = true) :
      Escapes env .null url (.misfit (.notAText url))
  | longPath {path : String} (hfound : env.files.find (.ofText path) = .tooLong) :
      Escapes env (.str path) .null (.refused (.nameTooLong (Path.ofText path).text))
  | malformedUrl {url : String} (h : Uri.isAuthority (Uri.authorityOf url) = false) :
      Escapes env .null (.str url) (.misfit (.malformedUri url))
  | longNumber {file url : Json} {source : String} {text : List Char}
      (htext : Supplies env file url source text)
      (hread : Json.read env.files.spare text = .error .tooManyDigits) :
      Escapes env file url (.misfit .tooManyDigits)

/-- What is given can be used: paths and URLs are texts, no path is too long, no authority is
malformed, and the text that is found has no integer with too many digits. -/
structure Usable (env : Environment) (file url : Json) : Prop where
  file_text : file = .null ∨ ∃ path, file = .str path ∧ ¬ (Path.ofText path).TooLong
  url_text : url = .null ∨ ∃ text, url = .str text ∧ Uri.isAuthority (Uri.authorityOf text) = true
  numbers : ∀ source text, Supplies env file url source text → ¬ Json.HasLongNumber text

section Outcomes

variable {env : Environment} {file url timeout : Json} {source : String} {text : List Char}
  {f : Failure}

/-- Loading a source that has a text is reading the text. -/
theorem load_eq_decode (timeout : Json) (h : Supplies env file url source text) :
    ∃ label j, (load env file url timeout).run.1 =
      ((decodeDocument env.files.spare label text).result j).map (source, ·) := by
  rw [Load.run_fst]
  cases h with
  | @file _ _ _ cs hfound hdecode =>
    have hfile : ∃ j, (loadFile env.files (.ofText source)).result {} =
        (decodeDocument env.files.spare (Path.ofText source).text
          (Text.foldNewlines cs)).result j := by
      unfold loadFile
      rw [hfound]
      dsimp only
      rw [hdecode]
      exact ⟨_, rfl⟩
    obtain ⟨j, hfile⟩ := hfile
    exact ⟨_, j, (Load.result_labelled ..).trans (congrArg _ hfile)⟩
  | @url _ body parts status hsplit hscheme hhost hreply hstatus =>
    have hfetch : ∃ j, (fetch env source timeout).result {} =
        (decodeDocument env.files.spare source body.toList).result j := by
      unfold fetch
      simp only [hsplit, pure_bind, hscheme, hhost, hreply, hstatus, Bool.not_true, Bool.or_self,
        Bool.false_eq_true, if_false]
      exact ⟨_, rfl⟩
    obtain ⟨j, hfetch⟩ := hfetch
    exact ⟨_, j, (Load.result_labelled ..).trans (congrArg _ hfetch)⟩

/-- How loading a source that has a text ends. -/
theorem load_of_supplies (timeout : Json) (h : Supplies env file url source text) :
    (∀ v, Json.read env.files.spare text = .ok v →
      (load env file url timeout).run.1 = .ok (source, v)) ∧
    (∀ what position, Json.read env.files.spare text = .error (.malformed what position) →
      ∃ fault, (load env file url timeout).run.1 = .error (.load fault)) ∧
    (Json.read env.files.spare text = .error .tooManyDigits →
      (load env file url timeout).run.1 = .error (.misfit .tooManyDigits)) := by
  obtain ⟨label, j, hload⟩ := load_eq_decode timeout h
  unfold decodeDocument at hload
  refine ⟨fun v hread => ?_, fun what position hread => ?_, fun hread => ?_⟩
  · rw [hload, hread]
    rfl
  · rw [hload, hread]
    exact ⟨_, rfl⟩
  · rw [hload, hread]
    rfl

theorem load_of_escapes (h : Escapes env file url f) :
    (load env file url timeout).run.1 = .error f := by
  cases h with
  | notAPath hnull htext =>
    cases file with
    | null => exact absurd rfl hnull
    | str path => exact absurd rfl (htext path)
    | _ => rfl
  | notAText htext htruthy =>
    cases url with
    | null => cases htruthy
    | str text => exact absurd rfl (htext text)
    | _ =>
      rw [Load.run_fst]
      unfold load
      simp only [htruthy]
      rfl
  | @longPath path hfound =>
    have hfile : (loadFile env.files (.ofText path)).result {} =
        .error (.refused (.nameTooLong (Path.ofText path).text)) := by
      unfold loadFile
      rw [hfound]
      rfl
    rw [Load.run_fst]
    exact (Load.result_labelled ..).trans (congrArg _ hfile)
  | @malformedUrl url h =>
    have hfetch : (fetch env url timeout).result {} =
        .error (.misfit (.malformedUri url)) := by
      obtain ⟨-, hsplit⟩ | ⟨hvalid, -⟩ := Uri.split_cases url
      · unfold fetch
        rw [hsplit]
        rfl
      · rw [h] at hvalid
        cases hvalid
    rw [Load.run_fst]
    exact (Load.result_labelled ..).trans (congrArg _ hfetch)
  | longNumber htext hread => exact (load_of_supplies timeout htext).2.2 hread

/-- A file is found with a text in it, or loading it fails. -/
theorem loadFile_cases (files : FileTree) (path : Path) (j : Journal) :
    (∃ key octets cs, files.find path = .file key octets ∧ Text.Utf8.decode? octets = .ok cs) ∨
      (∃ fault, (loadFile files path).result j = .error (.load fault)) ∨
      files.find path = .tooLong := by
  unfold loadFile
  cases hfound : files.find path with
  | tooLong => exact .inr (.inr rfl)
  | file key octets =>
    dsimp only
    cases hdecode : Text.Utf8.decode? octets with
    | ok cs => exact .inl ⟨key, octets, cs, rfl, hdecode⟩
    | error fault => exact .inr (.inl ⟨_, rfl⟩)
  | _ => exact .inr (.inl ⟨_, rfl⟩)

/-- A URL is fetched and a document comes back, or fetching it fails. -/
theorem fetch_cases (env : Environment) (url : String) (timeout : Json) (j : Journal) :
    (∃ parts status body, Uri.split url = .ok parts ∧
      isFetched (String.ofList parts.scheme) = true ∧ parts.authority.isEmpty = false ∧
      env.reply = .response status body ∧ isErrorStatus status = false) ∨
      (∃ fault, (fetch env url timeout).result j = .error (.load fault)) ∨
      Uri.isAuthority (Uri.authorityOf url) = false := by
  obtain ⟨hmalformed, -⟩ | ⟨-, parts, hsplit⟩ := Uri.split_cases url
  · exact .inr (.inr hmalformed)
  · unfold fetch
    simp only [hsplit, pure_bind]
    cases hscheme : isFetched (String.ofList parts.scheme) with
    | false => exact .inr (.inl ⟨_, rfl⟩)
    | true =>
      cases hhost : parts.authority.isEmpty with
      | true => exact .inr (.inl ⟨_, rfl⟩)
      | false =>
        cases hreply : env.reply with
        | response status body =>
          cases hstatus : isErrorStatus status with
          | false => exact .inl ⟨parts, status, body, rfl, hscheme, hhost, rfl, hstatus⟩
          | true =>
            simp only [hstatus]
            exact .inr (.inl ⟨_, rfl⟩)
        | _ => exact .inr (.inl ⟨_, rfl⟩)

/-- What is given has a text, or loading fails: by a fault of loading or by what comes through. -/
theorem load_cases (env : Environment) (file url timeout : Json) :
    (∃ source text, Supplies env file url source text) ∨
      (∃ fault, (load env file url timeout).run.1 = .error (.load fault)) ∨
      ∃ f, Escapes env file url f := by
  rw [Load.run_fst]
  unfold load
  split
  · exact .inr (.inl ⟨_, rfl⟩)
  · rename_i path
    obtain ⟨key, octets, cs, hfound, hdecode⟩ | ⟨fault, hfault⟩ | hlong :=
      loadFile_cases env.files (.ofText path) {}
    · exact .inl ⟨_, _, .file hfound hdecode⟩
    · exact .inr (.inl ⟨fault, (Load.result_labelled ..).trans (congrArg _ hfault)⟩)
    · exact .inr (.inr ⟨_, .longPath hlong⟩)
  · rename_i hnull htext
    exact .inr (.inr ⟨_, .notAPath (fun h => hnull h) htext⟩)
  · rename_i text
    obtain ⟨parts, status, body, hsplit, hscheme, hhost, hreply, hstatus⟩ | ⟨fault, hfault⟩ | h :=
      fetch_cases env text timeout {}
    · exact .inl ⟨_, _, .url hsplit hscheme hhost hreply hstatus⟩
    · exact .inr (.inl ⟨fault, (Load.result_labelled ..).trans (congrArg _ hfault)⟩)
    · exact .inr (.inr ⟨_, .malformedUrl h⟩)
  · rename_i hnull htext
    cases htruthy : url.truthy with
    | false => exact .inr (.inl ⟨_, rfl⟩)
    | true => exact .inr (.inr ⟨_, .notAText htext htruthy⟩)
  · exact .inr (.inl ⟨_, rfl⟩)

theorem Escapes.not_load (h : Escapes env file url f) (fault : LoadFault) : f ≠ .load fault := by
  cases h <;> rintro ⟨⟩

theorem Usable.not_escapes (h : Usable env file url) : ¬ Escapes env file url f := by
  intro hescapes
  cases hescapes with
  | notAPath hnull htext =>
    obtain hfile | ⟨path, hfile, -⟩ := h.file_text
    · exact hnull hfile
    · exact htext path hfile
  | notAText htext htruthy =>
    obtain hurl | ⟨text, hurl, -⟩ := h.url_text
    · rw [hurl] at htruthy
      cases htruthy
    · exact htext text hurl
  | longPath hfound =>
    obtain hfile | ⟨path, hfile, hshort⟩ := h.file_text
    · cases hfile
    · cases hfile
      exact hshort (FileTree.tooLong_of_find hfound)
  | malformedUrl hmalformed =>
    obtain hurl | ⟨text, hurl, hvalid⟩ := h.url_text
    · cases hurl
    · cases hurl
      rw [hmalformed] at hvalid
      cases hvalid
  | longNumber htext hread => exact h.numbers _ _ htext (Json.hasLongNumber_of_read hread)

end Outcomes

/-- **How loading ends.** A document is given back, with the source as it was given, exactly if the
source has a text and the text is JSON. The failures that are not reported as faults of loading are
those of `Escapes`, so there is none if what is given can be used. -/
theorem load_outcomes (env : Environment) (file url timeout : Json) :
    (∀ source v, (load env file url timeout).run.1 = .ok (source, v) ↔
      ∃ text, Supplies env file url source text ∧ Json.read env.files.spare text = .ok v) ∧
    (∀ f, ((load env file url timeout).run.1 = .error f ∧ ∀ fault, f ≠ .load fault) ↔
      Escapes env file url f) ∧
    (Usable env file url → (∃ source v, (load env file url timeout).run.1 = .ok (source, v)) ∨
      ∃ fault, (load env file url timeout).run.1 = .error (.load fault)) := by
  -- what is given back, what is reported and what comes through exclude each other
  have hcases : (∃ source text v, Supplies env file url source text ∧ Json.read env.files.spare text = .ok v) ∨
      (∃ fault, (load env file url timeout).run.1 = .error (.load fault)) ∨
      ∃ f, Escapes env file url f := by
    obtain ⟨source, text, htext⟩ | hrest := load_cases env file url timeout
    · cases hread : Json.read env.files.spare text with
      | ok v => exact .inl ⟨source, text, v, htext, hread⟩
      | error e =>
        cases e with
        | malformed what position =>
          exact .inr (.inl ((load_of_supplies timeout htext).2.1 what position hread))
        | tooManyDigits => exact .inr (.inr ⟨_, .longNumber htext hread⟩)
    · exact .inr hrest
  refine ⟨fun source v => ⟨fun hok => ?_, ?_⟩,
    fun f => ⟨?_, fun h => ⟨load_of_escapes h, h.not_load⟩⟩, fun h => ?_⟩
  · obtain ⟨source', text, v', htext, hread⟩ | ⟨fault, hload⟩ | ⟨f, hf⟩ := hcases
    · rw [(load_of_supplies timeout htext).1 _ hread] at hok
      cases hok
      exact ⟨text, htext, hread⟩
    · rw [hload] at hok
      cases hok
    · rw [load_of_escapes hf] at hok
      cases hok
  · rintro ⟨text, htext, hread⟩
    exact (load_of_supplies timeout htext).1 _ hread
  · rintro ⟨herror, hfault⟩
    obtain ⟨source, text, v, htext, hread⟩ | ⟨fault, hload⟩ | ⟨f', hf⟩ := hcases
    · rw [(load_of_supplies timeout htext).1 _ hread] at herror
      cases herror
    · rw [hload] at herror
      exact absurd (Except.error.inj herror).symm (hfault fault)
    · rw [load_of_escapes hf] at herror
      exact Except.error.inj herror ▸ hf
  · obtain ⟨source, text, v, htext, hread⟩ | hload | ⟨f, hf⟩ := hcases
    · exact .inl ⟨source, v, (load_of_supplies timeout htext).1 _ hread⟩
    · exact .inr hload
    · exact absurd hf h.not_escapes

/-- A run that is told that a page is missing. -/
def missingPage : Environment := { reply := .response 404 "" }

/-- The URL can be used, so a document is given back or a fault is reported: here it is the second. -/
theorem missingPage_reported :
    Usable missingPage .null (.str "http://localhost/trip.json") ∧
      ((∃ source v, (load missingPage .null (.str "http://localhost/trip.json")
          defaultTimeout).run.1 = .ok (source, v)) ∨
        ∃ fault, (load missingPage .null (.str "http://localhost/trip.json")
          defaultTimeout).run.1 = .error (.load fault)) ∧
      (load missingPage .null (.str "http://localhost/trip.json") defaultTimeout).run.1 =
        .error (.load (.httpError "http://localhost/trip.json" (some 404))) := by
  have husable : Usable missingPage .null (.str "http://localhost/trip.json") := by
    refine ⟨.inl rfl, .inr ⟨_, rfl, by decide +kernel⟩, fun source text htext => ?_⟩
    cases htext with
    | url hsplit hscheme hhost hreply hstatus =>
      cases hreply
      cases hstatus
  exact ⟨husable, (load_outcomes ..).2.2 husable, by rfl⟩

/-- A URL with an open bracket is no document and no fault of loading. -/
theorem openBracket_not_reported :
    (load {} .null (.str "http://[") defaultTimeout).run.1 =
        .error (.misfit (.malformedUri "http://[")) ∧
      ¬ ((∃ source v, (load {} .null (.str "http://[") defaultTimeout).run.1 = .ok (source, v)) ∨
        ∃ fault, (load {} .null (.str "http://[") defaultTimeout).run.1 =
          .error (.load fault)) := by
  have hload : (load {} .null (.str "http://[") defaultTimeout).run.1 =
      .error (.misfit (.malformedUri "http://[")) :=
    load_of_escapes (.malformedUrl (by decide +kernel))
  refine ⟨hload, ?_⟩
  rw [hload]
  rintro (⟨source, v, ⟨⟩⟩ | ⟨fault, ⟨⟩⟩)

end StructGen
