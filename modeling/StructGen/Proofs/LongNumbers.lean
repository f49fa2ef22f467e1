import StructGen.Json.Reader
import Mathlib.Data.List.Infix
import Mathlib.Data.List.TakeWhile

/-!
# Numbers that are too long to be read

Reading a JSON text stops at an integer with more digits than are accepted, which is no fault of the
text. The reader goes through the text from left to right and every number that it comes to stands
there as a run of digits, so a text without a run of that many digits is read or is malformed.

* `HasLongNumber` is a text with such a run;
* `ReadsWithin` says what a step of the reader does, `readsWithin_readers` follows the reader;
* `hasLongNumber_of_read` is the result.
-/

namespace StructGen.Json

/-- A text has a run of more digits than an integer may have. -/
def HasLongNumber (cs : List Char) : Prop :=
  ∃ digits, digits <:+: cs ∧ (∀ d ∈ digits, isAsciiDigit d = true) ∧
    Text.maxDigits < digits.length

theorem HasLongNumber.of_suffix {cs ds : List Char} (h : HasLongNumber cs) (hsuffix : cs <:+ ds) :
    HasLongNumber ds := by
  obtain ⟨digits, hinfix, hdigits⟩ := h
  exact ⟨digits, hinfix.trans hsuffix.isInfix, hdigits⟩

/-- A step of the reader on a text leaves an end of the text, and refuses a number only if the text
has a long one. -/
def ReadsWithin {α : Type} (cs : List Char) (r : Except ReadFault (α × Cursor)) : Prop :=
  (∀ a c, r = .ok (a, c) → c.rest <:+ cs) ∧ (r = .error .tooManyDigits → HasLongNumber cs)

section Steps

variable {α β : Type} {cs ds : List Char} {c : Cursor}

theorem ReadsWithin.mono {r : Except ReadFault (α × Cursor)} (h : ReadsWithin cs r)
    (hsuffix : cs <:+ ds) : ReadsWithin ds r :=
  ⟨fun a c hr => (h.1 a c hr).trans hsuffix, fun hr => (h.2 hr).of_suffix hsuffix⟩

theorem readsWithin_ok (a : α) (h : c.rest <:+ cs) : ReadsWithin cs (.ok (a, c)) := by
  refine ⟨fun b d hr => ?_, fun hr => ?_⟩
  · cases hr
    exact h
  · cases hr

theorem readsWithin_malformed (what : Malformation) (position : Nat) :
    ReadsWithin cs (.error (.malformed what position) : Except ReadFault (α × Cursor)) := by
  constructor
  · rintro _ _ ⟨⟩
  · rintro ⟨⟩

theorem readsWithin_fail (c : Cursor) (what : Malformation) :
    ReadsWithin cs (c.fail what : Except ReadFault (α × Cursor)) :=
  readsWithin_malformed what c.position

theorem ReadsWithin.bind {r : Except ReadFault (α × Cursor)}
    {f : α × Cursor → Except ReadFault (β × Cursor)} (h : ReadsWithin cs r)
    (hf : ∀ a c, ReadsWithin c.rest (f (a, c))) : ReadsWithin cs (r >>= f) := by
  cases r with
  | error e =>
    constructor
    · rintro _ _ ⟨⟩
    · rintro ⟨⟩
      exact h.2 rfl
  | ok p => exact (hf p.1 p.2).mono (h.1 p.1 p.2 rfl)

theorem skip_suffix (c : Cursor) (n : Nat) : (c.skip n).rest <:+ c.rest := List.drop_suffix n c.rest

theorem skipSpaces_suffix (c : Cursor) : c.skipSpaces.rest <:+ c.rest := skip_suffix c _

end Steps

/-! ### Strings and numbers -/

theorem readsWithin_readStringFrom (spare : Text.Plane) (start p : Nat) (st : StringState)
    (u : Unfinished) (cs : List Char) : ReadsWithin cs (readStringFrom spare start p st u cs) := by
  induction cs generalizing p st u with
  | nil =>
    unfold readStringFrom
    cases st with
    | plain => exact readsWithin_malformed _ _
    | escape backslash => exact readsWithin_malformed _ _
    | hex mark left value => exact readsWithin_malformed _ _
  | cons c cs ih =>
    have hrest : ∀ p st u, ReadsWithin (c :: cs) (readStringFrom spare start p st u cs) :=
      fun p st u => (ih p st u).mono (List.suffix_cons c cs)
    unfold readStringFrom
    cases st with
    | plain =>
      dsimp only
      split_ifs
      · exact readsWithin_ok _ (List.suffix_cons c cs)
      · exact hrest _ _ _
      · exact readsWithin_malformed _ _
      · exact hrest _ _ _
    | escape backslash =>
      dsimp only
      split_ifs
      · exact hrest _ _ _
      · cases escaped? c with
        | none => exact readsWithin_malformed _ _
        | some d => exact hrest _ _ _
    | hex mark left value =>
      dsimp only
      cases Text.hexValue? c with
      | none => exact readsWithin_malformed _ _
      | some d =>
        dsimp only
        split_ifs
        · exact readsWithin_malformed _ _
        · exact hrest _ _ _
        · exact hrest _ _ _

theorem readsWithin_readString (spare : Text.Plane) (c : Cursor) :
    ReadsWithin c.rest (readString spare c) :=
  readsWithin_readStringFrom _ _ _ _ _ _

/-- A number without its sign. -/
def unsigned (cs : List Char) : List Char := if cs.head? == some '-' then cs.drop 1 else cs

/-- The whole digits that a number without a sign starts with. -/
def wholeDigits (cs : List Char) : List Char :=
  match cs with
  | '0' :: _ => ['0']
  | _ => cs.takeWhile isAsciiDigit

theorem whole_of_scanNumber {cs : List Char} {t : NumberText} {n : Nat}
    (h : scanNumber cs = some (t, n)) : t.whole = wholeDigits (unsigned cs) := by
  unfold scanNumber at h
  extract_lets negative ds whole rest fraction tail plain finish at h
  split_ifs at h with hempty
  · cases h
  · unfold finish at h
    split at h
    · rw [← (Prod.mk.inj (Option.some.inj h)).1]
      rfl
    · rw [← (Prod.mk.inj (Option.some.inj h)).1]
      rfl

/-- Whole digits that are too many are a run of digits of the text. -/
theorem hasLongNumber_of_wholeDigits {cs : List Char}
    (h : Text.maxDigits < (wholeDigits (unsigned cs)).length) : HasLongNumber cs := by
  have hsuffix : unsigned cs <:+ cs := by
    unfold unsigned
    split_ifs
    · exact List.drop_suffix 1 cs
    · exact List.suffix_rfl
  unfold wholeDigits at h
  split at h
  · exact absurd h (by decide)
  · exact ⟨_, (List.takeWhile_prefix _).isInfix.trans hsuffix.isInfix,
      fun d hd => List.mem_takeWhile_imp hd, h⟩

theorem NumberText.value_eq_tooManyDigits {t : NumberText} (h : t.value = .error .tooManyDigits) :
    Text.maxDigits < t.whole.length := by
  unfold value at h
  split_ifs at h with hinteger hlong
  exact hlong

theorem readsWithin_readScalar (c : Cursor) : ReadsWithin c.rest (readScalar c) := by
  unfold readScalar
  cases constant? c.rest with
  | some p => exact readsWithin_ok _ (skip_suffix c _)
  | none =>
    dsimp only
    cases hscan : scanNumber c.rest with
    | none => exact readsWithin_fail c _
    | some q =>
      dsimp only
      cases hvalue : q.1.value with
      | ok v => exact readsWithin_ok v (skip_suffix c _)
      | error e =>
        cases e with
        | malformed what position => exact readsWithin_malformed what position
        | tooManyDigits =>
          have hlong := NumberText.value_eq_tooManyDigits hvalue
          rw [whole_of_scanNumber hscan] at hlong
          refine ⟨?_, fun _ => hasLongNumber_of_wholeDigits hlong⟩
          rintro _ _ ⟨⟩

/-! ### Values -/

/-- What the reader does with a value, with items and with members. -/
theorem readsWithin_readers (spare : Text.Plane) (fuel : Nat) :
    (∀ c, ReadsWithin c.rest (readValue spare fuel c)) ∧
      (∀ items c, ReadsWithin c.rest (readItems spare fuel items c)) ∧
      ∀ entries c, ReadsWithin c.rest (readMembers spare fuel entries c) := by
  -- the three readers call each other, each time with less fuel
  induction fuel with
  | zero =>
    refine ⟨fun c => ?_, fun items c => ?_, fun entries c => ?_⟩
    · exact readsWithin_fail c _
    · exact readsWithin_fail c _
    · exact readsWithin_fail c _
  | succ fuel ih =>
    obtain ⟨hvalue, hitems, hmembers⟩ := ih
    have hopen : ∀ c : Cursor, (c.skip 1).skipSpaces.rest <:+ c.rest := fun c =>
      (skipSpaces_suffix _).trans (skip_suffix c 1)
    have hnext : ∀ c : Cursor, (c.skipSpaces.skip 1).skipSpaces.rest <:+ c.rest := fun c =>
      (hopen _).trans (skipSpaces_suffix c)
    have hclose : ∀ c : Cursor, (c.skipSpaces.skip 1).rest <:+ c.rest := fun c =>
      (skip_suffix _ 1).trans (skipSpaces_suffix c)
    refine ⟨fun c => ?_, fun items c => ?_, fun entries c => ?_⟩
    · unfold readValue
      split
      · refine ((readsWithin_readString spare (c.skip 1)).bind fun s d => ?_).mono (skip_suffix c 1)
        exact readsWithin_ok _ List.suffix_rfl
      · dsimp only
        split_ifs
        · exact readsWithin_ok _ ((skip_suffix _ 1).trans (hopen c))
        · exact (hitems [] _).mono (hopen c)
      · dsimp only
        split_ifs
        · exact readsWithin_ok _ ((skip_suffix _ 1).trans (hopen c))
        · exact (hmembers [] _).mono (hopen c)
      · exact readsWithin_readScalar c
    · unfold readItems
      refine (hvalue c).bind fun v d => ?_
      dsimp only
      split
      · exact readsWithin_ok _ (hclose d)
      · exact (hitems _ _).mono (hnext d)
      · exact readsWithin_fail _ _
    · unfold readMembers
      split_ifs
      · exact readsWithin_fail c _
      · refine ((readsWithin_readString spare (c.skip 1)).bind fun key d => ?_).mono (skip_suffix c 1)
        dsimp only
        split_ifs
        · exact readsWithin_fail _ _
        · refine ((hvalue _).bind fun v e => ?_).mono (hnext d)
          dsimp only
          split
          · exact readsWithin_ok _ (hclose e)
          · exact (hmembers _ _).mono (hnext e)
          · exact readsWithin_fail _ _

/-- **Only a text with a run of too many digits is refused for its numbers.** -/
theorem hasLongNumber_of_read {spare : Text.Plane} {text : List Char}
    (h : read spare text = .error .tooManyDigits) : HasLongNumber text := by
  have hread := ((readsWithin_readers spare (2 * text.length + 2)).1
    (⟨0, text⟩ : Cursor).skipSpaces).mono (skipSpaces_suffix ⟨0, text⟩)
  unfold read at h
  dsimp only at h
  split_ifs at h with hmark
  · cases h
  · apply hread.2
    cases hvalue : readValue spare (2 * text.length + 2) (⟨0, text⟩ : Cursor).skipSpaces with
    | error e =>
      rw [hvalue] at h
      cases h
      rfl
    | ok p =>
      rw [hvalue] at h
      change (if p.2.skipSpaces.rest.isEmpty then .ok p.1 else p.2.skipSpaces.fail _) = _ at h
      split_ifs at h
      cases h

end StructGen.Json
