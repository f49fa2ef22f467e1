import Mathlib.Data.List.Basic

/-!
# Outcomes of computations

A computation that keeps a state either ends with a result and a new state, or fails. `Ends x s Q E`
says that `x`, started in the state `s`, ends with a result and a state for which `Q` holds, or
fails with a failure for which `E` holds. `EndsIn` is the same where the state that a failure leaves
matters as well.

* `endsIn_bind`, `ends_bind` and their companions follow the steps of a computation;
* `ends_forM`, `ends_mapM`, `ends_foldlM` follow a list, by an invariant over the part that is done;
* `mapM_eq_ok`, `mapM_eq_error` are the same for computations without a state, and
  `mapM_of_first_error` finds the failure of a list of them.
-/

namespace StructGen

section Stateful

variable {ε σ α β : Type}

/-- How a computation ends: `Q` holds of its result and the state after it, or `E` of its failure
and the state that it has left. -/
def EndsIn (x : EStateM ε σ α) (s : σ) (Q : α → σ → Prop) (E : ε → σ → Prop) : Prop :=
  match x s with
  | .ok a s' => Q a s'
  | .error e s' => E e s'

/-- How a computation ends: `Q` holds of its result and the state after it, or `E` of its
failure. -/
def Ends (x : EStateM ε σ α) (s : σ) (Q : α → σ → Prop) (E : ε → Prop) : Prop :=
  match x s with
  | .ok a s' => Q a s'
  | .error e _ => E e

section Steps

variable {x : EStateM ε σ α} {f : α → EStateM ε σ β} {s : σ} {Q : α → σ → Prop}
  {E : ε → σ → Prop}

@[simp] theorem endsIn_pure (a : α) : EndsIn (pure a) s Q E ↔ Q a s := Iff.rfl

@[simp] theorem endsIn_throw (e : ε) : EndsIn (throw e) s Q E ↔ E e s := Iff.rfl

@[simp] theorem endsIn_get {Q : σ → σ → Prop} : EndsIn get s Q E ↔ Q s s := Iff.rfl

@[simp] theorem endsIn_set {Q : PUnit → σ → Prop} (t : σ) : EndsIn (set t) s Q E ↔ Q ⟨⟩ t :=
  Iff.rfl

@[simp] theorem endsIn_bind {Q : β → σ → Prop} :
    EndsIn (x >>= f) s Q E ↔ EndsIn x s (fun a s' => EndsIn (f a) s' Q E) E := by
  change EndsIn (EStateM.bind x f) s Q E ↔ _
  unfold EndsIn EStateM.bind
  cases x s <;> exact Iff.rfl

@[simp] theorem endsIn_map {Q : β → σ → Prop} (h : α → β) :
    EndsIn (h <$> x) s Q E ↔ EndsIn x s (fun a s' => Q (h a) s') E := by
  change EndsIn (EStateM.map h x) s Q E ↔ _
  unfold EndsIn EStateM.map
  cases x s <;> exact Iff.rfl

theorem EndsIn.mono {Q' : α → σ → Prop} {E' : ε → σ → Prop} (h : EndsIn x s Q E)
    (hQ : ∀ a s', Q a s' → Q' a s') (hE : ∀ e s', E e s' → E' e s') : EndsIn x s Q' E' := by
  unfold EndsIn at h ⊢
  split at h
  · exact hQ _ _ h
  · exact hE _ _ h

theorem EndsIn.and {Q' : α → σ → Prop} {E' : ε → σ → Prop} (h : EndsIn x s Q E)
    (h' : EndsIn x s Q' E') :
    EndsIn x s (fun a s' => Q a s' ∧ Q' a s') (fun e s' => E e s' ∧ E' e s') := by
  unfold EndsIn at h h' ⊢
  cases hx : x s with
  | ok a s' =>
    rw [hx] at h h'
    exact ⟨h, h'⟩
  | error e s' =>
    rw [hx] at h h'
    exact ⟨h, h'⟩

end Steps

variable {x : EStateM ε σ α} {f : α → EStateM ε σ β} {s : σ} {Q : α → σ → Prop} {E : ε → Prop}

@[simp] theorem ends_pure (a : α) : Ends (pure a) s Q E ↔ Q a s := Iff.rfl

@[simp] theorem ends_throw (e : ε) : Ends (throw e) s Q E ↔ E e := Iff.rfl

@[simp] theorem ends_get {Q : σ → σ → Prop} : Ends get s Q E ↔ Q s s := Iff.rfl

@[simp] theorem ends_set {Q : PUnit → σ → Prop} (t : σ) : Ends (set t) s Q E ↔ Q ⟨⟩ t := Iff.rfl

@[simp] theorem ends_modify {Q : PUnit → σ → Prop} (t : σ → σ) :
    Ends (modify t) s Q E ↔ Q ⟨⟩ (t s) := Iff.rfl

@[simp] theorem ends_bind {Q : β → σ → Prop} :
    Ends (x >>= f) s Q E ↔ Ends x s (fun a s' => Ends (f a) s' Q E) E := endsIn_bind

@[simp] theorem ends_map {Q : β → σ → Prop} (h : α → β) :
    Ends (h <$> x) s Q E ↔ Ends x s (fun a s' => Q (h a) s') E := endsIn_map h

/-- A computation ends somehow. -/
theorem ends_trivial (x : EStateM ε σ α) (s : σ) : Ends x s (fun _ _ => True) fun _ => True := by
  unfold Ends
  split <;> trivial

theorem Ends.mono {Q' : α → σ → Prop} {E' : ε → Prop} (h : Ends x s Q E)
    (hQ : ∀ a s', Q a s' → Q' a s') (hE : ∀ e, E e → E' e) : Ends x s Q' E' :=
  EndsIn.mono h hQ fun e _ => hE e

theorem Ends.and {Q' : α → σ → Prop} (h : Ends x s Q E) (h' : Ends x s Q' E) :
    Ends x s (fun a s' => Q a s' ∧ Q' a s') E :=
  (EndsIn.and h h').mono (fun _ _ h => h) fun _ _ hf => hf.1

theorem Ends.of_ok {a : α} {s' : σ} (h : Ends x s Q E) (hx : x s = .ok a s') : Q a s' := by
  unfold Ends at h
  rwa [hx] at h

theorem Ends.of_error {e : ε} {s' : σ} (h : Ends x s Q E) (hx : x s = .error e s') : E e := by
  unfold Ends at h
  rwa [hx] at h

/-! ### Lists -/

/-- Doing something for every item of a list: `I` holds of the items that are done. -/
theorem ends_forM {g : α → EStateM ε σ PUnit} {l : List α} (I : List α → σ → Prop) (nil : I [] s)
    (step : ∀ pre a post s', l = pre ++ a :: post → I pre s' →
      Ends (g a) s' (fun _ s'' => I (pre ++ [a]) s'') E) :
    Ends (l.forM g) s (fun _ s' => I l s') E := by
  -- the items that are done and those that are left make up the list
  have rest : ∀ post pre s', l = pre ++ post → I pre s' →
      Ends (post.forM g) s' (fun _ s'' => I l s'') E := by
    intro post
    induction post with
    | nil => intro pre s' hl hI; rw [hl, List.append_nil]; exact hI
    | cons a post ih =>
      intro pre s' hl hI
      rw [show (a :: post).forM g = (g a >>= fun _ => post.forM g) from rfl, ends_bind]
      refine (step pre a post s' hl hI).mono (fun _ s'' h => ?_) (fun _ h => h)
      exact ih (pre ++ [a]) s'' (by simpa using hl) h
  exact rest l [] s rfl nil

/-- Computing a result for every item of a list: `I` holds of the items that are done and their
results. -/
theorem endsIn_mapM {E : ε → σ → Prop} {g : α → EStateM ε σ β} {l : List α}
    (I : List α → List β → σ → Prop) (nil : I [] [] s)
    (step : ∀ pre a post bs s', l = pre ++ a :: post → I pre bs s' →
      EndsIn (g a) s' (fun b s'' => I (pre ++ [a]) (bs ++ [b]) s'') E) :
    EndsIn (l.mapM g) s (fun bs s' => I l bs s') E := by
  have rest : ∀ post pre bs s', l = pre ++ post → I pre bs s' →
      EndsIn (post.mapM g) s' (fun cs s'' => I l (bs ++ cs) s'') E := by
    intro post
    induction post with
    | nil =>
      intro pre bs s' hl hI
      rw [hl, List.append_nil, List.mapM_nil, endsIn_pure, List.append_nil]
      exact hI
    | cons a post ih =>
      intro pre bs s' hl hI
      simp only [List.mapM_cons, endsIn_bind, endsIn_pure]
      refine (step pre a post bs s' hl hI).mono (fun b s'' h => ?_) (fun _ _ h => h)
      refine (ih (pre ++ [a]) (bs ++ [b]) s'' (by simpa using hl) h).mono (fun cs t ht => ?_)
        (fun _ _ h => h)
      simpa using ht
  simpa using rest l [] [] s rfl nil

theorem ends_mapM {g : α → EStateM ε σ β} {l : List α} (I : List α → List β → σ → Prop)
    (nil : I [] [] s)
    (step : ∀ pre a post bs s', l = pre ++ a :: post → I pre bs s' →
      Ends (g a) s' (fun b s'' => I (pre ++ [a]) (bs ++ [b]) s'') E) :
    Ends (l.mapM g) s (fun bs s' => I l bs s') E := endsIn_mapM I nil step

/-- Folding a list: `I` holds of the items that are done and the value they have led to. -/
theorem ends_foldlM {g : β → α → EStateM ε σ β} {l : List α} {b : β} (I : List α → β → σ → Prop)
    (nil : I [] b s)
    (step : ∀ pre a post b s', l = pre ++ a :: post → I pre b s' →
      Ends (g b a) s' (fun b s'' => I (pre ++ [a]) b s'') E) :
    Ends (l.foldlM g b) s (fun b s' => I l b s') E := by
  have rest : ∀ post pre b s', l = pre ++ post → I pre b s' →
      Ends (post.foldlM g b) s' (fun b s'' => I l b s'') E := by
    intro post
    induction post with
    | nil => intro pre b s' hl hI; rw [hl, List.append_nil]; exact hI
    | cons a post ih =>
      intro pre b s' hl hI
      rw [List.foldlM_cons, ends_bind]
      refine (step pre a post b s' hl hI).mono (fun b s'' h => ?_) (fun _ h => h)
      exact ih (pre ++ [a]) b s'' (by simpa using hl) h
  exact rest l [] b s rfl nil

end Stateful

/-! ### Computations without a state -/

section Stateless

variable {ε α β : Type} {f : α → Except ε β}

theorem ok_of_toOption {x : Except ε α} {a : α} (h : x.toOption = some a) : x = .ok a := by
  cases x with
  | ok b => exact congrArg Except.ok (Option.some.inj h)
  | error e => cases h

theorem bind_eq_ok {x : Except ε α} {b : β} :
    (x >>= f) = .ok b ↔ ∃ a, x = .ok a ∧ f a = .ok b := by
  cases x with
  | error e => simp [bind, Except.bind]
  | ok a => simp [bind, Except.bind]

theorem bind_eq_error {x : Except ε α} {e : ε} :
    (x >>= f) = .error e ↔ x = .error e ∨ ∃ a, x = .ok a ∧ f a = .error e := by
  cases x with
  | error e => simp [bind, Except.bind]
  | ok a => simp [bind, Except.bind]

theorem map_eq_ok {x : Except ε α} {g : α → β} {b : β} :
    g <$> x = .ok b ↔ ∃ a, x = .ok a ∧ g a = b := by
  cases x with
  | error e => simp [Functor.map, Except.map]
  | ok a => simp [Functor.map, Except.map]

theorem mapM_eq_ok {l : List α} {bs : List β} :
    l.mapM f = .ok bs ↔ List.Forall₂ (fun a b => f a = .ok b) l bs := by
  constructor
  · intro h
    induction l generalizing bs with
    | nil => cases h; exact .nil
    | cons a l ih =>
      rw [List.mapM_cons] at h
      cases ha : f a with
      | error e => rw [ha] at h; cases h
      | ok b =>
        cases hl : l.mapM f with
        | error e => rw [ha, hl] at h; cases h
        | ok cs => rw [ha, hl] at h; cases h; exact .cons ha (ih hl)
  · intro h
    induction h with
    | nil => rfl
    | cons hab _ ih => rw [List.mapM_cons, hab, ih]; rfl

theorem mapM_eq_error {l : List α} {e : ε} (h : l.mapM f = .error e) : ∃ a ∈ l, f a = .error e := by
  induction l with
  | nil => cases h
  | cons a l ih =>
    rw [List.mapM_cons] at h
    cases ha : f a with
    | error e' => rw [ha] at h; cases h; exact ⟨a, List.mem_cons_self, ha⟩
    | ok b =>
      cases hl : l.mapM f with
      | error e' =>
        rw [ha, hl] at h
        cases h
        obtain ⟨c, hc, hf⟩ := ih hl
        exact ⟨c, List.mem_cons_of_mem a hc, hf⟩
      | ok cs => rw [ha, hl] at h; cases h

/-- A list of computations fails as the first of them that fails. -/
theorem mapM_of_first_error {before rest : List α} {a : α} {e : ε}
    (hbefore : ∀ b ∈ before, ∃ c, f b = .ok c) (ha : f a = .error e) :
    (before ++ a :: rest).mapM f = .error e := by
  induction before with
  | nil =>
    rw [List.nil_append, List.mapM_cons, ha]
    rfl
  | cons b before ih =>
    obtain ⟨⟨c, hc⟩, hbefore⟩ := List.forall_mem_cons.1 hbefore
    rw [List.cons_append, List.mapM_cons, hc, ih hbefore]
    rfl

/-- All computations of a list have results, or there is a first one that fails. -/
theorem forall_ok_or_first_error (f : α → Except ε β) (l : List α) :
    (∀ a ∈ l, ∃ b, f a = .ok b) ∨ ∃ before a rest e, l = before ++ a :: rest ∧
      (∀ b ∈ before, ∃ c, f b = .ok c) ∧ f a = .error e := by
  induction l with
  | nil => exact .inl (by simp)
  | cons a l ih =>
    cases ha : f a with
    | error e => exact .inr ⟨[], a, l, e, rfl, by simp, ha⟩
    | ok b =>
      obtain hall | ⟨before, a', rest, e, rfl, hbefore, herror⟩ := ih
      · exact .inl (List.forall_mem_cons.2 ⟨⟨b, ha⟩, hall⟩)
      · exact .inr ⟨a :: before, a', rest, e, rfl, List.forall_mem_cons.2 ⟨⟨b, ha⟩, hbefore⟩, herror⟩

/-- Every result of a list comes from one of its items. -/
theorem exists_of_forall₂ {R : α → β → Prop} {l : List α} {bs : List β} (h : List.Forall₂ R l bs)
    {b : β} (hb : b ∈ bs) : ∃ a ∈ l, R a b := by
  induction h with
  | nil => cases hb
  | @cons a _ l _ hab _ ih =>
    rcases List.mem_cons.1 hb with rfl | hb
    · exact ⟨a, List.mem_cons_self, hab⟩
    · obtain ⟨a', ha', hab'⟩ := ih hb
      exact ⟨a', List.mem_cons_of_mem a ha', hab'⟩

end Stateless

end StructGen
