import StructGen.Proofs.Walk

/-!
# Where discovering fails

Discovering a node visits the nodes inside it in order and fails at the first one that is not ready.
Following the first such node inside the first such node, and so on, is a walk without choice. It
comes back to an object, or it runs through arrays for ever, or it stops at a node that has another
defect; these exclude each other.

* `Graph.Blames` is a step of that walk;
* `Graph.Returns`, `Graph.Unwinds` and `Graph.Stops` are its three ends.
-/

namespace StructGen.Schema

open Relation

/-! ### Walks without choice -/

section RightUnique

variable {α : Type} {r : α → α → Prop} {a b c : α}

/-- What is met after a loop is on the loop. -/
theorem back_of_loop (unique : Relator.RightUnique r) (hloop : TransGen r a a)
    (h : ReflTransGen r a b) : ReflTransGen r b a := by
  induction h with
  | refl => exact .refl
  | tail _ hs ih =>
    obtain ⟨y, hy, hrest⟩ := TransGen.head'_iff.1 (hloop.trans_right ih)
    rwa [unique hs hy]

/-- From every point of a walk that gets to a loop, the loop is ahead. -/
theorem loop_ahead (unique : Relator.RightUnique r) (ha : ReflTransGen r c a)
    (hloop : TransGen r a a) (hb : ReflTransGen r c b) : ReflTransGen r b a := by
  rcases ReflTransGen.total_of_right_unique unique ha hb with h | h
  · exact back_of_loop unique hloop h
  · exact h

end RightUnique

namespace Graph

variable {g : Graph}

/-! ### The first node that is not ready -/

/-- `c` is the first of some nodes that is not ready. -/
def FirstOpen (g : Graph) (cs : List NodeId) (c : NodeId) : Prop :=
  ∃ pre post, cs = pre ++ c :: post ∧ (∀ x ∈ pre, g.Ready x) ∧ ¬ g.Ready c

theorem FirstOpen.mem {cs : List NodeId} {c : NodeId} (h : g.FirstOpen cs c) : c ∈ cs := by
  obtain ⟨pre, post, rfl, -, -⟩ := h
  simp

theorem FirstOpen.append {pre cs : List NodeId} {c : NodeId} (hpre : ∀ x ∈ pre, g.Ready x)
    (h : g.FirstOpen cs c) (post : List NodeId) : g.FirstOpen (pre ++ (cs ++ post)) c := by
  obtain ⟨pre', post', rfl, hpre', hc⟩ := h
  refine ⟨pre ++ pre', post' ++ post, by simp, fun x hx => ?_, hc⟩
  rcases List.mem_append.1 hx with hx | hx
  · exact hpre x hx
  · exact hpre' x hx

theorem not_firstOpen_of_ready {cs : List NodeId} {c : NodeId} (h : ∀ x ∈ cs, g.Ready x) :
    ¬ g.FirstOpen cs c := fun hc => by
  have hmem := hc.mem
  obtain ⟨-, -, -, -, hopen⟩ := hc
  exact hopen (h c hmem)

/-- Unless all nodes are ready, there is a first one that is not. -/
theorem exists_firstOpen {cs : List NodeId} (h : ¬ ∀ x ∈ cs, g.Ready x) :
    ∃ c, g.FirstOpen cs c := by
  induction cs with
  | nil => exact absurd (by simp) h
  | cons x cs ih =>
    by_cases hx : g.Ready x
    · obtain ⟨c, pre, post, rfl, hpre, hc⟩ := ih fun hcs => h (List.forall_mem_cons.2 ⟨hx, hcs⟩)
      exact ⟨c, x :: pre, post, rfl, List.forall_mem_cons.2 ⟨hx, hpre⟩, hc⟩
    · exact ⟨x, [], cs, rfl, by simp, hx⟩

theorem FirstOpen.unique {cs : List NodeId} {c c' : NodeId} (h : g.FirstOpen cs c)
    (h' : g.FirstOpen cs c') : c = c' := by
  obtain ⟨pre, post, rfl, hpre, hc⟩ := h
  obtain ⟨pre', post', heq, hpre', hc'⟩ := h'
  rcases List.append_eq_append_iff.1 heq with ⟨m, rfl, hm⟩ | ⟨m, rfl, hm⟩
  · cases m with
    | nil => exact (List.cons.inj hm).1
    | cons x m =>
      obtain ⟨rfl, -⟩ := List.cons.inj hm
      exact absurd (hpre' c (by simp)) hc
  · cases m with
    | nil => exact (List.cons.inj hm).1.symm
    | cons x m =>
      obtain ⟨rfl, -⟩ := List.cons.inj hm
      exact absurd (hpre c' (by simp)) hc'

/-- A step to the first node inside that is not ready, if it is no misplaced reference. -/
def Blames (g : Graph) (a b : NodeId) : Prop :=
  ∃ c, g.FirstOpen (g.inside a) c ∧ g.Placed c ∧ g.target c = b

theorem blames_unique : Relator.RightUnique g.Blames := by
  rintro a b b' ⟨c, hc, -, rfl⟩ ⟨c', hc', -, rfl⟩
  rw [hc.unique hc']

theorem Blames.enters {a b : NodeId} (h : g.Blames a b) : g.Enters a b := by
  obtain ⟨c, hc, -, rfl⟩ := h
  exact ⟨c, hc.mem, rfl⟩

theorem not_declarable_of_firstOpen {a c : NodeId} (h : g.FirstOpen (g.inside a) c) :
    ¬ g.Declarable a := fun ha => not_firstOpen_of_ready (fun _ hx => ha.ready hx) h

/-! ### Arrays that lead back to themselves -/

/-- A step from an array to its items. -/
def Unrolls (g : Graph) (a b : NodeId) : Prop :=
  g.IsArray a ∧ ∃ c, (g.node a).items = some c ∧ g.Placed c ∧ g.target c = b

theorem Unrolls.enters {a b : NodeId} (h : g.Unrolls a b) : g.Enters a b := by
  obtain ⟨ha, c, hc, -, rfl⟩ := h
  exact ⟨c, by rw [inside_of_isArray ha, hc]; simp, rfl⟩

/-- The step from an array on a loop of arrays: the next array is on a loop as well. -/
theorem unrolls_of_loop {a : NodeId} (h : TransGen g.Unrolls a a) :
    ∃ b, g.Unrolls a b ∧ TransGen g.Unrolls b b := by
  obtain ⟨b, hb, hrest⟩ := TransGen.head'_iff.1 h
  exact ⟨b, hb, .tail' hrest hb⟩

theorem not_declarable_of_unrolls {a : NodeId} (h : TransGen g.Unrolls a a) : ¬ g.Declarable a :=
  fun ha => ha.not_loop (TransGen.mono (fun _ _ => Unrolls.enters) _ _ h)

theorem Unrolls.blames {a b : NodeId} (h : g.Unrolls a b) (hb : ¬ g.Declarable b) :
    g.Blames a b := by
  obtain ⟨ha, c, hc, hp, rfl⟩ := h
  refine ⟨c, ⟨[], [], ?_, by simp, fun hr => hb hr.2⟩, hp, rfl⟩
  rw [inside_of_isArray ha, hc]
  rfl

/-- From a loop of arrays only loops of arrays are blamed. -/
theorem loop_of_blames {a b : NodeId} (h : TransGen g.Unrolls a a)
    (hb : ReflTransGen g.Blames a b) : TransGen g.Unrolls b b := by
  induction hb with
  | refl => exact h
  | tail _ hs ih =>
    obtain ⟨c, hc, hloop⟩ := unrolls_of_loop ih
    rwa [blames_unique hs (hc.blames (not_declarable_of_unrolls hloop))]

/-! ### The three ends -/

/-- The walk from `t` comes back to an object. -/
def Returns (g : Graph) (t : NodeId) : Prop :=
  ∃ o, g.IsObject o ∧ ReflTransGen g.Blames t o ∧ TransGen g.Blames o o

/-- The walk from `t` runs through arrays for ever. -/
def Unwinds (g : Graph) (t : NodeId) : Prop :=
  ∃ x, ReflTransGen g.Blames t x ∧ TransGen g.Unrolls x x

/-- The walk from `t` stops. -/
def Stops (g : Graph) (t : NodeId) : Prop :=
  ∃ x, ReflTransGen g.Blames t x ∧ ∀ y, ¬ g.Blames x y

theorem Returns.not_unwinds {t : NodeId} (h : g.Returns t) : ¬ g.Unwinds t := by
  obtain ⟨o, ho, hto, hloop⟩ := h
  rintro ⟨x, htx, hx⟩
  have hxo := loop_ahead blames_unique hto hloop htx
  obtain ⟨b, hb, -⟩ := unrolls_of_loop (loop_of_blames hx hxo)
  exact not_isArray_of_isObject ho hb.1

theorem not_stops_of_loop {t a : NodeId} (hta : ReflTransGen g.Blames t a)
    (hloop : TransGen g.Blames a a) : ¬ g.Stops t := by
  rintro ⟨x, htx, hx⟩
  have hxa := loop_ahead blames_unique hta hloop htx
  obtain ⟨y, hy, -⟩ := TransGen.head'_iff.1 (hloop.trans_right hxa)
  exact hx y hy

theorem Returns.not_stops {t : NodeId} (h : g.Returns t) : ¬ g.Stops t := by
  obtain ⟨o, -, hto, hloop⟩ := h
  exact not_stops_of_loop hto hloop

theorem blames_of_unrolls {a b : NodeId} (h : TransGen g.Unrolls a b) (hb : ¬ g.Declarable b) :
    TransGen g.Blames a b := by
  induction h using TransGen.head_induction_on with
  | single hs => exact .single (hs.blames hb)
  | head hs hrest ih =>
    refine .head (hs.blames fun hx => hb (hx.enters ?_)) ih
    exact (TransGen.mono (fun _ _ => Unrolls.enters) _ _ hrest).to_reflTransGen

theorem Unwinds.not_stops {t : NodeId} (h : g.Unwinds t) : ¬ g.Stops t := by
  obtain ⟨x, htx, hx⟩ := h
  exact not_stops_of_loop htx (blames_of_unrolls hx (not_declarable_of_unrolls hx))

end Graph

end StructGen.Schema
