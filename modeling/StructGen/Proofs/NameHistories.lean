import StructGen.Proofs.FreshNames
import Mathlib.Data.List.Induction

/-!
# Histories of names

A registry is asked for names and told names, in any order. Whatever it has been asked and told, a
claim hands out the wanted name if nobody has it yet, and else the wanted name with the least number
behind it that makes it a name which nobody has; the numbers are looked through from two on and
there are never more of them to look through than the registry has been used before.

* `Operation` is one use of a registry, `after` the registry that some uses make of a new one;
* `Taken` are the names that a history has handed out or recorded;
* `mem_used_after` says that these are the names in use;
* `claim_after` is the result.
-/

namespace StructGen.Registry

open Schema (NodeId)

/-! ### Operations -/

/-- A use of a registry: a name is claimed, or the name of a node is recorded. -/
inductive Operation where
  | claim (name : String)
  | register (id : NodeId) (name : String)
  deriving DecidableEq

/-- The registry after an operation. -/
def apply (r : Registry) : Operation → Registry
  | .claim name => (r.claim name).2
  | .register id name => r.register id name

/-- The name that an operation puts in use. -/
def given (r : Registry) : Operation → String
  | .claim name => (r.claim name).1
  | .register _ name => name

theorem used_apply (r : Registry) (op : Operation) : (r.apply op).used = r.given op :: r.used := by
  cases op with
  | claim name => rfl
  | register id name => rfl

/-- The registry after some operations on a new one. -/
def after (ops : List Operation) : Registry := ops.foldl apply {}

@[simp] theorem after_nil : after [] = {} := rfl

@[simp] theorem after_concat (ops : List Operation) (op : Operation) :
    after (ops ++ [op]) = (after ops).apply op := by
  rw [after, List.foldl_append]
  rfl

/-- A claim of the history has handed out a name. -/
def HandedOut (ops : List Operation) (name : String) : Prop :=
  ∃ before wanted rest, ops = before ++ .claim wanted :: rest ∧
    ((after before).claim wanted).1 = name

/-- A name has been handed out by a claim, or it has been recorded for a node. -/
def Taken (ops : List Operation) (name : String) : Prop :=
  HandedOut ops name ∨ ∃ id, .register id name ∈ ops

/-- The name that was last recorded for a node. -/
def recorded (ops : List Operation) (id : NodeId) : Option String :=
  ops.reverse.findSome? fun
    | .claim _ => none
    | .register other name => if other = id then some name else none

/-! ### Names in use -/

section History

variable {ops : List Operation} {name : String}

theorem not_handedOut_nil : ¬ HandedOut [] name := by
  rintro ⟨before, wanted, rest, h, -⟩
  simp at h

/-- What a longer history hands out has been handed out before, or its last operation does so. -/
theorem handedOut_concat {op : Operation} : HandedOut (ops ++ [op]) name ↔
    HandedOut ops name ∨ ∃ wanted, op = .claim wanted ∧ ((after ops).claim wanted).1 = name := by
  constructor
  · rintro ⟨before, wanted, rest, h, hname⟩
    rcases List.eq_nil_or_concat' rest with rfl | ⟨rest, last, rfl⟩
    · obtain ⟨rfl, hop⟩ := List.append_inj' h rfl
      exact Or.inr ⟨wanted, by simpa using hop, hname⟩
    · rw [← List.cons_append, ← List.append_assoc] at h
      obtain ⟨rfl, -⟩ := List.append_inj' h rfl
      exact Or.inl ⟨before, wanted, rest, rfl, hname⟩
  · rintro (⟨before, wanted, rest, rfl, hname⟩ | ⟨wanted, rfl, hname⟩)
    · exact ⟨before, wanted, rest ++ [op], by simp, hname⟩
    · exact ⟨ops, wanted, [], rfl, hname⟩

theorem taken_concat {op : Operation} :
    Taken (ops ++ [op]) name ↔ name = (after ops).given op ∨ Taken ops name := by
  unfold Taken
  rw [handedOut_concat]
  cases op with
  | claim wanted => simp [given, eq_comm, or_assoc, or_left_comm]
  | register id recorded => simp [given, exists_or, eq_comm, or_comm, or_left_comm]

/-- **The names in use are those that the history has handed out or recorded.** -/
theorem mem_used_after : name ∈ (after ops).used ↔ Taken ops name := by
  induction ops using List.reverseRecOn with
  | nil => simp [Taken, not_handedOut_nil]
  | append_singleton ops op ih =>
    rw [after_concat, used_apply, List.mem_cons, ih, taken_concat]

theorem length_used_after (ops : List Operation) : (after ops).used.length = ops.length := by
  induction ops using List.reverseRecOn with
  | nil => rfl
  | append_singleton ops op ih =>
    rw [after_concat, used_apply, List.length_cons, List.length_append, ih]
    rfl

/-- Claims leave the recorded names as they are. -/
theorem get?_after (ops : List Operation) (id : NodeId) :
    (after ops).get? id = recorded ops id := by
  unfold recorded
  induction ops using List.reverseRecOn with
  | nil => rfl
  | append_singleton ops op ih =>
    rw [after_concat, List.reverse_append, List.reverse_singleton, List.singleton_append,
      List.findSome?_cons, ← ih]
    cases op with
    | claim wanted => exact get?_claim _ _ _
    | register other name =>
      rw [apply, get?_register]
      by_cases h : id = other
      · simp [h]
      · simp [h, Ne.symm h]

end History

/-! ### The number behind a name -/

theorem le_freeNumber (used : List String) (name : String) (fuel k : Nat) :
    k ≤ freeNumber used name fuel k ∧ freeNumber used name fuel k ≤ k + fuel := by
  induction fuel generalizing k with
  | zero => exact ⟨Nat.le_refl k, Nat.le_refl k⟩
  | succ fuel ih =>
    rw [freeNumber]
    split_ifs
    · obtain ⟨hge, hle⟩ := ih (k + 1)
      omega
    · omega

/-- The numbers that the search has passed make names in use. -/
theorem mem_of_lt_freeNumber {used : List String} {name : String} {fuel k j : Nat} (hk : k ≤ j)
    (hj : j < freeNumber used name fuel k) : name ++ toString j ∈ used := by
  induction fuel generalizing k with
  | zero =>
    rw [freeNumber] at hj
    omega
  | succ fuel ih =>
    rw [freeNumber] at hj
    split_ifs at hj with hused
    · rcases Nat.eq_or_lt_of_le hk with rfl | hlt
      · simpa using hused
      · exact ih hlt hj
    · omega

/-- **A claim after any history** hands out the wanted name if it is not taken, and else the wanted
name with the least number from two on that makes it a name which is not taken. That name is new,
and the names of the nodes stay those that were recorded last. -/
theorem claim_after (ops : List Operation) (name : String) :
    (¬ Taken ops name → ((after ops).claim name).1 = name) ∧
    (Taken ops name → ∃ k, ((after ops).claim name).1 = name ++ toString k ∧
      2 ≤ k ∧ k ≤ ops.length + 2 ∧ ∀ j, 2 ≤ j → j < k → Taken ops (name ++ toString j)) ∧
    ¬ Taken ops ((after ops).claim name).1 ∧
    ∀ id, (after (ops ++ [.claim name])).get? id = (after ops).get? id ∧
      (after ops).get? id = recorded ops id := by
  refine ⟨fun hfree => ?_, fun htaken => ?_, ?_, fun id => ?_⟩
  · rw [← mem_used_after] at hfree
    rw [claim, unusedName, if_neg (by simpa using hfree)]
  · rw [← mem_used_after] at htaken
    have hgiven : ((after ops).claim name).1 =
        name ++ toString (freeNumber (after ops).used name ops.length 2) := by
      rw [claim, unusedName, if_pos (by simpa using htaken), length_used_after]
    obtain ⟨hge, hle⟩ := le_freeNumber (after ops).used name ops.length 2
    refine ⟨_, hgiven, hge, by omega, fun j hj hlt => ?_⟩
    exact mem_used_after.1 (mem_of_lt_freeNumber hj hlt)
  · rw [← mem_used_after]
    exact unusedName_not_mem _ _
  · rw [after_concat]
    exact ⟨get?_claim _ _ _, get?_after ops id⟩

/-- A number behind one name may make a name that is taken otherwise. -/
theorem claim_after_recorded :
    Taken [.register 0 "Vehicle12", .claim "Vehicle1"] "Vehicle1" ∧
      ((after [.register 0 "Vehicle12", .claim "Vehicle1"]).claim "Vehicle1").1 = "Vehicle13" ∧
      ¬ Taken [.register 0 "Vehicle12", .claim "Vehicle1"] "Vehicle13" := by
  have hgiven : ((after [.register 0 "Vehicle12", .claim "Vehicle1"]).claim "Vehicle1").1 =
      "Vehicle13" := by decide +kernel
  obtain ⟨-, -, hnew, -⟩ := claim_after [.register 0 "Vehicle12", .claim "Vehicle1"] "Vehicle1"
  rw [hgiven] at hnew
  exact ⟨mem_used_after.1 (by decide +kernel), hgiven, hnew⟩

end StructGen.Registry
