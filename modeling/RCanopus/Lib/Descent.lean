import Mathlib.Data.Prod.Lex
import Mathlib.Logic.Relation
import Mathlib.Order.WellFounded

/-!
# Runs that come to rest

A relation has no infinite run from a state when every step lowers a measure, as long as an
invariant holds. Then every run can be continued until no step is possible.
-/

namespace Descent

variable {α β γ : Type*} {R : α → α → Prop} {I : α → Prop} {a b : α}

/-- There is no infinite run of `R` from `a`. -/
def Terminates (R : α → α → Prop) (a : α) : Prop := Acc (fun b a => R a b) a

/-- No step of `R` is possible. -/
def Resting (R : α → α → Prop) (a : α) : Prop := ∀ b, ¬ R a b

/-- What holds at the start and is kept by `R` holds in all of a run. -/
theorem invariant_of_run (hI : ∀ {a b}, I a → R a b → I b) (ha : I a)
    (h : Relation.ReflTransGen R a b) : I b := by
  induction h with
  | refl => exact ha
  | tail _ hs ih => exact hI ih hs

/-- Every step lowers the measure. -/
theorem terminates_of_measure [LT β] [WellFoundedLT β] (measure : α → β)
    (hI : ∀ {a b}, I a → R a b → I b) (hlt : ∀ {a b}, I a → R a b → measure b < measure a)
    (ha : I a) : Terminates R a := by
  induction hm : measure a using WellFoundedLT.induction generalizing a with
  | ind m ih =>
    subst hm
    exact .intro a fun b hs => ih (measure b) (hlt ha hs) (hI ha hs) rfl

/-- A run never goes on forever. -/
theorem Terminates.not_infinite (h : Terminates R a) (run : Nat → α) (h0 : run 0 = a) :
    ¬ ∀ n, R (run n) (run (n + 1)) := fun hrun =>
  (acc_iff_isEmpty_descending_chain.mp h).false ⟨run, h0, hrun⟩

/-- Every run can be continued until it rests. -/
theorem Terminates.exists_resting (h : Terminates R a) :
    ∃ b, Relation.ReflTransGen R a b ∧ Resting R b := by
  induction h with
  | intro a _ ih =>
    by_cases hrest : Resting R a
    · exact ⟨a, .refl, hrest⟩
    · unfold Resting at hrest
      push Not at hrest
      obtain ⟨b, hs⟩ := hrest
      obtain ⟨c, hrun, hrest⟩ := ih b hs
      exact ⟨c, .head hs hrun, hrest⟩

/-! ## Measures of several parts

The first part that changes decides.
-/

section Lex

variable [PartialOrder α] [Preorder β] {x y : α} {u v : β}

theorem toLex_lt_of_lt (h : x < y) : toLex (x, u) < toLex (y, v) :=
  Prod.Lex.toLex_lt_toLex.mpr (Or.inl h)

/-- The first part does not grow, and the rest is less. -/
theorem toLex_lt_of_le (h : x ≤ y) (huv : u < v) : toLex (x, u) < toLex (y, v) := by
  rcases h.lt_or_eq with hlt | heq
  · exact toLex_lt_of_lt hlt
  · exact Prod.Lex.toLex_lt_toLex.mpr (Or.inr ⟨heq, huv⟩)

end Lex

end Descent
