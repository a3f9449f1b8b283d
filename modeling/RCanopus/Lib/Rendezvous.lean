import Mathlib.Data.List.Infix
import Mathlib.Data.List.Nodup
import Mathlib.Logic.Function.Basic
import Mathlib.Logic.Relation

/-!
# Rendezvous in numbered rounds

What an exchange of all with all is for. Each group proposes one content after the other, and its
`n`-th proposal is for round `n`. A member concludes a round at most once, when every group has
proposed for it, and it then has the proposals of all groups.
-/

namespace Rendezvous

variable {G M V : Type*}

structure State (G M V : Type*) where
  proposed : G → List V
  /-- The rounds that a member has concluded, each with what it has of every group. -/
  concluded : M → List (Nat × (G → Option V))

namespace State

def init : State G M V where
  proposed := fun _ => []
  concluded := fun _ => []

variable [DecidableEq G] [DecidableEq M] (s : State G M V)

def propose (g : G) (v : V) : State G M V :=
  { s with proposed := Function.update s.proposed g (s.proposed g ++ [v]) }

/-- What the groups have proposed for a round. -/
def round (r : Nat) (g : G) : Option V := (s.proposed g)[r]?

def conclude (m : M) (r : Nat) : State G M V :=
  { s with concluded := Function.update s.concluded m (s.concluded m ++ [(r, s.round r)]) }

/-- A member may conclude a round. -/
structure Open (m : M) (r : Nat) : Prop where
  fresh : r ∉ (s.concluded m).map Prod.fst
  proposed : ∀ g, r < (s.proposed g).length

end State

open State

variable [DecidableEq G] [DecidableEq M]

inductive Step : State G M V → State G M V → Prop
  | propose (s : State G M V) (g : G) (v : V) : Step s (s.propose g v)
  | conclude (s : State G M V) (m : M) (r : Nat) (h : s.Open m r) : Step s (s.conclude m r)

/-- The states of all runs. -/
def Reachable (s : State G M V) : Prop := Relation.ReflTransGen Step State.init s

/-- A member has concluded each round once, with what was proposed for it. -/
structure Inv (s : State G M V) : Prop where
  nodup : ∀ m, ((s.concluded m).map Prod.fst).Nodup
  proposed : ∀ m, ∀ c ∈ s.concluded m, ∀ g, c.1 < (s.proposed g).length
  results : ∀ m, ∀ c ∈ s.concluded m, c.2 = s.round c.1

variable {s s' : State G M V} {g : G} {m m' : M} {v : V} {r : Nat}

omit [DecidableEq M] in
theorem prefix_propose (g' : G) : s.proposed g' <+: (s.propose g v).proposed g' := by
  unfold State.propose
  dsimp only
  by_cases hg : g' = g
  · subst hg
    rw [Function.update_self]
    exact List.prefix_append _ _
  · rw [Function.update_of_ne hg]

omit [DecidableEq G] [DecidableEq M] in
/-- More proposals do not change a round that was complete. -/
theorem round_eq_of_growth (h : ∀ g, s.proposed g <+: s'.proposed g)
    (hr : ∀ g, r < (s.proposed g).length) : s'.round r = s.round r := by
  funext g
  unfold State.round
  obtain ⟨t, ht⟩ := h g
  rw [← ht, List.getElem?_append_left (hr g)]

omit [DecidableEq G] [DecidableEq M] in
theorem Inv.init : Inv (State.init : State G M V) where
  nodup := fun _ => List.nodup_nil
  proposed := fun _ _ hc => absurd hc List.not_mem_nil
  results := fun _ _ hc => absurd hc List.not_mem_nil

omit [DecidableEq M] in
theorem Inv.propose (h : Inv s) : Inv (s.propose g v) where
  nodup := h.nodup
  proposed := fun m c hc g' => (h.proposed m c hc g').trans_le (prefix_propose g').length_le
  results := fun m c hc =>
    (h.results m c hc).trans (round_eq_of_growth prefix_propose (h.proposed m c hc)).symm

omit [DecidableEq G] in
theorem mem_conclude {c : Nat × (G → Option V)} :
    c ∈ (s.conclude m r).concluded m' ↔ c ∈ s.concluded m' ∨ m' = m ∧ c = (r, s.round r) := by
  unfold State.conclude
  by_cases hm : m' = m
  · subst hm
    simp
  · simp [hm]

omit [DecidableEq G] in
theorem Inv.conclude (h : Inv s) (hopen : s.Open m r) : Inv (s.conclude m r) where
  nodup := by
    intro m'
    unfold State.conclude
    by_cases hm : m' = m
    · subst hm
      dsimp only
      rw [Function.update_self, List.map_append]
      refine List.nodup_append.mpr ⟨h.nodup m', List.nodup_singleton _, ?_⟩
      intro r₁ h₁ r₂ h₂ heq
      rw [List.map_singleton, List.mem_singleton] at h₂
      subst heq h₂
      exact hopen.fresh h₁
    · dsimp only
      rw [Function.update_of_ne hm]
      exact h.nodup m'
  proposed := by
    intro m' c hc
    rcases mem_conclude.mp hc with hc | ⟨-, rfl⟩
    · exact h.proposed m' c hc
    · exact hopen.proposed
  results := by
    intro m' c hc
    rcases mem_conclude.mp hc with hc | ⟨-, rfl⟩
    · exact h.results m' c hc
    · rfl

theorem Inv.step (h : Inv s) (hs : Step s s') : Inv s' := by
  cases hs with
  | propose g v => exact h.propose
  | conclude m r hopen => exact h.conclude hopen

theorem Reachable.inv (h : Reachable s) : Inv s := by
  induction h with
  | refl => exact .init
  | tail _ hs ih => exact ih.step hs

omit [DecidableEq G] [DecidableEq M] in
/-- **Agreement.** Members that conclude the same round have the same results. -/
theorem Inv.agreement (h : Inv s) {f f' : G → Option V} (hf : (r, f) ∈ s.concluded m)
    (hf' : (r, f') ∈ s.concluded m') : f = f' :=
  (h.results m _ hf).trans (h.results m' _ hf').symm

/-! ## Simulations

A system that refines the rendezvous adds to its proposals and to its conclusions, and its states
have the invariant.
-/

omit [DecidableEq G] [DecidableEq M] in
/-- Whoever has concluded less has the invariant as well. -/
theorem Inv.of_less (h : Inv s') (hproposed : s.proposed = s'.proposed)
    (hconcluded : ∀ m, s.concluded m <+: s'.concluded m) : Inv s where
  nodup := fun m => (h.nodup m).sublist ((hconcluded m).sublist.map _)
  proposed := fun m c hc g => hproposed ▸ h.proposed m c ((hconcluded m).subset hc) g
  results := fun m c hc => by
    unfold State.round
    rw [hproposed]
    exact h.results m c ((hconcluded m).subset hc)

/-- The same proposals, and some more conclusions of one member. -/
def State.concludeAll (s : State G M V) (m : M) (cs : List (Nat × (G → Option V))) :
    State G M V :=
  { s with concluded := Function.update s.concluded m (s.concluded m ++ cs) }

omit [DecidableEq G] in
theorem concludeAll_self (cs : List (Nat × (G → Option V))) :
    (s.concludeAll m cs).concluded m = s.concluded m ++ cs := Function.update_self ..

omit [DecidableEq G] in
theorem concludeAll_grows (cs : List (Nat × (G → Option V))) (c : Nat × (G → Option V)) (m' : M) :
    (s.concludeAll m cs).concluded m' <+: (s.concludeAll m (cs ++ [c])).concluded m' := by
  unfold State.concludeAll
  dsimp only
  by_cases hm : m' = m
  · subst hm
    rw [Function.update_self, Function.update_self, ← List.append_assoc]
    exact List.prefix_append _ _
  · rw [Function.update_of_ne hm, Function.update_of_ne hm]

omit [DecidableEq G] in
theorem concludeAll_concat {cs : List (Nat × (G → Option V))} {c : Nat × (G → Option V)}
    (hc : c.2 = s.round c.1) :
    s.concludeAll m (cs ++ [c]) = (s.concludeAll m cs).conclude m c.1 := by
  obtain ⟨r, f⟩ := c
  obtain rfl : f = s.round r := hc
  unfold State.concludeAll State.conclude
  dsimp only
  rw [Function.update_self, Function.update_idem, List.append_assoc]
  rfl

/-- Proposals of one group, one after the other. -/
theorem steps_propose (s : State G M V) (g : G) (vs : List V) : Relation.ReflTransGen Step s
    { s with proposed := Function.update s.proposed g (s.proposed g ++ vs) } := by
  induction vs using List.reverseRecOn with
  | nil =>
    rw [List.append_nil, Function.update_eq_self]
  | append_singleton vs v ih =>
    refine ih.tail ?_
    have hstep := Step.propose
      { s with proposed := Function.update s.proposed g (s.proposed g ++ vs) } g v
    unfold State.propose at hstep
    dsimp only at hstep
    rwa [Function.update_self, Function.update_idem, List.append_assoc] at hstep

/-- Conclusions of one member, one after the other, that lead to a state with the invariant. -/
theorem steps_conclude (cs : List (Nat × (G → Option V))) (h : Inv (s.concludeAll m cs)) :
    Relation.ReflTransGen Step s (s.concludeAll m cs) := by
  induction cs using List.reverseRecOn with
  | nil =>
    unfold State.concludeAll
    rw [List.append_nil, Function.update_eq_self]
  | append_singleton cs c ih =>
    have hself : c ∈ (s.concludeAll m (cs ++ [c])).concluded m := by
      rw [concludeAll_self]
      exact List.mem_append_right _ (List.mem_append_right _ List.mem_cons_self)
    refine (ih (h.of_less rfl (concludeAll_grows cs c))).tail ?_
    rw [concludeAll_concat (s := s) (h.results m c hself)]
    refine Step.conclude _ m c.1 ⟨?_, h.proposed m c hself⟩
    have hnodup := h.nodup m
    rw [concludeAll_self, ← List.append_assoc, List.map_append] at hnodup
    rw [concludeAll_self]
    exact fun hmem => (List.nodup_append.mp hnodup).2.2 _ hmem _ List.mem_cons_self rfl

/-- **One group proposes and one member concludes**, and the invariant holds after that. -/
theorem steps_of_growth (g : G) (vs : List V) (m : M) (cs : List (Nat × (G → Option V)))
    (hproposed : s'.proposed = Function.update s.proposed g (s.proposed g ++ vs))
    (hconcluded : s'.concluded = Function.update s.concluded m (s.concluded m ++ cs))
    (h : Inv s') : Relation.ReflTransGen Step s s' := by
  obtain ⟨proposed', concluded'⟩ := s'
  dsimp only at hproposed hconcluded
  subst hproposed hconcluded
  exact (steps_propose s g vs).trans (steps_conclude cs h)

end Rendezvous
