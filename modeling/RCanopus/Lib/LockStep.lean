import Mathlib.Data.Finset.Card
import Mathlib.Data.Finset.Range
import Mathlib.Data.List.Nodup
import Mathlib.Logic.Function.Basic

/-!
# A replicated log that advances in lock step

One member proposes the entries of a log, one at a time: it proposes the next entry only after it
committed all the earlier ones. Every member accepts an entry, votes for it and, once all members
have voted, commits it.

* `LockStep.State` and the four transitions `propose`, `accept`, `count` and `commit`.
* `LockStep.Inv`: members are never more than one entry apart.
-/

namespace LockStep

/--
How far the members `0`, `1`, ... are. Member `0` proposes. `votes k` lists the members whose vote
for entry `k` was counted, in this order.
-/
structure State where
  /-- How many entries were proposed. -/
  len : Nat
  /-- How many entries a member accepted. -/
  acc : Nat → Nat
  /-- How many entries a member committed. -/
  com : Nat → Nat
  /-- How many entries all members have voted for. -/
  closed : Nat
  votes : Nat → List Nat

namespace State

/-- Nothing happened. -/
def init : State where
  len := 0
  acc := fun _ => 0
  com := fun _ => 0
  closed := 0
  votes := fun _ => []

/-- Member `0` proposes an entry. -/
def propose (a : State) : State := { a with len := a.len + 1 }

/-- Member `i` accepts its next entry. -/
def accept (a : State) (i : Nat) : State :=
  { a with acc := Function.update a.acc i (a.acc i + 1) }

/-- The vote of member `i` for the open entry is counted, which may be the last of `n`. -/
def count (n : Nat) (a : State) (i : Nat) : State :=
  { a with
    closed := if (a.votes a.closed).length + 1 = n then a.closed + 1 else a.closed
    votes := Function.update a.votes a.closed (a.votes a.closed ++ [i]) }

/-- Member `i` commits its next entry. -/
def commit (a : State) (i : Nat) : State :=
  { a with com := Function.update a.com i (a.com i + 1) }

theorem accept_acc (a : State) (i j : Nat) :
    (a.accept i).acc j = if j = i then a.acc i + 1 else a.acc j := by
  by_cases hj : j = i
  · subst hj
    rw [if_pos rfl]
    exact Function.update_self ..
  · rw [if_neg hj]
    exact Function.update_of_ne hj ..

theorem commit_com (a : State) (i j : Nat) :
    (a.commit i).com j = if j = i then a.com i + 1 else a.com j := by
  by_cases hj : j = i
  · subst hj
    rw [if_pos rfl]
    exact Function.update_self ..
  · rw [if_neg hj]
    exact Function.update_of_ne hj ..

theorem count_votes (n : Nat) (a : State) (i k : Nat) :
    (a.count n i).votes k = if k = a.closed then a.votes a.closed ++ [i] else a.votes k := by
  by_cases hk : k = a.closed
  · subst hk
    rw [if_pos rfl]
    exact Function.update_self ..
  · rw [if_neg hk]
    exact Function.update_of_ne hk ..

theorem count_closed_last {n : Nat} {a : State} {i : Nat}
    (h : (a.votes a.closed).length + 1 = n) : (a.count n i).closed = a.closed + 1 := if_pos h

theorem count_closed_of_ne {n : Nat} {a : State} {i : Nat}
    (h : (a.votes a.closed).length + 1 ≠ n) : (a.count n i).closed = a.closed := if_neg h

end State

/-- What holds of `n` members at any time. -/
structure Inv (n : Nat) (a : State) : Prop where
  com_le_acc : ∀ i < n, a.com i ≤ a.acc i
  acc_le_com : ∀ i < n, a.acc i ≤ a.com i + 1
  closed_le_acc : ∀ i < n, a.closed ≤ a.acc i
  acc_le_len : ∀ i < n, a.acc i ≤ a.len
  com_le_closed : ∀ i < n, a.com i ≤ a.closed
  len_le_closed : a.len ≤ a.closed + 1
  len_le_com : a.len ≤ a.com 0 + 1
  votes_nodup : ∀ k, (a.votes k).Nodup
  votes_acc : ∀ k, ∀ i ∈ a.votes k, i < n ∧ k < a.acc i
  votes_full : ∀ k < a.closed, (a.votes k).length = n
  votes_open : (a.votes a.closed).length < n
  votes_later : ∀ k, a.closed < k → a.votes k = []

section

variable {n : Nat} {a : State} {i : Nat}

theorem inv_init (hn : 0 < n) : Inv n .init where
  com_le_acc := fun _ _ => Nat.le_refl 0
  acc_le_com := fun _ _ => Nat.zero_le 1
  closed_le_acc := fun _ _ => Nat.le_refl 0
  acc_le_len := fun _ _ => Nat.le_refl 0
  com_le_closed := fun _ _ => Nat.le_refl 0
  len_le_closed := Nat.zero_le 1
  len_le_com := Nat.zero_le 1
  votes_nodup := fun _ => List.nodup_nil
  votes_acc := fun _ _ hi => absurd hi List.not_mem_nil
  votes_full := fun k hk => absurd hk (Nat.not_lt_zero k)
  votes_open := hn
  votes_later := fun _ _ => rfl

/-! ## Consequences -/

/-- Members are never more than one entry apart. -/
theorem Inv.com_le_com (h : Inv n a) {j : Nat} (hi : i < n) (hj : j < n) :
    a.com i ≤ a.com j + 1 := by
  have := h.com_le_closed i hi
  have := h.closed_le_acc j hj
  have := h.acc_le_com j hj
  omega

theorem Inv.com_le_len (h : Inv n a) (hi : i < n) : a.com i ≤ a.len := by
  have := h.com_le_acc i hi
  have := h.acc_le_len i hi
  omega

/-- A member that accepted more than is closed has not committed it. -/
theorem Inv.open_of_lt (h : Inv n a) (hi : i < n) (hlt : a.closed < a.acc i) :
    a.acc i = a.closed + 1 ∧ a.com i = a.closed := by
  have := h.acc_le_com i hi
  have := h.com_le_closed i hi
  omega

/-- A member that can commit has accepted exactly what is closed. -/
theorem Inv.closed_of_lt (h : Inv n a) (hi : i < n) (hlt : a.com i < a.closed) :
    a.acc i = a.closed ∧ a.closed = a.com i + 1 := by
  have := h.acc_le_com i hi
  have := h.closed_le_acc i hi
  omega

/-- A list of `n` different members has all of them. -/
theorem mem_of_nodup {l : List Nat} (hl : l.Nodup) (hlt : ∀ j ∈ l, j < n) (hlen : l.length = n)
    (hi : i < n) : i ∈ l := by
  have hsub : l.toFinset ⊆ Finset.range n := fun j hj =>
    Finset.mem_range.mpr (hlt j (List.mem_toFinset.mp hj))
  have hcard : (Finset.range n).card ≤ l.toFinset.card := by
    rw [Finset.card_range, List.toFinset_card_of_nodup hl, hlen]
  have heq := Finset.eq_of_subset_of_card_le hsub hcard
  rw [← List.mem_toFinset, heq]
  exact Finset.mem_range.mpr hi

/-- All `n` members are among the votes for a closed entry. -/
theorem Inv.mem_votes (h : Inv n a) {k : Nat} (hk : k < a.closed) (hi : i < n) :
    i ∈ a.votes k :=
  mem_of_nodup (h.votes_nodup k) (fun j hj => (h.votes_acc k j hj).1) (h.votes_full k hk) hi

/-! ## Preservation -/

theorem Inv.propose (h : Inv n a) (hn : 0 < n) (hidle : a.com 0 = a.len) :
    Inv n a.propose := by
  have hclosed := h.com_le_closed 0 hn
  refine { h with
    acc_le_len := ?_
    len_le_closed := ?_
    len_le_com := ?_ }
  · intro i hi
    exact Nat.le_succ_of_le (h.acc_le_len i hi)
  · show a.len + 1 ≤ a.closed + 1
    omega
  · show a.len + 1 ≤ a.com 0 + 1
    omega

theorem Inv.accept (h : Inv n a) (hidle : a.acc i = a.com i) (hlt : a.acc i < a.len) :
    Inv n (a.accept i) := by
  have hacc := a.accept_acc i
  refine { h with
    com_le_acc := ?_
    acc_le_com := ?_
    closed_le_acc := ?_
    acc_le_len := ?_
    votes_acc := ?_ }
  · intro j hj
    have := h.com_le_acc j hj
    show a.com j ≤ _
    rw [hacc]
    split
    · next he => subst he; omega
    · exact this
  · intro j hj
    have := h.acc_le_com j hj
    show _ ≤ a.com j + 1
    rw [hacc]
    split
    · next he => subst he; omega
    · exact this
  · intro j hj
    have := h.closed_le_acc j hj
    show a.closed ≤ _
    rw [hacc]
    split
    · next he => subst he; omega
    · exact this
  · intro j hj
    have := h.acc_le_len j hj
    show _ ≤ a.len
    rw [hacc]
    split
    · omega
    · exact this
  · intro k j hj
    have := h.votes_acc k j hj
    refine ⟨this.1, ?_⟩
    rw [hacc]
    split
    · next he => subst he; omega
    · exact this.2

theorem Inv.count (h : Inv n a) (hi : i < n) (hacc : a.closed < a.acc i)
    (hnew : i ∉ a.votes a.closed) : Inv n (a.count n i) := by
  have hvotes := a.count_votes n i
  have hnodup : (a.votes a.closed ++ [i]).Nodup := by
    refine List.Nodup.append (h.votes_nodup _) (List.nodup_singleton i) ?_
    intro j hj hj'
    rw [List.mem_singleton] at hj'
    exact hnew (hj' ▸ hj)
  have hmem : ∀ k, ∀ j ∈ (a.count n i).votes k, j < n ∧ k < a.acc j := by
    intro k j hj
    rw [hvotes] at hj
    split at hj
    · next hk =>
      subst hk
      rcases List.mem_append.mp hj with hj | hj
      · exact h.votes_acc _ j hj
      · rw [List.mem_singleton] at hj
        subst hj
        exact ⟨hi, hacc⟩
    · exact h.votes_acc k j hj
  by_cases hlast : (a.votes a.closed).length + 1 = n
  · have hclosed := State.count_closed_last (i := i) hlast
    -- all members have voted for the open entry, so all have accepted it
    have hall : ∀ j < n, a.closed < a.acc j := by
      intro j hj
      have hv := hmem a.closed
      rw [hvotes, if_pos rfl] at hv
      refine (hv j (mem_of_nodup hnodup (fun m hm => (hv m hm).1) ?_ hj)).2
      rw [List.length_append, List.length_singleton, hlast]
    exact {
      com_le_acc := h.com_le_acc
      acc_le_com := h.acc_le_com
      closed_le_acc := fun j hj => by
        rw [hclosed]
        exact hall j hj
      acc_le_len := h.acc_le_len
      com_le_closed := fun j hj => by
        rw [hclosed]
        exact Nat.le_succ_of_le (h.com_le_closed j hj)
      len_le_closed := by
        rw [hclosed]
        exact Nat.le_succ_of_le h.len_le_closed
      len_le_com := h.len_le_com
      votes_nodup := fun k => by
        rw [hvotes]
        split
        · exact hnodup
        · exact h.votes_nodup k
      votes_acc := hmem
      votes_full := fun k hk => by
        rw [hclosed] at hk
        rw [hvotes]
        split
        · rw [List.length_append, List.length_singleton, hlast]
        · exact h.votes_full k (by omega)
      votes_open := by
        rw [hclosed, hvotes, if_neg (by omega), h.votes_later _ (Nat.lt_succ_self _)]
        exact Nat.lt_of_le_of_lt (Nat.zero_le i) hi
      votes_later := fun k hk => by
        rw [hclosed] at hk
        rw [hvotes, if_neg (by omega)]
        exact h.votes_later k (by omega) }
  · have hclosed := State.count_closed_of_ne (i := i) hlast
    have hopen := h.votes_open
    exact {
      com_le_acc := h.com_le_acc
      acc_le_com := h.acc_le_com
      closed_le_acc := fun j hj => by
        rw [hclosed]
        exact h.closed_le_acc j hj
      acc_le_len := h.acc_le_len
      com_le_closed := fun j hj => by
        rw [hclosed]
        exact h.com_le_closed j hj
      len_le_closed := by
        rw [hclosed]
        exact h.len_le_closed
      len_le_com := h.len_le_com
      votes_nodup := fun k => by
        rw [hvotes]
        split
        · exact hnodup
        · exact h.votes_nodup k
      votes_acc := hmem
      votes_full := fun k hk => by
        rw [hclosed] at hk
        rw [hvotes, if_neg (by omega)]
        exact h.votes_full k hk
      votes_open := by
        rw [hclosed, hvotes, if_pos rfl, List.length_append, List.length_singleton]
        omega
      votes_later := fun k hk => by
        rw [hclosed] at hk
        rw [hvotes, if_neg (by omega)]
        exact h.votes_later k hk }

theorem Inv.commit (h : Inv n a) (hi : i < n) (hlt : a.com i < a.closed) :
    Inv n (a.commit i) := by
  have hcom := a.commit_com i
  have hclosed := h.closed_le_acc i hi
  refine { h with
    com_le_acc := ?_
    acc_le_com := ?_
    com_le_closed := ?_
    len_le_com := ?_ }
  · intro j hj
    have := h.com_le_acc j hj
    show _ ≤ a.acc j
    rw [hcom]
    split
    · next he => subst he; omega
    · exact this
  · intro j hj
    have := h.acc_le_com j hj
    show a.acc j ≤ _
    rw [hcom]
    split
    · next he => subst he; omega
    · exact this
  · intro j hj
    have := h.com_le_closed j hj
    show _ ≤ a.closed
    rw [hcom]
    split
    · omega
    · exact this
  · have := h.len_le_com
    show a.len ≤ _
    rw [hcom]
    split
    · next he => subst he; omega
    · exact this

end

end LockStep
