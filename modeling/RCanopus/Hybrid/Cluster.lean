import RCanopus.Network
import RCanopus.Hybrid.ConnManager

/-!
# All SLs of the hybrid variant

The main loop, the links and the clients are those of `ConnManager.cpp`, and so are the states and
the labels. A call of the dispatcher is one of the hybrid variant.
-/

namespace RCanopus.Hybrid

open Cluster

/-- The main loop of `x` takes element `i` of its inbox and starts the pass over what is juggled. -/
def receive (d : Deployment) (x : Peer) (i : Nat) (ω : Choice) (σ : Cluster) : Option Cluster :=
  let node := σ x
  match node.inbox[i]? with
  | none => none
  | some pElement =>
    if d.Has x ∧ node.crashed = false ∧ node.passLeft = 0 ∧ node.receivable i pElement then
      let o := dispatcherRound2 (d.env x) ω pElement node.sl
      some (install x
        { node with
          inbox := node.inbox.eraseIdx i
          passLeft := o.state.juggleQueue.length
          listenerEnded := node.listenerEnded.map fun k => if i < k then k - 1 else k } o σ)
    else none

/-- The pass of the main loop of `x` takes the front of the juggle queue. -/
def retry (d : Deployment) (x : Peer) (ω : Choice) (σ : Cluster) : Option Cluster :=
  let node := σ x
  match node.sl.juggleQueue with
  | [] => none
  | pElement :: rest =>
    if d.Has x ∧ node.crashed = false ∧ 0 < node.passLeft then
      some (install x { node with passLeft := node.passLeft - 1 }
        (dispatcherRound2 (d.env x) ω pElement { node.sl with juggleQueue := rest }) σ)
    else none

def step (d : Deployment) (σ : Cluster) : Label → Option Cluster
  | .receive x i ω => receive d x i ω σ
  | .retry x ω => retry d x ω σ
  | .clientTick x content => clientTick d x content σ
  | .leaderTick bg => leaderTick d bg σ
  | .pipeReadable bg => pipeReadable d bg σ

/-- The steps of a run, one after the other. -/
def run (d : Deployment) (σ : Cluster) : List Label → Option Cluster
  | [] => some σ
  | l :: rest => (step d σ l).bind fun σ' => run d σ' rest

def Step (d : Deployment) (σ σ' : Cluster) : Prop := ∃ l, step d σ l = some σ'

/-- The states of all runs. -/
def Reachable (d : Deployment) (σ : Cluster) : Prop := Relation.ReflTransGen (Step d) init σ

variable {d : Deployment} {σ σ' : Cluster} {x : Peer} {e : QueueElement} {ω : Choice}
  {before : Node}

theorem Reachable.step (h : Reachable d σ) (hs : Step d σ σ') : Reachable d σ' :=
  Relation.ReflTransGen.tail h hs

/-- What holds at the start and is kept by every step holds in all runs. -/
theorem Reachable.induct {P : Cluster → Prop} (h : Reachable d σ) (hinit : P init)
    (hstep : ∀ σ σ', P σ → Step d σ σ' → P σ') : P σ := by
  induction h with
  | refl => exact hinit
  | tail _ hs ih => exact hstep _ _ ih hs

/-- All states of a run are reachable. -/
theorem reachable_of_run {labels : List Label} (h : Reachable d σ)
    (hr : run d σ labels = some σ') : Reachable d σ' := by
  induction labels generalizing σ with
  | nil =>
    cases hr
    exact h
  | cons l labels ih =>
    obtain ⟨τ, hl, hr⟩ := Option.bind_eq_some_iff.mp hr
    exact ih (h.step ⟨l, hl⟩) hr

/-! ## Steps as calls of the dispatcher -/

/-- A step of `x` on `e`, from the node `before` without `e`. -/
abbrev Dispatch (d : Deployment) (σ σ' : Cluster) (x : Peer) (e : QueueElement) (ω : Choice)
    (before : Node) : Prop :=
  DispatchTo d σ σ' x e before (dispatcherRound2 (d.env x) ω e before.sl)

theorem receive_dispatch {i : Nat} (h : receive d x i ω σ = some σ') :
    ∃ e before, Dispatch d σ σ' x e ω before ∧ (σ x).inbox[i]? = some e
      ∧ before.sl = (σ x).sl
      ∧ before.passLeft = (dispatcherRound2 (d.env x) ω e before.sl).state.juggleQueue.length
      ∧ before.inbox = (σ x).inbox.eraseIdx i ∧ before.pipe = (σ x).pipe
      ∧ before.listenerEnded.isNone = (σ x).listenerEnded.isNone := by
  unfold receive at h
  dsimp only at h
  split at h
  · exact absurd h (by simp)
  · next e he =>
    split at h
    · next hc =>
      obtain ⟨hhas, halive, -⟩ := hc
      rw [Option.some.injEq] at h
      refine ⟨e, { σ x with
        inbox := (σ x).inbox.eraseIdx i
        passLeft := (dispatcherRound2 (d.env x) ω e (σ x).sl).state.juggleQueue.length
        listenerEnded := (σ x).listenerEnded.map fun k => if i < k then k - 1 else k },
        ⟨hhas, halive, ?_, rfl, h.symm⟩, he, rfl, rfl, rfl, rfl, Option.isNone_map⟩
      obtain ⟨hi, hget⟩ := List.getElem?_eq_some_iff.mp he
      have hperm : (σ x).inbox.Perm (e :: (σ x).inbox.eraseIdx i) := by
        rw [← hget]
        exact (List.getElem_cons_eraseIdx_perm hi).symm
      unfold pool
      rw [Multiset.coe_eq_coe.mpr hperm, ← Multiset.cons_coe, Multiset.cons_add]
    · exact absurd h (by simp)

theorem retry_dispatch (h : retry d x ω σ = some σ') :
    ∃ e before, Dispatch d σ σ' x e ω before
      ∧ (σ x).sl.juggleQueue = e :: before.sl.juggleQueue
      ∧ (σ x).passLeft = before.passLeft + 1 ∧ before.inbox = (σ x).inbox
      ∧ before.pipe = (σ x).pipe ∧ before.listenerEnded = (σ x).listenerEnded := by
  unfold retry at h
  dsimp only at h
  split at h
  · exact absurd h (by simp)
  · next e rest hj =>
    split at h
    · next hc =>
      obtain ⟨hhas, halive, hleft⟩ := hc
      rw [Option.some.injEq] at h
      refine ⟨e, { σ x with
        sl := { (σ x).sl with juggleQueue := rest }
        passLeft := (σ x).passLeft - 1 }, ⟨hhas, halive, ?_, rfl, h.symm⟩, hj,
        (Nat.sub_add_cancel hleft).symm, rfl, rfl, rfl⟩
      unfold pool
      rw [hj, ← Multiset.cons_coe, Multiset.add_cons]
    · exact absurd h (by simp)

/-- Every step is a call of the dispatcher or a step of a client. -/
theorem step_cases (h : Step d σ σ') :
    (∃ x e ω before, Dispatch d σ σ' x e ω before) ∨ Tick d σ σ' := by
  obtain ⟨l, hl⟩ := h
  cases l with
  | receive x i ω =>
    obtain ⟨e, before, hd, -⟩ := receive_dispatch hl
    exact Or.inl ⟨x, e, ω, before, hd⟩
  | retry x ω =>
    obtain ⟨e, before, hd, -⟩ := retry_dispatch hl
    exact Or.inl ⟨x, e, ω, before, hd⟩
  | clientTick x content => exact Or.inr (clientTick_tick hl)
  | leaderTick bg => exact Or.inr (leaderTick_tick hl)
  | pipeReadable bg => exact Or.inr (pipeReadable_tick hl)

end RCanopus.Hybrid
