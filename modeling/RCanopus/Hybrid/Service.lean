import RCanopus.Service
import RCanopus.Hybrid.Results
import RCanopus.Hybrid.Round3Frame

/-!
# What the hybrid variant does for the clients

The two programs do the same for their clients. The abstract rendezvous that `ConnManager.cpp`
refines is refined by the hybrid variant too, with the same reading of a state of all SLs.
-/

namespace RCanopus.Hybrid

open Cluster Gathering

/-- No call of the dispatcher takes anything out of the history. -/
theorem history_grows (env : Env) (ω : Choice) (e : QueueElement) (s : ConnManager) :
    s.history <+: (dispatcherRound2 env ω e s).state.history :=
  dispatcherRound2_frame (Q := fun o => Began s.history o.state) (began_dispatchFrame s.history)
    List.prefix_rfl (fun _ _ hs => hs) (fun _ hs => hs) (fun _ hs => began_startRound2IfPossible hs)
    (fun _ _ hs _ => began_startRound2IfPossible hs) (fun _ _ hs => hs)
    (fun _ hs => began_spawnRound2 hs) fun _ _ => began_dispatcherRound2Request List.prefix_rfl

/-! ## The refinement -/

variable {d : Deployment} {σ σ' : Cluster} {b : Nat}
  {token : FetchKind → Peer → Nat → UInt16 → Token}

theorem Round3Inv.accounts (h : Round3Inv d σ token) : Accounts d σ where
  issued := h.issued
  clients := h.clients
  nodup b := (List.nodup_append.mp (h.inv.nodup b)).1
  committed_log y hy := h.inv.committed_log y.1 y.2 hy.2
  closed y := (h.sl y).closed.trans (h.sl y).storage
  events y := (h.sl y).events

/-- Every step of the servers refines steps of the rendezvous. -/
theorem service_step (hfits : d.conf.Fits) (hreach : Reachable d σ) (hs : Step d σ σ') :
    Relation.ReflTransGen Rendezvous.Step (service d σ) (service d σ') := by
  rcases step_cases hs with ⟨x, e, ω, before, hd⟩ | ht
  · obtain ⟨token, h⟩ := (clusterOk_of_reachable hfits (hreach.step hs)).inv
    exact service_dispatch hd (history_grows (d.env x) ω e before.sl) (service_inv h.accounts)
  · rw [service_tick ht]

/--
**The hybrid variant refines the rendezvous**, as `ConnManager.cpp` does: every step of the servers
is some steps of the rendezvous, and two SLs that conclude the same cycle conclude it with the same
contents.
-/
theorem hybrid_refines_rendezvous (hfits : d.conf.Fits) (hreach : Reachable d σ) :
    Rendezvous.Reachable (service d σ)
      ∧ (∀ σ', Step d σ σ' →
        Relation.ReflTransGen Rendezvous.Step (service d σ) (service d σ'))
      ∧ ∀ y z r f g, (r, f) ∈ (service d σ).concluded y → (r, g) ∈ (service d σ).concluded z →
        f = g := by
  have hservice : Rendezvous.Reachable (service d σ) := by
    induction hreach with
    | refl => exact .refl
    | tail hrun hs ih => exact ih.trans (service_step hfits hrun hs)
  exact ⟨hservice, fun σ' hs => service_step hfits hreach hs,
    fun y z r f g hf hg => hservice.inv.agreement hf hg⟩

/-! ### A run to its end -/

/-- The run goes on until nothing is left to do. -/
def closingRun : List Label :=
  let first := turns (0, 0)
  let other := turns (0, 1)
  let single := turns (1, 0)
  certifyingRun ++ single 2 ++ first 3 ++ single 3 ++ first 1 ++ other 2 ++ first 2 ++ single 2 ++
  first 2 ++ single 3 ++ other 4 ++ first 1 ++ other 1

theorem has_twoBGs {y : Peer} (hy : twoBGs.Has y) : y = (0, 0) ∨ y = (0, 1) ∨ y = (1, 0) := by
  obtain ⟨b, i⟩ := y
  obtain ⟨hb, hi⟩ := hy
  have hb : b < 2 := hb
  rcases Nat.le_one_iff_eq_zero_or_eq_one.mp (Nat.le_of_lt_succ hb) with rfl | rfl
  · have hi : i < 2 := hi
    rcases Nat.le_one_iff_eq_zero_or_eq_one.mp (Nat.le_of_lt_succ hi) with rfl | rfl
    · exact Or.inl rfl
    · exact Or.inr (Or.inl rfl)
  · have hi : i < 1 := hi
    exact Or.inr (Or.inr (Prod.ext rfl (by omega)))

theorem closingRun_result : ∃ σ, run twoBGs (sendBatch zeroBatch init) closingRun = some σ
    ∧ Quiescent twoBGs σ ∧ (issued σ 0).length = 4 ∧ (issued σ 1).length = 4
    ∧ clientsOf σ 0 = [1] ∧ clientsOf σ 1 = [1] ∧ closedOf (σ (1, 0)).sl.history = [1] := by
  have hrun : (run twoBGs (sendBatch zeroBatch init) closingRun).map (fun σ =>
      ([restOf σ (0, 0), restOf σ (0, 1), restOf σ (1, 0)],
        [(issued σ 0).length, (issued σ 1).length], clientsOf σ 0, clientsOf σ 1,
        closedOf (σ (1, 0)).sl.history))
      = some ([(0, 0), (0, 0), (0, 0)], [4, 4], [1], [1], [1]) := by decide +kernel
  obtain ⟨σ, hσ, hresult⟩ := Option.map_eq_some_iff.mp hrun
  simp only [Prod.mk.injEq, List.cons.injEq, and_true] at hresult
  obtain ⟨⟨hfirst, hother, hsingle⟩, ⟨hlen, hlen'⟩, hclients, hclients', hclosed⟩ := hresult
  refine ⟨σ, hσ, fun y hy => ?_, hlen, hlen', hclients, hclients', hclosed⟩
  have hrest : restOf σ y = (0, 0) := by
    rcases has_twoBGs hy with rfl | rfl | rfl
    · exact hfirst
    · exact hother
    · exact hsingle
  simp only [restOf, Prod.mk.injEq, List.length_eq_zero_iff] at hrest
  exact hrest

/-- In the run above the single SL has concluded the first round with what both BGs proposed. -/
theorem twoBGs_refine : ∃ σ, Rendezvous.Reachable (service twoBGs σ)
    ∧ ((service twoBGs σ).concluded ⟨(1, 0), by decide⟩).map Prod.fst = [0] := by
  obtain ⟨σ, hrun, -, -, -, -, -, hclosed⟩ := closingRun_result
  refine ⟨σ, (hybrid_refines_rendezvous valid_twoBGs.fits (reachable_of_batch hrun)).1, ?_⟩
  show (conclusionsOf 2 (σ (1, 0)).sl.history).map Prod.fst = [0]
  rw [map_fst_conclusionsOf, hclosed]
  rfl

end RCanopus.Hybrid
