import RCanopus.Replicated
import RCanopus.Baseline.Certificate

/-!
# Agreement inside a BG of the baseline variant

A full commit that comes too early for its cycle goes back to the queue, and the SL commits later.
The logs of the SLs are beginnings of what their leader issued all the same.
-/

namespace RCanopus.Baseline

open Baseline.Cluster

variable {d : Deployment} {σ : Cluster}

/--
**Agreement in round 2 of the baseline variant.** In every reachable state the SLs of a BG have
committed the Preprepares of their leader, one after the other and in the same bytes, which count
the fixed fields. What one of them has committed, all have accepted, and the full commit had the
votes of all.
-/
theorem bgs_replicate (hfits : d.conf.Fits) (hreach : Reachable d σ) (b : Nat)
    (hn : 0 < d.conf.numSL b) :
    (∀ p ∈ RCanopus.Cluster.issued σ.erase b, p.Covers) ∧ Replicated d σ.erase b :=
  have hcore := coreOk_of_reachable hfits
    (Nat.lt_of_le_of_lt (Nat.zero_le b) (Config.lt_numBG hn)) hreach
  ⟨fun p hp => ((hcore.plan b).issued p hp).covers hfits hn,
    (round2Ok_of_reachable hreach).replicated hn⟩

/-- The second leader has committed its client Preprepare and its local connectivity. -/
theorem oneAndTwo_replicates : ∃ σ, Reachable oneAndTwo σ ∧ Replicated oneAndTwo σ.erase 1
    ∧ (RCanopus.Cluster.committed σ.erase (1, 0)).length = 2 := by
  have hbatch : zeroBatch.length = requestBatchSize := List.length_replicate
  have hrun : (run oneAndTwo (sendBatch zeroBatch init) cycleRun).map
      (fun σ => (RCanopus.Cluster.committed σ.erase (1, 0)).length) = some 2 := by decide +kernel
  obtain ⟨σ, hσ, hlen⟩ := Option.map_eq_some_iff.mp hrun
  have hreach : Reachable oneAndTwo σ := by
    have hlabels : run oneAndTwo init (.clientTick (1, 1) zeroBatch :: cycleRun) = some σ := by
      rw [run_clientTick hbatch, hσ]
    exact reachable_of_run .refl hlabels
  exact ⟨σ, hreach, (bgs_replicate valid_oneAndTwo.fits hreach 1 (by decide)).2, hlen⟩

end RCanopus.Baseline
