import RCanopus.Agreement

/-!
# What the invariant of round 2 means for a BG

The variants of the program share round 2 and differ in the messages around it. What a BG gets out
of the invariant of round 2 is the same for each of them.
-/

namespace RCanopus

open Cluster

variable {d : Deployment} {σ : Cluster} {b : Nat} {a : LockStep.State}
  {log : List MessageRound2Preprepare}

/-- The SLs of a BG replicate the Preprepares of their leader, with a certificate for each. -/
structure Replicated (d : Deployment) (σ : Cluster) (b : Nat) : Prop where
  /-- What an SL commits is a beginning of what the leader issued, in the same bytes. -/
  agreed : ∀ i < d.conf.numSL b,
    (committed σ (b, i)).map (·.sentBytes d.host) <+: (issued σ b).map (·.sentBytes d.host)
  once : ∀ i < d.conf.numSL b, (committed σ (b, i)).Nodup
  comparable : ∀ i < d.conf.numSL b, ∀ j < d.conf.numSL b,
    committed σ (b, i) <+: committed σ (b, j) ∨ committed σ (b, j) <+: committed σ (b, i)
  close : ∀ i < d.conf.numSL b, ∀ j < d.conf.numSL b,
    (committed σ (b, i)).length ≤ (committed σ (b, j)).length + 1
  /-- What one SL has committed, all have accepted. -/
  acceptedByAll : ∀ i < d.conf.numSL b, ∀ p ∈ committed σ (b, i),
    ∀ j < d.conf.numSL b, p ∈ accepted σ (b, j)
  certified : ∀ i < d.conf.numSL b, ∀ fc ∈ fullCommits σ (b, i),
    ∃ voters, Certificate d σ b i fc.1 fc.2 voters
  /-- There is one full commit for a sequence number at most, from one SL. -/
  single : ∀ i < d.conf.numSL b, ((fullCommits σ (b, i)).map fun fc => fc.1.seq).Nodup
    ∧ ∀ j < d.conf.numSL b, ∀ fc ∈ fullCommits σ (b, i), ∀ fc' ∈ fullCommits σ (b, j),
      fc.1.seq = fc'.1.seq → i = j

/-- An entry that some SL has committed is closed, so every SL has accepted it. -/
theorem Round2Inv.acceptedByAll (hinv : Round2Inv d σ b a log) {i j : Nat}
    (hi : i < d.conf.numSL b) (hj : j < d.conf.numSL b) {p : MessageRound2Preprepare}
    (hp : p ∈ committed σ (b, i)) : p ∈ accepted σ (b, j) := by
  have hlt : a.com i ≤ a.acc j :=
    Nat.le_trans (hinv.lock.com_le_closed i hi) (hinv.lock.closed_le_acc j hj)
  rw [committed_eq hinv hi] at hp
  rw [accepted_eq hinv hj]
  exact ((List.take_prefix_take_left hlt).map _).subset hp

theorem Round2Inv.replicated (hinv : Round2Inv d σ b a log) (hn : 0 < d.conf.numSL b) :
    Replicated d σ b where
  agreed := fun i hi => by
    rw [issued_eq hinv hn, committed_eq hinv hi, List.map_map]
    have hcopy : (fun p : MessageRound2Preprepare => p.sentBytes d.host)
        ∘ MessageRound2Preprepare.copy = fun p => p.sentBytes d.host :=
      funext fun p => p.sentBytes_copy d.host
    rw [hcopy]
    exact (List.take_prefix _ _).map _
  once := fun i hi => nodup_committed hinv hi
  comparable := fun i hi j hj => by
    rw [committed_eq hinv hi, committed_eq hinv hj]
    rcases Nat.le_total (a.com i) (a.com j) with h | h
    · exact Or.inl ((List.take_prefix_take_left h).map _)
    · exact Or.inr ((List.take_prefix_take_left h).map _)
  close := fun i hi j hj => by
    rw [length_committed hinv hi, length_committed hinv hj]
    exact hinv.lock.com_le_com hi hj
  acceptedByAll := fun i hi p hp j hj => hinv.acceptedByAll hi hj hp
  certified := fun i hi fc hfc => certificate_of_mem hinv hi hfc
  single := fun i hi => by
    refine ⟨nodup_fullCommits hinv hi, fun j hj fc hfc fc' hfc' hseq => ?_⟩
    obtain ⟨voters, hcert⟩ := certificate_of_mem hinv hi hfc
    obtain ⟨voters', hcert'⟩ := certificate_of_mem hinv hj hfc'
    obtain ⟨p, hp, -, hps, rfl⟩ := hcert.collector
    obtain ⟨q, hq, -, hqs, rfl⟩ := hcert'.collector
    rw [eq_of_seq_eq hinv hn hp hq (by rw [hps, hqs, hseq])]

/-- What the invariant of round 2 means for all BGs. -/
theorem Round2Ok.replicated (h : Round2Ok d σ) (hn : 0 < d.conf.numSL b) : Replicated d σ b := by
  obtain ⟨a, log, hinv⟩ := h b hn
  exact hinv.replicated hn

end RCanopus
