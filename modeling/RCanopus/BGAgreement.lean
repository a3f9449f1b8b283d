import RCanopus.Replicated
import RCanopus.Round3Run

/-!
# Agreement inside a BG in every run

What the SLs of a BG commit in round 2 is what their leader issued, and a full commit is backed by
the partial commits of all SLs. Every SL goes by its own copy of a Preprepare, so ids and sizes have
to fit in the fields for them: then the header of every Preprepare counts its fixed fields.
-/

namespace RCanopus.Cluster

variable {d : Deployment} {σ : Cluster} {b i j : Nat} {a : LockStep.State}
  {log : List MessageRound2Preprepare} {p : MessageRound2Preprepare}

/-! ## Copies -/

/-- No copy of what a leader has issued is cut inside the fixed fields. -/
theorem covers_of_issued (hfits : d.conf.Fits) (hreach : Reachable d σ) (hn : 0 < d.conf.numSL b)
    (hp : p ∈ issued σ b) : p.Covers := by
  obtain ⟨token, hinv⟩ := (round3Ok_of_reachable hfits hreach).inv
  exact (hinv.issued b p hp).covers hfits hn

theorem exists_issued_of_accepted (hinv : Round2Inv d σ b a log) (hi : i < d.conf.numSL b)
    (hp : p ∈ accepted σ (b, i)) : ∃ q ∈ issued σ b, p = q.copy := by
  rw [accepted_eq hinv hi] at hp
  obtain ⟨q, hq, rfl⟩ := List.mem_map.mp hp
  refine ⟨q, ?_, rfl⟩
  rw [issued_eq hinv (Nat.lt_of_le_of_lt (Nat.zero_le i) hi)]
  exact List.take_subset _ _ hq

/-! ## Logs -/

/--
**Agreement in round 2.** What an SL commits is a prefix of what its leader issued, in the same
bytes, which count the fixed fields; so the logs of two SLs are prefixes of each other and differ by
at most one entry.
-/
theorem committed_prefix_issued (hfits : d.conf.Fits) (hreach : Reachable d σ)
    (hi : d.Has (b, i)) (hj : d.Has (b, j)) :
    (∀ p ∈ issued σ b, p.Covers)
      ∧ (committed σ (b, i)).map (·.sentBytes d.host) <+: (issued σ b).map (·.sentBytes d.host)
      ∧ (committed σ (b, i)).Nodup
      ∧ (committed σ (b, i) <+: committed σ (b, j) ∨ committed σ (b, j) <+: committed σ (b, i))
      ∧ (committed σ (b, i)).length ≤ (committed σ (b, j)).length + 1 := by
  have hn : 0 < d.conf.numSL b := Nat.lt_of_le_of_lt (Nat.zero_le i) hi.2
  have hreplicated := (round2Ok_of_reachable hreach).replicated hn
  exact ⟨fun p hp => covers_of_issued hfits hreach hn hp, hreplicated.agreed i hi.2,
    hreplicated.once i hi.2, hreplicated.comparable i hi.2 j hj.2, hreplicated.close i hi.2 j hj.2⟩

/-! ### A run of two SLs -/

/-- One BG of two SLs. -/
def pair : Deployment where
  conf :=
    { rgBGInfo :=
        [{ failure := 1
           addr :=
            [{ sinAddr := 0x7F000001, sinPort := 7000 },
             { sinAddr := 0x7F000001, sinPort := 7001 }] }]
      bGid := 0
      sLid := 0
      globalFailures := 0 }
  host := .little
  debugFailfast := true

theorem valid_pair : pair.conf.Valid := by
  have hsl : ∀ b, pair.conf.numSL b = if b = 0 then 2 else 0
    | 0 => rfl
    | b + 1 => Config.numSL_eq_zero (Nat.le_add_left 1 b)
  refine ⟨by decide, fun b => ?_, ?_, ?_, by decide⟩
  · rw [hsl]
    split <;> decide
  · decide
  · decide

/-- The first message in the inbox of an SL. -/
def receiveFirst (sl : Nat) : Label := .receive (0, sl) 0 { draw := fun _ => 0, top := 0 }

/-- A client of SL 1 has sent a batch. -/
def clientBatch (content : List UInt8) : Cluster :=
  send (0, 1) [{ upPeers := [some (0, 0)],
                 pMessage := .round2Request (mockClientRequest 1 content) }] init

theorem clientBatch_reachable {content : List UInt8} (h : content.length = requestBatchSize) :
    Reachable pair (clientBatch content) :=
  Reachable.step .refl ⟨.clientTick (0, 1) content, if_pos ⟨by decide, by decide, h⟩⟩

/-- A round up to the moment when SL 1 has committed and SL 0 has not. -/
def pairRun : List Label :=
  [.leaderTick 0, .pipeReadable 0] ++ [0, 0, 0, 1, 0, 0, 1].map receiveFirst

/-- Where the round leads. -/
theorem pairRun_result : ∃ σ, Reachable pair σ
    ∧ (committed σ (0, 0)).length = 0 ∧ (committed σ (0, 1)).length = 1
    ∧ (fullCommits σ (0, 0)).length = 1 := by
  have hrun : (run pair (clientBatch (List.replicate requestBatchSize 0)) pairRun).map
      (fun σ => ((committed σ (0, 0)).length, (committed σ (0, 1)).length,
        (fullCommits σ (0, 0)).length)) = some (0, 1, 1) := by decide +kernel
  obtain ⟨σ, hσ, hlen⟩ := Option.map_eq_some_iff.mp hrun
  refine ⟨σ, reachable_of_run (clientBatch_reachable List.length_replicate) hσ, ?_⟩
  rw [Prod.mk.injEq, Prod.mk.injEq] at hlen
  exact hlen

/-- SL 1 is one Preprepare ahead of its leader. -/
theorem pair_committed_prefix : ∃ σ, Reachable pair σ
    ∧ (committed σ (0, 1)).length = (committed σ (0, 0)).length + 1
    ∧ (committed σ (0, 1)).map (·.sentBytes .little)
      <+: (issued σ 0).map (·.sentBytes .little) := by
  obtain ⟨σ, hreach, h0, h1, -⟩ := pairRun_result
  refine ⟨σ, hreach, by rw [h0, h1], ?_⟩
  exact (committed_prefix_issued (j := 0) valid_pair.fits hreach (by decide) (by decide)).2.1

/-! ## Certificates -/

/--
**The collector's certificate.** Every full commit is backed by the partial commits of all SLs for
the Preprepare that names its sender; there is one for each sequence number at most; and every
partial commit is counted once, for its own round, or waits at the collector.
-/
theorem fullCommit_certified (hfits : d.conf.Fits) (hreach : Reachable d σ)
    (hi : d.Has (b, i)) :
    (∀ p ∈ accepted σ (b, i), p.Covers)
      ∧ (∀ fc ∈ fullCommits σ (b, i), ∃ voters, Certificate d σ b i fc.1 fc.2 voters)
      ∧ ((fullCommits σ (b, i)).map fun fc => fc.1.seq).Nodup
      ∧ (∀ j, d.Has (b, j) → ∀ fc ∈ fullCommits σ (b, i), ∀ fc' ∈ fullCommits σ (b, j),
          fc.1.seq = fc'.1.seq → i = j)
      ∧ (∀ v ∈ countedOf (σ (b, i)).sl.history, v.2.1.view = v.2.2.1 ∧ v.2.1.seq = v.2.2.2)
      ∧ ∀ p ∈ accepted σ (b, i),
          (countedFor σ (b, p.collectorSLid.toNat) p.view p.seq).count
              (source b p.collectorSLid.toNat i, partialCommitMessage i p.view p.seq)
            + (pool σ (b, p.collectorSLid.toNat)).count
              (partialCommitOf b p.collectorSLid.toNat i p) = 1 := by
  obtain ⟨a, log, hinv⟩ := round2Inv_of_reachable hreach hi
  have hn : 0 < d.conf.numSL b := Nat.lt_of_le_of_lt (Nat.zero_le i) hi.2
  have hreplicated := hinv.replicated hn
  refine ⟨fun p hp => ?_, hreplicated.certified i hi.2, (hreplicated.single i hi.2).1,
    fun j hj => (hreplicated.single i hi.2).2 j hj.2, counted_for_round hinv hi.2,
    fun p hp => counted_or_waits hinv hi.2 hp⟩
  obtain ⟨q, hq, rfl⟩ := exists_issued_of_accepted hinv hi.2 hp
  have hcovers : q.Covers := covers_of_issued hfits hreach hn hq
  exact hcovers

/-- The only full commit of SL 0 so far has the votes of both SLs. -/
theorem pair_fullCommit_certified : ∃ σ, Reachable pair σ
    ∧ ∃ fc ∈ fullCommits σ (0, 0), ∃ voters, Certificate pair σ 0 0 fc.1 fc.2 voters
      ∧ voters.length = 2 := by
  obtain ⟨σ, hreach, -, -, hlen⟩ := pairRun_result
  obtain ⟨fc, hfc⟩ := List.exists_mem_of_length_pos (hlen ▸ Nat.one_pos)
  obtain ⟨voters, hcert⟩ := (fullCommit_certified valid_pair.fits hreach (by decide)).2.1 fc hfc
  exact ⟨σ, hreach, fc, hfc, voters, hcert, hcert.length.trans hcert.all⟩

end RCanopus.Cluster
