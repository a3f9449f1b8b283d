import RCanopus.Round3Run

/-!
# No check fails, and the BGs agree on the results

In a valid configuration every client Preprepare names an envoy, so no SL ever crashes. What an SL
holds when it passes a cycle to `round3_committed` is what the other BGs have committed.
-/

namespace RCanopus

open Cluster Exchange

variable {d : Deployment} {σ : Cluster} {b i : Nat} {y z : Peer} {c : UInt16}
  {token : FetchKind → Nat → Nat → UInt16 → Token} {p q : MessageRound2Preprepare}

/-! ## A run of two BGs

The second BG draws SL 1 of the first one for cycle 1 and SL 0 for cycle 2, and SL 1 is slow. So the
result of cycle 2 arrives first.
-/

/-- Two SLs and one. -/
def twoBGs : Deployment where
  conf :=
    { rgBGInfo :=
        [{ failure := 1
           addr :=
            [{ sinAddr := 0x7F000001, sinPort := 7000 },
             { sinAddr := 0x7F000001, sinPort := 7001 }] },
         { failure := 0, addr := [{ sinAddr := 0x7F000001, sinPort := 7002 }] }]
      bGid := 0
      sLid := 0
      globalFailures := 0 }
  host := .little
  debugFailfast := true

/-- A batch from the client of SL 1. -/
def sendBatch (content : List UInt8) (σ : Cluster) : Cluster :=
  send (0, 1) [{ upPeers := [some (0, 0)],
                 pMessage := .round2Request (mockClientRequest 1 content) }] σ

def zeroBatch : List UInt8 := List.replicate requestBatchSize 0

theorem run_clientTick {content : List UInt8} {labels : List Label}
    (h : content.length = requestBatchSize) :
    run twoBGs σ (.clientTick (0, 1) content :: labels)
      = run twoBGs (sendBatch content σ) labels := by
  have hstep : step twoBGs σ (.clientTick (0, 1) content) = some (sendBatch content σ) :=
    if_pos ⟨by decide, by decide, h⟩
  unfold run
  rw [hstep, Option.bind_some]
  cases labels <;> rfl

/-- A message of the inbox of an SL is dispatched; the draw is for all other BGs. -/
def turn (x : Peer) (i draw : Nat) : Label := .receive x i { draw := fun _ => draw, top := 0 }

/-- Each step of a list as often as the number beside it says. -/
def repeated {Step : Type} (steps : List (Nat × Step)) : List Step :=
  steps.flatMap fun step => List.replicate step.1 step.2

/-- SL 1 of the first BG leaves the request for cycle 1 in its inbox, and takes what comes later. -/
def overtakingRun : List Label :=
  let first := turn (0, 0) 0 0
  let other := turn (0, 1) 0 0
  let passing := turn (0, 1) 1 0
  let single := turn (1, 0) 0 0
  let drawing := turn (1, 0) 0 1
  [.leaderTick 0, .leaderTick 0, .leaderTick 1, .leaderTick 1, .pipeReadable 0, .pipeReadable 1] ++
  [first, first, first, first, first, other, first, first, first, other, other, other, other,
    first, other, single, single, single, single, single, drawing, first, first, first, passing,
    first, first, first, passing, passing, passing, passing, first, passing, single, single,
    single, single, first, passing, first, first, first, passing, first, first, first, passing,
    passing, passing, passing, first, passing, single, single, single, single, single, single,
    single, single, first, passing, first, first, first, passing, first, first, passing, single,
    single, single, single, single, first, passing, first, first, passing, passing, passing,
    first, passing, single, single, single, single]

theorem exists_of_mem_closedOf {events : List Event} (h : c ∈ closedOf events) :
    ∃ status, .round3Committed c status ∈ events := by
  obtain ⟨ev, hev, hc⟩ := List.mem_filterMap.mp h
  cases ev <;> simp at hc
  subst hc
  exact ⟨_, hev⟩

/-- The run from the start, with the batches of the client of SL 1. -/
def overtakingLabels : List Label :=
  .clientTick (0, 1) zeroBatch :: .clientTick (0, 1) zeroBatch :: overtakingRun

/--
The single SL has passed cycle 2 to `round3_committed`, and not cycle 1. The other two SLs are at
the same place of their log.
-/
theorem run_overtaking : ∃ σ, run twoBGs init overtakingLabels = some σ
    ∧ closedOf (σ (1, 0)).sl.history = [2]
    ∧ (committed σ (0, 0)).length = 8 ∧ (committed σ (0, 1)).length = 8 := by
  have hbatch : zeroBatch.length = requestBatchSize := List.length_replicate
  have hrun : (run twoBGs (sendBatch zeroBatch (sendBatch zeroBatch init)) overtakingRun).map
        (fun σ => (closedOf (σ (1, 0)).sl.history, (committed σ (0, 0)).length,
          (committed σ (0, 1)).length)) = some ([2], 8, 8) := by decide +kernel
  obtain ⟨σ, hσ, hresult⟩ := Option.map_eq_some_iff.mp hrun
  rw [Prod.mk.injEq, Prod.mk.injEq] at hresult
  refine ⟨σ, ?_, hresult⟩
  unfold overtakingLabels
  rw [run_clientTick hbatch, run_clientTick hbatch, hσ]

theorem overtakingRun_result : ∃ σ, Reachable twoBGs σ ∧ closedOf (σ (1, 0)).sl.history = [2]
    ∧ (committed σ (0, 0)).length = 8 ∧ (committed σ (0, 1)).length = 8 := by
  obtain ⟨σ, hrun, hresult⟩ := run_overtaking
  exact ⟨σ, reachable_of_run .refl hrun, hresult⟩

theorem valid_twoBGs : twoBGs.conf.Valid := by
  have hsl : ∀ b, twoBGs.conf.numSL b = if b = 0 then 2 else if b = 1 then 1 else 0
    | 0 => rfl
    | 1 => rfl
    | b + 2 => Config.numSL_eq_zero (Nat.le_add_left 2 b)
  refine ⟨by decide, fun b => ?_, ?_, ?_, by decide⟩
  · rw [hsl]
    split
    · decide
    · split <;> decide
  · decide
  · decide

/-! ## Checks -/

section Checks

variable (hvalid : d.conf.Valid) (hreach : Reachable d σ)

include hvalid hreach

/-- Every SL of a valid configuration runs on. -/
theorem crashed_eq_false (hy : y.1 < d.conf.numBG) : (σ y).crashed = false := by
  rw [Bool.eq_false_iff]
  intro hcrashed
  obtain ⟨c, hc⟩ := (round3Ok_of_reachable hvalid.fits hreach).crashed y hcrashed
  exact hvalid.envoy_ne_none hy hc

/--
**No check ever fails.** In every reachable state of a valid configuration no exception has left
the main loop of an SL, and no check of a macro has failed.
-/
theorem no_check_fails (hy : d.Has y) :
    (σ y).crashed = false ∧ .guardFailed ∉ (σ y).sl.history := by
  obtain ⟨token, h⟩ := (round3Ok_of_reachable hvalid.fits hreach).inv
  exact ⟨crashed_eq_false hvalid hreach hy.1, (h.sl y).events .guardFailed⟩

end Checks

/-- In the run above the single SL has finished a cycle without a failed check. -/
theorem twoBGs_no_check_fails : ∃ σ, Reachable twoBGs σ ∧ closedOf (σ (1, 0)).sl.history = [2]
    ∧ (σ (1, 0)).crashed = false ∧ .guardFailed ∉ (σ (1, 0)).sl.history := by
  obtain ⟨σ, hreach, hclosed, -⟩ := overtakingRun_result
  exact ⟨σ, hreach, hclosed, no_check_fails valid_twoBGs hreach (by decide)⟩

/-! ## Results -/

/-- What an SL commits was issued by its leader. -/
theorem exists_issued (hreach : Reachable d σ) (hy : d.Has y) (hp : p ∈ committed σ y) :
    ∃ q ∈ issued σ y.1, p = q.copy := by
  obtain ⟨b, i⟩ := y
  obtain ⟨a, log, hinv⟩ := round2Inv_of_reachable hreach hy
  rw [committed_eq hinv hy.2] at hp
  obtain ⟨q, hq, rfl⟩ := List.mem_map.mp hp
  refine ⟨q, ?_, rfl⟩
  rw [issued_eq hinv (Nat.lt_of_le_of_lt (Nat.zero_le i) hy.2)]
  exact List.mem_of_mem_take hq

/-- A leader issues one Preprepare for each entry. -/
theorem Round3Inv.issued_unique (h : Round3Inv d σ token) (hp : p ∈ Cluster.issued σ b)
    (hq : q ∈ Cluster.issued σ b) (heq : entryOf p = entryOf q) : p = q :=
  List.inj_on_of_nodup_map (List.nodup_append.mp (h.inv.nodup b)).1 hp hq heq

/-- A BG whose result was fetched has committed it. -/
theorem Exchange.Inv.client_of_fetched {L : Layout} {x : Exchange} {A : Nat} (h : x.Inv L)
    (hi : i < L.numSL b) (he : .fetched c A ∈ x.committed (b, i)) :
    ∃ j < L.numSL A, .client c ∈ x.committed (A, j) :=
  h.served .result b A c (Or.inr ((h.fetched b c A).mp (h.mem_all hi he)))

/-- A BG that closes a cycle has the result of every BG, which some SL there has committed. -/
theorem Exchange.Inv.client_of_closed {L : Layout} {x : Exchange} {A : Nat} (h : x.Inv L)
    (hi : i < L.numSL b) (hb : b < L.numBG) (he : closer L.numBG c ∈ x.committed (b, i))
    (hA : A < L.numBG) : ∃ j < L.numSL A, .client c ∈ x.committed (A, j) := by
  unfold closer at he
  split at he
  · obtain rfl : A = b := by omega
    exact ⟨i, hi, he⟩
  · have hmember := h.needs_committed hi he (.fullMembership c)
    have hconn := h.needs_committed hi hmember (.localMembership c)
    by_cases hne : A = b
    · subst hne
      exact ⟨i, hi, h.needs_committed hi hconn (.localConnectivity c)⟩
    · exact h.client_of_fetched hi (h.needs_committed hi hconn (.results c A hA hne))

/-- The client Preprepares of a cycle that an SL has committed. -/
def clientPreprepares (σ : Cluster) (y : Peer) (c : UInt16) : List MessageRound2Preprepare :=
  (committed σ y).filter fun p => p.requestType = requestTypeFromClient ∧ p.cycle = c

theorem mem_clientPreprepares :
    p ∈ clientPreprepares σ y c ↔ p ∈ committed σ y ∧ entryOf p = .client c := by
  unfold clientPreprepares
  rw [List.mem_filter, decide_eq_true_eq, entryOf_client]

/-- What an SL holds for BG `A` is what the SLs of `A` have committed for the cycle. -/
structure TrueResult (d : Deployment) (σ : Cluster) (c : UInt16) (status : CycleStatus) (A : Nat)
    (bytes : List UInt8) : Prop where
  held : (status.rgMsgRound3FetchResponse A).map (·.entirePreprepareMsg) = some bytes
  committed : ∃ j < d.conf.numSL A, clientPreprepares σ (A, j) c ≠ []
  same : ∀ j < d.conf.numSL A, ∀ p ∈ clientPreprepares σ (A, j) c, p.sentBytes d.host = bytes

/--
**Agreement on the results.** An SL that passes a cycle to `round3_committed` holds one response for
every BG, with the bytes of the Preprepare that the SLs there have committed for the cycle. So any
two SLs of any two BGs hold the same.
-/
theorem round3Committed_agreement (hvalid : d.conf.Valid) (hreach : Reachable d σ) (hy : d.Has y)
    {status : CycleStatus} (hc : .round3Committed c status ∈ (σ y).sl.history) :
    (∀ A < d.conf.numBG, ∃ bytes, TrueResult d σ c status A bytes)
      ∧ ∀ z status', d.Has z → .round3Committed c status' ∈ (σ z).sl.history →
        ∀ A < d.conf.numBG,
          (status.rgMsgRound3FetchResponse A).map (·.entirePreprepareMsg)
            = (status'.rgMsgRound3FetchResponse A).map (·.entirePreprepareMsg) := by
  obtain ⟨token, h⟩ := (round3Ok_of_reachable hvalid.fits hreach).inv
  have hresult : ∀ z, d.Has z → ∀ status', .round3Committed c status' ∈ (σ z).sl.history →
      ∀ A < d.conf.numBG, ∃ bytes, TrueResult d σ c status' A bytes := by
    intro z hz status' hc' A hA
    obtain ⟨hclosed, hslots⟩ := (h.sl z).events _ hc'
    obtain ⟨r, hr, q, hq, hentry, hbytes⟩ := hslots A hA
    obtain ⟨j, hj, hmem⟩ := h.inv.client_of_closed hz.2 hz.1 hclosed hA
    obtain ⟨p, hp, hpc⟩ := List.mem_map.mp hmem
    refine ⟨q.sentBytes d.host, ?_, ⟨j, hj, ?_⟩, fun j' hj' p' hp' => ?_⟩
    · rw [hr]
      exact congrArg some hbytes
    · exact List.ne_nil_of_mem (mem_clientPreprepares.mpr ⟨hp, hpc⟩)
    · obtain ⟨hp', hentry'⟩ := mem_clientPreprepares.mp hp'
      obtain ⟨q', hq', rfl⟩ := exists_issued (y := (A, j')) hreach ⟨hA, hj'⟩ hp'
      rw [entryOf_copy] at hentry'
      rw [h.issued_unique hq hq' (hentry.trans hentry'.symm)]
      exact q'.sentBytes_copy d.host
  refine ⟨hresult y hy status hc, fun z status' hz hc' A hA => ?_⟩
  obtain ⟨bytes, hheld, ⟨j, hj, hne⟩, hsame⟩ := hresult y hy status hc A hA
  obtain ⟨bytes', hheld', -, hsame'⟩ := hresult z hz status' hc' A hA
  obtain ⟨p, hp⟩ := List.exists_mem_of_ne_nil _ hne
  rw [hheld, hheld', ← hsame j hj p hp, hsame' j hj p hp]

/-- The single SL holds the results of both BGs for cycle 2. -/
theorem twoBGs_results : ∃ σ status, Reachable twoBGs σ
    ∧ .round3Committed 2 status ∈ (σ (1, 0)).sl.history
    ∧ ∃ bytes, TrueResult twoBGs σ 2 status 0 bytes := by
  obtain ⟨σ, hreach, hclosed, -⟩ := overtakingRun_result
  obtain ⟨status, hc⟩ := exists_of_mem_closedOf (c := 2) (by rw [hclosed]; exact .head _)
  exact ⟨σ, status, hreach, hc,
    (round3Committed_agreement valid_twoBGs hreach (by decide) hc).1 0 (by decide)⟩

end RCanopus
