import RCanopus.CyclePhases

/-!
# The fields of a status

The handlers write the four fields of a `CycleStatus` one by one. Between two dispatches they belong
together: the state says what the status waits for and how many messages it needs, and the stored
Preprepare is there exactly while its round is open.

* `status_consistent`: they do in every reachable state.
-/

namespace RCanopus

open Cluster Exchange

variable {d : Deployment} {σ : Cluster} {y : Peer} {c : UInt16} {x : Exchange}
  {status : CycleStatus}

/-! ## Consistent fields -/

/-- What a status waits for in a state, and how many. Between dispatches no other state is left. -/
def CycleState.waitsFor (conf : Config) : CycleState → Option (MessageType × Nat)
  | round2WaitingForPreprepare => some (.round2Preprepare, 1)
  | round2CollectorWaitingForPartialcommits => some (.round2PartialCommit, conf.numSL conf.bGid)
  | round2WaitingForFullcommit => some (.round2FullCommit, 1)
  | round3WaitingForReplicatedResults => some (.round3FetchResponse, conf.numBG - 1)
  | round3WaitingForLocalConnectivity => some (.round2FullCommit, 1)
  | round3WaitingForReplicatedConnectivity => some (.round3ConnectivityResponse, conf.numBG - 1)
  | round3WaitingForReplicatedMembership => some (.round3MembershipResponse, conf.numBG - 1)
  | _ => none

/-- A Preprepare was accepted and is not committed yet. -/
def CycleState.IsOpen (state : CycleState) : Prop :=
  state = .round2CollectorWaitingForPartialcommits ∨ state = .round2WaitingForFullcommit

instance (state : CycleState) : Decidable state.IsOpen := inferInstanceAs (Decidable (_ ∨ _))

/-- The state determines the other fields, and the counter is in its bounds. -/
structure CycleStatus.Consistent (conf : Config) (status : CycleStatus) : Prop where
  determined : status.state.waitsFor conf
    = some (status.awaitingMessageType, status.messageRequired)
  counter : status.messageReceivedCounter ≤ status.messageRequired

/-- The status fields of an SL. -/
structure ConnManager.Consistent (conf : Config) (s : ConnManager) : Prop where
  stored : s.pTemporaryStorageOfPreprepare.isSome = true
    ↔ ∃ status, s.pRound2CurrentStatus = some status ∧ status.state.IsOpen
  round : ∀ status p, s.pRound2CurrentStatus = some status →
    s.pTemporaryStorageOfPreprepare = some p →
    p.view = status.round2View ∧ p.seq = status.round2Sequence
  current : ∀ status, s.pRound2CurrentStatus = some status →
    status.state ≠ .round2Committed ∧ status.Consistent conf
  cycles : ∀ c status, s.mapRound3Status c = some status → status.Consistent conf

/-- Between two rounds nothing is stored, and otherwise the Preprepare of the open round. -/
def ConnManager.RoundOk (conf : Config) (s : ConnManager) : Prop :=
  (s.pTemporaryStorageOfPreprepare = none
      ∧ ∀ status, s.pRound2CurrentStatus = some status → status = .waitingForPreprepare)
    ∨ ∃ p status, s.pTemporaryStorageOfPreprepare = some p
      ∧ s.pRound2CurrentStatus = some status
      ∧ (p.view = status.round2View ∧ p.seq = status.round2Sequence)
      ∧ status.state.IsOpen ∧ status.Consistent conf

/-! ## Round 2 -/

theorem consistent_waitingForPreprepare {conf : Config} :
    CycleStatus.waitingForPreprepare.Consistent conf := ⟨rfl, Nat.zero_le _⟩

theorem consistent_waitingForFullcommit {conf : Config} {p : MessageRound2Preprepare} :
    (CycleStatus.waitingForFullcommit p).Consistent conf := ⟨rfl, Nat.zero_le _⟩

theorem consistent_collecting {conf : Config} {p : MessageRound2Preprepare} {counter : Nat}
    (h : counter ≤ conf.numSL conf.bGid) :
    (CycleStatus.collecting (conf.numSL conf.bGid) p counter).Consistent conf := ⟨rfl, h⟩

variable {i : Nat} {a : LockStep.State} {log : List MessageRound2Preprepare} {s : ConnManager}

/-- What the invariant of round 2 says about it, with a vote missing. -/
theorem Phase.roundOk {conf : Config} (h : Phase (conf.numSL conf.bGid) i a log s.round2View)
    (hrunning : ∀ status, s.pRound2CurrentStatus = some status → status.state ≠ .round2Committed)
    (hvotes : (a.votes a.closed).length < conf.numSL conf.bGid) :
    s.RoundOk conf := by
  cases h with
  | ready hacc hstored hstatus hleader =>
    exact Or.inl ⟨hstored, fun status hget =>
      hstatus.elim (fun hnone => absurd (hget.symm.trans hnone) (by simp))
        fun hsome => Option.some.inj (hget.symm.trans hsome)⟩
  | active p hp hacc hstored hcollector hstatus =>
    refine Or.inr ⟨p.copy, _, hstored, hstatus, ?_⟩
    split
    -- the collector has not counted all votes, otherwise the entry would be closed
    · exact ⟨⟨rfl, rfl⟩, Or.inl rfl, consistent_collecting (Nat.le_of_lt hvotes)⟩
    · exact ⟨⟨rfl, rfl⟩, Or.inr rfl, consistent_waitingForFullcommit⟩
  | stuck p k hk hp hacc hstatus => exact absurd rfl (hrunning _ hstatus)

/-- The fields of an SL, from those of its round 2 and of its cycles. -/
theorem ConnManager.RoundOk.consistent {conf : Config} (h : s.RoundOk conf)
    (hcycles : ∀ c status, s.mapRound3Status c = some status → status.Consistent conf) :
    s.Consistent conf := by
  rcases h with ⟨hstored, hcurrent⟩ | ⟨p, status, hstored, hstatus, hround, hopen, hok⟩
  · refine ⟨iff_of_false (by simp [hstored]) ?_, fun _ p _ hp => ?_, fun status hget => ?_, hcycles⟩
    · rintro ⟨status, hget, hopen⟩
      rw [hcurrent status hget] at hopen
      exact absurd hopen (by decide)
    · exact absurd (hp.symm.trans hstored) (by simp)
    · rw [hcurrent status hget]
      exact ⟨by decide, consistent_waitingForPreprepare⟩
  · have hcurrent : ∀ status', s.pRound2CurrentStatus = some status' → status' = status :=
      fun status' hget => Option.some.inj (hget.symm.trans hstatus)
    refine ⟨iff_of_true (by simp [hstored]) ⟨status, hstatus, hopen⟩, fun status' q hget hq => ?_,
      fun status' hget => ?_, hcycles⟩
    · rw [hcurrent status' hget, ← Option.some.inj (hstored.symm.trans hq)]
      exact hround
    · rw [hcurrent status' hget]
      refine ⟨fun hcommitted => ?_, hok⟩
      rw [CycleState.IsOpen, hcommitted] at hopen
      exact absurd hopen (by decide)

/-! ## Round 3 -/

/-- A phase whose slots are filled one after the other. -/
theorem CycleStatus.In.consistent {conf : Config} {state : CycleState} {awaiting : MessageType}
    {counter required : Nat} (h : status.In state awaiting counter required)
    (hstate : state.waitsFor conf = some (awaiting, required)) (hcounter : counter ≤ required) :
    status.Consistent conf := by
  obtain ⟨rfl, rfl, rfl, rfl⟩ := h
  exact ⟨hstate, hcounter⟩

theorem StatusOk.consistent (h : StatusOk d σ x y c status) (hy : d.Has y) :
    status.Consistent (d.env y).conf := by
  by_cases hmember : .localMembership c ∈ x.committed y
  · exact (h.joining hmember).consistent rfl (countOthers_le hy.1)
  by_cases hconn : .localConnectivity c ∈ x.committed y
  · exact (h.connecting hconn hmember).consistent rfl (countOthers_le hy.1)
  by_cases hall : d.layout.AllOthers y.1 fun A => .fetched c A ∈ x.committed y
  · exact (h.collected hall hconn).consistent rfl (Nat.zero_le _)
  · exact (h.collecting hall).consistent rfl (countOthers_le hy.1)

/-! ## Every reachable state -/

/--
**The status fields stay consistent.** In every reachable state, an SL that runs has a Preprepare
stored exactly while a round is open, and it is the one of that round. No round is left committed,
and in each status the state determines what it waits for, with the counter in its bounds.
-/
theorem status_consistent (hfits : d.conf.Fits) (hreach : Reachable d σ) (hy : d.Has y)
    (halive : (σ y).crashed = false) : (σ y).sl.Consistent (d.env y).conf := by
  obtain ⟨b, i⟩ := y
  have h3 := round3Ok_of_reachable hfits hreach
  obtain ⟨token, h⟩ := h3.inv
  obtain ⟨a, log, hinv⟩ := round2Ok_of_reachable hreach b (Nat.lt_of_le_of_lt (Nat.zero_le i) hy.2)
  have hcycles : ∀ c status, (σ (b, i)).sl.mapRound3Status c = some status →
      status.Consistent (d.env (b, i)).conf := fun c status hget => by
    have hstatus := (h.sl (b, i)).status c
    rw [hget] at hstatus
    exact StatusOk.consistent hstatus hy
  have hround : (σ (b, i)).sl.RoundOk (d.env (b, i)).conf :=
    (hinv.live i hy.2 halive).phase.roundOk (h3.unstuck (b, i) halive).running hinv.lock.votes_open
  exact hround.consistent hcycles

/-- The fields of the leader of the first BG when the other BG has closed a cycle. -/
theorem twoBGs_consistent : ∃ σ, Reachable twoBGs σ ∧ closedOf (σ (1, 0)).sl.history = [2]
    ∧ (σ (0, 0)).sl.Consistent (twoBGs.env (0, 0)).conf := by
  obtain ⟨σ, hreach, hclosed, -⟩ := overtakingRun_result
  exact ⟨σ, hreach, hclosed, status_consistent valid_twoBGs.fits hreach (by decide)
    (crashed_eq_false valid_twoBGs hreach (by decide))⟩

end RCanopus
