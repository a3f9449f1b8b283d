import RCanopus.Round2Run
import RCanopus.Hybrid.Cluster

/-!
# Round 2 of the hybrid variant

The two programs differ at three messages. A Preprepare for the local connectivity of a cycle has to
pass a gate, a full commit leads to a branch of the hybrid variant, and a result stays at the SL
that gets it. The gate puts a Preprepare back, so to round 2 it is as if the Preprepare came later.
-/

namespace RCanopus.Hybrid

open Cluster

variable {env : Env} {ω : Choice} {s : ConnManager} {e : QueueElement} {v : Round2View}
  {Q : Outcome → Prop} {p : MessageRound2Preprepare} {m : MessageRound2FullCommit}
  {cycle : UInt16} {status : CycleStatus} {l : List MessageRound2Preprepare}

/-! ## What is the same -/

/-- **The other messages** are dispatched as in `ConnManager.cpp`. -/
theorem dispatcherRound2_main (hpreprepare : e.pMessage.msgType ≠ .round2Preprepare)
    (hfull : e.pMessage.msgType ≠ .round2FullCommit)
    (hresponse : e.pMessage.msgType ≠ .round3FetchResponse) :
    dispatcherRound2 env ω e s = RCanopus.dispatcherRound2 env ω e s := by
  unfold dispatcherRound2 RCanopus.dispatcherRound2
  split
  · rfl
  · cases hm : e.pMessage with
    | round2Preprepare m => exact absurd (by rw [hm]; rfl) hpreprepare
    | round2FullCommit m => exact absurd (by rw [hm]; rfl) hfull
    | round3FetchResponse m => exact absurd (by rw [hm]; rfl) hresponse
    | _ => rfl

/-! ## The gate -/

/-- A Preprepare passes the gate: for the local connectivity, the SL has all results. -/
def Passes (s : ConnManager) (p : MessageRound2Preprepare) : Prop :=
  p.requestType = requestTypeLocalConnectivity →
    ∃ status, s.mapRound3Status p.cycle = some status
      ∧ status.state = .round3WaitingForLocalConnectivity

theorem passes_or (hget : p.requestType = requestTypeLocalConnectivity →
      s.mapRound3Status p.cycle ≠ none) :
    Passes s p ∨ (p.requestType = requestTypeLocalConnectivity
      ∧ ∃ status, s.mapRound3Status p.cycle = some status
        ∧ status.state ≠ .round3WaitingForLocalConnectivity) := by
  by_cases ht : p.requestType = requestTypeLocalConnectivity
  · obtain ⟨status, hstatus⟩ := Option.ne_none_iff_exists'.mp (hget ht)
    by_cases hstate : status.state = .round3WaitingForLocalConnectivity
    · exact Or.inl fun _ => ⟨status, hstatus, hstate⟩
    · exact Or.inr ⟨ht, status, hstatus, hstate⟩
  · exact Or.inl fun h => absurd h ht

theorem debugThrow_congr {flag : Bool} {k k' : ConnManager → Outcome}
    (h : ∀ s', s'.mapRound3Status = s.mapRound3Status → k s' = k' s') :
    debugThrow env flag s k = debugThrow env flag s k' := by
  unfold debugThrow
  split
  · exact h _ rfl
  · split
    · rfl
    · exact h _ rfl

/-- What passes the gate is handled as in `ConnManager.cpp`. -/
theorem dispatcherRound2Preprepare_main (hpass : Passes s p) :
    dispatcherRound2Preprepare env e p s = RCanopus.dispatcherRound2Preprepare env e p s := by
  unfold dispatcherRound2Preprepare RCanopus.dispatcherRound2Preprepare
  dsimp only
  split
  · rfl
  · refine debugThrow_congr fun s₁ hs₁ => debugThrow_congr fun s₂ hs₂ => ?_
    split
    · rfl
    · split
      · next ht =>
        obtain ⟨status, hget, hstate⟩ := hpass ht
        rw [hs₂, hs₁, hget]
        dsimp only
        rw [if_neg fun h => h hstate]
        rfl
      · rfl

section Preprepare

variable (hm : e.pMessage = .round2Preprepare p) (hversion : p.header.version = versionLatest)

include hm hversion

theorem dispatcherRound2_preprepare :
    dispatcherRound2 env ω e s = dispatcherRound2Preprepare env e p s := by
  unfold dispatcherRound2
  rw [hm]
  exact if_neg fun h => h hversion

theorem dispatcherRound2_passes (hpass : Passes s p) :
    dispatcherRound2 env ω e s = RCanopus.dispatcherRound2 env ω e s := by
  rw [dispatcherRound2_preprepare hm hversion,
    RCanopus.dispatcherRound2_preprepare hm hversion, dispatcherRound2Preprepare_main hpass]

/-- While a round is running, a Preprepare is juggled. -/
theorem preprepare_busy {current : CycleStatus} (hcurrent : s.pRound2CurrentStatus = some current)
    (hawaiting : current.awaitingMessageType ≠ .round2Preprepare) :
    dispatcherRound2 env ω e s = .ok (s.juggle e) := by
  rw [dispatcherRound2_preprepare hm hversion]
  unfold dispatcherRound2Preprepare
  rw [hcurrent, Option.getD_some]
  dsimp only
  rw [if_pos hawaiting, ← hcurrent]

/-- **A Preprepare waits at the gate** until all results are there. -/
theorem preprepare_waits (hready : s.Ready) (ht : p.requestType = requestTypeLocalConnectivity)
    (hget : s.mapRound3Status p.cycle = some status)
    (hstate : status.state ≠ .round3WaitingForLocalConnectivity) :
    dispatcherRound2 env ω e s
      = .ok ({ s with pRound2CurrentStatus := some .waitingForPreprepare }.juggle e) := by
  have hcurrent : s.pRound2CurrentStatus.getD .waitingForPreprepare = .waitingForPreprepare := by
    rcases hready with h | h
    · rw [h, Option.getD_none]
    · rw [h, Option.getD_some]
  rw [dispatcherRound2_preprepare hm hversion]
  unfold dispatcherRound2Preprepare
  rw [hcurrent]
  dsimp only
  rw [if_neg (by simp [CycleStatus.waitingForPreprepare]),
    show (CycleStatus.waitingForPreprepare.messageReceivedCounter == 0) = true from rfl,
    debugThrow_true,
    show (CycleStatus.waitingForPreprepare.messageRequired == 1) = true from rfl,
    debugThrow_true]
  -- a Preprepare that is too early waits as well
  by_cases htoo : preprepareTooEarly
      { s with pRound2CurrentStatus := some CycleStatus.waitingForPreprepare } p = true
  · rw [if_pos htoo]
  · rw [if_neg htoo, if_pos ht, hget]
    dsimp only
    rw [if_pos hstate]

end Preprepare

/-! ## What was accepted -/

theorem acceptedOf_note {ev : Event} (hev : ∀ p, ev ≠ .accepted p) :
    acceptedOf (s.note ev).history = acceptedOf s.history := by
  show acceptedOf (s.history ++ [ev]) = _
  rw [acceptedOf_append]
  cases ev with
  | accepted p => exact absurd rfl (hev p)
  | _ => exact List.append_nil _

theorem debugThrow_accepted {flag : Bool} {k : ConnManager → Outcome}
    (hs : acceptedOf s.history = l)
    (hthrow : ∀ ex s, acceptedOf s.history = l → Q (.thrown ex s))
    (hk : ∀ s, acceptedOf s.history = l → Q (k s)) : Q (debugThrow env flag s k) := by
  have hnote : acceptedOf (s.note .guardFailed).history = l :=
    (acceptedOf_note (by simp)).trans hs
  unfold debugThrow
  split
  · exact hk s hs
  · split
    · exact hthrow _ _ hnote
    · exact hk _ hnote

theorem debugThrowElseReturnVoid_accepted {flag : Bool} {k : ConnManager → Outcome}
    (hs : acceptedOf s.history = l)
    (hthrow : ∀ ex s, acceptedOf s.history = l → Q (.thrown ex s))
    (hreturn : ∀ s, acceptedOf s.history = l → Q (.ok s))
    (hk : ∀ s, acceptedOf s.history = l → Q (k s)) :
    Q (debugThrowElseReturnVoid env flag s k) := by
  have hnote : acceptedOf (s.note .guardFailed).history = l :=
    (acceptedOf_note (by simp)).trans hs
  unfold debugThrowElseReturnVoid
  split
  · exact hk s hs
  · split
    · exact hthrow _ _ hnote
    · exact hreturn _ hnote

/-- A Preprepare is the only thing that its dispatcher may accept. -/
theorem accepted_preprepare :
    acceptedOf (RCanopus.dispatcherRound2Preprepare env e p s).state.history
        = acceptedOf s.history
      ∨ acceptedOf (RCanopus.dispatcherRound2Preprepare env e p s).state.history
        = acceptedOf s.history ++ [p] := by
  generalize hl : acceptedOf s.history = l
  unfold RCanopus.dispatcherRound2Preprepare
  dsimp only
  split
  · exact Or.inl hl
  · refine debugThrow_accepted (Q := fun o => acceptedOf o.state.history = l
      ∨ acceptedOf o.state.history = l ++ [p]) hl (fun _ _ h => Or.inl h) fun s₁ hs₁ => ?_
    refine debugThrow_accepted (Q := fun o => acceptedOf o.state.history = l
      ∨ acceptedOf o.state.history = l ++ [p]) hs₁ (fun _ _ h => Or.inl h) fun s₂ hs₂ => ?_
    split
    · exact Or.inl hs₂
    · refine debugThrowElseReturnVoid_accepted (Q := fun o => acceptedOf o.state.history = l
        ∨ acceptedOf o.state.history = l ++ [p]) hs₂ (fun _ _ h => Or.inl h)
        (fun _ h => Or.inl h) fun s₃ hs₃ => ?_
      refine debugThrow_accepted (Q := fun o => acceptedOf o.state.history = l
        ∨ acceptedOf o.state.history = l ++ [p]) hs₃ (fun _ _ h => Or.inl h) fun s₄ hs₄ => ?_
      unfold acceptPreprepare
      dsimp only
      refine debugThrow_accepted (Q := fun o => acceptedOf o.state.history = l
        ∨ acceptedOf o.state.history = l ++ [p]) hs₄ (fun _ _ h => Or.inl h) fun s₅ hs₅ => ?_
      refine Or.inr ?_
      rw [← hs₅]
      exact acceptedOf_append ..

/-- A partial commit accepts nothing. -/
theorem accepted_partialCommit {m : MessageRound2PartialCommit} :
    acceptedOf (RCanopus.dispatcherRound2PartialCommit env e m s).state.history
      = acceptedOf s.history := by
  generalize hl : acceptedOf s.history = l
  unfold RCanopus.dispatcherRound2PartialCommit
  split
  · exact hl
  · split
    · exact hl
    · split
      · exact hl
      · refine debugThrowElseReturnVoid_accepted (Q := fun o => acceptedOf o.state.history = l)
          hl (fun _ _ h => h) (fun _ h => h) fun s₁ hs₁ => ?_
        refine debugThrowElseReturnVoid_accepted (Q := fun o => acceptedOf o.state.history = l)
          hs₁ (fun _ _ h => h) (fun _ h => h) fun s₂ hs₂ => ?_
        refine debugThrowElseReturnVoid_accepted (Q := fun o => acceptedOf o.state.history = l)
          hs₂ (fun _ _ h => h) (fun _ h => h) fun s₃ hs₃ => ?_
        refine debugThrowElseReturnVoid_accepted (Q := fun o => acceptedOf o.state.history = l)
          hs₃ (fun _ _ h => h) (fun _ h => h) fun s₄ hs₄ => ?_
        split
        · exact hs₄
        · split
          · exact hs₄
          · refine debugThrowElseReturnVoid_accepted (Q := fun o => acceptedOf o.state.history = l)
              hs₄ (fun _ _ h => h) (fun _ h => h) fun s₅ hs₅ => ?_
            unfold countPartialCommit
            dsimp only
            split
            · refine (acceptedOf_note (by simp)).trans ?_
              exact (acceptedOf_note (s := s₅) (by simp)).trans hs₅
            · exact (acceptedOf_note (s := s₅) (by simp)).trans hs₅

/-! ## What round 3 leaves alone -/

theorem envoyRound3SendFetchRequest_keeps (hs : s.At v) :
    (envoyRound3SendFetchRequest env ω cycle s).Keeps v := by
  have htrace := hs.trace
  unfold envoyRound3SendFetchRequest
  split
  · exact htrace
  · split
    · exact htrace
    · split
      · exact round3Committed_keeps hs
      · dsimp only
        split
        · exact htrace
        · exact debugThrow_view hs (fun _ _ h => h) fun s' hs' => sendToRemoteBGs_keeps rfl hs'

theorem skipCycles_keeps {n : Nat} (hs : s.At v) :
    (skipCycles env ω m p status n cycle s).Keeps v := by
  induction n generalizing cycle s with
  | zero => exact hs
  | succ n ih =>
    unfold skipCycles
    refine debugThrow_view hs (fun _ _ h => h) fun s₁ hs₁ => ?_
    refine debugThrow_view hs₁ (fun _ _ h => h) fun s₂ hs₂ => ?_
    refine Outcome.Keeps.andThen_keeps (v := v) ?_ fun s₃ hs₃ => ?_
    · exact round3RespondToPendingFetchRequests_keeps hs₂
    · exact (envoyRound3SendFetchRequest_keeps hs₃).andThen_keeps fun s₄ hs₄ => ih hs₄

/-- A result stays here, and with the last one the leader may start a round. -/
theorem dispatcherRound3FetchResponse_spawned {r : MessageRound3FetchResponse} (hs : s.At v) :
    Spawned env v (dispatcherRound3FetchResponse env ω r s) := by
  have hspawn : ∀ s, s.At v → Spawned env v (spawnRound2 env ω s) := fun s hs => by
    unfold spawnRound2
    split
    · next hleader =>
      exact startRound2IfPossible_spawned (by simpa [Config.isRound2Leader] using hleader) hs
    · exact .kept s hs
  unfold dispatcherRound3FetchResponse
  dsimp only
  split
  · exact .thrown _ _ hs.trace
  · refine debugThrow_view hs Spawned.thrown fun s₁ hs₁ => ?_
    split
    · refine hspawn _ ?_
      split
      · exact ConnManager.At.pushPreprepare (v := v) hs₁ rfl
      · exact hs₁
    · exact hspawn _ hs₁

section Common

variable {common : ConnManager → Outcome} (hcommon : ∀ s, s.At v.clear → Finished env v (common s))

include hcommon

theorem fullCommitFromClient_finished (hs : s.At v) :
    Finished env v (fullCommitFromClient env ω m p status s common) := by
  unfold fullCommitFromClient
  refine (skipCycles_keeps hs).andThen Finished.thrown fun s₁ hs₁ => ?_
  dsimp only
  refine debugThrowElseReturnVoid_view hs₁ Finished.thrown Finished.returned fun s₂ hs₂ => ?_
  refine debugThrow_view (v := { v with
    stored := none
    status := some { status with
      rgMsgRound3FetchResponse := Function.update status.rgMsgRound3FetchResponse
        env.conf.bGid (some (getRound3Response env.host p m
          (UInt16.ofNat env.conf.sLid) p.cycle)) } })
    ⟨by rw [← hs₂.1]; rfl, hs₂.2⟩ (fun ex s h => Finished.thrown ex s h) fun s₃ hs₃ => ?_
  refine (round3RespondToPendingFetchRequests_keeps (v := v.clear) ?_).andThen
    (fun ex s h => Finished.thrown ex s h) fun s₄ hs₄ => ?_
  · have hview : ({ s₃.setStatus p.cycle { status with
        rgMsgRound3FetchResponse := Function.update status.rgMsgRound3FetchResponse
          env.conf.bGid (some (getRound3Response env.host p m
            (UInt16.ofNat env.conf.sLid) p.cycle)) } with
          pRound2CurrentStatus := none } : ConnManager).round2View
        = { s₃.round2View with status := none } := rfl
    refine ⟨?_, hs₃.2⟩
    rw [hview, hs₃.1]
    rfl
  · exact (envoyRound3SendFetchRequest_keeps hs₄).andThen
      (fun ex s h => Finished.thrown ex s h) hcommon

/-- Every commit ends as in `ConnManager.cpp`. -/
theorem fullCommitBranch_finished (hs : s.At v) :
    Finished env v (fullCommitBranch env ω m p status s common) := by
  unfold fullCommitBranch
  split
  · exact fullCommitFromClient_finished hcommon hs
  · split
    · exact fullCommitFetchedResult_finished hcommon hs
    · split
      · unfold fullCommitLocalConnectivity
        split
        · exact Finished.thrown _ _ hs.trace
        · exact debugThrowElseReturnVoid_view hs Finished.thrown Finished.returned fun s₁ hs₁ =>
            fullCommitLocalConnectivity_finished hcommon hs₁
      · split
        · exact fullCommitRemoteConnectivity_finished hcommon hs
        · split
          · exact fullCommitLocalMembership_finished hcommon hs
          · split
            · exact fullCommitFullMembership_finished hcommon hs
            · exact Finished.thrown _ _ hs.trace

end Common

/-- **Messages that are not of round 2 leave round 2 alone**, but the leader may start a round. -/
theorem dispatcherRound2_spawned (he : e.pMessage.isRound2 = false) (hs : s.At v) :
    Spawned env v (dispatcherRound2 env ω e s) := by
  by_cases hresponse : e.pMessage.msgType = .round3FetchResponse
  · cases hm : e.pMessage with
    | round3FetchResponse m =>
      unfold dispatcherRound2
      rw [hm]
      split
      · exact .thrown _ _ hs.trace
      · exact dispatcherRound3FetchResponse_spawned hs
    | _ =>
      rw [hm] at hresponse
      exact absurd hresponse (by simp [Message.msgType])
  · rw [dispatcherRound2_main (fun h => ?_) (fun h => ?_) hresponse]
    · exact RCanopus.dispatcherRound2_spawned he hs
    all_goals
      rw [Message.isRound2, h] at he
      exact absurd he (by decide)

/-- The full commit for the running round commits the stored Preprepare. -/
theorem fullCommit_committed (hm : e.pMessage = .round2FullCommit m)
    (hversion : m.header.version = versionLatest) (hs : s.At v)
    (hstatus : v.status = some (.waitingForFullcommit p)) (hstored : v.stored = some p)
    (hview : m.view = p.view) (hseq : m.seq = p.seq) :
    dispatcherRound2 env ω e s
      = fullCommitBranch env ω m p (.committed p) (beforeBranch p s) (spawnRound2 env ω) := by
  have hst : s.pRound2CurrentStatus = some (.waitingForFullcommit p) := by
    rw [← hstatus, ← hs.1]
    rfl
  have hsto : s.pTemporaryStorageOfPreprepare = some p := by
    rw [← hstored, ← hs.1]
    rfl
  unfold dispatcherRound2
  rw [hm]
  refine (if_neg fun h => h hversion).trans ?_
  dsimp only
  unfold dispatcherRound2FullCommit
  rw [hst]
  dsimp only
  rw [if_neg (by simp [CycleStatus.waitingForFullcommit, CycleStatus.active]),
    show ((CycleStatus.waitingForFullcommit p).state == CycleState.round2WaitingForFullcommit)
      = true from rfl,
    debugThrowElseReturnVoid_true,
    show (m.view == (CycleStatus.waitingForFullcommit p).round2View) = true from by
      rw [hview]; exact beq_self_eq_true _,
    debugThrowElseReturnVoid_true,
    show (m.seq == (CycleStatus.waitingForFullcommit p).round2Sequence) = true from by
      rw [hseq]; exact beq_self_eq_true _,
    debugThrowElseReturnVoid_true]
  split
  · next hnone =>
    rw [hsto] at hnone
    exact absurd hnone (by simp)
  · next q hq =>
    rw [hsto, Option.some.injEq] at hq
    subst hq
    rfl

end RCanopus.Hybrid
