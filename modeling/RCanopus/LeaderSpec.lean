import RCanopus.Leader
import Mathlib.Data.Finset.Max
import Mathlib.Data.Finset.Range

/-!
# When the leader starts a round

The four cases of `startRound2IfPossible`: a round is running, a Preprepare waits in the priority
queue, all SLs have sent a batch, or there is nothing to do.
-/

namespace RCanopus

/-! ## The top of the priority queue -/

theorem lt_of_isTop {queue : List MessageRound2Preprepare} {i : Nat} (h : isTop queue i = true) :
    i < queue.length := by
  unfold isTop at h
  split at h
  · exact absurd h Bool.false_ne_true
  · next p hp => exact (List.getElem?_eq_some_iff.mp hp).1

/-- Some element has the greatest request type. -/
theorem exists_isTop {queue : List MessageRound2Preprepare} (h : queue ≠ []) :
    ∃ i < queue.length, isTop queue i = true := by
  have hnonempty : (Finset.range queue.length).Nonempty :=
    ⟨0, Finset.mem_range.mpr (List.length_pos_iff.mpr h)⟩
  obtain ⟨i, hi, hmax⟩ := Finset.exists_max_image (Finset.range queue.length)
    (fun i => (queue[i]?.map fun p => p.requestType.toNat).getD 0) hnonempty
  have hi : i < queue.length := Finset.mem_range.mp hi
  refine ⟨i, hi, ?_⟩
  unfold isTop
  rw [List.getElem?_eq_getElem hi]
  dsimp only
  rw [List.all_eq_true]
  intro q hq
  obtain ⟨j, hj, rfl⟩ := List.getElem_of_mem hq
  have hle := hmax j (Finset.mem_range.mpr hj)
  rw [List.getElem?_eq_getElem hi, List.getElem?_eq_getElem hj] at hle
  exact decide_eq_true (UInt16.le_iff_toNat_le.mpr hle)

theorem topIndex_lt {queue : List MessageRound2Preprepare} (ω : Choice) (h : queue ≠ []) :
    topIndex ω queue < queue.length := by
  unfold topIndex
  split
  · next htop => exact lt_of_isTop htop
  · obtain ⟨i, hi, htop⟩ := exists_isTop h
    have hlt : (List.range queue.length).findIdx (isTop queue) < (List.range queue.length).length :=
      List.findIdx_lt_length_of_exists ⟨i, List.mem_range.mpr hi, htop⟩
    rwa [List.length_range] at hlt

/-! ## Starting a round -/

/-- The top of the priority queue, or else a client Preprepare, is issued. -/
def issueNext (env : Env) (ω : Choice) (s : ConnManager) : Outcome :=
  match s.pLeaderRound2PendingPreprepareRaw[topIndex ω s.pLeaderRound2PendingPreprepareRaw]? with
  | some pPreprepare =>
    debugThrow env (pPreprepare.numOfRound3Participants == 0) s fun s =>
    sendPreprepare env pPreprepare
      { s with
        pLeaderRound2PendingPreprepareRaw := s.pLeaderRound2PendingPreprepareRaw.eraseIdx
          (topIndex ω s.pLeaderRound2PendingPreprepareRaw) }
  | none => sendClientPreprepare env s

section

variable {env : Env} {ω : Choice} {s : ConnManager} (hleader : env.conf.sLid = 0)

include hleader

theorem canStartRound2_eq (k : Bool → ConnManager → Outcome) :
    canStartRound2 env s k = k (canStartRound2Value env s) s := by
  unfold canStartRound2
  rw [hleader, beq_self_eq_true, debugThrow_true, if_neg fun h => h.1 rfl]

/-- A round is running. -/
theorem startRound2IfPossible_running {status : CycleStatus}
    (h : s.pRound2CurrentStatus = some status) : startRound2IfPossible env ω s = .ok s := by
  unfold startRound2IfPossible
  rw [canStartRound2_eq hleader]
  unfold canStartRound2Value
  rw [h]
  rfl

/-- Nothing waits, and a batch is missing. -/
theorem startRound2IfPossible_idle (h : canStartRound2Value env s = false) :
    startRound2IfPossible env ω s = .ok s := by
  unfold startRound2IfPossible
  rw [canStartRound2_eq hleader, h]
  rfl

/-- `leader_round2_sendPreprepare` after its checks. -/
theorem startRound2IfPossible_start (h : canStartRound2Value env s = true)
    (hnone : s.pRound2CurrentStatus = none) :
    startRound2IfPossible env ω s
      = issueNext env ω { s with pRound2CurrentStatus := some .waitingForPreprepare } := by
  unfold startRound2IfPossible
  rw [canStartRound2_eq hleader, h, if_pos rfl]
  unfold leaderRound2SendPreprepare
  rw [hleader, beq_self_eq_true, debugThrow_true, canStartRound2_eq hleader, h, debugThrow_true]
  split
  · next status hsome => exact absurd (hsome.symm.trans hnone) (Option.some_ne_none status)
  · rfl

/-- A Preprepare of the priority queue is issued. -/
theorem startRound2IfPossible_pending (hnone : s.pRound2CurrentStatus = none)
    (hqueue : s.pLeaderRound2PendingPreprepareRaw ≠ [])
    (hparticipants : ∀ p ∈ s.pLeaderRound2PendingPreprepareRaw, p.numOfRound3Participants = 0) :
    ∃ p, s.pLeaderRound2PendingPreprepareRaw[topIndex ω s.pLeaderRound2PendingPreprepareRaw]?
        = some p
      ∧ startRound2IfPossible env ω s = sendPreprepare env p
        { s with
          pRound2CurrentStatus := some .waitingForPreprepare
          pLeaderRound2PendingPreprepareRaw := s.pLeaderRound2PendingPreprepareRaw.eraseIdx
            (topIndex ω s.pLeaderRound2PendingPreprepareRaw) } := by
  have hlt := topIndex_lt ω hqueue
  have hget := List.getElem?_eq_getElem hlt
  refine ⟨_, hget, ?_⟩
  have hvalue : canStartRound2Value env s = true := by
    unfold canStartRound2Value
    rw [hnone]
    simp [hqueue]
  rw [startRound2IfPossible_start hleader hvalue hnone]
  unfold issueNext
  dsimp only
  rw [hget]
  dsimp only
  rw [hparticipants _ (List.getElem_mem hlt), beq_self_eq_true, debugThrow_true]

/-- A client Preprepare is issued. -/
theorem startRound2IfPossible_client (hnone : s.pRound2CurrentStatus = none)
    (hqueue : s.pLeaderRound2PendingPreprepareRaw = [])
    (hvalue : canStartRound2Value env s = true) :
    startRound2IfPossible env ω s
      = sendClientPreprepare env { s with pRound2CurrentStatus := some .waitingForPreprepare } := by
  rw [startRound2IfPossible_start hleader hvalue hnone]
  unfold issueNext
  dsimp only
  rw [hqueue]
  rfl

/-- Starting a round does nothing, or it issues a Preprepare. -/
theorem startRound2IfPossible_cases :
    startRound2IfPossible env ω s = .ok s
      ∨ s.pRound2CurrentStatus = none ∧ startRound2IfPossible env ω s
        = issueNext env ω { s with pRound2CurrentStatus := some .waitingForPreprepare } := by
  cases hvalue : canStartRound2Value env s with
  | false => exact Or.inl (startRound2IfPossible_idle hleader hvalue)
  | true =>
    cases hstatus : s.pRound2CurrentStatus with
    | none => exact Or.inr ⟨rfl, startRound2IfPossible_start hleader hvalue hstatus⟩
    | some status =>
      unfold canStartRound2Value at hvalue
      rw [hstatus] at hvalue
      exact absurd hvalue Bool.false_ne_true

end

end RCanopus
