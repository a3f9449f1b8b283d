import RCanopus.Round3Frame
import RCanopus.Hybrid.Round2

/-!
# What the code of the hybrid variant can do to an SL

The hybrid variant changes the state of an SL through the same updates as `ConnManager.cpp`. So a
predicate that these updates keep is kept here too, by the functions that differ and by the rest.
-/

namespace RCanopus.Hybrid

variable {P P' : ConnManager → Prop} {Q : Outcome → Prop} {env : Env} {ω : Choice}
  {s : ConnManager} {cycle : UInt16} {status : CycleStatus} {common : ConnManager → Outcome}
  {m : MessageRound2FullCommit} {p : MessageRound2Preprepare}

theorem envoyRound3SendFetchRequest_frame (hP : Round3Frame P) (hs : P s) :
    P (envoyRound3SendFetchRequest env ω cycle s).state := by
  unfold envoyRound3SendFetchRequest
  split
  · exact hs
  · split
    · exact hs
    · split
      · exact hP.round3Committed (hP.setStatus _ _ hs)
      · dsimp only
        split
        · exact hP.setStatus _ _ hs
        · refine hP.debugThrow (Q := fun o => P o.state) (hP.setStatus _ _ hs) (fun _ _ h => h) ?_
          exact fun s' hs' => hP.enqueue hs' rfl

theorem skipCycles_frame (hP : Round3Frame P) {n : Nat} (hs : P s) :
    P (skipCycles env ω m p status n cycle s).state := by
  induction n generalizing cycle s with
  | zero => exact hs
  | succ n ih =>
    unfold skipCycles
    refine hP.debugThrow (Q := fun o => P o.state) hs (fun _ _ h => h) fun s₁ hs₁ => ?_
    refine hP.debugThrow (Q := fun o => P o.state) hs₁ (fun _ _ h => h) fun s₂ hs₂ => ?_
    refine Round3Frame.andThen (Q := fun o => P o.state) ?_ (fun _ _ h => h) fun s₃ hs₃ => ?_
    · exact hP.round3RespondToPendingFetchRequests (hP.setStatus _ _ hs₂)
    · refine Round3Frame.andThen (Q := fun o => P o.state) ?_ (fun _ _ h => h)
        fun s₄ hs₄ => ih hs₄
      exact envoyRound3SendFetchRequest_frame hP hs₃

section Commit

variable (h : CommitFrame P P') (hs : P s)
  (hthrow : ∀ ex s, P s → Q (.thrown ex s)) (hreturn : ∀ s, P s → Q (.ok s))
  (hthrow' : ∀ ex s, P' s → Q (.thrown ex s)) (hcommon : ∀ s, P' s → Q (common s))

include h hs hthrow hreturn hthrow' hcommon

theorem fullCommitFromClient_frame : Q (fullCommitFromClient env ω m p status s common) := by
  unfold fullCommitFromClient
  refine Round3Frame.andThen (skipCycles_frame h.before hs) hthrow fun s₁ hs₁ => ?_
  dsimp only
  refine h.before.debugThrowElseReturnVoid hs₁ hthrow hreturn fun s₂ hs₂ => ?_
  refine h.before.debugThrow (h.running _ (h.store none hs₂)) hthrow fun s₃ hs₃ => ?_
  refine Round3Frame.andThen (P := P') ?_ hthrow' fun s₄ hs₄ => ?_
  · exact h.after.round3RespondToPendingFetchRequests (h.drop (h.before.setStatus _ _ hs₃))
  · exact Round3Frame.andThen (envoyRound3SendFetchRequest_frame h.after hs₄) hthrow' hcommon

theorem fullCommitLocalConnectivity_frame :
    Q (fullCommitLocalConnectivity env ω m p s common) := by
  unfold fullCommitLocalConnectivity
  split
  · exact hthrow _ _ hs
  · refine h.before.debugThrowElseReturnVoid hs hthrow hreturn fun s₁ hs₁ => ?_
    exact h.fullCommitLocalConnectivity hs₁ hthrow hreturn hthrow' hcommon

theorem fullCommitBranch_frame : Q (fullCommitBranch env ω m p status s common) := by
  unfold fullCommitBranch
  split
  · exact fullCommitFromClient_frame h hs hthrow hreturn hthrow' hcommon
  · split
    · exact h.fullCommitFetchedResult hs hthrow hreturn hthrow' hcommon
    · split
      · exact fullCommitLocalConnectivity_frame h hs hthrow hreturn hthrow' hcommon
      · split
        · exact h.fullCommitRemoteConnectivity hs hthrow hreturn hthrow' hcommon
        · split
          · exact h.fullCommitLocalMembership hs hthrow hreturn hthrow' hcommon
          · split
            · exact h.fullCommitFullMembership hs hthrow hthrow' hcommon
            · exact hthrow _ _ hs

end Commit

/-! ## The whole dispatcher -/

section Dispatch

variable {e : QueueElement} (h : DispatchFrame P P') (hs : P s)
  (hthrow : ∀ ex s, P s → Q (.thrown ex s)) (hreturn : ∀ s, P s → Q (.ok s))

include h hs hthrow hreturn

theorem storePreprepare_frame : Q (storePreprepare env p status s) := by
  unfold storePreprepare
  refine h.before.debugThrowElseReturnVoid hs hthrow hreturn fun s₁ hs₁ => ?_
  refine h.before.debugThrow hs₁ hthrow fun s₂ hs₂ => ?_
  exact h.acceptPreprepare hs₂ hthrow hreturn

theorem dispatcherRound2Preprepare_frame (he : e.pMessage.isRound2 = true) :
    Q (dispatcherRound2Preprepare env e p s) := by
  unfold dispatcherRound2Preprepare
  dsimp only
  have hset := h.running (s.pRound2CurrentStatus.getD .waitingForPreprepare) hs
  split
  · exact hreturn _ (h.delay hset he)
  · refine h.before.debugThrow hset hthrow fun s₁ hs₁ => ?_
    refine h.before.debugThrow hs₁ hthrow fun s₂ hs₂ => ?_
    split
    · exact hreturn _ (h.delay hs₂ he)
    · split
      · -- the gate
        split
        · exact h.before.debugThrowElseReturnVoid hs₂ hthrow hreturn hreturn
        · split
          · exact hreturn _ (h.delay hs₂ he)
          · exact storePreprepare_frame h hs₂ hthrow hreturn
      · exact storePreprepare_frame h hs₂ hthrow hreturn

theorem dispatcherRound2FullCommit_frame (hthrow' : ∀ ex s, P' s → Q (.thrown ex s))
    (hspawn : ∀ s, P' s → Q (spawnRound2 env ω s)) (he : e.pMessage.isRound2 = true) :
    Q (dispatcherRound2FullCommit env ω e m s) := by
  unfold dispatcherRound2FullCommit
  split
  · exact hreturn _ (h.delay hs he)
  · split
    · exact hreturn _ (h.delay hs he)
    · refine h.before.debugThrowElseReturnVoid hs hthrow hreturn fun s₁ hs₁ => ?_
      refine h.before.debugThrowElseReturnVoid hs₁ hthrow hreturn fun s₂ hs₂ => ?_
      refine h.before.debugThrowElseReturnVoid hs₂ hthrow hreturn fun s₃ hs₃ => ?_
      split
      · exact hthrow _ _ hs₃
      · exact fullCommitBranch_frame h.toCommitFrame (h.record (h.running _ hs₃) (by simp))
          hthrow hreturn hthrow' hspawn

variable (hstart : ∀ s, P s → Q (startRound2IfPossible env ω s))
  (hpush : ∀ s p, P s → p.requestType ≠ requestTypeFromClient →
    Q (startRound2IfPossible env ω (pushPreprepare p s)))

include hstart hpush

theorem dispatcherRound3FetchResponse_frame {r : MessageRound3FetchResponse} :
    Q (dispatcherRound3FetchResponse env ω r s) := by
  unfold dispatcherRound3FetchResponse spawnRound2
  dsimp only
  split
  · exact hthrow _ _ hs
  · refine h.before.debugThrow hs hthrow fun s₁ hs₁ => ?_
    have hset := fun status => h.before.setStatus r.cycle status hs₁
    split
    · split
      · exact hpush _ _ (hset _) (by simp [localConnectivityPreprepare,
          requestTypeLocalConnectivity, requestTypeFromClient])
      · exact hreturn _ (hset _)
    · split
      · exact hstart _ (hset _)
      · exact hreturn _ (hset _)

/-- A dispatch, but for the start of a round and for the batches of the clients. -/
theorem dispatcherRound2_frame (hthrow' : ∀ ex s, P' s → Q (.thrown ex s))
    (hspawn : ∀ s, P' s → Q (spawnRound2 env ω s))
    (hrequest : ∀ m, e.pMessage = .round2Request m →
      Q (dispatcherRound2Request env ω e m s)) : Q (dispatcherRound2 env ω e s) := by
  by_cases hsame : e.pMessage.msgType ≠ .round2Preprepare ∧ e.pMessage.msgType ≠ .round2FullCommit
    ∧ e.pMessage.msgType ≠ .round3FetchResponse
  · rw [dispatcherRound2_main hsame.1 hsame.2.1 hsame.2.2]
    exact h.dispatcherRound2 hs hthrow hreturn hthrow' hspawn hstart hpush hrequest
  · unfold dispatcherRound2
    split
    · exact hthrow _ _ hs
    · cases hm : e.pMessage with
      | round2Preprepare p =>
        exact dispatcherRound2Preprepare_frame h hs hthrow hreturn (by rw [hm]; rfl)
      | round2FullCommit m =>
        exact dispatcherRound2FullCommit_frame h hs hthrow hreturn hthrow' hspawn
          (by rw [hm]; rfl)
      | round3FetchResponse r =>
        exact dispatcherRound3FetchResponse_frame h hs hthrow hreturn hstart hpush
      | _ =>
        rw [hm] at hsame
        exact absurd ⟨by simp [Message.msgType], by simp [Message.msgType],
          by simp [Message.msgType]⟩ hsame

end Dispatch

end RCanopus.Hybrid
