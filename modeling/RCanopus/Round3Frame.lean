import RCanopus.Round2View

/-!
# What the code of round 3 can do to an SL

The functions of round 3 change the state of an SL through a few updates only: they note what is no
step of round 2, send and juggle messages of round 3, and write to the maps of round 3.
A predicate that these updates keep is kept by all of them, however they end.
-/

namespace RCanopus

/-- The messages that round 3 works with. -/
def Message.isRound3 : Message → Bool
  | .round3FetchRequest _ => true
  | .round3FetchResponse _ => true
  | .round3GeneralFetch _ => true
  | .round3ConnectivityResponse _ => true
  | .round3MembershipResponse _ => true
  | _ => false

theorem ownResponse_round3 {conf : Config} {kind : FetchKind} {status : CycleStatus}
    {m : Message} (h : ownResponse conf kind status = some m) : m.copy.isRound3 = true := by
  cases kind <;> obtain ⟨r, -, rfl⟩ := Option.map_eq_some_iff.mp h <;> rfl

/-- A predicate that the updates of round 3 keep. -/
structure Round3Frame (P : ConnManager → Prop) : Prop where
  notes : ∀ {s events}, P s → (∀ ev ∈ events, ev.isRound2 = false) →
    P { s with history := s.history ++ events }
  enqueue : ∀ {s e}, P s → e.pMessage.isRound3 = true → P (s.enqueue e)
  juggle : ∀ {s e}, P s → e.pMessage.isRound3 = true → P (s.juggle e)
  setStatus : ∀ {s} cycle status, P s → P (s.setStatus cycle status)
  setPending : ∀ {s} kind cycle requests, P s → P (s.setPending kind cycle requests)
  erase : ∀ {s} cycle, P s →
    P { s with
      mapRound3Status := Function.update s.mapRound3Status cycle none
      pStorage := s.pStorage ++ [cycle] }

/-- Nothing has to be kept. -/
theorem round3Frame_true : Round3Frame fun _ => True where
  notes _ _ := trivial
  enqueue _ _ := trivial
  juggle _ _ := trivial
  setStatus _ _ _ := trivial
  setPending _ _ _ _ := trivial
  erase _ _ := trivial

namespace Round3Frame

variable {P : ConnManager → Prop} {Q : Outcome → Prop} {env : Env} {ω : Choice}
  {s : ConnManager} {cycle : UInt16} {status : CycleStatus} {e : QueueElement}
  (hP : Round3Frame P)

include hP

theorem note {ev : Event} (hs : P s) (hev : ev.isRound2 = false) : P (s.note ev) :=
  hP.notes hs fun ev' h => by
    rw [List.mem_singleton.mp h]
    exact hev

theorem guardFailed (hs : P s) : P (s.note .guardFailed) := hP.note hs rfl

theorem answerRequests {kind : FetchKind} {m : Message} {requests : List (UInt16 × UInt16)}
    (hs : P s) (hm : m.isRound3 = true) : P (answerRequests kind cycle m requests s) := by
  unfold RCanopus.answerRequests
  refine hP.notes (hP.enqueue hs hm) fun ev hev => ?_
  obtain ⟨r, -, rfl⟩ := List.mem_map.mp hev
  rfl

theorem pushPending {kind : FetchKind} (request : UInt16 × UInt16) (hs : P s) :
    P (pushPending kind cycle request s) := hP.setPending _ _ _ hs

/-! ## Checks -/

theorem debugThrow {flag : Bool} {k : ConnManager → Outcome} (hs : P s)
    (hthrow : ∀ ex s, P s → Q (.thrown ex s)) (hk : ∀ s, P s → Q (k s)) :
    Q (debugThrow env flag s k) := by
  unfold RCanopus.debugThrow
  split
  · exact hk s hs
  · split
    · exact hthrow _ _ (hP.guardFailed hs)
    · exact hk _ (hP.guardFailed hs)

theorem debugThrowElseReturnVoid {flag : Bool} {k : ConnManager → Outcome} (hs : P s)
    (hthrow : ∀ ex s, P s → Q (.thrown ex s)) (hreturn : ∀ s, P s → Q (.ok s))
    (hk : ∀ s, P s → Q (k s)) : Q (debugThrowElseReturnVoid env flag s k) := by
  unfold RCanopus.debugThrowElseReturnVoid
  split
  · exact hk s hs
  · split
    · exact hthrow _ _ (hP.guardFailed hs)
    · exact hreturn _ (hP.guardFailed hs)

omit hP in
/-- What follows a call that keeps `P`. -/
theorem andThen {o : Outcome} {k : ConnManager → Outcome} (ho : P o.state)
    (hthrow : ∀ ex s, P s → Q (.thrown ex s)) (hk : ∀ s, P s → Q (k s)) : Q (o.andThen k) := by
  cases o with
  | ok s => exact hk s ho
  | thrown ex s => exact hthrow ex s ho

/-! ## The functions of round 3 -/

theorem round3Committed (hs : P s) : P (round3Committed cycle s).state := by
  unfold RCanopus.round3Committed
  split
  · exact hs
  · split
    · exact hs
    · exact hP.note (hP.erase cycle hs) rfl

omit hP in
theorem ifPrimaryEnvoy {send : ConnManager → Outcome} (hs : P s) (hsend : P (send s).state) :
    P (ifPrimaryEnvoy env cycle s send).state := by
  unfold RCanopus.ifPrimaryEnvoy isPrimaryEnvoyRound3
  split
  · exact hs
  · split
    · exact hs
    · dsimp only
      split
      · exact hs
      · split
        · exact hsend
        · unfold isBackupEnvoyRound3
          split
          · exact hs
          · split
            · exact hs
            · dsimp only
              split
              · exact hs
              · exact hs

theorem envoyRound3SendFetchRequest (hs : P s) :
    P (envoyRound3SendFetchRequest env ω cycle s).state := by
  unfold RCanopus.envoyRound3SendFetchRequest
  split
  · exact hs
  · split
    · exact hs
    · split
      · exact hP.round3Committed (hP.setStatus _ _ hs)
      · dsimp only
        have hset := fun status => hP.setStatus cycle status hs
        refine ifPrimaryEnvoy (hset _) ?_
        split
        · exact hset _
        · refine hP.debugThrow (Q := fun o => P o.state) (hset _) (fun _ _ h => h) ?_
          exact fun s' hs' => hP.enqueue hs' rfl

theorem envoyRound3SendGeneralFetch {demanded : MessageType} (hs : P s) :
    P (envoyRound3SendGeneralFetch demanded env ω cycle s).state := by
  unfold RCanopus.envoyRound3SendGeneralFetch
  split
  · exact hs
  · refine hP.debugThrow (Q := fun o => P o.state) hs (fun _ _ h => h) fun s' hs' => ?_
    exact ifPrimaryEnvoy hs' (hP.enqueue hs' rfl)

theorem respondToPending {kind : FetchKind} (hs : P s) :
    P (respondToPending kind env cycle status s).state := by
  unfold RCanopus.respondToPending
  split
  · exact hs
  · split
    · exact hs
    · next response hresponse =>
      exact hP.setPending _ _ _ (hP.answerRequests hs (ownResponse_round3 hresponse))

theorem round3RespondToPendingFetchRequests (hs : P s) :
    P (round3RespondToPendingFetchRequests env cycle s).state := by
  unfold RCanopus.round3RespondToPendingFetchRequests
  split
  · exact hs
  · split
    · exact hs
    · exact hP.respondToPending hs

theorem round3RespondToPendingFetchConnectivityRequests (hs : P s) :
    P (round3RespondToPendingFetchConnectivityRequests env cycle s).state := by
  unfold RCanopus.round3RespondToPendingFetchConnectivityRequests
  split
  · exact hs
  · exact hP.respondToPending hs

theorem round3RespondToPendingFetchMembershipRequests (hs : P s) :
    P (round3RespondToPendingFetchMembershipRequests env cycle s).state := by
  unfold RCanopus.round3RespondToPendingFetchMembershipRequests
  split
  · exact hs
  · exact hP.respondToPending hs

theorem skipCycles {pFullC : MessageRound2FullCommit} {pPreprepare : MessageRound2Preprepare}
    {n : Nat} (hs : P s) : P (skipCycles env ω pFullC pPreprepare status n cycle s).state := by
  induction n generalizing cycle s with
  | zero => exact hs
  | succ n ih =>
    unfold RCanopus.skipCycles
    refine hP.debugThrow (Q := fun o => P o.state) hs (fun _ _ h => h) fun s₁ hs₁ => ?_
    refine hP.debugThrow (Q := fun o => P o.state) hs₁ (fun _ _ h => h) fun s₂ hs₂ => ?_
    refine andThen (Q := fun o => P o.state) ?_ (fun _ _ h => h) fun s₃ hs₃ => ?_
    · exact hP.round3RespondToPendingFetchRequests (hP.setStatus _ _ hs₂)
    · refine andThen (Q := fun o => P o.state) ?_ (fun _ _ h => h) fun s₄ hs₄ => ih hs₄
      exact hP.envoyRound3SendFetchRequest hs₃

/-! ## Requests -/

theorem dispatcherRound3FetchRequest {m : MessageRound3FetchRequest} (hs : P s) :
    P (dispatcherRound3FetchRequest env m s).state := by
  unfold RCanopus.dispatcherRound3FetchRequest
  dsimp only
  split
  · split
    · exact hP.debugThrowElseReturnVoid (Q := fun o => P o.state) hs (fun _ _ h => h)
        (fun _ h => h) fun _ h => h
    · exact hP.pushPending _ hs
  · split
    · exact hs
    · next response hresponse => exact hP.answerRequests hs (ownResponse_round3 hresponse)

theorem answerOrPush {kind : FetchKind} {m : MessageRound3GeneralFetch} (hs : P s) :
    P (answerOrPush kind env m status s) := by
  unfold RCanopus.answerOrPush
  split
  · exact hP.pushPending _ hs
  · next response hresponse => exact hP.answerRequests hs (ownResponse_round3 hresponse)

theorem dispatcherRound3GeneralFetchRequest {m : MessageRound3GeneralFetch}
    (he : e.pMessage.isRound3 = true) (hs : P s) :
    P (dispatcherRound3GeneralFetchRequest env e m s).state := by
  unfold RCanopus.dispatcherRound3GeneralFetchRequest
  split
  · unfold dispatcherRound3FetchConnectivityRequest
    split
    · exact hP.juggle hs he
    · exact hP.answerOrPush hs
  · split
    · unfold dispatcherRound3FetchMembershipRequest
      dsimp only
      split
      · refine hP.debugThrow (Q := fun o => P o.state) hs (fun _ _ h => h) fun s' hs' => ?_
        exact hP.answerRequests hs' rfl
      · exact hP.answerOrPush hs
    · exact hs

/-! ## Responses -/

section Responses

variable (he : e.pMessage.isRound3 = true) (hs : P s)
  (hthrow : ∀ ex s, P s → Q (.thrown ex s)) (hreturn : ∀ s, P s → Q (.ok s))
  (hpush : ∀ s p, P s → p.requestType ≠ requestTypeFromClient →
    Q (startRound2IfPossible env ω (pushPreprepare p s)))

include he hs hreturn

theorem forwardToLeader : Q (forwardToLeader env e s) := hreturn _ (hP.enqueue hs he)

include hpush

theorem dispatcherRound3FetchResponse {m : MessageRound3FetchResponse} :
    Q (dispatcherRound3FetchResponse env ω e m s) := by
  unfold RCanopus.dispatcherRound3FetchResponse
  split
  · exact hP.forwardToLeader he hs hreturn
  · exact hpush _ _ hs (by simp [fetchedResultPreprepare, requestTypeFetchedResult,
      requestTypeFromClient])

include hthrow

theorem dispatcherRound3FetchMembershipResponse {m : MessageRound3FullMembership} :
    Q (dispatcherRound3FetchMembershipResponse env ω e m s) := by
  unfold RCanopus.dispatcherRound3FetchMembershipResponse
  split
  · exact hP.forwardToLeader he hs hreturn
  · dsimp only
    split
    · exact hthrow _ _ hs
    · split
      · exact hreturn _ (hP.juggle hs he)
      · refine hP.debugThrowElseReturnVoid hs hthrow hreturn fun s₁ hs₁ => ?_
        refine hP.debugThrow hs₁ hthrow fun s₂ hs₂ => ?_
        split
        · exact hpush _ _ (hP.setStatus _ _ hs₂) (by simp [fullMembershipPreprepare,
            requestTypeFullMembership, requestTypeFromClient])
        · exact hreturn _ (hP.setStatus _ _ hs₂)

theorem dispatcherRound3FetchConnectivityResponse {m : MessageRound3FetchResponse}
    (hstart : ∀ s, P s → Q (startRound2IfPossible env ω s)) :
    Q (dispatcherRound3FetchConnectivityResponse env ω e m s) := by
  unfold RCanopus.dispatcherRound3FetchConnectivityResponse
  split
  · exact hP.forwardToLeader he hs hreturn
  · split
    · exact hthrow _ _ hs
    · split
      · exact hreturn _ (hP.juggle hs he)
      · dsimp only
        split
        · exact hpush _ _ (hP.setStatus _ _ hs) (by simp [localMembershipPreprepare,
            requestTypeLocalMembership, requestTypeFromClient])
        · exact hstart _ (hP.setStatus _ _ hs)

end Responses

end Round3Frame

/-! ## Commits -/

/-- `P` is kept until a commit clears the round, and from there on `P'` is. -/
structure CommitFrame (P P' : ConnManager → Prop) : Prop where
  before : Round3Frame P
  after : Round3Frame P'
  running : ∀ {s} status, P s → P { s with pRound2CurrentStatus := some status }
  store : ∀ {s} stored, P s → P { s with pTemporaryStorageOfPreprepare := stored }
  drop : ∀ {s}, P s → P' { s with pRound2CurrentStatus := none }
  clear : ∀ {s}, P s → P' (clearRound2 s)
  push : ∀ {s p}, P' s → p.requestType ≠ requestTypeFromClient → P' (pushPreprepare p s)

namespace CommitFrame

variable {P P' : ConnManager → Prop} {Q : Outcome → Prop} {env : Env} {ω : Choice}
  {s : ConnManager} {common : ConnManager → Outcome} {status : CycleStatus}
  {pFullC : MessageRound2FullCommit} {pPreprepare : MessageRound2Preprepare}
  (h : CommitFrame P P') (hs : P s)
  (hthrow : ∀ ex s, P s → Q (.thrown ex s)) (hreturn : ∀ s, P s → Q (.ok s))
  (hthrow' : ∀ ex s, P' s → Q (.thrown ex s)) (hcommon : ∀ s, P' s → Q (common s))

include h hs hthrow hthrow' hcommon

theorem fullCommitFullMembership : Q (fullCommitFullMembership env pPreprepare s common) := by
  unfold RCanopus.fullCommitFullMembership
  dsimp only
  split
  · exact hthrow _ _ hs
  · refine h.before.debugThrow (h.before.setStatus _ _ hs) hthrow fun s₁ hs₁ => ?_
    refine h.before.debugThrow hs₁ hthrow fun s₂ hs₂ => ?_
    exact Round3Frame.andThen (h.after.round3Committed (h.clear hs₂)) hthrow' hcommon

include hreturn

theorem fullCommitFromClient :
    Q (fullCommitFromClient env ω pFullC pPreprepare status s common) := by
  unfold RCanopus.fullCommitFromClient
  refine Round3Frame.andThen (h.before.skipCycles hs) hthrow fun s₁ hs₁ => ?_
  dsimp only
  refine h.before.debugThrowElseReturnVoid hs₁ hthrow hreturn fun s₂ hs₂ => ?_
  refine h.before.debugThrow (h.running _ (h.store none hs₂)) hthrow fun s₃ hs₃ => ?_
  refine Round3Frame.andThen (P := P') ?_ hthrow' fun s₄ hs₄ => ?_
  · exact h.after.round3RespondToPendingFetchRequests (h.drop (h.before.setStatus _ _ hs₃))
  · exact Round3Frame.andThen (h.after.envoyRound3SendFetchRequest hs₄) hthrow' hcommon

theorem fullCommitFetchedResult : Q (fullCommitFetchedResult env pPreprepare s common) := by
  unfold RCanopus.fullCommitFetchedResult
  dsimp only
  split
  · exact hthrow _ _ hs
  · refine h.before.debugThrowElseReturnVoid hs hthrow hreturn fun s₁ hs₁ => ?_
    refine h.after.debugThrow (h.clear (h.before.setStatus _ _ hs₁)) hthrow' fun s₂ hs₂ => ?_
    have hset := fun status => h.after.setStatus pPreprepare.cycle status hs₂
    split
    · refine hcommon _ ?_
      split
      · exact h.push (hset _) (by simp [localConnectivityPreprepare,
          requestTypeLocalConnectivity, requestTypeFromClient])
      · exact hset _
    · exact hcommon _ (hset _)

theorem fullCommitLocalConnectivity :
    Q (fullCommitLocalConnectivity env ω pFullC pPreprepare s common) := by
  unfold RCanopus.fullCommitLocalConnectivity
  dsimp only
  split
  · exact hthrow _ _ hs
  · refine h.before.debugThrowElseReturnVoid hs hthrow hreturn fun s₁ hs₁ => ?_
    refine Round3Frame.andThen (P := P') ?_ hthrow' fun s₂ hs₂ => ?_
    · exact h.after.round3RespondToPendingFetchConnectivityRequests
        (h.clear (h.before.setStatus _ _ hs₁))
    · exact Round3Frame.andThen (h.after.envoyRound3SendGeneralFetch hs₂) hthrow' hcommon

theorem fullCommitRemoteConnectivity :
    Q (fullCommitRemoteConnectivity env pPreprepare s common) := by
  unfold RCanopus.fullCommitRemoteConnectivity
  refine h.before.debugThrow hs hthrow fun s₁ hs₁ => ?_
  dsimp only
  split
  · exact hthrow _ _ hs₁
  · refine h.before.debugThrowElseReturnVoid hs₁ hthrow hreturn fun s₂ hs₂ => ?_
    refine h.after.debugThrow (h.clear (h.before.setStatus _ _ hs₂)) hthrow' fun s₃ hs₃ => ?_
    refine h.after.debugThrow hs₃ hthrow' fun s₄ hs₄ => ?_
    exact hcommon _ (h.after.setStatus _ _ hs₄)

theorem fullCommitLocalMembership :
    Q (fullCommitLocalMembership env ω pPreprepare s common) := by
  unfold RCanopus.fullCommitLocalMembership
  dsimp only
  split
  · exact hthrow _ _ hs
  · refine h.before.debugThrowElseReturnVoid hs hthrow hreturn fun s₁ hs₁ => ?_
    refine Round3Frame.andThen (P := P') ?_ hthrow' fun s₂ hs₂ => ?_
    · exact h.after.round3RespondToPendingFetchMembershipRequests
        (h.clear (h.before.setStatus _ _ hs₁))
    · exact Round3Frame.andThen (h.after.envoyRound3SendGeneralFetch hs₂) hthrow' hcommon

theorem fullCommitBranch :
    Q (fullCommitBranch env ω pFullC pPreprepare status s common) := by
  unfold RCanopus.fullCommitBranch
  split
  · exact h.fullCommitFromClient hs hthrow hreturn hthrow' hcommon
  · split
    · exact h.fullCommitFetchedResult hs hthrow hreturn hthrow' hcommon
    · split
      · exact h.fullCommitLocalConnectivity hs hthrow hreturn hthrow' hcommon
      · split
        · exact h.fullCommitRemoteConnectivity hs hthrow hreturn hthrow' hcommon
        · split
          · exact h.fullCommitLocalMembership hs hthrow hreturn hthrow' hcommon
          · split
            · exact h.fullCommitFullMembership hs hthrow hthrow' hcommon
            · exact hthrow _ _ hs

end CommitFrame

/-! ## The whole dispatcher -/

/--
The updates of round 2 as well: `P` is kept until a commit clears the round, and by all that
accepts a Preprepare or counts a partial commit. Only the start of a round is left open.
-/
structure DispatchFrame (P P' : ConnManager → Prop) : Prop extends CommitFrame P P' where
  accept : ∀ {s} nextSeq isCollector status, P s →
    P { s with
      round2NextSeq := nextSeq
      round2IsCollector := isCollector
      pRound2CurrentStatus := some status }
  record : ∀ {s ev}, P s → (∀ p, ev ≠ .issued p) → P (s.note ev)
  send : ∀ {s e}, P s → e.pMessage.isRound2 = true → P (s.enqueue e)
  delay : ∀ {s e}, P s → e.pMessage.isRound2 = true → P (s.juggle e)

namespace DispatchFrame

variable {P P' : ConnManager → Prop} {Q : Outcome → Prop} {env : Env} {ω : Choice}
  {s : ConnManager} {e : QueueElement} {status : CycleStatus} (h : DispatchFrame P P') (hs : P s)
  (hthrow : ∀ ex s, P s → Q (.thrown ex s)) (hreturn : ∀ s, P s → Q (.ok s))

include h hs hthrow hreturn

theorem acceptPreprepare {m : MessageRound2Preprepare} :
    Q (acceptPreprepare env m status s) := by
  unfold RCanopus.acceptPreprepare
  dsimp only
  refine h.before.debugThrow ?_ hthrow fun s₁ hs₁ => ?_
  · exact h.send (h.accept _ _ _ hs) rfl
  · exact hreturn _ (h.record (h.store _ hs₁) (by simp))

theorem dispatcherRound2Preprepare {m : MessageRound2Preprepare}
    (he : e.pMessage.isRound2 = true) : Q (dispatcherRound2Preprepare env e m s) := by
  unfold RCanopus.dispatcherRound2Preprepare
  dsimp only
  have hset := h.running (s.pRound2CurrentStatus.getD .waitingForPreprepare) hs
  split
  · exact hreturn _ (h.delay hset he)
  · refine h.before.debugThrow hset hthrow fun s₁ hs₁ => ?_
    refine h.before.debugThrow hs₁ hthrow fun s₂ hs₂ => ?_
    split
    · exact hreturn _ (h.delay hs₂ he)
    · refine h.before.debugThrowElseReturnVoid hs₂ hthrow hreturn fun s₃ hs₃ => ?_
      refine h.before.debugThrow hs₃ hthrow fun s₄ hs₄ => ?_
      exact h.acceptPreprepare hs₄ hthrow hreturn

omit hthrow in
theorem countPartialCommit {m : MessageRound2PartialCommit} :
    Q (countPartialCommit env e m status s) := by
  unfold RCanopus.countPartialCommit
  dsimp only
  have hnote : P (s.note (.counted (e.upPeers.head?.getD none) m status.round2View
      status.round2Sequence)) := h.record hs (by simp)
  split
  · exact hreturn _ (h.record (h.send (h.running _ hnote) rfl) (by simp))
  · exact hreturn _ (h.running _ hnote)

theorem dispatcherRound2PartialCommit {m : MessageRound2PartialCommit}
    (he : e.pMessage.isRound2 = true) : Q (dispatcherRound2PartialCommit env e m s) := by
  unfold RCanopus.dispatcherRound2PartialCommit
  split
  · exact hreturn _ (h.delay hs he)
  · split
    · exact hreturn _ (h.delay hs he)
    · split
      · exact hreturn _ (h.delay hs he)
      · refine h.before.debugThrowElseReturnVoid hs hthrow hreturn fun s₁ hs₁ => ?_
        refine h.before.debugThrowElseReturnVoid hs₁ hthrow hreturn fun s₂ hs₂ => ?_
        refine h.before.debugThrowElseReturnVoid hs₂ hthrow hreturn fun s₃ hs₃ => ?_
        refine h.before.debugThrowElseReturnVoid hs₃ hthrow hreturn fun s₄ hs₄ => ?_
        split
        · exact hthrow _ _ hs₄
        · split
          · exact hthrow _ _ hs₄
          · refine h.before.debugThrowElseReturnVoid hs₄ hthrow hreturn fun s₅ hs₅ => ?_
            exact h.countPartialCommit hs₅ hreturn

variable (hthrow' : ∀ ex s, P' s → Q (.thrown ex s))
  (hspawn : ∀ s, P' s → Q (spawnRound2 env ω s))

include hthrow' hspawn

theorem dispatcherRound2FullCommit {m : MessageRound2FullCommit}
    (he : e.pMessage.isRound2 = true) : Q (dispatcherRound2FullCommit env ω e m s) := by
  unfold RCanopus.dispatcherRound2FullCommit
  split
  · exact hreturn _ (h.delay hs he)
  · split
    · exact hreturn _ (h.delay hs he)
    · refine h.before.debugThrowElseReturnVoid hs hthrow hreturn fun s₁ hs₁ => ?_
      refine h.before.debugThrowElseReturnVoid hs₁ hthrow hreturn fun s₂ hs₂ => ?_
      refine h.before.debugThrowElseReturnVoid hs₂ hthrow hreturn fun s₃ hs₃ => ?_
      split
      · exact hthrow _ _ hs₃
      · exact h.fullCommitBranch (h.record (h.running _ hs₃) (by simp)) hthrow hreturn
          hthrow' hspawn

/-- A dispatch, but for the start of a round and for the batches of the clients. -/
theorem dispatcherRound2
    (hstart : ∀ s, P s → Q (startRound2IfPossible env ω s))
    (hpush : ∀ s p, P s → p.requestType ≠ requestTypeFromClient →
      Q (startRound2IfPossible env ω (pushPreprepare p s)))
    (hrequest : ∀ m, e.pMessage = .round2Request m →
      Q (dispatcherRound2Request env ω e m s)) : Q (dispatcherRound2 env ω e s) := by
  unfold RCanopus.dispatcherRound2
  split
  · exact hthrow _ _ hs
  · split
    · exact h.before.debugThrow hs hthrow hstart
    · next m hm => exact hrequest m hm
    · next m hm => exact h.dispatcherRound2Preprepare hs hthrow hreturn (by rw [hm]; rfl)
    · next m hm => exact h.dispatcherRound2PartialCommit hs hthrow hreturn (by rw [hm]; rfl)
    · next m hm =>
      exact h.dispatcherRound2FullCommit hs hthrow hreturn hthrow' hspawn (by rw [hm]; rfl)
    · next m hm =>
      have hkept : P (RCanopus.dispatcherRound3FetchRequest env m s).state :=
        h.before.dispatcherRound3FetchRequest hs
      revert hkept
      cases RCanopus.dispatcherRound3FetchRequest env m s with
      | ok s' => exact hreturn s'
      | thrown ex s' => exact hthrow ex s'
    · next m hm =>
      exact h.before.dispatcherRound3FetchResponse (by rw [hm]; rfl) hs hreturn hpush
    · next m hm =>
      have hkept : P (RCanopus.dispatcherRound3GeneralFetchRequest env e m s).state :=
        h.before.dispatcherRound3GeneralFetchRequest (by rw [hm]; rfl) hs
      revert hkept
      cases RCanopus.dispatcherRound3GeneralFetchRequest env e m s with
      | ok s' => exact hreturn s'
      | thrown ex s' => exact hthrow ex s'
    · next m hm =>
      exact h.before.dispatcherRound3FetchConnectivityResponse (by rw [hm]; rfl) hs hthrow
        hreturn hpush hstart
    · next m hm =>
      exact h.before.dispatcherRound3FetchMembershipResponse (by rw [hm]; rfl) hs hthrow
        hreturn hpush
    · exact hthrow _ _ hs

end DispatchFrame

end RCanopus
