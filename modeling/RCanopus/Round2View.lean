import RCanopus.Round2

/-!
# What round 3 leaves alone

`round2View` is the part of the state that round 2 works on, with what round 2 has done, sent and
juggled so far. The code of round 3 keeps it, however it ends, and so does a commit apart from the
step it makes in round 2 and the new round that the leader may start at the end.
-/

namespace RCanopus

/-! ## The view -/

/-- The messages that round 2 works with. The batches of the clients are not part of it. -/
def MessageType.isRound2 : MessageType → Bool
  | .round2Preprepare => true
  | .round2PartialCommit => true
  | .round2FullCommit => true
  | .empty => true
  | _ => false

def Message.isRound2 (m : Message) : Bool := m.msgType.isRound2

def Event.isRound2 : Event → Bool
  | .issued _ => true
  | .accepted _ => true
  | .counted _ _ _ _ => true
  | .sentFullCommit _ _ => true
  | .committed _ => true
  | _ => false

/-- What round 2 has done so far, and what it sent and juggled. -/
structure Round2Trace where
  events : List Event
  sends : List QueueElement
  juggled : List QueueElement

structure Round2View where
  nextView : UInt16
  nextSeq : UInt16
  status : Option CycleStatus
  stored : Option MessageRound2Preprepare
  collectorRr : UInt16
  isCollector : Bool
  trace : Round2Trace

namespace ConnManager

def round2View (s : ConnManager) : Round2View where
  nextView := s.round2NextView
  nextSeq := s.round2NextSeq
  status := s.pRound2CurrentStatus
  stored := s.pTemporaryStorageOfPreprepare
  collectorRr := s.leaderCollectorRr
  isCollector := s.round2IsCollector
  trace :=
    { events := s.history.filter Event.isRound2
      sends := s.sendQueue.filter fun e => e.pMessage.isRound2
      juggled := s.juggleQueue.filter fun e => e.pMessage.isRound2 }

/--
The view of `s` is `v`, and every Preprepare that waits at the leader has the version that the
dispatcher accepts.
-/
def At (s : ConnManager) (v : Round2View) : Prop :=
  s.round2View = v
    ∧ ∀ p ∈ s.pLeaderRound2PendingPreprepareRaw, p.header.version = versionLatest

variable {s : ConnManager} {v : Round2View}

theorem At.trace (h : s.At v) : s.round2View.trace = v.trace := congrArg Round2View.trace h.1

theorem At.note (h : s.At v) {ev : Event} (hev : ev.isRound2 = false) : (s.note ev).At v := by
  refine ⟨?_, h.2⟩
  rw [← h.1]
  unfold round2View ConnManager.note
  rw [List.filter_append, List.filter_singleton, hev]
  simp

theorem At.enqueue (h : s.At v) {e : QueueElement} (he : e.pMessage.isRound2 = false) :
    (s.enqueue e).At v := by
  refine ⟨?_, h.2⟩
  rw [← h.1]
  unfold round2View ConnManager.enqueue
  rw [List.filter_append, List.filter_singleton, he]
  simp

theorem At.juggle (h : s.At v) {e : QueueElement} (he : e.pMessage.isRound2 = false) :
    (s.juggle e).At v := by
  refine ⟨?_, h.2⟩
  rw [← h.1]
  unfold round2View ConnManager.juggle
  rw [List.filter_append, List.filter_singleton, he]
  simp

theorem At.guardFailed (h : s.At v) : (s.note .guardFailed).At v := h.note rfl

theorem At.pushPreprepare (h : s.At v) {p : MessageRound2Preprepare}
    (hp : p.header.version = versionLatest) : (pushPreprepare p s).At v := by
  refine ⟨h.1, fun q hq => ?_⟩
  rcases List.mem_append.mp hq with hq | hq
  · exact h.2 q hq
  · rw [List.mem_singleton] at hq
    rw [hq, hp]

theorem At.answerRequests (h : s.At v) {m : Message} (hm : m.isRound2 = false) (kind : FetchKind)
    (cycle : UInt16) (requests : List (UInt16 × UInt16)) :
    (answerRequests kind cycle m requests s).At v := by
  have hev : (requests.map fun r => Event.answered kind cycle r m).filter Event.isRound2 = [] := by
    rw [List.filter_eq_nil_iff]
    intro ev hev
    obtain ⟨r, -, rfl⟩ := List.mem_map.mp hev
    simp [Event.isRound2]
  refine ⟨?_, h.2⟩
  rw [← h.1]
  unfold RCanopus.answerRequests round2View ConnManager.enqueue
  simp only [List.filter_append, List.filter_singleton, hm, hev, List.append_nil]
  simp

end ConnManager

/-- An answer is never a message of round 2. -/
theorem ownResponse_not_round2 {conf : Config} {kind : FetchKind} {status : CycleStatus}
    {m : Message} (h : ownResponse conf kind status = some m) : m.copy.isRound2 = false := by
  cases kind with
  | result =>
    obtain ⟨r, -, rfl⟩ := Option.map_eq_some_iff.mp h
    rfl
  | connectivity =>
    obtain ⟨r, -, rfl⟩ := Option.map_eq_some_iff.mp h
    rfl
  | membership =>
    obtain ⟨r, -, rfl⟩ := Option.map_eq_some_iff.mp h
    rfl

/-! ## Outcomes -/

namespace Outcome

/-- The view is kept. After an exception only the trace matters. -/
def Keeps (v : Round2View) : Outcome → Prop
  | .ok s => s.At v
  | .thrown _ s => s.round2View.trace = v.trace

variable {v : Round2View} {Q : Outcome → Prop}

theorem Keeps.trace {o : Outcome} (h : o.Keeps v) : o.state.round2View.trace = v.trace := by
  cases o with
  | ok s => exact ConnManager.At.trace h
  | thrown ex s => exact h

theorem Keeps.andThen {o : Outcome} {k : ConnManager → Outcome} (ho : o.Keeps v)
    (hthrow : ∀ ex s, s.round2View.trace = v.trace → Q (.thrown ex s))
    (hk : ∀ s, s.At v → Q (k s)) : Q (o.andThen k) := by
  cases o with
  | ok s => exact hk s ho
  | thrown ex s => exact hthrow ex s ho

theorem Keeps.andThen_keeps {o : Outcome} {k : ConnManager → Outcome} (ho : o.Keeps v)
    (hk : ∀ s, s.At v → (k s).Keeps v) : (o.andThen k).Keeps v :=
  ho.andThen (fun _ _ h => h) hk

end Outcome

section Quiet

variable {env : Env} {ω : Choice} {v : Round2View} {s : ConnManager} {Q : Outcome → Prop}

theorem debugThrow_view {flag : Bool} {k : ConnManager → Outcome} (hs : s.At v)
    (hthrow : ∀ ex s, s.round2View.trace = v.trace → Q (.thrown ex s))
    (hk : ∀ s, s.At v → Q (k s)) : Q (debugThrow env flag s k) := by
  have hg := hs.guardFailed
  unfold debugThrow
  split
  · exact hk s hs
  · split
    · exact hthrow _ _ hg.trace
    · exact hk _ hg

theorem debugThrowElseReturnVoid_view {flag : Bool} {k : ConnManager → Outcome}
    (hs : s.At v)
    (hthrow : ∀ ex s, s.round2View.trace = v.trace → Q (.thrown ex s))
    (hreturn : ∀ s, s.At v → Q (.ok s))
    (hk : ∀ s, s.At v → Q (k s)) : Q (debugThrowElseReturnVoid env flag s k) := by
  have hg := hs.guardFailed
  unfold debugThrowElseReturnVoid
  split
  · exact hk s hs
  · split
    · exact hthrow _ _ hg.trace
    · exact hreturn _ hg

/-! ## Round 3 -/

theorem ifPrimaryEnvoy_keeps {cycle : UInt16} {send : ConnManager → Outcome}
    (hs : s.At v) (hsend : (send s).Keeps v) :
    (ifPrimaryEnvoy env cycle s send).Keeps v := by
  have htrace := hs.trace
  unfold ifPrimaryEnvoy isPrimaryEnvoyRound3
  split
  · exact htrace
  · split
    · exact htrace
    · dsimp only
      split
      · exact htrace
      · split
        · exact hsend
        · unfold isBackupEnvoyRound3
          split
          · exact htrace
          · split
            · exact htrace
            · dsimp only
              split
              · exact htrace
              · exact hs

theorem sendToRemoteBGs_keeps {m : Message} (hm : m.isRound2 = false) (hs : s.At v) :
    (sendToRemoteBGs env ω m s).Keeps v := by
  exact hs.enqueue hm

theorem round3Committed_keeps {cycle : UInt16} (hs : s.At v) :
    (round3Committed cycle s).Keeps v := by
  have htrace := hs.trace
  unfold round3Committed
  split
  · exact htrace
  · split
    · exact htrace
    · exact ConnManager.At.note (v := v) hs rfl

theorem envoyRound3SendFetchRequest_keeps {cycle : UInt16} (hs : s.At v) :
    (envoyRound3SendFetchRequest env ω cycle s).Keeps v := by
  have htrace := hs.trace
  unfold envoyRound3SendFetchRequest
  split
  · exact htrace
  · split
    · exact htrace
    · split
      · exact round3Committed_keeps hs
      · dsimp only
        refine ifPrimaryEnvoy_keeps hs ?_
        split
        · exact htrace
        · exact debugThrow_view hs (fun _ _ h => h) fun s' hs' => sendToRemoteBGs_keeps rfl hs'

theorem envoyRound3SendGeneralFetch_keeps {demanded : MessageType} {cycle : UInt16}
    (hs : s.At v) : (envoyRound3SendGeneralFetch demanded env ω cycle s).Keeps v := by
  unfold envoyRound3SendGeneralFetch
  split
  · exact hs.trace
  · exact debugThrow_view hs (fun _ _ h => h) fun s' hs' =>
      ifPrimaryEnvoy_keeps hs' (sendToRemoteBGs_keeps rfl hs')

theorem respondToPending_keeps {kind : FetchKind} {cycle : UInt16} {status : CycleStatus}
    (hs : s.At v) : (respondToPending kind env cycle status s).Keeps v := by
  unfold respondToPending
  split
  · exact hs
  · split
    · exact hs.trace
    · next response hresponse =>
      exact hs.answerRequests (ownResponse_not_round2 hresponse) kind cycle _

theorem round3RespondToPendingFetchRequests_keeps {cycle : UInt16} (hs : s.At v) :
    (round3RespondToPendingFetchRequests env cycle s).Keeps v := by
  have htrace := hs.trace
  unfold round3RespondToPendingFetchRequests
  split
  · exact htrace
  · split
    · exact htrace
    · exact respondToPending_keeps hs

theorem round3RespondToPendingFetchConnectivityRequests_keeps {cycle : UInt16}
    (hs : s.At v) :
    (round3RespondToPendingFetchConnectivityRequests env cycle s).Keeps v := by
  unfold round3RespondToPendingFetchConnectivityRequests
  split
  · exact hs.trace
  · exact respondToPending_keeps hs

theorem round3RespondToPendingFetchMembershipRequests_keeps {cycle : UInt16}
    (hs : s.At v) :
    (round3RespondToPendingFetchMembershipRequests env cycle s).Keeps v := by
  unfold round3RespondToPendingFetchMembershipRequests
  split
  · exact hs.trace
  · exact respondToPending_keeps hs

/-! ## Requests and responses -/

theorem dispatcherRound3FetchRequest_keeps {pFReq : MessageRound3FetchRequest}
    (hs : s.At v) : (dispatcherRound3FetchRequest env pFReq s).Keeps v := by
  unfold dispatcherRound3FetchRequest
  dsimp only
  split
  · split
    · exact debugThrowElseReturnVoid_view hs (fun _ _ h => h) (fun _ h => h) fun _ h => h
    · exact hs
  · split
    · exact hs.trace
    · next response hresponse =>
      exact hs.answerRequests (ownResponse_not_round2 hresponse) _ _ _

theorem at_answerOrPush {kind : FetchKind} {pFetch : MessageRound3GeneralFetch}
    {status : CycleStatus} (hs : s.At v) :
    (answerOrPush kind env pFetch status s).At v := by
  unfold answerOrPush
  split
  · exact hs
  · next response hresponse =>
    exact hs.answerRequests (ownResponse_not_round2 hresponse) _ _ _

theorem dispatcherRound3GeneralFetchRequest_keeps {pElement : QueueElement}
    (he : pElement.pMessage.isRound2 = false) {pFetch : MessageRound3GeneralFetch}
    (hs : s.At v) :
    (dispatcherRound3GeneralFetchRequest env pElement pFetch s).Keeps v := by
  unfold dispatcherRound3GeneralFetchRequest
  split
  · unfold dispatcherRound3FetchConnectivityRequest
    split
    · exact hs.juggle he
    · exact at_answerOrPush hs
  · split
    · unfold dispatcherRound3FetchMembershipRequest
      dsimp only
      split
      · refine debugThrow_view hs (fun _ _ h => h) fun s' hs' => ?_
        exact hs'.answerRequests rfl _ _ _
      · exact at_answerOrPush hs
    · exact hs.trace

/-! ## Starting a round -/

/-- The view is kept, or the leader, which was idle, issued one more Preprepare. -/
inductive Spawned (env : Env) (v : Round2View) : Outcome → Prop where
  | kept (s : ConnManager) (h : s.At v) : Spawned env v (.ok s)
  | thrown (ex : Exception) (s : ConnManager) (h : s.round2View.trace = v.trace) :
    Spawned env v (.thrown ex s)
  | issued (p : MessageRound2Preprepare) (s : ConnManager) (hleader : env.conf.sLid = 0)
    (hidle : v.status = none) (hp : p.header.version = versionLatest)
    (h : s.At { v with status := some .waitingForPreprepare }) :
    Spawned env v (sendPreprepare env p s)

theorem canStartRound2_view {k : Bool → ConnManager → Outcome} (hs : s.At v)
    (hthrow : ∀ ex s, s.round2View.trace = v.trace → Q (.thrown ex s))
    (hk : ∀ b s, s.At v → Q (k b s)) : Q (canStartRound2 env s k) := by
  unfold canStartRound2
  refine debugThrow_view hs hthrow fun s' hs' => ?_
  split
  · exact hthrow _ _ hs'.trace
  · exact hk _ s' hs'

theorem leaderRound2SendPreprepare_spawned (hleader : env.conf.sLid = 0)
    (hs : s.At v) : Spawned env v (leaderRound2SendPreprepare env ω s) := by
  unfold leaderRound2SendPreprepare
  refine debugThrow_view hs Spawned.thrown fun s₁ hs₁ => ?_
  refine canStartRound2_view hs₁ Spawned.thrown fun b s₂ hs₂ => ?_
  refine debugThrow_view hs₂ Spawned.thrown fun s₃ hs₃ => ?_
  have hstatus : s₃.pRound2CurrentStatus = v.status := congrArg Round2View.status hs₃.1
  split
  · exact Spawned.thrown _ _ hs₃.trace
  · next hnone =>
    rw [hnone] at hstatus
    have hset : ConnManager.At
        { s₃ with pRound2CurrentStatus := some CycleStatus.waitingForPreprepare }
        { v with status := some CycleStatus.waitingForPreprepare } := by
      refine ⟨?_, hs₃.2⟩
      rw [← hs₃.1]
      rfl
    dsimp only
    split
    · next p hp =>
      have hversion := hs₃.2 p (List.mem_of_getElem? hp)
      refine debugThrow_view hset ?_ fun s₄ hs₄ => ?_
      · exact fun ex s h => Spawned.thrown ex s h
      · refine Spawned.issued _ _ hleader hstatus.symm hversion ⟨hs₄.1, fun q hq => ?_⟩
        exact hs₄.2 q (List.mem_of_mem_eraseIdx hq)
    · exact Spawned.issued _ _ hleader hstatus.symm rfl hset

theorem startRound2IfPossible_spawned (hleader : env.conf.sLid = 0) (hs : s.At v) :
    Spawned env v (startRound2IfPossible env ω s) := by
  refine canStartRound2_view hs Spawned.thrown fun b s' hs' => ?_
  split
  · exact leaderRound2SendPreprepare_spawned hleader hs'
  · exact Spawned.kept s' hs'

theorem Outcome.Keeps.spawned {o : Outcome} (h : o.Keeps v) : Spawned env v o := by
  cases o with
  | ok s => exact Spawned.kept s h
  | thrown ex s => exact Spawned.thrown ex s h

theorem forwardToLeader_keeps {pElement : QueueElement}
    (he : pElement.pMessage.isRound2 = false) (hs : s.At v) :
    (forwardToLeader env pElement s).Keeps v := by
  refine hs.enqueue ?_
  exact he

/-- `isRound2Leader` in terms of the id. -/
theorem sLid_eq_zero (h : ¬ (!env.conf.isRound2Leader) = true) : env.conf.sLid = 0 := by
  simpa [Config.isRound2Leader] using h

theorem dispatcherRound3FetchResponse_spawned {pElement : QueueElement}
    (he : pElement.pMessage.isRound2 = false) {pFResp : MessageRound3FetchResponse}
    (hs : s.At v) :
    Spawned env v (dispatcherRound3FetchResponse env ω pElement pFResp s) := by
  unfold dispatcherRound3FetchResponse
  split
  · exact (forwardToLeader_keeps he hs).spawned
  · next hleader =>
    exact startRound2IfPossible_spawned (sLid_eq_zero hleader) (hs.pushPreprepare rfl)

theorem dispatcherRound3FetchConnectivityResponse_spawned {pElement : QueueElement}
    (he : pElement.pMessage.isRound2 = false) {pConn : MessageRound3FetchResponse}
    (hs : s.At v) :
    Spawned env v (dispatcherRound3FetchConnectivityResponse env ω pElement pConn s) := by
  unfold dispatcherRound3FetchConnectivityResponse
  split
  · exact (forwardToLeader_keeps he hs).spawned
  · next hleader =>
    split
    · exact Spawned.thrown _ _ hs.trace
    · split
      · exact Spawned.kept _ (hs.juggle he)
      · dsimp only
        refine startRound2IfPossible_spawned (sLid_eq_zero hleader) ?_
        split
        · exact ConnManager.At.pushPreprepare (v := v) hs rfl
        · exact hs

theorem dispatcherRound3FetchMembershipResponse_spawned {pElement : QueueElement}
    (he : pElement.pMessage.isRound2 = false) {pMembership : MessageRound3FullMembership}
    (hs : s.At v) :
    Spawned env v (dispatcherRound3FetchMembershipResponse env ω pElement pMembership s) := by
  unfold dispatcherRound3FetchMembershipResponse
  split
  · exact (forwardToLeader_keeps he hs).spawned
  · next hleader =>
    dsimp only
    split
    · exact Spawned.thrown _ _ hs.trace
    · split
      · exact Spawned.kept _ (hs.juggle he)
      · refine debugThrowElseReturnVoid_view hs Spawned.thrown Spawned.kept fun s₁ hs₁ => ?_
        refine debugThrow_view hs₁ Spawned.thrown fun s₂ hs₂ => ?_
        split
        · exact startRound2IfPossible_spawned (sLid_eq_zero hleader)
            (ConnManager.At.pushPreprepare (v := v) hs₂ rfl)
        · exact Spawned.kept _ hs₂

theorem dispatcherRound2Request_spawned {pElement : QueueElement}
    (he : pElement.pMessage.isRound2 = false) {pRequest : MessageRound2Request}
    (hs : s.At v) :
    Spawned env v (dispatcherRound2Request env ω pElement pRequest s) := by
  unfold dispatcherRound2Request
  split
  · exact debugThrow_view hs Spawned.thrown fun s₁ hs₁ => Spawned.kept _ (hs₁.enqueue he)
  · next hleader =>
    refine debugThrowElseReturnVoid_view hs Spawned.thrown Spawned.kept fun s₁ hs₁ => ?_
    exact startRound2IfPossible_spawned (sLid_eq_zero hleader) hs₁

/-- **Messages that are not of round 2 leave round 2 alone**, but the leader may start a round. -/
theorem dispatcherRound2_spawned {pElement : QueueElement}
    (he : pElement.pMessage.isRound2 = false) (hs : s.At v) :
    Spawned env v (dispatcherRound2 env ω pElement s) := by
  have hround2 : ∀ {m : Message}, pElement.pMessage = m → m.isRound2 = true → False := by
    intro m hm hm2
    rw [hm, hm2] at he
    exact Bool.noConfusion he
  unfold dispatcherRound2
  split
  · exact Spawned.thrown _ _ hs.trace
  · split
    · next m hm => exact (hround2 hm rfl).elim
    · exact dispatcherRound2Request_spawned he hs
    · next m hm => exact (hround2 hm rfl).elim
    · next m hm => exact (hround2 hm rfl).elim
    · next m hm => exact (hround2 hm rfl).elim
    · exact (dispatcherRound3FetchRequest_keeps hs).spawned
    · exact dispatcherRound3FetchResponse_spawned he hs
    · exact (dispatcherRound3GeneralFetchRequest_keeps he hs).spawned
    · exact dispatcherRound3FetchConnectivityResponse_spawned he hs
    · exact dispatcherRound3FetchMembershipResponse_spawned he hs
    · exact Spawned.thrown _ _ hs.trace

/-- An empty message only wakes up the leader. -/
theorem dispatcherRound2_empty {pElement : QueueElement} {m : MessageEmpty}
    (hm : pElement.pMessage = .empty m) (hleader : env.conf.sLid = 0) (hs : s.At v) :
    Spawned env v (dispatcherRound2 env ω pElement s) := by
  unfold dispatcherRound2
  split
  · exact Spawned.thrown _ _ hs.trace
  · rw [hm]
    exact debugThrow_view hs Spawned.thrown fun s' hs' =>
      startRound2IfPossible_spawned hleader hs'

/-! ## Commits -/

/-- A view without the round that was just committed. -/
def Round2View.clear (v : Round2View) : Round2View := { v with status := none, stored := none }

/--
How the rest of a commit ends: the round is cleared and the leader may start another one, or a
check failed and the handler returned before.
-/
inductive Finished (env : Env) (v : Round2View) : Outcome → Prop where
  | returned (s : ConnManager) (h : s.At v) : Finished env v (.ok s)
  | cleared (o : Outcome) (h : Spawned env v.clear o) : Finished env v o

theorem Finished.thrown (ex : Exception) (s : ConnManager) (h : s.round2View.trace = v.trace) :
    Finished env v (.thrown ex s) := .cleared _ (.thrown ex s h)

theorem at_clearRound2 (hs : s.At v) : (clearRound2 s).At v.clear := by
  refine ⟨?_, hs.2⟩
  rw [← hs.1]
  rfl

theorem spawnRound2_finished (hs : s.At v.clear) :
    Finished env v (spawnRound2 env ω s) := by
  unfold spawnRound2
  refine Finished.cleared _ ?_
  split
  · next hleader =>
    exact startRound2IfPossible_spawned (by simpa [Config.isRound2Leader] using hleader) hs
  · exact Spawned.kept s hs

theorem skipCycles_keeps {pFullC : MessageRound2FullCommit} {pPreprepare : MessageRound2Preprepare}
    {status : CycleStatus} {n : Nat} {cycle : UInt16} (hs : s.At v) :
    (skipCycles env ω pFullC pPreprepare status n cycle s).Keeps v := by
  induction n generalizing cycle s with
  | zero => exact hs
  | succ n ih =>
    unfold skipCycles
    refine debugThrow_view hs (fun _ _ h => h) fun s₁ hs₁ => ?_
    refine debugThrow_view hs₁ (fun _ _ h => h) fun s₂ hs₂ => ?_
    refine Outcome.Keeps.andThen_keeps (v := v) ?_ fun s₃ hs₃ => ?_
    · exact round3RespondToPendingFetchRequests_keeps hs₂
    · exact (envoyRound3SendFetchRequest_keeps hs₃).andThen_keeps fun s₄ hs₄ => ih hs₄

section Common

variable {common : ConnManager → Outcome} {pFullC : MessageRound2FullCommit}
  {pPreprepare : MessageRound2Preprepare} {status : CycleStatus}
  (hcommon : ∀ s, s.At v.clear → Finished env v (common s))

include hcommon

theorem fullCommitFromClient_finished (hs : s.At v) :
    Finished env v (fullCommitFromClient env ω pFullC pPreprepare status s common) := by
  unfold fullCommitFromClient
  refine (skipCycles_keeps hs).andThen Finished.thrown fun s₁ hs₁ => ?_
  dsimp only
  refine debugThrowElseReturnVoid_view hs₁ Finished.thrown Finished.returned fun s₂ hs₂ => ?_
  refine debugThrow_view (v := { v with
    stored := none
    status := some { status with
      rgMsgRound3FetchResponse := Function.update status.rgMsgRound3FetchResponse
        env.conf.bGid (some (getRound3Response env.host pPreprepare pFullC
          (UInt16.ofNat env.conf.sLid) pPreprepare.cycle)) } })
    ⟨by rw [← hs₂.1]; rfl, hs₂.2⟩ (fun ex s h => Finished.thrown ex s h) fun s₃ hs₃ => ?_
  refine (round3RespondToPendingFetchRequests_keeps (v := v.clear) ?_).andThen
    (fun ex s h => Finished.thrown ex s h) fun s₄ hs₄ => ?_
  · have : ({ s₃.setStatus pPreprepare.cycle { status with
        rgMsgRound3FetchResponse := Function.update status.rgMsgRound3FetchResponse
          env.conf.bGid (some (getRound3Response env.host pPreprepare pFullC
            (UInt16.ofNat env.conf.sLid) pPreprepare.cycle)) } with
          pRound2CurrentStatus := none } : ConnManager).round2View
        = { s₃.round2View with status := none } := rfl
    refine ⟨?_, hs₃.2⟩
    rw [this, hs₃.1]
    rfl
  · exact (envoyRound3SendFetchRequest_keeps hs₄).andThen
      (fun ex s h => Finished.thrown ex s h) hcommon

theorem fullCommitFetchedResult_finished (hs : s.At v) :
    Finished env v (fullCommitFetchedResult env pPreprepare s common) := by
  unfold fullCommitFetchedResult
  dsimp only
  split
  · exact Finished.thrown _ _ hs.trace
  · refine debugThrowElseReturnVoid_view hs Finished.thrown Finished.returned fun s₁ hs₁ => ?_
    refine debugThrow_view (at_clearRound2 (v := v) hs₁)
      (fun ex s h => Finished.thrown ex s h) fun s₂ hs₂ => ?_
    split
    · refine hcommon _ ?_
      split
      · exact ConnManager.At.pushPreprepare (v := v.clear) hs₂ rfl
      · exact hs₂
    · exact hcommon _ hs₂

theorem fullCommitLocalConnectivity_finished (hs : s.At v) :
    Finished env v (fullCommitLocalConnectivity env ω pFullC pPreprepare s common) := by
  unfold fullCommitLocalConnectivity
  dsimp only
  split
  · exact Finished.thrown _ _ hs.trace
  · refine debugThrowElseReturnVoid_view hs Finished.thrown Finished.returned fun s₁ hs₁ => ?_
    refine Outcome.Keeps.andThen (v := v.clear) ?_
      (fun ex s h => Finished.thrown ex s h) fun s₂ hs₂ => ?_
    · exact round3RespondToPendingFetchConnectivityRequests_keeps (at_clearRound2 (v := v) hs₁)
    · exact (envoyRound3SendGeneralFetch_keeps hs₂).andThen
        (fun ex s h => Finished.thrown ex s h) hcommon

theorem fullCommitRemoteConnectivity_finished (hs : s.At v) :
    Finished env v (fullCommitRemoteConnectivity env pPreprepare s common) := by
  unfold fullCommitRemoteConnectivity
  refine debugThrow_view hs Finished.thrown fun s₁ hs₁ => ?_
  dsimp only
  split
  · exact Finished.thrown _ _ hs₁.trace
  · refine debugThrowElseReturnVoid_view hs₁ Finished.thrown Finished.returned fun s₂ hs₂ => ?_
    refine debugThrow_view (at_clearRound2 (v := v) hs₂)
      (fun ex s h => Finished.thrown ex s h) fun s₃ hs₃ => ?_
    refine debugThrow_view hs₃ (fun ex s h => Finished.thrown ex s h) fun s₄ hs₄ => ?_
    exact hcommon _ hs₄

theorem fullCommitLocalMembership_finished (hs : s.At v) :
    Finished env v (fullCommitLocalMembership env ω pPreprepare s common) := by
  unfold fullCommitLocalMembership
  dsimp only
  split
  · exact Finished.thrown _ _ hs.trace
  · refine debugThrowElseReturnVoid_view hs Finished.thrown Finished.returned fun s₁ hs₁ => ?_
    refine Outcome.Keeps.andThen (v := v.clear) ?_
      (fun ex s h => Finished.thrown ex s h) fun s₂ hs₂ => ?_
    · exact round3RespondToPendingFetchMembershipRequests_keeps (at_clearRound2 (v := v) hs₁)
    · exact (envoyRound3SendGeneralFetch_keeps hs₂).andThen
        (fun ex s h => Finished.thrown ex s h) hcommon

theorem fullCommitFullMembership_finished (hs : s.At v) :
    Finished env v (fullCommitFullMembership env pPreprepare s common) := by
  unfold fullCommitFullMembership
  dsimp only
  split
  · exact Finished.thrown _ _ hs.trace
  · refine debugThrow_view (v := v) hs Finished.thrown fun s₁ hs₁ => ?_
    refine debugThrow_view hs₁ Finished.thrown fun s₂ hs₂ => ?_
    exact (round3Committed_keeps (at_clearRound2 (v := v) hs₂)).andThen
      (fun ex s h => Finished.thrown ex s h) hcommon

theorem fullCommitBranch_finished (hs : s.At v) :
    Finished env v (fullCommitBranch env ω pFullC pPreprepare status s common) := by
  unfold fullCommitBranch
  split
  · exact fullCommitFromClient_finished hcommon hs
  · split
    · exact fullCommitFetchedResult_finished hcommon hs
    · split
      · exact fullCommitLocalConnectivity_finished hcommon hs
      · split
        · exact fullCommitRemoteConnectivity_finished hcommon hs
        · split
          · exact fullCommitLocalMembership_finished hcommon hs
          · split
            · exact fullCommitFullMembership_finished hcommon hs
            · exact Finished.thrown _ _ hs.trace

end Common

end Quiet

end RCanopus
