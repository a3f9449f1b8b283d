import RCanopus.Baseline.Round2

/-!
# What one step of round 3 does

For each message that round 3 works with and each state of its cycle, the state in which the handler
leaves the SL.
-/

namespace RCanopus.Baseline

variable {env : Env} {ω : Choice} {s : ConnManager} {e : QueueElement}

/-! ## The result of the own BG -/

section Client

variable (env ω) (m : MessageRound2FullCommit) (p : MessageRound2Preprepare) (s : ConnManager)

/-- The result of a client cycle, as the SL puts it in the slot of its own BG. -/
def ownResult : MessageRound3FetchResponse :=
  getRound3Response env.host p m (UInt16.ofNat env.conf.sLid) p.cycle

/-- The status of a client cycle that waits for the results of the other BGs. -/
def fetchingStatus : CycleStatus :=
  (CycleStatus.ofRound2 (resultStatus env m p (.committed p))).enter
    (.common .round3WaitingForReplicatedResults) (.common .round3FetchResponse)
    (env.conf.numBG - 1)

/-- What the SL asks the other BGs for. -/
def requestElement (r : MessageRound3FetchResponse) : QueueElement where
  upPeers := getOneSLFromEveryRemoteBG env.conf ω.engine
  pMessage := .common (.round3FetchRequest
    { getRound3Request env.host r with senderSLid := UInt16.ofNat env.conf.sLid })

/-- The state after the requests that had to wait are answered. -/
def answerPending : ConnManager :=
  match s.mapRound3PendingFetchRequests p.cycle with
  | none => s
  | some requests =>
    (answerRequests .pending p.cycle (ownResult env m p).copy requests s).setPending p.cycle []

/-- The state after round 2 has handed the cycle over. -/
def handOver : ConnManager :=
  let s := prepareFakeResponse env ω p s
  setRound2Status none
    (ConnManager.setStatus
      { s with common := { s.common with
        pTemporaryStorageOfPreprepare := none
        pRound2CurrentStatus := some (resultStatus env m p (.committed p)) } }
      p.cycle (.ofRound2 (resultStatus env m p (.committed p))))

/-- The state after a client Preprepare was committed. -/
def afterResult : ConnManager :=
  ((answerPending env m p (handOver env ω m p s)).setStatus p.cycle
    (fetchingStatus env m p)).enqueue (requestElement env ω (ownResult env m p))

end Client

variable {p : MessageRound2Preprepare} {status : CycleStatus}

theorem ownSlot (m : MessageRound2FullCommit) :
    (resultStatus env m p (.committed p)).rgMsgRound3FetchResponse env.conf.bGid
      = some (ownResult env m p) := Function.update_self ..

theorem answerPending_map (m : MessageRound2FullCommit) (c : UInt16) :
    (answerPending env m p s).mapRound3Status c = s.mapRound3Status c := by
  unfold answerPending
  split
  · rfl
  · rfl

theorem round3RespondToPendingFetchRequests_eq {m : MessageRound2FullCommit}
    (h : s.mapRound3Status p.cycle = some (.ofRound2 (resultStatus env m p (.committed p)))) :
    round3RespondToPendingFetchRequests env p.cycle s = .ok (answerPending env m p s) := by
  unfold round3RespondToPendingFetchRequests answerPending
  rw [h]
  dsimp only
  rw [if_neg fun hne => hne rfl]
  cases s.mapRound3PendingFetchRequests p.cycle with
  | none => rfl
  | some requests =>
    dsimp only
    rw [show (CycleStatus.ofRound2 (resultStatus env m p
      (.committed p))).rgMsgRound3FetchResponse env.conf.bGid = some (ownResult env m p)
      from ownSlot m]

theorem envoyRound3SendFetchRequest_eq {m : MessageRound2FullCommit}
    (h : s.mapRound3Status p.cycle = some (.ofRound2 (resultStatus env m p (.committed p))))
    (hN : env.conf.numBG ≠ 1)
    (hcheck : getRound3RequestCheck (getRound3Request env.host (ownResult env m p)) = true) :
    envoyRound3SendFetchRequest env ω p.cycle s
      = .ok ((s.setStatus p.cycle (fetchingStatus env m p)).enqueue
        (requestElement env ω (ownResult env m p))) := by
  unfold envoyRound3SendFetchRequest
  rw [h]
  dsimp only
  rw [if_neg fun hne => hne rfl, if_neg hN,
    show (CycleStatus.ofRound2 (resultStatus env m p
      (.committed p))).rgMsgRound3FetchResponse env.conf.bGid = some (ownResult env m p)
      from ownSlot m]
  dsimp only
  rw [hcheck, debugThrow_true]
  rfl

/-- **A client Preprepare** is committed: the SL answers what waits for it and asks the others. -/
theorem fullCommitFromClient_eq {m : MessageRound2FullCommit} {common : ConnManager → Outcome}
    (hnone : s.mapRound3Status p.cycle = none) (hlast : p.lastcycle + 1 = p.cycle)
    (hN : env.conf.numBG ≠ 1)
    (hcheck : getRound3RequestCheck (getRound3Request env.host (ownResult env m p)) = true) :
    fullCommitFromClient env ω m p (.committed p) s common
      = common (afterResult env ω m p s) := by
  have hmap : (prepareFakeResponse env ω p s).mapRound3Status p.cycle = none := by
    unfold prepareFakeResponse
    split
    · exact hnone
    · exact hnone
  have hover : (handOver env ω m p s).mapRound3Status p.cycle
      = some (.ofRound2 (resultStatus env m p (.committed p))) := Function.update_self ..
  unfold fullCommitFromClient
  rw [hlast, Nat.sub_self]
  unfold skipCycles
  rw [Outcome.andThen_ok]
  dsimp only
  rw [show ((RCanopus.CycleStatus.committed p).rgMsgRound3FetchResponse env.conf.bGid).isNone
    = true from rfl, debugThrowElseReturnVoid_true, hmap, Option.isNone_none, debugThrow_true]
  have hrespond := round3RespondToPendingFetchRequests_eq hover
  unfold handOver at hrespond hover
  dsimp only at hrespond
  rw [hrespond, Outcome.andThen_ok,
    envoyRound3SendFetchRequest_eq ((answerPending_map m p.cycle).trans hover) hN hcheck,
    Outcome.andThen_ok]
  rfl

/-! ## Requests -/

section Request

variable {m : MessageRound3FetchRequest}

/-- A request for a cycle that is not there yet has to wait. -/
def afterRequest (m : MessageRound3FetchRequest) (s : ConnManager) : ConnManager :=
  s.setPending m.cycle ((s.mapRound3PendingFetchRequests m.cycle).getD []
    ++ [(m.senderBGid, m.senderSLid)])

theorem fetchRequest_answered {r : MessageRound3FetchResponse}
    (hstatus : s.mapRound3Status m.cycle = some status)
    (hslot : status.rgMsgRound3FetchResponse env.conf.bGid = some r) :
    dispatcherRound3FetchRequest env m s
      = .ok (answerRequests .status m.cycle r.copy [(m.senderBGid, m.senderSLid)] s) := by
  unfold dispatcherRound3FetchRequest
  dsimp only
  rw [hstatus]
  dsimp only
  rw [hslot]

theorem fetchRequest_waits (hstatus : s.mapRound3Status m.cycle = none)
    (hstorage : m.cycle ∉ s.pStorage) :
    dispatcherRound3FetchRequest env m s = .ok (afterRequest m s) := by
  unfold dispatcherRound3FetchRequest
  dsimp only
  rw [hstatus]
  exact if_neg hstorage

theorem fetchRequest_late {f : MessageRound3FetchResponse}
    (hstatus : s.mapRound3Status m.cycle = none) (hstorage : m.cycle ∈ s.pStorage)
    (hfake : s.fakeRound3ResponseForBaseline = some f) :
    dispatcherRound3FetchRequest env m s
      = .ok (answerRequests .template m.cycle { f.copy with cycle := m.cycle }
        [(m.senderBGid, m.senderSLid)] s) := by
  unfold dispatcherRound3FetchRequest
  dsimp only
  rw [hstatus]
  dsimp only
  rw [if_pos hstorage, hfake]

end Request

/-! ## Responses -/

/-- The results of all BGs are there. -/
def CycleStatus.full (numBG : Nat) (status : CycleStatus) : Bool :=
  (List.range numBG).all fun i => (status.rgMsgRound3FetchResponse i).isSome

/-- The status of a cycle that waits for the local connectivity. -/
def CycleStatus.fetched (status : CycleStatus) : CycleStatus :=
  status.enter (.common .round3WaitingForLocalConnectivity) (.common .round2FullCommit) 1

/-- The state after a response was put in its slot, and the leader has queued its Preprepare. -/
def afterResponse (env : Env) (m : MessageRound3FetchResponse) (status : CycleStatus)
    (s : ConnManager) : ConnManager :=
  let filled := s.setStatus m.cycle (status.fill m)
  if (status.fill m).full env.conf.numBG then
    let s := (filled.setStatus m.cycle (status.fill m).fetched).note
      (.fetched m.cycle (status.fill m).fetched)
    if env.conf.isRound2Leader then
      pushPreprepare (localConnectivityPreprepare env.conf m.cycle) s
    else s
  else filled

/-- **A response** is put in its slot. -/
theorem fetchResponse_eq {m : MessageRound3FetchResponse}
    (hstatus : s.mapRound3Status m.cycle = some status) (hN : 1 < env.conf.numBG) :
    dispatcherRound3FetchResponse env ω m s = spawnRound2 env ω (afterResponse env m status s) := by
  unfold dispatcherRound3FetchResponse afterResponse CycleStatus.full CycleStatus.fetched
  dsimp only
  rw [hstatus]
  dsimp only
  rw [decide_eq_true hN, debugThrow_true]
  split <;> rfl

/-! ## The local connectivity -/

/-- The state after the local connectivity of a cycle was committed, before the next round. -/
def afterConnectivity (env : Env) (ω : Choice) (p : MessageRound2Preprepare)
    (status : CycleStatus) (s : ConnManager) : ConnManager :=
  let s := clearRound2 (proposeRound3 env ω p.cycle
    ((noteCommitted p s).note (.committedConnectivity p.cycle)))
  if env.conf.isRound2Leader then
    s.setStatus p.cycle
      (status.enter .round3WaitingForPreprepareBaseline .round3PreprepareBaseline 1)
  else
    { s with
      mapRound3Status := Function.update s.mapRound3Status p.cycle none
      pStorage := s.pStorage ++ [p.cycle]
      history := s.history ++ [.round3Committed p.cycle] }

/-- `round3_committed` for a cycle whose status was just set. -/
theorem round3Committed_set {c : UInt16} (h : status.state = .common .round3Committed) :
    round3Committed c (s.setStatus c status)
      = .ok { s with
        mapRound3Status := Function.update s.mapRound3Status c none
        pStorage := s.pStorage ++ [c]
        history := s.history ++ [.round3Committed c] } := by
  unfold round3Committed
  rw [show (s.setStatus c status).mapRound3Status c = some status from Function.update_self ..]
  dsimp only
  rw [if_neg fun hne => hne h]
  unfold ConnManager.setStatus ConnManager.note
  dsimp only
  rw [Function.update_idem]

theorem fullCommitLocalConnectivity_eq {common : ConnManager → Outcome}
    {status2 : RCanopus.CycleStatus} (hstatus : s.mapRound3Status p.cycle = some status)
    (hstate : status.state = .common .round3WaitingForLocalConnectivity) :
    fullCommitLocalConnectivity env ω e p status2 s common
      = common (afterConnectivity env ω p status s) := by
  unfold fullCommitLocalConnectivity afterConnectivity
  dsimp only
  rw [hstatus]
  dsimp only
  rw [if_neg fun hne => hne hstate]
  split
  · rfl
  · rw [round3Committed_set rfl, Outcome.andThen_ok]

/-! ## The leaders -/

section Leaders

variable {m : MessageRound3PreprepareBaseline}

/-- Where the partial commit for a Preprepare of round 3 goes. -/
def collector3Peer (env : Env) (m : MessageRound3PreprepareBaseline) : Option Peer :=
  if m.collectorBGid.toNat = env.conf.bGid then none else some (m.collectorBGid.toNat, 0)

/-- The state after a Preprepare of round 3 was accepted. -/
def afterPreprepare3 (env : Env) (m : MessageRound3PreprepareBaseline) (status : CycleStatus)
    (s : ConnManager) : ConnManager :=
  ((s.setStatus m.cycle
    (if m.collectorBGid.toNat = env.conf.bGid then
      status.enter .round3CollectorWaitingForPartialcommitsBaseline .round3PartialCommitBaseline
        env.conf.numBG
    else status.enter .round3WaitingForFullcommitBaseline .round3FullCommitBaseline 1)).enqueue
      { upPeers := [collector3Peer env m]
        pMessage := .round3PartialCommit (round3PartialCommitMessage env.conf m.cycle) }).note
          (.sentPartialCommit m.collectorBGid.toNat (round3PartialCommitMessage env.conf m.cycle))

theorem preprepare3_accepted (hstatus : s.mapRound3Status m.cycle = some status)
    (hstate : status.state = .round3WaitingForPreprepareBaseline)
    (hawaiting : status.awaitingMessageType = .round3PreprepareBaseline)
    (hcounter : status.messageReceivedCounter = 0) :
    dispatcherRound3Preprepare env e m s = .ok (afterPreprepare3 env m status s) := by
  unfold dispatcherRound3Preprepare afterPreprepare3 collector3Peer
  dsimp only
  rw [hstatus]
  dsimp only
  rw [if_neg fun hne => hne hstate, hawaiting, beq_self_eq_true, debugThrowElseReturnVoid_true,
    hcounter, beq_self_eq_true, debugThrowElseReturnVoid_true]
  by_cases hc : m.collectorBGid.toNat = env.conf.bGid <;> simp [hc]

theorem preprepare3_juggled (hstatus : s.mapRound3Status m.cycle = some status)
    (hstate : status.state ≠ .round3WaitingForPreprepareBaseline) :
    dispatcherRound3Preprepare env e m s = .ok (s.juggle e) := by
  unfold dispatcherRound3Preprepare
  dsimp only
  rw [hstatus]
  exact if_pos hstate

/-- The state after a partial commit of round 3 was counted. -/
def afterPartialCommit3 (env : Env) (m : MessageRound3PartialCommitBaseline)
    (status : CycleStatus) (s : ConnManager) : ConnManager :=
  let s := s.note (.countedPartialCommit m)
  if status.messageReceivedCounter + 1 = status.messageRequired then
    ((s.setStatus m.cycle
      (status.enter .round3WaitingForFullcommitBaseline .round3FullCommitBaseline 1)).enqueue
        { upPeers := fullCommit3Peers env.conf
          pMessage := .round3FullCommit (round3FullCommitMessage env.conf m.cycle) }).note
            (.sentFullCommit (round3FullCommitMessage env.conf m.cycle))
  else
    s.setStatus m.cycle { status with messageReceivedCounter := status.messageReceivedCounter + 1 }

variable {v : MessageRound3PartialCommitBaseline}

theorem partialCommit3_counted (hleader : env.conf.isRound2Leader = true)
    (hstatus : s.mapRound3Status v.cycle = some status)
    (hstate : status.state = .round3CollectorWaitingForPartialcommitsBaseline)
    (hawaiting : status.awaitingMessageType = .round3PartialCommitBaseline) :
    dispatcherRound3PartialCommit env e v s = .ok (afterPartialCommit3 env v status s) := by
  unfold dispatcherRound3PartialCommit afterPartialCommit3
  rw [hleader, debugThrowElseReturnVoid_true]
  dsimp only
  rw [hstatus]
  dsimp only
  rw [if_neg fun hne => hne hstate, hawaiting, beq_self_eq_true, debugThrowElseReturnVoid_true]
  split <;> rfl

theorem partialCommit3_juggled (hleader : env.conf.isRound2Leader = true)
    (hstatus : s.mapRound3Status v.cycle = some status)
    (hstate : status.state ≠ .round3CollectorWaitingForPartialcommitsBaseline) :
    dispatcherRound3PartialCommit env e v s = .ok (s.juggle e) := by
  unfold dispatcherRound3PartialCommit
  rw [hleader, debugThrowElseReturnVoid_true]
  dsimp only
  rw [hstatus]
  exact if_pos hstate

/-- The state after `round3_committed`. -/
def afterFullCommit3 (c : UInt16) (s : ConnManager) : ConnManager :=
  { s with
    mapRound3Status := Function.update s.mapRound3Status c none
    pStorage := s.pStorage ++ [c]
    history := s.history ++ [.round3Committed c] }

variable {f : MessageRound3FullCommitBaseline}

theorem fullCommit3_committed (hstatus : s.mapRound3Status f.cycle = some status)
    (hstate : status.state = .round3WaitingForFullcommitBaseline) :
    dispatcherRound3FullCommit e f s = .ok (afterFullCommit3 f.cycle s) := by
  unfold dispatcherRound3FullCommit
  dsimp only
  rw [hstatus]
  dsimp only
  rw [if_neg fun hne => hne hstate]
  exact round3Committed_set rfl

end Leaders

end RCanopus.Baseline
