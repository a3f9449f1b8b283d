import RCanopus.Round2

/-!
# The hybrid variant, `ConnManager_Hybrid.cpp`

Each SL fetches the results of the other BGs for itself and keeps what it gets, so the results are
not replicated. A Preprepare for the local connectivity of a cycle waits at each SL until all
results are there. The rest of round 3 and of round 2 is that of `ConnManager.cpp`, and the
definitions for it are used here; what follows are the functions that differ.
-/

namespace RCanopus.Hybrid

variable (env : Env) (ω : Choice)

/-! ## Fetching -/

/-- `envoy_round3_sendFetchRequest`. Whether the SL is an envoy does not matter. -/
def envoyRound3SendFetchRequest (cycle : UInt16) (s : ConnManager) : Outcome :=
  match s.mapRound3Status cycle with
  | none => .thrown .cycleNotInRound3 s
  | some status =>
    if status.state ≠ .round2Committed then .thrown .unexpectedCycleState s
    else if env.conf.numBG = 1 then
      round3Committed cycle (s.setStatus cycle (status.enter .round3Committed .invalid 0))
    else
      let s := s.setStatus cycle
        (status.enter .round3WaitingForReplicatedResults .round3FetchResponse
          (env.conf.numBG - 1))
      match status.rgMsgRound3FetchResponse env.conf.bGid with
      | none => .thrown .nullPointer s
      | some pFResp =>
        let pFReq := getRound3Request env.host pFResp
        debugThrow env (getRound3RequestCheck pFReq) s fun s =>
        sendToRemoteBGs env ω
          (.round3FetchRequest { pFReq with senderSLid := UInt16.ofNat env.conf.sLid }) s

/-- The Preprepare for the local connectivity. It has no content. -/
def localConnectivityPreprepare (conf : Config) (cycle : UInt16) : MessageRound2Preprepare where
  header :=
    { version := versionLatest
      payloadLen := UInt32.ofNat (sizeofMessageRound2Preprepare - sizeofMessageHeader) }
  sender := UInt16.ofNat conf.sLid
  view := 0
  seq := 0
  bGid := UInt16.ofNat conf.bGid
  requestType := requestTypeLocalConnectivity
  cycle := cycle
  lastcycle := cycle - 1
  collectorSLid := 0
  numOfRound3Participants := 0
  participantsAndContent := []

/-- All slots for the results are filled. -/
def allResults (conf : Config) (status : CycleStatus) : Bool :=
  (List.range conf.numBG).all fun i => (status.rgMsgRound3FetchResponse i).isSome

/-- `dispatcher_round3_fetchResponse`. The SL keeps the result. -/
def dispatcherRound3FetchResponse (pResponse : MessageRound3FetchResponse) (s : ConnManager) :
    Outcome :=
  let cycle := pResponse.cycle
  match s.mapRound3Status cycle with
  | none => .thrown .cycleNotInRound3 s
  | some status =>
    debugThrow env (decide (1 < env.conf.numBG)) s fun s =>
    let status :=
      { status with
        rgMsgRound3FetchResponse := Function.update status.rgMsgRound3FetchResponse
          pResponse.senderBGid.toNat (some pResponse) }
    if allResults env.conf status then
      let s := s.setStatus cycle
        (status.enter .round3WaitingForLocalConnectivity .round2FullCommit 1)
      spawnRound2 env ω
        (if env.conf.isRound2Leader then
          pushPreprepare (localConnectivityPreprepare env.conf cycle) s
        else s)
    else spawnRound2 env ω (s.setStatus cycle status)

/-! ## Preprepares -/

/-- The part of `dispatcher_round2_preprepare` that the two programs share. -/
def storePreprepare (pPreprepare : MessageRound2Preprepare) (status : CycleStatus)
    (s : ConnManager) : Outcome :=
  debugThrowElseReturnVoid env (pPreprepare.view == s.round2NextView) s fun s =>
  debugThrow env (env.conf.isRound2Leader || pPreprepare.seq == s.round2NextSeq) s fun s =>
  acceptPreprepare env pPreprepare status s

/-- `dispatcher_round2_preprepare`. -/
def dispatcherRound2Preprepare (pElement : QueueElement) (pPreprepare : MessageRound2Preprepare)
    (s : ConnManager) : Outcome :=
  let status := s.pRound2CurrentStatus.getD .waitingForPreprepare
  let s := { s with pRound2CurrentStatus := some status }
  if status.awaitingMessageType ≠ .round2Preprepare then .ok (s.juggle pElement)
  else
    debugThrow env (status.messageReceivedCounter == 0) s fun s =>
    debugThrow env (status.messageRequired == 1) s fun s =>
    if preprepareTooEarly s pPreprepare then .ok (s.juggle pElement)
    else if pPreprepare.requestType = requestTypeLocalConnectivity then
      -- round 3 has to be finished for the cycle
      match s.mapRound3Status pPreprepare.cycle with
      | none => debugThrowElseReturnVoid env false s .ok
      | some cycleStatus =>
        if cycleStatus.state ≠ .round3WaitingForLocalConnectivity then .ok (s.juggle pElement)
        else storePreprepare env pPreprepare status s
    else storePreprepare env pPreprepare status s

/-! ## Full commits -/

/-- The loop over the cycles that a client Preprepare skips. `n` iterations are left. -/
def skipCycles (pFullC : MessageRound2FullCommit) (pPreprepare : MessageRound2Preprepare)
    (status : CycleStatus) : Nat → UInt16 → ConnManager → Outcome
  | 0, _, s => .ok s
  | n + 1, cycle, s =>
    debugThrow env false s fun s =>
    debugThrow env (s.mapRound3Status cycle).isNone s fun s =>
    let s := s.setStatus cycle (skippedStatus env pFullC pPreprepare status cycle)
    (round3RespondToPendingFetchRequests env cycle s).andThen fun s =>
    (envoyRound3SendFetchRequest env ω cycle s).andThen fun s =>
    skipCycles pFullC pPreprepare status n (cycle + 1) s

/-- The branch for `REQUEST_TYPE_FROM_CLIENT`. -/
def fullCommitFromClient (pFullC : MessageRound2FullCommit)
    (pPreprepare : MessageRound2Preprepare) (status : CycleStatus) (s : ConnManager)
    (common : ConnManager → Outcome) : Outcome :=
  (skipCycles env ω pFullC pPreprepare status
    (pPreprepare.cycle.toNat - (pPreprepare.lastcycle + 1).toNat) (pPreprepare.lastcycle + 1)
    s).andThen fun s =>
  let cycle := pPreprepare.cycle
  let pFetchResponse :=
    getRound3Response env.host pPreprepare pFullC (UInt16.ofNat env.conf.sLid) cycle
  debugThrowElseReturnVoid env
    (status.rgMsgRound3FetchResponse env.conf.bGid).isNone s fun s =>
  let status :=
    { status with
      rgMsgRound3FetchResponse := Function.update status.rgMsgRound3FetchResponse
        env.conf.bGid (some pFetchResponse) }
  let s :=
    { s with pTemporaryStorageOfPreprepare := none, pRound2CurrentStatus := some status }
  debugThrow env (s.mapRound3Status cycle).isNone s fun s =>
  let s := { s.setStatus cycle status with pRound2CurrentStatus := none }
  (round3RespondToPendingFetchRequests env cycle s).andThen fun s =>
  (envoyRound3SendFetchRequest env ω cycle s).andThen common

/-- The branch for `REQUEST_TYPE_LOCAL_CONNECTIVITY`: one more check, then as before. -/
def fullCommitLocalConnectivity (pFullC : MessageRound2FullCommit)
    (pPreprepare : MessageRound2Preprepare) (s : ConnManager)
    (common : ConnManager → Outcome) : Outcome :=
  match s.mapRound3Status pPreprepare.cycle with
  | none => .thrown .cycleNotInRound3 s
  | some status =>
    debugThrowElseReturnVoid env (status.state == .round3WaitingForLocalConnectivity) s fun s =>
    RCanopus.fullCommitLocalConnectivity env ω pFullC pPreprepare s common

/-- The branch on the request type. -/
def fullCommitBranch (pFullC : MessageRound2FullCommit) (pPreprepare : MessageRound2Preprepare)
    (status : CycleStatus) (s : ConnManager) (common : ConnManager → Outcome) : Outcome :=
  if pPreprepare.requestType = requestTypeFromClient then
    fullCommitFromClient env ω pFullC pPreprepare status s common
  else if pPreprepare.requestType = requestTypeFetchedResult then
    fullCommitFetchedResult env pPreprepare s common
  else if pPreprepare.requestType = requestTypeLocalConnectivity then
    fullCommitLocalConnectivity env ω pFullC pPreprepare s common
  else if pPreprepare.requestType = requestTypeRemoteConnectivity then
    fullCommitRemoteConnectivity env pPreprepare s common
  else if pPreprepare.requestType = requestTypeLocalMembership then
    fullCommitLocalMembership env ω pPreprepare s common
  else if pPreprepare.requestType = requestTypeFullMembership then
    fullCommitFullMembership env pPreprepare s common
  else .thrown .messageInvalidRequestType s

/-- `dispatcher_round2_fullCommit`. -/
def dispatcherRound2FullCommit (pElement : QueueElement) (pFullC : MessageRound2FullCommit)
    (s : ConnManager) : Outcome :=
  match s.pRound2CurrentStatus with
  | none => .ok (s.juggle pElement)
  | some status =>
    if status.state = .round2WaitingForPreprepare then .ok (s.juggle pElement)
    else
      debugThrowElseReturnVoid env (status.state == .round2WaitingForFullcommit) s fun s =>
      debugThrowElseReturnVoid env (pFullC.view == status.round2View) s fun s =>
      debugThrowElseReturnVoid env (pFullC.seq == status.round2Sequence) s fun s =>
      match s.pTemporaryStorageOfPreprepare with
      | none => .thrown .preprepareMissing s
      | some pPreprepare =>
        let status := { status with state := .round2Committed }
        let s := { s with pRound2CurrentStatus := some status }.note (.committed pPreprepare)
        fullCommitBranch env ω pFullC pPreprepare status s (spawnRound2 env ω)

/-! ## The dispatcher -/

/-- `dispatcher_round2`. -/
def dispatcherRound2 (pElement : QueueElement) (s : ConnManager) : Outcome :=
  if pElement.pMessage.header.version ≠ versionLatest then .thrown .messageInvalidVersion s
  else
    match pElement.pMessage with
    | .empty _ =>
      debugThrow env env.conf.isRound2Leader s fun s => startRound2IfPossible env ω s
    | .round2Request m => dispatcherRound2Request env ω pElement m s
    | .round2Preprepare m => dispatcherRound2Preprepare env pElement m s
    | .round2PartialCommit m => dispatcherRound2PartialCommit env pElement m s
    | .round2FullCommit m => dispatcherRound2FullCommit env ω pElement m s
    | .round3FetchRequest m => dispatcherRound3FetchRequest env m s
    | .round3FetchResponse m => dispatcherRound3FetchResponse env ω m s
    | .round3GeneralFetch m => dispatcherRound3GeneralFetchRequest env pElement m s
    | .round3ConnectivityResponse m => dispatcherRound3FetchConnectivityResponse env ω pElement m s
    | .round3MembershipResponse m => dispatcherRound3FetchMembershipResponse env ω pElement m s
    | .hello _ => .thrown .messageInvalidType s

end RCanopus.Hybrid
