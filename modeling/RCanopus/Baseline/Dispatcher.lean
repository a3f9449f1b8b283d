import RCanopus.Baseline.ConnManager

/-!
# The handlers of `ConnManager_Baseline.cpp`

Round 2 ends with the result of a client cycle or with the local connectivity. In round 3 every SL
fetches the results of the other BGs by itself, and then the leaders of the BGs run one more round
of Preprepare, partial commits and full commit, which the leader of BG 0 starts.
-/

namespace RCanopus.Baseline

/--
The choices of one call of the dispatcher: those of `ConnManager.cpp`, the collector that the global
leader draws, and what an allocation happens to hold.
-/
structure Choice where
  engine : RCanopus.Choice
  collector : Nat
  memory : Nat → UInt8

/-- `isGlobalLeader`. -/
def isGlobalLeader (conf : Config) : Bool := conf.bGid == 0 && conf.sLid == 0

/-! ## The message builders -/

/-- The template for late answers, made with the first Preprepare. Its last part is not written. -/
def fakeRound3Response (conf : Config) (memory : Nat → UInt8)
    (pPreprepare : MessageRound2Preprepare) : MessageRound3FetchResponse :=
  let totalSize := pPreprepare.header.getMessageSize
  { header :=
      { version := versionLatest
        payloadLen := UInt32.ofNat
          (sizeofMessageRound3FetchResponse - sizeofMessageHeader + totalSize) }
    senderBGid := UInt16.ofNat conf.bGid
    senderSLid := UInt16.ofNat conf.sLid
    cycle := 0
    combinedSignature := zeroSignature
    entirePreprepareMsg := (List.range' 0 totalSize).map memory }

/-- The Preprepare for the local connectivity, as the leader queues it. It has no content here. -/
def localConnectivityPreprepare (conf : Config) (cycle : UInt16) : MessageRound2Preprepare where
  header :=
    { version := versionLatest
      payloadLen := UInt32.ofNat (sizeofMessageRound2Preprepare - sizeofMessageHeader) }
  sender := UInt16.ofNat conf.sLid
  view := 0
  seq := 0
  bGid := UInt16.ofNat conf.bGid
  requestType := requestTypeLocalConnectivity
  cycle := cycle
  lastcycle := cycle - 1
  collectorSLid := 0
  numOfRound3Participants := 0
  participantsAndContent := []

/-- The Preprepare of round 3, with the ids of all BGs. -/
def round3PreprepareMessage (h : Endian) (conf : Config) (collector : Nat) (cycle : UInt16) :
    MessageRound3PreprepareBaseline where
  header :=
    { version := versionLatest
      payloadLen := UInt32.ofNat
        (sizeofMessageRound3PreprepareBaseline + 2 * conf.numBG - sizeofMessageHeader) }
  sender := UInt16.ofNat conf.bGid
  cycle := cycle
  collectorBGid := UInt16.ofNat (collector % conf.numBG)
  content := (List.range conf.numBG).flatMap fun i => u16Bytes h (UInt16.ofNat i)

def round3PartialCommitMessage (conf : Config) (cycle : UInt16) :
    MessageRound3PartialCommitBaseline where
  header :=
    { version := versionLatest
      payloadLen := UInt32.ofNat
        (sizeofMessageRound3PartialCommitBaseline - sizeofMessageHeader) }
  sender := UInt16.ofNat conf.bGid
  cycle := cycle
  signature := zeroSignature

def round3FullCommitMessage (conf : Config) (cycle : UInt16) :
    MessageRound3FullCommitBaseline where
  header :=
    { version := versionLatest
      payloadLen := UInt32.ofNat
        (sizeofMessageRound3FullCommitBaseline - sizeofMessageHeader) }
  sender := UInt16.ofNat conf.bGid
  cycle := cycle
  combinedSignature := zeroSignature

/-- The recipients of a Preprepare of round 3: the leaders of all BGs, with oneself in its place. -/
def preprepare3Peers (conf : Config) : List (Option Peer) :=
  ((List.range conf.numBG).map fun bg => if bg = conf.bGid then none else some (bg, 0)).reverse

/-- The recipients of a full commit of round 3: oneself, then the leaders of the other BGs. -/
def fullCommit3Peers (conf : Config) : List (Option Peer) :=
  none :: (((List.range conf.numBG).filter (· ≠ conf.bGid)).map fun bg => some (bg, 0)).reverse

/-! ## Round 3: fetching -/

/-- Queue one message for the senders of some requests. -/
def answerRequests (source : ReplySource) (cycle : UInt16) (m : MessageRound3FetchResponse)
    (requests : List (UInt16 × UInt16)) (s : ConnManager) : ConnManager :=
  let s := s.enqueue
    { upPeers := (requests.map requestPeer).reverse, pMessage := .common (.round3FetchResponse m) }
  { s with history := s.history ++ requests.map fun r => .answered source cycle r m }

/-- `round3_respondToPendingFetchRequests`. -/
def round3RespondToPendingFetchRequests (env : Env) (cycle : UInt16) (s : ConnManager) :
    Outcome :=
  match s.mapRound3Status cycle with
  | none => .thrown .cycleNotInRound3 s
  | some status =>
    if status.state ≠ .common .round2Committed then .thrown .unexpectedCycleState s
    else
      match s.mapRound3PendingFetchRequests cycle with
      | none => .ok s
      | some requests =>
        match status.rgMsgRound3FetchResponse env.conf.bGid with
        | none => .thrown .nullPointer s
        | some response =>
          .ok ((answerRequests .pending cycle response.copy requests s).setPending cycle [])

/-- `round3_committed`. -/
def round3Committed (cycle : UInt16) (s : ConnManager) : Outcome :=
  match s.mapRound3Status cycle with
  | none => .thrown .cycleNotInRound3 s
  | some status =>
    if status.state ≠ .common .round3Committed then .thrown .unexpectedCycleState s
    else
      .ok ({ s with
        mapRound3Status := Function.update s.mapRound3Status cycle none
        pStorage := s.pStorage ++ [cycle] }.note (.round3Committed cycle))

/-- `envoy_round3_sendFetchRequest`. Every SL is an envoy here. -/
def envoyRound3SendFetchRequest (env : Env) (ω : Choice) (cycle : UInt16) (s : ConnManager) :
    Outcome :=
  match s.mapRound3Status cycle with
  | none => .thrown .cycleNotInRound3 s
  | some status =>
    if status.state ≠ .common .round2Committed then .thrown .unexpectedCycleState s
    else if env.conf.numBG = 1 then
      round3Committed cycle
        (s.setStatus cycle (status.enter (.common .round3Committed) (.common .invalid) 0))
    else
      let s := s.setStatus cycle
        (status.enter (.common .round3WaitingForReplicatedResults) (.common .round3FetchResponse)
          (env.conf.numBG - 1))
      match status.rgMsgRound3FetchResponse env.conf.bGid with
      | none => .thrown .nullPointer s
      | some pFResp =>
        let pFReq := getRound3Request env.host pFResp
        debugThrow env (getRound3RequestCheck pFReq) s fun s =>
        .ok (s.enqueue
          { upPeers := getOneSLFromEveryRemoteBG env.conf ω.engine
            pMessage := .common (.round3FetchRequest
              { pFReq with senderSLid := UInt16.ofNat env.conf.sLid }) })

/-- `dispatcher_round3_fetchRequest`. -/
def dispatcherRound3FetchRequest (env : Env) (pFReq : MessageRound3FetchRequest)
    (s : ConnManager) : Outcome :=
  let cycle := pFReq.cycle
  let request := (pFReq.senderBGid, pFReq.senderSLid)
  match s.mapRound3Status cycle with
  | none =>
    if cycle ∈ s.pStorage then
      match s.fakeRound3ResponseForBaseline with
      | none => .thrown .nullPointer s
      | some pFake =>
        .ok (answerRequests .template cycle { pFake.copy with cycle := cycle } [request] s)
    else
      .ok (s.setPending cycle ((s.mapRound3PendingFetchRequests cycle).getD [] ++ [request]))
  | some status =>
    match status.rgMsgRound3FetchResponse env.conf.bGid with
    | none => .thrown .nullPointer s
    | some response => .ok (answerRequests .status cycle response.copy [request] s)

/-- `pLeaderRound2PendingPreprepareRaw->push`. -/
def pushPreprepare (pPreprepare : MessageRound2Preprepare) (s : ConnManager) : ConnManager :=
  { s with common := RCanopus.pushPreprepare pPreprepare s.common }

/-- `if(isRound2Leader() && canStartRound2()) leader_round2_sendPreprepare();`. -/
def spawnRound2 (env : Env) (ω : Choice) : ConnManager → Outcome :=
  shared (RCanopus.spawnRound2 env ω.engine)

/-- `dispatcher_round3_fetchResponse`. -/
def dispatcherRound3FetchResponse (env : Env) (ω : Choice)
    (pResponse : MessageRound3FetchResponse) (s : ConnManager) : Outcome :=
  let cycle := pResponse.cycle
  match s.mapRound3Status cycle with
  | none => .thrown .cycleNotInRound3 s
  | some status =>
    debugThrow env (decide (1 < env.conf.numBG)) s fun s =>
    let status := status.fill pResponse
    let s := s.setStatus cycle status
    if (List.range env.conf.numBG).all fun i => (status.rgMsgRound3FetchResponse i).isSome then
      let status := status.enter (.common .round3WaitingForLocalConnectivity)
        (.common .round2FullCommit) 1
      let s := (s.setStatus cycle status).note (.fetched cycle status)
      spawnRound2 env ω
        (if env.conf.isRound2Leader then
          pushPreprepare (localConnectivityPreprepare env.conf cycle) s
        else s)
    else spawnRound2 env ω s

/-! ## Round 3: the leaders -/

/-- `dispatcher_round3_preprepare`. -/
def dispatcherRound3Preprepare (env : Env) (pElement : QueueElement)
    (pPreprepare3 : MessageRound3PreprepareBaseline) (s : ConnManager) : Outcome :=
  let cycle := pPreprepare3.cycle
  match s.mapRound3Status cycle with
  | none => .thrown .cycleNotInRound3 s
  | some status =>
    if status.state ≠ .round3WaitingForPreprepareBaseline then .ok (s.juggle pElement)
    else
      debugThrowElseReturnVoid env
        (status.awaitingMessageType == .round3PreprepareBaseline) s fun s =>
      debugThrowElseReturnVoid env (status.messageReceivedCounter == 0) s fun s =>
      let isCollector := pPreprepare3.collectorBGid.toNat == env.conf.bGid
      let s := s.setStatus cycle
        (if isCollector then
          status.enter .round3CollectorWaitingForPartialcommitsBaseline
            .round3PartialCommitBaseline env.conf.numBG
        else
          status.enter .round3WaitingForFullcommitBaseline .round3FullCommitBaseline 1)
      let pPartialC := round3PartialCommitMessage env.conf cycle
      .ok ((s.enqueue
        { upPeers := [if isCollector then none else some (pPreprepare3.collectorBGid.toNat, 0)]
          pMessage := .round3PartialCommit pPartialC }).note
            (.sentPartialCommit pPreprepare3.collectorBGid.toNat pPartialC))

/-- `dispatcher_round3_partialCommit`. -/
def dispatcherRound3PartialCommit (env : Env) (pElement : QueueElement)
    (pPartialC3 : MessageRound3PartialCommitBaseline) (s : ConnManager) : Outcome :=
  debugThrowElseReturnVoid env env.conf.isRound2Leader s fun s =>
  let cycle := pPartialC3.cycle
  match s.mapRound3Status cycle with
  | none => .thrown .cycleNotInRound3 s
  | some status =>
    if status.state ≠ .round3CollectorWaitingForPartialcommitsBaseline then
      .ok (s.juggle pElement)
    else
      debugThrowElseReturnVoid env
        (status.awaitingMessageType == .round3PartialCommitBaseline) s fun s =>
      let status := { status with messageReceivedCounter := status.messageReceivedCounter + 1 }
      let s := s.note (.countedPartialCommit pPartialC3)
      if status.messageReceivedCounter = status.messageRequired then
        let pFullC := round3FullCommitMessage env.conf cycle
        .ok (((s.setStatus cycle
          (status.enter .round3WaitingForFullcommitBaseline .round3FullCommitBaseline 1)).enqueue
          { upPeers := fullCommit3Peers env.conf, pMessage := .round3FullCommit pFullC }).note
            (.sentFullCommit pFullC))
      else .ok (s.setStatus cycle status)

/-- `dispatcher_round3_fullCommit`. -/
def dispatcherRound3FullCommit (pElement : QueueElement)
    (pFullC3 : MessageRound3FullCommitBaseline) (s : ConnManager) : Outcome :=
  let cycle := pFullC3.cycle
  match s.mapRound3Status cycle with
  | none => .thrown .cycleNotInRound3 s
  | some status =>
    if status.state ≠ .round3WaitingForFullcommitBaseline then .ok (s.juggle pElement)
    else
      round3Committed cycle
        (s.setStatus cycle (status.enter (.common .round3Committed) (.common .invalid) 0))

/-! ## Round 2: full commits -/

/-- The Preprepare counts as committed in the history of round 2. -/
def noteCommitted (pPreprepare : MessageRound2Preprepare) (s : ConnManager) : ConnManager :=
  { s with common := s.common.note (.committed pPreprepare) }

/-- An assignment to `pRound2_current_status`. -/
def setRound2Status (status : Option RCanopus.CycleStatus) (s : ConnManager) : ConnManager :=
  { s with common := { s.common with pRound2CurrentStatus := status } }

/-- The round 2 fields are no longer needed. -/
def clearRound2 (s : ConnManager) : ConnManager :=
  { s with common := RCanopus.clearRound2 s.common }

/-- The loop over the cycles that a client Preprepare skips. `n` iterations are left. -/
def skipCycles (env : Env) (ω : Choice) (pFullC : MessageRound2FullCommit)
    (pPreprepare : MessageRound2Preprepare) (status : RCanopus.CycleStatus) :
    Nat → UInt16 → ConnManager → Outcome
  | 0, _, s => .ok s
  | n + 1, cycle, s =>
    debugThrow env false s fun s =>
    debugThrow env (s.mapRound3Status cycle).isNone s fun s =>
    let s := s.setStatus cycle
      (.ofRound2 (skippedStatus env pFullC pPreprepare status cycle))
    (round3RespondToPendingFetchRequests env cycle s).andThen fun s =>
    (envoyRound3SendFetchRequest env ω cycle s).andThen fun s =>
    skipCycles env ω pFullC pPreprepare status n (cycle + 1) s

/-- The first Preprepare makes the template for late answers. -/
def prepareFakeResponse (env : Env) (ω : Choice) (pPreprepare : MessageRound2Preprepare)
    (s : ConnManager) : ConnManager :=
  if pPreprepare.view = 1 ∧ pPreprepare.seq = 1 then
    { s with
      fakeRound3ResponseForBaseline :=
        some (fakeRound3Response env.conf ω.memory pPreprepare) }
  else s

/-- The status of a client cycle with the result of the own BG in its slot. -/
def resultStatus (env : Env) (pFullC : MessageRound2FullCommit)
    (pPreprepare : MessageRound2Preprepare) (status : RCanopus.CycleStatus) :
    RCanopus.CycleStatus :=
  { status with
    rgMsgRound3FetchResponse := Function.update status.rgMsgRound3FetchResponse
      env.conf.bGid (some (getRound3Response env.host pPreprepare pFullC
        (UInt16.ofNat env.conf.sLid) pPreprepare.cycle)) }

/-- The branch for `REQUEST_TYPE_FROM_CLIENT`. -/
def fullCommitFromClient (env : Env) (ω : Choice) (pFullC : MessageRound2FullCommit)
    (pPreprepare : MessageRound2Preprepare) (status : RCanopus.CycleStatus) (s : ConnManager)
    (common : ConnManager → Outcome) : Outcome :=
  (skipCycles env ω pFullC pPreprepare status
    (pPreprepare.cycle.toNat - (pPreprepare.lastcycle + 1).toNat) (pPreprepare.lastcycle + 1)
    (prepareFakeResponse env ω pPreprepare s)).andThen fun s =>
  let cycle := pPreprepare.cycle
  debugThrowElseReturnVoid env
    (status.rgMsgRound3FetchResponse env.conf.bGid).isNone s fun s =>
  let status := resultStatus env pFullC pPreprepare status
  let s :=
    { s with common := { s.common with
      pTemporaryStorageOfPreprepare := none, pRound2CurrentStatus := some status } }
  debugThrow env (s.mapRound3Status cycle).isNone s fun s =>
  let s := setRound2Status none (s.setStatus cycle (.ofRound2 status))
  (round3RespondToPendingFetchRequests env cycle s).andThen fun s =>
  (envoyRound3SendFetchRequest env ω cycle s).andThen common

/-- The global leader starts the last round of round 3. -/
def proposeRound3 (env : Env) (ω : Choice) (cycle : UInt16) (s : ConnManager) : ConnManager :=
  if isGlobalLeader env.conf then
    let pPreprepare3 := round3PreprepareMessage env.host env.conf ω.collector cycle
    (s.enqueue { upPeers := preprepare3Peers env.conf
                 pMessage := .round3Preprepare pPreprepare3 }).note (.sentPreprepare pPreprepare3)
  else s

/-- The branch for `REQUEST_TYPE_LOCAL_CONNECTIVITY`. -/
def fullCommitLocalConnectivity (env : Env) (ω : Choice) (pElement : QueueElement)
    (pPreprepare : MessageRound2Preprepare) (status2 : RCanopus.CycleStatus) (s : ConnManager)
    (common : ConnManager → Outcome) : Outcome :=
  let cycle := pPreprepare.cycle
  match s.mapRound3Status cycle with
  | none => .thrown .cycleNotInRound3 (noteCommitted pPreprepare s)
  | some status =>
    if status.state ≠ .common .round3WaitingForLocalConnectivity then
      -- the full commit goes back to the queue, and round 2 stays as it was
      .ok ((setRound2Status (some { status2 with state := .round2WaitingForFullcommit })
        s).juggle pElement)
    else
      let s := (noteCommitted pPreprepare s).note (.committedConnectivity cycle)
      let s := proposeRound3 env ω cycle s
      let s := clearRound2 s
      if env.conf.isRound2Leader then
        common (s.setStatus cycle
          (status.enter .round3WaitingForPreprepareBaseline .round3PreprepareBaseline 1))
      else
        (round3Committed cycle (s.setStatus cycle
          (status.enter (.common .round3Committed) (.common .invalid) 0))).andThen common

/-- `dispatcher_round2_fullCommit`. -/
def dispatcherRound2FullCommit (env : Env) (ω : Choice) (pElement : QueueElement)
    (pFullC : MessageRound2FullCommit) (s : ConnManager) : Outcome :=
  match s.common.pRound2CurrentStatus with
  | none => .ok (s.juggle pElement)
  | some status =>
    if status.state = .round2WaitingForPreprepare then .ok (s.juggle pElement)
    else
      debugThrowElseReturnVoid env (status.state == .round2WaitingForFullcommit) s fun s =>
      debugThrowElseReturnVoid env (pFullC.view == status.round2View) s fun s =>
      debugThrowElseReturnVoid env (pFullC.seq == status.round2Sequence) s fun s =>
      match s.common.pTemporaryStorageOfPreprepare with
      | none => .thrown .preprepareMissing s
      | some pPreprepare =>
        let status := { status with state := .round2Committed }
        let s := setRound2Status (some status) s
        if pPreprepare.requestType = requestTypeFromClient then
          fullCommitFromClient env ω pFullC pPreprepare status (noteCommitted pPreprepare s)
            (spawnRound2 env ω)
        else if pPreprepare.requestType = requestTypeLocalConnectivity then
          fullCommitLocalConnectivity env ω pElement pPreprepare status s (spawnRound2 env ω)
        else .thrown .messageInvalidRequestType (noteCommitted pPreprepare s)

/-! ## The dispatcher -/

/-- `dispatcher_round2`. -/
def dispatcherRound2 (env : Env) (ω : Choice) (pElement : QueueElement) (s : ConnManager) :
    Outcome :=
  if pElement.pMessage.header.version ≠ versionLatest then .thrown .messageInvalidVersion s
  else
    match pElement.pMessage with
    | .common (.empty _) =>
      shared (fun c => RCanopus.debugThrow env env.conf.isRound2Leader c
        (startRound2IfPossible env ω.engine)) s
    | .common (.round2Request m) =>
      shared (dispatcherRound2Request env ω.engine
        { upPeers := pElement.upPeers, pMessage := .round2Request m } m) s
    | .common (.round2Preprepare m) =>
      shared (dispatcherRound2Preprepare env
        { upPeers := pElement.upPeers, pMessage := .round2Preprepare m } m) s
    | .common (.round2PartialCommit m) =>
      shared (dispatcherRound2PartialCommit env
        { upPeers := pElement.upPeers, pMessage := .round2PartialCommit m } m) s
    | .common (.round2FullCommit m) => dispatcherRound2FullCommit env ω pElement m s
    | .common (.round3FetchRequest m) => dispatcherRound3FetchRequest env m s
    | .common (.round3FetchResponse m) => dispatcherRound3FetchResponse env ω m s
    | .round3Preprepare m => dispatcherRound3Preprepare env pElement m s
    | .round3PartialCommit m => dispatcherRound3PartialCommit env pElement m s
    | .round3FullCommit m => dispatcherRound3FullCommit pElement m s
    | .common _ => .thrown .messageInvalidType s

end RCanopus.Baseline
