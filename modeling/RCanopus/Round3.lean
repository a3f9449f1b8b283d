import RCanopus.Leader

/-!
# Round 3

The envoys' requests, the answers to them and `round3_committed`. The functions for the three
kinds of requests differ in little, so each kind is a value of `FetchKind` for one definition.
-/

namespace RCanopus

/-- The own answer of an SL to a kind of request, once it is there. -/
def ownResponse (conf : Config) (kind : FetchKind) (status : CycleStatus) : Option Message :=
  match kind with
  | .result => (status.rgMsgRound3FetchResponse conf.bGid).map .round3FetchResponse
  | .connectivity =>
    (status.rgMsgRound3ConnectivityResponse conf.bGid).map .round3ConnectivityResponse
  | .membership =>
    (status.rgMsgRound3MembershipResponse conf.bGid).map .round3MembershipResponse

/-- The connection to the sender of a request. -/
def requestPeer (r : UInt16 × UInt16) : Option Peer := some (r.1.toNat, r.2.toNat)

/-- Queue one message for the senders of some requests of a kind. -/
def answerRequests (kind : FetchKind) (cycle : UInt16) (m : Message)
    (requests : List (UInt16 × UInt16)) (s : ConnManager) : ConnManager :=
  let s := s.enqueue { upPeers := (requests.map requestPeer).reverse, pMessage := m }
  { s with history := s.history ++ requests.map fun r => .answered kind cycle r m }

/-! ## Envoys -/

/-- Offset of `participantsAndContent`, the list of envoys. -/
def participantsOffset : Nat := 26

/-- `isPrimaryEnvoyRound3`. -/
def isPrimaryEnvoyRound3 (env : Env) (cycle : UInt16) (s : ConnManager)
    (k : Bool → Outcome) : Outcome :=
  match s.mapRound3Status cycle with
  | none => .thrown .cycleNotInRound3 s
  | some status =>
    match status.rgMsgRound3FetchResponse env.conf.bGid with
    | none => .thrown .nullPointer s
    | some pFetchResponse =>
      let pPreprepare := pFetchResponse.entirePreprepareMsg
      if u16At env.host pPreprepare preprepareNumOfRound3ParticipantsOffset = 0 then
        .thrown .noEnvoySelected s
      else k ((u16At env.host pPreprepare participantsOffset).toNat == env.conf.sLid)

/-- `isBackupEnvoyRound3`. -/
def isBackupEnvoyRound3 (env : Env) (cycle : UInt16) (s : ConnManager)
    (k : Bool → Outcome) : Outcome :=
  match s.mapRound3Status cycle with
  | none => .thrown .cycleNotInRound3 s
  | some status =>
    match status.rgMsgRound3FetchResponse env.conf.bGid with
    | none => .thrown .nullPointer s
    | some pFetchResponse =>
      let pPreprepare := pFetchResponse.entirePreprepareMsg
      let numEnvoy := (u16At env.host pPreprepare preprepareNumOfRound3ParticipantsOffset).toNat
      if numEnvoy = 0 then .thrown .noEnvoySelected s
      else
        k (((List.range numEnvoy).filter (1 ≤ ·)).any fun i =>
          (u16At env.host pPreprepare (participantsOffset + 2 * i)).toNat == env.conf.sLid)

/-- The request is queued for one SL of every remote BG. -/
def sendToRemoteBGs (env : Env) (ω : Choice) (m : Message) (s : ConnManager) : Outcome :=
  .ok (s.enqueue { upPeers := getOneSLFromEveryRemoteBG env.conf ω, pMessage := m })

/-- The primary envoy sends, and a backup envoy does nothing: retries are not implemented. -/
def ifPrimaryEnvoy (env : Env) (cycle : UInt16) (s : ConnManager)
    (send : ConnManager → Outcome) : Outcome :=
  isPrimaryEnvoyRound3 env cycle s fun primary =>
  if primary then send s else isBackupEnvoyRound3 env cycle s fun _ => .ok s

/-- `round3_committed`. -/
def round3Committed (cycle : UInt16) (s : ConnManager) : Outcome :=
  match s.mapRound3Status cycle with
  | none => .thrown .cycleNotInRound3 s
  | some status =>
    if status.state ≠ .round3Committed then .thrown .unexpectedCycleState s
    else
      .ok ({ s with
        mapRound3Status := Function.update s.mapRound3Status cycle none
        pStorage := s.pStorage ++ [cycle] }.note (.round3Committed cycle status))

/-- `envoy_round3_sendFetchRequest`. -/
def envoyRound3SendFetchRequest (env : Env) (ω : Choice) (cycle : UInt16) (s : ConnManager) :
    Outcome :=
  match s.mapRound3Status cycle with
  | none => .thrown .cycleNotInRound3 s
  | some status =>
    if status.state ≠ .round2Committed then .thrown .unexpectedCycleState s
    else if env.conf.numBG = 1 then
      round3Committed cycle (s.setStatus cycle (status.enter .round3Committed .invalid 0))
    else
      let s := s.setStatus cycle
        (status.enter .round3WaitingForReplicatedResults .round3FetchResponse
          (env.conf.numBG - 1))
      ifPrimaryEnvoy env cycle s fun s =>
      match status.rgMsgRound3FetchResponse env.conf.bGid with
      | none => .thrown .nullPointer s
      | some pFResp =>
        let pFReq := getRound3Request env.host pFResp
        debugThrow env (getRound3RequestCheck pFReq) s fun s =>
        sendToRemoteBGs env ω
          (.round3FetchRequest { pFReq with senderSLid := UInt16.ofNat env.conf.sLid }) s

/-- The common body of the two functions below. -/
def envoyRound3SendGeneralFetch (demanded : MessageType) (env : Env) (ω : Choice)
    (cycle : UInt16) (s : ConnManager) : Outcome :=
  match s.mapRound3Status cycle with
  | none => .thrown .cycleNotInRound3 s
  | some _ =>
    debugThrow env (decide (1 < env.conf.numBG)) s fun s =>
    ifPrimaryEnvoy env cycle s
      (sendToRemoteBGs env ω (.round3GeneralFetch (generalFetchMessage env.conf cycle demanded)))

/-- `envoy_round3_sendFetchConnectivityRequest`. -/
def envoyRound3SendFetchConnectivityRequest : Env → Choice → UInt16 → ConnManager → Outcome :=
  envoyRound3SendGeneralFetch .round3ConnectivityResponse

/-- `envoy_round3_sendFetchMembershipRequest`. -/
def envoyRound3SendFetchMembershipRequest : Env → Choice → UInt16 → ConnManager → Outcome :=
  envoyRound3SendGeneralFetch .round3MembershipResponse

/-! ## Pending requests -/

/-- The common end of the three functions below: answer what waits for the cycle. -/
def respondToPending (kind : FetchKind) (env : Env) (cycle : UInt16) (status : CycleStatus)
    (s : ConnManager) : Outcome :=
  match s.mapRound3PendingRequests kind cycle with
  | none => .ok s
  | some requests =>
    match ownResponse env.conf kind status with
    | none => .thrown .nullPointer s
    | some response =>
      .ok ((answerRequests kind cycle response.copy requests s).setPending kind cycle [])

/-- `round3_respondToPendingFetchRequests`. -/
def round3RespondToPendingFetchRequests (env : Env) (cycle : UInt16) (s : ConnManager) :
    Outcome :=
  match s.mapRound3Status cycle with
  | none => .thrown .cycleNotInRound3 s
  | some status =>
    if status.state ≠ .round2Committed then .thrown .unexpectedCycleState s
    else respondToPending .result env cycle status s

/-- `round3_respondToPendingFetchConnectivityRequests`. -/
def round3RespondToPendingFetchConnectivityRequests (env : Env) (cycle : UInt16)
    (s : ConnManager) : Outcome :=
  match s.mapRound3Status cycle with
  | none => .thrown .cycleNotInRound3 s
  | some status => respondToPending .connectivity env cycle status s

/-- `round3_respondToPendingFetchMembershipRequests`. -/
def round3RespondToPendingFetchMembershipRequests (env : Env) (cycle : UInt16)
    (s : ConnManager) : Outcome :=
  match s.mapRound3Status cycle with
  | none => .thrown .cycleNotInRound3 s
  | some status => respondToPending .membership env cycle status s

/-! ## Requests -/

/-- A request waits for its cycle. -/
def pushPending (kind : FetchKind) (cycle : UInt16) (request : UInt16 × UInt16)
    (s : ConnManager) : ConnManager :=
  s.setPending kind cycle ((s.mapRound3PendingRequests kind cycle).getD [] ++ [request])

/-- `dispatcher_round3_fetchRequest`. -/
def dispatcherRound3FetchRequest (env : Env) (pFReq : MessageRound3FetchRequest)
    (s : ConnManager) : Outcome :=
  let cycle := pFReq.cycle
  match s.mapRound3Status cycle with
  | none =>
    if cycle ∈ s.pStorage then debugThrowElseReturnVoid env false s .ok
    else .ok (pushPending .result cycle (pFReq.senderBGid, pFReq.senderSLid) s)
  | some status =>
    match ownResponse env.conf .result status with
    | none => .thrown .nullPointer s
    | some response =>
      .ok (answerRequests .result cycle response.copy [(pFReq.senderBGid, pFReq.senderSLid)] s)

/-- What the two dispatchers below do for a cycle that is in round 3. -/
def answerOrPush (kind : FetchKind) (env : Env) (pFetch : MessageRound3GeneralFetch)
    (status : CycleStatus) (s : ConnManager) : ConnManager :=
  match ownResponse env.conf kind status with
  | none => pushPending kind pFetch.cycle (pFetch.senderBGid, pFetch.senderSLid) s
  | some response =>
    answerRequests kind pFetch.cycle response.copy [(pFetch.senderBGid, pFetch.senderSLid)] s

/-- `dispatcher_round3_fetchConnectivityRequest`. -/
def dispatcherRound3FetchConnectivityRequest (env : Env) (pElement : QueueElement)
    (pFetch : MessageRound3GeneralFetch) (s : ConnManager) : Outcome :=
  match s.mapRound3Status pFetch.cycle with
  | none => .ok (s.juggle pElement)
  | some status => .ok (answerOrPush .connectivity env pFetch status s)

/-- `dispatcher_round3_fetchMembershipRequest`. -/
def dispatcherRound3FetchMembershipRequest (env : Env) (pFetch : MessageRound3GeneralFetch)
    (s : ConnManager) : Outcome :=
  let cycle := pFetch.cycle
  match s.mapRound3Status cycle with
  | none =>
    debugThrow env (decide (cycle ∈ s.pStorage)) s fun s =>
    .ok (answerRequests .membership cycle
      (.round3MembershipResponse (fakeMembershipResponse env.conf cycle))
      [(pFetch.senderBGid, pFetch.senderSLid)] s)
  | some status => .ok (answerOrPush .membership env pFetch status s)

/-- `dispatcher_round3_generalFetchRequest`. -/
def dispatcherRound3GeneralFetchRequest (env : Env) (pElement : QueueElement)
    (pFetch : MessageRound3GeneralFetch) (s : ConnManager) : Outcome :=
  if pFetch.msgTypeDemanded = MessageType.round3ConnectivityResponse.code then
    dispatcherRound3FetchConnectivityRequest env pElement pFetch s
  else if pFetch.msgTypeDemanded = MessageType.round3MembershipResponse.code then
    dispatcherRound3FetchMembershipRequest env pFetch s
  else .thrown .messageInvalidType s

/-! ## Responses -/

/-- A response is handed over to the leader. -/
def forwardToLeader (env : Env) (pElement : QueueElement) (s : ConnManager) : Outcome :=
  .ok (s.enqueue { pElement with upPeers := [localPeer env.conf 0] })

/-- `pLeaderRound2PendingPreprepareRaw->push`. -/
def pushPreprepare (pPreprepare : MessageRound2Preprepare) (s : ConnManager) : ConnManager :=
  { s with
    pLeaderRound2PendingPreprepareRaw := s.pLeaderRound2PendingPreprepareRaw ++ [pPreprepare] }

/-- `dispatcher_round3_fetchResponse`. -/
def dispatcherRound3FetchResponse (env : Env) (ω : Choice) (pElement : QueueElement)
    (pFResp : MessageRound3FetchResponse) (s : ConnManager) : Outcome :=
  if !env.conf.isRound2Leader then forwardToLeader env pElement s
  else
    startRound2IfPossible env ω
      (pushPreprepare (fetchedResultPreprepare env.conf.sLid pFResp) s)

/-- `dispatcher_round3_fetchConnectivityResponse`. -/
def dispatcherRound3FetchConnectivityResponse (env : Env) (ω : Choice) (pElement : QueueElement)
    (pConn : MessageRound3FetchResponse) (s : ConnManager) : Outcome :=
  if !env.conf.isRound2Leader then forwardToLeader env pElement s
  else
    match s.mapRound3Status pConn.cycle with
    | none => .thrown .cycleNotInRound3 s
    | some status =>
      if status.awaitingMessageType ≠ .round3ConnectivityResponse then .ok (s.juggle pElement)
      else
        let status :=
          { status with
            rgMsgRound3ConnectivityResponse :=
              Function.update status.rgMsgRound3ConnectivityResponse pConn.senderBGid.toNat
                (some pConn)
            messageReceivedCounter := status.messageReceivedCounter + 1 }
        let s := s.setStatus pConn.cycle status
        let s :=
          if status.messageReceivedCounter = status.messageRequired then
            pushPreprepare (localMembershipPreprepare env.conf pConn) s
          else s
        startRound2IfPossible env ω s

/-- The membership responses in the slots of a status, in the order of the BGs. -/
def membershipSlots (conf : Config) (status : CycleStatus) : List MessageRound3FullMembership :=
  (List.range conf.numBG).filterMap status.rgMsgRound3MembershipResponse

/-- `dispatcher_round3_fetchMembershipResponse`. -/
def dispatcherRound3FetchMembershipResponse (env : Env) (ω : Choice) (pElement : QueueElement)
    (pMembership : MessageRound3FullMembership) (s : ConnManager) : Outcome :=
  if !env.conf.isRound2Leader then forwardToLeader env pElement s
  else
    let cycle := pMembership.cycle
    match s.mapRound3Status cycle with
    | none => .thrown .cycleNotInRound3 s
    | some status =>
      if status.state ≠ .round3WaitingForReplicatedMembership then .ok (s.juggle pElement)
      else
        debugThrowElseReturnVoid env
          (status.rgMsgRound3MembershipResponse pMembership.senderBGid.toNat).isNone s fun s =>
        debugThrow env (status.awaitingMessageType == .round3MembershipResponse) s fun s =>
        let status :=
          { status with
            rgMsgRound3MembershipResponse :=
              Function.update status.rgMsgRound3MembershipResponse pMembership.senderBGid.toNat
                (some pMembership)
            messageReceivedCounter := status.messageReceivedCounter + 1 }
        let s := s.setStatus cycle status
        if status.messageReceivedCounter = status.messageRequired then
          startRound2IfPossible env ω
            (pushPreprepare (fullMembershipPreprepare env.host env.conf cycle
              (membershipSlots env.conf status)) s)
        else .ok s

end RCanopus
