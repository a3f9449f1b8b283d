import RCanopus.Round3

/-!
# Round 2

The dispatchers of the four round 2 messages. `dispatcher_round2_fullCommit` has one function for
each branch on the request type; each takes the common end of the dispatcher as a continuation.
-/

namespace RCanopus

/-! ## Requests -/

/-- `dispatcher_round2_request`. -/
def dispatcherRound2Request (env : Env) (ω : Choice) (pElement : QueueElement)
    (pRequest : MessageRound2Request) (s : ConnManager) : Outcome :=
  if !env.conf.isRound2Leader then
    debugThrow env false s fun s => .ok (s.enqueue pElement)
  else
    debugThrowElseReturnVoid env
      (decide (pRequest.sender.toNat < env.conf.numSL env.conf.bGid)) s fun s =>
    startRound2IfPossible env ω
      { s with
        rgLeaderBatchReceivedFrom := Function.update s.rgLeaderBatchReceivedFrom
          pRequest.sender.toNat (s.rgLeaderBatchReceivedFrom pRequest.sender.toNat + 1) }

/-! ## Preprepares -/

/-- The Preprepare is for a later view or sequence than the next one. -/
def preprepareTooEarly (s : ConnManager) (pPreprepare : MessageRound2Preprepare) : Bool :=
  decide (s.round2NextView < pPreprepare.view
    ∨ (pPreprepare.view = s.round2NextView ∧ s.round2NextSeq < pPreprepare.seq))

/-- The end of `dispatcher_round2_preprepare`: store the Preprepare and answer the collector. -/
def acceptPreprepare (env : Env) (pPreprepare : MessageRound2Preprepare) (status : CycleStatus)
    (s : ConnManager) : Outcome :=
  let isCollector := pPreprepare.collectorSLid.toNat == env.conf.sLid
  let status :=
    { status with round2Sequence := pPreprepare.seq, round2View := pPreprepare.view }
  let status :=
    if isCollector then
      status.enter .round2CollectorWaitingForPartialcommits .round2PartialCommit
        (env.conf.numSL env.conf.bGid)
    else status.enter .round2WaitingForFullcommit .round2FullCommit 1
  let s :=
    { s with
      round2NextSeq := if env.conf.isRound2Leader then s.round2NextSeq else s.round2NextSeq + 1
      round2IsCollector := isCollector
      pRound2CurrentStatus := some status }
  let s := s.enqueue
    { upPeers :=
        [if isCollector then none else localPeer env.conf pPreprepare.collectorSLid.toNat]
      pMessage := .round2PartialCommit
        (partialCommitMessage env.conf.sLid status.round2View status.round2Sequence) }
  debugThrow env s.pTemporaryStorageOfPreprepare.isNone s fun s =>
  .ok ({ s with pTemporaryStorageOfPreprepare := some pPreprepare }.note (.accepted pPreprepare))

/-- `dispatcher_round2_preprepare`. -/
def dispatcherRound2Preprepare (env : Env) (pElement : QueueElement)
    (pPreprepare : MessageRound2Preprepare) (s : ConnManager) : Outcome :=
  let status := s.pRound2CurrentStatus.getD .waitingForPreprepare
  let s := { s with pRound2CurrentStatus := some status }
  if status.awaitingMessageType ≠ .round2Preprepare then .ok (s.juggle pElement)
  else
    debugThrow env (status.messageReceivedCounter == 0) s fun s =>
    debugThrow env (status.messageRequired == 1) s fun s =>
    if preprepareTooEarly s pPreprepare then .ok (s.juggle pElement)
    else
      debugThrowElseReturnVoid env (pPreprepare.view == s.round2NextView) s fun s =>
      debugThrow env (env.conf.isRound2Leader || pPreprepare.seq == s.round2NextSeq) s fun s =>
      acceptPreprepare env pPreprepare status s

/-! ## Partial commits -/

/-- The call of `round2_verifier`. It gets `payloadLen` as the size of the message. -/
def verifyPartialCommit (env : Env) (verifier : SigVerifier)
    (pPreprepare : MessageRound2Preprepare) (pPartialC : MessageRound2PartialCommit) : Bool :=
  verifier (pPreprepare.bytes env.host) pPreprepare.header.payloadLen.toNat
    pPartialC.signature.toList sbftSignatureSize

/-- The end of `dispatcher_round2_partialCommit`: count it, and broadcast when all are there. -/
def countPartialCommit (env : Env) (pElement : QueueElement)
    (pPartialC : MessageRound2PartialCommit) (status : CycleStatus) (s : ConnManager) : Outcome :=
  let s := s.note (.counted (pElement.upPeers.head?.getD none) pPartialC status.round2View
    status.round2Sequence)
  let status := { status with messageReceivedCounter := status.messageReceivedCounter + 1 }
  if status.messageReceivedCounter = status.messageRequired then
    let pFullC := fullCommitMessage env.conf.sLid status.round2View status.round2Sequence
    .ok (({ s with
      pRound2CurrentStatus :=
        some (status.enter .round2WaitingForFullcommit .round2FullCommit 1) }.enqueue
      { upPeers := broadcastPeers env.conf, pMessage := .round2FullCommit pFullC }).note
        (.sentFullCommit pFullC status.messageReceivedCounter))
  else .ok { s with pRound2CurrentStatus := some status }

/-- `dispatcher_round2_partialCommit`. -/
def dispatcherRound2PartialCommit (env : Env) (pElement : QueueElement)
    (pPartialC : MessageRound2PartialCommit) (s : ConnManager) : Outcome :=
  match s.pRound2CurrentStatus with
  | none => .ok (s.juggle pElement)
  | some status =>
    if status.state = .round2WaitingForPreprepare then .ok (s.juggle pElement)
    else if status.round2View < pPartialC.view ∨ status.round2Sequence < pPartialC.seq then
      .ok (s.juggle pElement)
    else
      debugThrowElseReturnVoid env s.round2IsCollector s fun s =>
      debugThrowElseReturnVoid env
        (status.state == .round2CollectorWaitingForPartialcommits) s fun s =>
      debugThrowElseReturnVoid env (pPartialC.view == status.round2View) s fun s =>
      debugThrowElseReturnVoid env (pPartialC.seq == status.round2Sequence) s fun s =>
      match env.round2Verifier with
      | none => .thrown .verifierNotSet s
      | some verifier =>
        match s.pTemporaryStorageOfPreprepare with
        | none => .thrown .nullPointer s
        | some pPreprepare =>
          debugThrowElseReturnVoid env
            (verifyPartialCommit env verifier pPreprepare pPartialC) s fun s =>
          countPartialCommit env pElement pPartialC status s

/-! ## Full commits -/

/-- The status of a cycle that a client Preprepare skips, made up from the current one. -/
def skippedStatus (env : Env) (pFullC : MessageRound2FullCommit)
    (pPreprepare : MessageRound2Preprepare) (status : CycleStatus) (cycle : UInt16) :
    CycleStatus :=
  let pEmptyMsg :=
    { pPreprepare with
      participantsAndContent := pPreprepare.participantsAndContent.take
        (2 * pPreprepare.numOfRound3Participants.toNat) }
  let pFetchResponse :=
    getRound3Response env.host pEmptyMsg pFullC (UInt16.ofNat env.conf.sLid) cycle
  { CycleStatus.new with
    round2View := status.round2View
    round2Sequence := status.round2Sequence
    awaitingMessageType := status.awaitingMessageType
    state := .round2Committed
    messageReceivedCounter := status.messageReceivedCounter
    messageRequired := status.messageRequired
    rgMsgRound3FetchResponse := Function.update CycleStatus.new.rgMsgRound3FetchResponse
      env.conf.bGid (some pFetchResponse) }

/-- The loop over the cycles that a client Preprepare skips. `n` iterations are left. -/
def skipCycles (env : Env) (ω : Choice) (pFullC : MessageRound2FullCommit)
    (pPreprepare : MessageRound2Preprepare) (status : CycleStatus) :
    Nat → UInt16 → ConnManager → Outcome
  | 0, _, s => .ok s
  | n + 1, cycle, s =>
    debugThrow env false s fun s =>
    debugThrow env (s.mapRound3Status cycle).isNone s fun s =>
    let s := s.setStatus cycle (skippedStatus env pFullC pPreprepare status cycle)
    (round3RespondToPendingFetchRequests env cycle s).andThen fun s =>
    (envoyRound3SendFetchRequest env ω cycle s).andThen fun s =>
    skipCycles env ω pFullC pPreprepare status n (cycle + 1) s

/-- The branch for `REQUEST_TYPE_FROM_CLIENT`. -/
def fullCommitFromClient (env : Env) (ω : Choice) (pFullC : MessageRound2FullCommit)
    (pPreprepare : MessageRound2Preprepare) (status : CycleStatus) (s : ConnManager)
    (common : ConnManager → Outcome) : Outcome :=
  (skipCycles env ω pFullC pPreprepare status
    (pPreprepare.cycle.toNat - (pPreprepare.lastcycle + 1).toNat) (pPreprepare.lastcycle + 1)
    s).andThen fun s =>
  let cycle := pPreprepare.cycle
  let pFetchResponse :=
    getRound3Response env.host pPreprepare pFullC (UInt16.ofNat env.conf.sLid) cycle
  debugThrowElseReturnVoid env
    (status.rgMsgRound3FetchResponse env.conf.bGid).isNone s fun s =>
  let status :=
    { status with
      rgMsgRound3FetchResponse := Function.update status.rgMsgRound3FetchResponse
        env.conf.bGid (some pFetchResponse) }
  let s :=
    { s with pTemporaryStorageOfPreprepare := none, pRound2CurrentStatus := some status }
  debugThrow env (s.mapRound3Status cycle).isNone s fun s =>
  let s := { s.setStatus cycle status with pRound2CurrentStatus := none }
  (round3RespondToPendingFetchRequests env cycle s).andThen fun s =>
  (envoyRound3SendFetchRequest env ω cycle s).andThen common

/-- The round 2 fields are no longer needed. -/
def clearRound2 (s : ConnManager) : ConnManager :=
  { s with pTemporaryStorageOfPreprepare := none, pRound2CurrentStatus := none }

/-- The branch for `REQUEST_TYPE_FETCHED_RESULT`. -/
def fullCommitFetchedResult (env : Env) (pPreprepare : MessageRound2Preprepare)
    (s : ConnManager) (common : ConnManager → Outcome) : Outcome :=
  let cycle := pPreprepare.cycle
  match s.mapRound3Status cycle with
  | none => .thrown .cycleNotInRound3 s
  | some status =>
    let bg := pPreprepare.bGid.toNat
    debugThrowElseReturnVoid env (status.rgMsgRound3FetchResponse bg).isNone s fun s =>
    let status :=
      { status with
        rgMsgRound3FetchResponse := Function.update status.rgMsgRound3FetchResponse bg
          (some (unwrapFetchedResult pPreprepare)) }
    let s := clearRound2 (s.setStatus cycle status)
    debugThrow env (status.awaitingMessageType == .round3FetchResponse) s fun s =>
    let status := { status with messageReceivedCounter := status.messageReceivedCounter + 1 }
    if status.messageReceivedCounter = status.messageRequired then
      let status := status.enter .round3WaitingForLocalConnectivity .round2FullCommit 1
      let s := s.setStatus cycle status
      common
        (if env.conf.isRound2Leader then
          pushPreprepare (localConnectivityPreprepare env.host env.conf cycle
            fun i => (status.rgMsgRound3FetchResponse i).isSome) s
        else s)
    else common (s.setStatus cycle status)

/-- The branch for `REQUEST_TYPE_LOCAL_CONNECTIVITY`. -/
def fullCommitLocalConnectivity (env : Env) (ω : Choice) (pFullC : MessageRound2FullCommit)
    (pPreprepare : MessageRound2Preprepare) (s : ConnManager)
    (common : ConnManager → Outcome) : Outcome :=
  let cycle := pPreprepare.cycle
  match s.mapRound3Status cycle with
  | none => .thrown .cycleNotInRound3 s
  | some status =>
    let pConnectivityResponse :=
      getRound3Response env.host pPreprepare pFullC (UInt16.ofNat env.conf.sLid) cycle
    debugThrowElseReturnVoid env
      (status.rgMsgRound3ConnectivityResponse env.conf.bGid).isNone s fun s =>
    let status :=
      { status.enter .round3WaitingForReplicatedConnectivity .round3ConnectivityResponse
          (env.conf.numBG - 1) with
        rgMsgRound3ConnectivityResponse :=
          Function.update status.rgMsgRound3ConnectivityResponse env.conf.bGid
            (some pConnectivityResponse) }
    let s := clearRound2 (s.setStatus cycle status)
    (round3RespondToPendingFetchConnectivityRequests env cycle s).andThen fun s =>
    (envoyRound3SendFetchConnectivityRequest env ω cycle s).andThen common

/-- The branch for `REQUEST_TYPE_REMOTE_CONNECTIVITY`, which nothing proposes. -/
def fullCommitRemoteConnectivity (env : Env) (pPreprepare : MessageRound2Preprepare)
    (s : ConnManager) (common : ConnManager → Outcome) : Outcome :=
  debugThrow env false s fun s =>
  let cycle := pPreprepare.cycle
  match s.mapRound3Status cycle with
  | none => .thrown .cycleNotInRound3 s
  | some status =>
    let bg := pPreprepare.bGid.toNat
    debugThrowElseReturnVoid env (status.rgMsgRound3FetchResponse bg).isNone s fun s =>
    let status :=
      { status with
        rgMsgRound3FetchResponse := Function.update status.rgMsgRound3FetchResponse bg
          (some (unwrapFetchedResult pPreprepare)) }
    let s := clearRound2 (s.setStatus cycle status)
    debugThrow env (status.state == .round3WaitingForReplicatedConnectivity) s fun s =>
    debugThrow env (status.awaitingMessageType == .round3ConnectivityResponse) s fun s =>
    let status := { status with messageReceivedCounter := status.messageReceivedCounter + 1 }
    -- the Preprepare that the leader allocates here is not pushed anywhere
    common (s.setStatus cycle
      (if status.messageReceivedCounter = status.messageRequired then
        status.enter .round3WaitingForLocalMembership .round2FullCommit 1
      else status))

/-- The branch for `REQUEST_TYPE_LOCAL_MEMBERSHIP`. -/
def fullCommitLocalMembership (env : Env) (ω : Choice) (pPreprepare : MessageRound2Preprepare)
    (s : ConnManager) (common : ConnManager → Outcome) : Outcome :=
  let cycle := pPreprepare.cycle
  match s.mapRound3Status cycle with
  | none => .thrown .cycleNotInRound3 s
  | some status =>
    debugThrowElseReturnVoid env
      (status.rgMsgRound3MembershipResponse env.conf.bGid).isNone s fun s =>
    let status :=
      { status.enter .round3WaitingForReplicatedMembership .round3MembershipResponse
          (env.conf.numBG - 1) with
        rgMsgRound3MembershipResponse :=
          Function.update status.rgMsgRound3MembershipResponse env.conf.bGid
            (some (membershipResponse env.conf cycle)) }
    let s := clearRound2 (s.setStatus cycle status)
    (round3RespondToPendingFetchMembershipRequests env cycle s).andThen fun s =>
    (envoyRound3SendFetchMembershipRequest env ω cycle s).andThen common

/-! ### The vote tally -/

/-- Offsets of `totalBGnum` and `connectivity` in a membership message. -/
def totalBGnumOffset : Nat := 46

def connectivityOffset : Nat := 48

/-- The votes so far, and whether all checks on the way held. -/
structure Tally where
  votes : Nat → Nat
  checks : Bool

/-- One entry of the matrix: a vote for `j`, or a failed check. -/
def tallyEntry (buf : List UInt8) (totalBGnum i : Nat) (t : Tally) (j : Nat) : Tally :=
  if buf.getD (connectivityOffset + (i * totalBGnum + j)) 0 ≠ 0 then
    { t with votes := Function.update t.votes j (t.votes j + 1) }
  else { t with checks := false }

/-- The two loops over the matrix of the membership message at the start of `buf`. -/
def tallyMessage (h : Endian) (numBG : Nat) (buf : List UInt8) (t : Tally) : Tally :=
  let totalBGnum := (u16At h buf totalBGnumOffset).toNat
  let t := { t with checks := t.checks && totalBGnum == numBG }
  (List.range totalBGnum).foldl
    (fun t i => (List.range totalBGnum).foldl (tallyEntry buf totalBGnum i) t) t

/-- The size by which the outer loop moves on. -/
def membershipStep (h : Endian) (buf : List UInt8) : Nat :=
  sizeofMessageHeader + (u32At h buf 4).toNat

/--
The loop over the concatenated membership messages. `buf` is what is left before `end`, and each
iteration takes at least a header off it, so its length is enough fuel. The result also says
whether the loop ended with `pos == end`.
-/
def tallyLoop (h : Endian) (numBG : Nat) : Nat → List UInt8 → Tally → Tally × Bool
  | 0, buf, t => (t, buf.isEmpty)
  | fuel + 1, buf, t =>
    if buf.isEmpty then (t, true)
    else
      let t := tallyMessage h numBG buf t
      if buf.length < membershipStep h buf then (t, false)
      else tallyLoop h numBG fuel (buf.drop (membershipStep h buf)) t

/-- The content between `participantsAndContent` and `end`, empty when `end` comes first. -/
def tallyContent (pPreprepare : MessageRound2Preprepare) : List UInt8 :=
  pPreprepare.participantsAndContent.take
    (pPreprepare.header.getMessageSize - sizeofMessageRound2Preprepare)

/-- The votes of a full membership Preprepare, and whether the loop ended with `pos == end`. -/
def tallyVotes (h : Endian) (numBG : Nat) (pPreprepare : MessageRound2Preprepare) :
    Tally × Bool :=
  let r := tallyLoop h numBG (tallyContent pPreprepare).length (tallyContent pPreprepare)
    { votes := fun _ => 0, checks := true }
  (r.1, r.2 && decide (sizeofMessageRound2Preprepare ≤ pPreprepare.header.getMessageSize))

/-- The branch for `REQUEST_TYPE_FULL_MEMBERSHIP`. -/
def fullCommitFullMembership (env : Env) (pPreprepare : MessageRound2Preprepare)
    (s : ConnManager) (common : ConnManager → Outcome) : Outcome :=
  let cycle := pPreprepare.cycle
  match s.mapRound3Status cycle with
  | none => .thrown .cycleNotInRound3 s
  | some status =>
    let s := s.setStatus cycle (status.enter .round3Committed .invalid 0)
    let tally := tallyVotes env.host env.conf.numBG pPreprepare
    debugThrow env tally.1.checks s fun s =>
    debugThrow env tally.2 s fun s =>
    (round3Committed cycle (clearRound2 s)).andThen common

/-! ### The dispatcher -/

/-- The branch on the request type of the Preprepare that is being committed. -/
def fullCommitBranch (env : Env) (ω : Choice) (pFullC : MessageRound2FullCommit)
    (pPreprepare : MessageRound2Preprepare) (status : CycleStatus) (s : ConnManager)
    (common : ConnManager → Outcome) : Outcome :=
  if pPreprepare.requestType = requestTypeFromClient then
    fullCommitFromClient env ω pFullC pPreprepare status s common
  else if pPreprepare.requestType = requestTypeFetchedResult then
    fullCommitFetchedResult env pPreprepare s common
  else if pPreprepare.requestType = requestTypeLocalConnectivity then
    fullCommitLocalConnectivity env ω pFullC pPreprepare s common
  else if pPreprepare.requestType = requestTypeRemoteConnectivity then
    fullCommitRemoteConnectivity env pPreprepare s common
  else if pPreprepare.requestType = requestTypeLocalMembership then
    fullCommitLocalMembership env ω pPreprepare s common
  else if pPreprepare.requestType = requestTypeFullMembership then
    fullCommitFullMembership env pPreprepare s common
  else .thrown .messageInvalidRequestType s

/-- The common end: spawn a new round 2 if possible. -/
def spawnRound2 (env : Env) (ω : Choice) (s : ConnManager) : Outcome :=
  if env.conf.isRound2Leader then startRound2IfPossible env ω s else .ok s

/-- `dispatcher_round2_fullCommit`. -/
def dispatcherRound2FullCommit (env : Env) (ω : Choice) (pElement : QueueElement)
    (pFullC : MessageRound2FullCommit) (s : ConnManager) : Outcome :=
  match s.pRound2CurrentStatus with
  | none => .ok (s.juggle pElement)
  | some status =>
    if status.state = .round2WaitingForPreprepare then .ok (s.juggle pElement)
    else
      debugThrowElseReturnVoid env (status.state == .round2WaitingForFullcommit) s fun s =>
      debugThrowElseReturnVoid env (pFullC.view == status.round2View) s fun s =>
      debugThrowElseReturnVoid env (pFullC.seq == status.round2Sequence) s fun s =>
      match s.pTemporaryStorageOfPreprepare with
      | none => .thrown .preprepareMissing s
      | some pPreprepare =>
        let status := { status with state := .round2Committed }
        let s := { s with pRound2CurrentStatus := some status }.note (.committed pPreprepare)
        fullCommitBranch env ω pFullC pPreprepare status s (spawnRound2 env ω)

/-! ## The dispatcher -/

/-- `dispatcher_round2`. -/
def dispatcherRound2 (env : Env) (ω : Choice) (pElement : QueueElement) (s : ConnManager) :
    Outcome :=
  if pElement.pMessage.header.version ≠ versionLatest then .thrown .messageInvalidVersion s
  else
    match pElement.pMessage with
    | .empty _ =>
      debugThrow env env.conf.isRound2Leader s fun s => startRound2IfPossible env ω s
    | .round2Request m => dispatcherRound2Request env ω pElement m s
    | .round2Preprepare m => dispatcherRound2Preprepare env pElement m s
    | .round2PartialCommit m => dispatcherRound2PartialCommit env pElement m s
    | .round2FullCommit m => dispatcherRound2FullCommit env ω pElement m s
    | .round3FetchRequest m => dispatcherRound3FetchRequest env m s
    | .round3FetchResponse m => dispatcherRound3FetchResponse env ω pElement m s
    | .round3GeneralFetch m => dispatcherRound3GeneralFetchRequest env pElement m s
    | .round3ConnectivityResponse m => dispatcherRound3FetchConnectivityResponse env ω pElement m s
    | .round3MembershipResponse m => dispatcherRound3FetchMembershipResponse env ω pElement m s
    | .hello _ => .thrown .messageInvalidType s

end RCanopus
