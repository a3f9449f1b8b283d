import RCanopus.LeaderSpec
import RCanopus.Round2

/-!
# What one commit does in round 3

The branches of `dispatcher_round2_fullCommit` when their checks hold.
-/

namespace RCanopus

variable {env : Env} {ω : Choice} {s : ConnManager} {p : MessageRound2Preprepare}
  {m : MessageRound2FullCommit} {status : CycleStatus} {common : ConnManager → Outcome}

/-! ## The branches -/

theorem fullCommitBranch_fromClient (h : p.requestType = requestTypeFromClient) :
    fullCommitBranch env ω m p status s common
      = fullCommitFromClient env ω m p status s common := if_pos h

theorem fullCommitBranch_fetchedResult (h : p.requestType = requestTypeFetchedResult) :
    fullCommitBranch env ω m p status s common = fullCommitFetchedResult env p s common := by
  unfold fullCommitBranch
  rw [h]
  rfl

theorem fullCommitBranch_localConnectivity (h : p.requestType = requestTypeLocalConnectivity) :
    fullCommitBranch env ω m p status s common
      = fullCommitLocalConnectivity env ω m p s common := by
  unfold fullCommitBranch
  rw [h]
  rfl

theorem fullCommitBranch_localMembership (h : p.requestType = requestTypeLocalMembership) :
    fullCommitBranch env ω m p status s common
      = fullCommitLocalMembership env ω p s common := by
  unfold fullCommitBranch
  rw [h]
  rfl

theorem fullCommitBranch_fullMembership (h : p.requestType = requestTypeFullMembership) :
    fullCommitBranch env ω m p status s common = fullCommitFullMembership env p s common := by
  unfold fullCommitBranch
  rw [h]
  rfl

/-! ## Client cycles -/

/-- Nobody waits for the answer. -/
theorem respondToPending_none {kind : FetchKind} {cycle : UInt16}
    (h : s.mapRound3PendingRequests kind cycle = none) :
    respondToPending kind env cycle status s = .ok s := by
  unfold respondToPending
  rw [h]

/-- The status of a client cycle when it enters round 3. -/
def clientStatus (env : Env) (m : MessageRound2FullCommit) (p : MessageRound2Preprepare)
    (status : CycleStatus) : CycleStatus :=
  { status with
    rgMsgRound3FetchResponse := Function.update status.rgMsgRound3FetchResponse env.conf.bGid
      (some (getRound3Response env.host p m (UInt16.ofNat env.conf.sLid) p.cycle)) }

/-- The state in which a client cycle enters round 3. -/
def enterRound3 (env : Env) (m : MessageRound2FullCommit) (p : MessageRound2Preprepare)
    (status : CycleStatus) (s : ConnManager) : ConnManager :=
  clearRound2 (s.setStatus p.cycle (clientStatus env m p status))

/-- A client Preprepare that skips no cycle enters round 3. -/
theorem fullCommitFromClient_eq (hcycle : p.lastcycle + 1 = p.cycle)
    (hslot : status.rgMsgRound3FetchResponse env.conf.bGid = none)
    (hstate : status.state = .round2Committed) (hnew : s.mapRound3Status p.cycle = none) :
    fullCommitFromClient env ω m p status s common
      = (respondToPending .result env p.cycle (clientStatus env m p status)
          (enterRound3 env m p status s)).andThen fun s =>
        (envoyRound3SendFetchRequest env ω p.cycle s).andThen common := by
  unfold fullCommitFromClient
  rw [hcycle, Nat.sub_self]
  unfold skipCycles
  rw [Outcome.andThen_ok]
  dsimp only
  rw [hslot, Option.isNone_none, debugThrowElseReturnVoid_true]
  have hnew' : ∀ st, ({ s with
      pTemporaryStorageOfPreprepare := none
      pRound2CurrentStatus := st } : ConnManager).mapRound3Status p.cycle = none := fun _ => hnew
  rw [hnew' (some (clientStatus env m p status)), Option.isNone_none, debugThrow_true]
  have hget : (enterRound3 env m p status s).mapRound3Status p.cycle
      = some (clientStatus env m p status) := Function.update_self ..
  have hrespond : round3RespondToPendingFetchRequests env p.cycle (enterRound3 env m p status s)
      = respondToPending .result env p.cycle (clientStatus env m p status)
        (enterRound3 env m p status s) := by
    unfold round3RespondToPendingFetchRequests
    rw [hget]
    exact if_neg fun h => h hstate
  rw [← hrespond]
  rfl

/-! ## The end of a cycle -/

/-- The cycle has gone to the storage and its status is erased. -/
def commitCycle (cycle : UInt16) (status : CycleStatus) (s : ConnManager) : ConnManager :=
  { s with
    mapRound3Status := Function.update s.mapRound3Status cycle none
    pStorage := s.pStorage ++ [cycle] }.note (.round3Committed cycle status)

theorem round3Committed_eq {cycle : UInt16} (hget : s.mapRound3Status cycle = some status)
    (hstate : status.state = .round3Committed) :
    round3Committed cycle s = .ok (commitCycle cycle status s) := by
  unfold round3Committed
  rw [hget]
  exact if_neg fun h => h hstate

/-- A single BG has nothing to fetch, and the cycle ends at once. -/
theorem envoyRound3SendFetchRequest_single {cycle : UInt16} (hsingle : env.conf.numBG = 1)
    (hget : s.mapRound3Status cycle = some status) (hstate : status.state = .round2Committed) :
    envoyRound3SendFetchRequest env ω cycle s
      = .ok (commitCycle cycle (status.enter .round3Committed .invalid 0) s) := by
  unfold envoyRound3SendFetchRequest
  rw [hget]
  dsimp only
  rw [if_neg fun h => h hstate, if_pos hsingle, round3Committed_eq (Function.update_self ..) rfl]
  unfold commitCycle ConnManager.setStatus
  dsimp only
  rw [Function.update_idem]

/-! ## Fetched results -/

/-- The status of a cycle after a result was stored. -/
def CycleStatus.fillResult (status : CycleStatus) (A : Nat) (r : MessageRound3FetchResponse) :
    CycleStatus :=
  { status with
    rgMsgRound3FetchResponse := Function.update status.rgMsgRound3FetchResponse A (some r)
    messageReceivedCounter := status.messageReceivedCounter + 1 }

/-- The status after a result was stored, which may have been the last. -/
def CycleStatus.collect (status : CycleStatus) (A : Nat) (r : MessageRound3FetchResponse) :
    CycleStatus :=
  if status.messageReceivedCounter + 1 = status.messageRequired then
    (status.fillResult A r).enter .round3WaitingForLocalConnectivity .round2FullCommit 1
  else status.fillResult A r

/-- What the leader queues after the last result was stored. -/
def collectedNews (env : Env) (p : MessageRound2Preprepare) (status : CycleStatus) :
    List MessageRound2Preprepare :=
  if status.messageReceivedCounter + 1 = status.messageRequired ∧ env.conf.isRound2Leader then
    [localConnectivityPreprepare env.host env.conf p.cycle fun i =>
      ((status.fillResult p.bGid.toNat (unwrapFetchedResult p)).rgMsgRound3FetchResponse i).isSome]
  else []

/-- The state after a status has changed in a commit, which may queue some news. -/
def afterNews (cycle : UInt16) (status : CycleStatus) (queued : List MessageRound2Preprepare)
    (s : ConnManager) : ConnManager :=
  let s := clearRound2 (s.setStatus cycle status)
  { s with
    pLeaderRound2PendingPreprepareRaw := s.pLeaderRound2PendingPreprepareRaw ++ queued }

@[simp] theorem afterNews_status {cycle : UInt16} {queued : List MessageRound2Preprepare} :
    (afterNews cycle status queued s).mapRound3Status cycle = some status :=
  Function.update_self ..

theorem fullCommitFetchedResult_eq (hget : s.mapRound3Status p.cycle = some status)
    (hslot : status.rgMsgRound3FetchResponse p.bGid.toNat = none)
    (hawaiting : status.awaitingMessageType = .round3FetchResponse) :
    fullCommitFetchedResult env p s common
      = common (afterNews p.cycle (status.collect p.bGid.toNat (unwrapFetchedResult p))
          (collectedNews env p status) s) := by
  have hbeq : (status.awaitingMessageType == .round3FetchResponse) = true := by
    rw [hawaiting]
    rfl
  unfold fullCommitFetchedResult
  dsimp only
  rw [hget]
  dsimp only
  rw [hslot, Option.isNone_none, debugThrowElseReturnVoid_true, hbeq, debugThrow_true]
  unfold CycleStatus.collect collectedNews afterNews
  by_cases hlast : status.messageReceivedCounter + 1 = status.messageRequired
  · rw [if_pos hlast, if_pos hlast]
    cases hleader : env.conf.isRound2Leader with
    | true =>
      rw [if_pos rfl, if_pos ⟨hlast, rfl⟩]
      unfold pushPreprepare clearRound2 ConnManager.setStatus
      dsimp only
      rw [Function.update_idem]
      rfl
    | false =>
      rw [if_neg Bool.false_ne_true, if_neg fun h => Bool.false_ne_true h.2]
      unfold clearRound2 ConnManager.setStatus
      dsimp only
      rw [Function.update_idem, List.append_nil]
      rfl
  · rw [if_neg hlast, if_neg hlast, if_neg fun h => hlast h.1]
    unfold clearRound2 ConnManager.setStatus
    dsimp only
    rw [Function.update_idem, List.append_nil]
    rfl

/-! ## The full membership -/

theorem fullCommitFullMembership_eq (hget : s.mapRound3Status p.cycle = some status)
    (hchecks : (tallyVotes env.host env.conf.numBG p).1.checks = true)
    (hend : (tallyVotes env.host env.conf.numBG p).2 = true) :
    fullCommitFullMembership env p s common
      = common (commitCycle p.cycle (status.enter .round3Committed .invalid 0)
          (clearRound2 s)) := by
  have hcommitted : round3Committed p.cycle
      (clearRound2 (s.setStatus p.cycle (status.enter .round3Committed .invalid 0))) = _ :=
    round3Committed_eq (Function.update_self ..) rfl
  unfold fullCommitFullMembership
  dsimp only
  rw [hget]
  dsimp only
  rw [hchecks, debugThrow_true, hend, debugThrow_true, hcommitted, Outcome.andThen_ok]
  unfold commitCycle clearRound2 ConnManager.setStatus
  dsimp only
  rw [Function.update_idem]

/-! ## Triggers

A commit of one of three types makes an own answer ready. The SL sends it to those who wait for it
and, if it is the primary envoy, asks the other BGs.
-/

/-- The state after the pending requests of a kind were answered. -/
def respond (kind : FetchKind) (cycle : UInt16) (response : Message) (s : ConnManager) :
    ConnManager :=
  match s.mapRound3PendingRequests kind cycle with
  | none => s
  | some requests =>
    (answerRequests kind cycle response.copy requests s).setPending kind cycle []

theorem respondToPending_eq {kind : FetchKind} {cycle : UInt16} {response : Message}
    (hown : ownResponse env.conf kind status = some response) :
    respondToPending kind env cycle status s = .ok (respond kind cycle response s) := by
  unfold respondToPending respond
  cases s.mapRound3PendingRequests kind cycle with
  | none => rfl
  | some requests =>
    dsimp only
    rw [hown]

theorem respond_setStatus {kind : FetchKind} {cycle : UInt16} {response : Message} :
    (respond kind cycle response s).setStatus cycle status
      = respond kind cycle response (s.setStatus cycle status) := by
  unfold respond
  show _ = match s.mapRound3PendingRequests kind cycle with
    | none => s.setStatus cycle status
    | some requests => _
  cases s.mapRound3PendingRequests kind cycle <;> rfl

@[simp] theorem respond_mapRound3Status {kind : FetchKind} {cycle : UInt16} {response : Message} :
    (respond kind cycle response s).mapRound3Status = s.mapRound3Status := by
  unfold respond
  split <;> rfl

/-- A request is queued for one SL of every other BG. -/
def ask (env : Env) (ω : Choice) (request : Message) (s : ConnManager) : ConnManager :=
  s.enqueue { upPeers := getOneSLFromEveryRemoteBG env.conf ω, pMessage := request }

/-- The primary envoy asks the other BGs, if there is one. -/
def askOthers (env : Env) (ω : Choice) (envoy : Option Nat) (request : Message)
    (s : ConnManager) : Outcome :=
  match envoy with
  | none => .thrown .noEnvoySelected s
  | some j => .ok (if j = env.conf.sLid then ask env ω request s else s)

/-- The primary envoy that a Preprepare in memory names. -/
def envoyAt (h : Endian) (bytes : List UInt8) : Option Nat :=
  if u16At h bytes preprepareNumOfRound3ParticipantsOffset = 0 then none
  else some (u16At h bytes participantsOffset).toNat

theorem ifPrimaryEnvoy_eq {cycle : UInt16} {r : MessageRound3FetchResponse}
    {send : ConnManager → Outcome} {request : Message}
    (hget : s.mapRound3Status cycle = some status)
    (hslot : status.rgMsgRound3FetchResponse env.conf.bGid = some r)
    (hsend : send s = .ok (ask env ω request s)) :
    ifPrimaryEnvoy env cycle s send
      = askOthers env ω (envoyAt env.host r.entirePreprepareMsg) request s := by
  unfold ifPrimaryEnvoy isPrimaryEnvoyRound3 isBackupEnvoyRound3 envoyAt
  rw [hget]
  dsimp only
  rw [hslot]
  dsimp only
  by_cases hnum : u16At env.host r.entirePreprepareMsg
      preprepareNumOfRound3ParticipantsOffset = 0
  · rw [if_pos hnum, if_pos hnum]
    rfl
  · have hnum' : (u16At env.host r.entirePreprepareMsg
        preprepareNumOfRound3ParticipantsOffset).toNat ≠ 0 :=
      fun h => hnum (UInt16.toNat_inj.mp h)
    rw [if_neg hnum, if_neg hnum, if_neg hnum']
    unfold askOthers
    dsimp only
    by_cases hself : (u16At env.host r.entirePreprepareMsg participantsOffset).toNat
        = env.conf.sLid
    · rw [if_pos (beq_iff_eq.mpr hself), if_pos hself, hsend]
    · rw [if_neg (fun h => hself (beq_iff_eq.mp h)), if_neg hself]

/-- The status of a cycle whose connectivity is certified. -/
def connectivityStatus (env : Env) (m : MessageRound2FullCommit) (p : MessageRound2Preprepare)
    (status : CycleStatus) : CycleStatus :=
  { status.enter .round3WaitingForReplicatedConnectivity .round3ConnectivityResponse
      (env.conf.numBG - 1) with
    rgMsgRound3ConnectivityResponse :=
      Function.update status.rgMsgRound3ConnectivityResponse env.conf.bGid
        (some (getRound3Response env.host p m (UInt16.ofNat env.conf.sLid) p.cycle)) }

/-- The status of a cycle whose membership is certified. -/
def membershipStatus (env : Env) (p : MessageRound2Preprepare) (status : CycleStatus) :
    CycleStatus :=
  { status.enter .round3WaitingForReplicatedMembership .round3MembershipResponse
      (env.conf.numBG - 1) with
    rgMsgRound3MembershipResponse :=
      Function.update status.rgMsgRound3MembershipResponse env.conf.bGid
        (some (membershipResponse env.conf p.cycle)) }

theorem clearRound2_setStatus {cycle : UInt16} :
    (clearRound2 (s.setStatus cycle status)).mapRound3Status cycle = some status :=
  Function.update_self ..

theorem setStatus_clearRound2 {cycle : UInt16} {status' : CycleStatus} :
    (clearRound2 (s.setStatus cycle status)).setStatus cycle status'
      = clearRound2 (s.setStatus cycle status') := by
  unfold clearRound2 ConnManager.setStatus
  dsimp only
  rw [Function.update_idem]

/-- The state of an SL that has a new status for the cycle and has answered what waited for it. -/
def afterTrigger (kind : FetchKind) (cycle : UInt16) (status : CycleStatus) (response : Message)
    (s : ConnManager) : ConnManager :=
  respond kind cycle response (clearRound2 (s.setStatus cycle status))

@[simp] theorem afterTrigger_status {kind : FetchKind} {cycle : UInt16} {response : Message} :
    (afterTrigger kind cycle status response s).mapRound3Status
      = Function.update s.mapRound3Status cycle (some status) := by
  unfold afterTrigger
  rw [respond_mapRound3Status]
  rfl

section General

variable {r : MessageRound3FetchResponse} (hN : 1 < env.conf.numBG)

include hN

theorem envoyRound3SendGeneralFetch_eq {demanded : MessageType} {cycle : UInt16}
    (hget : s.mapRound3Status cycle = some status)
    (hown : status.rgMsgRound3FetchResponse env.conf.bGid = some r) :
    envoyRound3SendGeneralFetch demanded env ω cycle s
      = askOthers env ω (envoyAt env.host r.entirePreprepareMsg)
          (.round3GeneralFetch (generalFetchMessage env.conf cycle demanded)) s := by
  unfold envoyRound3SendGeneralFetch
  rw [hget]
  dsimp only
  rw [decide_eq_true hN, debugThrow_true]
  exact ifPrimaryEnvoy_eq hget hown rfl

theorem fullCommitLocalConnectivity_eq (hget : s.mapRound3Status p.cycle = some status)
    (hown : status.rgMsgRound3FetchResponse env.conf.bGid = some r)
    (hslot : status.rgMsgRound3ConnectivityResponse env.conf.bGid = none) :
    fullCommitLocalConnectivity env ω m p s common
      = (askOthers env ω (envoyAt env.host r.entirePreprepareMsg)
          (.round3GeneralFetch
            (generalFetchMessage env.conf p.cycle .round3ConnectivityResponse))
          (afterTrigger .connectivity p.cycle (connectivityStatus env m p status)
            (.round3ConnectivityResponse
              (getRound3Response env.host p m (UInt16.ofNat env.conf.sLid) p.cycle))
            s)).andThen common := by
  have hresponse : ownResponse env.conf .connectivity (connectivityStatus env m p status)
      = some (.round3ConnectivityResponse
          (getRound3Response env.host p m (UInt16.ofNat env.conf.sLid) p.cycle)) := by
    simp [ownResponse, connectivityStatus]
  have hrespond : round3RespondToPendingFetchConnectivityRequests env p.cycle
      (clearRound2 (s.setStatus p.cycle (connectivityStatus env m p status)))
      = .ok (afterTrigger .connectivity p.cycle (connectivityStatus env m p status)
          (.round3ConnectivityResponse
            (getRound3Response env.host p m (UInt16.ofNat env.conf.sLid) p.cycle)) s) := by
    unfold round3RespondToPendingFetchConnectivityRequests
    rw [clearRound2_setStatus]
    exact respondToPending_eq hresponse
  have hget' : (afterTrigger .connectivity p.cycle (connectivityStatus env m p status)
      (.round3ConnectivityResponse
        (getRound3Response env.host p m (UInt16.ofNat env.conf.sLid) p.cycle)) s).mapRound3Status
      p.cycle = some (connectivityStatus env m p status) := by
    rw [afterTrigger_status, Function.update_self]
  have hask : envoyRound3SendGeneralFetch .round3ConnectivityResponse env ω p.cycle _ = _ :=
    envoyRound3SendGeneralFetch_eq hN hget' hown
  unfold fullCommitLocalConnectivity
  dsimp only
  rw [hget]
  dsimp only
  rw [hslot, Option.isNone_none, debugThrowElseReturnVoid_true]
  refine (congrArg (Outcome.andThen · _) hrespond).trans ?_
  rw [Outcome.andThen_ok, ← hask]
  rfl

theorem fullCommitLocalMembership_eq (hget : s.mapRound3Status p.cycle = some status)
    (hown : status.rgMsgRound3FetchResponse env.conf.bGid = some r)
    (hslot : status.rgMsgRound3MembershipResponse env.conf.bGid = none) :
    fullCommitLocalMembership env ω p s common
      = (askOthers env ω (envoyAt env.host r.entirePreprepareMsg)
          (.round3GeneralFetch
            (generalFetchMessage env.conf p.cycle .round3MembershipResponse))
          (afterTrigger .membership p.cycle (membershipStatus env p status)
            (.round3MembershipResponse (membershipResponse env.conf p.cycle)) s)).andThen
          common := by
  have hresponse : ownResponse env.conf .membership (membershipStatus env p status)
      = some (.round3MembershipResponse (membershipResponse env.conf p.cycle)) := by
    simp [ownResponse, membershipStatus]
  have hrespond : round3RespondToPendingFetchMembershipRequests env p.cycle
      (clearRound2 (s.setStatus p.cycle (membershipStatus env p status)))
      = .ok (afterTrigger .membership p.cycle (membershipStatus env p status)
          (.round3MembershipResponse (membershipResponse env.conf p.cycle)) s) := by
    unfold round3RespondToPendingFetchMembershipRequests
    rw [clearRound2_setStatus]
    exact respondToPending_eq hresponse
  have hget' : (afterTrigger .membership p.cycle (membershipStatus env p status)
      (.round3MembershipResponse (membershipResponse env.conf p.cycle)) s).mapRound3Status p.cycle
      = some (membershipStatus env p status) := by
    rw [afterTrigger_status, Function.update_self]
  have hask : envoyRound3SendGeneralFetch .round3MembershipResponse env ω p.cycle _ = _ :=
    envoyRound3SendGeneralFetch_eq hN hget' hown
  unfold fullCommitLocalMembership
  dsimp only
  rw [hget]
  dsimp only
  rw [hslot, Option.isNone_none, debugThrowElseReturnVoid_true]
  refine (congrArg (Outcome.andThen · _) hrespond).trans ?_
  rw [Outcome.andThen_ok, ← hask]
  rfl

end General

/-- The status of a client cycle that waits for the results of the other BGs. -/
def fetchingStatus (env : Env) (m : MessageRound2FullCommit) (p : MessageRound2Preprepare)
    (status : CycleStatus) : CycleStatus :=
  (clientStatus env m p status).enter .round3WaitingForReplicatedResults .round3FetchResponse
    (env.conf.numBG - 1)

section Client

variable (hcycle : p.lastcycle + 1 = p.cycle)
  (hslot : status.rgMsgRound3FetchResponse env.conf.bGid = none)
  (hstate : status.state = .round2Committed) (hnew : s.mapRound3Status p.cycle = none)

include hcycle hslot hstate hnew

omit hcycle hslot hstate hnew in
/-- The requests for the results of a cycle. -/
theorem envoyRound3SendFetchRequest_asks {cycle : UInt16} {r : MessageRound3FetchResponse}
    (hN : env.conf.numBG ≠ 1) (hget : s.mapRound3Status cycle = some status)
    (hstate : status.state = .round2Committed)
    (hown : status.rgMsgRound3FetchResponse env.conf.bGid = some r)
    (hcheck : getRound3RequestCheck (getRound3Request env.host r) = true) :
    envoyRound3SendFetchRequest env ω cycle s
      = askOthers env ω (envoyAt env.host r.entirePreprepareMsg)
          (.round3FetchRequest
            { getRound3Request env.host r with senderSLid := UInt16.ofNat env.conf.sLid })
          (s.setStatus cycle (status.enter .round3WaitingForReplicatedResults
            .round3FetchResponse (env.conf.numBG - 1))) := by
  unfold envoyRound3SendFetchRequest
  rw [hget]
  dsimp only
  rw [if_neg fun h => h hstate, if_neg hN]
  refine ifPrimaryEnvoy_eq (Function.update_self ..) hown ?_
  rw [hown]
  dsimp only
  rw [hcheck, debugThrow_true]
  rfl

/-- A client Preprepare is committed, and the other BGs are asked. -/
theorem fullCommitFromClient_asks (hN : env.conf.numBG ≠ 1)
    (hcheck : getRound3RequestCheck (getRound3Request env.host
      (getRound3Response env.host p m (UInt16.ofNat env.conf.sLid) p.cycle)) = true) :
    fullCommitFromClient env ω m p status s common
      = (askOthers env ω
          (envoyAt env.host
            (getRound3Response env.host p m (UInt16.ofNat env.conf.sLid)
              p.cycle).entirePreprepareMsg)
          (.round3FetchRequest (getRound3Request env.host
            (getRound3Response env.host p m (UInt16.ofNat env.conf.sLid) p.cycle)))
          (afterTrigger .result p.cycle (fetchingStatus env m p status)
            (.round3FetchResponse
              (getRound3Response env.host p m (UInt16.ofNat env.conf.sLid) p.cycle))
            s)).andThen common := by
  have hresponse : ownResponse env.conf .result (clientStatus env m p status)
      = some (.round3FetchResponse
          (getRound3Response env.host p m (UInt16.ofNat env.conf.sLid) p.cycle)) := by
    simp [ownResponse, clientStatus]
  have hset : (respond .result p.cycle (.round3FetchResponse
      (getRound3Response env.host p m (UInt16.ofNat env.conf.sLid) p.cycle))
      (enterRound3 env m p status s)).mapRound3Status p.cycle
      = some (clientStatus env m p status) := by
    rw [respond_mapRound3Status]
    exact clearRound2_setStatus
  have hown : (clientStatus env m p status).rgMsgRound3FetchResponse env.conf.bGid
      = some (getRound3Response env.host p m (UInt16.ofNat env.conf.sLid) p.cycle) :=
    Function.update_self ..
  rw [fullCommitFromClient_eq hcycle hslot hstate hnew, respondToPending_eq hresponse,
    Outcome.andThen_ok, envoyRound3SendFetchRequest_asks hN hset hstate hown hcheck,
    respond_setStatus, enterRound3, setStatus_clearRound2]
  rfl

/-- A client Preprepare of a single BG is committed, and its cycle ends. -/
theorem fullCommitFromClient_ends (hN : env.conf.numBG = 1) :
    fullCommitFromClient env ω m p status s common
      = common (commitCycle p.cycle
          ((clientStatus env m p status).enter .round3Committed .invalid 0)
          (afterTrigger .result p.cycle (clientStatus env m p status)
            (.round3FetchResponse
              (getRound3Response env.host p m (UInt16.ofNat env.conf.sLid) p.cycle)) s)) := by
  have hresponse : ownResponse env.conf .result (clientStatus env m p status)
      = some (.round3FetchResponse
          (getRound3Response env.host p m (UInt16.ofNat env.conf.sLid) p.cycle)) := by
    simp [ownResponse, clientStatus]
  have hset : (respond .result p.cycle (.round3FetchResponse
      (getRound3Response env.host p m (UInt16.ofNat env.conf.sLid) p.cycle))
      (enterRound3 env m p status s)).mapRound3Status p.cycle
      = some (clientStatus env m p status) := by
    rw [respond_mapRound3Status]
    exact clearRound2_setStatus
  rw [fullCommitFromClient_eq hcycle hslot hstate hnew, respondToPending_eq hresponse,
    Outcome.andThen_ok, envoyRound3SendFetchRequest_single hN hset hstate]
  rfl

end Client

end RCanopus
