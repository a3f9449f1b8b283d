import RCanopus.ConnManager

/-!
# The leader starts a round

`canStartRound2`, `leader_round2_sendPreprepare` and the choices that the code leaves to the
random engine and to the priority queue.
-/

namespace RCanopus

/-! ## Recipients -/

/-- The connection to an SL of the own BG, by its id on the wire. -/
def localPeer (conf : Config) (sl : Nat) : Option Peer := some (conf.bGid, sl)

/-- The broadcast loop over the BG: every other SL, and the null connection for oneself. -/
def broadcastPeers (conf : Config) : List (Option Peer) :=
  none :: (((List.range (conf.numSL conf.bGid)).filter (· ≠ conf.sLid)).map
    (localPeer conf)).reverse

/-- `getOneSLFromEveryRemoteBG`. -/
def getOneSLFromEveryRemoteBG (conf : Config) (ω : Choice) : List (Option Peer) :=
  (((List.range conf.numBG).filter (· ≠ conf.bGid)).map
    fun bg => some (bg, ω.draw bg % conf.numSL bg)).reverse

/-! ## The priority queue -/

/-- No other element has a greater request type. -/
def isTop (queue : List MessageRound2Preprepare) (i : Nat) : Bool :=
  match queue[i]? with
  | none => false
  | some p => queue.all fun q => decide (q.requestType ≤ p.requestType)

/-- Where the top of the priority queue is. Among equals the container may hold any on top. -/
def topIndex (ω : Choice) (queue : List MessageRound2Preprepare) : Nat :=
  if isTop queue ω.top then ω.top else (List.range queue.length).findIdx (isTop queue)

/-! ## Starting a round -/

/-- The value that `canStartRound2` returns. -/
def canStartRound2Value (env : Env) (s : ConnManager) : Bool :=
  match s.pRound2CurrentStatus with
  | some _ => false
  | none =>
    if !s.pLeaderRound2PendingPreprepareRaw.isEmpty then true
    else
      ((List.range (env.conf.numSL env.conf.bGid)).filter (1 ≤ ·)).all
          (fun i => decide (s.leaderBatchProcessed < s.rgLeaderBatchReceivedFrom i))
        && decide (s.leaderBatchProcessed < s.leaderBatchReceivedFromSelf)

/-- `canStartRound2`. Only the leader has a priority queue that can be asked. -/
def canStartRound2 (env : Env) (s : ConnManager) (k : Bool → ConnManager → Outcome) : Outcome :=
  debugThrow env (env.conf.sLid == 0) s fun s =>
  if env.conf.sLid ≠ 0 ∧ s.pRound2CurrentStatus.isNone then .thrown .nullPointer s
  else k (canStartRound2Value env s) s

/-- The common parts that `leader_round2_sendPreprepare` fills in. -/
def commonParts (s : ConnManager) (p : MessageRound2Preprepare) : MessageRound2Preprepare :=
  { p with
    view := s.round2NextView
    seq := s.round2NextSeq
    collectorSLid := s.leaderCollectorRr }

/-- The end of `leader_round2_sendPreprepare`: number the Preprepare and broadcast it. -/
def sendPreprepare (env : Env) (pPreprepare : MessageRound2Preprepare) (s : ConnManager) :
    Outcome :=
  let pPreprepare := commonParts s pPreprepare
  let s :=
    { s with
      round2NextSeq := s.round2NextSeq + 1
      leaderCollectorRr :=
        nextRoundRobin (env.conf.numSL env.conf.bGid) s.leaderCollectorRr }
  .ok ((s.enqueue
    { upPeers := broadcastPeers env.conf, pMessage := .round2Preprepare pPreprepare }).note
      (.issued pPreprepare))

/-- The client Preprepare of `leader_round2_sendPreprepare` and what it counts. -/
def sendClientPreprepare (env : Env) (s : ConnManager) : Outcome :=
  let numSL := env.conf.numSL env.conf.bGid
  let pPreprepare :=
    clientPreprepare env.host env.conf s.leaderRound2NextRcanopusCycle s.leaderEnvoysRr
  sendPreprepare env pPreprepare
    { s with
      leaderRound2NextRcanopusCycle := s.leaderRound2NextRcanopusCycle + 1
      leaderBatchProcessed := s.leaderBatchProcessed + 1
      leaderEnvoysRr :=
        (envoyRoundRobin numSL (round3ParticipantsNum env.conf).toNat s.leaderEnvoysRr).2 }

/-- `leader_round2_sendPreprepare`. -/
def leaderRound2SendPreprepare (env : Env) (ω : Choice) (s : ConnManager) : Outcome :=
  debugThrow env (env.conf.sLid == 0) s fun s =>
  canStartRound2 env s fun canStart s =>
  debugThrow env canStart s fun s =>
  match s.pRound2CurrentStatus with
  | some _ => .thrown .unexpected s
  | none =>
    let s := { s with pRound2CurrentStatus := some .waitingForPreprepare }
    match s.pLeaderRound2PendingPreprepareRaw[topIndex ω s.pLeaderRound2PendingPreprepareRaw]? with
    | some pPreprepare =>
      debugThrow env (pPreprepare.numOfRound3Participants == 0) s fun s =>
      sendPreprepare env pPreprepare
        { s with
          pLeaderRound2PendingPreprepareRaw := s.pLeaderRound2PendingPreprepareRaw.eraseIdx
            (topIndex ω s.pLeaderRound2PendingPreprepareRaw) }
    | none => sendClientPreprepare env s

/-- `if(canStartRound2()) leader_round2_sendPreprepare();`, the end of six handlers. -/
def startRound2IfPossible (env : Env) (ω : Choice) (s : ConnManager) : Outcome :=
  canStartRound2 env s fun canStart s =>
  if canStart then leaderRound2SendPreprepare env ω s else .ok s

end RCanopus
