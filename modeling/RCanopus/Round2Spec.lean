import RCanopus.Round2View

/-!
# What one round 2 message does

For each message of round 2 and each state of the SL, the state in which the dispatcher leaves the
SL.
-/

namespace RCanopus

/-! ## What round 2 leaves alone -/

/-- The part of the state that round 3 works on, and what round 3 has done, sent and juggled. -/
structure Round3View where
  status : UInt16 → Option CycleStatus
  pending : FetchKind → UInt16 → Option (List (UInt16 × UInt16))
  storage : List UInt16
  queue : List MessageRound2Preprepare
  nextCycle : UInt16
  envoysRr : UInt16
  events : List Event
  sends : List QueueElement
  juggled : List QueueElement

def ConnManager.round3View (s : ConnManager) : Round3View where
  status := s.mapRound3Status
  pending := s.mapRound3PendingRequests
  storage := s.pStorage
  queue := s.pLeaderRound2PendingPreprepareRaw
  nextCycle := s.leaderRound2NextRcanopusCycle
  envoysRr := s.leaderEnvoysRr
  events := s.history.filter fun ev => !ev.isRound2
  sends := s.sendQueue.filter fun e => !e.pMessage.isRound2
  juggled := s.juggleQueue.filter fun e => !e.pMessage.isRound2

theorem ConnManager.round3View_juggle (s : ConnManager) {e : QueueElement}
    (he : e.pMessage.isRound2 = true) : (s.juggle e).round3View = s.round3View := by
  unfold round3View juggle
  rw [List.filter_append, List.filter_singleton, he]
  simp

/-! ## The status of a round -/

namespace CycleStatus

/-- The status of a round whose Preprepare was accepted. -/
def active (p : MessageRound2Preprepare) (state : CycleState) (awaiting : MessageType)
    (counter required : Nat) : CycleStatus :=
  { waitingForPreprepare with
    round2View := p.view
    round2Sequence := p.seq
    state := state
    awaitingMessageType := awaiting
    messageReceivedCounter := counter
    messageRequired := required }

/-- The collector of `n` SLs has counted some partial commits. -/
def collecting (n : Nat) (p : MessageRound2Preprepare) (counter : Nat) : CycleStatus :=
  active p .round2CollectorWaitingForPartialcommits .round2PartialCommit counter n

def waitingForFullcommit (p : MessageRound2Preprepare) : CycleStatus :=
  active p .round2WaitingForFullcommit .round2FullCommit 0 1

/-- The round is being committed. -/
def committed (p : MessageRound2Preprepare) : CycleStatus :=
  active p .round2Committed .round2FullCommit 0 1

variable {n counter : Nat} {p : MessageRound2Preprepare}

theorem collecting_state_ne : (collecting n p counter).state ≠ .round2Committed := by
  simp [collecting, active]

theorem waitingForFullcommit_state_ne : (waitingForFullcommit p).state ≠ .round2Committed := by
  simp [waitingForFullcommit, active]

theorem waitingForPreprepare_state_ne : waitingForPreprepare.state ≠ .round2Committed := by
  simp [waitingForPreprepare]

end CycleStatus

/-- No Preprepare was accepted for the next round. -/
def ConnManager.Ready (s : ConnManager) : Prop :=
  s.pRound2CurrentStatus = none
    ∨ s.pRound2CurrentStatus = some CycleStatus.waitingForPreprepare

/-! ## The states after a step -/

/-- Where the partial commit for a Preprepare goes. -/
def collectorPeer (conf : Config) (p : MessageRound2Preprepare) : Option Peer :=
  if p.collectorSLid.toNat = conf.sLid then none else localPeer conf p.collectorSLid.toNat

/-- The element that answers a Preprepare. -/
def partialCommitElement (conf : Config) (p : MessageRound2Preprepare) : QueueElement where
  upPeers := [collectorPeer conf p]
  pMessage := .round2PartialCommit (partialCommitMessage conf.sLid p.view p.seq)

/-- The element that broadcasts the full commit. -/
def fullCommitElement (conf : Config) (p : MessageRound2Preprepare) : QueueElement where
  upPeers := broadcastPeers conf
  pMessage := .round2FullCommit (fullCommitMessage conf.sLid p.view p.seq)

/-- The view after the Preprepare was accepted. -/
def Round2View.accept (conf : Config) (p : MessageRound2Preprepare) (v : Round2View) :
    Round2View where
  nextView := v.nextView
  nextSeq := if conf.sLid = 0 then v.nextSeq else v.nextSeq + 1
  status := some
    (if p.collectorSLid.toNat = conf.sLid then .collecting (conf.numSL conf.bGid) p 0
     else .waitingForFullcommit p)
  stored := some p
  collectorRr := v.collectorRr
  isCollector := p.collectorSLid.toNat == conf.sLid
  trace :=
    { events := v.trace.events ++ [.accepted p]
      sends := v.trace.sends ++ [partialCommitElement conf p]
      juggled := v.trace.juggled }

/-- The view after a partial commit was counted, which was not the last. -/
def Round2View.count (n : Nat) (p : MessageRound2Preprepare) (counter : Nat)
    (sender : Option Peer) (m : MessageRound2PartialCommit) (v : Round2View) : Round2View :=
  { v with
    status := some (.collecting n p (counter + 1))
    trace := { v.trace with
      events := v.trace.events ++ [.counted sender m p.view p.seq] } }

/-- The view after the last partial commit was counted. -/
def Round2View.countLast (conf : Config) (p : MessageRound2Preprepare) (counter : Nat)
    (sender : Option Peer) (m : MessageRound2PartialCommit) (v : Round2View) : Round2View :=
  { v with
    status := some (.waitingForFullcommit p)
    trace := { v.trace with
      events := v.trace.events ++ [.counted sender m p.view p.seq,
        .sentFullCommit (fullCommitMessage conf.sLid p.view p.seq) (counter + 1)]
      sends := v.trace.sends ++ [fullCommitElement conf p] } }

/-- The view while the round is being committed. -/
def Round2View.commit (p : MessageRound2Preprepare) (v : Round2View) : Round2View :=
  { v with
    status := some (.committed p)
    trace := { v.trace with events := v.trace.events ++ [.committed p] } }

/-- A Preprepare with the common parts filled in. -/
def Round2View.number (v : Round2View) (p : MessageRound2Preprepare) : MessageRound2Preprepare :=
  { p with view := v.nextView, seq := v.nextSeq, collectorSLid := v.collectorRr }

/-- The view after the leader has issued a Preprepare. -/
def Round2View.propose (conf : Config) (p : MessageRound2Preprepare) (v : Round2View) :
    Round2View :=
  { v with
    nextSeq := v.nextSeq + 1
    collectorRr := nextRoundRobin (conf.numSL conf.bGid) v.collectorRr
    trace := { v.trace with
      events := v.trace.events ++ [.issued p]
      sends := v.trace.sends
        ++ [{ upPeers := broadcastPeers conf, pMessage := .round2Preprepare p }] } }

/-- The view after an element was juggled. -/
def Round2View.juggle (e : QueueElement) (v : Round2View) : Round2View :=
  { v with trace := { v.trace with juggled := v.trace.juggled ++ [e] } }

section

variable {env : Env} {ω : Choice} {v : Round2View} {s : ConnManager} {e : QueueElement}

theorem at_juggle_round2 (hs : s.At v) (he : e.pMessage.isRound2 = true) :
    (s.juggle e).At (v.juggle e) := by
  refine ⟨?_, hs.2⟩
  rw [← hs.1]
  unfold ConnManager.round2View ConnManager.juggle Round2View.juggle
  rw [List.filter_append, List.filter_singleton, he]
  rfl

/-! ## Preprepares -/

/-- The leader issues a Preprepare. -/
theorem sendPreprepare_at {p : MessageRound2Preprepare} (hs : s.At v) :
    ∃ s', sendPreprepare env p s = .ok s' ∧ s'.At (v.propose env.conf (v.number p)) := by
  have hnumber : commonParts s p = v.number p := by
    have hview : s.round2NextView = v.nextView := congrArg Round2View.nextView hs.1
    have hseq : s.round2NextSeq = v.nextSeq := congrArg Round2View.nextSeq hs.1
    have hrr : s.leaderCollectorRr = v.collectorRr := congrArg Round2View.collectorRr hs.1
    unfold commonParts Round2View.number
    rw [hview, hseq, hrr]
  refine ⟨_, rfl, ?_, hs.2⟩
  rw [hnumber]
  generalize v.number p = q
  rw [← hs.1]
  unfold ConnManager.round2View Round2View.propose ConnManager.enqueue ConnManager.note
  simp only [List.filter_append]
  rfl

/-- The state after a Preprepare was accepted. -/
def afterAccept (env : Env) (p : MessageRound2Preprepare) (s : ConnManager) : ConnManager :=
  { s with
    sendQueue := s.sendQueue ++ [partialCommitElement env.conf p]
    round2NextSeq := if env.conf.sLid = 0 then s.round2NextSeq else s.round2NextSeq + 1
    round2IsCollector := p.collectorSLid.toNat == env.conf.sLid
    pRound2CurrentStatus := some
      (if p.collectorSLid.toNat = env.conf.sLid then
        .collecting (env.conf.numSL env.conf.bGid) p 0
      else .waitingForFullcommit p)
    pTemporaryStorageOfPreprepare := some p
    history := s.history ++ [.accepted p] }

theorem at_afterAccept {p : MessageRound2Preprepare} (hs : s.At v) :
    (afterAccept env p s).At (v.accept env.conf p) := by
  refine ⟨?_, hs.2⟩
  rw [← hs.1]
  unfold afterAccept ConnManager.round2View Round2View.accept
  simp only [List.filter_append]
  rfl

theorem round3View_afterAccept {p : MessageRound2Preprepare} :
    (afterAccept env p s).round3View = s.round3View := by
  unfold afterAccept ConnManager.round3View
  simp [Event.isRound2, partialCommitElement, Message.isRound2, Message.msgType,
    MessageType.isRound2]

theorem acceptPreprepare_eq {p : MessageRound2Preprepare}
    (hstored : s.pTemporaryStorageOfPreprepare = none) :
    acceptPreprepare env p .waitingForPreprepare
        { s with pRound2CurrentStatus := some .waitingForPreprepare }
      = .ok (afterAccept env p s) := by
  unfold acceptPreprepare
  dsimp only
  rw [show (ConnManager.enqueue _ _).pTemporaryStorageOfPreprepare.isNone = true from by
    show s.pTemporaryStorageOfPreprepare.isNone = true
    rw [hstored]
    rfl, debugThrow_true]
  unfold afterAccept partialCommitElement collectorPeer
  by_cases hc : p.collectorSLid.toNat = env.conf.sLid
  · simp [hc, Config.isRound2Leader, ConnManager.enqueue, ConnManager.note, CycleStatus.enter,
      CycleStatus.collecting, CycleStatus.active]
  · simp [hc, Config.isRound2Leader, ConnManager.enqueue, ConnManager.note, CycleStatus.enter,
      CycleStatus.waitingForFullcommit, CycleStatus.active]

section Preprepare

variable {p : MessageRound2Preprepare} (hm : e.pMessage = .round2Preprepare p)
  (hversion : p.header.version = versionLatest)

include hm hversion

theorem dispatcherRound2_preprepare :
    dispatcherRound2 env ω e s = dispatcherRound2Preprepare env e p s := by
  unfold dispatcherRound2
  rw [hm]
  exact if_neg fun h => h hversion

/-- A Preprepare is juggled while a round is running. -/
theorem preprepare_juggled (hs : s.At v) {status : CycleStatus} (hstatus : v.status = some status)
    (hawaiting : status.awaitingMessageType ≠ .round2Preprepare) :
    ∃ s', dispatcherRound2 env ω e s = .ok s' ∧ s'.At (v.juggle e)
      ∧ s'.round3View = s.round3View := by
  have hst : s.pRound2CurrentStatus = some status := by
    rw [← hstatus, ← hs.1]
    rfl
  have he : e.pMessage.isRound2 = true := by rw [hm]; rfl
  refine ⟨s.juggle e, ?_, at_juggle_round2 hs he, s.round3View_juggle he⟩
  rw [dispatcherRound2_preprepare hm hversion]
  unfold dispatcherRound2Preprepare
  rw [hst, Option.getD_some]
  dsimp only
  rw [if_pos hawaiting, ← hst]

/-- A Preprepare that comes too early is juggled. -/
theorem preprepare_early (hs : s.At v) (hstatus : v.status = some .waitingForPreprepare)
    (hearly : preprepareTooEarly s p = true) :
    dispatcherRound2 env ω e s = .ok (s.juggle e) := by
  have hst : s.pRound2CurrentStatus = some .waitingForPreprepare := by
    rw [← hstatus, ← hs.1]
    rfl
  rw [dispatcherRound2_preprepare hm hversion]
  unfold dispatcherRound2Preprepare
  rw [hst, Option.getD_some]
  dsimp only
  rw [if_neg (by simp [CycleStatus.waitingForPreprepare]), ← hst]
  simp [CycleStatus.waitingForPreprepare, hearly]

/-- The next Preprepare is accepted. -/
theorem preprepare_accepted (hs : s.At v) (hready : s.Ready)
    (hearly : preprepareTooEarly s p = false) (hview : p.view = v.nextView)
    (hseq : env.conf.sLid = 0 ∨ p.seq = v.nextSeq) (hstored : v.stored = none) :
    dispatcherRound2 env ω e s = .ok (afterAccept env p s) := by
  have hget : s.pRound2CurrentStatus.getD .waitingForPreprepare = .waitingForPreprepare := by
    rcases hready with h | h
    · rw [h, Option.getD_none]
    · rw [h, Option.getD_some]
  have hview' : (p.view == s.round2NextView) = true := by
    rw [hview, ← hs.1]
    exact beq_self_eq_true _
  have hseq' : (env.conf.isRound2Leader || p.seq == s.round2NextSeq) = true := by
    rcases hseq with h | h
    · simp [Config.isRound2Leader, h]
    · rw [h, ← hs.1]
      simp [ConnManager.round2View]
  have hstored' : s.pTemporaryStorageOfPreprepare = none := by
    rw [← hstored, ← hs.1]
    rfl
  have hearly' : preprepareTooEarly
      { s with pRound2CurrentStatus := some CycleStatus.waitingForPreprepare } p = false := hearly
  rw [dispatcherRound2_preprepare hm hversion]
  unfold dispatcherRound2Preprepare
  rw [hget]
  dsimp only
  rw [if_neg (by simp [CycleStatus.waitingForPreprepare]),
    show (CycleStatus.waitingForPreprepare.messageReceivedCounter == 0) = true from rfl,
    debugThrow_true,
    show (CycleStatus.waitingForPreprepare.messageRequired == 1) = true from rfl,
    debugThrow_true, hearly', if_neg Bool.false_ne_true, hview',
    debugThrowElseReturnVoid_true, hseq', debugThrow_true]
  exact acceptPreprepare_eq hstored'

end Preprepare

/-! ## Partial commits -/

/-- `fakeVerifier` accepts the signature that every SL sends. -/
theorem fakeVerifier_zeroSignature (msg : List UInt8) (size : Nat) :
    fakeVerifier msg size zeroSignature.toList sbftSignatureSize = true := by
  unfold fakeVerifier
  rw [List.all_eq_true]
  intro i hi
  have hi : i < sbftSignatureSize := List.mem_range.mp hi
  unfold zeroSignature
  rw [Vector.toList_replicate, List.getD_eq_getElem?_getD, List.getElem?_replicate, if_pos hi]
  rfl

section PartialCommit

variable {m : MessageRound2PartialCommit} (hm : e.pMessage = .round2PartialCommit m)
  (hversion : m.header.version = versionLatest)

include hm hversion

theorem dispatcherRound2_partialCommit :
    dispatcherRound2 env ω e s = dispatcherRound2PartialCommit env e m s := by
  unfold dispatcherRound2
  rw [hm]
  exact if_neg fun h => h hversion

/-- A partial commit is juggled before a Preprepare was accepted. -/
theorem partialCommit_ready (hs : s.At v) (hready : s.Ready) :
    ∃ s', dispatcherRound2 env ω e s = .ok s' ∧ s'.At (v.juggle e)
      ∧ s'.round3View = s.round3View := by
  have he : e.pMessage.isRound2 = true := by rw [hm]; rfl
  refine ⟨s.juggle e, ?_, at_juggle_round2 hs he, s.round3View_juggle he⟩
  rw [dispatcherRound2_partialCommit hm hversion]
  unfold dispatcherRound2PartialCommit
  rcases hready with h | h
  · rw [h]
  · rw [h]
    exact if_pos rfl

/-- A partial commit for a later round is juggled. -/
theorem partialCommit_later (hs : s.At v) {status : CycleStatus}
    (hstatus : v.status = some status) (hseq : status.round2Sequence < m.seq) :
    ∃ s', dispatcherRound2 env ω e s = .ok s' ∧ s'.At (v.juggle e)
      ∧ s'.round3View = s.round3View := by
  have he : e.pMessage.isRound2 = true := by rw [hm]; rfl
  have hst : s.pRound2CurrentStatus = some status := by
    rw [← hstatus, ← hs.1]
    rfl
  refine ⟨s.juggle e, ?_, at_juggle_round2 hs he, s.round3View_juggle he⟩
  rw [dispatcherRound2_partialCommit hm hversion]
  unfold dispatcherRound2PartialCommit
  rw [hst]
  dsimp only
  split
  · rfl
  · rw [if_pos (Or.inr hseq)]

/-- The state after a partial commit was counted. -/
def afterCount (env : Env) (p : MessageRound2Preprepare) (counter : Nat) (e : QueueElement)
    (m : MessageRound2PartialCommit) (s : ConnManager) : ConnManager :=
  let n := env.conf.numSL env.conf.bGid
  let sender := e.upPeers.head?.getD none
  if counter + 1 = n then
    { s with
      pRound2CurrentStatus := some (.waitingForFullcommit p)
      sendQueue := s.sendQueue ++ [fullCommitElement env.conf p]
      history := s.history ++ [.counted sender m p.view p.seq,
        .sentFullCommit (fullCommitMessage env.conf.sLid p.view p.seq) (counter + 1)] }
  else
    { s with
      pRound2CurrentStatus := some (.collecting n p (counter + 1))
      history := s.history ++ [.counted sender m p.view p.seq] }

omit hm hversion in
theorem round3View_afterCount {p : MessageRound2Preprepare} {counter : Nat} :
    (afterCount env p counter e m s).round3View = s.round3View := by
  unfold afterCount
  dsimp only
  split
  · unfold ConnManager.round3View
    simp [Event.isRound2, fullCommitElement, Message.isRound2, Message.msgType,
      MessageType.isRound2]
  · unfold ConnManager.round3View
    simp [Event.isRound2]

omit hm hversion in
theorem countPartialCommit_eq {p : MessageRound2Preprepare} {counter : Nat} :
    countPartialCommit env e m (.collecting (env.conf.numSL env.conf.bGid) p counter) s
      = .ok (afterCount env p counter e m s) := by
  unfold countPartialCommit afterCount
  dsimp only
  generalize env.conf.numSL env.conf.bGid = n
  by_cases hc : counter + 1 = n
  · rw [if_pos hc, if_pos (show (CycleStatus.collecting n p counter).messageReceivedCounter + 1
      = (CycleStatus.collecting n p counter).messageRequired from hc)]
    simp [ConnManager.enqueue, ConnManager.note, CycleStatus.enter, CycleStatus.collecting,
      CycleStatus.waitingForFullcommit, CycleStatus.active, fullCommitElement]
  · rw [if_neg hc, if_neg (show ¬ (CycleStatus.collecting n p counter).messageReceivedCounter + 1
      = (CycleStatus.collecting n p counter).messageRequired from hc)]
    simp [ConnManager.note, CycleStatus.collecting, CycleStatus.active]

/-- A partial commit for the round that is collected is counted. -/
theorem partialCommit_counted (hs : s.At v) {p : MessageRound2Preprepare} {counter : Nat}
    (hstatus : v.status = some (.collecting (env.conf.numSL env.conf.bGid) p counter))
    (hcollector : v.isCollector = true) (hstored : v.stored = some p)
    (hverifier : env.round2Verifier = some fakeVerifier)
    (hview : m.view = p.view) (hseq : m.seq = p.seq) (hsig : m.signature = zeroSignature) :
    dispatcherRound2 env ω e s = .ok (afterCount env p counter e m s) := by
  have hst : s.pRound2CurrentStatus
      = some (.collecting (env.conf.numSL env.conf.bGid) p counter) := by
    rw [← hstatus, ← hs.1]
    rfl
  have hcol : s.round2IsCollector = true := by
    rw [← hcollector, ← hs.1]
    rfl
  have hsto : s.pTemporaryStorageOfPreprepare = some p := by
    rw [← hstored, ← hs.1]
    rfl
  rw [dispatcherRound2_partialCommit hm hversion]
  unfold dispatcherRound2PartialCommit
  rw [hst]
  dsimp only
  rw [if_neg (by simp [CycleStatus.collecting, CycleStatus.active]),
    if_neg (fun h => by
      rw [hview, hseq] at h
      exact h.elim (fun h => UInt16.lt_irrefl p.view h) fun h => UInt16.lt_irrefl p.seq h),
    hcol, debugThrowElseReturnVoid_true,
    show ((CycleStatus.collecting _ p counter).state
      == CycleState.round2CollectorWaitingForPartialcommits) = true from rfl,
    debugThrowElseReturnVoid_true,
    show (m.view == (CycleStatus.collecting _ p counter).round2View) = true from by
      rw [hview]; exact beq_self_eq_true _,
    debugThrowElseReturnVoid_true,
    show (m.seq == (CycleStatus.collecting _ p counter).round2Sequence) = true from by
      rw [hseq]; exact beq_self_eq_true _,
    debugThrowElseReturnVoid_true, hverifier]
  dsimp only
  rw [hsto]
  dsimp only
  rw [show verifyPartialCommit env fakeVerifier p m = true from by
    unfold verifyPartialCommit
    rw [hsig]
    exact fakeVerifier_zeroSignature _ _, debugThrowElseReturnVoid_true, countPartialCommit_eq]

end PartialCommit

theorem at_afterCount {p : MessageRound2Preprepare} {counter : Nat}
    {m : MessageRound2PartialCommit} (hs : s.At v)
    (hlast : counter + 1 ≠ env.conf.numSL env.conf.bGid) :
    (afterCount env p counter e m s).At
      (v.count (env.conf.numSL env.conf.bGid) p counter (e.upPeers.head?.getD none) m) := by
  unfold afterCount
  dsimp only
  rw [if_neg hlast]
  refine ⟨?_, hs.2⟩
  rw [← hs.1]
  unfold ConnManager.round2View Round2View.count
  simp only [List.filter_append]
  rfl

theorem at_afterCount_last {p : MessageRound2Preprepare} {counter : Nat}
    {m : MessageRound2PartialCommit} (hs : s.At v)
    (hlast : counter + 1 = env.conf.numSL env.conf.bGid) :
    (afterCount env p counter e m s).At
      (v.countLast env.conf p counter (e.upPeers.head?.getD none) m) := by
  unfold afterCount
  dsimp only
  rw [if_pos hlast]
  refine ⟨?_, hs.2⟩
  rw [← hs.1]
  unfold ConnManager.round2View Round2View.countLast
  simp only [List.filter_append]
  rfl

/-! ## Full commits -/

section FullCommit

variable {m : MessageRound2FullCommit} {p : MessageRound2Preprepare}
  (hm : e.pMessage = .round2FullCommit m) (hversion : m.header.version = versionLatest)

/-- The state in which a commit starts. -/
def beforeBranch (p : MessageRound2Preprepare) (s : ConnManager) : ConnManager :=
  { s with
    pRound2CurrentStatus := some (.committed p)
    history := s.history ++ [.committed p] }

theorem at_beforeBranch (hs : s.At v) : (beforeBranch p s).At (v.commit p) := by
  refine ⟨?_, hs.2⟩
  rw [← hs.1]
  unfold beforeBranch ConnManager.round2View Round2View.commit
  simp only [List.filter_append]
  rfl

include hm hversion

/-- The full commit for the running round commits the stored Preprepare. -/
theorem fullCommit_committed (hs : s.At v) (hstatus : v.status = some (.waitingForFullcommit p))
    (hstored : v.stored = some p) (hview : m.view = p.view) (hseq : m.seq = p.seq) :
    dispatcherRound2 env ω e s
      = fullCommitBranch env ω m p (.committed p) (beforeBranch p s) (spawnRound2 env ω) := by
  have hst : s.pRound2CurrentStatus = some (.waitingForFullcommit p) := by
    rw [← hstatus, ← hs.1]
    rfl
  have hsto : s.pTemporaryStorageOfPreprepare = some p := by
    rw [← hstored, ← hs.1]
    rfl
  unfold dispatcherRound2
  rw [hm]
  refine (if_neg fun h => h hversion).trans ?_
  dsimp only
  unfold dispatcherRound2FullCommit
  rw [hst]
  dsimp only
  rw [if_neg (by simp [CycleStatus.waitingForFullcommit, CycleStatus.active]),
    show ((CycleStatus.waitingForFullcommit p).state == CycleState.round2WaitingForFullcommit)
      = true from rfl,
    debugThrowElseReturnVoid_true,
    show (m.view == (CycleStatus.waitingForFullcommit p).round2View) = true from by
      rw [hview]; exact beq_self_eq_true _,
    debugThrowElseReturnVoid_true,
    show (m.seq == (CycleStatus.waitingForFullcommit p).round2Sequence) = true from by
      rw [hseq]; exact beq_self_eq_true _,
    debugThrowElseReturnVoid_true]
  split
  · next hnone =>
    rw [hsto] at hnone
    exact absurd hnone (by simp)
  · next q hq =>
    rw [hsto, Option.some.injEq] at hq
    subst hq
    rfl

end FullCommit

end

end RCanopus
