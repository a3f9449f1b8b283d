import RCanopus.ExchangeMoves
import RCanopus.Proposals
import RCanopus.Round3Spec

/-!
# The invariant of round 3

`exchange` reads off a state of all SLs what each BG has issued, queued and committed. `Round3Inv`
says that this is a state of the abstract model, for some tokens, and relates the tokens to the
messages between the BGs, the pending requests and the statuses of the cycles.
-/

namespace RCanopus

open Cluster

/-! ## The messages between BGs -/

/-- The kind, the asking BG and the cycle of a request. -/
def Message.requestKey : Message → Option (FetchKind × Nat × UInt16)
  | .round3FetchRequest m => some (.result, m.senderBGid.toNat, m.cycle)
  | .round3GeneralFetch m =>
    some (if m.msgTypeDemanded = MessageType.round3ConnectivityResponse.code then .connectivity
      else .membership, m.senderBGid.toNat, m.cycle)
  | _ => none

/-- The kind, the answering BG and the cycle of a response. -/
def Message.responseKey : Message → Option (FetchKind × Nat × UInt16)
  | .round3FetchResponse m => some (.result, m.senderBGid.toNat, m.cycle)
  | .round3ConnectivityResponse m => some (.connectivity, m.senderBGid.toNat, m.cycle)
  | .round3MembershipResponse m => some (.membership, m.senderBGid.toNat, m.cycle)
  | _ => none

@[simp] theorem Message.requestKey_copy (m : Message) : m.copy.requestKey = m.requestKey := by
  cases m <;> rfl

@[simp] theorem Message.responseKey_copy (m : Message) : m.copy.responseKey = m.responseKey := by
  cases m <;> rfl

theorem Message.requestKey_round2 {m : Message} (h : m.isRound2 = true) : m.requestKey = none := by
  cases m <;> first | rfl | exact absurd h (by simp [isRound2, msgType, MessageType.isRound2])

theorem Message.responseKey_round2 {m : Message} (h : m.isRound2 = true) :
    m.responseKey = none := by
  cases m <;> first | rfl | exact absurd h (by simp [isRound2, msgType, MessageType.isRound2])

/-- How many messages have a key. -/
def countKey (f : Message → Option (FetchKind × Nat × UInt16)) (key : FetchKind × Nat × UInt16)
    (l : Multiset QueueElement) : Nat :=
  l.countP fun e => f e.pMessage = some key

/-! ## The exchange of a cluster -/

/-- The entries of the log that an SL has committed. -/
def entries (σ : Cluster) (y : Peer) : List Entry := (committed σ y).map entryOf

def exchange (σ : Cluster) (token : FetchKind → Nat → Nat → UInt16 → Token) : Exchange where
  log := fun b => (issued σ b).map entryOf
  queue := fun b => (σ (b, 0)).sl.pLeaderRound2PendingPreprepareRaw.map entryOf
  committed := entries σ
  token := token

/-! ## Proposals -/

/-- What the leader of a BG queues and issues. -/
structure Proposal (d : Deployment) (σ : Cluster) (b : Nat) (p : MessageRound2Preprepare) :
    Prop where
  version : p.header.version = versionLatest
  known : p.requestType ∈ [requestTypeFromClient, requestTypeFetchedResult,
    requestTypeLocalConnectivity, requestTypeLocalMembership, requestTypeFullMembership]
  participants : p.requestType ≠ requestTypeFromClient → p.numOfRound3Participants = 0
  home : p.requestType ∈ [requestTypeFromClient, requestTypeLocalConnectivity] →
    p.bGid = UInt16.ofNat b
  client : p.requestType = requestTypeFromClient →
    Numbered (d.clientProposal b p.cycle) p ∧ p.cycle ≠ 0
  fetched : p.requestType = requestTypeFetchedResult →
    ∃ q ∈ issued σ p.bGid.toNat, entryOf q = .client p.cycle ∧ p.Wraps (q.sentBytes d.host)
  full : p.requestType = requestTypeFullMembership → p.Matrices d.host d.conf.numBG
  news : p.requestType ≠ requestTypeFromClient → p.Covers
  connectivity : p.requestType = requestTypeLocalConnectivity →
    p.header.payloadLen.toNat ≤ 20 + d.conf.numBG

/-- What is good in a message that waits at an SL, apart from the messages of round 2. -/
def GoodMessage (d : Deployment) (σ : Cluster) (y : Peer) : Message → Prop
  | .hello _ => False
  | .round2Request m => m.header.version = versionLatest ∧ y.2 = 0
    ∧ m.sender.toNat < d.conf.numSL y.1
  | .round3FetchRequest m => m.header.version = versionLatest
    ∧ d.layout.envoy m.senderBGid.toNat m.cycle = some m.senderSLid.toNat
  | .round3GeneralFetch m => m.header.version = versionLatest
    ∧ d.layout.envoy m.senderBGid.toNat m.cycle = some m.senderSLid.toNat
    ∧ (m.msgTypeDemanded = MessageType.round3ConnectivityResponse.code
      ∨ m.msgTypeDemanded = MessageType.round3MembershipResponse.code)
  | .round3FetchResponse m => m.header.version = versionLatest
    ∧ ∃ q ∈ issued σ m.senderBGid.toNat, entryOf q = .client m.cycle
      ∧ m.Carries (q.sentBytes d.host)
  | .round3ConnectivityResponse m => m.header.version = versionLatest ∧ m.Connects d.conf.numBG
  | .round3MembershipResponse m => m.header.version = versionLatest ∧ m.Ones d.conf.numBG
  | _ => True

/-! ## The status of a cycle -/

/-- The entry that ends a cycle. A single BG has nothing to exchange. -/
def closer (numBG : Nat) (c : UInt16) : Entry :=
  if numBG = 1 then .client c else .fullMembership c

/-- The cycle that an entry ends. -/
def closedCycle (numBG : Nat) : Entry → Option UInt16
  | .client c => if numBG = 1 then some c else none
  | .fullMembership c => if numBG = 1 then none else some c
  | _ => none

theorem closedCycle_eq {numBG : Nat} {e : Entry} {c : UInt16} :
    closedCycle numBG e = some c ↔ e = closer numBG c := by
  unfold closer
  cases e <;> by_cases h : numBG = 1 <;> simp [closedCycle, h]

theorem mem_closed {numBG : Nat} {l : List Entry} {c : UInt16} :
    c ∈ l.filterMap (closedCycle numBG) ↔ closer numBG c ∈ l := by
  simp [List.mem_filterMap, closedCycle_eq]

/-- The answer of an SL to a kind of request, from the committed Preprepare that it is about. -/
def ownAnswer (env : Env) (k : FetchKind) (p : MessageRound2Preprepare) : Message :=
  match k with
  | .result => .round3FetchResponse (getRound3Response env.host p (fullCommitMessage 0 0 0)
      (UInt16.ofNat env.conf.sLid) p.cycle)
  | .connectivity => .round3ConnectivityResponse (getRound3Response env.host p
      (fullCommitMessage 0 0 0) (UInt16.ofNat env.conf.sLid) p.cycle)
  | .membership => .round3MembershipResponse (membershipResponse env.conf p.cycle)

/-- Of how many other BGs a slot is filled. -/
def countOthers (numBG b : Nat) (slot : Nat → Bool) : Nat :=
  ((List.range numBG).filter (· ≠ b)).countP slot

/-- The four fields that always move together. -/
def CycleStatus.In (status : CycleStatus) (state : CycleState) (awaiting : MessageType)
    (counter required : Nat) : Prop :=
  status.state = state ∧ status.awaitingMessageType = awaiting
    ∧ status.messageReceivedCounter = counter ∧ status.messageRequired = required

/-- The status of a cycle at an SL, as what the SL has committed and received makes it. -/
structure StatusOk (d : Deployment) (σ : Cluster) (x : Exchange) (y : Peer) (c : UInt16)
    (status : CycleStatus) : Prop where
  client : .client c ∈ x.committed y
  still : closer d.conf.numBG c ∉ x.committed y
  /-- The own answers. -/
  ready : ∀ k, k.trigger c ∈ x.committed y → ∃ p ∈ committed σ y, entryOf p = k.trigger c
    ∧ ownResponse (d.env y).conf k status = some (ownAnswer (d.env y) k p)
  missing : ∀ k, k.trigger c ∉ x.committed y → ownResponse (d.env y).conf k status = none
  /-- The slots of the other BGs. -/
  results : ∀ A ≠ y.1, (status.rgMsgRound3FetchResponse A).isSome = true
    ↔ .fetched c A ∈ x.committed y
  carries : ∀ A r, status.rgMsgRound3FetchResponse A = some r →
    ∃ q ∈ issued σ A, entryOf q = .client c ∧ r.entirePreprepareMsg = q.sentBytes d.host
  unwrapped : ∀ A ≠ y.1, ∀ r, status.rgMsgRound3FetchResponse A = some r →
    ∃ p ∈ committed σ y, entryOf p = .fetched c A ∧ r = unwrapFetchedResult p
  connectivity : ∀ A ≠ y.1, (status.rgMsgRound3ConnectivityResponse A).isSome = true
    ↔ y.2 = 0 ∧ x.token .connectivity y.1 A c = .done
  membership : ∀ A ≠ y.1, (status.rgMsgRound3MembershipResponse A).isSome = true
    ↔ y.2 = 0 ∧ x.token .membership y.1 A c = .done
  ones : ∀ A m, status.rgMsgRound3MembershipResponse A = some m → m.Ones d.conf.numBG
  /-- The four phases. -/
  collecting : ¬ d.layout.AllOthers y.1 (fun A => .fetched c A ∈ x.committed y) →
    status.In .round3WaitingForReplicatedResults .round3FetchResponse
      (countOthers d.conf.numBG y.1 fun A => (status.rgMsgRound3FetchResponse A).isSome)
      (d.conf.numBG - 1)
  collected : d.layout.AllOthers y.1 (fun A => .fetched c A ∈ x.committed y) →
    .localConnectivity c ∉ x.committed y →
    status.In .round3WaitingForLocalConnectivity .round2FullCommit 0 1
  connecting : .localConnectivity c ∈ x.committed y → .localMembership c ∉ x.committed y →
    status.In .round3WaitingForReplicatedConnectivity .round3ConnectivityResponse
      (countOthers d.conf.numBG y.1 fun A => (status.rgMsgRound3ConnectivityResponse A).isSome)
      (d.conf.numBG - 1)
  joining : .localMembership c ∈ x.committed y →
    status.In .round3WaitingForReplicatedMembership .round3MembershipResponse
      (countOthers d.conf.numBG y.1 fun A => (status.rgMsgRound3MembershipResponse A).isSome)
      (d.conf.numBG - 1)

/-- The entry of `mapRound3Status` for a cycle. -/
def StatusAt (d : Deployment) (σ : Cluster) (x : Exchange) (y : Peer) (c : UInt16) :
    Option CycleStatus → Prop
  | none => .client c ∉ x.committed y ∨ closer d.conf.numBG c ∈ x.committed y
  | some status => StatusOk d σ x y c status

/-! ## The state of one SL -/

/-- The SLs that sent the requests of a list. -/
def requesters (requests : Option (List (UInt16 × UInt16))) : List Peer :=
  (requests.getD []).map fun r => (r.1.toNat, r.2.toNat)

/-- The pending requests of a kind for a cycle are the tokens that wait here. -/
structure PendingOk (d : Deployment) (x : Exchange) (y : Peer) (k : FetchKind) (c : UInt16)
    (requests : Option (List (UInt16 × UInt16))) : Prop where
  nodup : (requesters requests).Nodup
  mem : ∀ z, z ∈ requesters requests
    ↔ x.token k z.1 y.1 c = .pending y.2 ∧ d.layout.envoy z.1 c = some z.2

/-- What an SL has done in round 3. -/
def EventOk (d : Deployment) (σ : Cluster) (y : Peer) : Event → Prop
  | .guardFailed => False
  | .answered k c _ m => ∃ p ∈ committed σ y, entryOf p = k.trigger c
    ∧ m = (ownAnswer (d.env y) k p).copy
  | .round3Committed c status => closer d.conf.numBG c ∈ entries σ y
    ∧ ∀ A < d.conf.numBG, ∃ r, status.rgMsgRound3FetchResponse A = some r
      ∧ ∃ q ∈ issued σ A, entryOf q = .client c ∧ r.entirePreprepareMsg = q.sentBytes d.host
  | _ => True

/-- The cycles that were passed to `round3_committed`. -/
def closedOf (events : List Event) : List UInt16 :=
  events.filterMap fun
    | .round3Committed c _ => some c
    | _ => none

structure SlOk (d : Deployment) (σ : Cluster) (x : Exchange) (y : Peer) (s : ConnManager) :
    Prop where
  status : ∀ c, StatusAt d σ x y c (s.mapRound3Status c)
  pending : ∀ k c, PendingOk d x y k c (s.mapRound3PendingRequests k c)
  storage : s.pStorage = (x.committed y).filterMap (closedCycle d.conf.numBG)
  closed : closedOf s.history = s.pStorage
  events : ∀ ev ∈ s.history, EventOk d σ y ev
  proposals : ∀ p ∈ s.pLeaderRound2PendingPreprepareRaw, Proposal d σ y.1 p

/-! ## The invariant -/

def clientCycle : Entry → Option UInt16
  | .client c => some c
  | _ => none

/-- The cycles of the client Preprepares that a leader has issued. -/
def clientCycles (σ : Cluster) (b : Nat) : List UInt16 :=
  ((issued σ b).map entryOf).filterMap clientCycle

/-- The leader numbers the client cycles from 1 on and moves the envoys along. -/
structure ClientsOk (d : Deployment) (σ : Cluster) (b : Nat) : Prop where
  cycles : clientCycles σ b
    = (List.range (clientCycles σ b).length).map fun k => UInt16.ofNat (k + 1)
  nextCycle : (σ (b, 0)).sl.leaderRound2NextRcanopusCycle
    = UInt16.ofNat ((clientCycles σ b).length + 1)
  envoysRr : (σ (b, 0)).sl.leaderEnvoysRr = envoysRrAt d.conf b (clientCycles σ b).length

/-- **The invariant of round 3**, for some tokens. -/
structure Round3Inv (d : Deployment) (σ : Cluster)
    (token : FetchKind → Nat → Nat → UInt16 → Token) : Prop where
  inv : (exchange σ token).Inv d.layout
  sl : ∀ y, SlOk d σ (exchange σ token) y (σ y).sl
  issued : ∀ b, ∀ p ∈ issued σ b, Proposal d σ b p
  clients : ∀ b, ClientsOk d σ b
  requests : ∀ y k b c, countKey Message.requestKey (k, b, c) (pool σ y)
    = if token k b y.1 c = .asked y.2 then 1 else 0
  responses : ∀ y k A c, countKey Message.responseKey (k, A, c) (pool σ y)
    = if token k y.1 A c = .answered y.2 then 1 else 0
  good : ∀ y, ∀ e ∈ pool σ y, GoodMessage d σ y e.pMessage

end RCanopus
