import RCanopus.Builder
import RCanopus.CycleStatus
import Mathlib.Logic.Function.Basic

/-!
# The state of one SL, `ConnManager.h`

`ConnManager` holds the fields that the main loop of `start()` reads and writes. What does not
change while it runs is in `Env`, and every random or unspecified choice is in `Choice`.

The handlers are functions from a state to an `Outcome`. The macros of `exception.h` take the rest
of the handler as a continuation, because a failed check may leave the handler early.
-/

namespace RCanopus

/-- The server that a connection leads to: its BG and its SL. -/
abbrev Peer := Nat × Nat

/-- An element of a queue. `none` in the list is the null connection, the SL itself. -/
structure QueueElement where
  upPeers : List (Option Peer)
  pMessage : Message
  deriving DecidableEq, Repr

/-- The signature check that `setVerifier` installs: message, size, signature, signature size. -/
abbrev SigVerifier := List UInt8 → Nat → List UInt8 → Nat → Bool

/-- `fakeVerifier` of `server.cpp`. -/
def fakeVerifier : SigVerifier := fun _ _ sig sigsize =>
  (List.range sigsize).all fun i => sig.getD i 0 == 0

/-- What is fixed while an SL runs. `debugFailfast` is the `DEBUG_FAILFAST` build. -/
structure Env where
  conf : Config
  host : Endian
  debugFailfast : Bool
  round2Verifier : Option SigVerifier

/--
The choices of one call of the dispatcher: which SL of each remote BG `m_engine` draws, and which
of several greatest elements the priority queue has on top.
-/
structure Choice where
  draw : Nat → Nat
  top : Nat

/-- The three kinds of requests of round 3. -/
inductive FetchKind where
  | result
  | connectivity
  | membership
  deriving DecidableEq, Repr

/-! ## History

What an SL has done so far. No handler reads it; the properties are stated over it.
-/

inductive Event where
  /-- A check of one of the macros failed. -/
  | guardFailed
  /-- `leader_round2_sendPreprepare` queued this Preprepare for sending. -/
  | issued (pPreprepare : MessageRound2Preprepare)
  /-- `dispatcher_round2_preprepare` stored this Preprepare. -/
  | accepted (pPreprepare : MessageRound2Preprepare)
  /-- A partial commit from `sender` was counted while the status had this view and sequence. -/
  | counted (sender : Option Peer) (pPartialC : MessageRound2PartialCommit) (view seq : UInt16)
  /-- A full commit was queued when the counter had this value. -/
  | sentFullCommit (pFullC : MessageRound2FullCommit) (counter : Nat)
  /-- `dispatcher_round2_fullCommit` committed this Preprepare. -/
  | committed (pPreprepare : MessageRound2Preprepare)
  /-- A request of this kind from `recipient` was answered with this message. -/
  | answered (kind : FetchKind) (cycle : UInt16) (recipient : UInt16 × UInt16) (m : Message)
  /-- `round3_committed` erased this status. -/
  | round3Committed (cycle : UInt16) (status : CycleStatus)

/-! ## The class -/

structure ConnManager where
  juggleQueue : List QueueElement
  sendQueue : List QueueElement
  mapRound3Status : UInt16 → Option CycleStatus
  /-- The three maps `mapRound3PendingFetchRequests`, `mapRound3PendingConnectivityRequests` and
  `mapRound3PendingMembershipRequests`. -/
  mapRound3PendingRequests : FetchKind → UInt16 → Option (List (UInt16 × UInt16))
  rgLeaderBatchReceivedFrom : Nat → Nat
  leaderBatchReceivedFromSelf : Nat
  leaderBatchProcessed : Nat
  leaderRound2NextRcanopusCycle : UInt16
  round2NextView : UInt16
  round2NextSeq : UInt16
  pRound2CurrentStatus : Option CycleStatus
  pTemporaryStorageOfPreprepare : Option MessageRound2Preprepare
  pLeaderRound2PendingPreprepareRaw : List MessageRound2Preprepare
  leaderCollectorRr : UInt16
  leaderEnvoysRr : UInt16
  round2IsCollector : Bool
  /-- The completed cycles of `pStorage`, in the order of the calls of `store`. -/
  pStorage : List UInt16
  history : List Event

/-- How a handler ends. `ok` is also a return through `DebugThrowElseReturnVoid`. -/
inductive Outcome where
  | ok (s : ConnManager)
  | thrown (e : Exception) (s : ConnManager)

namespace Outcome

/-- The state in which a handler leaves the SL. -/
def state : Outcome → ConnManager
  | ok s => s
  | thrown _ s => s

/-- What follows a call, unless the call throws. -/
def andThen : Outcome → (ConnManager → Outcome) → Outcome
  | ok s, k => k s
  | thrown e s, _ => thrown e s

@[simp] theorem state_ok (s : ConnManager) : (ok s).state = s := rfl

@[simp] theorem state_thrown (e : Exception) (s : ConnManager) : (thrown e s).state = s := rfl

@[simp] theorem andThen_ok (s : ConnManager) (k : ConnManager → Outcome) :
    (ok s).andThen k = k s := rfl

@[simp] theorem andThen_thrown (e : Exception) (s : ConnManager) (k : ConnManager → Outcome) :
    (thrown e s).andThen k = thrown e s := rfl

end Outcome

namespace ConnManager

/-- The constructor. -/
def init : ConnManager where
  juggleQueue := []
  sendQueue := []
  mapRound3Status := fun _ => none
  mapRound3PendingRequests := fun _ _ => none
  rgLeaderBatchReceivedFrom := fun _ => 0
  leaderBatchReceivedFromSelf := 0
  leaderBatchProcessed := 0
  leaderRound2NextRcanopusCycle := 1
  round2NextView := 1
  round2NextSeq := 1
  pRound2CurrentStatus := none
  pTemporaryStorageOfPreprepare := none
  pLeaderRound2PendingPreprepareRaw := []
  leaderCollectorRr := 0
  leaderEnvoysRr := 0
  round2IsCollector := false
  pStorage := []
  history := []

/-- `juggle`. -/
def juggle (s : ConnManager) (pElement : QueueElement) : ConnManager :=
  { s with juggleQueue := s.juggleQueue ++ [pElement] }

/-- `sendQueue.enqueue`. -/
def enqueue (s : ConnManager) (element : QueueElement) : ConnManager :=
  { s with sendQueue := s.sendQueue ++ [element] }

/-- Add to the history. -/
def note (s : ConnManager) (ev : Event) : ConnManager := { s with history := s.history ++ [ev] }

/-- An assignment to `mapRound3Status[cycle]` or through an iterator to it. -/
def setStatus (s : ConnManager) (cycle : UInt16) (status : CycleStatus) : ConnManager :=
  { s with mapRound3Status := Function.update s.mapRound3Status cycle (some status) }

/-- An assignment to an entry of one of the three pending maps. -/
def setPending (s : ConnManager) (kind : FetchKind) (cycle : UInt16)
    (requests : List (UInt16 × UInt16)) : ConnManager :=
  { s with
    mapRound3PendingRequests := Function.update s.mapRound3PendingRequests kind
      (Function.update (s.mapRound3PendingRequests kind) cycle (some requests)) }

end ConnManager

/-! ## The macros of `exception.h` -/

/-- `DebugThrow`: throws in the `DEBUG_FAILFAST` build and does nothing in the other. -/
def debugThrow (env : Env) (flag : Bool) (s : ConnManager) (k : ConnManager → Outcome) :
    Outcome :=
  if flag then k s
  else if env.debugFailfast then .thrown .debugFailfast (s.note .guardFailed)
  else k (s.note .guardFailed)

/-- `DebugThrowElseReturnVoid`: throws in the `DEBUG_FAILFAST` build and returns in the other. -/
def debugThrowElseReturnVoid (env : Env) (flag : Bool) (s : ConnManager)
    (k : ConnManager → Outcome) : Outcome :=
  if flag then k s
  else if env.debugFailfast then .thrown .debugFailfast (s.note .guardFailed)
  else .ok (s.note .guardFailed)

@[simp] theorem debugThrow_true (env : Env) (s : ConnManager) (k : ConnManager → Outcome) :
    debugThrow env true s k = k s := rfl

@[simp] theorem debugThrowElseReturnVoid_true (env : Env) (s : ConnManager)
    (k : ConnManager → Outcome) : debugThrowElseReturnVoid env true s k = k s := rfl

/-- A check that did not stop the handler is at most a line in the history. -/
theorem debugThrow_ok {env : Env} {flag : Bool} {s s' : ConnManager} {k : ConnManager → Outcome}
    (h : debugThrow env flag s k = .ok s') :
    ∃ history, k { s with history } = .ok s' := by
  unfold debugThrow at h
  split at h
  · exact ⟨s.history, h⟩
  · split at h
    · exact absurd h (by simp)
    · exact ⟨_, h⟩

end RCanopus
