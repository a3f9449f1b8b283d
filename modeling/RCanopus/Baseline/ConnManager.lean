import RCanopus.Round2

/-!
# The state of one SL, `ConnManager_Baseline.cpp`

The baseline variant of the class. Its round 2 is that of `ConnManager.cpp` up to the full commits:
the functions for requests, Preprepares and partial commits and those that start a round are the
same in both files. They work on the field `common`, and their definitions are used here.

Round 3 has three more messages, three more states of a cycle, and a template for late answers.
-/

namespace RCanopus.Baseline

/-! ## Messages -/

structure MessageRound3PreprepareBaseline where
  header : MessageHeader
  sender : UInt16
  cycle : UInt16
  collectorBGid : UInt16
  content : List UInt8
  deriving DecidableEq, Repr

structure MessageRound3PartialCommitBaseline where
  header : MessageHeader
  sender : UInt16
  cycle : UInt16
  signature : Signature
  deriving DecidableEq, Repr

structure MessageRound3FullCommitBaseline where
  header : MessageHeader
  sender : UInt16
  cycle : UInt16
  combinedSignature : Signature
  deriving DecidableEq, Repr

def sizeofMessageRound3PreprepareBaseline : Nat := 14

def sizeofMessageRound3PartialCommitBaseline : Nat := 44

def sizeofMessageRound3FullCommitBaseline : Nat := 44

/-- A message of any type. The first kind is shared with `ConnManager.cpp`. -/
inductive Message where
  | common (m : RCanopus.Message)
  | round3Preprepare (m : MessageRound3PreprepareBaseline)
  | round3PartialCommit (m : MessageRound3PartialCommitBaseline)
  | round3FullCommit (m : MessageRound3FullCommitBaseline)
  deriving DecidableEq, Repr

def Message.header : Message → MessageHeader
  | .common m => m.header
  | .round3Preprepare m => m.header
  | .round3PartialCommit m => m.header
  | .round3FullCommit m => m.header

/-- A copy of `getMessageSize` bytes of a message. -/
def Message.copy : Message → Message
  | .common m => .common m.copy
  | .round3Preprepare m =>
    .round3Preprepare { m with
      content :=
        m.content.take (m.header.getMessageSize - sizeofMessageRound3PreprepareBaseline) }
  | m => m

inductive MessageType where
  | common (t : RCanopus.MessageType)
  | round3PreprepareBaseline
  | round3PartialCommitBaseline
  | round3FullCommitBaseline
  deriving DecidableEq, Repr

/-- An element of a queue. `none` in the list is the null connection, the SL itself. -/
structure QueueElement where
  upPeers : List (Option Peer)
  pMessage : Message
  deriving DecidableEq, Repr

/-- An element with a message that `ConnManager.cpp` has too. -/
def QueueElement.common (e : RCanopus.QueueElement) : QueueElement where
  upPeers := e.upPeers
  pMessage := .common e.pMessage

/-! ## The status of a cycle -/

inductive CycleState where
  | common (state : RCanopus.CycleState)
  | round3WaitingForPreprepareBaseline
  | round3CollectorWaitingForPartialcommitsBaseline
  | round3WaitingForFullcommitBaseline
  deriving DecidableEq, Repr

/-- The status of a cycle in round 3. Only the fetched results are kept in a vector here. -/
structure CycleStatus where
  messageReceivedCounter : Nat
  messageRequired : Nat
  awaitingMessageType : MessageType
  round2View : UInt16
  round2Sequence : UInt16
  state : CycleState
  rgMsgRound3FetchResponse : Nat → Option MessageRound3FetchResponse

namespace CycleStatus

/-- The status that round 2 hands over to round 3. -/
def ofRound2 (status : RCanopus.CycleStatus) : CycleStatus where
  messageReceivedCounter := status.messageReceivedCounter
  messageRequired := status.messageRequired
  awaitingMessageType := .common status.awaitingMessageType
  round2View := status.round2View
  round2Sequence := status.round2Sequence
  state := .common status.state
  rgMsgRound3FetchResponse := status.rgMsgRound3FetchResponse

/-- One assignment of the four fields that always move together. -/
def enter (status : CycleStatus) (state : CycleState) (awaiting : MessageType)
    (required : Nat) : CycleStatus :=
  { status with
    state := state
    awaitingMessageType := awaiting
    messageReceivedCounter := 0
    messageRequired := required }

/-- A response in its slot. -/
def fill (status : CycleStatus) (m : MessageRound3FetchResponse) : CycleStatus :=
  { status with
    rgMsgRound3FetchResponse := Function.update status.rgMsgRound3FetchResponse
      m.senderBGid.toNat (some m) }

end CycleStatus

/-! ## History -/

/-- Where the answer to a fetch request comes from. -/
inductive ReplySource where
  /-- The cycle is in `mapRound3Status`. -/
  | status
  /-- The request had to wait in `mapRound3PendingFetchRequests`. -/
  | pending
  /-- The cycle was erased, and the answer is `fakeRound3ResponseForBaseline`. -/
  | template
  deriving DecidableEq, Repr

/-- What an SL has done in round 3. Its history in round 2 is in `common`. -/
inductive Event where
  | guardFailed
  /-- A request for `cycle` from `recipient` was answered with this message. -/
  | answered (source : ReplySource) (cycle : UInt16) (recipient : UInt16 × UInt16)
    (m : MessageRound3FetchResponse)
  /-- The status left `ROUND3_WAITING_FOR_REPLICATED_RESULTS`. -/
  | fetched (cycle : UInt16) (status : CycleStatus)
  /-- A full commit for the local connectivity took effect. -/
  | committedConnectivity (cycle : UInt16)
  | sentPreprepare (m : MessageRound3PreprepareBaseline)
  /-- A partial commit was queued for the leader of this BG. -/
  | sentPartialCommit (collector : Nat) (m : MessageRound3PartialCommitBaseline)
  | countedPartialCommit (m : MessageRound3PartialCommitBaseline)
  | sentFullCommit (m : MessageRound3FullCommitBaseline)
  | round3Committed (cycle : UInt16)

/-! ## The class -/

structure ConnManager where
  /-- The fields that round 2 works on. The queues and the round 3 fields of it are not used. -/
  common : RCanopus.ConnManager
  juggleQueue : List QueueElement
  sendQueue : List QueueElement
  mapRound3Status : UInt16 → Option CycleStatus
  mapRound3PendingFetchRequests : UInt16 → Option (List (UInt16 × UInt16))
  fakeRound3ResponseForBaseline : Option MessageRound3FetchResponse
  pStorage : List UInt16
  history : List Event

/-- How a handler ends. `ok` is also a return through `DebugThrowElseReturnVoid`. -/
inductive Outcome where
  | ok (s : ConnManager)
  | thrown (e : Exception) (s : ConnManager)

namespace Outcome

/-- The state in which a handler leaves the SL. -/
def state : Outcome → ConnManager
  | ok s => s
  | thrown _ s => s

/-- What follows a call, unless the call throws. -/
def andThen : Outcome → (ConnManager → Outcome) → Outcome
  | ok s, k => k s
  | thrown e s, _ => thrown e s

@[simp] theorem state_ok (s : ConnManager) : (ok s).state = s := rfl

@[simp] theorem state_thrown (e : Exception) (s : ConnManager) : (thrown e s).state = s := rfl

@[simp] theorem andThen_ok (s : ConnManager) (k : ConnManager → Outcome) :
    (ok s).andThen k = k s := rfl

@[simp] theorem andThen_thrown (e : Exception) (s : ConnManager) (k : ConnManager → Outcome) :
    (thrown e s).andThen k = thrown e s := rfl

end Outcome

namespace ConnManager

/-- The constructor. -/
def init : ConnManager where
  common := .init
  juggleQueue := []
  sendQueue := []
  mapRound3Status := fun _ => none
  mapRound3PendingFetchRequests := fun _ => none
  fakeRound3ResponseForBaseline := none
  pStorage := []
  history := []

/-- `juggle`. -/
def juggle (s : ConnManager) (pElement : QueueElement) : ConnManager :=
  { s with juggleQueue := s.juggleQueue ++ [pElement] }

/-- `sendQueue.enqueue`. -/
def enqueue (s : ConnManager) (element : QueueElement) : ConnManager :=
  { s with sendQueue := s.sendQueue ++ [element] }

/-- Add to the history. -/
def note (s : ConnManager) (ev : Event) : ConnManager := { s with history := s.history ++ [ev] }

/-- An assignment to `mapRound3Status[cycle]` or through an iterator to it. -/
def setStatus (s : ConnManager) (cycle : UInt16) (status : CycleStatus) : ConnManager :=
  { s with mapRound3Status := Function.update s.mapRound3Status cycle (some status) }

/-- An assignment to an entry of `mapRound3PendingFetchRequests`. -/
def setPending (s : ConnManager) (cycle : UInt16) (requests : List (UInt16 × UInt16)) :
    ConnManager :=
  { s with
    mapRound3PendingFetchRequests :=
      Function.update s.mapRound3PendingFetchRequests cycle (some requests) }

/-- The fields of round 2 for a call, with nothing in the queues. -/
def round2 (s : ConnManager) : RCanopus.ConnManager :=
  { s.common with juggleQueue := [], sendQueue := [] }

/-- The fields of round 2 after a call. What was juggled and sent goes behind what is there. -/
def absorb (s : ConnManager) (c : RCanopus.ConnManager) : ConnManager :=
  { s with
    common := c
    juggleQueue := s.juggleQueue ++ c.juggleQueue.map .common
    sendQueue := s.sendQueue ++ c.sendQueue.map .common }

end ConnManager

/-- A function that is the same in `ConnManager.cpp`. -/
def shared (f : RCanopus.ConnManager → RCanopus.Outcome) (s : ConnManager) : Outcome :=
  match f s.round2 with
  | .ok c => .ok (s.absorb c)
  | .thrown e c => .thrown e (s.absorb c)

/-! ## The macros of `exception.h` -/

/-- `DebugThrow`: throws in the `DEBUG_FAILFAST` build and does nothing in the other. -/
def debugThrow (env : Env) (flag : Bool) (s : ConnManager) (k : ConnManager → Outcome) :
    Outcome :=
  if flag then k s
  else if env.debugFailfast then .thrown .debugFailfast (s.note .guardFailed)
  else k (s.note .guardFailed)

/-- `DebugThrowElseReturnVoid`: throws in the `DEBUG_FAILFAST` build and returns in the other. -/
def debugThrowElseReturnVoid (env : Env) (flag : Bool) (s : ConnManager)
    (k : ConnManager → Outcome) : Outcome :=
  if flag then k s
  else if env.debugFailfast then .thrown .debugFailfast (s.note .guardFailed)
  else .ok (s.note .guardFailed)

@[simp] theorem debugThrow_true (env : Env) (s : ConnManager) (k : ConnManager → Outcome) :
    debugThrow env true s k = k s := rfl

@[simp] theorem debugThrowElseReturnVoid_true (env : Env) (s : ConnManager)
    (k : ConnManager → Outcome) : debugThrowElseReturnVoid env true s k = k s := rfl

end RCanopus.Baseline
