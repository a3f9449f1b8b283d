import RCanopus.Message

/-!
# The status of a cycle, `CycleStatus.h`

The three vectors have one slot for each BG. What a slot holds is read only through its message,
so the recipient list of a stored element is left out.
-/

namespace RCanopus

structure CycleStatus where
  messageReceivedCounter : Nat
  messageRequired : Nat
  awaitingMessageType : MessageType
  round2View : UInt16
  round2Sequence : UInt16
  state : CycleState
  rgMsgRound3FetchResponse : Nat → Option MessageRound3FetchResponse
  rgMsgRound3ConnectivityResponse : Nat → Option MessageRound3FetchResponse
  rgMsgRound3MembershipResponse : Nat → Option MessageRound3FullMembership

namespace CycleStatus

/-- The constructor. It leaves view and sequence unset; they are written before they are read. -/
def new : CycleStatus where
  messageReceivedCounter := 0
  messageRequired := 0
  awaitingMessageType := .invalid
  round2View := 0
  round2Sequence := 0
  state := .notStarted
  rgMsgRound3FetchResponse := fun _ => none
  rgMsgRound3ConnectivityResponse := fun _ => none
  rgMsgRound3MembershipResponse := fun _ => none

/-- The status that waits for the next Preprepare. -/
def waitingForPreprepare : CycleStatus :=
  { new with
    state := .round2WaitingForPreprepare
    awaitingMessageType := .round2Preprepare
    messageReceivedCounter := 0
    messageRequired := 1 }

/-- One assignment of the four fields that always move together. -/
def enter (status : CycleStatus) (state : CycleState) (awaiting : MessageType)
    (required : Nat) : CycleStatus :=
  { status with
    state := state
    awaitingMessageType := awaiting
    messageReceivedCounter := 0
    messageRequired := required }

end CycleStatus

end RCanopus
