import Mathlib.Data.List.Basic

/-!
# Constants and enumerations

The values of `const.h`, the message types of `message.h`, the cycle states of `CycleStatus.h`
and the exceptions that the round 2 and round 3 code throws.
-/

namespace RCanopus

/-! ## `const.h` -/

/-- `VERSION_LATEST`, which is `VERSION_1_0`. -/
def versionLatest : UInt16 := 1

def sbftHashSize : Nat := 32

def sbftSignatureSize : Nat := 32

def sbftCombinedSignatureSize : Nat := 32

def requestBatchSize : Nat := 1024 * 1024

/-- `PIPE_READ_BUFFER`, a `size_t`. -/
def pipeReadBuffer : Nat := 64

def requestTypeFromClient : UInt16 := 0

def requestTypeFetchedResult : UInt16 := 1

def requestTypeLocalConnectivity : UInt16 := 2

def requestTypeRemoteConnectivity : UInt16 := 3

def requestTypeLocalMembership : UInt16 := 4

def requestTypeFullMembership : UInt16 := 5

def invalidSenderId : UInt16 := 0xFFFF

/-! ## Enumerations -/

/-- The `MESSAGE_*` constants that `ConnManager.cpp` uses. -/
inductive MessageType where
  | invalid
  | hello
  | round2Request
  | round2Preprepare
  | round2PartialCommit
  | round2FullCommit
  | round3FetchRequest
  | round3FetchResponse
  | round3GeneralFetch
  | round3ConnectivityResponse
  | round3MembershipResponse
  | empty
  deriving DecidableEq, Repr

/-- The number of a message type on the wire. The three baseline types take 11 to 13. -/
def MessageType.code : MessageType → UInt16
  | .invalid => 0
  | .hello => 1
  | .round2Request => 2
  | .round2Preprepare => 3
  | .round2PartialCommit => 4
  | .round2FullCommit => 5
  | .round3FetchRequest => 6
  | .round3FetchResponse => 7
  | .round3GeneralFetch => 8
  | .round3ConnectivityResponse => 9
  | .round3MembershipResponse => 10
  | .empty => 14

/-- The states of `CycleState` that `ConnManager.cpp` uses. -/
inductive CycleState where
  | notStarted
  | round2WaitingForPreprepare
  | round2CollectorWaitingForPartialcommits
  | round2WaitingForFullcommit
  | round2Committed
  | round3WaitingForReplicatedResults
  | round3WaitingForLocalConnectivity
  | round3WaitingForReplicatedConnectivity
  | round3WaitingForLocalMembership
  | round3WaitingForReplicatedMembership
  | round3Committed
  deriving DecidableEq, Repr

/-- What the code throws. `nullPointer` stands for the dereference of an empty slot. -/
inductive Exception where
  | debugFailfast
  | messageInvalidVersion
  | messageInvalidType
  | messageInvalidRequestType
  | unexpected
  | verifierNotSet
  | preprepareMissing
  | cycleNotInRound3
  | unexpectedCycleState
  | noEnvoySelected
  | nullPointer
  deriving DecidableEq, Repr

end RCanopus
