import RCanopus.Config
import RCanopus.Message

/-!
# The message builders

One function for each place of `ConnManager.cpp` and `message.cpp` that allocates a message and
fills it in, with the size computations of that place. The handlers call them.
-/

namespace RCanopus

/-! ## Client batches and ticks -/

/-- The batch that `mockClient` sends. Its content is what the allocation happened to hold. -/
def mockClientRequest (sLid : Nat) (content : List UInt8) : MessageRound2Request where
  header :=
    { version := versionLatest
      payloadLen := UInt32.ofNat
        (sizeofMessageRound2Request + requestBatchSize - sizeofMessageHeader) }
  sender := UInt16.ofNat sLid
  content := content

/-- The message that `listener` queues when the pipe to itself is readable. -/
def emptyMessage : MessageEmpty where
  header := { version := versionLatest, payloadLen := 0 }

/-! ## Round 2 -/

/-- `rr++` with the wrap at the number of SLs, for `leader_envoys_rr` and `leader_collector_rr`. -/
def nextRoundRobin (numSL : Nat) (rr : UInt16) : UInt16 :=
  if (rr + 1).toNat = numSL then 0 else rr + 1

/-- The loop that lists the envoys and moves `leader_envoys_rr`. -/
def envoyRoundRobin (numSL : Nat) : Nat → UInt16 → List UInt16 × UInt16
  | 0, rr => ([], rr)
  | k + 1, rr =>
    let next := envoyRoundRobin numSL k (nextRoundRobin numSL rr)
    (rr :: next.1, next.2)

/-- `round3_participants_num`. -/
def round3ParticipantsNum (conf : Config) : Int :=
  (conf.numSL conf.bGid : Int) - conf.getF conf.bGid

/-- `requestSize` of a client Preprepare. -/
def clientRequestSize (conf : Config) : Nat := conf.numSL conf.bGid * requestBatchSize

/-- `payloadSize` of a client Preprepare: the participants and the requests. -/
def clientPayloadSize (conf : Config) : Nat :=
  (2 * sizeOfInt (round3ParticipantsNum conf) + clientRequestSize conf) % 2 ^ 64

/--
The client Preprepare of `leader_round2_sendPreprepare`, before the common parts.

The allocation is `sizeof(MessageRound2Preprepare) + payloadSize` but `payloadLen` is
`payloadSize`, without the fixed fields. With more failures than SLs the `memset` of the content
would start in front of `participantsAndContent`; no valid configuration has that.
-/
def clientPreprepare (h : Endian) (conf : Config) (cycle envoysRr : UInt16) :
    MessageRound2Preprepare where
  header := { version := versionLatest, payloadLen := UInt32.ofNat (clientPayloadSize conf) }
  sender := UInt16.ofNat conf.sLid
  view := 0
  seq := 0
  bGid := UInt16.ofNat conf.bGid
  requestType := requestTypeFromClient
  cycle := cycle
  lastcycle := cycle - 1
  collectorSLid := 0
  numOfRound3Participants := UInt16.ofInt (round3ParticipantsNum conf)
  participantsAndContent :=
    (envoyRoundRobin (conf.numSL conf.bGid) (round3ParticipantsNum conf).toNat envoysRr).1.flatMap
        (u16Bytes h)
      ++ List.replicate (clientRequestSize conf) (UInt8.ofNat cycle.toNat)

/-- The partial commit that answers an accepted Preprepare. -/
def partialCommitMessage (sLid : Nat) (view seq : UInt16) : MessageRound2PartialCommit where
  header :=
    { version := versionLatest
      payloadLen := UInt32.ofNat (sizeofMessageRound2PartialCommit - sizeofMessageHeader) }
  sender := UInt16.ofNat sLid
  view := view
  seq := seq
  signature := zeroSignature

/-- The full commit that the collector broadcasts. -/
def fullCommitMessage (sLid : Nat) (view seq : UInt16) : MessageRound2FullCommit where
  header :=
    { version := versionLatest
      payloadLen := UInt32.ofNat (sizeofMessageRound2FullCommit - sizeofMessageHeader) }
  sender := UInt16.ofNat sLid
  view := view
  seq := seq
  combinedSignature := zeroSignature

/-! ## Round 3 -/

/-- `getRound3Response_caller_free_mem`. -/
def getRound3Response (h : Endian) (pPreprepare : MessageRound2Preprepare)
    (pFullC : MessageRound2FullCommit) (sLid : UInt16) (cycle : UInt16) :
    MessageRound3FetchResponse where
  header :=
    { version := pPreprepare.header.version
      payloadLen := UInt32.ofNat
        (sizeofMessageRound3FetchResponse + pPreprepare.header.getMessageSize
          - sizeofMessageHeader) }
  senderBGid := pPreprepare.bGid
  senderSLid := sLid
  cycle := cycle
  combinedSignature := pFullC.combinedSignature
  entirePreprepareMsg := (pPreprepare.bytes h).take pPreprepare.header.getMessageSize

/-- Offsets of the fields of a Preprepare that are read through a cast. -/
def preprepareCycleOffset : Nat := 18

def preprepareLastcycleOffset : Nat := 20

def preprepareNumOfRound3ParticipantsOffset : Nat := 24

/-- `getRound3Request_caller_free_mem`, without its assertion. -/
def getRound3Request (h : Endian) (pResponse : MessageRound3FetchResponse) :
    MessageRound3FetchRequest where
  header :=
    { version := pResponse.header.version
      payloadLen := UInt32.ofNat (sizeofMessageRound3FetchRequest - sizeofMessageHeader) }
  senderBGid := pResponse.senderBGid
  senderSLid := pResponse.senderSLid
  cycle := pResponse.cycle
  hash :=
    { bGid := pResponse.senderBGid
      cycle := u16At h pResponse.entirePreprepareMsg preprepareCycleOffset
      lastcycle := u16At h pResponse.entirePreprepareMsg preprepareLastcycleOffset
      hash := Vector.replicate sbftHashSize 0 }
  combinedSignature := pResponse.combinedSignature

/-- What the assertion of `getRound3Request_caller_free_mem` checks. -/
def getRound3RequestCheck (pRequest : MessageRound3FetchRequest) : Bool :=
  decide (pRequest.hash.lastcycle < pRequest.cycle ∧ pRequest.cycle ≤ pRequest.hash.cycle)

/-- The general fetch of the two later phases. -/
def generalFetchMessage (conf : Config) (cycle : UInt16) (demanded : MessageType) :
    MessageRound3GeneralFetch where
  header :=
    { version := versionLatest
      payloadLen := UInt32.ofNat (sizeofMessageRound3GeneralFetch - sizeofMessageHeader) }
  senderBGid := UInt16.ofNat conf.bGid
  senderSLid := UInt16.ofNat conf.sLid
  cycle := cycle
  msgTypeDemanded := demanded.code

/-- The Preprepare that replicates a fetched result, as the leader queues it. -/
def fetchedResultPreprepare (sLid : Nat) (pFResp : MessageRound3FetchResponse) :
    MessageRound2Preprepare :=
  let remotePreprepareSize := sizeSub pFResp.header.payloadLen.toNat
    (sizeofMessageRound3FetchResponse - sizeofMessageHeader)
  let localMessageSize := remotePreprepareSize + sbftCombinedSignatureSize
  let totalSize := sizeofMessageRound2Preprepare + localMessageSize
  { header :=
      { version := versionLatest
        payloadLen := UInt32.ofNat (totalSize - sizeofMessageHeader) }
    sender := UInt16.ofNat sLid
    view := 0
    seq := 0
    bGid := pFResp.senderBGid
    requestType := requestTypeFetchedResult
    cycle := pFResp.cycle
    lastcycle := pFResp.cycle - 1
    collectorSLid := 0
    numOfRound3Participants := 0
    participantsAndContent :=
      pFResp.combinedSignature.toList ++ pFResp.entirePreprepareMsg.take remotePreprepareSize }

/-- The response that is unwrapped from a committed Preprepare: the other end of the above. -/
def unwrapFetchedResult (pPreprepare : MessageRound2Preprepare) : MessageRound3FetchResponse :=
  let remotePreprepareSize := sizeSub
    (sizeSub (pPreprepare.header.payloadLen.toNat + sizeofMessageHeader)
      sizeofMessageRound2Preprepare) sbftCombinedSignatureSize
  { header :=
      { version := versionLatest
        payloadLen := UInt32.ofNat
          (sizeofMessageRound3FetchResponse - sizeofMessageHeader + remotePreprepareSize) }
    senderBGid := pPreprepare.bGid
    senderSLid := invalidSenderId
    cycle := pPreprepare.cycle
    combinedSignature := signatureOfBytes pPreprepare.participantsAndContent
    entirePreprepareMsg :=
      (pPreprepare.participantsAndContent.drop sbftCombinedSignatureSize).take
        remotePreprepareSize }

/-- The Preprepare that replicates which results the BG has, as the leader queues it. -/
def localConnectivityPreprepare (h : Endian) (conf : Config) (cycle : UInt16)
    (present : Nat → Bool) : MessageRound2Preprepare :=
  let connectivitySize := 2 + conf.numBG
  { header :=
      { version := versionLatest
        payloadLen := UInt32.ofNat
          (sizeofMessageRound2Preprepare - sizeofMessageHeader + connectivitySize) }
    sender := UInt16.ofNat conf.sLid
    view := 0
    seq := 0
    bGid := UInt16.ofNat conf.bGid
    requestType := requestTypeLocalConnectivity
    cycle := cycle
    lastcycle := cycle - 1
    collectorSLid := 0
    numOfRound3Participants := 0
    participantsAndContent :=
      u16Bytes h (UInt16.ofNat conf.numBG)
        ++ (List.range conf.numBG).map fun i => if present i then 1 else 0 }

/-- `totalLocalMsgSize`: the loop runs over all slots but reads the size of the last response. -/
def localMembershipSize (conf : Config) (pConn : MessageRound3FetchResponse) : Nat :=
  conf.numBG *
    (sizeSub pConn.header.payloadLen.toNat
      (sizeofMessageRound3FetchResponse + sizeofMessageHeader) + sbftCombinedSignatureSize)
    % 2 ^ 64

/-- The Preprepare that replicates the connectivity of all BGs, as the leader queues it. -/
def localMembershipPreprepare (conf : Config) (pConn : MessageRound3FetchResponse) :
    MessageRound2Preprepare :=
  let totalLocalMsgSize := localMembershipSize conf pConn
  let totalSize := sizeofMessageRound2Preprepare + totalLocalMsgSize
  { header :=
      { version := versionLatest
        payloadLen := UInt32.ofNat (totalSize - sizeofMessageHeader) }
    sender := UInt16.ofNat conf.sLid
    view := 0
    seq := 0
    bGid := pConn.senderBGid
    requestType := requestTypeLocalMembership
    cycle := pConn.cycle
    lastcycle := pConn.cycle - 1
    collectorSLid := 0
    numOfRound3Participants := 0
    participantsAndContent := List.replicate totalLocalMsgSize 0 }

/-- The membership response of an SL, filled in when its BG commits the local membership. -/
def membershipResponse (conf : Config) (cycle : UInt16) : MessageRound3FullMembership :=
  let membershipSize := conf.numBG * conf.numBG
  { header :=
      { version := versionLatest
        payloadLen := UInt32.ofNat
          (sizeofMessageRound3FullMembership - sizeofMessageHeader + membershipSize) }
    senderBGid := UInt16.ofNat conf.bGid
    senderSLid := UInt16.ofNat conf.sLid
    combinedSignature := zeroSignature
    cycle := cycle
    totalBGnum := UInt16.ofNat conf.numBG
    connectivity :=
      (List.range conf.numBG).flatMap fun _ => (List.range conf.numBG).map fun _ => 1 }

/-- The membership response that is made up after the cycle was erased. -/
def fakeMembershipResponse (conf : Config) (cycle : UInt16) : MessageRound3FullMembership where
  header :=
    { version := versionLatest
      payloadLen := UInt32.ofNat
        (sizeofMessageRound3FullMembership + conf.numBG * conf.numBG - sizeofMessageHeader) }
  senderBGid := UInt16.ofNat conf.bGid
  senderSLid := UInt16.ofNat conf.sLid
  combinedSignature := zeroSignature
  cycle := cycle
  totalBGnum := UInt16.ofNat conf.numBG
  connectivity := List.replicate (conf.numBG * conf.numBG) 1

/-- What the leader copies of one stored membership response. -/
def membershipCopyBytes (h : Endian) (m : MessageRound3FullMembership) : List UInt8 :=
  (m.bytes h).take (sizeofMessageHeader + m.header.payloadLen.toNat)

/-- The Preprepare that replicates the membership responses of all BGs, as the leader queues it. -/
def fullMembershipPreprepare (h : Endian) (conf : Config) (cycle : UInt16)
    (rgMembership : List MessageRound3FullMembership) : MessageRound2Preprepare :=
  let remoteMsgSize :=
    (rgMembership.map fun m => sizeofMessageHeader + m.header.payloadLen.toNat).sum
  let totalSize := sizeofMessageRound2Preprepare + remoteMsgSize
  { header :=
      { version := versionLatest
        payloadLen := UInt32.ofNat (totalSize - sizeofMessageHeader) }
    sender := UInt16.ofNat conf.sLid
    view := 0
    seq := 0
    bGid := UInt16.ofNat conf.bGid
    requestType := requestTypeFullMembership
    cycle := cycle
    lastcycle := cycle - 1
    collectorSLid := 0
    numOfRound3Participants := 0
    participantsAndContent := rgMembership.flatMap (membershipCopyBytes h) }

end RCanopus
