import RCanopus.Bytes

/-!
# The messages of `message.h`

Each packed struct is a structure with the source's fields. A flexible array member is the list of
the bytes that were allocated for it. The `msgType` of a message is its constructor in `Message`.

A message is kept in host byte order: `sender()` encodes a message just before it goes to the
socket and `recvMessage_caller_free_mem` decodes it before it is queued.
-/

namespace RCanopus

/-- A signature or a combined signature; both have 32 bytes. -/
abbrev Signature := Vector UInt8 sbftSignatureSize

/-- The signature that `memset` leaves. -/
def zeroSignature : Signature := Vector.replicate sbftSignatureSize 0

/-- `memcpy` of 32 bytes out of a buffer. -/
def signatureOfBytes (buf : List UInt8) : Signature :=
  Vector.ofFn fun i => buf.getD i 0

structure MessageHeader where
  version : UInt16
  payloadLen : UInt32
  deriving DecidableEq, Repr

structure MessageHello where
  header : MessageHeader
  bGid : UInt16
  sLid : UInt16
  deriving DecidableEq, Repr

structure MessageRound2Request where
  header : MessageHeader
  sender : UInt16
  content : List UInt8
  deriving DecidableEq, Repr

structure MessageRound2Preprepare where
  header : MessageHeader
  sender : UInt16
  view : UInt16
  seq : UInt16
  bGid : UInt16
  requestType : UInt16
  cycle : UInt16
  lastcycle : UInt16
  collectorSLid : UInt16
  numOfRound3Participants : UInt16
  participantsAndContent : List UInt8
  deriving DecidableEq, Repr

structure MessageRound2PartialCommit where
  header : MessageHeader
  sender : UInt16
  view : UInt16
  seq : UInt16
  signature : Signature
  deriving DecidableEq, Repr

structure MessageRound2FullCommit where
  header : MessageHeader
  sender : UInt16
  view : UInt16
  seq : UInt16
  combinedSignature : Signature
  deriving DecidableEq, Repr

structure CompoundHash where
  bGid : UInt16
  cycle : UInt16
  lastcycle : UInt16
  hash : Vector UInt8 sbftHashSize
  deriving DecidableEq, Repr

structure MessageRound3FetchRequest where
  header : MessageHeader
  senderBGid : UInt16
  senderSLid : UInt16
  cycle : UInt16
  hash : CompoundHash
  combinedSignature : Signature
  deriving DecidableEq, Repr

/-- Also `MessageRound3Connectivity`, a typedef of it. -/
structure MessageRound3FetchResponse where
  header : MessageHeader
  senderBGid : UInt16
  senderSLid : UInt16
  cycle : UInt16
  combinedSignature : Signature
  entirePreprepareMsg : List UInt8
  deriving DecidableEq, Repr

structure MessageRound3GeneralFetch where
  header : MessageHeader
  senderBGid : UInt16
  senderSLid : UInt16
  cycle : UInt16
  msgTypeDemanded : UInt16
  deriving DecidableEq, Repr

structure MessageRound3FullMembership where
  header : MessageHeader
  senderBGid : UInt16
  senderSLid : UInt16
  combinedSignature : Signature
  cycle : UInt16
  totalBGnum : UInt16
  connectivity : List UInt8
  deriving DecidableEq, Repr

structure MessageEmpty where
  header : MessageHeader
  deriving DecidableEq, Repr

/-- A message of any type; the constructor is its `msgType`. -/
inductive Message where
  | hello (m : MessageHello)
  | round2Request (m : MessageRound2Request)
  | round2Preprepare (m : MessageRound2Preprepare)
  | round2PartialCommit (m : MessageRound2PartialCommit)
  | round2FullCommit (m : MessageRound2FullCommit)
  | round3FetchRequest (m : MessageRound3FetchRequest)
  | round3FetchResponse (m : MessageRound3FetchResponse)
  | round3GeneralFetch (m : MessageRound3GeneralFetch)
  | round3ConnectivityResponse (m : MessageRound3FetchResponse)
  | round3MembershipResponse (m : MessageRound3FullMembership)
  | empty (m : MessageEmpty)
  deriving DecidableEq, Repr

def Message.header : Message → MessageHeader
  | .hello m => m.header
  | .round2Request m => m.header
  | .round2Preprepare m => m.header
  | .round2PartialCommit m => m.header
  | .round2FullCommit m => m.header
  | .round3FetchRequest m => m.header
  | .round3FetchResponse m => m.header
  | .round3GeneralFetch m => m.header
  | .round3ConnectivityResponse m => m.header
  | .round3MembershipResponse m => m.header
  | .empty m => m.header

def Message.msgType : Message → MessageType
  | .hello _ => .hello
  | .round2Request _ => .round2Request
  | .round2Preprepare _ => .round2Preprepare
  | .round2PartialCommit _ => .round2PartialCommit
  | .round2FullCommit _ => .round2FullCommit
  | .round3FetchRequest _ => .round3FetchRequest
  | .round3FetchResponse _ => .round3FetchResponse
  | .round3GeneralFetch _ => .round3GeneralFetch
  | .round3ConnectivityResponse _ => .round3ConnectivityResponse
  | .round3MembershipResponse _ => .round3MembershipResponse
  | .empty _ => .empty

/-! ## `sizeof` of the packed structs -/

def sizeofMessageHeader : Nat := 8

def sizeofMessageRound2Request : Nat := 10

def sizeofMessageRound2Preprepare : Nat := 26

def sizeofMessageRound2PartialCommit : Nat := 46

def sizeofMessageRound2FullCommit : Nat := 46

def sizeofMessageRound3FetchRequest : Nat := 84

def sizeofMessageRound3FetchResponse : Nat := 46

def sizeofMessageRound3GeneralFetch : Nat := 16

def sizeofMessageRound3FullMembership : Nat := 48

def sizeofMessageEmpty : Nat := 8

/-! ## Memory layout -/

/-- The header of a message in host memory. -/
def MessageHeader.bytes (h : Endian) (t : MessageType) (m : MessageHeader) : List UInt8 :=
  u16Bytes h m.version ++ u16Bytes h t.code ++ u32Bytes h m.payloadLen

/-- The fixed fields of a Preprepare after its header. -/
def MessageRound2Preprepare.fixedBytes (h : Endian) (m : MessageRound2Preprepare) : List UInt8 :=
  u16Bytes h m.sender ++ u16Bytes h m.view ++ u16Bytes h m.seq ++ u16Bytes h m.bGid
    ++ u16Bytes h m.requestType ++ u16Bytes h m.cycle ++ u16Bytes h m.lastcycle
    ++ u16Bytes h m.collectorSLid ++ u16Bytes h m.numOfRound3Participants

/-- The whole allocation that a Preprepare pointer points to. -/
def MessageRound2Preprepare.bytes (h : Endian) (m : MessageRound2Preprepare) : List UInt8 :=
  m.header.bytes h .round2Preprepare ++ m.fixedBytes h ++ m.participantsAndContent

/-- The whole allocation of a membership response. -/
def MessageRound3FullMembership.bytes (h : Endian) (m : MessageRound3FullMembership) :
    List UInt8 :=
  m.header.bytes h .round3MembershipResponse ++ u16Bytes h m.senderBGid
    ++ u16Bytes h m.senderSLid ++ m.combinedSignature.toList ++ u16Bytes h m.cycle
    ++ u16Bytes h m.totalBGnum ++ m.connectivity

/-- The whole allocation of a fetch response or, under the other type, a connectivity response. -/
def MessageRound3FetchResponse.bytes (h : Endian) (t : MessageType)
    (m : MessageRound3FetchResponse) : List UInt8 :=
  m.header.bytes h t ++ u16Bytes h m.senderBGid ++ u16Bytes h m.senderSLid
    ++ u16Bytes h m.cycle ++ m.combinedSignature.toList ++ m.entirePreprepareMsg

/-- The whole allocation of a message in host memory. -/
def Message.bytes (h : Endian) : Message → List UInt8
  | .hello m => m.header.bytes h .hello ++ u16Bytes h m.bGid ++ u16Bytes h m.sLid
  | .round2Request m => m.header.bytes h .round2Request ++ u16Bytes h m.sender ++ m.content
  | .round2Preprepare m => m.bytes h
  | .round2PartialCommit m =>
    m.header.bytes h .round2PartialCommit ++ u16Bytes h m.sender ++ u16Bytes h m.view
      ++ u16Bytes h m.seq ++ m.signature.toList
  | .round2FullCommit m =>
    m.header.bytes h .round2FullCommit ++ u16Bytes h m.sender ++ u16Bytes h m.view
      ++ u16Bytes h m.seq ++ m.combinedSignature.toList
  | .round3FetchRequest m =>
    m.header.bytes h .round3FetchRequest ++ u16Bytes h m.senderBGid ++ u16Bytes h m.senderSLid
      ++ u16Bytes h m.cycle ++ u16Bytes h m.hash.bGid ++ u16Bytes h m.hash.cycle
      ++ u16Bytes h m.hash.lastcycle ++ m.hash.hash.toList ++ m.combinedSignature.toList
  | .round3FetchResponse m => m.bytes h .round3FetchResponse
  | .round3GeneralFetch m =>
    m.header.bytes h .round3GeneralFetch ++ u16Bytes h m.senderBGid ++ u16Bytes h m.senderSLid
      ++ u16Bytes h m.cycle ++ u16Bytes h m.msgTypeDemanded
  | .round3ConnectivityResponse m => m.bytes h .round3ConnectivityResponse
  | .round3MembershipResponse m => m.bytes h
  | .empty m => m.header.bytes h .empty

/-- `getMessageSize`: what every copy of a message goes by. -/
def MessageHeader.getMessageSize (m : MessageHeader) : Nat :=
  sizeofMessageHeader + m.payloadLen.toNat

def Message.getMessageSize (m : Message) : Nat := m.header.getMessageSize

/-! ## Copies

`QueueElement::clone` allocates and copies `getMessageSize` bytes, and `sender()` puts as many on
the wire. What lies beyond them in the original is not in the copy.
-/

/--
A copy of `getMessageSize` bytes of a Preprepare. A header that does not cover the fixed fields
leaves the copy without some of them, and the code reads beyond its end; here they are kept.
-/
def MessageRound2Preprepare.copy (m : MessageRound2Preprepare) : MessageRound2Preprepare :=
  { m with
    participantsAndContent :=
      m.participantsAndContent.take (m.header.getMessageSize - sizeofMessageRound2Preprepare) }

/-- The header counts the fixed fields, so they are in every copy. -/
def MessageRound2Preprepare.Covers (m : MessageRound2Preprepare) : Prop :=
  sizeofMessageRound2Preprepare ≤ m.header.getMessageSize

def MessageRound3FetchResponse.copy (m : MessageRound3FetchResponse) :
    MessageRound3FetchResponse :=
  { m with
    entirePreprepareMsg :=
      m.entirePreprepareMsg.take (m.header.getMessageSize - sizeofMessageRound3FetchResponse) }

def MessageRound3FullMembership.copy (m : MessageRound3FullMembership) :
    MessageRound3FullMembership :=
  { m with
    connectivity :=
      m.connectivity.take (m.header.getMessageSize - sizeofMessageRound3FullMembership) }

/-- A copy of `getMessageSize` bytes of a message. -/
def Message.copy : Message → Message
  | .round2Request m =>
    .round2Request { m with
      content := m.content.take (m.header.getMessageSize - sizeofMessageRound2Request) }
  | .round2Preprepare m => .round2Preprepare m.copy
  | .round3FetchResponse m => .round3FetchResponse m.copy
  | .round3ConnectivityResponse m => .round3ConnectivityResponse m.copy
  | .round3MembershipResponse m => .round3MembershipResponse m.copy
  | m => m

/-! ## Length of the layout -/

theorem sbftSignatureSize_eq : sbftSignatureSize = 32 := rfl

section Length

variable (h : Endian)

@[simp] theorem MessageHeader.length_bytes (t : MessageType) (m : MessageHeader) :
    (m.bytes h t).length = sizeofMessageHeader := by
  simp [MessageHeader.bytes, length_u16Bytes, length_u32Bytes, sizeofMessageHeader]

@[simp] theorem MessageRound2Preprepare.length_bytes (m : MessageRound2Preprepare) :
    (m.bytes h).length = sizeofMessageRound2Preprepare + m.participantsAndContent.length := by
  simp [MessageRound2Preprepare.bytes, MessageRound2Preprepare.fixedBytes, length_u16Bytes,
    sizeofMessageHeader, sizeofMessageRound2Preprepare]
  omega

@[simp] theorem MessageRound3FetchResponse.length_bytes (t : MessageType)
    (m : MessageRound3FetchResponse) :
    (m.bytes h t).length
      = sizeofMessageRound3FetchResponse + m.entirePreprepareMsg.length := by
  simp [MessageRound3FetchResponse.bytes, length_u16Bytes, sizeofMessageHeader,
    sizeofMessageRound3FetchResponse]
  rw [sbftSignatureSize_eq]
  omega

@[simp] theorem MessageRound3FullMembership.length_bytes (m : MessageRound3FullMembership) :
    (m.bytes h).length = sizeofMessageRound3FullMembership + m.connectivity.length := by
  simp [MessageRound3FullMembership.bytes, length_u16Bytes, sizeofMessageHeader,
    sizeofMessageRound3FullMembership]
  rw [sbftSignatureSize_eq]
  omega

end Length

end RCanopus
