import RCanopus.Codec
import RCanopus.Framing
import RCanopus.PeerConnection

/-!
# Self delivery and remote delivery

`sender()` hands a message that the SL sends to itself over in host byte order, before it converts
the buffer in place for the others. Here both ways are followed byte by byte: the buffer that a
remote `recvMessage_caller_free_mem` returns is the buffer of the self copy.

A socket is the list of the bytes that were sent and not yet read.
-/

namespace RCanopus

/-! ## The header of a buffer -/

/-- `msgType` of a buffer in host byte order. -/
def msgTypeAt (h : Endian) (p : List UInt8) : UInt16 := u16At h p 2

/-- `payloadLen` of a buffer in host byte order. -/
def payloadLenAt (h : Endian) (p : List UInt8) : Nat := (u32At h p 4).toNat

/-- `getMessageSize`. -/
def messageSizeAt (h : Endian) (p : List UInt8) : Nat := sizeofMessageHeader + payloadLenAt h p

/--
The struct that a message type stands for in the `switch` of `sender()` and in that of
`recvMessage_caller_free_mem`; their other cases throw `EXCEPTION_MESSAGE_INVALID_TYPE`.
-/
def WireFormat.ofMsgType (msgType : UInt16) : Option WireFormat :=
  if msgType = MessageType.hello.code then some .hello
  else if msgType = MessageType.round2Request.code then some .round2Request
  else if msgType = MessageType.round2Preprepare.code then some .round2Preprepare
  else if msgType = MessageType.round2PartialCommit.code then some .round2PartialCommit
  else if msgType = MessageType.round2FullCommit.code then some .round2FullCommit
  else if msgType = MessageType.round3FetchRequest.code then some .round3FetchRequest
  else if msgType = MessageType.round3FetchResponse.code then some .round3FetchResponse
  else if msgType = MessageType.round3GeneralFetch.code then some .round3GeneralFetch
  else if msgType = MessageType.round3ConnectivityResponse.code then some .round3FetchResponse
  else if msgType = MessageType.round3MembershipResponse.code then some .round3FullMembership
  else none

/-- The ten types that go over a socket. -/
theorem WireFormat.ofMsgType_code (k : MessageType) :
    WireFormat.ofMsgType k.code = match k with
      | .hello => some .hello
      | .round2Request => some .round2Request
      | .round2Preprepare => some .round2Preprepare
      | .round2PartialCommit => some .round2PartialCommit
      | .round2FullCommit => some .round2FullCommit
      | .round3FetchRequest => some .round3FetchRequest
      | .round3FetchResponse => some .round3FetchResponse
      | .round3GeneralFetch => some .round3GeneralFetch
      | .round3ConnectivityResponse => some .round3FetchResponse
      | .round3MembershipResponse => some .round3FullMembership
      | .invalid => none
      | .empty => none := by
  cases k <;> decide

/-! ## `sender` -/

/-- An element of a queue: `none` is the null recipient, and `pMessage` is a whole allocation. -/
structure RawQueueElement (Peer : Type) where
  upPeers : List (Option Peer)
  pMessage : List UInt8
  deriving DecidableEq, Repr

namespace RawQueueElement

variable {Peer : Type}

/-- `clone` copies the bytes that the header announces. -/
def clone (h : Endian) (e : RawQueueElement Peer) : RawQueueElement Peer where
  upPeers := e.upPeers
  pMessage := e.pMessage.take (messageSizeAt h e.pMessage)

/-- The loop that looks for the null recipient and stops at the first one. -/
def selfCopies (h : Endian) (e : RawQueueElement Peer) :
    List (Option Peer) → List (RawQueueElement Peer)
  | [] => []
  | none :: _ => [{ e.clone h with upPeers := [none] }]
  | some _ :: rest => e.selfCopies h rest

end RawQueueElement

/-- The loop that empties `upPeers` and sends `buffer` to every recipient but the null one. -/
def sendToPeers {Peer : Type} (buffer : List UInt8) :
    List (Option Peer) → List (Peer × List UInt8)
  | [] => []
  | none :: rest => sendToPeers buffer rest
  | some pPeer :: rest => (pPeer, buffer) :: sendToPeers buffer rest

/-- What one iteration of `sender()` comes to before its last loop, and what this loop sends. -/
structure Delivery (Peer : Type) where
  /-- What went to `recvQueue`. -/
  recvQueue : List (RawQueueElement Peer)
  /-- The calls of `PeerConnection::send` that the loop makes as long as they return. -/
  sends : List (Peer × List UInt8)
  /-- The conversion did not throw and did not leave the buffer. -/
  converted : Bool
  deriving DecidableEq, Repr

/--
One iteration of the loop of `sender()` up to the calls of `PeerConnection::send`. The length is
read and the self copy is made before the conversion, which overwrites both.
-/
def senderCalls {Peer : Type} (h : Endian) (element : RawQueueElement Peer) : Delivery Peer :=
  let totalLength := messageSizeAt h element.pMessage
  let copies := element.selfCopies h element.upPeers
  match (WireFormat.ofMsgType (msgTypeAt h element.pMessage)).bind
      fun t => t.serialize h element.pMessage with
  | some wire =>
    { recvQueue := copies
      sends := sendToPeers (wire.take totalLength) element.upPeers
      converted := true }
  | none => { recvQueue := copies, sends := [], converted := false }

/-- How the sender thread goes on. -/
inductive SenderStatus where
  | running
  /-- An exception left `sender()`, or a conversion left the buffer. -/
  | stopped
  /-- A call of `PeerConnection::send` does not come back. -/
  | lost
  deriving DecidableEq, Repr

/-- What the sender thread has done so far. -/
structure SenderState (Peer : Type) where
  /-- What it put into the own `recvQueue`. -/
  recvQueue : List (RawQueueElement Peer)
  /-- What each call of `PeerConnection::send` has put on a socket. -/
  sent : List (Peer × List UInt8)
  /-- What the next calls meet. -/
  calls : SendCalls
  status : SenderStatus

/-- The thread before the first element. -/
def SenderState.start {Peer : Type} (calls : SendCalls) : SenderState Peer where
  recvQueue := []
  sent := []
  calls := calls
  status := .running

/-- The calls of `PeerConnection::send` for one element, up to the first that does not return. -/
def transmit {Peer : Type} (fuel : Nat) :
    List (Peer × List UInt8) → SenderState Peer → Option (SenderState Peer)
  | [], s => some s
  | (pPeer, buffer) :: rest, s =>
    match PeerConnection.send fuel s.calls buffer buffer.length with
    | none => none
    | some (.returned written calls) =>
      transmit fuel rest { s with sent := s.sent ++ [(pPeer, written)], calls := calls }
    | some (.exceptionSend written) =>
      some { s with sent := s.sent ++ [(pPeer, written)], status := .stopped }
    | some (.lost written) => some { s with sent := s.sent ++ [(pPeer, written)], status := .lost }

/--
One iteration of the loop of `sender()`. The result is `none` when a call of `PeerConnection::send`
does not end within `fuel` iterations.
-/
def sender {Peer : Type} (h : Endian) (fuel : Nat) (element : RawQueueElement Peer)
    (s : SenderState Peer) : Option (SenderState Peer) :=
  let r := senderCalls h element
  let s := { s with recvQueue := s.recvQueue ++ r.recvQueue }
  if r.converted then transmit fuel r.sends s else some { s with status := .stopped }

/-! ## `recvMessage_caller_free_mem` -/

/-- `PeerConnection::recv`: the next bytes of a socket, and what is left on it. -/
def recv (bytesToReceive : Nat) (socket : List UInt8) : Option (List UInt8 × List UInt8) :=
  if bytesToReceive ≤ socket.length then
    some (socket.take bytesToReceive, socket.drop bytesToReceive)
  else none

/-- `recvMessage_caller_free_mem`: the header is converted before the payload is read. -/
def recvMessage (h : Endian) (socket : List UInt8) : Option (List UInt8 × List UInt8) := do
  let (headerBuf, socket) ← recv sizeofMessageHeader socket
  let headerBuf ← MessageHeaderBE.deserialize h headerBuf
  let (payload, socket) ← recv (payloadLenAt h headerBuf) socket
  let t ← WireFormat.ofMsgType (msgTypeAt h headerBuf)
  let buffer ← t.partialDeserialize h (headerBuf ++ payload)
  return (buffer, socket)

/-! ## Well-formed elements -/

/--
The allocation has all the bytes that the header announces, the message is of the sendable type
`t`, and its announced bytes hold the fields of that type.
-/
structure RawQueueElement.WellFormed {Peer : Type} (h : Endian) (t : WireFormat)
    (e : RawQueueElement Peer) : Prop where
  allocated : messageSizeAt h e.pMessage ≤ e.pMessage.length
  sendable : WireFormat.ofMsgType (msgTypeAt h e.pMessage) = some t
  holds : t.Holds h (e.pMessage.take (messageSizeAt h e.pMessage))

/-! ## Conversions of a part of a buffer -/

section Parts

variable {h : Endian} {fields : List Slice} {p : List UInt8}

/-- A conversion leaves the bytes behind its fields alone. -/
theorem turnFields_append_right (hw : ∀ f ∈ fields, f.Within p) (rest : List UInt8) :
    turnFields h fields (p ++ rest) = turnFields h fields p ++ rest := by
  cases h with
  | little => exact Slice.turnAll_append_right hw rest
  | big => rfl

theorem u16At_append_right {off : Nat} (hp : off + 2 ≤ p.length) (rest : List UInt8) :
    u16At h (p ++ rest) off = u16At h p off := by
  rw [u16At_eq, u16At_eq, List.getElem?_append_left (by omega),
    List.getElem?_append_left (by omega)]

/-- What a `uint32_t` at an offset is read from. -/
theorem u32At_append_right {off : Nat} (hp : off + 4 ≤ p.length) (rest : List UInt8) :
    u32At h (p ++ rest) off = u32At h p off := by
  have hlen : 4 ≤ (p.drop off).length := by
    rw [List.length_drop]
    omega
  unfold u32At
  rw [List.drop_append_of_le_length (by omega)]
  rcases hd : p.drop off with _ | ⟨a, _ | ⟨b, _ | ⟨c, _ | ⟨d, l⟩⟩⟩⟩
  · simp [hd] at hlen
  · simp [hd] at hlen
  · simp [hd] at hlen
  · simp [hd] at hlen
  · rfl

/-- A conversion leaves the bytes in front of its fields alone. -/
theorem take_turnFields {n : Nat} (hw : ∀ f ∈ fields, f.Within p)
    (hn : ∀ f ∈ fields, n ≤ f.offset) : (turnFields h fields p).take n = p.take n := by
  apply List.ext_getElem?
  intro i
  rw [List.getElem?_take, List.getElem?_take]
  by_cases hi : i < n
  · rw [if_pos hi, if_pos hi]
    refine ((sameOutside_turnFields hw).2 i ?_).symm
    intro f hf hc
    have := hn f hf
    have := hc.1
    omega
  · rw [if_neg hi, if_neg hi]

end Parts

namespace WireFormat

variable {h : Endian} {t : WireFormat} {p : List UInt8}

theorem sizeofMessageHeader_le_size (t : WireFormat) : sizeofMessageHeader ≤ t.size := by
  cases t <;> decide

theorem Holds.header_le (hp : t.Holds h p) : sizeofMessageHeader ≤ p.length := by
  have := t.sizeofMessageHeader_le_size
  unfold Holds at hp
  omega

/-- Bytes behind the message do not change how many participants it lists. -/
theorem listed_append_right (hp : t.size ≤ p.length) (rest : List UInt8) :
    t.listed h (p ++ rest) = t.listed h p := by
  cases t with
  | round2Preprepare =>
    have : numOfRound3ParticipantsOffset + 2 ≤ p.length := hp
    simp only [listed]
    rw [u16At_append_right this]
  | _ => rfl

/-- `serialize` converts a message in place, whatever lies behind it in the allocation. -/
theorem serialize_append_right (hp : t.Holds h p) (rest : List UInt8) :
    t.serialize h (p ++ rest)
      = some (turnFields h (t.serializedFields (t.listed h p)) p ++ rest) := by
  have hl : t.listed h (p ++ rest) = t.listed h p :=
    listed_append_right (by unfold Holds at hp; omega) rest
  have hp' : t.Holds h (p ++ rest) := by
    unfold Holds at hp ⊢
    rw [hl, List.length_append]
    omega
  rw [serialize_eq hp', hl, turnFields_append_right]
  intro f hf
  exact fields_within hp f ((serializedFields_perm t _).mem_iff.mp hf)

/-- The fields of the header are converted first, and the others lie behind them. -/
theorem serializedFields_eq (t : WireFormat) (n : Nat) :
    ∃ others, t.serializedFields n = headerFields ++ others
      ∧ ∀ f ∈ others, sizeofMessageHeader ≤ f.offset := by
  have hparts : ∀ f ∈ participantFields n, sizeofMessageHeader ≤ f.offset := by
    intro f hf
    obtain ⟨i, -, rfl⟩ := mem_participantFields hf
    simp only [u16Field, sizeofMessageRound2Preprepare, sizeofMessageHeader]
    omega
  by_cases ht : t = .round2Preprepare
  · subst ht
    refine ⟨preprepareFields ++ participantFields n ++ [countField], ?_, ?_⟩
    · simp only [serializedFields, List.append_assoc]
    · intro f hf
      simp only [List.mem_append] at hf
      rcases hf with (hf | hf) | hf
      · revert f
        decide
      · exact hparts f hf
      · revert f
        decide
  · refine ⟨t.u16Offsets.map u16Field ++ participantFields n, ?_, ?_⟩
    · rw [serializedFields_of_ne ht]
      exact List.append_assoc _ _ _
    · have hfixed : ∀ f ∈ t.u16Offsets.map u16Field, sizeofMessageHeader ≤ f.offset := by
        cases t <;> decide
      intro f hf
      rcases List.mem_append.mp hf with hf | hf
      · exact hfixed f hf
      · exact hparts f hf

theorem headerFields_within (hp : sizeofMessageHeader ≤ p.length) :
    ∀ f ∈ headerFields, f.Within p := by
  have hall : ∀ f ∈ headerFields, f.offset + f.size ≤ sizeofMessageHeader := by decide
  intro f hf
  have := hall f hf
  unfold Slice.Within
  omega

theorem headerFields_disjoint : headerFields.Pairwise Slice.Disjoint := by decide

/-- Decoding the first bytes of the wire gives back the header. -/
theorem deserialize_header (hp : t.Holds h p) :
    MessageHeaderBE.deserialize h
        ((turnFields h (t.serializedFields (t.listed h p)) p).take sizeofMessageHeader)
      = some (p.take sizeofMessageHeader) := by
  obtain ⟨others, he, hothers⟩ := t.serializedFields_eq (t.listed h p)
  have hlen : (p.take sizeofMessageHeader).length = sizeofMessageHeader := by
    rw [List.length_take]
    have := hp.header_le
    omega
  have hhead := headerFields_within (p := p.take sizeofMessageHeader) (by omega)
  have hw : ∀ f ∈ others, f.Within (turnFields h headerFields p) := by
    intro f hf
    refine (within_turnFields f).mpr (fields_within hp f ?_)
    refine (serializedFields_perm t _).mem_iff.mp ?_
    rw [he]
    exact List.mem_append_right _ hf
  have hfirst : (turnFields h headerFields p).take sizeofMessageHeader
      = turnFields h headerFields (p.take sizeofMessageHeader) := by
    conv_lhs => rw [← List.take_append_drop sizeofMessageHeader p]
    rw [turnFields_append_right hhead, List.take_append_of_le_length (by simp [hlen]),
      List.take_of_length_le (by simp [hlen])]
  rw [he, turnFields_append, take_turnFields hw hothers, hfirst,
    deserialize_eq (fun f hf => (within_turnFields f).mpr (hhead f hf)),
    turnFields_turnFields (List.Perm.refl _) hhead headerFields_disjoint]

/-- The rest of the decoding starts from the decoded header and the payload. -/
theorem partialDeserialize_payload (hp : t.Holds h p) :
    t.partialDeserialize h (p.take sizeofMessageHeader
        ++ (turnFields h (t.serializedFields (t.listed h p)) p).drop sizeofMessageHeader)
      = some p := by
  obtain ⟨wire, hwire, hdecode, -⟩ := (codec_roundtrip h t p).1 hp
  rw [serialize_eq hp, Option.some.injEq] at hwire
  have hhead := deserialize_header hp
  rw [hwire] at hhead ⊢
  have hlen : sizeofMessageHeader ≤ wire.length := by
    rw [← hwire, length_turnFields]
    exact hp.header_le
  have hw := headerFields_within (p := wire.take sizeofMessageHeader)
    (by rw [List.length_take]; omega)
  rw [deserialize_eq hw, Option.some.injEq] at hhead
  unfold decode at hdecode
  rw [deserialize_eq (headerFields_within hlen), Option.bind_some] at hdecode
  rw [← hhead, ← turnFields_append_right hw, List.take_append_drop]
  exact hdecode

end WireFormat

/-! ## One delivery -/

/-- The message that a well-formed buffer announces, without what lies behind it. -/
theorem recvMessage_serialize {h : Endian} {t : WireFormat} {p : List UInt8}
    (hsize : messageSizeAt h p = p.length)
    (ht : WireFormat.ofMsgType (msgTypeAt h p) = some t) (hp : t.Holds h p)
    (rest : List UInt8) :
    recvMessage h (turnFields h (t.serializedFields (t.listed h p)) p ++ rest)
      = some (p, rest) := by
  have hhead := WireFormat.deserialize_header hp
  have hpay := WireFormat.partialDeserialize_payload hp
  have hlen : (turnFields h (t.serializedFields (t.listed h p)) p).length = p.length :=
    length_turnFields h _ p
  have hle := hp.header_le
  generalize turnFields h (t.serializedFields (t.listed h p)) p = wire at hhead hpay hlen ⊢
  have hparts : p.take sizeofMessageHeader ++ p.drop sizeofMessageHeader = p :=
    List.take_append_drop _ p
  have hheadlen : (p.take sizeofMessageHeader).length = sizeofMessageHeader := by
    rw [List.length_take]
    omega
  -- The header is the same whether it is read from the whole buffer or from its first bytes.
  have hpayload : payloadLenAt h (p.take sizeofMessageHeader) = payloadLenAt h p := by
    unfold payloadLenAt
    conv_rhs => rw [← hparts]
    rw [u32At_append_right (by rw [hheadlen]; decide)]
  have htype : msgTypeAt h (p.take sizeofMessageHeader) = msgTypeAt h p := by
    unfold msgTypeAt
    conv_rhs => rw [← hparts]
    rw [u16At_append_right (by rw [hheadlen]; decide)]
  unfold messageSizeAt at hsize
  have hfirst : recv sizeofMessageHeader (wire ++ rest)
      = some (wire.take sizeofMessageHeader, wire.drop sizeofMessageHeader ++ rest) := by
    unfold recv
    rw [if_pos (by rw [List.length_append]; omega),
      List.take_append_of_le_length (by omega), List.drop_append_of_le_length (by omega)]
  have hsecond : recv (payloadLenAt h p) (wire.drop sizeofMessageHeader ++ rest)
      = some (wire.drop sizeofMessageHeader, rest) := by
    have : payloadLenAt h p = (wire.drop sizeofMessageHeader).length := by
      rw [List.length_drop]
      omega
    unfold recv
    rw [this, if_pos (by simp), List.take_left, List.drop_left]
  unfold recvMessage
  simp only [Option.bind_eq_bind, Option.pure_def]
  rw [hfirst, Option.bind_some]
  simp only
  rw [hhead, Option.bind_some, hpayload, hsecond, Option.bind_some]
  simp only
  rw [htype, ht, Option.bind_some, hpay, Option.bind_some]

section Sender

variable {Peer : Type} [DecidableEq Peer] {h : Endian} {t : WireFormat} {e : RawQueueElement Peer}

/-- The self copy is made once, however often the null recipient is listed. -/
theorem RawQueueElement.selfCopies_eq (h : Endian) (e : RawQueueElement Peer)
    (peers : List (Option Peer)) :
    e.selfCopies h peers
      = if none ∈ peers then [{ e.clone h with upPeers := [none] }] else [] := by
  induction peers with
  | nil => rfl
  | cons peer rest ih =>
    cases peer with
    | none => simp [selfCopies]
    | some p => simp [selfCopies, ih]

omit [DecidableEq Peer] in
theorem mem_sendToPeers {buffer : List UInt8} {peers : List (Option Peer)} {p : Peer}
    {wire : List UInt8} :
    (p, wire) ∈ sendToPeers buffer peers ↔ some p ∈ peers ∧ wire = buffer := by
  induction peers with
  | nil => simp [sendToPeers]
  | cons peer rest ih =>
    cases peer with
    | none => simp [sendToPeers, ih]
    | some q =>
      simp only [sendToPeers, List.mem_cons, Prod.mk.injEq, Option.some.injEq, ih]
      tauto

/-- A recipient is sent the buffer as often as it is listed. -/
theorem count_sendToPeers (buffer : List UInt8)
    (peers : List (Option Peer)) (p : Peer) :
    ((sendToPeers buffer peers).map Prod.fst).count p = peers.count (some p) := by
  induction peers with
  | nil => rfl
  | cons peer rest ih =>
    cases peer with
    | none => simp [sendToPeers, ih]
    | some q => simp [sendToPeers, List.count_cons, ih]

/-- The bytes that `sender()` puts on a socket decode to the self copy. -/
theorem senderCalls_eq (hwell : e.WellFormed h t) :
    ∃ wire, senderCalls h e
        = { recvQueue :=
              if none ∈ e.upPeers then [{ e.clone h with upPeers := [none] }] else []
            sends := sendToPeers wire e.upPeers
            converted := true }
      ∧ ∀ rest, recvMessage h (wire ++ rest) = some ((e.clone h).pMessage, rest) := by
  obtain ⟨hallocated, hsendable, hholds⟩ := hwell
  have hmem := List.take_append_drop (messageSizeAt h e.pMessage) e.pMessage
  have hlen : (e.pMessage.take (messageSizeAt h e.pMessage)).length
      = messageSizeAt h e.pMessage := by
    rw [List.length_take]
    omega
  have hheader : sizeofMessageHeader ≤ messageSizeAt h e.pMessage := Nat.le_add_right _ _
  -- The header lies in the announced bytes.
  have hsize : messageSizeAt h (e.pMessage.take (messageSizeAt h e.pMessage))
      = messageSizeAt h e.pMessage := by
    conv_rhs => rw [← hmem]
    unfold messageSizeAt payloadLenAt
    rw [u32At_append_right]
    unfold messageSizeAt payloadLenAt at hlen
    rw [hlen]
    exact Nat.le_add_right _ _
  have htype : msgTypeAt h (e.pMessage.take (messageSizeAt h e.pMessage))
      = msgTypeAt h e.pMessage := by
    conv_rhs => rw [← hmem]
    unfold msgTypeAt
    rw [u16At_append_right (by rw [hlen]; exact le_trans (by decide) hheader)]
  have hserialize := WireFormat.serialize_append_right hholds
    (e.pMessage.drop (messageSizeAt h e.pMessage))
  rw [hmem] at hserialize
  refine ⟨_, ?_, recvMessage_serialize (hsize.trans hlen.symm) (htype ▸ hsendable) hholds⟩
  unfold senderCalls
  rw [hsendable, Option.bind_some, hserialize, RawQueueElement.selfCopies_eq]
  simp only
  rw [List.take_append_of_le_length (by simp [hlen]),
    List.take_of_length_le (by simp [hlen])]
  rfl

/--
What came of the calls for one element: all of them have returned, or one did not, and what it has
put on its socket is a beginning of its buffer.
-/
def Transmitted (sends sent : List (Peer × List UInt8)) (status : SenderStatus) : Prop :=
  if status = .running then sent = sends
  else ∃ done pPeer buffer rest written, sends = done ++ (pPeer, buffer) :: rest
    ∧ sent = done ++ [(pPeer, written)] ∧ written <+: buffer

omit [DecidableEq Peer] in
theorem Transmitted.all {sends sent : List (Peer × List UInt8)} {status : SenderStatus}
    (h : Transmitted sends sent status) (hs : status = .running) : sent = sends := by
  unfold Transmitted at h
  rwa [if_pos hs] at h

omit [DecidableEq Peer] in
theorem Transmitted.cut {sends sent : List (Peer × List UInt8)} {status : SenderStatus}
    (h : Transmitted sends sent status) (hs : status ≠ .running) :
    ∃ done pPeer buffer rest written, sends = done ++ (pPeer, buffer) :: rest
      ∧ sent = done ++ [(pPeer, written)] ∧ written <+: buffer := by
  unfold Transmitted at h
  rwa [if_neg hs] at h

omit [DecidableEq Peer] in
/-- Nobody is sent more than the calls say. -/
theorem Transmitted.recipients_sublist {sends sent : List (Peer × List UInt8)}
    {status : SenderStatus} (h : Transmitted sends sent status) :
    (sent.map Prod.fst).Sublist (sends.map Prod.fst) := by
  by_cases hs : status = .running
  · rw [h.all hs]
  · obtain ⟨done, pPeer, buffer, rest, written, rfl, rfl, -⟩ := h.cut hs
    rw [List.map_append, List.map_append]
    exact (List.Sublist.refl _).append (List.cons_sublist_cons.mpr (List.nil_sublist _))

omit [DecidableEq Peer] in
theorem transmit_sent {fuel : Nat} {sends : List (Peer × List UInt8)} {s s' : SenderState Peer}
    (hs : s.status = .running) (hrun : transmit fuel sends s = some s') :
    s'.recvQueue = s.recvQueue
      ∧ ∃ sent, s'.sent = s.sent ++ sent ∧ Transmitted sends sent s'.status := by
  induction sends generalizing s with
  | nil =>
    obtain rfl := Option.some.inj hrun
    refine ⟨rfl, [], (List.append_nil _).symm, ?_⟩
    unfold Transmitted
    rw [if_pos hs]
  | cons send rest ih =>
    obtain ⟨pPeer, buffer⟩ := send
    have hlast {written : List UInt8} {status : SenderStatus} (hstatus : status ≠ .running)
        (hwritten : written <+: buffer) :
        Transmitted ((pPeer, buffer) :: rest) [(pPeer, written)] status := by
      unfold Transmitted
      rw [if_neg hstatus]
      exact ⟨[], pPeer, buffer, rest, written, rfl, rfl, hwritten⟩
    unfold transmit at hrun
    split at hrun
    · exact absurd hrun (by simp)
    · next written calls hsend =>
      obtain rfl : written = buffer := send_written hsend
      obtain ⟨hqueue, sent, hsent, htransmitted⟩ := ih (s := { s with
        sent := s.sent ++ [(pPeer, written)], calls := calls }) hs hrun
      refine ⟨hqueue, (pPeer, written) :: sent, ?_, ?_⟩
      · rw [hsent, List.append_assoc]
        rfl
      · unfold Transmitted
        split
        · next hstatus => rw [htransmitted.all hstatus]
        · next hstatus =>
          obtain ⟨done, q, b, rest', w, rfl, rfl, hw⟩ := htransmitted.cut hstatus
          exact ⟨(pPeer, written) :: done, q, b, rest', w, rfl, rfl, hw⟩
    · next written hsend =>
      obtain rfl := Option.some.inj hrun
      exact ⟨rfl, [(pPeer, written)], rfl, hlast (by simp) (send_written hsend)⟩
    · next written hsend =>
      have hwritten : written = buffer := send_written hsend
      obtain rfl := Option.some.inj hrun
      exact ⟨rfl, [(pPeer, written)], rfl, hlast (by simp) (hwritten ▸ List.prefix_rfl)⟩

omit [DecidableEq Peer] in
/-- When every call sends something the loop over the recipients ends. -/
theorem transmit_open {fuel : Nat} {sends : List (Peer × List UInt8)} {s : SenderState Peer}
    (hopen : s.calls.Open) (hfuel : ∀ c ∈ sends, c.2.length < fuel) :
    ∃ s', transmit fuel sends s = some s' ∧ s'.status = s.status ∧ s'.calls.Open := by
  induction sends generalizing s with
  | nil => exact ⟨s, rfl, rfl, hopen⟩
  | cons send rest ih =>
    obtain ⟨pPeer, buffer⟩ := send
    obtain ⟨calls, hsend, hopen'⟩ := send_open hopen (hfuel _ List.mem_cons_self)
    unfold transmit
    rw [hsend]
    exact ih (s := { s with sent := s.sent ++ [(pPeer, buffer)], calls := calls }) hopen'
      fun c hc => hfuel c (List.mem_cons_of_mem _ hc)

/-- For a well-formed element one iteration comes to its calls of `PeerConnection::send`. -/
theorem sender_eq (hwell : e.WellFormed h t) (fuel : Nat) (s : SenderState Peer) :
    sender h fuel e s = transmit fuel (senderCalls h e).sends
      { s with recvQueue := s.recvQueue ++ (senderCalls h e).recvQueue } := by
  obtain ⟨wire, he, -⟩ := senderCalls_eq hwell
  have hconverted : (senderCalls h e).converted = true := by rw [he]
  unfold sender
  dsimp only
  rw [if_pos hconverted]

/-- What one iteration has done for a well-formed element. -/
theorem sender_sent (hwell : e.WellFormed h t) {fuel : Nat} {s s' : SenderState Peer}
    (hs : s.status = .running) (hrun : sender h fuel e s = some s') :
    s'.recvQueue = s.recvQueue ++ (senderCalls h e).recvQueue
      ∧ ∃ sent, s'.sent = s.sent ++ sent
        ∧ Transmitted (senderCalls h e).sends sent s'.status := by
  rw [sender_eq hwell] at hrun
  exact transmit_sent (s := { s with recvQueue := s.recvQueue ++ (senderCalls h e).recvQueue }) hs
    hrun

/-- When every call sends something the iteration ends. -/
theorem sender_open (hwell : e.WellFormed h t) {fuel : Nat} {s : SenderState Peer}
    (hopen : s.calls.Open) (hfuel : ∀ c ∈ (senderCalls h e).sends, c.2.length < fuel) :
    ∃ s', sender h fuel e s = some s' ∧ s'.status = s.status ∧ s'.calls.Open := by
  rw [sender_eq hwell]
  exact transmit_open (s := { s with recvQueue := s.recvQueue ++ (senderCalls h e).recvQueue })
    hopen hfuel

/--
**Self delivery is remote delivery.** `sender()` puts one copy of the announced bytes into the own
`recvQueue` if the null recipient is listed and none otherwise, and there are bytes that decode to
the same announced bytes, whatever follows on a socket. As long as every call of
`PeerConnection::send` returns, each other recipient is sent these bytes as often as it is listed;
when one does not return, its recipient has a beginning of them, and nobody is sent more than that.
If every call sends something, the iteration ends.
-/
theorem self_delivery_eq_remote_delivery (h : Endian) (t : WireFormat)
    (e : RawQueueElement Peer) (hwell : e.WellFormed h t) (calls : SendCalls) :
    let announced := e.pMessage.take (messageSizeAt h e.pMessage)
    (∃ wire, (∀ rest, recvMessage h (wire ++ rest) = some (announced, rest))
      ∧ ∀ fuel s, sender h fuel e (.start calls) = some s →
        s.recvQueue
            = (if none ∈ e.upPeers then [{ upPeers := [none], pMessage := announced }] else [])
        ∧ (s.status = .running →
          (∀ p, (s.sent.map Prod.fst).count p = e.upPeers.count (some p))
            ∧ ∀ sent ∈ s.sent, sent.2 = wire)
        ∧ (s.status ≠ .running →
          (∀ p, (s.sent.map Prod.fst).count p ≤ e.upPeers.count (some p))
            ∧ ∃ done last, s.sent = done ++ [last] ∧ (∀ sent ∈ done, sent.2 = wire)
              ∧ last.2 <+: wire))
    ∧ (calls.Open → ∃ fuel s, sender h fuel e (.start calls) = some s ∧ s.status = .running) := by
  obtain ⟨wire, he, hrecv⟩ := senderCalls_eq hwell
  have hsends : (senderCalls h e).sends = sendToPeers wire e.upPeers := by rw [he]
  have hwire : ∀ c ∈ sendToPeers wire e.upPeers, c.2 = wire := fun c hc =>
    (mem_sendToPeers.mp hc).2
  refine ⟨⟨wire, hrecv, fun fuel s hrun => ?_⟩, fun hopen => ?_⟩
  · obtain ⟨hqueue, sent, hsent, htransmitted⟩ := sender_sent hwell rfl hrun
    obtain rfl : s.sent = sent := hsent
    rw [hsends] at htransmitted
    refine ⟨?_, fun hstatus => ?_, fun hstatus => ⟨fun p => ?_, ?_⟩⟩
    · rw [hqueue, he]
      rfl
    · rw [htransmitted.all hstatus]
      exact ⟨count_sendToPeers wire e.upPeers, hwire⟩
    · rw [← count_sendToPeers wire e.upPeers p]
      exact htransmitted.recipients_sublist.count_le _
    · obtain ⟨done, pPeer, buffer, rest, written, hall, hsent, hwritten⟩ :=
        htransmitted.cut hstatus
      rw [hall] at hwire
      obtain rfl : buffer = wire :=
        hwire (pPeer, buffer) (List.mem_append_right _ List.mem_cons_self)
      exact ⟨done, (pPeer, written), hsent, fun c hc => hwire c (List.mem_append_left _ hc),
        hwritten⟩
  · have hfuel : ∀ c ∈ (senderCalls h e).sends, c.2.length < wire.length + 1 := fun c hc => by
      rw [hsends] at hc
      rw [hwire c hc]
      exact Nat.lt_succ_self _
    obtain ⟨s, hrun, hstatus, -⟩ := sender_open (s := .start calls) hwell hopen hfuel
    exact ⟨_, s, hrun, hstatus⟩

end Sender

/-- The leader's Preprepare goes to two others and to itself, 20 bytes at a time. -/
theorem self_delivery_eq_remote_delivery_preprepareBuffer :
    let e : RawQueueElement Nat :=
      { upPeers := [some 1, none, some 2], pMessage := WireFormat.preprepareBuffer }
    ∃ wire fuel s, sender .little fuel e (.start ⟨fun _ => 20, true⟩) = some s
      ∧ s.recvQueue = [{ upPeers := [none], pMessage := WireFormat.preprepareBuffer }]
      ∧ (∀ p, (s.sent.map Prod.fst).count p = e.upPeers.count (some p))
      ∧ (∀ sent ∈ s.sent, sent.2 = wire)
      ∧ ∀ rest, recvMessage .little (wire ++ rest) = some (WireFormat.preprepareBuffer, rest) := by
  intro e
  have hwell : e.WellFormed .little .round2Preprepare :=
    { allocated := by decide, sendable := by decide, holds := by decide }
  have hannounced : e.pMessage.take (messageSizeAt .little e.pMessage)
      = WireFormat.preprepareBuffer := by decide
  obtain ⟨⟨wire, hrecv, hsender⟩, hends⟩ := self_delivery_eq_remote_delivery .little
    .round2Preprepare e hwell ⟨fun _ => 20, true⟩
  obtain ⟨fuel, s, hrun, hstatus⟩ := hends ⟨fun _ => (by decide : (0 : Int) < 20), rfl⟩
  obtain ⟨hqueue, hsent, -⟩ := hsender fuel s hrun
  rw [hannounced] at hqueue hrecv
  exact ⟨wire, fuel, s, hrun, hqueue, (hsent hstatus).1, (hsent hstatus).2, hrecv⟩

/-! ## The messages of the model

A queue of the model holds a `Message`; its memory is `Message.bytes`. Of a well-formed one every
recipient gets `Message.copy`, as the model of the cluster has it.
-/

namespace Message

variable {h : Endian} {m : Message}

/-- The participants that a message lists. -/
def participants : Message → Nat
  | .round2Preprepare m => m.numOfRound3Participants.toNat
  | _ => 0

/-- What the header announces was allocated, and it holds the fields and the participants. -/
structure WellFormed (h : Endian) (t : WireFormat) (m : Message) : Prop where
  allocated : m.getMessageSize ≤ (m.bytes h).length
  sendable : WireFormat.ofMsgType m.msgType.code = some t
  holds : t.size + 2 * m.participants ≤ m.getMessageSize

theorem bytes_eq (h : Endian) (m : Message) :
    ∃ rest, m.bytes h = m.header.bytes h m.msgType ++ rest := by
  cases m with
  | empty m => exact ⟨[], (List.append_nil _).symm⟩
  | _ =>
    simp only [bytes, MessageRound2Preprepare.bytes, MessageRound3FetchResponse.bytes,
      MessageRound3FullMembership.bytes, List.append_assoc, header, msgType]
    exact ⟨_, rfl⟩

theorem msgTypeAt_bytes (h : Endian) (m : Message) :
    msgTypeAt h (m.bytes h) = m.msgType.code := by
  obtain ⟨rest, he⟩ := m.bytes_eq h
  rw [he]
  unfold msgTypeAt MessageHeader.bytes
  rw [List.append_assoc, List.append_assoc]
  have : (u16Bytes h m.header.version).length = 2 := length_u16Bytes h _
  conv_lhs => rw [← this]
  exact u16At_append h _ _ _

theorem messageSizeAt_bytes (h : Endian) (m : Message) :
    messageSizeAt h (m.bytes h) = m.getMessageSize := by
  obtain ⟨rest, he⟩ := m.bytes_eq h
  have hread : u32At h (m.bytes h) 4 = m.header.payloadLen := by
    rw [he]
    unfold MessageHeader.bytes
    rw [List.append_assoc]
    have : (u16Bytes h m.header.version ++ u16Bytes h m.msgType.code).length = 4 := by
      simp [length_u16Bytes]
    conv_lhs => rw [← this]
    exact u32At_append h _ _ _
  unfold messageSizeAt payloadLenAt
  rw [hread]
  rfl

/-- The number of participants at its place in the memory of a message. -/
theorem listed_bytes {t : WireFormat} (hm : m.WellFormed h t) :
    t.listed h (m.bytes h) = m.participants := by
  cases m with
  | round2Preprepare m =>
    obtain rfl : t = .round2Preprepare := Option.some.inj (hm.sendable.symm.trans
      (WireFormat.ofMsgType_code _))
    have hbytes : ∃ before after, m.bytes h
        = before ++ (u16Bytes h m.numOfRound3Participants ++ after)
          ∧ before.length = numOfRound3ParticipantsOffset := by
      refine ⟨m.header.bytes h .round2Preprepare ++ (u16Bytes h m.sender ++ u16Bytes h m.view
        ++ u16Bytes h m.seq ++ u16Bytes h m.bGid ++ u16Bytes h m.requestType
        ++ u16Bytes h m.cycle ++ u16Bytes h m.lastcycle ++ u16Bytes h m.collectorSLid),
        m.participantsAndContent, ?_, ?_⟩
      · simp only [MessageRound2Preprepare.bytes, MessageRound2Preprepare.fixedBytes,
          List.append_assoc]
      · simp [length_u16Bytes, sizeofMessageHeader, numOfRound3ParticipantsOffset]
    obtain ⟨before, after, he, hlen⟩ := hbytes
    simp only [WireFormat.listed, participants, bytes]
    rw [he, ← hlen, u16At_append]
  | _ =>
    have ht := hm.sendable
    rw [WireFormat.ofMsgType_code] at ht
    cases t with
    | round2Preprepare => simp [msgType] at ht
    | _ => rfl

/-- A copy of the announced bytes of a message. -/
theorem take_bytes {t : WireFormat} (hm : m.WellFormed h t) :
    (m.bytes h).take m.getMessageSize = m.copy.bytes h := by
  have htake {fixed content : List UInt8} {n size : Nat} (hfixed : fixed.length = size)
      (hn : size ≤ n) : (fixed ++ content).take n = fixed ++ content.take (n - size) := by
    rw [List.take_append, List.take_of_length_le (by omega), hfixed]
  have hlen := Message.length_bytes h m
  have ht := hm.sendable
  have hsize : t.size ≤ m.getMessageSize := le_trans (Nat.le_add_right _ _) hm.holds
  rw [WireFormat.ofMsgType_code] at ht
  cases m with
  | round2Request m =>
    obtain rfl : WireFormat.round2Request = t := Option.some.inj ht
    refine htake ?_ hsize
    simp [length_u16Bytes, sizeofMessageHeader, sizeofMessageRound2Request]
  | round2Preprepare m =>
    obtain rfl : WireFormat.round2Preprepare = t := Option.some.inj ht
    refine htake ?_ hsize
    simp [MessageRound2Preprepare.fixedBytes, length_u16Bytes, sizeofMessageHeader,
      sizeofMessageRound2Preprepare]
  | round3FetchResponse m | round3ConnectivityResponse m =>
    obtain rfl : WireFormat.round3FetchResponse = t := Option.some.inj ht
    refine htake ?_ hsize
    simp [length_u16Bytes, sizeofMessageHeader, sizeofMessageRound3FetchResponse]
    rfl
  | round3MembershipResponse m =>
    obtain rfl : WireFormat.round3FullMembership = t := Option.some.inj ht
    refine htake ?_ hsize
    simp [length_u16Bytes, sizeofMessageHeader, sizeofMessageRound3FullMembership]
    rfl
  | empty m => simp [msgType] at ht
  | _ =>
    obtain rfl := Option.some.inj ht
    exact List.take_of_length_le (hlen.trans_le hsize)

/-- The element of a well-formed message is well formed. -/
theorem WellFormed.element {t : WireFormat} (hm : m.WellFormed h t) {Peer : Type}
    (upPeers : List (Option Peer)) :
    RawQueueElement.WellFormed h t { upPeers := upPeers, pMessage := m.bytes h } where
  allocated := by
    rw [messageSizeAt_bytes]
    exact hm.allocated
  sendable := by
    rw [msgTypeAt_bytes]
    exact hm.sendable
  holds := by
    simp only
    rw [messageSizeAt_bytes]
    have hlen : ((m.bytes h).take m.getMessageSize).length = m.getMessageSize := by
      rw [List.length_take]
      exact Nat.min_eq_left hm.allocated
    have hlisted : t.listed h ((m.bytes h).take m.getMessageSize) = m.participants := by
      rw [← WireFormat.listed_append_right
        (by rw [hlen]; exact le_trans (Nat.le_add_right _ _) hm.holds)
        ((m.bytes h).drop m.getMessageSize), List.take_append_drop]
      exact listed_bytes hm
    unfold WireFormat.Holds
    rw [hlisted, hlen]
    exact hm.holds

/-- Every recipient of a message, the sender itself and the others, gets `Message.copy`. -/
theorem WellFormed.delivered {t : WireFormat} (hm : m.WellFormed h t) {Peer : Type}
    [DecidableEq Peer] (upPeers : List (Option Peer)) :
    let r := senderCalls h { upPeers := upPeers, pMessage := m.bytes h }
    (∀ copy ∈ r.recvQueue, copy.pMessage = m.copy.bytes h)
      ∧ ∀ p wire rest, (p, wire) ∈ r.sends →
        recvMessage h (wire ++ rest) = some (m.copy.bytes h, rest) := by
  obtain ⟨buffer, he, hrecv⟩ := senderCalls_eq (hm.element upPeers)
  have hclone : (RawQueueElement.clone h
      { upPeers := upPeers, pMessage := m.bytes h }).pMessage = m.copy.bytes h := by
    unfold RawQueueElement.clone
    simp only
    rw [messageSizeAt_bytes, take_bytes hm]
  rw [hclone] at hrecv
  intro r
  have hr : r = _ := he
  rw [hr]
  constructor
  · intro copy hcopy
    simp only at hcopy
    split at hcopy
    · rw [List.mem_singleton.mp hcopy]
      exact hclone
    · exact absurd hcopy List.not_mem_nil
  · intro p wire rest hsent
    rw [(mem_sendToPeers.mp hsent).2]
    exact hrecv rest

end Message

end RCanopus
