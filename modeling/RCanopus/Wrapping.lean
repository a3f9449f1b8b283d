import RCanopus.Codec
import RCanopus.Proposals

/-!
# Responses inside Preprepares

The leader wraps a fetched result in a Preprepare, and every SL of the BG unwraps it when it is
committed. Both ends find out by themselves how long the embedded Preprepare is.

* `fetchedResult_lossless`: over the wire, unwrapping gives back the response without its sender.
* `embeddedSizes_never`: for connectivity responses the leader gets the size wrong.
-/

namespace RCanopus

/-! ## A Preprepare on the wire -/

section Wire

variable {h : Endian} {m : MessageRound2Preprepare}

/-- The fixed fields of a Preprepare in memory, in the order of the struct. -/
def MessageRound2Preprepare.parts (h : Endian) (m : MessageRound2Preprepare) : List (List UInt8) :=
  [u16Bytes h m.header.version, u16Bytes h MessageType.round2Preprepare.code,
    u32Bytes h m.header.payloadLen, u16Bytes h m.sender, u16Bytes h m.view, u16Bytes h m.seq,
    u16Bytes h m.bGid, u16Bytes h m.requestType, u16Bytes h m.cycle, u16Bytes h m.lastcycle,
    u16Bytes h m.collectorSLid, u16Bytes h m.numOfRound3Participants]

theorem MessageRound2Preprepare.bytes_eq_parts :
    m.bytes h = (m.parts h).flatten ++ m.participantsAndContent := by
  simp only [bytes, fixedBytes, MessageHeader.bytes, parts, List.flatten_cons, List.flatten_nil,
    List.append_assoc, List.append_nil]

theorem MessageRound2Preprepare.map_length_parts :
    (m.parts h).map List.length = [2, 2, 4, 2, 2, 2, 2, 2, 2, 2, 2, 2] := by
  simp only [parts, List.map_cons, List.map_nil, length_u16Bytes, length_u32Bytes]

theorem MessageRound2Preprepare.reverse_parts :
    (m.parts .little).map List.reverse = m.parts .big
      ∧ (m.parts .big).map List.reverse = m.parts .little := ⟨rfl, rfl⟩

theorem consecutive_fields : Slice.consecutive 0 [2, 2, 4, 2, 2, 2, 2, 2, 2, 2, 2, 2]
    = WireFormat.fields .round2Preprepare 0 := by decide

/-- Converting the fixed fields takes the memory of one host to that of another. -/
theorem turnFields_bytes (h : Endian) (m : MessageRound2Preprepare) :
    turnFields h (WireFormat.fields .round2Preprepare 0) (m.bytes h) = m.bytes .big
      ∧ turnFields h (WireFormat.fields .round2Preprepare 0) (m.bytes .big) = m.bytes h := by
  cases h with
  | big => exact ⟨rfl, rfl⟩
  | little =>
    have hturn : ∀ parts : List (List UInt8),
        parts.map List.length = [2, 2, 4, 2, 2, 2, 2, 2, 2, 2, 2, 2] →
        Slice.turnAll (WireFormat.fields .round2Preprepare 0)
            (parts.flatten ++ m.participantsAndContent)
          = (parts.map List.reverse).flatten ++ m.participantsAndContent := by
      intro parts hparts
      have := Slice.turnAll_consecutive [] parts m.participantsAndContent
      rwa [List.length_nil, hparts, consecutive_fields] at this
    constructor
    · rw [MessageRound2Preprepare.bytes_eq_parts, MessageRound2Preprepare.bytes_eq_parts,
        ← MessageRound2Preprepare.reverse_parts.1]
      exact hturn _ MessageRound2Preprepare.map_length_parts
    · rw [MessageRound2Preprepare.bytes_eq_parts, MessageRound2Preprepare.bytes_eq_parts,
        ← MessageRound2Preprepare.reverse_parts.2]
      exact hturn _ MessageRound2Preprepare.map_length_parts

/-- Without participants the fixed fields are all there is to convert. -/
theorem listed_bytes (h : Endian) (hzero : m.numOfRound3Participants = 0) :
    WireFormat.listed h .round2Preprepare (m.bytes h) = 0 := by
  have hread : u16At h (m.bytes h) numOfRound3ParticipantsOffset = 0 :=
    u16At_numOfRound3Participants.trans hzero
  exact congrArg UInt16.toNat hread

theorem holds_bytes (h : Endian) (hzero : m.numOfRound3Participants = 0) :
    WireFormat.Holds h .round2Preprepare (m.bytes h) := by
  unfold WireFormat.Holds
  rw [listed_bytes h hzero, MessageRound2Preprepare.length_bytes]
  exact Nat.le_add_right _ _

/-- On the wire a Preprepare without participants is as in the memory of a big-endian host. -/
theorem serialize_bytes (h : Endian) (hzero : m.numOfRound3Participants = 0) :
    WireFormat.serialize h .round2Preprepare (m.bytes h) = some (m.bytes .big) := by
  rw [WireFormat.serialize_eq (holds_bytes h hzero), listed_bytes h hzero,
    ← (turnFields_bytes h m).1]
  rfl

theorem decode_bytes (h : Endian) (hzero : m.numOfRound3Participants = 0) :
    WireFormat.decode h .round2Preprepare (m.bytes .big) = some (m.bytes h) := by
  rw [WireFormat.decode_eq (holds_bytes .big hzero), listed_bytes .big hzero,
    (turnFields_bytes h m).2]

end Wire

/-! ## Fetched results -/

theorem signatureOfBytes_append (signature : Signature) (rest : List UInt8) :
    signatureOfBytes (signature.toList ++ rest) = signature := by
  apply Vector.ext
  intro i hi
  have hlen : i < signature.toList.length := by
    rw [Vector.length_toList]
    exact hi
  unfold signatureOfBytes
  rw [Vector.getElem_ofFn, List.getD_eq_getElem?_getD, List.getElem?_append_left hlen,
    List.getElem?_eq_getElem hlen, Option.getD_some, Vector.getElem_toList]

/-- Two buffers with different middles of the same length. -/
theorem sameOutside_middle (pre mid mid' rest : List UInt8) (hlen : mid.length = mid'.length) :
    SameOutside [{ offset := pre.length, size := mid.length }] (pre ++ (mid ++ rest))
      (pre ++ (mid' ++ rest)) := by
  constructor
  · simp only [List.length_append, hlen]
  · intro i hi
    have hout : ¬ (pre.length ≤ i ∧ i < pre.length + mid.length) :=
      hi _ (List.mem_singleton_self _)
    rcases Nat.lt_or_ge i pre.length with hpre | hpre
    · rw [List.getElem?_append_left hpre, List.getElem?_append_left hpre]
    · have hmid : mid.length ≤ i - pre.length := by omega
      rw [List.getElem?_append_right hpre, List.getElem?_append_right hpre,
        List.getElem?_append_right hmid, List.getElem?_append_right (hlen ▸ hmid), hlen]

section Fetched

variable {r : MessageRound3FetchResponse}

/-- `sender_SLid` takes the bytes 10 and 11 of a response. -/
theorem sameOutside_senderSLid (h : Endian) (t : MessageType) (r : MessageRound3FetchResponse)
    (sLid : UInt16) :
    SameOutside [u16Field 10] (r.bytes h t)
      (({ r with senderSLid := sLid } : MessageRound3FetchResponse).bytes h t) := by
  have hpre : (r.header.bytes h t ++ u16Bytes h r.senderBGid).length = 10 := by
    rw [List.length_append, MessageHeader.length_bytes, length_u16Bytes]
    rfl
  have hsame := sameOutside_middle (r.header.bytes h t ++ u16Bytes h r.senderBGid)
    (u16Bytes h r.senderSLid) (u16Bytes h sLid)
    (u16Bytes h r.cycle ++ r.combinedSignature.toList ++ r.entirePreprepareMsg)
    (by rw [length_u16Bytes, length_u16Bytes])
  rw [hpre, length_u16Bytes] at hsame
  simpa only [MessageRound3FetchResponse.bytes, List.append_assoc, u16Field] using hsame

theorem MessageRound3FetchResponse.Framed.carries (hr : r.Framed)
    (hfit : r.header.payloadLen.toNat + 12 < 2 ^ 32) : r.Carries r.entirePreprepareMsg := by
  unfold Framed MessageHeader.getMessageSize at hr
  simp only [sizeofMessageHeader, sizeofMessageRound3FetchResponse] at hr
  exact ⟨rfl, by omega, by omega⟩

/-- The Preprepare is as long as its header says, so all of it is sent. -/
theorem MessageRound3FetchResponse.Carries.framed {bytes : List UInt8} (h : r.Carries bytes)
    (sLid : Nat) : (fetchedResultPreprepare sLid r).Framed := by
  have hsize : sizeSub r.header.payloadLen.toNat
      (sizeofMessageRound3FetchResponse - sizeofMessageHeader) = bytes.length := by
    have hshort := h.short
    simp only [sizeofMessageRound3FetchResponse, sizeofMessageHeader]
    rw [h.payload, sizeSub_eq (by omega) (by omega)]
    omega
  have hlen : (fetchedResultPreprepare sLid r).participantsAndContent.length
      = 32 + bytes.length := by
    unfold fetchedResultPreprepare
    dsimp only
    rw [hsize, h.content, List.take_length, List.length_append, Vector.length_toList,
      sbftSignatureSize_eq]
  unfold MessageRound2Preprepare.Framed MessageHeader.getMessageSize
  rw [(h.wraps sLid).payload, hlen]
  simp only [sizeofMessageHeader, sizeofMessageRound2Preprepare]
  omega

/-- The two ends agree on the size of the embedded Preprepare. -/
theorem unwrap_fetchedResult (hversion : r.header.version = versionLatest) (hr : r.Framed)
    (hfit : r.header.payloadLen.toNat + 12 < 2 ^ 32) {q : MessageRound2Preprepare} {sLid : Nat}
    (hq : Numbered (fetchedResultPreprepare sLid r) q) :
    unwrapFetchedResult q = { r with senderSLid := invalidSenderId } := by
  have hcarries := hr.carries hfit
  have hwraps := (hcarries.wraps sLid).numbered hq
  have hbytes := hwraps.unwrap
  have hsize : sizeSub (sizeSub (q.header.payloadLen.toNat + sizeofMessageHeader)
      sizeofMessageRound2Preprepare) sbftCombinedSignatureSize = r.entirePreprepareMsg.length := by
    have hshort := hwraps.short
    simp only [sizeofMessageHeader, sizeofMessageRound2Preprepare, sbftCombinedSignatureSize]
    rw [hwraps.payload, sizeSub_eq (a := _ + 50 + 8) (by omega) (by omega),
      sizeSub_eq (by omega) (by omega)]
    omega
  have hpayload : UInt32.ofNat (sizeofMessageRound3FetchResponse - sizeofMessageHeader
      + r.entirePreprepareMsg.length) = r.header.payloadLen := by
    have hlen := hcarries.payload
    simp only [sizeofMessageHeader, sizeofMessageRound3FetchResponse]
    rw [show 46 - 8 + r.entirePreprepareMsg.length = r.header.payloadLen.toNat by omega]
    exact UInt32.ofNat_toNat
  have hsignature : signatureOfBytes q.participantsAndContent = r.combinedSignature := by
    rw [← hq]
    exact signatureOfBytes_append _ _
  unfold unwrapFetchedResult at hbytes ⊢
  dsimp only at hbytes ⊢
  rw [hbytes, hsize, hpayload, hsignature, ← hversion, ← hq]
  rfl

/--
**Wrapping loses nothing.** `q` is what the leader of a BG sends out for a response `r`, whatever
its round 2 counters are. It is encoded on the host of the leader and decoded on that of an SL,
and the response that the SL unwraps is `r` but for the sender.
-/
theorem fetchedResult_lossless (h h' : Endian) (sLid : Nat) (s : ConnManager)
    (r : MessageRound3FetchResponse) (hversion : r.header.version = versionLatest) (hr : r.Framed)
    (hfit : r.header.payloadLen.toNat + 12 < 2 ^ 32) :
    ∃ q wire, q = (commonParts s (fetchedResultPreprepare sLid r)).copy
      ∧ WireFormat.serialize h .round2Preprepare (q.bytes h) = some wire
      ∧ WireFormat.decode h' .round2Preprepare wire = some (q.bytes h')
      ∧ unwrapFetchedResult q = { r with senderSLid := invalidSenderId }
      ∧ SameOutside [u16Field 10] (r.bytes h' .round3FetchResponse)
          ((unwrapFetchedResult q).bytes h' .round3FetchResponse) := by
  have hframed : (commonParts s (fetchedResultPreprepare sLid r)).Framed :=
    (hr.carries hfit).framed sLid
  have hunwrap : unwrapFetchedResult (commonParts s (fetchedResultPreprepare sLid r)).copy
      = { r with senderSLid := invalidSenderId } := by
    rw [hframed.copy_eq]
    have hq : Numbered (fetchedResultPreprepare sLid r)
        (commonParts s (fetchedResultPreprepare sLid r)) := rfl
    exact unwrap_fetchedResult hversion hr hfit hq
  refine ⟨_, _, rfl, serialize_bytes h rfl, decode_bytes h' rfl, hunwrap, ?_⟩
  rw [hunwrap]
  exact sameOutside_senderSLid h' _ r invalidSenderId

/-- A response to a request for cycle 1 of the second BG that embeds two bytes. -/
def smallResponse : MessageRound3FetchResponse where
  header := { version := versionLatest, payloadLen := 40 }
  senderBGid := 1
  senderSLid := 0
  cycle := 1
  combinedSignature := zeroSignature
  entirePreprepareMsg := [17, 4]

theorem fetchedResult_lossless_small :
    ∃ q wire, q = (commonParts .init (fetchedResultPreprepare 0 smallResponse)).copy
      ∧ WireFormat.serialize .little .round2Preprepare (q.bytes .little) = some wire
      ∧ WireFormat.decode .big .round2Preprepare wire = some (q.bytes .big)
      ∧ unwrapFetchedResult q = { smallResponse with senderSLid := invalidSenderId }
      ∧ SameOutside [u16Field 10] (smallResponse.bytes .big .round3FetchResponse)
          ((unwrapFetchedResult q).bytes .big .round3FetchResponse) :=
  fetchedResult_lossless .little .big 0 .init smallResponse rfl rfl (by decide)

end Fetched

/-! ## The size of the embedded Preprepare -/

/-- `remotePreprepareSize` of `dispatcher_round3_fetchResponse`. -/
def fetchResponseRemoteSize (pFResp : MessageRound3FetchResponse) : Nat :=
  sizeSub pFResp.header.payloadLen.toNat (sizeofMessageRound3FetchResponse - sizeofMessageHeader)

/-- `remotePreprepareSize` of the branch for `REQUEST_TYPE_FETCHED_RESULT`. -/
def fullCommitRemoteSize (pPreprepare : MessageRound2Preprepare) : Nat :=
  sizeSub (sizeSub (pPreprepare.header.payloadLen.toNat + sizeofMessageHeader)
    sizeofMessageRound2Preprepare) sbftCombinedSignatureSize

/-- `remotePreprepareSize` of `dispatcher_round3_fetchConnectivityResponse`. -/
def connectivityRemoteSize (pConn : MessageRound3FetchResponse) : Nat :=
  sizeSub pConn.header.payloadLen.toNat (sizeofMessageRound3FetchResponse + sizeofMessageHeader)

/-- What one iteration there adds to `totalLocalMsgSize`. It reads `pConn`, not the slot. -/
def reservedForSlot (pConn : MessageRound3FetchResponse) : Nat :=
  (connectivityRemoteSize pConn + sbftCombinedSignatureSize) % 2 ^ 64

theorem localMembershipSize_eq (conf : Config) (pConn : MessageRound3FetchResponse) :
    localMembershipSize conf pConn
      = (List.replicate conf.numBG (reservedForSlot pConn)).sum % 2 ^ 64 := by
  rw [List.sum_replicate_nat]
  exact (Nat.mul_mod_mod conf.numBG _ _).symm

/-- A call of `getRound3Response_caller_free_mem` for a committed Preprepare. -/
structure ResponseCall where
  pPreprepare : MessageRound2Preprepare
  pFullC : MessageRound2FullCommit
  sLid : UInt16
  cycle : UInt16

namespace ResponseCall

variable (h : Endian) (call : ResponseCall)

/-- What the call returns. -/
def response : MessageRound3FetchResponse :=
  getRound3Response h call.pPreprepare call.pFullC call.sLid call.cycle

/-- `getMessageSize` of the Preprepare that the response embeds. -/
def embeddedSize : Nat := call.pPreprepare.header.getMessageSize

theorem payloadLen_response :
    (call.response h).header.payloadLen.toNat = (call.embeddedSize + 38) % 2 ^ 32 := by
  show (UInt32.ofNat _).toNat = _
  rw [UInt32.toNat_ofNat']
  congr 1
  simp only [sizeofMessageRound3FetchResponse, sizeofMessageHeader, embeddedSize]
  omega

theorem embeddedSize_lt : call.embeddedSize < 2 ^ 33 := by
  have hlt := call.pPreprepare.header.payloadLen.toNat_lt
  unfold embeddedSize MessageHeader.getMessageSize sizeofMessageHeader
  omega

theorem fetchResponseRemoteSize_eq (hfit : call.embeddedSize + 38 < 2 ^ 32) :
    fetchResponseRemoteSize (call.response h) = call.embeddedSize := by
  unfold fetchResponseRemoteSize
  rw [payloadLen_response]
  simp only [sizeSub, sizeofMessageRound3FetchResponse, sizeofMessageHeader]
  omega

theorem fullCommitRemoteSize_eq (hfit : call.embeddedSize + 50 < 2 ^ 32) (sLid : Nat) :
    fullCommitRemoteSize (fetchedResultPreprepare sLid (call.response h)) = call.embeddedSize := by
  have hsize := call.fetchResponseRemoteSize_eq h (by omega)
  have hpayload : (fetchedResultPreprepare sLid (call.response h)).header.payloadLen.toNat
      = call.embeddedSize + 50 := by
    show (UInt32.ofNat (sizeofMessageRound2Preprepare
      + (fetchResponseRemoteSize (call.response h) + sbftCombinedSignatureSize)
      - sizeofMessageHeader)).toNat = _
    rw [hsize, UInt32.toNat_ofNat']
    simp only [sizeofMessageRound2Preprepare, sizeofMessageHeader, sbftCombinedSignatureSize]
    omega
  unfold fullCommitRemoteSize
  rw [hpayload]
  simp only [sizeSub, sizeofMessageRound2Preprepare, sizeofMessageHeader,
    sbftCombinedSignatureSize]
  omega

/-- The header is subtracted where it should be added, so two headers are missing. -/
theorem connectivityRemoteSize_eq (hlarge : 16 ≤ call.embeddedSize)
    (hfit : call.embeddedSize + 38 < 2 ^ 32) :
    connectivityRemoteSize (call.response h) + 2 * sizeofMessageHeader = call.embeddedSize := by
  unfold connectivityRemoteSize
  rw [payloadLen_response]
  simp only [sizeSub, sizeofMessageRound3FetchResponse, sizeofMessageHeader]
  omega

/-- Also where the subtraction or `payloadLen` wraps around. -/
theorem connectivityRemoteSize_ne :
    connectivityRemoteSize (call.response h) ≠ call.embeddedSize := by
  have hlt := call.embeddedSize_lt
  unfold connectivityRemoteSize
  rw [payloadLen_response]
  simp only [sizeSub, sizeofMessageRound3FetchResponse, sizeofMessageHeader]
  omega

theorem reservedForSlot_ne :
    reservedForSlot (call.response h) ≠ sbftCombinedSignatureSize + call.embeddedSize := by
  have hlt := call.embeddedSize_lt
  unfold reservedForSlot connectivityRemoteSize
  rw [payloadLen_response]
  simp only [sizeSub, sizeofMessageRound3FetchResponse, sizeofMessageHeader,
    sbftCombinedSignatureSize]
  omega

/-- Every place recovers the size of the Preprepare that a response embeds. -/
structure SizeRecovered (sLid : Nat) : Prop where
  fetchResponse : fetchResponseRemoteSize (call.response h) = call.embeddedSize
  fullCommit : fullCommitRemoteSize (fetchedResultPreprepare sLid (call.response h))
    = call.embeddedSize
  connectivity : connectivityRemoteSize (call.response h) = call.embeddedSize

end ResponseCall

/--
The leader of `conf` has got the responses of all BGs, `last` among them as the last one. Every
size is recovered without an underflow, and the next Preprepare has room for each response.
-/
structure SizesAgree (h : Endian) (conf : Config) (calls : List ResponseCall)
    (last : ResponseCall) : Prop where
  recovered : ∀ call ∈ calls, call.SizeRecovered h conf.sLid
  noUnderflow : ∀ call ∈ calls, sizeofMessageRound3FetchResponse + sizeofMessageHeader
    ≤ (call.response h).header.payloadLen.toNat
  reserved : ∀ call ∈ calls,
    reservedForSlot (last.response h) = sbftCombinedSignatureSize + call.embeddedSize

/-- **The sizes never agree**, neither the recovered nor the reserved ones. -/
theorem embeddedSizes_never (h : Endian) (conf : Config) (calls : List ResponseCall)
    (last : ResponseCall) (hlast : last ∈ calls) :
    ¬ SizesAgree h conf calls last
      ∧ (∀ call ∈ calls, ¬ call.SizeRecovered h conf.sLid)
      ∧ ¬ ∀ call ∈ calls,
          reservedForSlot (last.response h) = sbftCombinedSignatureSize + call.embeddedSize := by
  have hrecovered : ∀ call : ResponseCall, ¬ call.SizeRecovered h conf.sLid := fun call hcall =>
    call.connectivityRemoteSize_ne h hcall.connectivity
  refine ⟨fun hagree => hrecovered last (hagree.recovered last hlast),
    fun call _ => hrecovered call, fun hreserved => ?_⟩
  exact last.reservedForSlot_ne h (hreserved last hlast)

/-- The response for the local connectivity that a BG commits for cycle 1. -/
def connectivityCall (bg : Nat) : ResponseCall where
  pPreprepare := localConnectivityPreprepare .little (twoServers.ofSL bg 0) 1 fun _ => true
  pFullC := fullCommitMessage 0 1 1
  sLid := 0
  cycle := 1

theorem embeddedSizes_never_twoServers :
    ¬ SizesAgree .little twoServers [connectivityCall 0, connectivityCall 1] (connectivityCall 1)
      ∧ (∀ call ∈ [connectivityCall 0, connectivityCall 1],
          ¬ call.SizeRecovered .little twoServers.sLid)
      ∧ ¬ ∀ call ∈ [connectivityCall 0, connectivityCall 1],
          reservedForSlot ((connectivityCall 1).response .little)
            = sbftCombinedSignatureSize + call.embeddedSize :=
  embeddedSizes_never .little twoServers _ _ (by simp)

/-- The leader recovers 14 bytes of 30, and reserves 92 bytes for 124. -/
theorem connectivity_sizes_differ :
    (connectivityCall 1).embeddedSize = 30
      ∧ connectivityRemoteSize ((connectivityCall 1).response .little) = 14
      ∧ localMembershipSize twoServers ((connectivityCall 1).response .little) = 92
      ∧ ([connectivityCall 0, connectivityCall 1].map fun call =>
          sbftCombinedSignatureSize + call.embeddedSize).sum = 124
      ∧ ¬ SizesAgree .little twoServers [connectivityCall 0, connectivityCall 1]
          (connectivityCall 1) := by
  refine ⟨by decide, by decide, by decide, by decide, fun hagree => ?_⟩
  exact absurd (hagree.recovered _ (List.mem_cons_self ..)).connectivity (by decide)

end RCanopus
