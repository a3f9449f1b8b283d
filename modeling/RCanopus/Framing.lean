import RCanopus.Builder

/-!
# Message framing

`clone`, `sender()`, `recvMessage_caller_free_mem` and `getRound3Response_caller_free_mem` all copy
`getMessageSize` bytes. A message is framed when that is what was allocated and filled in.

* `BuilderCall` lists the calls of the builders, with the inputs each of them gets.
* `BuilderCall.framed_iff`: a call builds a framed message exactly when it is not the client
  Preprepare and its payload fits in `payloadLen`.
-/

namespace RCanopus

/-! ## Framed messages -/

/-- The memory of a message is as long as its header says. -/
def Message.Framed (h : Endian) (m : Message) : Prop := m.getMessageSize = (m.bytes h).length

def MessageRound2Preprepare.Framed (m : MessageRound2Preprepare) : Prop :=
  m.header.getMessageSize = sizeofMessageRound2Preprepare + m.participantsAndContent.length

def MessageRound3FetchResponse.Framed (m : MessageRound3FetchResponse) : Prop :=
  m.header.getMessageSize = sizeofMessageRound3FetchResponse + m.entirePreprepareMsg.length

def MessageRound3FullMembership.Framed (m : MessageRound3FullMembership) : Prop :=
  m.header.getMessageSize = sizeofMessageRound3FullMembership + m.connectivity.length

theorem MessageRound2Preprepare.Framed.copy_eq {m : MessageRound2Preprepare} (hm : m.Framed) :
    m.copy = m := by
  unfold copy
  rw [hm, Nat.add_sub_cancel_left, List.take_length]

theorem MessageRound3FetchResponse.Framed.copy_eq {m : MessageRound3FetchResponse}
    (hm : m.Framed) : m.copy = m := by
  unfold copy
  rw [hm, Nat.add_sub_cancel_left, List.take_length]

theorem MessageRound3FullMembership.Framed.copy_eq {m : MessageRound3FullMembership}
    (hm : m.Framed) : m.copy = m := by
  unfold copy
  rw [hm, Nat.add_sub_cancel_left, List.take_length]

/-- The `sizeof` of the struct of a message and the length of its flexible array member. -/
theorem Message.length_bytes (h : Endian) (m : Message) :
    (m.bytes h).length = match m with
      | .hello _ => 12
      | .round2Request m => sizeofMessageRound2Request + m.content.length
      | .round2Preprepare m => sizeofMessageRound2Preprepare + m.participantsAndContent.length
      | .round2PartialCommit _ => sizeofMessageRound2PartialCommit
      | .round2FullCommit _ => sizeofMessageRound2FullCommit
      | .round3FetchRequest _ => sizeofMessageRound3FetchRequest
      | .round3FetchResponse m => sizeofMessageRound3FetchResponse + m.entirePreprepareMsg.length
      | .round3GeneralFetch _ => sizeofMessageRound3GeneralFetch
      | .round3ConnectivityResponse m =>
        sizeofMessageRound3FetchResponse + m.entirePreprepareMsg.length
      | .round3MembershipResponse m => sizeofMessageRound3FullMembership + m.connectivity.length
      | .empty _ => sizeofMessageEmpty := by
  cases m with
  | round2Preprepare m => exact m.length_bytes h
  | round3FetchResponse m => exact m.length_bytes h _
  | round3ConnectivityResponse m => exact m.length_bytes h _
  | round3MembershipResponse m => exact m.length_bytes h
  | round2Request m =>
    simp only [bytes, List.length_append, MessageHeader.length_bytes, length_u16Bytes]
    rfl
  | _ =>
    simp only [bytes, List.length_append, MessageHeader.length_bytes, length_u16Bytes,
      Vector.length_toList]
    rfl

/-- A copy of a framed message has all its bytes. -/
theorem Message.Framed.copy_eq {h : Endian} {m : Message} (hm : m.Framed h) : m.copy = m := by
  unfold Framed at hm
  rw [length_bytes] at hm
  cases m with
  | round2Request m =>
    have hlen : m.header.getMessageSize = sizeofMessageRound2Request + m.content.length := hm
    simp only [copy]
    rw [hlen, Nat.add_sub_cancel_left, List.take_length]
  | round2Preprepare m =>
    have : m.Framed := hm
    simp only [copy, this.copy_eq]
  | round3FetchResponse m =>
    have : m.Framed := hm
    simp only [copy, this.copy_eq]
  | round3ConnectivityResponse m =>
    have : m.Framed := hm
    simp only [copy, this.copy_eq]
  | round3MembershipResponse m =>
    have : m.Framed := hm
    simp only [copy, this.copy_eq]
  | _ => rfl

/-! ## The calls of the builders -/

/--
A call of one of the builders. What a builder wraps is a message in memory, so it is framed: it
came off a link or is a copy.
-/
inductive BuilderCall where
  | clientRequest (sLid : Nat) (content : { l : List UInt8 // l.length = requestBatchSize })
  | clientPreprepare (conf : Config) (cycle envoysRr : UInt16)
  | fetchedResultPreprepare (sLid : Nat)
      (pFResp : { m : MessageRound3FetchResponse // m.Framed })
  | localConnectivityPreprepare (conf : Config) (cycle : UInt16) (present : Nat → Bool)
  | localMembershipPreprepare (conf : Config)
      (pConn : { m : MessageRound3FetchResponse // m.Framed })
  | fullMembershipPreprepare (conf : Config) (cycle : UInt16)
      (rgMembership : List { m : MessageRound3FullMembership // m.Framed })
  | partialCommit (sLid : Nat) (view seq : UInt16)
  | fullCommit (sLid : Nat) (view seq : UInt16)
  | fetchRequest (pResponse : MessageRound3FetchResponse)
  | fetchResponse (pPreprepare : { m : MessageRound2Preprepare // m.Framed })
      (pFullC : MessageRound2FullCommit) (sLid cycle : UInt16)
  | connectivityResponse (pPreprepare : { m : MessageRound2Preprepare // m.Framed })
      (pFullC : MessageRound2FullCommit) (sLid cycle : UInt16)
  | generalFetch (conf : Config) (cycle : UInt16) (demanded : MessageType)
  | membershipResponse (conf : Config) (cycle : UInt16)
  | fakeMembershipResponse (conf : Config) (cycle : UInt16)
  | empty

namespace BuilderCall

/-- What the call builds. -/
def message (h : Endian) : BuilderCall → Message
  | clientRequest sLid content => .round2Request (mockClientRequest sLid content)
  | clientPreprepare conf cycle envoysRr =>
    .round2Preprepare (RCanopus.clientPreprepare h conf cycle envoysRr)
  | fetchedResultPreprepare sLid pFResp =>
    .round2Preprepare (RCanopus.fetchedResultPreprepare sLid pFResp)
  | localConnectivityPreprepare conf cycle present =>
    .round2Preprepare (RCanopus.localConnectivityPreprepare h conf cycle present)
  | localMembershipPreprepare conf pConn =>
    .round2Preprepare (RCanopus.localMembershipPreprepare conf pConn)
  | fullMembershipPreprepare conf cycle rgMembership =>
    .round2Preprepare
      (RCanopus.fullMembershipPreprepare h conf cycle (rgMembership.map Subtype.val))
  | partialCommit sLid view seq => .round2PartialCommit (partialCommitMessage sLid view seq)
  | fullCommit sLid view seq => .round2FullCommit (fullCommitMessage sLid view seq)
  | fetchRequest pResponse => .round3FetchRequest (getRound3Request h pResponse)
  | fetchResponse pPreprepare pFullC sLid cycle =>
    .round3FetchResponse (getRound3Response h pPreprepare pFullC sLid cycle)
  | connectivityResponse pPreprepare pFullC sLid cycle =>
    .round3ConnectivityResponse (getRound3Response h pPreprepare pFullC sLid cycle)
  | generalFetch conf cycle demanded =>
    .round3GeneralFetch (generalFetchMessage conf cycle demanded)
  | membershipResponse conf cycle =>
    .round3MembershipResponse (RCanopus.membershipResponse conf cycle)
  | fakeMembershipResponse conf cycle =>
    .round3MembershipResponse (RCanopus.fakeMembershipResponse conf cycle)
  | empty => .empty emptyMessage

/-- The size that the call passes to `new char[]`. -/
def allocated : BuilderCall → Nat
  | clientRequest _ _ => sizeofMessageRound2Request + requestBatchSize
  | clientPreprepare conf _ _ =>
    (sizeofMessageRound2Preprepare + clientPayloadSize conf) % 2 ^ 64
  | fetchedResultPreprepare _ pFResp =>
    sizeofMessageRound2Preprepare
      + (sizeSub pFResp.val.header.payloadLen.toNat
          (sizeofMessageRound3FetchResponse - sizeofMessageHeader) + sbftCombinedSignatureSize)
  | localConnectivityPreprepare conf _ _ => sizeofMessageRound2Preprepare + (2 + conf.numBG)
  | localMembershipPreprepare conf pConn =>
    (sizeofMessageRound2Preprepare + localMembershipSize conf pConn) % 2 ^ 64
  | fullMembershipPreprepare _ _ rgMembership =>
    sizeofMessageRound2Preprepare
      + (rgMembership.map fun m => sizeofMessageHeader + m.val.header.payloadLen.toNat).sum
  | partialCommit _ _ _ => sizeofMessageRound2PartialCommit
  | fullCommit _ _ _ => sizeofMessageRound2FullCommit
  | fetchRequest _ => sizeofMessageRound3FetchRequest
  | fetchResponse pPreprepare _ _ _ =>
    sizeofMessageRound3FetchResponse + pPreprepare.val.header.getMessageSize
  | connectivityResponse pPreprepare _ _ _ =>
    sizeofMessageRound3FetchResponse + pPreprepare.val.header.getMessageSize
  | generalFetch _ _ _ => sizeofMessageRound3GeneralFetch
  | membershipResponse conf _ => conf.numBG * conf.numBG + sizeofMessageRound3FullMembership
  | fakeMembershipResponse conf _ => sizeofMessageRound3FullMembership + conf.numBG * conf.numBG
  | empty => sizeofMessageEmpty

/-- The header agrees with the allocation, all of it was filled in, and copies are complete. -/
def Framed (h : Endian) (c : BuilderCall) : Prop :=
  (c.message h).getMessageSize = c.allocated
    ∧ c.allocated = ((c.message h).bytes h).length
    ∧ (c.message h).copy = c.message h

/-- The payload fits in 32 bits, and the call does not build a client Preprepare. -/
def Fits : BuilderCall → Prop
  | clientPreprepare _ _ _ => False
  | fetchedResultPreprepare _ pFResp => pFResp.val.header.payloadLen.toNat + 12 < 2 ^ 32
  | localConnectivityPreprepare conf _ _ => conf.numBG + 20 < 2 ^ 32
  | localMembershipPreprepare conf pConn => localMembershipSize conf pConn + 18 < 2 ^ 32
  | fullMembershipPreprepare _ _ rgMembership =>
    (rgMembership.map fun m => sizeofMessageHeader + m.val.header.payloadLen.toNat).sum + 18
      < 2 ^ 32
  | fetchResponse pPreprepare _ _ _ => pPreprepare.val.header.payloadLen.toNat + 46 < 2 ^ 32
  | connectivityResponse pPreprepare _ _ _ =>
    pPreprepare.val.header.payloadLen.toNat + 46 < 2 ^ 32
  | membershipResponse conf _ => conf.numBG * conf.numBG + 40 < 2 ^ 32
  | fakeMembershipResponse conf _ => conf.numBG * conf.numBG + 40 < 2 ^ 32
  | _ => True

/-! ## Which calls build framed messages -/

variable {h : Endian} {c : BuilderCall}

/-- When the header holds the rest of the allocation, only truncation can break the frame. -/
theorem framed_iff_of_payload {a : Nat} (ha : sizeofMessageHeader ≤ a) (halloc : c.allocated = a)
    (hbytes : ((c.message h).bytes h).length = a)
    (hlen : (c.message h).header.payloadLen = UInt32.ofNat (a - sizeofMessageHeader)) :
    c.Framed h ↔ a - sizeofMessageHeader < 2 ^ 32 := by
  have hsize : (c.message h).getMessageSize
      = sizeofMessageHeader + (a - sizeofMessageHeader) % 2 ^ 32 := by
    unfold Message.getMessageSize MessageHeader.getMessageSize
    rw [hlen, UInt32.toNat_ofNat']
  have hmod := Nat.mod_lt (a - sizeofMessageHeader) (show 0 < 2 ^ 32 by decide)
  constructor
  · rintro ⟨hframe, -, -⟩
    rw [hsize, halloc] at hframe
    omega
  · intro hfit
    rw [Nat.mod_eq_of_lt hfit] at hsize
    refine ⟨?_, ?_, ?_⟩
    · rw [hsize, halloc]
      omega
    · rw [halloc, hbytes]
    · refine Message.Framed.copy_eq (h := h) ?_
      unfold Message.Framed
      rw [hsize, hbytes]
      omega

/-- A client Preprepare is longer than its header says, in every configuration. -/
theorem not_framed_clientPreprepare (conf : Config) (cycle envoysRr : UInt16) :
    ¬ (clientPreprepare conf cycle envoysRr).Framed h := by
  rintro ⟨hframe, -, -⟩
  have hsize : ((clientPreprepare conf cycle envoysRr).message h).getMessageSize
      = sizeofMessageHeader + clientPayloadSize conf % 2 ^ 32 := by
    show sizeofMessageHeader + (UInt32.ofNat (clientPayloadSize conf)).toNat = _
    rw [UInt32.toNat_ofNat']
  have halloc : (clientPreprepare conf cycle envoysRr).allocated
      = (sizeofMessageRound2Preprepare + clientPayloadSize conf) % 2 ^ 64 := rfl
  rw [hsize, halloc] at hframe
  unfold sizeofMessageHeader sizeofMessageRound2Preprepare at hframe
  have hlt : clientPayloadSize conf < 2 ^ 64 := Nat.mod_lt _ (by decide)
  omega

/-- The size of a response is that of the Preprepare in it and of its own fields. -/
theorem length_getRound3Response (t : MessageType) (pPreprepare : MessageRound2Preprepare)
    (hp : pPreprepare.Framed) (pFullC : MessageRound2FullCommit) (sLid cycle : UInt16) :
    ((getRound3Response h pPreprepare pFullC sLid cycle).bytes h t).length
      = sizeofMessageRound3FetchResponse + pPreprepare.header.getMessageSize := by
  rw [MessageRound3FetchResponse.length_bytes]
  show _ + ((pPreprepare.bytes h).take pPreprepare.header.getMessageSize).length = _
  rw [List.length_take, MessageRound2Preprepare.length_bytes, ← hp, Nat.min_self]

theorem length_membershipCopyBytes (m : MessageRound3FullMembership) (hm : m.Framed) :
    (membershipCopyBytes h m).length = sizeofMessageHeader + m.header.payloadLen.toNat := by
  unfold membershipCopyBytes
  rw [List.length_take, MessageRound3FullMembership.length_bytes, ← hm]
  exact Nat.min_self _

/-- The size of a local membership Preprepare may even exceed `size_t`. -/
theorem framed_localMembership_iff (conf : Config)
    (pConn : { m : MessageRound3FetchResponse // m.Framed }) :
    (localMembershipPreprepare conf pConn).Framed h
      ↔ localMembershipSize conf pConn + 18 < 2 ^ 32 := by
  have hbytes : (((localMembershipPreprepare conf pConn).message h).bytes h).length
      = sizeofMessageRound2Preprepare + localMembershipSize conf pConn := by
    rw [Message.length_bytes]
    exact congrArg (sizeofMessageRound2Preprepare + ·) List.length_replicate
  have halloc : (localMembershipPreprepare conf pConn).allocated
      = (sizeofMessageRound2Preprepare + localMembershipSize conf pConn) % 2 ^ 64 := rfl
  by_cases hlt : sizeofMessageRound2Preprepare + localMembershipSize conf pConn < 2 ^ 64
  · rw [Nat.mod_eq_of_lt hlt] at halloc
    refine (framed_iff_of_payload ?_ halloc hbytes rfl).trans ?_
    · unfold sizeofMessageHeader sizeofMessageRound2Preprepare
      omega
    · unfold sizeofMessageHeader sizeofMessageRound2Preprepare
      omega
  · refine iff_of_false ?_ ?_
    · rintro ⟨-, hfill, -⟩
      rw [halloc, hbytes] at hfill
      omega
    · unfold sizeofMessageRound2Preprepare at hlt
      omega

/--
**Framing.** A call builds a framed message exactly when it is not the client Preprepare and its
payload fits in `payloadLen`.
-/
theorem framed_iff (h : Endian) (c : BuilderCall) : c.Framed h ↔ c.Fits := by
  cases c with
  | clientPreprepare conf cycle envoysRr =>
    exact iff_of_false (not_framed_clientPreprepare conf cycle envoysRr) id
  | clientRequest sLid content =>
    refine (framed_iff_of_payload (a := sizeofMessageRound2Request + requestBatchSize)
      (by decide) rfl ?_ rfl).trans (iff_of_true (by decide) trivial)
    rw [Message.length_bytes]
    exact congrArg (sizeofMessageRound2Request + ·) content.property
  | fetchedResultPreprepare sLid pFResp =>
    have hframed := pFResp.property
    have hlt := pFResp.val.header.payloadLen.toNat_lt
    unfold MessageRound3FetchResponse.Framed MessageHeader.getMessageSize at hframed
    have hsub : sizeSub pFResp.val.header.payloadLen.toNat
        (sizeofMessageRound3FetchResponse - sizeofMessageHeader)
        = pFResp.val.entirePreprepareMsg.length := by
      unfold sizeofMessageRound3FetchResponse sizeofMessageHeader at *
      rw [sizeSub_eq (by omega) (by omega)]
      omega
    refine (framed_iff_of_payload (c := fetchedResultPreprepare sLid pFResp)
      (a := sizeofMessageRound2Preprepare
        + (pFResp.val.entirePreprepareMsg.length + sbftCombinedSignatureSize))
      ?_ ?_ ?_ ?_).trans ?_
    · unfold sizeofMessageHeader sizeofMessageRound2Preprepare
      omega
    · rw [← hsub]
      rfl
    · rw [Message.length_bytes]
      show _ + (pFResp.val.combinedSignature.toList
        ++ pFResp.val.entirePreprepareMsg.take (sizeSub _ _)).length = _
      rw [List.length_append, hsub, List.take_length, Vector.length_toList,
        Nat.add_comm sbftSignatureSize]
      rfl
    · rw [← hsub]
      rfl
    · show _ ↔ pFResp.val.header.payloadLen.toNat + 12 < 2 ^ 32
      unfold sizeofMessageRound3FetchResponse sizeofMessageHeader at hframed
      unfold sizeofMessageHeader sizeofMessageRound2Preprepare sbftCombinedSignatureSize
      omega
  | localConnectivityPreprepare conf cycle present =>
    refine (framed_iff_of_payload (a := sizeofMessageRound2Preprepare + (2 + conf.numBG))
      ?_ rfl ?_ ?_).trans ?_
    · unfold sizeofMessageHeader sizeofMessageRound2Preprepare
      omega
    · rw [Message.length_bytes]
      show _ + (u16Bytes h _ ++ List.map _ _).length = _
      rw [List.length_append, length_u16Bytes, List.length_map, List.length_range]
    · show UInt32.ofNat _ = UInt32.ofNat _
      unfold sizeofMessageHeader sizeofMessageRound2Preprepare
      congr 1
      omega
    · show _ ↔ conf.numBG + 20 < 2 ^ 32
      unfold sizeofMessageHeader sizeofMessageRound2Preprepare
      omega
  | localMembershipPreprepare conf pConn =>
    exact framed_localMembership_iff conf pConn
  | fullMembershipPreprepare conf cycle rgMembership =>
    refine (framed_iff_of_payload (a := sizeofMessageRound2Preprepare
      + (rgMembership.map fun m => sizeofMessageHeader + m.val.header.payloadLen.toNat).sum)
      ?_ rfl ?_ ?_).trans ?_
    · unfold sizeofMessageHeader sizeofMessageRound2Preprepare
      omega
    · rw [Message.length_bytes]
      show _ + ((rgMembership.map Subtype.val).flatMap (membershipCopyBytes h)).length = _
      rw [List.length_flatMap, List.map_map]
      congr 2
      refine List.map_congr_left fun m _ => ?_
      exact length_membershipCopyBytes m.val m.property
    · show UInt32.ofNat (_ + List.sum (List.map _ (List.map _ _)) - _) = _
      rw [List.map_map]
      rfl
    · show _ ↔ (rgMembership.map _).sum + 18 < 2 ^ 32
      unfold sizeofMessageHeader sizeofMessageRound2Preprepare
      omega
  | partialCommit sLid view seq =>
    refine (framed_iff_of_payload (a := sizeofMessageRound2PartialCommit)
      (by decide) rfl ?_ rfl).trans (iff_of_true (by decide) trivial)
    exact Message.length_bytes h _
  | fullCommit sLid view seq =>
    refine (framed_iff_of_payload (a := sizeofMessageRound2FullCommit)
      (by decide) rfl ?_ rfl).trans (iff_of_true (by decide) trivial)
    exact Message.length_bytes h _
  | fetchRequest pResponse =>
    refine (framed_iff_of_payload (a := sizeofMessageRound3FetchRequest)
      (by decide) rfl ?_ rfl).trans (iff_of_true (by decide) trivial)
    exact Message.length_bytes h _
  | fetchResponse pPreprepare pFullC sLid cycle =>
    refine (framed_iff_of_payload (a := sizeofMessageRound3FetchResponse
      + pPreprepare.val.header.getMessageSize) ?_ rfl ?_ rfl).trans ?_
    · unfold sizeofMessageHeader sizeofMessageRound3FetchResponse
      omega
    · exact length_getRound3Response _ _ pPreprepare.property pFullC sLid cycle
    · show _ ↔ pPreprepare.val.header.payloadLen.toNat + 46 < 2 ^ 32
      unfold MessageHeader.getMessageSize sizeofMessageHeader sizeofMessageRound3FetchResponse
      omega
  | connectivityResponse pPreprepare pFullC sLid cycle =>
    refine (framed_iff_of_payload (a := sizeofMessageRound3FetchResponse
      + pPreprepare.val.header.getMessageSize) ?_ rfl ?_ rfl).trans ?_
    · unfold sizeofMessageHeader sizeofMessageRound3FetchResponse
      omega
    · exact length_getRound3Response _ _ pPreprepare.property pFullC sLid cycle
    · show _ ↔ pPreprepare.val.header.payloadLen.toNat + 46 < 2 ^ 32
      unfold MessageHeader.getMessageSize sizeofMessageHeader sizeofMessageRound3FetchResponse
      omega
  | generalFetch conf cycle demanded =>
    refine (framed_iff_of_payload (a := sizeofMessageRound3GeneralFetch)
      (by decide) rfl ?_ rfl).trans (iff_of_true (by decide) trivial)
    exact Message.length_bytes h _
  | membershipResponse conf cycle =>
    refine (framed_iff_of_payload
      (a := conf.numBG * conf.numBG + sizeofMessageRound3FullMembership) ?_ rfl ?_ ?_).trans ?_
    · unfold sizeofMessageHeader sizeofMessageRound3FullMembership
      omega
    · rw [Message.length_bytes]
      show _ + (List.flatMap _ _).length = _
      simp [List.length_flatMap, Nat.add_comm]
    · show UInt32.ofNat _ = UInt32.ofNat _
      unfold sizeofMessageHeader sizeofMessageRound3FullMembership
      congr 1
      omega
    · show _ ↔ conf.numBG * conf.numBG + 40 < 2 ^ 32
      unfold sizeofMessageHeader sizeofMessageRound3FullMembership
      omega
  | fakeMembershipResponse conf cycle =>
    refine (framed_iff_of_payload
      (a := sizeofMessageRound3FullMembership + conf.numBG * conf.numBG) ?_ rfl ?_ rfl).trans ?_
    · unfold sizeofMessageHeader sizeofMessageRound3FullMembership
      omega
    · rw [Message.length_bytes]
      show _ + (List.replicate _ _).length = _
      rw [List.length_replicate]
    · show _ ↔ conf.numBG * conf.numBG + 40 < 2 ^ 32
      unfold sizeofMessageHeader sizeofMessageRound3FullMembership
      omega
  | empty =>
    refine (framed_iff_of_payload (a := sizeofMessageEmpty) (by decide) rfl ?_ rfl).trans
      (iff_of_true (by decide) trivial)
    exact Message.length_bytes h _

/-- One BG of one SL without failures, the smallest configuration. -/
def singleServer : Config where
  rgBGInfo := [{ failure := 0, addr := [{ sinAddr := 0x7F000001, sinPort := 7000 }] }]
  bGid := 0
  sLid := 0
  globalFailures := 0

/--
The first client Preprepare of a single server takes 26 + 2 + 1048576 bytes, and its header says
1048586.
-/
theorem singleServer_clientPreprepare_not_framed :
    ((clientPreprepare singleServer 1 0).message .little).getMessageSize = 1048586
      ∧ (clientPreprepare singleServer 1 0).allocated = 1048604
      ∧ ¬ ∀ (h : Endian) (c : BuilderCall), c.Framed h := by
  refine ⟨rfl, rfl, fun hall => ?_⟩
  have hframe := (hall .little (clientPreprepare singleServer 1 0)).1
  exact absurd hframe (by decide)

end BuilderCall

end RCanopus
