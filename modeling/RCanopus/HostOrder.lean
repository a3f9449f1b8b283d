import RCanopus.Wrapping
import RCanopus.Delivery
import RCanopus.Baseline.Dispatcher

/-!
# The wire format and the byte order of the host

`sender()` converts the fields of the struct that a message type stands for. A message may have
integers beyond them: those of a message that is embedded in it, the number of BGs in front of the
connectivity, and the list of BGs in a Preprepare of round 3 of the baseline. Nothing converts
these.

* `SameMessage`: two buffers that hold the same message, one on a host of each byte order.
* `hostIndependent_iff`: when the two hosts send the same bytes.
-/

namespace RCanopus

/-! ## All integers of a message -/

/-- Offset of `requestType` in a Preprepare. -/
def requestTypeOffset : Nat := 16

/-- `connectivitySize` at the start of the content of a local connectivity Preprepare. -/
def connectivityCount (start : Nat) (p : List UInt8) : List Slice :=
  if u16At .little p requestTypeOffset = requestTypeLocalConnectivity ∧ start + 2 ≤ p.length then
    [u16Field start]
  else []

/-- The integers of an embedded Preprepare, if the bytes hold one. -/
def preprepareIntegers (p : List UInt8) : List Slice :=
  if WireFormat.Holds .little .round2Preprepare p then
    WireFormat.fields .round2Preprepare (WireFormat.listed .little .round2Preprepare p)
      ++ connectivityCount (sizeofMessageRound2Preprepare
          + 2 * WireFormat.listed .little .round2Preprepare p) p
  else []

/-- The integers of membership responses that follow one another from an offset on. -/
def membershipIntegers : Nat → Nat → List UInt8 → List Slice
  | 0, _, _ => []
  | fuel + 1, offset, p =>
    if sizeofMessageRound3FullMembership ≤ messageSizeAt .little p
        ∧ messageSizeAt .little p ≤ p.length then
      (WireFormat.fields .round3FullMembership 0).map (Slice.shift offset)
        ++ membershipIntegers fuel (offset + messageSizeAt .little p)
            (p.drop (messageSizeAt .little p))
    else []

/-- The integers of a Preprepare that is embedded from an offset on. -/
def embeddedPreprepare (offset : Nat) (p : List UInt8) : List Slice :=
  (preprepareIntegers (p.drop offset)).map (Slice.shift offset)

/-- The integers of a message that are not fields of its struct. -/
def WireFormat.embedded (t : WireFormat) (p : List UInt8) : List Slice :=
  match t with
  | .round3FetchResponse => embeddedPreprepare sizeofMessageRound3FetchResponse p
  | .round2Preprepare =>
    let start := sizeofMessageRound2Preprepare + 2 * WireFormat.listed .little .round2Preprepare p
    if u16At .little p requestTypeOffset = requestTypeFetchedResult then
      embeddedPreprepare (start + sbftCombinedSignatureSize) p
    else if u16At .little p requestTypeOffset = requestTypeFullMembership then
      membershipIntegers (p.drop start).length start (p.drop start)
    else connectivityCount start p
  | .round3PreprepareBaseline =>
    (List.range ((p.length - Baseline.sizeofMessageRound3PreprepareBaseline) / 2)).map fun i =>
      u16Field (Baseline.sizeofMessageRound3PreprepareBaseline + 2 * i)
  | _ => []

/-- All integers of a message in the memory of a little-endian host. -/
def WireFormat.integers (t : WireFormat) (p : List UInt8) : List Slice :=
  t.fields (t.listed .little p) ++ t.embedded p

/-- `p` on a little-endian host and `q` on a big-endian one hold the same message of type `t`. -/
structure SameMessage (t : WireFormat) (p q : List UInt8) : Prop where
  holds : t.Holds .little p
  turned : q = Slice.turnAll (t.integers p) p

/-- Each integer beyond the struct has the same bytes in both orders, as far as it is sent. -/
def EmbeddedAgree (t : WireFormat) (p : List UInt8) : Prop :=
  ∀ f ∈ t.embedded p, ∀ i < messageSizeAt .little p, f.Covers i → p[f.mirror i]? = p[i]?

/-! ## `sender` of `ConnManager_Baseline.cpp` -/

/-- The `switch` of `sender()` there. -/
def Baseline.ofMsgType (msgType : UInt16) : Option WireFormat :=
  if msgType = MessageType.hello.code then some .hello
  else if msgType = MessageType.round2Request.code then some .round2Request
  else if msgType = MessageType.round2Preprepare.code then some .round2Preprepare
  else if msgType = MessageType.round2PartialCommit.code then some .round2PartialCommit
  else if msgType = MessageType.round2FullCommit.code then some .round2FullCommit
  else if msgType = MessageType.round3FetchRequest.code then some .round3FetchRequest
  else if msgType = MessageType.round3FetchResponse.code then some .round3FetchResponse
  else if msgType = 11 then some .round3PreprepareBaseline
  else if msgType = 12 then some .round3PartialCommitBaseline
  else if msgType = 13 then some .round3FullCommitBaseline
  else none

/-- The calls that `sender()` there makes, which differs in the `switch` only. -/
def Baseline.senderCalls {Peer : Type} (h : Endian) (element : RawQueueElement Peer) :
    Delivery Peer :=
  let totalLength := messageSizeAt h element.pMessage
  let copies := element.selfCopies h element.upPeers
  match (Baseline.ofMsgType (msgTypeAt h element.pMessage)).bind
      fun t => t.serialize h element.pMessage with
  | some wire =>
    { recvQueue := copies
      sends := sendToPeers (wire.take totalLength) element.upPeers
      converted := true }
  | none => { recvQueue := copies, sends := [], converted := false }

instance (t : WireFormat) (p : List UInt8) : Decidable (EmbeddedAgree t p) :=
  inferInstanceAs (Decidable (∀ f ∈ t.embedded p, ∀ i < messageSizeAt .little p, f.Covers i →
    p[f.mirror i]? = p[i]?))

/-! ## Where the integers are -/

section Laid

variable {t : WireFormat} {p : List UInt8} {n start offset fuel : Nat}

theorem WireFormat.fields_laid (t : WireFormat) (p : List UInt8) :
    Slice.Laid 0 (t.size + 2 * t.listed .little p) (t.fields (t.listed .little p)) where
  low := fun _ _ => Nat.zero_le _
  high := fun f hf => by
    rcases List.mem_append.mp hf with hf | hf
    · have := WireFormat.fixed_within t f hf
      omega
    · exact (WireFormat.participants_start .little hf).2
  disjoint := WireFormat.fields_disjoint .little t p

theorem connectivityCount_laid (start : Nat) (p : List UInt8) :
    Slice.Laid start p.length (connectivityCount start p) := by
  unfold connectivityCount
  split
  · next h => exact .singleton (Nat.le_refl _) h.2
  · exact .nil _ _

theorem preprepareIntegers_laid (p : List UInt8) :
    Slice.Laid 0 p.length (preprepareIntegers p) := by
  unfold preprepareIntegers
  split
  · next h =>
    exact (WireFormat.fields_laid _ p).append (connectivityCount_laid _ p) (Nat.zero_le _) h
  · exact .nil _ _

theorem embeddedPreprepare_laid (offset : Nat) (p : List UInt8) :
    Slice.Laid offset p.length (embeddedPreprepare offset p) := by
  have h := (preprepareIntegers_laid (p.drop offset)).shift offset
  rw [List.length_drop, Nat.add_zero] at h
  rcases Nat.le_total offset p.length with hle | hle
  · rwa [Nat.add_sub_cancel' hle] at h
  · have hnil : embeddedPreprepare offset p = [] := by
      unfold embeddedPreprepare preprepareIntegers
      rw [List.drop_eq_nil_of_le hle]
      rfl
    rw [hnil]
    exact .nil _ _

theorem membershipIntegers_laid :
    Slice.Laid offset (offset + p.length) (membershipIntegers fuel offset p) := by
  induction fuel generalizing offset p with
  | zero => exact .nil _ _
  | succ fuel ih =>
    unfold membershipIntegers
    split
    · next h =>
      have hstruct : Slice.Laid 0 sizeofMessageRound3FullMembership
          (WireFormat.fields .round3FullMembership 0) :=
        ⟨fun _ _ => Nat.zero_le _, by decide, by decide⟩
      have hrest := @ih (p.drop (messageSizeAt .little p)) (offset + messageSizeAt .little p)
      rw [List.length_drop] at hrest
      refine ((hstruct.shift offset).mono (Nat.le_refl _) ?_).append (hrest.mono (Nat.le_refl _) ?_)
        (Nat.le_add_right _ _) ?_
      · omega
      · omega
      · omega
    · exact .nil _ _

/-- A list of `uint16_t` up to the end of a buffer. -/
theorem u16List_laid (start n : Nat) :
    Slice.Laid start (start + 2 * n) ((List.range n).map fun i => u16Field (start + 2 * i)) where
  low := fun f hf => by
    obtain ⟨i, -, rfl⟩ := List.mem_map.mp hf
    exact Nat.le_add_right _ _
  high := fun f hf => by
    obtain ⟨i, hi, rfl⟩ := List.mem_map.mp hf
    have hi := List.mem_range.mp hi
    show start + 2 * i + 2 ≤ start + 2 * n
    omega
  disjoint := List.pairwise_map.mpr (List.pairwise_lt_range.imp fun {i j} hij => by
    simp only [Slice.Disjoint, u16Field]
    omega)

/-- The other integers lie behind the struct and its participants. -/
theorem WireFormat.embedded_laid (hp : t.Holds .little p) :
    Slice.Laid (t.size + 2 * t.listed .little p) p.length (t.embedded p) := by
  unfold WireFormat.Holds at hp
  unfold WireFormat.embedded
  split
  · exact embeddedPreprepare_laid _ p
  · dsimp only
    split
    · exact (embeddedPreprepare_laid _ p).mono (Nat.le_add_right _ _) (Nat.le_refl _)
    split
    · refine membershipIntegers_laid.mono (Nat.le_refl _) ?_
      rw [List.length_drop]
      exact Nat.le_of_eq (Nat.add_sub_cancel' hp)
    · exact connectivityCount_laid _ p
  · refine (u16List_laid 14 ((p.length - 14) / 2)).mono (Nat.le_refl _) ?_
    have hp : 14 ≤ p.length := hp
    omega
  · exact .nil _ _

theorem WireFormat.integers_laid (hp : t.Holds .little p) :
    Slice.Laid 0 p.length (t.integers p) :=
  (WireFormat.fields_laid t p).append (WireFormat.embedded_laid hp) (Nat.zero_le _) hp

end Laid

/-! ## The messages of the model

The memory of a message on the two hosts, as the builders fill it in.
-/

section

variable {m : MessageRound2Preprepare} {rest : List UInt8} {l : List UInt16}

/-- Some numbers in the byte order of a host. -/
def u16ListBytes (h : Endian) (l : List UInt16) : List UInt8 := l.flatMap (u16Bytes h)

theorem length_u16ListBytes (h : Endian) (l : List UInt16) :
    (u16ListBytes h l).length = 2 * l.length := by
  unfold u16ListBytes
  simp [List.length_flatMap, length_u16Bytes, Nat.mul_comm]

theorem consecutive_u16 (start : Nat) (l : List UInt16) :
    Slice.consecutive start ((l.map (u16Bytes .little)).map List.length)
      = (List.range l.length).map fun i => u16Field (start + 2 * i) := by
  induction l generalizing start with
  | nil => rfl
  | cons x l ih =>
    rw [List.map_cons, List.map_cons, Slice.consecutive, length_u16Bytes, ih, List.length_cons,
      List.range_succ_eq_map, List.map_cons, List.map_map]
    refine congrArg₂ List.cons rfl (List.map_congr_left fun i _ => ?_)
    show u16Field (start + 2 + 2 * i) = u16Field (start + 2 * (i + 1))
    rw [show start + 2 + 2 * i = start + 2 * (i + 1) by omega]

/-- Turning numbers around takes them from the one host to the other. -/
theorem turnAll_u16List (pre : List UInt8) (l : List UInt16) (rest : List UInt8) :
    Slice.turnAll ((List.range l.length).map fun i => u16Field (pre.length + 2 * i))
        (pre ++ (u16ListBytes .little l ++ rest)) = pre ++ (u16ListBytes .big l ++ rest) := by
  have hturn := Slice.turnAll_consecutive pre (l.map (u16Bytes .little)) rest
  rw [consecutive_u16, List.map_map] at hturn
  exact hturn

/-- The struct of a Preprepare and its participants. -/
theorem turnAll_preprepare (hl : l.length = m.numOfRound3Participants.toNat)
    (hcontent : m.participantsAndContent = u16ListBytes .little l ++ rest) :
    Slice.turnAll (WireFormat.fields .round2Preprepare m.numOfRound3Participants.toNat)
        (m.bytes .little)
      = ({ m with participantsAndContent := u16ListBytes .big l ++ rest } :
        MessageRound2Preprepare).bytes .big := by
  have hfields : WireFormat.fields .round2Preprepare m.numOfRound3Participants.toNat
      = WireFormat.fields .round2Preprepare 0
        ++ participantFields m.numOfRound3Participants.toNat := by
    unfold WireFormat.fields
    rw [show participantFields 0 = [] from rfl, List.append_nil]
  have hfixed : Slice.turnAll (WireFormat.fields .round2Preprepare 0) (m.bytes .little)
      = m.bytes .big := (turnFields_bytes .little m).1
  rw [hfields, Slice.turnAll_append, hfixed]
  unfold MessageRound2Preprepare.bytes
  rw [hcontent, ← hl]
  have hlen : (m.header.bytes .big .round2Preprepare ++ m.fixedBytes .big).length = 26 := rfl
  have hturn := turnAll_u16List (m.header.bytes .big .round2Preprepare ++ m.fixedBytes .big) l rest
  rw [hlen] at hturn
  exact hturn

theorem listed_preprepare :
    WireFormat.listed .little .round2Preprepare (m.bytes .little)
      = m.numOfRound3Participants.toNat :=
  congrArg UInt16.toNat u16At_numOfRound3Participants

theorem u16At_requestType : u16At .little (m.bytes .little) requestTypeOffset = m.requestType := by
  have hbytes : m.bytes .little = (m.header.bytes .little .round2Preprepare
      ++ u16Bytes .little m.sender ++ u16Bytes .little m.view ++ u16Bytes .little m.seq
      ++ u16Bytes .little m.bGid) ++ (u16Bytes .little m.requestType ++ (u16Bytes .little m.cycle
      ++ u16Bytes .little m.lastcycle ++ u16Bytes .little m.collectorSLid
      ++ u16Bytes .little m.numOfRound3Participants ++ m.participantsAndContent)) := by
    unfold MessageRound2Preprepare.bytes MessageRound2Preprepare.fixedBytes
    simp only [List.append_assoc]
  rw [hbytes]
  exact u16At_append .little _ _ _

/-- The integers of a Preprepare in memory. -/
theorem integers_preprepare :
    WireFormat.integers .round2Preprepare (m.bytes .little)
      = WireFormat.fields .round2Preprepare m.numOfRound3Participants.toNat
        ++ WireFormat.embedded .round2Preprepare (m.bytes .little) := by
  unfold WireFormat.integers
  rw [listed_preprepare]

/-- A client Preprepare has no integers but the fields and the participants. -/
theorem embedded_client (ht : m.requestType = requestTypeFromClient) :
    WireFormat.embedded .round2Preprepare (m.bytes .little) = [] := by
  unfold WireFormat.embedded connectivityCount
  dsimp only
  rw [u16At_requestType, ht]
  rfl

/-- The same Preprepare of the same client requests on the two hosts. -/
theorem sameMessage_client (ht : m.requestType = requestTypeFromClient)
    (hl : l.length = m.numOfRound3Participants.toNat)
    (hcontent : m.participantsAndContent = u16ListBytes .little l ++ rest) :
    SameMessage .round2Preprepare (m.bytes .little)
      (({ m with participantsAndContent := u16ListBytes .big l ++ rest } :
        MessageRound2Preprepare).bytes .big) where
  holds := by
    unfold WireFormat.Holds
    rw [listed_preprepare, MessageRound2Preprepare.length_bytes, hcontent, List.length_append,
      length_u16ListBytes]
    show 26 + _ ≤ 26 + _
    omega
  turned := by
    rw [integers_preprepare, embedded_client ht, List.append_nil, turnAll_preprepare hl hcontent]

/-- The builder of client Preprepares makes the same message on both hosts. -/
theorem sameMessage_clientPreprepare (s : ConnManager) (conf : Config) (cycle rr : UInt16)
    (hlow : 0 ≤ round3ParticipantsNum conf) (hhigh : round3ParticipantsNum conf ≤ 65535) :
    SameMessage .round2Preprepare
      ((commonParts s (clientPreprepare .little conf cycle rr)).bytes .little)
      ((commonParts s (clientPreprepare .big conf cycle rr)).bytes .big) := by
  have hcount : (commonParts s
      (clientPreprepare .little conf cycle rr)).numOfRound3Participants.toNat
      = (round3ParticipantsNum conf).toNat := by
    have hofInt : (UInt16.ofInt (round3ParticipantsNum conf)).toNat
        = (round3ParticipantsNum conf % 2 ^ 16).toNat % 2 ^ 16 := UInt16.toNat_ofNat'
    rw [Int.emod_eq_of_lt (by omega) (by omega), Nat.mod_eq_of_lt (by omega)] at hofInt
    exact hofInt
  exact sameMessage_client (m := commonParts s (clientPreprepare .little conf cycle rr)) rfl
    ((length_envoyRoundRobin _ _ _).trans hcount.symm) rfl

/-- The builder of local connectivity Preprepares makes the same message on both hosts. -/
theorem sameMessage_localConnectivity (s : ConnManager) (conf : Config) (cycle : UInt16)
    (present : Nat → Bool) :
    SameMessage .round2Preprepare
      ((commonParts s (localConnectivityPreprepare .little conf cycle present)).bytes .little)
      ((commonParts s (localConnectivityPreprepare .big conf cycle present)).bytes .big) := by
  let m := commonParts s (localConnectivityPreprepare .little conf cycle present)
  let flags : List UInt8 := (List.range conf.numBG).map fun i => if present i then 1 else 0
  have hcontent : m.participantsAndContent
      = u16ListBytes .little [UInt16.ofNat conf.numBG] ++ flags := rfl
  have hembedded : WireFormat.embedded .round2Preprepare (m.bytes .little) = [u16Field 26] := by
    unfold WireFormat.embedded connectivityCount
    dsimp only
    rw [u16At_requestType, listed_preprepare, MessageRound2Preprepare.length_bytes, hcontent,
      List.length_append]
    rw [show m.requestType = requestTypeLocalConnectivity from rfl,
      show m.numOfRound3Participants = 0 from rfl, if_neg (by decide), if_neg (by decide),
      if_pos ⟨rfl, Nat.add_le_add_left (Nat.le_add_right 2 flags.length) 26⟩]
    rfl
  refine ⟨holds_bytes .little rfl, ?_⟩
  have hstruct : Slice.turnAll (WireFormat.fields .round2Preprepare 0) (m.bytes .little)
      = m.bytes .big := (turnFields_bytes .little m).1
  show _ = Slice.turnAll _ (m.bytes .little)
  rw [integers_preprepare, hembedded, Slice.turnAll_append]
  show _ = Slice.turnAll _ (Slice.turnAll (WireFormat.fields .round2Preprepare 0) _)
  rw [hstruct]
  exact (turnAll_u16List (m.header.bytes .big .round2Preprepare ++ m.fixedBytes .big)
    [UInt16.ofNat conf.numBG] flags).symm

end

section

variable {r : MessageRound3FetchResponse} {t : MessageType}

/-- The struct of a response in memory, without the Preprepare. -/
def MessageRound3FetchResponse.structBytes (h : Endian) (t : MessageType)
    (r : MessageRound3FetchResponse) : List UInt8 :=
  r.header.bytes h t ++ u16Bytes h r.senderBGid ++ u16Bytes h r.senderSLid ++ u16Bytes h r.cycle
    ++ r.combinedSignature.toList

theorem MessageRound3FetchResponse.length_structBytes (h : Endian) :
    (r.structBytes h t).length = 46 := by
  have hsignature : r.combinedSignature.toList.length = 32 := r.combinedSignature.length_toList
  simp only [structBytes, List.length_append, length_u16Bytes, MessageHeader.length_bytes,
    hsignature, sizeofMessageHeader]

theorem drop_fetchResponse : (r.bytes .little t).drop 46 = r.entirePreprepareMsg :=
  List.drop_left' (r.length_structBytes .little)

/-- A response whose embedded Preprepare is turned around too is the same on the other host. -/
theorem sameMessage_fetchResponse :
    SameMessage .round3FetchResponse (r.bytes .little t)
      (({ r with
          entirePreprepareMsg := Slice.turnAll (preprepareIntegers r.entirePreprepareMsg)
            r.entirePreprepareMsg } : MessageRound3FetchResponse).bytes .big t) := by
  have hbytes : r.bytes .little t = r.structBytes .little t ++ r.entirePreprepareMsg := rfl
  refine ⟨?_, ?_⟩
  · show 46 ≤ _
    rw [hbytes, List.length_append, r.length_structBytes]
    exact Nat.le_add_right _ _
  · have hstruct : Slice.turnAll (WireFormat.fields .round3FetchResponse 0) (r.bytes .little t)
        = r.structBytes .big t ++ r.entirePreprepareMsg := by
      have hparts := Slice.turnAll_consecutive []
        [u16Bytes .little r.header.version, u16Bytes .little t.code,
          u32Bytes .little r.header.payloadLen, u16Bytes .little r.senderBGid,
          u16Bytes .little r.senderSLid, u16Bytes .little r.cycle]
        (r.combinedSignature.toList ++ r.entirePreprepareMsg)
      simp only [List.flatten_cons, List.flatten_nil, List.append_nil, List.nil_append,
        ← List.append_assoc] at hparts
      exact hparts
    have hshift := Slice.turnAll_map_shift (preprepareIntegers r.entirePreprepareMsg)
      (r.structBytes .big t) r.entirePreprepareMsg
    rw [r.length_structBytes] at hshift
    show _ = Slice.turnAll (WireFormat.fields .round3FetchResponse 0
      ++ embeddedPreprepare 46 (r.bytes .little t)) (r.bytes .little t)
    unfold embeddedPreprepare
    rw [drop_fetchResponse, Slice.turnAll_append, hstruct, hshift]
    rfl

/--
The integers of a response never agree when the version of the Preprepare inside is sent and its two
bytes differ.
-/
theorem not_embeddedAgree_fetchResponse
    (hholds : WireFormat.Holds .little .round2Preprepare r.entirePreprepareMsg)
    (hversion : r.entirePreprepareMsg[1]? ≠ r.entirePreprepareMsg[0]?)
    (hsent : 46 < messageSizeAt .little (r.bytes .little t)) :
    ¬ EmbeddedAgree .round3FetchResponse (r.bytes .little t) := by
  intro h
  have hread : ∀ i, (r.bytes .little t)[46 + i]? = r.entirePreprepareMsg[i]? := fun i => by
    rw [← drop_fetchResponse (t := t), List.getElem?_drop]
  have hmem : u16Field 46 ∈ WireFormat.embedded .round3FetchResponse (r.bytes .little t) := by
    unfold WireFormat.embedded embeddedPreprepare preprepareIntegers
    dsimp only
    rw [show sizeofMessageRound3FetchResponse = 46 from rfl, drop_fetchResponse, if_pos hholds]
    exact List.mem_map.mpr ⟨u16Field 0, List.mem_append_left _
      (List.mem_append_left _ (List.mem_append_left _ (by decide))), rfl⟩
  have hbytes := h _ hmem 46 hsent ⟨Nat.le_refl _, by decide⟩
  exact hversion ((hread 1).symm.trans (hbytes.trans (hread 0)))

end

/-- A Preprepare of round 3 of the baseline in memory. -/
def Baseline.MessageRound3PreprepareBaseline.bytes (h : Endian)
    (m : Baseline.MessageRound3PreprepareBaseline) : List UInt8 :=
  u16Bytes h m.header.version ++ u16Bytes h 11 ++ u32Bytes h m.header.payloadLen
    ++ u16Bytes h m.sender ++ u16Bytes h m.cycle ++ u16Bytes h m.collectorBGid ++ m.content

/-- The global leader of the baseline makes the same message on both hosts. -/
theorem Baseline.sameMessage_round3Preprepare (conf : Config) (collector : Nat) (cycle : UInt16) :
    SameMessage .round3PreprepareBaseline
      ((Baseline.round3PreprepareMessage .little conf collector cycle).bytes .little)
      ((Baseline.round3PreprepareMessage .big conf collector cycle).bytes .big) := by
  let m := fun h => Baseline.round3PreprepareMessage h conf collector cycle
  let l : List UInt16 := (List.range conf.numBG).map UInt16.ofNat
  let fixed : Endian → List UInt8 := fun h => u16Bytes h (m h).header.version ++ u16Bytes h 11
    ++ u32Bytes h (m h).header.payloadLen ++ u16Bytes h (m h).sender ++ u16Bytes h (m h).cycle
    ++ u16Bytes h (m h).collectorBGid
  have hcontent : ∀ h, (m h).content = u16ListBytes h l ++ [] := fun h => by
    unfold u16ListBytes
    rw [List.flatMap_map, List.append_nil]
    rfl
  have hbytes : ∀ h, (m h).bytes h = fixed h ++ (u16ListBytes h l ++ []) := fun h => by
    rw [← hcontent]
    rfl
  have hlen : ((m .little).bytes .little).length = 14 + 2 * l.length := by
    rw [hbytes, List.append_nil, List.length_append, length_u16ListBytes]
    rfl
  refine ⟨?_, ?_⟩
  · show 14 ≤ ((m .little).bytes .little).length
    omega
  -- the fields of the struct are turned first, then the list of BGs behind them
  have hturnFixed : Slice.turnAll (WireFormat.fields .round3PreprepareBaseline 0)
      ((m .little).bytes .little) = fixed .big ++ (u16ListBytes .little l ++ []) := by
    rw [hbytes]
    exact Slice.turnAll_consecutive []
      [u16Bytes .little (m .little).header.version, u16Bytes .little 11,
        u32Bytes .little (m .little).header.payloadLen, u16Bytes .little (m .little).sender,
        u16Bytes .little (m .little).cycle, u16Bytes .little (m .little).collectorBGid]
      (u16ListBytes .little l ++ [])
  have hembedded : WireFormat.embedded .round3PreprepareBaseline ((m .little).bytes .little)
      = (List.range l.length).map fun i => u16Field (14 + 2 * i) := by
    show ((List.range ((((m .little).bytes .little).length - 14) / 2)).map fun i =>
      u16Field (14 + 2 * i)) = _
    rw [hlen, Nat.add_sub_cancel_left, Nat.mul_div_cancel_left _ (by decide)]
  show (m .big).bytes .big = Slice.turnAll (WireFormat.fields .round3PreprepareBaseline 0
    ++ WireFormat.embedded .round3PreprepareBaseline _) ((m .little).bytes .little)
  rw [hembedded, Slice.turnAll_append, hturnFixed, hbytes]
  exact (turnAll_u16List (fixed .big) l []).symm

/-! ## What is sent -/

section

variable {t : WireFormat} {p q : List UInt8}

/-- The bytes that `sender()` makes of a buffer, without its recipients. -/
def sentBytes (h : Endian) (t : WireFormat) (p : List UInt8) : Option (List UInt8) :=
  (t.serialize h p).map fun wire => wire.take (messageSizeAt h p)

/-- A header field of a big-endian host's buffer is that of the little-endian host's. -/
theorem SameMessage.header (h : SameMessage t p q) :
    msgTypeAt .big q = msgTypeAt .little p ∧ messageSizeAt .big q = messageSizeAt .little p := by
  have hlaid := WireFormat.integers_laid h.holds
  have hw := hlaid.within (Nat.le_refl _)
  have hmem : ∀ f ∈ headerFields, f ∈ t.integers p := fun f hf =>
    List.mem_append_left _ (List.mem_append_left _ (List.mem_append_left _ hf))
  rw [h.turned]
  refine ⟨(u16At_turnFields (h := .little) hw hlaid.disjoint (hmem _ (by decide))).1, ?_⟩
  have hback : Slice.turnAll (t.integers p) (Slice.turnAll (t.integers p) p) = p :=
    Slice.turnAll_turnAll hw hlaid.disjoint
  have hsize : u32At .little (Slice.turnAll (t.integers p) (Slice.turnAll (t.integers p) p)) 4
      = u32At .big (Slice.turnAll (t.integers p) p) 4 :=
    u32At_turnFields (h := .little) (fun f hf => (Slice.within_turnAll f _ _).mpr (hw f hf))
      hlaid.disjoint (hmem _ (by decide))
  unfold messageSizeAt payloadLenAt
  rw [← hsize, hback]

/-- The little-endian host converts the fields of the struct. -/
theorem SameMessage.sentBytes_little (h : SameMessage t p q) :
    sentBytes .little t p = some
      ((Slice.turnAll (t.fields (t.listed .little p)) p).take (messageSizeAt .little p)) := by
  have hperm := WireFormat.serializedFields_perm t (t.listed .little p)
  have hlaid := WireFormat.fields_laid t p
  unfold sentBytes
  rw [WireFormat.serialize_eq h.holds, Option.map_some]
  show some ((Slice.turnAll _ p).take _) = _
  rw [Slice.turnAll_perm hperm.symm (hlaid.within h.holds) hlaid.disjoint]

/-- The big-endian host sends what it has. -/
theorem SameMessage.sentBytes_big (h : SameMessage t p q) :
    sentBytes .big t q = some (q.take (messageSizeAt .little p)) := by
  have hlaid := WireFormat.integers_laid h.holds
  have hlisted : t.listed .big q = t.listed .little p := by
    rw [h.turned]
    exact (WireFormat.listed_turnFields (h := .little) (hlaid.within (Nat.le_refl _))
      hlaid.disjoint fun ht => List.mem_append_left _ (WireFormat.count_mem_fields ht _)).1
  have hholds : t.Holds .big q := by
    have hp := h.holds
    unfold WireFormat.Holds at hp ⊢
    rw [hlisted, h.turned, Slice.length_turnAll]
    exact hp
  unfold sentBytes
  rw [WireFormat.serialize_eq hholds, h.header.2]
  rfl

/-- The two hosts make the same bytes of it exactly when the other integers agree. -/
theorem SameMessage.sentBytes_eq_iff (h : SameMessage t p q) :
    sentBytes .little t p = sentBytes .big t q ↔ EmbeddedAgree t p := by
  have hfields := WireFormat.fields_laid t p
  have hembedded := WireFormat.embedded_laid h.holds
  have hwithin := hfields.within h.holds
  rw [h.sentBytes_little, h.sentBytes_big, h.turned, Option.some.injEq]
  unfold WireFormat.integers
  rw [Slice.turnAll_append, eq_comm, Slice.take_turnAll_eq_iff (fun f hf => by
    rw [Slice.within_turnAll]
    exact hembedded.within (Nat.le_refl _) f hf) hembedded.disjoint]
  refine forall₂_congr fun f hf => forall₃_congr fun i _ hc => ?_
  -- the fields of the struct end before the embedded integers begin
  have hout : ∀ j, f.offset ≤ j → (Slice.turnAll (t.fields (t.listed .little p)) p)[j]? = p[j]? :=
    fun j hj => Slice.getElem?_turnAll_of_not_covers hwithin fun s hs hcov => by
      have := hfields.high s hs
      have := hembedded.low f hf
      have := hcov.2
      omega
  have hmirror : f.offset ≤ f.mirror i := by
    unfold Slice.mirror
    have := hc.1
    have := hc.2
    split <;> omega
  rw [hout _ hmirror, hout i hc.1]

/-! ## Both protocols -/

variable {Peer : Type} {peers : List (Option Peer)}

theorem sendToPeers_inj {a b : List UInt8} :
    sendToPeers a peers = sendToPeers b peers ↔ (∀ peer ∈ peers, peer = none) ∨ a = b := by
  induction peers with
  | nil => simp [sendToPeers]
  | cons peer rest ih =>
    cases peer with
    | none => simp [sendToPeers, ih]
    | some peer =>
      have : (∀ peer' ∈ some peer :: rest, peer' = none) ↔ False := by simp
      rw [this, false_or]
      refine ⟨fun h => ?_, fun h => h ▸ rfl⟩
      exact (Prod.mk.inj (List.cons.inj h).1).2

theorem sent_eq_iff (h : SameMessage t p q) {little big : List (Peer × List UInt8)}
    (hlittle : ∀ wire, sentBytes .little t p = some wire → little = sendToPeers wire peers)
    (hbig : ∀ wire, sentBytes .big t q = some wire → big = sendToPeers wire peers) :
    little = big ↔ (∀ peer ∈ peers, peer = none) ∨ EmbeddedAgree t p := by
  rw [hlittle _ h.sentBytes_little, hbig _ h.sentBytes_big, sendToPeers_inj, ← h.sentBytes_eq_iff,
    h.sentBytes_little, h.sentBytes_big, Option.some.injEq]

theorem senderCalls_sends {h : Endian} (hsendable : WireFormat.ofMsgType (msgTypeAt h p) = some t)
    {wire : List UInt8} (hwire : sentBytes h t p = some wire) :
    (senderCalls h { upPeers := peers, pMessage := p }).sends = sendToPeers wire peers := by
  obtain ⟨wire', hserialize, rfl⟩ := Option.map_eq_some_iff.mp hwire
  unfold senderCalls
  dsimp only
  rw [hsendable, Option.bind_some, hserialize]

theorem Baseline.senderCalls_sends {h : Endian}
    (hsendable : Baseline.ofMsgType (msgTypeAt h p) = some t) {wire : List UInt8}
    (hwire : sentBytes h t p = some wire) :
    (Baseline.senderCalls h { upPeers := peers, pMessage := p }).sends
      = sendToPeers wire peers := by
  obtain ⟨wire', hserialize, rfl⟩ := Option.map_eq_some_iff.mp hwire
  unfold Baseline.senderCalls
  dsimp only
  rw [hsendable, Option.bind_some, hserialize]

/--
**When the wire format does not depend on the host.** For both protocols and every message, two
hosts of different byte orders that hold it send the same bytes exactly when nobody else is to get
it or all integers beyond its struct have the same bytes in both orders.
-/
theorem hostIndependent_iff (t : WireFormat) (p q : List UInt8) (Peer : Type)
    (peers : List (Option Peer)) (h : SameMessage t p q) :
    (WireFormat.ofMsgType (msgTypeAt .little p) = some t →
      ((senderCalls .little { upPeers := peers, pMessage := p }).sends
          = (senderCalls .big { upPeers := peers, pMessage := q }).sends
        ↔ (∀ peer ∈ peers, peer = none) ∨ EmbeddedAgree t p))
    ∧ (Baseline.ofMsgType (msgTypeAt .little p) = some t →
      ((Baseline.senderCalls .little { upPeers := peers, pMessage := p }).sends
          = (Baseline.senderCalls .big { upPeers := peers, pMessage := q }).sends
        ↔ (∀ peer ∈ peers, peer = none) ∨ EmbeddedAgree t p)) := by
  constructor
  · intro hsendable
    exact sent_eq_iff h (fun _ hwire => senderCalls_sends hsendable hwire) fun _ hwire =>
      senderCalls_sends (h.header.1 ▸ hsendable) hwire
  · intro hsendable
    exact sent_eq_iff h (fun _ hwire => Baseline.senderCalls_sends hsendable hwire) fun _ hwire =>
      Baseline.senderCalls_sends (h.header.1 ▸ hsendable) hwire

end

/-- A Preprepare of client requests is sent alike. -/
theorem hostIndependent_iff_preprepareBuffer :
    ∃ q, SameMessage .round2Preprepare WireFormat.preprepareBuffer q
      ∧ (senderCalls .little
          { upPeers := [some ()], pMessage := WireFormat.preprepareBuffer }).sends
        = (senderCalls .big { upPeers := [some ()], pMessage := q }).sends :=
  have hsame : SameMessage .round2Preprepare WireFormat.preprepareBuffer _ := ⟨by decide, rfl⟩
  ⟨_, hsame, ((hostIndependent_iff .round2Preprepare WireFormat.preprepareBuffer _ Unit [some ()]
    hsame).1 (by decide)).mpr (Or.inr (by decide))⟩

/-- SL 0 of the first of two BGs. -/
def firstOfTwoBGs : Config where
  rgBGInfo := [⟨0, [⟨0x0A000001, 7000⟩]⟩, ⟨0, [⟨0x0A000002, 7000⟩]⟩]
  bGid := 0
  sLid := 0
  globalFailures := 0

/-- The number of BGs in a local connectivity Preprepare is sent as the host has it. -/
theorem firstOfTwoBGs_hostDependent :
    ¬ ∀ (t : WireFormat) (p q : List UInt8) (Peer : Type) (peers : List (Option Peer)),
      SameMessage t p q → WireFormat.ofMsgType (msgTypeAt .little p) = some t →
      (senderCalls .little { upPeers := peers, pMessage := p }).sends
        = (senderCalls .big { upPeers := peers, pMessage := q }).sends := by
  intro h
  have hsent := h .round2Preprepare _ _ Unit [some ()]
    (sameMessage_localConnectivity ConnManager.init firstOfTwoBGs 1 fun _ => true) (by decide)
  exact absurd hsent (by decide)

end RCanopus
