import RCanopus.Agreement
import RCanopus.Exchange
import RCanopus.Membership
import RCanopus.Framing

/-!
# What the leader proposes

The contents of the five kinds of Preprepares, as far as later steps read them: which entry of the
log a Preprepare is, who sends the requests for a client cycle, which bytes the result of a cycle
has on its way to another BG, and that a membership matrix of ones passes the tally.
-/

namespace RCanopus

/-! ## Configurations -/

/--
What a configuration needs so that nothing is cut off: ids fit in 16 bits, failures are an `int` and
not more than the SLs, and the sizes of the messages fit in `payloadLen`.
-/
structure Config.Fits (conf : Config) : Prop where
  numBG : conf.numBG ≤ 2 ^ 16
  numSL : ∀ b, conf.numSL b ≤ 2 ^ 16
  failure : ∀ b, 0 < conf.numSL b → -2 ^ 31 ≤ conf.getF b ∧ conf.getF b ≤ conf.numSL b
  client : ∀ b, 0 < conf.numSL b → 20 ≤ clientPayloadSize (conf.ofSL b 0)
    ∧ clientPayloadSize (conf.ofSL b 0) + 58 < 2 ^ 32
  membership : conf.numBG * (sizeofMessageRound3FullMembership + conf.numBG * conf.numBG) + 18
    < 2 ^ 32

/--
A valid configuration: every BG has SLs and tolerates less failures than it has SLs, and ids and
sizes fit in the fields for them. The largest messages wrap a client Preprepare for another BG, or
list the memberships of all BGs.
-/
structure Config.Valid (conf : Config) : Prop where
  numBG : conf.numBG ≤ 2 ^ 16
  numSL : ∀ b, conf.numSL b ≤ 2 ^ 16
  quorum : ∀ b < conf.numBG, 1 ≤ conf.numSL b ∧ 1 ≤ (conf.numSL b : Int) - conf.getF b
    ∧ (conf.numSL b : Int) - conf.getF b ≤ conf.numSL b
  client : ∀ b < conf.numBG,
    2 * ((conf.numSL b : Int) - conf.getF b).toNat + conf.numSL b * requestBatchSize + 58 < 2 ^ 32
  membership : conf.numBG * (sizeofMessageRound3FullMembership + conf.numBG * conf.numBG) + 18
    < 2 ^ 32

theorem Config.numSL_eq_zero {conf : Config} {b : Nat} (hb : conf.numBG ≤ b) :
    conf.numSL b = 0 := by
  unfold numSL
  rw [List.getElem?_eq_none hb]
  rfl

/-- A BG with SLs is in the file. -/
theorem Config.lt_numBG {conf : Config} {b : Nat} (hn : 0 < conf.numSL b) : b < conf.numBG := by
  by_contra hb
  rw [numSL_eq_zero (Nat.not_lt.mp hb)] at hn
  exact absurd hn (Nat.lt_irrefl 0)

/-- The size of a client Preprepare does not wrap around. -/
theorem Config.Valid.clientPayloadSize_eq {conf : Config} (h : conf.Valid) {b : Nat}
    (hb : b < conf.numBG) : clientPayloadSize (conf.ofSL b 0)
      = 2 * ((conf.numSL b : Int) - conf.getF b).toNat + conf.numSL b * requestBatchSize := by
  have hsize := h.client b hb
  have hquorum := h.quorum b hb
  show (2 * sizeOfInt ((conf.numSL b : Int) - conf.getF b)
    + conf.numSL b * requestBatchSize) % 2 ^ 64 = _
  unfold sizeOfInt
  rw [Int.emod_eq_of_lt (by omega) (by omega), Nat.mod_eq_of_lt (by omega)]

theorem Config.Valid.fits {conf : Config} (h : conf.Valid) : conf.Fits where
  numBG := h.numBG
  numSL := h.numSL
  failure := fun b hn => by
    have hnum := h.numSL b
    have hquorum := h.quorum b (lt_numBG hn)
    omega
  client := fun b hn => by
    have hb := lt_numBG hn
    have hsize := h.client b hb
    rw [h.clientPayloadSize_eq hb]
    unfold requestBatchSize at *
    omega
  membership := h.membership

/-! ## Entries of the log -/

/-- Which entry of the log a Preprepare is. -/
def entryOf (p : MessageRound2Preprepare) : Entry :=
  if p.requestType = requestTypeFromClient then .client p.cycle
  else if p.requestType = requestTypeFetchedResult then .fetched p.cycle p.bGid.toNat
  else if p.requestType = requestTypeLocalConnectivity then .localConnectivity p.cycle
  else if p.requestType = requestTypeLocalMembership then .localMembership p.cycle
  else .fullMembership p.cycle

section Entry

variable {p : MessageRound2Preprepare} {c : UInt16} {A : Nat} {k : FetchKind}

@[simp] theorem cycle_entryOf : (entryOf p).cycle = p.cycle := by
  unfold entryOf
  split
  · rfl
  · split
    · rfl
    · split
      · rfl
      · split <;> rfl

@[simp] theorem entryOf_copy (p : MessageRound2Preprepare) : entryOf p.copy = entryOf p := by
  unfold entryOf MessageRound2Preprepare.copy
  rfl

theorem entryOf_client : entryOf p = .client c ↔ p.requestType = requestTypeFromClient
    ∧ p.cycle = c := by
  unfold entryOf
  split
  · next h => simp [h]
  · next h =>
    simp only [h, false_and, iff_false]
    split
    · simp
    · split
      · simp
      · split <;> simp

theorem entryOf_localConnectivity (h : entryOf p = .localConnectivity c) :
    p.requestType = requestTypeLocalConnectivity ∧ p.cycle = c := by
  unfold entryOf at h
  split at h
  · simp at h
  · split at h
    · simp at h
    · split at h
      · next ht => exact ⟨ht, Entry.localConnectivity.inj h⟩
      · split at h <;> simp at h

end Entry

/-! ### What the leader queues -/

theorem entryOf_fetchedResultPreprepare (sLid : Nat) (r : MessageRound3FetchResponse) :
    entryOf (fetchedResultPreprepare sLid r) = .fetched r.cycle r.senderBGid.toNat := by
  unfold entryOf fetchedResultPreprepare
  dsimp only
  rw [if_neg (by decide), if_pos rfl]

theorem entryOf_localConnectivityPreprepare (h : Endian) (conf : Config) (cycle : UInt16)
    (present : Nat → Bool) :
    entryOf (localConnectivityPreprepare h conf cycle present) = .localConnectivity cycle := by
  unfold entryOf localConnectivityPreprepare
  dsimp only
  rw [if_neg (by decide), if_neg (by decide), if_pos rfl]

theorem entryOf_localMembershipPreprepare (conf : Config) (r : MessageRound3FetchResponse) :
    entryOf (localMembershipPreprepare conf r) = .localMembership r.cycle := by
  unfold entryOf localMembershipPreprepare
  dsimp only
  rw [if_neg (by decide), if_neg (by decide), if_neg (by decide), if_pos rfl]

theorem entryOf_fullMembershipPreprepare (h : Endian) (conf : Config) (cycle : UInt16)
    (ms : List MessageRound3FullMembership) :
    entryOf (fullMembershipPreprepare h conf cycle ms) = .fullMembership cycle := by
  unfold entryOf fullMembershipPreprepare
  dsimp only
  rw [if_neg (by decide), if_neg (by decide), if_neg (by decide), if_neg (by decide)]

/-! ## Bytes of a Preprepare -/

theorem u16At_take {h : Endian} {l : List UInt8} {n off : Nat} (hn : off + 2 ≤ n) :
    u16At h (l.take n) off = u16At h l off := by
  unfold u16At
  rw [List.drop_take]
  obtain ⟨m, hm⟩ : ∃ m, n - off = m + 2 := ⟨n - off - 2, by omega⟩
  rw [hm]
  rcases l.drop off with _ | ⟨a, _ | ⟨b, t⟩⟩
  · rfl
  · rfl
  · rfl

theorem u16At_append_left {h : Endian} (pre rest : List UInt8) :
    u16At h (pre ++ rest) pre.length = u16At h rest 0 := by
  unfold u16At
  rw [List.drop_left, List.drop_zero]

section Bytes

variable {h : Endian} {p : MessageRound2Preprepare}

/-- What is in front of the cycle in memory. -/
def cyclePrefixBytes (h : Endian) (p : MessageRound2Preprepare) : List UInt8 :=
  p.header.bytes h .round2Preprepare ++ u16Bytes h p.sender ++ u16Bytes h p.view
    ++ u16Bytes h p.seq ++ u16Bytes h p.bGid ++ u16Bytes h p.requestType

theorem length_cyclePrefixBytes : (cyclePrefixBytes h p).length = preprepareCycleOffset := by
  simp [cyclePrefixBytes, length_u16Bytes, sizeofMessageHeader, preprepareCycleOffset]

theorem bytes_eq_cycle : p.bytes h = cyclePrefixBytes h p ++ (u16Bytes h p.cycle
    ++ (u16Bytes h p.lastcycle ++ (u16Bytes h p.collectorSLid
    ++ (u16Bytes h p.numOfRound3Participants ++ p.participantsAndContent)))) := by
  unfold MessageRound2Preprepare.bytes MessageRound2Preprepare.fixedBytes cyclePrefixBytes
  simp only [List.append_assoc]

theorem u16At_cycle : u16At h (p.bytes h) preprepareCycleOffset = p.cycle := by
  rw [bytes_eq_cycle, ← length_cyclePrefixBytes (h := h) (p := p), u16At_append]

theorem u16At_lastcycle : u16At h (p.bytes h) preprepareLastcycleOffset = p.lastcycle := by
  have hlen : (cyclePrefixBytes h p ++ u16Bytes h p.cycle).length = preprepareLastcycleOffset := by
    simp [length_cyclePrefixBytes, length_u16Bytes, preprepareCycleOffset,
      preprepareLastcycleOffset]
  rw [bytes_eq_cycle, ← List.append_assoc, ← hlen, u16At_append]

theorem u16At_numOfRound3Participants :
    u16At h (p.bytes h) preprepareNumOfRound3ParticipantsOffset = p.numOfRound3Participants := by
  have hlen : (cyclePrefixBytes h p ++ u16Bytes h p.cycle ++ u16Bytes h p.lastcycle
      ++ u16Bytes h p.collectorSLid).length = preprepareNumOfRound3ParticipantsOffset := by
    simp [length_cyclePrefixBytes, length_u16Bytes, preprepareCycleOffset,
      preprepareNumOfRound3ParticipantsOffset]
  rw [bytes_eq_cycle, ← List.append_assoc, ← List.append_assoc, ← List.append_assoc, ← hlen,
    u16At_append]

theorem u16At_participants :
    u16At h (p.bytes h) participantsOffset = u16At h p.participantsAndContent 0 := by
  have hlen : (p.header.bytes h .round2Preprepare ++ p.fixedBytes h).length
      = participantsOffset := by
    simp [MessageRound2Preprepare.fixedBytes, length_u16Bytes, sizeofMessageHeader,
      participantsOffset]
  unfold MessageRound2Preprepare.bytes
  rw [← hlen, u16At_append_left]

end Bytes

/-! ## Client Preprepares -/

/-- `leader_envoys_rr` after some client Preprepares. -/
def envoysRrAt (conf : Config) (b : Nat) : Nat → UInt16
  | 0 => 0
  | k + 1 => (envoyRoundRobin (conf.numSL b) (round3ParticipantsNum (conf.ofSL b 0)).toNat
      (envoysRrAt conf b k)).2

/-- The client Preprepare of a BG for a cycle, before the common parts. -/
def Deployment.clientProposal (d : Deployment) (b : Nat) (c : UInt16) :
    MessageRound2Preprepare :=
  clientPreprepare d.host (d.conf.ofSL b 0) c (envoysRrAt d.conf b (c.toNat - 1))

/-- The primary envoy that a client Preprepare names: its first participant. -/
def envoyOf (h : Endian) (p : MessageRound2Preprepare) : Option Nat :=
  if p.numOfRound3Participants = 0 then none
  else some (u16At h p.participantsAndContent 0).toNat

def Deployment.layout (d : Deployment) : Layout where
  numBG := d.conf.numBG
  numSL := d.conf.numSL
  envoy := fun b c => envoyOf d.host (d.clientProposal b c)

/-- `q` is `p` with other common parts. -/
def Numbered (p q : MessageRound2Preprepare) : Prop :=
  { p with view := q.view, seq := q.seq, collectorSLid := q.collectorSLid } = q

theorem length_envoyRoundRobin (numSL k : Nat) (rr : UInt16) :
    (envoyRoundRobin numSL k rr).1.length = k := by
  induction k generalizing rr with
  | zero => rfl
  | succ k ih =>
    unfold envoyRoundRobin
    rw [List.length_cons, ih]

section Client

variable {d : Deployment} {b : Nat} {c : UInt16} {p q : MessageRound2Preprepare}

theorem length_content_clientPreprepare (h : Endian) (conf : Config) (cycle rr : UInt16) :
    (clientPreprepare h conf cycle rr).participantsAndContent.length
      = 2 * (round3ParticipantsNum conf).toNat + clientRequestSize conf := by
  unfold clientPreprepare
  simp [List.length_flatMap, length_u16Bytes, length_envoyRoundRobin, Nat.mul_comm]

theorem length_clientProposal : (d.clientProposal b c).participantsAndContent.length
    = 2 * (round3ParticipantsNum (d.conf.ofSL b 0)).toNat
      + clientRequestSize (d.conf.ofSL b 0) := length_content_clientPreprepare _ _ _ _

/-- A size that wraps around does not fit in `payloadLen`. -/
theorem payloadSize_le {n : Nat} {i : Int} (hn : n ≤ 2 ^ 16) (hlow : -2 ^ 31 ≤ i)
    (hhigh : i ≤ 2 ^ 32)
    (hfits : (2 * sizeOfInt i + n * requestBatchSize) % 2 ^ 64 + 58 < 2 ^ 32) :
    (2 * sizeOfInt i + n * requestBatchSize) % 2 ^ 64 ≤ 2 * i.toNat + n * requestBatchSize := by
  unfold sizeOfInt requestBatchSize at *
  rcases lt_or_ge i 0 with hi | hi
  · have hmod : i % 2 ^ 64 = i + 2 ^ 64 := by omega
    rw [hmod] at hfits ⊢
    omega
  · have hmod : i % 2 ^ 64 = i := by omega
    rw [hmod]
    omega

/-- The payload is not longer than what was filled in. -/
theorem clientPayloadSize_le (hfits : d.conf.Fits) (hb : 0 < d.conf.numSL b) :
    clientPayloadSize (d.conf.ofSL b 0)
      ≤ (d.clientProposal b c).participantsAndContent.length := by
  have hnum := hfits.numSL b
  obtain ⟨hlow, hhigh⟩ := hfits.failure b hb
  rw [length_clientProposal]
  refine payloadSize_le hnum ?_ ?_ (hfits.client b hb).2
  · show -2 ^ 31 ≤ (d.conf.numSL b : Int) - d.conf.getF b
    omega
  · show (d.conf.numSL b : Int) - d.conf.getF b ≤ 2 ^ 32
    omega

theorem getMessageSize_clientProposal (hfits : d.conf.Fits) (hb : 0 < d.conf.numSL b) :
    (d.clientProposal b c).header.getMessageSize
      = sizeofMessageHeader + clientPayloadSize (d.conf.ofSL b 0) := by
  have hclient := (hfits.client b hb).2
  unfold MessageHeader.getMessageSize
  congr 1
  show (UInt32.ofNat _).toNat = _
  rw [UInt32.toNat_ofNat', Nat.mod_eq_of_lt (by omega)]

theorem Numbered.header (h : Numbered p q) : q.header = p.header := by
  rw [← h]

theorem Numbered.covers (h : Numbered p q) (hp : p.Covers) : q.Covers := by
  unfold MessageRound2Preprepare.Covers
  rw [h.header]
  exact hp

theorem covers_clientProposal (hfits : d.conf.Fits) (hb : 0 < d.conf.numSL b) :
    (d.clientProposal b c).Covers := by
  have hclient := (hfits.client b hb).1
  unfold MessageRound2Preprepare.Covers
  rw [getMessageSize_clientProposal hfits hb]
  simp only [sizeofMessageHeader, sizeofMessageRound2Preprepare]
  omega

theorem Numbered.entryOf (h : Numbered p q) : entryOf q = entryOf p := by
  rw [← h]
  rfl

/-- Copies of a client Preprepare have as many bytes as its header says. -/
theorem length_sentBytes_client (hfits : d.conf.Fits) (hb : 0 < d.conf.numSL b)
    (h : Numbered (d.clientProposal b c) q) :
    (q.sentBytes d.host).length = sizeofMessageHeader + clientPayloadSize (d.conf.ofSL b 0) := by
  have hsize := getMessageSize_clientProposal (c := c) hfits hb
  have hle := clientPayloadSize_le (c := c) hfits hb
  have hcontent : q.participantsAndContent = (d.clientProposal b c).participantsAndContent := by
    rw [← h]
  unfold MessageRound2Preprepare.sentBytes
  rw [List.length_take, MessageRound2Preprepare.length_bytes, hcontent, h.header, hsize]
  simp only [sizeofMessageHeader, sizeofMessageRound2Preprepare]
  omega

/-- In a valid configuration every client Preprepare names an envoy. -/
theorem Config.Valid.envoy_ne_none (hvalid : d.conf.Valid) (hb : b < d.conf.numBG) :
    d.layout.envoy b c ≠ none := by
  have hquorum := hvalid.quorum b hb
  have hsize := hvalid.client b hb
  unfold requestBatchSize at hsize
  have hnum : (d.clientProposal b c).numOfRound3Participants.toNat
      = (((d.conf.numSL b : Int) - d.conf.getF b) % 2 ^ 16).toNat % 2 ^ 16 :=
    UInt16.toNat_ofNat'
  show envoyOf d.host (d.clientProposal b c) ≠ none
  unfold envoyOf
  rw [if_neg]
  · simp
  · intro hzero
    rw [hzero, UInt16.toNat_zero] at hnum
    omega

theorem envoyOf_clientProposal (h : Numbered (d.clientProposal b c) q) :
    envoyOf d.host q = d.layout.envoy b c := by
  rw [← h]
  rfl

end Client

/-! ## Results -/

/-- A response brings some bytes, and its header counts exactly these. -/
structure MessageRound3FetchResponse.Carries (r : MessageRound3FetchResponse)
    (bytes : List UInt8) : Prop where
  content : r.entirePreprepareMsg = bytes
  payload : r.header.payloadLen.toNat = bytes.length + 38
  short : bytes.length + 50 < 2 ^ 32

/-- A Preprepare wraps some bytes for a second agreement. -/
structure MessageRound2Preprepare.Wraps (p : MessageRound2Preprepare) (bytes : List UInt8) :
    Prop where
  content : p.participantsAndContent.drop sbftCombinedSignatureSize = bytes
  payload : p.header.payloadLen.toNat = bytes.length + 50
  short : bytes.length + 50 < 2 ^ 32

section Results

variable {d : Deployment} {b : Nat} {c : UInt16} {p q : MessageRound2Preprepare}
  {r : MessageRound3FetchResponse} {bytes : List UInt8}

/-- What was copied still brings the bytes. -/
theorem MessageRound3FetchResponse.Carries.copy (h : r.Carries bytes) : r.copy = r := by
  refine MessageRound3FetchResponse.Framed.copy_eq ?_
  unfold Framed MessageHeader.getMessageSize
  rw [h.payload, h.content]
  simp only [sizeofMessageHeader, sizeofMessageRound3FetchResponse]
  omega

theorem MessageRound3FetchResponse.Carries.wraps (h : r.Carries bytes) (sLid : Nat) :
    (fetchedResultPreprepare sLid r).Wraps bytes := by
  have hsize : sizeSub r.header.payloadLen.toNat
      (sizeofMessageRound3FetchResponse - sizeofMessageHeader) = bytes.length := by
    have := h.short
    rw [h.payload, sizeSub_eq (by simp [sizeofMessageRound3FetchResponse, sizeofMessageHeader])
      (by omega)]
    simp [sizeofMessageRound3FetchResponse, sizeofMessageHeader]
  refine ⟨?_, ?_, h.short⟩
  · unfold fetchedResultPreprepare
    dsimp only
    rw [hsize, h.content, List.take_length]
    exact List.drop_left' Vector.length_toList
  · unfold fetchedResultPreprepare
    dsimp only
    rw [hsize, UInt32.toNat_ofNat', Nat.mod_eq_of_lt]
    all_goals
      have := h.short
      simp only [sizeofMessageRound2Preprepare, sbftCombinedSignatureSize, sizeofMessageHeader]
      omega

theorem MessageRound2Preprepare.Wraps.covers (h : p.Wraps bytes) : p.Covers := by
  unfold Covers MessageHeader.getMessageSize
  rw [h.payload]
  simp only [sizeofMessageHeader, sizeofMessageRound2Preprepare]
  omega

theorem MessageRound2Preprepare.Wraps.numbered (h : p.Wraps bytes) (hq : Numbered p q) :
    q.Wraps bytes := by
  rw [← hq]
  exact ⟨h.content, h.payload, h.short⟩

theorem MessageRound2Preprepare.Wraps.copy (h : p.Wraps bytes) : p.copy.Wraps bytes := by
  refine ⟨?_, h.payload, h.short⟩
  have hlen := congrArg List.length h.content
  rw [List.length_drop] at hlen
  unfold MessageRound2Preprepare.copy
  dsimp only
  rw [List.drop_take, h.content]
  refine List.take_of_length_le ?_
  unfold MessageHeader.getMessageSize
  rw [h.payload]
  simp only [sizeofMessageHeader, sizeofMessageRound2Preprepare, sbftCombinedSignatureSize]
  omega

/-- Unwrapping gives back the bytes. -/
theorem MessageRound2Preprepare.Wraps.unwrap (h : p.Wraps bytes) :
    (unwrapFetchedResult p).entirePreprepareMsg = bytes := by
  have hshort := h.short
  unfold unwrapFetchedResult
  dsimp only
  rw [h.content, h.payload, sizeSub_eq (a := bytes.length + 50 + sizeofMessageHeader)
    (by simp only [sizeofMessageHeader, sizeofMessageRound2Preprepare]; omega)
    (by simp only [sizeofMessageHeader]; omega),
    sizeSub_eq
      (by simp only [sizeofMessageHeader, sizeofMessageRound2Preprepare,
            sbftCombinedSignatureSize]; omega)
      (by simp only [sizeofMessageHeader, sizeofMessageRound2Preprepare]; omega)]
  refine List.take_of_length_le ?_
  simp only [sizeofMessageHeader, sizeofMessageRound2Preprepare, sbftCombinedSignatureSize]
  omega

/-- The response to a request for a client cycle. -/
theorem carries_getRound3Response (hfits : d.conf.Fits) (hb : 0 < d.conf.numSL b)
    (h : Numbered (d.clientProposal b c) q) (m : MessageRound2FullCommit) (sLid : UInt16) :
    (getRound3Response d.host q.copy m sLid c).Carries (q.sentBytes d.host) := by
  have hclient := (hfits.client b hb).2
  have hlen := length_sentBytes_client hfits hb h
  have hsize : q.copy.header.getMessageSize
      = sizeofMessageHeader + clientPayloadSize (d.conf.ofSL b 0) := by
    rw [show q.copy.header = q.header from rfl, h.header, getMessageSize_clientProposal hfits hb]
  refine ⟨q.sentBytes_copy d.host, ?_, ?_⟩
  · show (UInt32.ofNat _).toNat = _
    rw [hsize, hlen, UInt32.toNat_ofNat', Nat.mod_eq_of_lt]
    all_goals
      simp only [sizeofMessageRound3FetchResponse, sizeofMessageHeader]
      omega
  · rw [hlen]
    simp only [sizeofMessageHeader]
    omega

end Results

/-! ## Connectivity -/

/-- A connectivity response is as long as the Preprepare for the local connectivity in it. -/
def MessageRound3FetchResponse.Connects (r : MessageRound3FetchResponse) (numBG : Nat) : Prop :=
  64 ≤ r.header.payloadLen.toNat ∧ r.header.payloadLen.toNat ≤ 66 + numBG

section Connectivity

variable {d : Deployment} {p : MessageRound2Preprepare} {r : MessageRound3FetchResponse}

theorem payloadLen_localConnectivityPreprepare (hfits : d.conf.Fits) {conf : Config}
    (hconf : conf.numBG = d.conf.numBG) (h : Endian) (c : UInt16) (present : Nat → Bool) :
    (localConnectivityPreprepare h conf c present).header.payloadLen.toNat
      = 20 + d.conf.numBG := by
  have hnum := hfits.numBG
  show (UInt32.ofNat (18 + (2 + conf.numBG))).toNat = _
  rw [hconf, UInt32.toNat_ofNat', Nat.mod_eq_of_lt (by omega)]
  omega

theorem covers_of_payloadLen (h : 18 ≤ p.header.payloadLen.toNat) : p.Covers := by
  unfold MessageRound2Preprepare.Covers MessageHeader.getMessageSize
  simp only [sizeofMessageHeader, sizeofMessageRound2Preprepare]
  omega

theorem connects_getRound3Response (hfits : d.conf.Fits) (hcovers : p.Covers)
    (hp : p.header.payloadLen.toNat ≤ 20 + d.conf.numBG) (h : Endian)
    (m : MessageRound2FullCommit) (sLid c : UInt16) :
    (getRound3Response h p m sLid c).Connects d.conf.numBG := by
  have hnum := hfits.numBG
  have hpayload : (getRound3Response h p m sLid c).header.payloadLen.toNat
      = p.header.payloadLen.toNat + 46 := by
    show (UInt32.ofNat (46 + (8 + p.header.payloadLen.toNat) - 8)).toNat = _
    rw [UInt32.toNat_ofNat', Nat.mod_eq_of_lt (by omega)]
    omega
  unfold MessageRound2Preprepare.Covers MessageHeader.getMessageSize at hcovers
  simp only [sizeofMessageHeader, sizeofMessageRound2Preprepare] at hcovers
  unfold MessageRound3FetchResponse.Connects
  omega

/-- The membership that a leader queues after the last connectivity response does not wrap. -/
theorem covers_localMembershipPreprepare (hfits : d.conf.Fits) {conf : Config}
    (hconf : conf.numBG = d.conf.numBG) (hr : r.Connects d.conf.numBG) :
    (localMembershipPreprepare conf r).Covers := by
  obtain ⟨hlow, hhigh⟩ := hr
  have hfit := hfits.membership
  have hnum := hfits.numBG
  have hsub : sizeSub r.header.payloadLen.toNat
      (sizeofMessageRound3FetchResponse + sizeofMessageHeader)
        = r.header.payloadLen.toNat - 54 :=
    sizeSub_eq (by simp only [sizeofMessageRound3FetchResponse, sizeofMessageHeader]; omega)
      (by omega)
  have hle : d.conf.numBG * (r.header.payloadLen.toNat - 54 + 32)
      ≤ d.conf.numBG * (sizeofMessageRound3FullMembership + d.conf.numBG * d.conf.numBG) := by
    rcases Nat.eq_zero_or_pos d.conf.numBG with h0 | hpos
    · rw [h0, Nat.zero_mul, Nat.zero_mul]
    · have hsquare := Nat.le_mul_of_pos_left d.conf.numBG hpos
      refine Nat.mul_le_mul_left _ ?_
      simp only [sizeofMessageRound3FullMembership]
      omega
  have hsize : localMembershipSize conf r
      = d.conf.numBG * (r.header.payloadLen.toNat - 54 + 32) := by
    unfold localMembershipSize
    rw [hsub, hconf]
    exact Nat.mod_eq_of_lt (by simp only [sbftCombinedSignatureSize]; omega)
  refine covers_of_payloadLen ?_
  show 18 ≤ (UInt32.ofNat (26 + localMembershipSize conf r - 8)).toNat
  rw [hsize, UInt32.toNat_ofNat', Nat.mod_eq_of_lt (by omega)]
  omega

end Connectivity

/-! ## Membership matrices -/

/-- A matrix of ones, in a message whose header counts it. -/
structure MessageRound3FullMembership.Ones (m : MessageRound3FullMembership) (numBG : Nat) :
    Prop where
  connectivity : m.connectivity = List.replicate (numBG * numBG) 1
  totalBGnum : m.totalBGnum = UInt16.ofNat numBG
  framed : m.Framed

theorem flatMap_ones (n m : Nat) :
    ((List.range n).flatMap fun _ => (List.range m).map fun _ => (1 : UInt8))
      = List.replicate (n * m) 1 := by
  rw [List.map_const', List.length_range]
  induction n with
  | zero => simp
  | succ n ih =>
    rw [List.range_succ, List.flatMap_append, ih, List.flatMap_singleton,
      List.replicate_append_replicate, Nat.succ_mul]

/-- The real response and the one that is made up are the same. -/
theorem membershipResponse_eq_fake (conf : Config) (c : UInt16) :
    membershipResponse conf c = fakeMembershipResponse conf c := by
  unfold membershipResponse fakeMembershipResponse
  simp only [flatMap_ones]
  congr 3
  simp only [sizeofMessageRound3FullMembership, sizeofMessageHeader]
  omega

section Membership

variable {d : Deployment} {h : Endian} {numBG : Nat} {m : MessageRound3FullMembership}
  {p : MessageRound2Preprepare}

theorem ones_fakeMembershipResponse (hfits : d.conf.Fits) (x : Peer) (c : UInt16)
    (hN : 0 < d.conf.numBG) :
    (fakeMembershipResponse (d.env x).conf c).Ones d.conf.numBG := by
  refine ⟨rfl, rfl, ?_⟩
  have hlt := hfits.membership
  have hle : sizeofMessageRound3FullMembership + d.conf.numBG * d.conf.numBG
      ≤ d.conf.numBG * (sizeofMessageRound3FullMembership + d.conf.numBG * d.conf.numBG) :=
    Nat.le_mul_of_pos_left _ hN
  unfold MessageRound3FullMembership.Framed MessageHeader.getMessageSize fakeMembershipResponse
  simp only [List.length_replicate]
  show sizeofMessageHeader + (UInt32.ofNat (sizeofMessageRound3FullMembership
    + d.conf.numBG * d.conf.numBG - sizeofMessageHeader)).toNat
      = sizeofMessageRound3FullMembership + d.conf.numBG * d.conf.numBG
  rw [UInt32.toNat_ofNat', Nat.mod_eq_of_lt (by omega)]
  simp only [sizeofMessageRound3FullMembership, sizeofMessageHeader]
  omega

/-! ### The tally -/

/-- A fold does not fail a check when no step does. -/
theorem foldl_checks {α : Type} (f : Tally → α → Tally) (l : List α) (t : Tally)
    (hf : ∀ t, ∀ a ∈ l, (f t a).checks = t.checks) : (l.foldl f t).checks = t.checks := by
  induction l generalizing t with
  | nil => rfl
  | cons a l ih =>
    rw [List.foldl_cons, ih _ fun t b hb => hf t b (List.mem_cons_of_mem _ hb)]
    exact hf t a List.mem_cons_self

theorem tallyMessage_checks (hN : numBG < 2 ^ 16) (hm : m.Ones numBG) (rest : List UInt8)
    (t : Tally) : (tallyMessage h numBG (m.bytes h ++ rest) t).checks = t.checks := by
  have htotal : (u16At h (m.bytes h ++ rest) totalBGnumOffset).toNat = numBG := by
    rw [u16At_totalBGnum, hm.totalBGnum, UInt16.toNat_ofNat', Nat.mod_eq_of_lt hN]
  unfold tallyMessage
  dsimp only
  rw [htotal, beq_self_eq_true, Bool.and_true, foldl_checks]
  intro t i hi
  refine foldl_checks _ _ _ fun t j hj => ?_
  rw [List.mem_range] at hi hj
  have hlt : i * numBG + j < numBG * numBG := by nlinarith
  have hentry : (m.bytes h ++ rest).getD (connectivityOffset + (i * numBG + j)) 0 = 1 := by
    rw [getD_connectivity rest (by rw [hm.connectivity, List.length_replicate]; exact hlt),
      hm.connectivity, List.getD_eq_getElem?_getD, List.getElem?_replicate, if_pos hlt]
    rfl
  unfold tallyEntry
  rw [hentry, if_pos (by decide)]

/-- The tally of matrices of ones checks out. -/
theorem foldl_tallyMessage_checks (hN : numBG < 2 ^ 16) (ms : List MessageRound3FullMembership)
    (hms : ∀ m ∈ ms, m.Ones numBG) (t : Tally) :
    ((membershipTails h ms).foldl (fun t buf => tallyMessage h numBG buf t) t).checks
      = t.checks := by
  induction ms generalizing t with
  | nil => rfl
  | cons m ms ih =>
    have hm := hms m List.mem_cons_self
    unfold membershipTails
    rw [List.foldl_cons, ih fun m' hm' => hms m' (List.mem_cons_of_mem _ hm'), List.flatMap_cons,
      hm.framed.copyBytes_eq, tallyMessage_checks hN hm]

/-- A Preprepare with matrices of ones. -/
structure MessageRound2Preprepare.Matrices (p : MessageRound2Preprepare) (h : Endian)
    (numBG : Nat) : Prop where
  content : ∃ ms : List MessageRound3FullMembership, (∀ m ∈ ms, m.Ones numBG)
    ∧ p.participantsAndContent = ms.flatMap (membershipCopyBytes h)
  payload : p.header.payloadLen.toNat = p.participantsAndContent.length + 18

theorem MessageRound2Preprepare.Matrices.framed (hp : p.Matrices h numBG) : p.Framed := by
  unfold Framed MessageHeader.getMessageSize
  rw [hp.payload]
  simp only [sizeofMessageHeader, sizeofMessageRound2Preprepare]
  omega

theorem MessageRound2Preprepare.Matrices.covers (hp : p.Matrices h numBG) : p.Covers :=
  covers_of_payloadLen (hp.payload ▸ Nat.le_add_left 18 _)

theorem MessageRound2Preprepare.Matrices.numbered {q : MessageRound2Preprepare}
    (hp : p.Matrices h numBG) (hq : Numbered p q) : q.Matrices h numBG := by
  rw [← hq]
  exact ⟨hp.content, hp.payload⟩

/-- The leader packs matrices of ones. -/
theorem matrices_fullMembershipPreprepare (hfits : d.conf.Fits) {conf : Config} {c : UInt16}
    {ms : List MessageRound3FullMembership} (hms : ∀ m ∈ ms, m.Ones d.conf.numBG)
    (hlen : ms.length ≤ d.conf.numBG) :
    (fullMembershipPreprepare d.host conf c ms).Matrices d.host d.conf.numBG := by
  have hsize : ∀ m ∈ ms, sizeofMessageHeader + m.header.payloadLen.toNat
      = sizeofMessageRound3FullMembership + d.conf.numBG * d.conf.numBG := fun m hm => by
    have hframed := (hms m hm).framed
    unfold MessageRound3FullMembership.Framed MessageHeader.getMessageSize at hframed
    rw [hframed, (hms m hm).connectivity, List.length_replicate]
  have hsum : (ms.map fun m => sizeofMessageHeader + m.header.payloadLen.toNat).sum
      = ms.length * (sizeofMessageRound3FullMembership + d.conf.numBG * d.conf.numBG) := by
    rw [List.map_congr_left hsize, List.map_const', List.sum_replicate_nat]
  have hfit := hfits.membership
  have hle := Nat.mul_le_mul_right
    (sizeofMessageRound3FullMembership + d.conf.numBG * d.conf.numBG) hlen
  have hconcat := concatenates_fullMembershipPreprepare (h := d.host) conf c ms
    (fun m hm => (hms m hm).framed) (by rw [hsum]; omega)
  exact ⟨⟨ms, hms, rfl⟩, hconcat.payload⟩

theorem tallyVotes_ones (hN : numBG < 2 ^ 16) (hp : p.Matrices h numBG) :
    (tallyVotes h numBG p).1.checks = true ∧ (tallyVotes h numBG p).2 = true := by
  obtain ⟨ms, hms, hcontent⟩ := hp.content
  have hconcat : p.Concatenates h ms :=
    ⟨fun m hm => (hms m hm).framed, hcontent, hp.payload⟩
  rw [hconcat.tallyVotes_eq]
  exact ⟨foldl_tallyMessage_checks hN ms hms _, rfl⟩

end Membership

end RCanopus
