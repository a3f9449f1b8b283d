import RCanopus.Envoys
import RCanopus.Wrapping

/-!
# Where an SL keeps envoys

Everything that round 3 reads of the envoys comes from the client Preprepares of the own BG. When
the sizes of the configuration are sound, each of these names envoys, and so does all that an SL
keeps of them: `EnvoysOk`. Every handler keeps it, and none misses an envoy.
-/

namespace RCanopus

/-! ## Client Preprepares -/

/--
A client Preprepare lists between 1 and `n` envoys, all different and all SLs of the BG, and the
bytes of it that are sent hold the list.
-/
structure NamesEnvoys (h : Endian) (n : Nat) (p : MessageRound2Preprepare) : Prop where
  pos : 1 ≤ (p.participants h).length
  le : (p.participants h).length ≤ n
  nodup : (p.participants h).Nodup
  lt : ∀ x ∈ p.participants h, x < n
  holds : WireFormat.Holds h .round2Preprepare (p.sentBytes h)

/--
Every BG has an SL and tolerates fewer failures than it has SLs. With at most 65535 SLs in each BG,
none of them has a multiple of 4096: `payloadLen` would lose the size of the requests.
-/
structure Config.Sound (conf : Config) : Prop where
  failure : ∀ b < conf.numBG, 0 ≤ conf.getF b ∧ conf.getF b < conf.numSL b
  payload : (∀ b < conf.numBG, conf.numSL b ≤ 65535) →
    ∀ b < conf.numBG, ¬ 4096 ∣ conf.numSL b

/-- What the builder of client Preprepares needs of the own BG. -/
structure Env.Sound (env : Env) : Prop where
  low : 1 ≤ round3ParticipantsNum env.conf
  high : round3ParticipantsNum env.conf ≤ env.conf.numSL env.conf.bGid
  numSL : env.conf.numSL env.conf.bGid ≤ 65535
  payload : ¬ 4096 ∣ env.conf.numSL env.conf.bGid

section

variable {env : Env} {h : Endian} {p : MessageRound2Preprepare}

/-- What `payloadLen` keeps of the size: the participants, and the requests modulo `2 ^ 32`. -/
theorem payloadLen_clientPreprepare (hlow : 1 ≤ round3ParticipantsNum env.conf)
    (hhigh : round3ParticipantsNum env.conf ≤ env.conf.numSL env.conf.bGid)
    (hn : env.conf.numSL env.conf.bGid ≤ 65535) (cycle rr : UInt16) :
    (clientPreprepare h env.conf cycle rr).header.payloadLen.toNat
      = 2 * (round3ParticipantsNum env.conf).toNat
        + env.conf.numSL env.conf.bGid % 4096 * requestBatchSize := by
  have hsize : sizeOfInt (round3ParticipantsNum env.conf)
      = (round3ParticipantsNum env.conf).toNat := by
    unfold sizeOfInt
    rw [Int.emod_eq_of_lt (by omega) (by omega)]
  show (UInt32.ofNat _).toNat = _
  rw [UInt32.toNat_ofNat']
  unfold clientPayloadSize clientRequestSize requestBatchSize
  rw [hsize]
  omega

theorem numOfRound3Participants_clientPreprepare (hlow : 1 ≤ round3ParticipantsNum env.conf)
    (hhigh : round3ParticipantsNum env.conf ≤ env.conf.numSL env.conf.bGid)
    (hn : env.conf.numSL env.conf.bGid ≤ 65535) (cycle rr : UInt16) :
    (clientPreprepare h env.conf cycle rr).numOfRound3Participants.toNat
      = (round3ParticipantsNum env.conf).toNat := by
  have hofInt : (UInt16.ofInt (round3ParticipantsNum env.conf)).toNat
      = (round3ParticipantsNum env.conf % 2 ^ 16).toNat % 2 ^ 16 := UInt16.toNat_ofNat'
  rw [Int.emod_eq_of_lt (by omega) (by omega), Nat.mod_eq_of_lt (by omega)] at hofInt
  exact hofInt

theorem numOfRound3Participants_ne_zero (hlow : 1 ≤ round3ParticipantsNum env.conf)
    (hhigh : round3ParticipantsNum env.conf ≤ env.conf.numSL env.conf.bGid)
    (hn : env.conf.numSL env.conf.bGid ≤ 65535) (cycle rr : UInt16) :
    (clientPreprepare h env.conf cycle rr).numOfRound3Participants ≠ 0 := by
  intro hzero
  have hcount := numOfRound3Participants_clientPreprepare (h := h) hlow hhigh hn cycle rr
  rw [hzero, UInt16.toNat_zero] at hcount
  omega

/-- The list is in what is sent exactly when the header covers it. -/
theorem holds_sentBytes_iff (hpos : p.numOfRound3Participants ≠ 0)
    (hcontent : 2 * p.numOfRound3Participants.toNat ≤ p.participantsAndContent.length) :
    WireFormat.Holds h .round2Preprepare (p.sentBytes h)
      ↔ 26 + 2 * p.numOfRound3Participants.toNat ≤ p.header.getMessageSize := by
  have hlen : (p.sentBytes h).length
      = min p.header.getMessageSize (26 + p.participantsAndContent.length) := by
    unfold MessageRound2Preprepare.sentBytes
    rw [List.length_take, MessageRound2Preprepare.length_bytes]
    rfl
  have hcount : 26 ≤ p.header.getMessageSize →
      WireFormat.listed h .round2Preprepare (p.sentBytes h)
        = p.numOfRound3Participants.toNat := fun hsize => by
    show (u16At h (p.sentBytes h) preprepareNumOfRound3ParticipantsOffset).toNat = _
    unfold MessageRound2Preprepare.sentBytes
    rw [u16At_take (by simpa [preprepareNumOfRound3ParticipantsOffset] using hsize),
      u16At_numOfRound3Participants]
  have hpos : p.numOfRound3Participants.toNat ≠ 0 := fun hzero =>
    hpos (UInt16.toNat_inj.mp hzero)
  unfold WireFormat.Holds
  rw [hlen]
  show 26 + _ ≤ _ ↔ _
  constructor
  · intro hholds
    have hsize : 26 ≤ p.header.getMessageSize := by omega
    rw [hcount hsize] at hholds
    omega
  · intro hsize
    rw [hcount (by omega)]
    omega

section Client

variable (s : ConnManager) (cycle : UInt16) {rr : UInt16}
  (hlow : 1 ≤ round3ParticipantsNum env.conf)
  (hhigh : round3ParticipantsNum env.conf ≤ env.conf.numSL env.conf.bGid)
  (hn : env.conf.numSL env.conf.bGid ≤ 65535)

include hlow hhigh hn

/-- The header covers the list unless the number of SLs is a multiple of 4096. -/
theorem holds_client_iff :
    WireFormat.Holds env.host .round2Preprepare
        ((commonParts s (clientPreprepare env.host env.conf cycle rr)).sentBytes env.host)
      ↔ ¬ 4096 ∣ env.conf.numSL env.conf.bGid := by
  have hcount := numOfRound3Participants_clientPreprepare (h := env.host) hlow hhigh hn cycle rr
  have hlen := payloadLen_clientPreprepare (h := env.host) hlow hhigh hn cycle rr
  have hne := numOfRound3Participants_ne_zero (h := env.host) hlow hhigh hn cycle rr
  have hcontent := length_content_clientPreprepare env.host env.conf cycle rr
  generalize clientPreprepare env.host env.conf cycle rr = p at hcount hlen hne hcontent
  have hiff := holds_sentBytes_iff (h := env.host) (p := commonParts s p) hne (by
    show 2 * p.numOfRound3Participants.toNat ≤ p.participantsAndContent.length
    rw [hcount, hcontent]
    omega)
  have hiff : _ ↔ 26 + 2 * p.numOfRound3Participants.toNat ≤ 8 + p.header.payloadLen.toNat := hiff
  rw [hiff, hcount, hlen]
  unfold requestBatchSize
  omega

theorem namesEnvoys_client_iff (hrr : rr.toNat < env.conf.numSL env.conf.bGid) :
    NamesEnvoys env.host (env.conf.numSL env.conf.bGid)
        (commonParts s (clientPreprepare env.host env.conf cycle rr))
      ↔ ¬ 4096 ∣ env.conf.numSL env.conf.bGid := by
  have hholds := @holds_client_iff env s cycle rr hlow hhigh hn
  have hparts := participants_clientPreprepare env.host env.conf cycle rr (by omega) hlow hhigh hrr
  generalize clientPreprepare env.host env.conf cycle rr = p at hholds hparts
  have hparts : (commonParts s p).participants env.host
      = (List.range (round3ParticipantsNum env.conf).toNat).map
          fun i => (rr.toNat + i) % env.conf.numSL env.conf.bGid := hparts
  refine ⟨fun hnames => hholds.mp hnames.holds, fun hdvd => ⟨?_, ?_, ?_, ?_, hholds.mpr hdvd⟩⟩
  · rw [hparts, List.length_map, List.length_range]
    omega
  · rw [hparts, List.length_map, List.length_range]
    omega
  · rw [hparts]
    exact nodup_consecutive (by omega) _
  · rw [hparts]
    intro x hx
    obtain ⟨i, -, rfl⟩ := List.mem_map.mp hx
    exact Nat.mod_lt _ (by omega)

end Client

/-! ## What an SL keeps of them -/

/-- A client Preprepare names an envoy, and its header covers the number of envoys. -/
def MessageRound2Preprepare.Named (p : MessageRound2Preprepare) : Prop :=
  p.requestType = requestTypeFromClient →
    p.numOfRound3Participants ≠ 0 ∧ 26 ≤ p.header.getMessageSize

def Message.Named : Message → Prop
  | .round2Preprepare p => p.Named
  | _ => True

theorem Message.Named.copy {m : Message} (hm : m.Named) : m.copy.Named := by
  cases m <;> exact hm

theorem named_client (hs : env.Sound) (s : ConnManager) (cycle rr : UInt16) :
    (commonParts s (clientPreprepare env.host env.conf cycle rr)).Named := by
  obtain ⟨hlow, hhigh, hn, hdvd⟩ := hs
  have hlen := payloadLen_clientPreprepare (h := env.host) hlow hhigh hn cycle rr
  have hne := numOfRound3Participants_ne_zero (h := env.host) hlow hhigh hn cycle rr
  generalize clientPreprepare env.host env.conf cycle rr = p at hlen hne
  refine fun _ => ⟨hne, ?_⟩
  show 26 ≤ 8 + p.header.payloadLen.toNat
  rw [hlen]
  unfold requestBatchSize
  omega

end

/-- The own result of a cycle lists an envoy. -/
def OwnNamed (env : Env) (status : CycleStatus) : Prop :=
  ∃ r, status.rgMsgRound3FetchResponse env.conf.bGid = some r
    ∧ u16At env.host r.entirePreprepareMsg preprepareNumOfRound3ParticipantsOffset ≠ 0

/-- All that an SL keeps, sends and has issued of client Preprepares names envoys. -/
structure EnvoysOk (env : Env) (s : ConnManager) : Prop where
  queued : ∀ p ∈ s.pLeaderRound2PendingPreprepareRaw, p.requestType ≠ requestTypeFromClient
  sent : ∀ e ∈ s.sendQueue, e.pMessage.Named
  juggled : ∀ e ∈ s.juggleQueue, e.pMessage.Named
  stored : ∀ p, s.pTemporaryStorageOfPreprepare = some p → p.Named
  slots : ∀ c status, s.mapRound3Status c = some status → OwnNamed env status
  next : s.leaderEnvoysRr.toNat < env.conf.numSL env.conf.bGid
  issued : ∀ p, .issued p ∈ s.history → p.requestType = requestTypeFromClient →
    NamesEnvoys env.host (env.conf.numSL env.conf.bGid) p

section

variable {env : Env} {ω : Choice} {s s' : ConnManager} {e : QueueElement} {cycle : UInt16}
  {status : CycleStatus} {ex : Exception}

namespace EnvoysOk

theorem init (hpos : 0 < env.conf.numSL env.conf.bGid) : EnvoysOk env .init where
  queued := fun _ hp => absurd hp List.not_mem_nil
  sent := fun _ he => absurd he List.not_mem_nil
  juggled := fun _ he => absurd he List.not_mem_nil
  stored := fun _ hp => absurd hp (by simp [ConnManager.init])
  slots := fun _ _ hs => absurd hs (by simp [ConnManager.init])
  next := hpos
  issued := fun _ hp => absurd hp List.not_mem_nil

variable (h : EnvoysOk env s)

include h

theorem note {ev : Event} (hev : ∀ p, ev ≠ .issued p) : EnvoysOk env (s.note ev) :=
  { h with
    issued := fun p hp => h.issued p ((List.mem_append.mp hp).resolve_right fun hp =>
      hev p (List.mem_singleton.mp hp).symm) }

theorem guardFailed : EnvoysOk env (s.note .guardFailed) := h.note (by simp)

theorem setRound2 {current : Option CycleStatus} :
    EnvoysOk env { s with pRound2CurrentStatus := current } := { h with }

theorem enqueue (he : e.pMessage.Named) : EnvoysOk env (s.enqueue e) :=
  { h with
    sent := fun e' he' => (List.mem_append.mp he').elim (h.sent e') fun he' => by
      rw [List.mem_singleton.mp he']
      exact he }

theorem juggle (he : e.pMessage.Named) : EnvoysOk env (s.juggle e) :=
  { h with
    juggled := fun e' he' => (List.mem_append.mp he').elim (h.juggled e') fun he' => by
      rw [List.mem_singleton.mp he']
      exact he }

theorem setStatus (hstatus : OwnNamed env status) : EnvoysOk env (s.setStatus cycle status) :=
  { h with
    slots := fun c st hst => by
      by_cases hc : c = cycle
      · have hst : Function.update s.mapRound3Status cycle (some status) c = some st := hst
        rw [hc, Function.update_self] at hst
        exact Option.some.inj hst ▸ hstatus
      · have hst : Function.update s.mapRound3Status cycle (some status) c = some st := hst
        rw [Function.update_of_ne hc] at hst
        exact h.slots c st hst }

theorem setPending {kind : FetchKind} {requests : List (UInt16 × UInt16)} :
    EnvoysOk env (s.setPending kind cycle requests) := { h with }

theorem answerRequests {kind : FetchKind} {m : Message} {requests : List (UInt16 × UInt16)}
    (hm : m.Named) : EnvoysOk env (answerRequests kind cycle m requests s) :=
  have hsend := h.enqueue (e := { upPeers := (requests.map requestPeer).reverse, pMessage := m }) hm
  { hsend with
    issued := fun p hp => h.issued p ((List.mem_append.mp hp).resolve_right fun hp => by
      obtain ⟨r, -, hr⟩ := List.mem_map.mp hp
      exact absurd hr (by simp)) }

theorem pushPreprepare {p : MessageRound2Preprepare}
    (hp : p.requestType ≠ requestTypeFromClient) : EnvoysOk env (pushPreprepare p s) :=
  { h with
    queued := fun p' hp' => (List.mem_append.mp hp').elim (h.queued p') fun hp' => by
      rw [List.mem_singleton.mp hp']
      exact hp }

end EnvoysOk

/-- The handler keeps all that names envoys, and does not miss one itself. -/
def Outcome.Names (env : Env) : Outcome → Prop
  | .ok s => EnvoysOk env s
  | .thrown ex s => EnvoysOk env s ∧ ex ≠ .noEnvoySelected

theorem Outcome.Names.andThen {o : Outcome} {k : ConnManager → Outcome} (ho : o.Names env)
    (hk : ∀ s, EnvoysOk env s → (k s).Names env) : (o.andThen k).Names env := by
  cases o with
  | ok s => exact hk s ho
  | thrown ex s => exact ho

theorem names_debugThrow {flag : Bool} {k : ConnManager → Outcome} (hs : EnvoysOk env s)
    (hk : ∀ s, EnvoysOk env s → (k s).Names env) : (debugThrow env flag s k).Names env := by
  unfold debugThrow
  split
  · exact hk s hs
  · split
    · exact ⟨hs.guardFailed, by simp⟩
    · exact hk _ hs.guardFailed

theorem names_debugThrowElseReturnVoid {flag : Bool} {k : ConnManager → Outcome}
    (hs : EnvoysOk env s) (hk : (k s).Names env) :
    (debugThrowElseReturnVoid env flag s k).Names env := by
  unfold debugThrowElseReturnVoid
  split
  · exact hk
  · split
    · exact ⟨hs.guardFailed, by simp⟩
    · exact hs.guardFailed

/-! ### Starting a round -/

/-- A Preprepare that names envoys, or that is none of a client, is sent. -/
theorem names_sendPreprepare {p : MessageRound2Preprepare} (hs : EnvoysOk env s)
    (hp : (commonParts s p).Named)
    (hnames : p.requestType = requestTypeFromClient →
      NamesEnvoys env.host (env.conf.numSL env.conf.bGid) (commonParts s p)) :
    (sendPreprepare env p s).Names env := by
  have hsend := hs.enqueue
    (e := { upPeers := broadcastPeers env.conf, pMessage := .round2Preprepare (commonParts s p) })
    hp
  exact { hsend with
    issued := fun q hq ht => by
      rcases List.mem_append.mp hq with hq | hq
      · exact hs.issued q hq ht
      · obtain rfl := Event.issued.inj (List.mem_singleton.mp hq)
        exact hnames ht }

theorem names_sendClientPreprepare (hsound : env.Sound) (hs : EnvoysOk env s) :
    (sendClientPreprepare env s).Names env := by
  have hn := hsound.numSL
  have hnext := hs.next
  unfold sendClientPreprepare
  refine names_sendPreprepare { hs with next := ?_ } (named_client hsound _ _ _) fun _ => ?_
  · show (envoyRoundRobin _ _ _).2.toNat < _
    rw [(envoyRoundRobin_eq (by omega) _ hnext).2]
    exact Nat.mod_lt _ (by omega)
  · exact (namesEnvoys_client_iff _ _ hsound.low hsound.high hn hnext).mpr hsound.payload

theorem names_startRound2IfPossible (hsound : env.Sound) (hs : EnvoysOk env s) :
    (startRound2IfPossible env ω s).Names env := by
  unfold startRound2IfPossible canStartRound2
  refine names_debugThrow hs fun s₁ hs₁ => ?_
  dsimp only
  split
  · exact ⟨hs₁, by simp⟩
  split
  · unfold leaderRound2SendPreprepare canStartRound2
    refine names_debugThrow hs₁ fun s₂ hs₂ => ?_
    refine names_debugThrow hs₂ fun s₃ hs₃ => ?_
    split
    · exact ⟨hs₃, by simp⟩
    refine names_debugThrow hs₃ fun s₄ hs₄ => ?_
    split
    · exact ⟨hs₄, by simp⟩
    · dsimp only
      split
      · next p hp =>
        have hmem := List.mem_of_getElem? hp
        have hother := hs₄.queued p hmem
        refine names_debugThrow { hs₄ with } fun s₅ hs₅ => ?_
        refine names_sendPreprepare { hs₅ with queued := fun q hq => ?_ }
          (fun ht => absurd ht hother) fun ht => absurd ht hother
        exact hs₅.queued q (List.mem_of_mem_eraseIdx hq)
      · exact names_sendClientPreprepare hsound { hs₄ with }
  · exact hs₁

/-! ### Round 3 -/

theorem names_round3Committed (hs : EnvoysOk env s) : (round3Committed cycle s).Names env := by
  unfold round3Committed
  split
  · exact ⟨hs, by simp⟩
  · split
    · exact ⟨hs, by simp⟩
    · refine EnvoysOk.note (s := { s with
        mapRound3Status := Function.update s.mapRound3Status cycle none
        pStorage := s.pStorage ++ [cycle] }) { hs with slots := fun c st hst => ?_ } fun p hp => by
          cases hp
      by_cases hc : c = cycle
      · have hst : Function.update s.mapRound3Status cycle none c = some st := hst
        rw [hc, Function.update_self] at hst
        exact absurd hst (by simp)
      · have hst : Function.update s.mapRound3Status cycle none c = some st := hst
        rw [Function.update_of_ne hc] at hst
        exact hs.slots c st hst

/-- The own result lists an envoy, so neither of the two questions throws for want of one. -/
theorem names_ifPrimaryEnvoy {send : ConnManager → Outcome} (hs : EnvoysOk env s)
    (hsend : (send s).Names env) : (ifPrimaryEnvoy env cycle s send).Names env := by
  unfold ifPrimaryEnvoy isPrimaryEnvoyRound3
  split
  · exact ⟨hs, by simp⟩
  · next status hstatus =>
    obtain ⟨r, hr, hcount⟩ := hs.slots cycle status hstatus
    rw [hr]
    dsimp only
    rw [if_neg hcount]
    split
    · exact hsend
    · unfold isBackupEnvoyRound3
      rw [hstatus]
      dsimp only
      rw [hr]
      dsimp only
      have hne : (u16At env.host r.entirePreprepareMsg
          preprepareNumOfRound3ParticipantsOffset).toNat ≠ 0 := fun hzero =>
        hcount (UInt16.toNat_inj.mp hzero)
      rw [if_neg hne]
      exact hs

theorem names_envoyRound3SendFetchRequest (hs : EnvoysOk env s) :
    (envoyRound3SendFetchRequest env ω cycle s).Names env := by
  unfold envoyRound3SendFetchRequest
  split
  · exact ⟨hs, by simp⟩
  · next status hstatus =>
    have hown := hs.slots cycle status hstatus
    split
    · exact ⟨hs, by simp⟩
    · split
      · exact names_round3Committed (hs.setStatus hown)
      · dsimp only
        have hset : EnvoysOk env (s.setStatus cycle (status.enter .round3WaitingForReplicatedResults
            .round3FetchResponse (env.conf.numBG - 1))) := hs.setStatus hown
        refine names_ifPrimaryEnvoy hset ?_
        split
        · exact ⟨hset, by simp⟩
        · exact names_debugThrow hset fun s₁ hs₁ => hs₁.enqueue trivial

theorem names_envoyRound3SendGeneralFetch {demanded : MessageType} (hs : EnvoysOk env s) :
    (envoyRound3SendGeneralFetch demanded env ω cycle s).Names env := by
  unfold envoyRound3SendGeneralFetch
  split
  · exact ⟨hs, by simp⟩
  · exact names_debugThrow hs fun s₁ hs₁ => names_ifPrimaryEnvoy hs₁ (hs₁.enqueue trivial)

theorem named_ownResponse {conf : Config} {kind : FetchKind} {m : Message}
    (hm : ownResponse conf kind status = some m) : m.copy.Named := by
  cases kind <;> obtain ⟨r, -, rfl⟩ := Option.map_eq_some_iff.mp hm <;> trivial

theorem names_respondToPending {kind : FetchKind} (hs : EnvoysOk env s) :
    (respondToPending kind env cycle status s).Names env := by
  unfold respondToPending
  split
  · exact hs
  · split
    · exact ⟨hs, by simp⟩
    · next response hresponse =>
      exact (hs.answerRequests (named_ownResponse hresponse)).setPending

theorem names_round3RespondToPendingFetchRequests (hs : EnvoysOk env s) :
    (round3RespondToPendingFetchRequests env cycle s).Names env := by
  unfold round3RespondToPendingFetchRequests
  split
  · exact ⟨hs, by simp⟩
  · split
    · exact ⟨hs, by simp⟩
    · exact names_respondToPending hs

/-! ### Commits -/

/-- The response to the other BGs has the number of envoys of the Preprepare in it. -/
theorem u16At_getRound3Response {p : MessageRound2Preprepare} {m : MessageRound2FullCommit}
    {sLid c : UInt16} {h : Endian} (hsize : 26 ≤ p.header.getMessageSize) :
    u16At h (getRound3Response h p m sLid c).entirePreprepareMsg
      preprepareNumOfRound3ParticipantsOffset = p.numOfRound3Participants := by
  show u16At h ((p.bytes h).take p.header.getMessageSize) _ = _
  rw [u16At_take (by simpa [preprepareNumOfRound3ParticipantsOffset] using hsize),
    u16At_numOfRound3Participants]

theorem ownNamed_skippedStatus {pFullC : MessageRound2FullCommit}
    {pPreprepare : MessageRound2Preprepare} (hp : pPreprepare.Named)
    (ht : pPreprepare.requestType = requestTypeFromClient) :
    OwnNamed env (skippedStatus env pFullC pPreprepare status cycle) := by
  obtain ⟨hne, hsize⟩ := hp ht
  refine ⟨_, Function.update_self .., fun hzero => hne (Eq.trans (Eq.symm ?_) hzero)⟩
  exact u16At_getRound3Response hsize

theorem names_skipCycles {pFullC : MessageRound2FullCommit}
    {pPreprepare : MessageRound2Preprepare} {n : Nat} (hp : pPreprepare.Named)
    (ht : pPreprepare.requestType = requestTypeFromClient) (hs : EnvoysOk env s) :
    (skipCycles env ω pFullC pPreprepare status n cycle s).Names env := by
  induction n generalizing cycle s with
  | zero => exact hs
  | succ n ih =>
    unfold skipCycles
    refine names_debugThrow hs fun s₁ hs₁ => ?_
    refine names_debugThrow hs₁ fun s₂ hs₂ => ?_
    refine Outcome.Names.andThen ?_ fun s₃ hs₃ => ?_
    · exact names_round3RespondToPendingFetchRequests
        (hs₂.setStatus (ownNamed_skippedStatus hp ht))
    · exact (names_envoyRound3SendFetchRequest hs₃).andThen fun s₄ hs₄ => ih hs₄

/-- Another slot was filled. -/
theorem OwnNamed.update {bg : Nat} {r : MessageRound3FetchResponse} (h : OwnNamed env status)
    (hfree : (status.rgMsgRound3FetchResponse bg).isNone = true) :
    OwnNamed env { status with
      rgMsgRound3FetchResponse :=
        Function.update status.rgMsgRound3FetchResponse bg (some r) } := by
  obtain ⟨own, hown, hcount⟩ := h
  refine ⟨own, ?_, hcount⟩
  have hne : env.conf.bGid ≠ bg := fun heq => by
    rw [← heq, hown] at hfree
    exact absurd hfree (by simp)
  show Function.update _ _ _ _ = _
  rw [Function.update_of_ne hne]
  exact hown

theorem EnvoysOk.clearRound2 (hs : EnvoysOk env s) : EnvoysOk env (clearRound2 s) :=
  { hs with stored := fun _ hp => absurd hp (by simp [RCanopus.clearRound2]) }

/-- A failed check returns, so the rest may rely on it. -/
theorem names_debugThrowElseReturnVoid_of {flag : Bool} {k : ConnManager → Outcome}
    (hs : EnvoysOk env s) (hk : flag = true → (k s).Names env) :
    (debugThrowElseReturnVoid env flag s k).Names env := by
  cases flag with
  | true => exact hk rfl
  | false =>
    unfold debugThrowElseReturnVoid
    rw [if_neg Bool.false_ne_true]
    split
    · exact ⟨hs.guardFailed, by simp⟩
    · exact hs.guardFailed

section Branches

variable {common : ConnManager → Outcome} {pFullC : MessageRound2FullCommit}
  {pPreprepare : MessageRound2Preprepare} (hs : EnvoysOk env s)
  (hcommon : ∀ s, EnvoysOk env s → (common s).Names env)

include hs hcommon

theorem names_fullCommitFromClient (hp : pPreprepare.Named)
    (ht : pPreprepare.requestType = requestTypeFromClient) :
    (fullCommitFromClient env ω pFullC pPreprepare status s common).Names env := by
  unfold fullCommitFromClient
  refine (names_skipCycles hp ht hs).andThen fun s₁ hs₁ => ?_
  refine names_debugThrowElseReturnVoid hs₁ ?_
  refine names_debugThrow { hs₁ with stored := fun _ h => absurd h (by simp) } fun s₂ hs₂ => ?_
  obtain ⟨hne, hsize⟩ := hp ht
  refine Outcome.Names.andThen ?_ fun s₃ hs₃ => ?_
  · refine names_round3RespondToPendingFetchRequests { EnvoysOk.setStatus hs₂ ?_ with }
    refine ⟨_, Function.update_self .., ?_⟩
    rw [u16At_getRound3Response hsize]
    exact hne
  · exact (names_envoyRound3SendFetchRequest hs₃).andThen hcommon

theorem names_fullCommitFetchedResult :
    (fullCommitFetchedResult env pPreprepare s common).Names env := by
  unfold fullCommitFetchedResult
  dsimp only
  split
  · exact ⟨hs, by simp⟩
  · next status hstatus =>
    refine names_debugThrowElseReturnVoid_of hs fun hfree => ?_
    have hown := (hs.slots _ status hstatus).update (r := unwrapFetchedResult pPreprepare) hfree
    refine names_debugThrow (hs.setStatus hown).clearRound2 fun s₁ hs₁ => ?_
    split
    · refine hcommon _ ?_
      split
      · refine EnvoysOk.pushPreprepare (hs₁.setStatus ?_) ?_
        · exact hown
        · show requestTypeLocalConnectivity ≠ requestTypeFromClient
          decide
      · exact hs₁.setStatus (by exact hown)
    · exact hcommon _ (hs₁.setStatus (by exact hown))

theorem names_fullCommitLocalConnectivity :
    (fullCommitLocalConnectivity env ω pFullC pPreprepare s common).Names env := by
  unfold fullCommitLocalConnectivity round3RespondToPendingFetchConnectivityRequests
  dsimp only
  split
  · exact ⟨hs, by simp⟩
  · next status hstatus =>
    have hown := hs.slots _ status hstatus
    refine names_debugThrowElseReturnVoid hs (Outcome.Names.andThen ?_ fun s₁ hs₁ => ?_)
    · split
      · exact ⟨(hs.setStatus (by exact hown)).clearRound2, by simp⟩
      · exact names_respondToPending (hs.setStatus (by exact hown)).clearRound2
    · exact (names_envoyRound3SendGeneralFetch hs₁).andThen hcommon

theorem names_fullCommitRemoteConnectivity :
    (fullCommitRemoteConnectivity env pPreprepare s common).Names env := by
  unfold fullCommitRemoteConnectivity
  refine names_debugThrow hs fun s₁ hs₁ => ?_
  dsimp only
  split
  · exact ⟨hs₁, by simp⟩
  · next status hstatus =>
    refine names_debugThrowElseReturnVoid_of hs₁ fun hfree => ?_
    have hown := (hs₁.slots _ status hstatus).update (r := unwrapFetchedResult pPreprepare) hfree
    refine names_debugThrow (hs₁.setStatus hown).clearRound2 fun s₂ hs₂ => ?_
    refine names_debugThrow hs₂ fun s₃ hs₃ => hcommon _ ?_
    split
    · exact hs₃.setStatus hown
    · exact hs₃.setStatus hown

theorem names_fullCommitLocalMembership :
    (fullCommitLocalMembership env ω pPreprepare s common).Names env := by
  unfold fullCommitLocalMembership round3RespondToPendingFetchMembershipRequests
  dsimp only
  split
  · exact ⟨hs, by simp⟩
  · next status hstatus =>
    have hown := hs.slots _ status hstatus
    refine names_debugThrowElseReturnVoid hs (Outcome.Names.andThen ?_ fun s₁ hs₁ => ?_)
    · split
      · exact ⟨(hs.setStatus (by exact hown)).clearRound2, by simp⟩
      · exact names_respondToPending (hs.setStatus (by exact hown)).clearRound2
    · exact (names_envoyRound3SendGeneralFetch hs₁).andThen hcommon

theorem names_fullCommitFullMembership :
    (fullCommitFullMembership env pPreprepare s common).Names env := by
  unfold fullCommitFullMembership
  dsimp only
  split
  · exact ⟨hs, by simp⟩
  · next status hstatus =>
    refine names_debugThrow (hs.setStatus (hs.slots _ status hstatus)) fun s₁ hs₁ => ?_
    refine names_debugThrow hs₁ fun s₂ hs₂ => ?_
    exact (names_round3Committed hs₂.clearRound2).andThen hcommon

theorem names_fullCommitBranch (hp : pPreprepare.Named) :
    (fullCommitBranch env ω pFullC pPreprepare status s common).Names env := by
  unfold fullCommitBranch
  split
  · next ht => exact names_fullCommitFromClient hs hcommon hp ht
  · split
    · exact names_fullCommitFetchedResult hs hcommon
    · split
      · exact names_fullCommitLocalConnectivity hs hcommon
      · split
        · exact names_fullCommitRemoteConnectivity hs hcommon
        · split
          · exact names_fullCommitLocalMembership hs hcommon
          · split
            · exact names_fullCommitFullMembership hs hcommon
            · exact ⟨hs, by simp⟩

end Branches

/-! ### The dispatchers -/

theorem names_spawnRound2 (hsound : env.Sound) (hs : EnvoysOk env s) :
    (spawnRound2 env ω s).Names env := by
  unfold spawnRound2
  split
  · exact names_startRound2IfPossible hsound hs
  · exact hs

theorem names_dispatcherRound2Request {pRequest : MessageRound2Request} (hsound : env.Sound)
    (hs : EnvoysOk env s) (he : e.pMessage.Named) :
    (dispatcherRound2Request env ω e pRequest s).Names env := by
  unfold dispatcherRound2Request
  split
  · exact names_debugThrow hs fun s₁ hs₁ => hs₁.enqueue he
  · exact names_debugThrowElseReturnVoid hs (names_startRound2IfPossible hsound { hs with })

theorem names_acceptPreprepare {pPreprepare : MessageRound2Preprepare} (hs : EnvoysOk env s)
    (hp : pPreprepare.Named) : (acceptPreprepare env pPreprepare status s).Names env := by
  unfold acceptPreprepare
  refine names_debugThrow (EnvoysOk.enqueue { hs with } trivial) fun s₁ hs₁ => ?_
  have hstored : EnvoysOk env { s₁ with pTemporaryStorageOfPreprepare := some pPreprepare } :=
    { hs₁ with stored := fun q hq => Option.some.inj hq ▸ hp }
  exact hstored.note (by simp)

theorem names_dispatcherRound2Preprepare {pPreprepare : MessageRound2Preprepare}
    (hs : EnvoysOk env s) (he : e.pMessage.Named) (hp : pPreprepare.Named) :
    (dispatcherRound2Preprepare env e pPreprepare s).Names env := by
  unfold dispatcherRound2Preprepare
  have hstatus : EnvoysOk env { s with
      pRound2CurrentStatus := some (s.pRound2CurrentStatus.getD .waitingForPreprepare) } :=
    hs.setRound2
  dsimp only
  split
  · exact hstatus.juggle he
  · refine names_debugThrow hstatus fun s₁ hs₁ => ?_
    refine names_debugThrow hs₁ fun s₂ hs₂ => ?_
    split
    · exact hs₂.juggle he
    · refine names_debugThrowElseReturnVoid hs₂ ?_
      exact names_debugThrow hs₂ fun s₃ hs₃ => names_acceptPreprepare hs₃ hp

theorem names_dispatcherRound2PartialCommit {pPartialC : MessageRound2PartialCommit}
    (hs : EnvoysOk env s) (he : e.pMessage.Named) :
    (dispatcherRound2PartialCommit env e pPartialC s).Names env := by
  unfold dispatcherRound2PartialCommit
  split
  · exact hs.juggle he
  · next status _ =>
    split
    · exact hs.juggle he
    split
    · exact hs.juggle he
    refine names_debugThrowElseReturnVoid hs (names_debugThrowElseReturnVoid hs
      (names_debugThrowElseReturnVoid hs (names_debugThrowElseReturnVoid hs ?_)))
    split
    · exact ⟨hs, by simp⟩
    split
    · exact ⟨hs, by simp⟩
    · refine names_debugThrowElseReturnVoid hs ?_
      have hcount : EnvoysOk env (s.note (.counted (e.upPeers.head?.getD none) pPartialC
          status.round2View status.round2Sequence)) := hs.note (by simp)
      unfold countPartialCommit
      dsimp only
      split
      · refine EnvoysOk.note (hcount.setRound2.enqueue ?_) ?_
        · trivial
        · simp
      · exact hcount.setRound2

theorem names_dispatcherRound2FullCommit {pFullC : MessageRound2FullCommit} (hsound : env.Sound)
    (hs : EnvoysOk env s) (he : e.pMessage.Named) :
    (dispatcherRound2FullCommit env ω e pFullC s).Names env := by
  unfold dispatcherRound2FullCommit
  split
  · exact hs.juggle he
  split
  · exact hs.juggle he
  refine names_debugThrowElseReturnVoid hs (names_debugThrowElseReturnVoid hs
    (names_debugThrowElseReturnVoid hs ?_))
  split
  · exact ⟨hs, by simp⟩
  · next p hp =>
    refine names_fullCommitBranch (EnvoysOk.note ?_ (by simp))
      (fun s₁ hs₁ => names_spawnRound2 hsound hs₁) (hs.stored p hp)
    exact hs.setRound2

theorem names_dispatcherRound3FetchRequest {pFReq : MessageRound3FetchRequest}
    (hs : EnvoysOk env s) : (dispatcherRound3FetchRequest env pFReq s).Names env := by
  unfold dispatcherRound3FetchRequest
  dsimp only
  split
  · split
    · exact names_debugThrowElseReturnVoid hs hs
    · exact hs.setPending
  · split
    · exact ⟨hs, by simp⟩
    · next hresponse => exact hs.answerRequests (named_ownResponse hresponse)

theorem EnvoysOk.answerOrPush {kind : FetchKind} {pFetch : MessageRound3GeneralFetch}
    (hs : EnvoysOk env s) : EnvoysOk env (answerOrPush kind env pFetch status s) := by
  unfold RCanopus.answerOrPush
  split
  · exact hs.setPending
  · next hresponse => exact hs.answerRequests (named_ownResponse hresponse)

theorem names_dispatcherRound3GeneralFetchRequest {pFetch : MessageRound3GeneralFetch}
    (hs : EnvoysOk env s) (he : e.pMessage.Named) :
    (dispatcherRound3GeneralFetchRequest env e pFetch s).Names env := by
  unfold dispatcherRound3GeneralFetchRequest
  split
  · unfold dispatcherRound3FetchConnectivityRequest
    split
    · exact hs.juggle he
    · exact hs.answerOrPush
  split
  · unfold dispatcherRound3FetchMembershipRequest
    dsimp only
    split
    · exact names_debugThrow hs fun s₁ hs₁ => hs₁.answerRequests trivial
    · exact hs.answerOrPush
  · exact ⟨hs, by simp⟩

theorem names_forwardToLeader (hs : EnvoysOk env s) (he : e.pMessage.Named) :
    (forwardToLeader env e s).Names env := hs.enqueue he

theorem names_dispatcherRound3FetchResponse {pFResp : MessageRound3FetchResponse}
    (hsound : env.Sound) (hs : EnvoysOk env s) (he : e.pMessage.Named) :
    (dispatcherRound3FetchResponse env ω e pFResp s).Names env := by
  unfold dispatcherRound3FetchResponse
  split
  · exact names_forwardToLeader hs he
  · refine names_startRound2IfPossible hsound (hs.pushPreprepare ?_)
    show requestTypeFetchedResult ≠ requestTypeFromClient
    decide

theorem names_dispatcherRound3FetchConnectivityResponse {pConn : MessageRound3FetchResponse}
    (hsound : env.Sound) (hs : EnvoysOk env s) (he : e.pMessage.Named) :
    (dispatcherRound3FetchConnectivityResponse env ω e pConn s).Names env := by
  unfold dispatcherRound3FetchConnectivityResponse
  split
  · exact names_forwardToLeader hs he
  split
  · exact ⟨hs, by simp⟩
  · next status hstatus =>
    have hown := hs.slots _ status hstatus
    split
    · exact hs.juggle he
    · refine names_startRound2IfPossible hsound ?_
      dsimp only
      split
      · refine EnvoysOk.pushPreprepare (hs.setStatus ?_) ?_
        · exact hown
        · show requestTypeLocalMembership ≠ requestTypeFromClient
          decide
      · exact hs.setStatus (by exact hown)

theorem names_dispatcherRound3FetchMembershipResponse
    {pMembership : MessageRound3FullMembership} (hsound : env.Sound) (hs : EnvoysOk env s)
    (he : e.pMessage.Named) :
    (dispatcherRound3FetchMembershipResponse env ω e pMembership s).Names env := by
  unfold dispatcherRound3FetchMembershipResponse
  split
  · exact names_forwardToLeader hs he
  dsimp only
  split
  · exact ⟨hs, by simp⟩
  · next status hstatus =>
    have hown := hs.slots _ status hstatus
    split
    · exact hs.juggle he
    · refine names_debugThrowElseReturnVoid hs (names_debugThrow hs fun s₁ hs₁ => ?_)
      split
      · refine names_startRound2IfPossible hsound (EnvoysOk.pushPreprepare (hs₁.setStatus ?_) ?_)
        · exact hown
        · show requestTypeFullMembership ≠ requestTypeFromClient
          decide
      · exact hs₁.setStatus (by exact hown)

/-- **One dispatch** keeps all that names envoys. -/
theorem names_dispatcherRound2 (hsound : env.Sound) (hs : EnvoysOk env s)
    (he : e.pMessage.Named) : (dispatcherRound2 env ω e s).Names env := by
  unfold dispatcherRound2
  split
  · exact ⟨hs, by simp⟩
  · split
    · exact names_debugThrow hs fun s₁ hs₁ => names_startRound2IfPossible hsound hs₁
    · exact names_dispatcherRound2Request hsound hs he
    · next hm =>
      rw [hm] at he
      exact names_dispatcherRound2Preprepare hs (hm ▸ he) he
    · exact names_dispatcherRound2PartialCommit hs he
    · exact names_dispatcherRound2FullCommit hsound hs he
    · exact names_dispatcherRound3FetchRequest hs
    · exact names_dispatcherRound3FetchResponse hsound hs he
    · exact names_dispatcherRound3GeneralFetchRequest hs he
    · exact names_dispatcherRound3FetchConnectivityResponse hsound hs he
    · exact names_dispatcherRound3FetchMembershipResponse hsound hs he
    · exact ⟨hs, by simp⟩

end

end RCanopus
