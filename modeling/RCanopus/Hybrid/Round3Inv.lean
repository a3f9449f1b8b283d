import RCanopus.Round3Moves
import RCanopus.Hybrid.Cluster
import RCanopus.Hybrid.GatheringMoves

/-!
# The invariant of round 3 of the hybrid variant

`gathering` reads off a state of all SLs what each BG has issued and queued, and what each SL has
accepted and committed. `Round3Inv` says that this is a state of the abstract model, for some
tokens, and relates the tokens to the messages between the BGs, the pending requests and the
statuses of the cycles.
-/

namespace RCanopus.Hybrid

open Cluster

/-! ## The messages between BGs -/

/-- The SL that sent a request. -/
def requester : Message → Option Nat
  | .round3FetchRequest m => some m.senderSLid.toNat
  | .round3GeneralFetch m => some m.senderSLid.toNat
  | _ => none

/-- The key of a request that SL `i` of some BG has sent. -/
def requestFrom (i : Nat) (m : Message) : Option (FetchKind × Nat × UInt16) :=
  if requester m = some i then m.requestKey else none

@[simp] theorem requestFrom_copy (i : Nat) (m : Message) :
    requestFrom i m.copy = requestFrom i m := by
  cases m <;> rfl

theorem requestFrom_eq_none {i : Nat} {m : Message} (h : m.requestKey = none) :
    requestFrom i m = none := by
  unfold requestFrom
  rw [h, ite_self]

theorem requestFrom_eq {i : Nat} {m : Message} {key : FetchKind × Nat × UInt16} :
    requestFrom i m = some key ↔ requester m = some i ∧ m.requestKey = some key := by
  unfold requestFrom
  split
  · next h => exact (and_iff_right h).symm
  · next h => exact ⟨fun hc => absurd hc (by simp), fun hc => absurd hc.1 h⟩

/-- What is good in a message that waits at an SL. A request for a result may be of any SL. -/
def GoodMessage (d : Deployment) (σ : Cluster) (y : Peer) : Message → Prop
  | .round3FetchRequest m => m.header.version = versionLatest
  | .round3GeneralFetch m => m.header.version = versionLatest
    ∧ (m.msgTypeDemanded = MessageType.round3ConnectivityResponse.code
      ∨ m.msgTypeDemanded = MessageType.round3MembershipResponse.code)
  | m => RCanopus.GoodMessage d σ y m

/-! ## The gathering of a cluster -/

def gathering (σ : Cluster) (token : FetchKind → Peer → Nat → UInt16 → Token) : Gathering where
  log := fun b => (issued σ b).map entryOf
  queue := fun b => (σ (b, 0)).sl.pLeaderRound2PendingPreprepareRaw.map entryOf
  accepted := fun y => (accepted σ y).map entryOf
  committed := entries σ
  token := token

/-! ## The status of a cycle -/

/-- A status has the answer of a BG. -/
def CycleStatus.filled (status : CycleStatus) : FetchKind → Nat → Bool
  | .result, A => (status.rgMsgRound3FetchResponse A).isSome
  | .connectivity, A => (status.rgMsgRound3ConnectivityResponse A).isSome
  | .membership, A => (status.rgMsgRound3MembershipResponse A).isSome

/-- An SL has all answers of a kind for a cycle. -/
def Complete (d : Deployment) (x : Gathering) (y : Peer) (k : FetchKind) (c : UInt16) : Prop :=
  d.layout.AllOthers y.1 fun A => held d.layout x.token k y A c = .done

/-- The status of a cycle at an SL, as what the SL has committed and received makes it. -/
structure StatusOk (d : Deployment) (σ : Cluster) (x : Gathering) (y : Peer) (c : UInt16)
    (status : CycleStatus) : Prop where
  client : .client c ∈ x.committed y
  still : closer d.conf.numBG c ∉ x.committed y
  /-- The own answers. -/
  ready : ∀ k, k.trigger c ∈ x.committed y → ∃ p ∈ committed σ y, entryOf p = k.trigger c
    ∧ ownResponse (d.env y).conf k status = some (ownAnswer (d.env y) k p)
  missing : ∀ k, k.trigger c ∉ x.committed y → ownResponse (d.env y).conf k status = none
  /-- The slots of the other BGs. The two later kinds are for the leader. -/
  filled : ∀ k, ∀ A ≠ y.1, CycleStatus.filled status k A = true
    ↔ (k = .result ∨ y.2 = 0) ∧ held d.layout x.token k y A c = .done
  carries : ∀ A r, status.rgMsgRound3FetchResponse A = some r →
    ∃ q ∈ issued σ A, entryOf q = .client c ∧ r.entirePreprepareMsg = q.sentBytes d.host
  ones : ∀ A m, status.rgMsgRound3MembershipResponse A = some m → m.Ones d.conf.numBG
  /-- The four phases. The results are not counted. -/
  collecting : ¬ Complete d x y .result c →
    status.In .round3WaitingForReplicatedResults .round3FetchResponse 0 (d.conf.numBG - 1)
  collected : Complete d x y .result c → .localConnectivity c ∉ x.committed y →
    status.In .round3WaitingForLocalConnectivity .round2FullCommit 0 1
  connecting : .localConnectivity c ∈ x.committed y → .localMembership c ∉ x.committed y →
    status.In .round3WaitingForReplicatedConnectivity .round3ConnectivityResponse
      (countOthers d.conf.numBG y.1 (CycleStatus.filled status .connectivity)) (d.conf.numBG - 1)
  joining : .localMembership c ∈ x.committed y →
    status.In .round3WaitingForReplicatedMembership .round3MembershipResponse
      (countOthers d.conf.numBG y.1 (CycleStatus.filled status .membership)) (d.conf.numBG - 1)

/-- The entry of `mapRound3Status` for a cycle. -/
def StatusAt (d : Deployment) (σ : Cluster) (x : Gathering) (y : Peer) (c : UInt16) :
    Option CycleStatus → Prop
  | none => .client c ∉ x.committed y ∨ closer d.conf.numBG c ∈ x.committed y
  | some status => StatusOk d σ x y c status

/-! ## The state of one SL -/

/-- The pending requests of a kind for a cycle are the tokens that wait here. -/
structure PendingOk (x : Gathering) (y : Peer) (k : FetchKind) (c : UInt16)
    (requests : Option (List (UInt16 × UInt16))) : Prop where
  nodup : (requesters requests).Nodup
  mem : ∀ z, z ∈ requesters requests ↔ x.token k z y.1 c = .pending y.2

structure SlOk (d : Deployment) (σ : Cluster) (x : Gathering) (y : Peer) (s : ConnManager) :
    Prop where
  status : ∀ c, StatusAt d σ x y c (s.mapRound3Status c)
  pending : ∀ k c, PendingOk x y k c (s.mapRound3PendingRequests k c)
  storage : s.pStorage = (x.committed y).filterMap (closedCycle d.conf.numBG)
  closed : closedOf s.history = s.pStorage
  events : ∀ ev ∈ s.history, EventOk d σ y ev
  proposals : ∀ p ∈ s.pLeaderRound2PendingPreprepareRaw, Proposal d σ y.1 p

/-- **The invariant of round 3**, for some tokens. -/
structure Round3Inv (d : Deployment) (σ : Cluster)
    (token : FetchKind → Peer → Nat → UInt16 → Token) : Prop where
  inv : (gathering σ token).Inv d.layout
  sl : ∀ y, SlOk d σ (gathering σ token) y (σ y).sl
  issued : ∀ b, ∀ p ∈ issued σ b, Proposal d σ b p
  clients : ∀ b, ClientsOk d σ b
  requests : ∀ y k z c, countKey (requestFrom z.2) (k, z.1, c) (pool σ y)
    = if token k z y.1 c = .asked y.2 then 1 else 0
  responses : ∀ y k A c, countKey Message.responseKey (k, A, c) (pool σ y)
    = if held d.layout token k y A c = .answered y.2 then 1 else 0
  good : ∀ y, ∀ e ∈ pool σ y, GoodMessage d σ y e.pMessage

/-! ## What a step leaves alone -/

variable {d : Deployment} {σ σ' : Cluster} {x x' : Gathering} {b : Nat} {c c' : UInt16}
  {y z : Peer} {k : FetchKind} {e e' : QueueElement} {ω : Choice} {before : Node} {o : Outcome}
  {s s' : ConnManager} {token token' : FetchKind → Peer → Nat → UInt16 → Token}

theorem GoodMessage.of_main {m : Message} (h : RCanopus.GoodMessage d σ y m) :
    GoodMessage d σ y m := by
  cases m with
  | round3FetchRequest m => exact h.1
  | round3GeneralFetch m => exact ⟨h.1, h.2.2⟩
  | _ => exact h

theorem GoodMessage.mono {m : Message} (h : GoodMessage d σ y m)
    (hissued : ∀ b, issued σ b ⊆ issued σ' b) : GoodMessage d σ' y m := by
  cases m with
  | round3FetchResponse m =>
    obtain ⟨hversion, q, hq, hcycle, hcarries⟩ := h
    exact ⟨hversion, q, hissued _ hq, hcycle, hcarries⟩
  | _ => exact h

theorem GoodMessage.copy {m : Message} (h : GoodMessage d σ y m) : GoodMessage d σ y m.copy := by
  have hmain : RCanopus.GoodMessage d σ y m → GoodMessage d σ y m.copy :=
    fun h => .of_main h.copy
  cases m with
  | round3FetchResponse m => exact hmain h
  | round3MembershipResponse m => exact hmain h
  | _ => exact h

/-- The two entries of a cycle that end it are of the cycle. -/
theorem cycle_closer (numBG : Nat) (c : UInt16) : (closer numBG c).cycle = c := by
  unfold closer
  split <;> rfl

theorem closer_of_two {numBG : Nat} (hN : 2 ≤ numBG) (c : UInt16) :
    closer numBG c = .fullMembership c := if_neg (by omega)

/-- The status of a cycle depends on the entries and the tokens of this cycle. -/
theorem StatusOk.congr {status : CycleStatus} (h : StatusOk d σ x y c status)
    (hissued : ∀ b, issued σ b ⊆ issued σ' b) (hcommitted : committed σ y ⊆ committed σ' y)
    (hentries : ∀ e : Entry, e.cycle = c → (e ∈ x'.committed y ↔ e ∈ x.committed y))
    (htoken : ∀ k, k = .result ∨ y.2 = 0 → ∀ A,
      (held d.layout x'.token k y A c = .done ↔ held d.layout x.token k y A c = .done)) :
    StatusOk d σ' x' y c status := by
  have hall : Complete d x' y .result c ↔ Complete d x y .result c :=
    Layout.AllOthers.congr (htoken .result (Or.inl rfl))
  refine {
    client := (hentries _ rfl).mpr h.client
    still := fun hc => h.still ((hentries _ (cycle_closer _ c)).mp hc)
    ready := fun k hk => ?_
    missing := fun k hk => h.missing k fun hc => hk ((hentries _ (k.cycle_trigger c)).mpr hc)
    filled := fun k A hA => (h.filled k A hA).trans
      (and_congr_right fun hy => (htoken k hy A).symm)
    carries := fun A r hr => ?_
    ones := h.ones
    collecting := fun hc => h.collecting fun h' => hc (hall.mpr h')
    collected := fun h' hc => h.collected (hall.mp h') fun hl => hc ((hentries _ rfl).mpr hl)
    connecting := fun hl hc => h.connecting ((hentries _ rfl).mp hl)
      fun hm => hc ((hentries _ rfl).mpr hm)
    joining := fun hm => h.joining ((hentries _ rfl).mp hm) }
  · obtain ⟨p, hp, hentry, hanswer⟩ := h.ready k ((hentries _ (k.cycle_trigger c)).mp hk)
    exact ⟨p, hcommitted hp, hentry, hanswer⟩
  · obtain ⟨q, hq, hcycle, hbytes⟩ := h.carries A r hr
    exact ⟨q, hissued A hq, hcycle, hbytes⟩

theorem StatusAt.congr {status : Option CycleStatus} (h : StatusAt d σ x y c status)
    (hissued : ∀ b, issued σ b ⊆ issued σ' b) (hcommitted : committed σ y ⊆ committed σ' y)
    (hentries : ∀ e : Entry, e.cycle = c → (e ∈ x'.committed y ↔ e ∈ x.committed y))
    (htoken : ∀ k, k = .result ∨ y.2 = 0 → ∀ A,
      (held d.layout x'.token k y A c = .done ↔ held d.layout x.token k y A c = .done)) :
    StatusAt d σ' x' y c status := by
  cases status with
  | none =>
    rcases h with h | h
    · exact Or.inl fun hc => h ((hentries _ rfl).mp hc)
    · exact Or.inr ((hentries _ (cycle_closer _ c)).mpr h)
  | some status => exact StatusOk.congr h hissued hcommitted hentries htoken

theorem PendingOk.congr {requests : Option (List (UInt16 × UInt16))}
    (h : PendingOk x y k c requests)
    (htoken : ∀ w, x'.token k w y.1 c = .pending y.2 ↔ x.token k w y.1 c = .pending y.2) :
    PendingOk x' y k c requests := by
  refine ⟨h.nodup, fun w => ?_⟩
  rw [h.mem, htoken]

/-- What a step does not change at the other SLs. -/
structure Untouched (L : Layout) (x x' : Gathering) (z : Peer) : Prop where
  entries : x'.committed z = x.committed z
  done : ∀ k, k = .result ∨ z.2 = 0 → ∀ A c,
    (held L x'.token k z A c = .done ↔ held L x.token k z A c = .done)
  pending : ∀ k w c, x'.token k w z.1 c = .pending z.2 ↔ x.token k w z.1 c = .pending z.2

theorem SlOk.untouched (h : SlOk d σ x z s) (hx : Untouched d.layout x x' z)
    (hissued : ∀ b, issued σ b ⊆ issued σ' b) (hcommitted : committed σ z ⊆ committed σ' z) :
    SlOk d σ' x' z s where
  status := fun c => (h.status c).congr hissued hcommitted (fun e _ => by rw [hx.entries])
    fun k hk A => hx.done k hk A c
  pending := fun k c => (h.pending k c).congr fun w => hx.pending k w c
  storage := by rw [hx.entries]; exact h.storage
  closed := h.closed
  events := fun ev hev => (h.events ev hev).mono hissued hcommitted
  proposals := fun p hp => (h.proposals p hp).mono hissued

/-- What a step does to one SL, where it concerns one cycle. -/
structure Touched (d : Deployment) (σ' : Cluster) (x x' : Gathering) (y : Peer) (c : UInt16)
    (s s' : ConnManager) : Prop where
  entries : ∀ e : Entry, e.cycle ≠ c → (e ∈ x'.committed y ↔ e ∈ x.committed y)
  token : ∀ k w A c', c' ≠ c → x'.token k w A c' = x.token k w A c'
  status : ∀ c' ≠ c, s'.mapRound3Status c' = s.mapRound3Status c'
  status_self : StatusAt d σ' x' y c (s'.mapRound3Status c)
  pending : ∀ k, ∀ c' ≠ c, s'.mapRound3PendingRequests k c' = s.mapRound3PendingRequests k c'
  pending_self : ∀ k, PendingOk x' y k c (s'.mapRound3PendingRequests k c)
  storage : s'.pStorage = (x'.committed y).filterMap (closedCycle d.conf.numBG)
  closed : closedOf s'.history = s'.pStorage
  events : ∀ ev ∈ s'.history, ev ∈ s.history ∨ EventOk d σ' y ev
  proposals : ∀ p ∈ s'.pLeaderRound2PendingPreprepareRaw,
    p ∈ s.pLeaderRound2PendingPreprepareRaw ∨ Proposal d σ' y.1 p

/-- What an SL waits for in another cycle is where it was. -/
theorem held_congr_cycle {L : Layout} {A : Nat} (h : ∀ w, token' k w A c = token k w A c) :
    held L token' k z A c = held L token k z A c := by
  unfold held
  split
  · exact h _
  · rfl

theorem SlOk.touched (h : SlOk d σ x y s) (ht : Touched d σ' x x' y c s s')
    (hissued : ∀ b, issued σ b ⊆ issued σ' b) (hcommitted : committed σ y ⊆ committed σ' y) :
    SlOk d σ' x' y s' := by
  refine ⟨fun c' => ?_, fun k c' => ?_, ht.storage, ht.closed, fun ev hev => ?_, fun p hp => ?_⟩
  · by_cases hc : c' = c
    · subst hc
      exact ht.status_self
    · rw [ht.status c' hc]
      refine (h.status c').congr hissued hcommitted (fun e he => ht.entries e (he ▸ hc)) ?_
      intro k _ A
      rw [held_congr_cycle fun w => ht.token k w A c' hc]
  · by_cases hc : c' = c
    · subst hc
      exact ht.pending_self k
    · rw [ht.pending k c' hc]
      exact (h.pending k c').congr fun w => by rw [ht.token k w _ c' hc]
  · rcases ht.events ev hev with hev | hev
    · exact (h.events ev hev).mono hissued hcommitted
    · exact hev
  · rcases ht.proposals p hp with hp | hp
    · exact (h.proposals p hp).mono hissued
    · exact hp

theorem SlOk.same (h : SlOk d σ x y s) (hs : SameRound3 s s') : SlOk d σ x y s' where
  status := hs.status ▸ h.status
  pending := hs.pending ▸ h.pending
  storage := hs.storage ▸ h.storage
  closed := hs.closedOf.trans (h.closed.trans hs.storage.symm)
  events := fun ev hev => by
    by_cases hround : ev.isRound2 = true
    · cases ev <;> trivial
    · refine h.events ev ?_
      have hmem : ev ∈ s'.history.filter (!·.isRound2) := by simpa [hround] using hev
      rw [hs.events] at hmem
      exact (List.mem_filter.mp hmem).1
  proposals := hs.queue ▸ h.proposals

/-! ## Steps that round 3 does not notice -/

/-- The logs and what the SLs have committed are the same; the gathering may have accepted more. -/
theorem Round3Inv.unnoticed (h : Round3Inv d σ token) (hs : Unnoticed d σ σ')
    (hrequests : ∀ z i key, countKey (requestFrom i) key (pool σ' z)
      = countKey (requestFrom i) key (pool σ z))
    (hinv : (gathering σ' token).Inv d.layout) : Round3Inv d σ' token := by
  have hsub : ∀ b, Cluster.issued σ b ⊆ Cluster.issued σ' b := by
    rw [hs.issued]
    exact fun _ _ hp => hp
  have hentries : entries σ' = entries σ := by
    unfold entries
    rw [hs.committed]
  have hcycles : ∀ b, clientCycles σ' b = clientCycles σ b := fun b => by
    unfold clientCycles
    rw [hs.issued]
  refine ⟨hinv, fun z => ?_, fun b p hp => ?_, fun b => ?_, fun z k w c => ?_, fun z k A c => ?_,
    fun z e he => ?_⟩
  · have hx : Untouched d.layout (gathering σ token) (gathering σ' token) z :=
      ⟨congrFun hentries z, fun _ _ _ _ => Iff.rfl, fun _ _ _ => Iff.rfl⟩
    refine ((h.sl z).untouched hx hsub ?_).same (hs.same z)
    rw [hs.committed]
    exact fun _ hp => hp
  · rw [hs.issued] at hp
    exact (h.issued b p hp).mono hsub
  · obtain ⟨hc, hnext, hrr⟩ := h.clients b
    refine ⟨?_, ?_, ?_⟩
    · rw [hcycles]
      exact hc
    · rw [hcycles, (hs.same (b, 0)).nextCycle]
      exact hnext
    · rw [hcycles, (hs.same (b, 0)).envoysRr]
      exact hrr
  · rw [hrequests]
    exact h.requests z k w c
  · rw [hs.responses]
    exact h.responses z k A c
  · rcases hs.good z e he with he | he
    · exact (h.good z e he).mono hsub
    · exact GoodMessage.of_main he

/-! ## What a message tells -/

/-- The token of a request that waits at an SL. -/
theorem Round3Inv.asked_of_mem (h : Round3Inv d σ token) (he : e ∈ pool σ y)
    (hkey : requestFrom z.2 e.pMessage = some (k, z.1, c)) : token k z y.1 c = .asked y.2 := by
  have hcount := h.requests y k z c
  have hpos : 0 < countKey (requestFrom z.2) (k, z.1, c) (pool σ y) :=
    Multiset.countP_pos.mpr ⟨e, he, hkey⟩
  by_contra hne
  rw [if_neg hne] at hcount
  omega

/-- The token of a response that waits at an SL. -/
theorem Round3Inv.answered_of_mem (h : Round3Inv d σ token) {A : Nat} (he : e ∈ pool σ y)
    (hkey : e.pMessage.responseKey = some (k, A, c)) :
    held d.layout token k y A c = .answered y.2 := by
  have hcount := h.responses y k A c
  have hpos : 0 < countKey Message.responseKey (k, A, c) (pool σ y) :=
    Multiset.countP_pos.mpr ⟨e, he, hkey⟩
  by_contra hne
  rw [if_neg hne] at hcount
  omega

/-! ## Installing an outcome -/

theorem accepted_install (z : Peer) : accepted (install y before o σ) z
    = if z = y then acceptedOf o.state.history else accepted σ z := by
  unfold accepted
  split
  · next h => rw [h, install_sl_self]
  · next h => rw [install_sl_of_ne h]

theorem accepted_install_of_eq (h : acceptedOf o.state.history = acceptedOf (σ y).sl.history) :
    accepted (install y before o σ) = accepted σ := by
  funext z
  rw [accepted_install]
  split
  · next hz =>
    rw [h, hz]
    rfl
  · rfl

/-- What the dispatcher does at `y` with an element of `y`'s pool, which it does not juggle. -/
structure Round3Step (d : Deployment) (σ : Cluster) (y : Peer) (e : QueueElement) (before : Node)
    (s' : ConnManager) (token token' : FetchKind → Peer → Nat → UInt16 → Token) : Prop where
  juggleQueue : s'.juggleQueue = before.sl.juggleQueue
  issued : issuedOf s'.history = issuedOf before.sl.history
  nextCycle : s'.leaderRound2NextRcanopusCycle = before.sl.leaderRound2NextRcanopusCycle
  envoysRr : s'.leaderEnvoysRr = before.sl.leaderEnvoysRr
  requests : ∀ z k w c, (if token' k w z.1 c = .asked z.2 then 1 else 0)
      + (if z = y ∧ requestFrom w.2 e.pMessage = some (k, w.1, c) then 1 else 0)
    = (if token k w z.1 c = .asked z.2 then 1 else 0)
      + countKey (requestFrom w.2) (k, w.1, c) (sent y s'.sendQueue z)
  responses : ∀ z k A c, (if held d.layout token' k z A c = .answered z.2 then 1 else 0)
      + (if z = y ∧ e.pMessage.responseKey = some (k, A, c) then 1 else 0)
    = (if held d.layout token k z A c = .answered z.2 then 1 else 0)
      + countKey Message.responseKey (k, A, c) (sent y s'.sendQueue z)
  good : ∀ z, ∀ e' ∈ sent y s'.sendQueue z, GoodMessage d σ z e'.pMessage

section Install

variable (hd : Dispatch d σ σ' y e ω before)

include hd

/-- The SL as the element is taken. -/
theorem SlOk.taken (h : SlOk d σ x y (σ y).sl) : SlOk d σ x y before.sl := by
  rw [hd.sl_eq]
  exact ⟨h.status, h.pending, h.storage, h.closed, h.events, h.proposals⟩

theorem Round3Step.issued_eq (hstep : Round3Step d σ y e before o.state token token') :
    Cluster.issued (install y before o σ) = Cluster.issued σ := by
  refine issued_install_of_eq ?_
  rw [hstep.issued, hd.sl_eq]

theorem Round3Inv.installed (h : Round3Inv d σ token)
    (hstep : Round3Step d σ y e before o.state token token')
    (hinv : (gathering (install y before o σ) token').Inv d.layout)
    (hself : SlOk d (install y before o σ) (gathering (install y before o σ) token') y o.state)
    (hothers : ∀ z, z ≠ y → Untouched d.layout (gathering σ token)
      (gathering (install y before o σ) token') z) :
    Round3Inv d (install y before o σ) token' := by
  have hissued := hstep.issued_eq hd
  have hsub : ∀ b, Cluster.issued σ b ⊆ Cluster.issued (install y before o σ) b := by
    rw [hissued]
    exact fun b p hp => hp
  refine ⟨hinv, fun z => ?_, fun b p hp => ?_, fun b => ?_, fun z k w c => ?_, fun z k A c => ?_,
    fun z e' he' => ?_⟩
  · by_cases hz : z = y
    · subst hz
      rw [install_sl_self]
      exact ⟨hself.status, hself.pending, hself.storage, hself.closed, hself.events,
        hself.proposals⟩
    · rw [install_sl_of_ne hz]
      refine (h.sl z).untouched (hothers z hz) hsub ?_
      rw [committed_install, if_neg hz]
      exact fun p hp => hp
  · rw [hissued] at hp
    exact (h.issued b p hp).mono hsub
  · have hclients := h.clients b
    have heq : clientCycles (install y before o σ) b = clientCycles σ b := by
      unfold clientCycles
      rw [hissued]
    refine ⟨heq ▸ hclients.cycles, ?_, ?_⟩
    · rw [heq, ← hclients.nextCycle]
      by_cases hb : (b, 0) = y
      · rw [hb, install_sl_self]
        exact hstep.nextCycle.trans (by rw [hd.sl_eq])
      · rw [install_sl_of_ne hb]
    · rw [heq, ← hclients.envoysRr]
      by_cases hb : (b, 0) = y
      · rw [hb, install_sl_self]
        exact hstep.envoysRr.trans (by rw [hd.sl_eq])
      · rw [install_sl_of_ne hb]
  · have hcount := countKey_install (z := z) (requestFrom w.2) (k, w.1, c) hd.taken
      hstep.juggleQueue
    have hold := h.requests z k w c
    have hnew := hstep.requests z k w c
    omega
  · have hcount := countKey_install (z := z) Message.responseKey (k, A, c) hd.taken
      hstep.juggleQueue
    have hold := h.responses z k A c
    have hnew := hstep.responses z k A c
    omega
  · have hcases : e' ∈ pool σ z ∨ e' ∈ sent y o.state.sendQueue z := by
      by_cases hz : z = y
      · subst hz
        rw [pool_install_self, hstep.juggleQueue] at he'
        rcases Multiset.mem_add.mp he' with he' | he'
        · rw [hd.taken]
          exact Or.inl (Multiset.mem_cons_of_mem he')
        · exact Or.inr he'
      · rw [pool_install_of_ne hz] at he'
        exact Multiset.mem_add.mp he'
    rcases hcases with he' | he'
    · exact (h.good z e' he').mono hsub
    · exact (hstep.good z e' he').mono hsub

/-! ### What the element tells -/

theorem taken_mem : e ∈ pool σ y := by
  rw [hd.taken]
  exact Multiset.mem_cons_self _ _

/-- The token of a request that is dispatched. -/
theorem Round3Inv.asked_of_request (h : Round3Inv d σ token)
    (hkey : requestFrom z.2 e.pMessage = some (k, z.1, c)) : token k z y.1 c = .asked y.2 :=
  h.asked_of_mem (taken_mem hd) hkey

/-- The token of a response that is dispatched. -/
theorem Round3Inv.answered_of_response (h : Round3Inv d σ token) {A : Nat}
    (hkey : e.pMessage.responseKey = some (k, A, c)) :
    held d.layout token k y A c = .answered y.2 :=
  h.answered_of_mem (taken_mem hd) hkey

theorem Round3Inv.good_of_dispatch (h : Round3Inv d σ token) : GoodMessage d σ y e.pMessage :=
  h.good y e (taken_mem hd)

end Install

end RCanopus.Hybrid
