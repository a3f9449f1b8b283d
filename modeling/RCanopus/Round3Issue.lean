import RCanopus.Round3Moves

/-!
# The leader starts a round

`startRound2IfPossible` is the end of most handlers of the leader. It moves one entry from the queue
to the log, or it adds the next client cycle to the log, and it keeps the invariant of round 3.
-/

namespace RCanopus

open Cluster

variable {d : Deployment} {σ : Cluster} {b : Nat} {y z : Peer} {ω : Choice} {before : Node}
  {s s' : ConnManager} {token : FetchKind → Nat → Nat → UInt16 → Token}

/-! ## What is issued -/

/-- The state after a Preprepare was issued. -/
def afterIssue (env : Env) (p : MessageRound2Preprepare) (s : ConnManager) : ConnManager :=
  { s with
    round2NextSeq := s.round2NextSeq + 1
    leaderCollectorRr := nextRoundRobin (env.conf.numSL env.conf.bGid) s.leaderCollectorRr
    sendQueue := s.sendQueue
      ++ [{ upPeers := broadcastPeers env.conf, pMessage := .round2Preprepare (commonParts s p) }]
    history := s.history ++ [.issued (commonParts s p)] }

theorem sendPreprepare_eq (env : Env) (p : MessageRound2Preprepare) :
    sendPreprepare env p s = .ok (afterIssue env p s) := rfl

theorem numbered_commonParts (p : MessageRound2Preprepare) : Numbered p (commonParts s p) := rfl

theorem mem_clientCycles {c : UInt16} :
    c ∈ clientCycles σ b ↔ .client c ∈ (issued σ b).map entryOf := by
  unfold clientCycles
  rw [List.mem_filterMap]
  constructor
  · rintro ⟨e, he, hc⟩
    cases e <;> simp [clientCycle] at hc
    subst hc
    exact he
  · exact fun h => ⟨_, h, rfl⟩

/-- The cycle that is issued next is new, as long as the sequence numbers last. -/
theorem ClientsOk.fresh (h : ClientsOk d σ b) (hshort : (clientCycles σ b).length + 1 < 2 ^ 16) :
    .client (UInt16.ofNat ((clientCycles σ b).length + 1)) ∉ (issued σ b).map entryOf := by
  rw [← mem_clientCycles, h.cycles, List.mem_map]
  rintro ⟨i, hi, heq⟩
  rw [List.length_map, List.length_range] at heq
  have hi : i < (clientCycles σ b).length := List.mem_range.mp hi
  have := congrArg UInt16.toNat heq
  rw [UInt16.toNat_ofNat', UInt16.toNat_ofNat', Nat.mod_eq_of_lt (by omega),
    Nat.mod_eq_of_lt hshort] at this
  omega

/-- Erasing one element of a list with different images. -/
theorem perm_eraseIdx {α β : Type} (f : α → β) {l : List α} {i : Nat} {a : α}
    (h : l[i]? = some a) : (f a :: (l.eraseIdx i).map f).Perm (l.map f) := by
  obtain ⟨hi, rfl⟩ := List.getElem?_eq_some_iff.mp h
  have hperm := (List.getElem_cons_eraseIdx_perm hi).map f
  rwa [List.map_cons] at hperm

/-! ## Issuing keeps the invariant -/

/-- The pools after one more element was sent. -/
theorem pool_install_append {el : QueueElement} (hjuggle : s'.juggleQueue = s.juggleQueue)
    (hsend : s'.sendQueue = s.sendQueue ++ [el]) (z : Peer) :
    pool (install y before (.ok s') σ) z
      = pool (install y before (.ok s) σ) z + sent y [el] z := by
  by_cases hz : z = y
  · subst hz
    rw [pool_install_self, pool_install_self, Outcome.state_ok, Outcome.state_ok, hjuggle, hsend,
      sent_append]
    simp only [add_assoc]
  · rw [pool_install_of_ne hz, pool_install_of_ne hz, Outcome.state_ok, Outcome.state_ok, hsend,
      sent_append, add_assoc]

/-- What issuing a Preprepare changes at the leader: the queue and the counters are left to it. -/
structure Issues (d : Deployment) (b : Nat) (p : MessageRound2Preprepare) (s s' : ConnManager) :
    Prop where
  status : s'.mapRound3Status = s.mapRound3Status
  pending : s'.mapRound3PendingRequests = s.mapRound3PendingRequests
  storage : s'.pStorage = s.pStorage
  history : s'.history = s.history ++ [.issued p]
  juggleQueue : s'.juggleQueue = s.juggleQueue
  sendQueue : s'.sendQueue = s.sendQueue
    ++ [{ upPeers := broadcastPeers (d.env (b, 0)).conf, pMessage := .round2Preprepare p }]
  queue : s'.pLeaderRound2PendingPreprepareRaw ⊆ s.pLeaderRound2PendingPreprepareRaw

section Issue

variable {p : MessageRound2Preprepare} (hs : Issues d b p s s')

include hs

theorem Issues.issuedOf : issuedOf s'.history = issuedOf s.history ++ [p] := by
  rw [hs.history, issuedOf_append]
  rfl

theorem Issues.issued (b' : Nat) : issued (install (b, 0) before (.ok s') σ) b'
    = issued (install (b, 0) before (.ok s) σ) b' ++ if b' = b then [p] else [] := by
  rw [issued_install, issued_install]
  by_cases hb : b' = b
  · subst hb
    rw [if_pos rfl, if_pos rfl, if_pos rfl]
    exact hs.issuedOf
  · rw [if_neg (by simpa using hb), if_neg (by simpa using hb), if_neg hb, List.append_nil]

theorem Issues.committed (z : Peer) : Cluster.committed (install (b, 0) before (.ok s') σ) z
    = Cluster.committed (install (b, 0) before (.ok s) σ) z := by
  rw [committed_install, committed_install]
  split
  · show committedOf s'.history = committedOf s.history
    rw [hs.history, committedOf_append]
    exact List.append_nil _
  · rfl

theorem Issues.exchange_eq : exchange (install (b, 0) before (.ok s') σ) token
    = (exchange (install (b, 0) before (.ok s) σ) token).issue b (entryOf p)
      (s'.pLeaderRound2PendingPreprepareRaw.map entryOf) := by
  unfold exchange Exchange.issue entries
  simp only [Exchange.mk.injEq, and_true]
  refine ⟨?_, ?_, ?_⟩
  · funext b'
    rw [hs.issued, Function.update_apply]
    split
    · next hb =>
      subst hb
      simp
    · simp
  · funext b'
    rw [Function.update_apply]
    split
    · next hb =>
      subst hb
      rw [install_sl_self]
      rfl
    · next hb =>
      have hne : (b', 0) ≠ ((b, 0) : Peer) := by simpa using hb
      rw [install_sl_of_ne hne, install_sl_of_ne hne]
  · funext z
    rw [hs.committed]

theorem Issues.issued_subset (b' : Nat) : Cluster.issued (install (b, 0) before (.ok s) σ) b'
    ⊆ Cluster.issued (install (b, 0) before (.ok s') σ) b' := by
  rw [hs.issued]
  exact List.subset_append_left _ _

/-- What the leaders have issued is good when the new Preprepare is. -/
theorem Issues.proposals
    (h : ∀ b', ∀ q ∈ Cluster.issued (install (b, 0) before (.ok s) σ) b',
      Proposal d (install (b, 0) before (.ok s) σ) b' q)
    (hp : Proposal d (install (b, 0) before (.ok s) σ) b p) (b' : Nat) :
    ∀ q ∈ Cluster.issued (install (b, 0) before (.ok s') σ) b',
      Proposal d (install (b, 0) before (.ok s') σ) b' q := by
  intro q hq
  rw [hs.issued] at hq
  rcases List.mem_append.mp hq with hold | hnew
  · exact (h b' q hold).mono hs.issued_subset
  · by_cases hb : b' = b
    · subst hb
      rw [if_pos rfl, List.mem_singleton] at hnew
      subst hnew
      exact hp.mono hs.issued_subset
    · rw [if_neg hb] at hnew
      exact absurd hnew List.not_mem_nil

/-- The other leaders have issued nothing. -/
theorem Issues.clients_other {b' : Nat} (hb : b' ≠ b)
    (h : ClientsOk d (install (b, 0) before (.ok s) σ) b') :
    ClientsOk d (install (b, 0) before (.ok s') σ) b' := by
  have hne : (b', 0) ≠ ((b, 0) : Peer) := by simpa using hb
  obtain ⟨hcycles, hnext, hrr⟩ := h
  have heq : clientCycles (install (b, 0) before (.ok s') σ) b'
      = clientCycles (install (b, 0) before (.ok s) σ) b' := by
    unfold clientCycles
    rw [hs.issued, if_neg hb, List.append_nil]
  rw [install_sl_of_ne hne] at hnext hrr
  refine ⟨?_, ?_, ?_⟩
  · rw [heq]
    exact hcycles
  · rw [heq, install_sl_of_ne hne]
    exact hnext
  · rw [heq, install_sl_of_ne hne]
    exact hrr

/-- A Preprepare is no message of round 3. -/
theorem Issues.countKey {f : Message → Option (FetchKind × Nat × UInt16)}
    (hcopy : ∀ m, f m.copy = f m) (hf : ∀ m, f (.round2Preprepare m) = none)
    (key : FetchKind × Nat × UInt16) (z : Peer) :
    countKey f key (pool (install (b, 0) before (.ok s') σ) z)
      = countKey f key (pool (install (b, 0) before (.ok s) σ) z) := by
  rw [pool_install_append hs.juggleQueue hs.sendQueue, countKey_add, countKey_sent_round2 hcopy,
    add_zero]
  intro e he
  rw [List.mem_singleton] at he
  rw [he]
  exact hf p

theorem Issues.mem_pool {e : QueueElement}
    (he : e ∈ pool (install (b, 0) before (.ok s') σ) z) :
    e ∈ pool (install (b, 0) before (.ok s) σ) z ∨ ∃ m, e.pMessage = .round2Preprepare m := by
  rw [pool_install_append hs.juggleQueue hs.sendQueue] at he
  rcases Multiset.mem_add.mp he with he | he
  · exact Or.inl he
  · rw [sent_singleton, Multiset.mem_coe] at he
    exact Or.inr ⟨p.copy, (mem_deliveries he).1⟩

/-- The own events are those from before. -/
theorem Issues.closedOf : RCanopus.closedOf s'.history = RCanopus.closedOf s.history := by
  rw [hs.history]
  unfold RCanopus.closedOf
  rw [List.filterMap_append]
  exact List.append_nil _

/-- The invariant after a Preprepare was issued. -/
theorem Round3Inv.issue (h : Round3Inv d (install (b, 0) before (.ok s) σ) token)
    (hp : Proposal d (install (b, 0) before (.ok s) σ) b p)
    (hinv : (exchange (install (b, 0) before (.ok s') σ) token).Inv d.layout)
    (hclients : ClientsOk d (install (b, 0) before (.ok s') σ) b) :
    Round3Inv d (install (b, 0) before (.ok s') σ) token := by
  have hcommitted : ∀ z, Cluster.committed (install (b, 0) before (.ok s) σ) z
      ⊆ Cluster.committed (install (b, 0) before (.ok s') σ) z := by
    intro z
    rw [hs.committed]
    exact fun q hq => hq
  have huntouched : ∀ z, Untouched (exchange (install (b, 0) before (.ok s) σ) token)
      (exchange (install (b, 0) before (.ok s') σ) token) z := by
    intro z
    refine ⟨?_, fun _ _ _ _ _ => Iff.rfl, fun _ _ _ => Iff.rfl⟩
    show (Cluster.committed _ z).map entryOf = (Cluster.committed _ z).map entryOf
    rw [hs.committed]
  refine ⟨hinv, fun z => ?_, hs.proposals h.issued hp, fun b' => ?_, fun z k b' c => ?_,
    fun z k A c => ?_, fun z e he => ?_⟩
  · by_cases hz : z = (b, 0)
    · subst hz
      have hsl := h.sl (b, 0)
      rw [install_sl_self] at hsl ⊢
      have hsl' := hsl.untouched (huntouched _) hs.issued_subset (hcommitted _)
      refine ⟨?_, ?_, ?_, ?_, ?_, ?_⟩
      · exact hs.status ▸ hsl'.status
      · exact hs.pending ▸ hsl'.pending
      · exact hs.storage ▸ hsl'.storage
      · exact hs.closedOf.trans (hsl'.closed.trans hs.storage.symm)
      · intro ev hev
        have hev : ev ∈ s'.history := hev
        rw [hs.history] at hev
        rcases List.mem_append.mp hev with hev | hev
        · exact hsl'.events ev hev
        · rw [List.mem_singleton] at hev
          subst hev
          trivial
      · exact fun q hq => hsl'.proposals q (hs.queue hq)
    · have hsl := h.sl z
      rw [install_sl_of_ne hz] at hsl ⊢
      exact hsl.untouched (huntouched z) hs.issued_subset (hcommitted z)
  · by_cases hb : b' = b
    · subst hb
      exact hclients
    · exact hs.clients_other hb (h.clients b')
  · rw [hs.countKey (by simp) fun _ => rfl]
    exact h.requests z k b' c
  · rw [hs.countKey (by simp) fun _ => rfl]
    exact h.responses z k A c
  · rcases hs.mem_pool he with he | ⟨m, hm⟩
    · exact (h.good z e he).mono hs.issued_subset
    · rw [hm]
      trivial

end Issue

/-! ## The two sources of Preprepares -/

/--
An SL is not stuck in a commit, and the queue of a leader is empty when nothing is under way in its
BG.
-/
structure Unstuck (y : Peer) (s : ConnManager) : Prop where
  running : ∀ status, s.pRound2CurrentStatus = some status → status.state ≠ .round2Committed
  idle : y.2 = 0 → s.pRound2CurrentStatus = none → s.pLeaderRound2PendingPreprepareRaw = []

theorem Unstuck.congr (h : Unstuck y s) (hstatus : s'.pRound2CurrentStatus = s.pRound2CurrentStatus)
    (hqueue : s'.pLeaderRound2PendingPreprepareRaw = s.pLeaderRound2PendingPreprepareRaw) :
    Unstuck y s' := by
  refine ⟨?_, ?_⟩
  · rw [hstatus]
    exact h.running
  · rw [hstatus, hqueue]
    exact h.idle

theorem unstuck_afterIssue {env : Env} {p : MessageRound2Preprepare}
    (h : s.pRound2CurrentStatus = some .waitingForPreprepare) : Unstuck y (afterIssue env p s) := by
  refine ⟨fun status hstatus => ?_, fun _ hnone => ?_⟩
  · have hstatus : s.pRound2CurrentStatus = some status := hstatus
    rw [h, Option.some.injEq] at hstatus
    subst hstatus
    exact CycleStatus.waitingForPreprepare_state_ne
  · have hnone : s.pRound2CurrentStatus = none := hnone
    rw [h] at hnone
    exact absurd hnone (by simp)

/-- An issued Preprepare comes from the queue of the leader or from the batches of the clients. -/
inductive IssuedFrom (σ : Cluster) (b : Nat) (p : MessageRound2Preprepare) (s s' : ConnManager) :
    Prop
  | queue (h : (entryOf p :: s'.pLeaderRound2PendingPreprepareRaw.map entryOf).Perm
      (s.pLeaderRound2PendingPreprepareRaw.map entryOf))
  | clients (c : UInt16) (hentry : entryOf p = .client c)
    (hfresh : .client c ∉ (issued σ b).map entryOf)
    (hqueue : s'.pLeaderRound2PendingPreprepareRaw = s.pLeaderRound2PendingPreprepareRaw)

/-- What the leader has queued and the client cycles it has issued are as they should be. -/
structure CanIssue (d : Deployment) (σ : Cluster) (b : Nat) (s : ConnManager) : Prop where
  clients : ClientsOk d σ b
  proposals : ∀ p ∈ s.pLeaderRound2PendingPreprepareRaw, Proposal d σ b p
  news : ∀ p ∈ s.pLeaderRound2PendingPreprepareRaw, ∀ c, entryOf p ≠ .client c

/-- How a round starts, if one does. -/
inductive RoundStart (d : Deployment) (σ : Cluster) (b : Nat) (before : Node) (s : ConnManager) :
    ConnManager → Prop
  | kept : RoundStart d σ b before s s
  | issued (p : MessageRound2Preprepare) (s' : ConnManager) (hs : Issues d b p s s')
    (hp : Proposal d (install (b, 0) before (.ok s) σ) b p)
    (hclients : ClientsOk d (install (b, 0) before (.ok s') σ) b)
    (hfrom : IssuedFrom (install (b, 0) before (.ok s) σ) b p s s') : RoundStart d σ b before s s'

section Start

variable (h : CanIssue d (install (b, 0) before (.ok s) σ) b s)

include h

/-- The top of the priority queue is issued. -/
theorem CanIssue.pending {p : MessageRound2Preprepare} {i : Nat}
    {status : Option CycleStatus} (hp : s.pLeaderRound2PendingPreprepareRaw[i]? = some p) :
    RoundStart d σ b before s (afterIssue (d.env (b, 0)) p
      { s with
        pRound2CurrentStatus := status
        pLeaderRound2PendingPreprepareRaw := s.pLeaderRound2PendingPreprepareRaw.eraseIdx i }) := by
  generalize hq : commonParts
    { s with
      pRound2CurrentStatus := status
      pLeaderRound2PendingPreprepareRaw := s.pLeaderRound2PendingPreprepareRaw.eraseIdx i } p = q
  have hnum : Numbered p q := hq ▸ numbered_commonParts p
  have hs : Issues d b q s (afterIssue (d.env (b, 0)) p
      { s with
        pRound2CurrentStatus := status
        pLeaderRound2PendingPreprepareRaw := s.pLeaderRound2PendingPreprepareRaw.eraseIdx i }) := by
    rw [← hq]
    exact ⟨rfl, rfl, rfl, rfl, rfl, rfl, List.eraseIdx_subset⟩
  have hmem : p ∈ s.pLeaderRound2PendingPreprepareRaw := List.mem_of_getElem? hp
  refine .issued q _ hs ((h.proposals p hmem).numbered hnum) ?_ (.queue ?_)
  · obtain ⟨hcycles, hnext, hrr⟩ := h.clients
    rw [install_sl_self] at hnext hrr
    have heq : clientCycles (install (b, 0) before (.ok (afterIssue (d.env (b, 0)) p
        { s with
          pRound2CurrentStatus := status
          pLeaderRound2PendingPreprepareRaw :=
            s.pLeaderRound2PendingPreprepareRaw.eraseIdx i })) σ) b
        = clientCycles (install (b, 0) before (.ok s) σ) b := by
      have hnone : clientCycle (entryOf q) = none := by
        rw [hnum.entryOf]
        cases hc : entryOf p with
        | client c => exact absurd hc (h.news p hmem c)
        | _ => rfl
      unfold clientCycles
      rw [hs.issued, if_pos rfl, List.map_append, List.filterMap_append, List.map_singleton,
        List.filterMap_cons, hnone]
      simp
    refine ⟨?_, ?_, ?_⟩
    · rw [heq]
      exact hcycles
    · rw [heq, install_sl_self]
      exact hnext
    · rw [heq, install_sl_self]
      exact hrr
  · rw [hnum.entryOf]
    exact perm_eraseIdx entryOf hp

/-- A client Preprepare is issued. -/
theorem CanIssue.client {status : Option CycleStatus} {processed : Nat}
    (hshort : (clientCycles (install (b, 0) before (.ok s) σ) b).length + 1 < 2 ^ 16) :
    RoundStart d σ b before s (afterIssue (d.env (b, 0))
      (clientPreprepare d.host (d.conf.ofSL b 0) s.leaderRound2NextRcanopusCycle s.leaderEnvoysRr)
      { s with
        pRound2CurrentStatus := status
        leaderRound2NextRcanopusCycle := s.leaderRound2NextRcanopusCycle + 1
        leaderBatchProcessed := processed
        leaderEnvoysRr := (envoyRoundRobin (d.conf.numSL b)
          (round3ParticipantsNum (d.conf.ofSL b 0)).toNat s.leaderEnvoysRr).2 }) := by
  obtain ⟨hcycles, hnext, hrr⟩ := h.clients
  rw [install_sl_self] at hnext hrr
  have hnext : s.leaderRound2NextRcanopusCycle = UInt16.ofNat
    ((clientCycles (install (b, 0) before (.ok s) σ) b).length + 1) := hnext
  have hrr : s.leaderEnvoysRr = envoysRrAt d.conf b
    (clientCycles (install (b, 0) before (.ok s) σ) b).length := hrr
  have hfresh := h.clients.fresh hshort
  generalize hk : (clientCycles (install (b, 0) before (.ok s) σ) b).length = k at *
  have hc : (UInt16.ofNat (k + 1)).toNat = k + 1 := by
    rw [UInt16.toNat_ofNat', Nat.mod_eq_of_lt hshort]
  have hproposal : clientPreprepare d.host (d.conf.ofSL b 0) s.leaderRound2NextRcanopusCycle
      s.leaderEnvoysRr = d.clientProposal b (UInt16.ofNat (k + 1)) := by
    unfold Deployment.clientProposal
    rw [hnext, hrr, hc, Nat.add_sub_cancel]
  rw [hproposal]
  set s₁ : ConnManager := { s with
    pRound2CurrentStatus := status
    leaderRound2NextRcanopusCycle := s.leaderRound2NextRcanopusCycle + 1
    leaderBatchProcessed := processed
    leaderEnvoysRr := (envoyRoundRobin (d.conf.numSL b)
      (round3ParticipantsNum (d.conf.ofSL b 0)).toNat s.leaderEnvoysRr).2 } with hs₁
  have hnum := numbered_commonParts (s := s₁) (d.clientProposal b (UInt16.ofNat (k + 1)))
  generalize hq : commonParts s₁ (d.clientProposal b (UInt16.ofNat (k + 1))) = q at hnum
  have hs : Issues d b q s
      (afterIssue (d.env (b, 0)) (d.clientProposal b (UInt16.ofNat (k + 1))) s₁) := by
    rw [← hq]
    exact ⟨rfl, rfl, rfl, rfl, rfl, rfl, List.Subset.refl _⟩
  have hentry : entryOf q = .client (UInt16.ofNat (k + 1)) := by
    rw [hnum.entryOf]
    rfl
  have hne : UInt16.ofNat (k + 1) ≠ 0 := by
    intro h0
    rw [h0] at hc
    exact absurd hc (by simp)
  refine .issued q _ hs ?_ ?_ (.clients _ hentry hfresh rfl)
  · refine Proposal.numbered (p := d.clientProposal b (UInt16.ofNat (k + 1))) ?_ hnum
    refine ⟨rfl, by simp [Deployment.clientProposal, clientPreprepare], fun ht => absurd rfl ht,
      fun _ => rfl,
      fun _ => ⟨rfl, hne⟩, fun ht => ?_, fun ht => ?_, fun ht => absurd rfl ht, fun ht => ?_⟩
    all_goals
      have hfrom : requestTypeFromClient = _ := ht
      exact absurd hfrom (by decide)
  · have heq : clientCycles (install (b, 0) before (.ok
        (afterIssue (d.env (b, 0)) (d.clientProposal b (UInt16.ofNat (k + 1))) s₁)) σ) b
        = clientCycles (install (b, 0) before (.ok s) σ) b ++ [UInt16.ofNat (k + 1)] := by
      unfold clientCycles
      rw [hs.issued, if_pos rfl, List.map_append, List.filterMap_append, List.map_singleton, hentry]
      rfl
    refine ⟨?_, ?_, ?_⟩
    · rw [heq, List.length_append, hk, List.length_singleton, List.range_succ, List.map_append,
        ← hcycles]
      rfl
    · rw [heq, install_sl_self, List.length_append, hk, List.length_singleton]
      show s.leaderRound2NextRcanopusCycle + 1 = _
      rw [hnext, UInt16.ofNat_add (k + 1) 1]
      rfl
    · rw [heq, install_sl_self, List.length_append, hk, List.length_singleton]
      show (envoyRoundRobin _ _ s.leaderEnvoysRr).2 = envoysRrAt d.conf b (k + 1)
      rw [hrr]
      rfl

/-- **Starting a round.** Afterwards the queue waits only while a round is running. -/
theorem CanIssue.start
    (hrunning : ∀ status, s.pRound2CurrentStatus = some status → status.state ≠ .round2Committed)
    (hshort : ∀ s', startRound2IfPossible (d.env (b, 0)) ω s = .ok s' →
      (Cluster.issued (install (b, 0) before (.ok s') σ) b).length < 2 ^ 16) :
    ∃ s', startRound2IfPossible (d.env (b, 0)) ω s = .ok s'
      ∧ RoundStart d σ b before s s' ∧ Unstuck (b, 0) s' := by
  have hleader : (d.env (b, 0)).conf.sLid = 0 := rfl
  cases hstatus : s.pRound2CurrentStatus with
  | some status =>
    refine ⟨s, startRound2IfPossible_running hleader hstatus, .kept, hrunning, fun _ hnone => ?_⟩
    rw [hstatus] at hnone
    exact absurd hnone (by simp)
  | none =>
    by_cases hqueue : s.pLeaderRound2PendingPreprepareRaw = []
    · cases hvalue : canStartRound2Value (d.env (b, 0)) s with
      | false =>
        exact ⟨s, startRound2IfPossible_idle hleader hvalue, .kept, hrunning, fun _ _ => hqueue⟩
      | true =>
        have hstart := startRound2IfPossible_client (ω := ω) hleader hstatus hqueue hvalue
        unfold sendClientPreprepare at hstart
        rw [sendPreprepare_eq] at hstart
        refine ⟨_, hstart, h.client ?_, unstuck_afterIssue rfl⟩
        have hlt := hshort _ hstart
        have hlen : (clientCycles (install (b, 0) before (.ok s) σ) b).length
            ≤ (Cluster.issued (install (b, 0) before (.ok s) σ) b).length := by
          unfold clientCycles
          refine (List.length_filterMap_le _ _).trans ?_
          rw [List.length_map]
        have hissued : (issuedOf s.history).length + 1 < 2 ^ 16 := by
          rw [issued_install, if_pos rfl] at hlt
          simpa [afterIssue, issuedOf] using hlt
        rw [issued_install, if_pos rfl] at hlen
        have hlen : _ ≤ (issuedOf s.history).length := hlen
        omega
    · obtain ⟨p, hp, hstart⟩ := startRound2IfPossible_pending (ω := ω) hleader hstatus hqueue
        fun p hp => (h.proposals p hp).participants fun ht =>
          h.news p hp p.cycle (entryOf_client.mpr ⟨ht, rfl⟩)
      rw [sendPreprepare_eq] at hstart
      exact ⟨_, hstart, h.pending hp, unstuck_afterIssue rfl⟩

end Start

section Round

variable (h : Round3Inv d (install (b, 0) before (.ok s) σ) token)

include h

/-- The queue of the leader in the exchange. -/
theorem Round3Inv.canIssue : CanIssue d (install (b, 0) before (.ok s) σ) b s := by
  have hsl := h.sl (b, 0)
  rw [install_sl_self] at hsl
  refine ⟨h.clients b, hsl.proposals, fun p hp => ?_⟩
  refine (h.inv.queued b (entryOf p) ?_).1
  show _ ∈ (install (b, 0) before (.ok s) σ (b, 0)).sl.pLeaderRound2PendingPreprepareRaw.map entryOf
  rw [install_sl_self]
  exact List.mem_map_of_mem hp

/--
**Starting a round** keeps the invariant, and afterwards the queue waits only while a round is
running.
-/
theorem Round3Inv.start_round
    (hrunning : ∀ status, s.pRound2CurrentStatus = some status → status.state ≠ .round2Committed)
    (hshort : ∀ s', startRound2IfPossible (d.env (b, 0)) ω s = .ok s' →
      (Cluster.issued (install (b, 0) before (.ok s') σ) b).length < 2 ^ 16) :
    ∃ s', startRound2IfPossible (d.env (b, 0)) ω s = .ok s'
      ∧ Round3Inv d (install (b, 0) before (.ok s') σ) token ∧ Unstuck (b, 0) s' := by
  obtain ⟨s', ho, hstarted, hunstuck⟩ := h.canIssue.start (ω := ω) hrunning hshort
  refine ⟨s', ho, ?_, hunstuck⟩
  have hqueue : (exchange (install (b, 0) before (.ok s) σ) token).queue b
      = s.pLeaderRound2PendingPreprepareRaw.map entryOf := by
    show ((install (b, 0) before (.ok s) σ (b, 0)).sl.pLeaderRound2PendingPreprepareRaw).map _ = _
    rw [install_sl_self]
    rfl
  cases hstarted with
  | kept => exact h
  | issued p s' hs hp hclients hfrom =>
    refine h.issue hs hp ?_ hclients
    rw [hs.exchange_eq]
    cases hfrom with
    | queue hperm => exact h.inv.issue_queued (hqueue ▸ hperm)
    | clients c hentry hfresh hsame =>
      rw [hentry, hsame, ← hqueue]
      exact h.inv.issue_client hfresh

end Round

/-! ## Dispatches that end in this way -/

/--
How the dispatcher ends: it returns, or it finds that the own client Preprepare names no envoy, as
a configuration with more failures than SLs makes it.
-/
inductive Ends (d : Deployment) (y : Peer) : Outcome → Prop
  | returns (s : ConnManager) (h : Unstuck y s) : Ends d y (.ok s)
  | noEnvoy (s : ConnManager) (c : UInt16) (h : d.layout.envoy y.1 c = none) :
    Ends d y (.thrown .noEnvoySelected s)

/-- The dispatcher keeps the invariant, for some tokens. -/
structure Keeps3 (d : Deployment) (σ : Cluster) (y : Peer) (before : Node) (o : Outcome) :
    Prop where
  ends : Ends d y o
  inv : ∃ token', Round3Inv d (install y before o σ) token'

theorem Round3Inv.started {σ' : Cluster} {e : QueueElement}
    (h : Round3Inv d (install (b, 0) before (.ok s) σ) token)
    (hd : Dispatch d σ σ' (b, 0) e ω before) (h2 : Round2Ok d σ')
    (hout : dispatcherRound2 (d.env (b, 0)) ω e before.sl
      = startRound2IfPossible (d.env (b, 0)) ω s)
    (hrunning : ∀ status, s.pRound2CurrentStatus = some status → status.state ≠ .round2Committed) :
    Keeps3 d σ (b, 0) before (startRound2IfPossible (d.env (b, 0)) ω s) := by
  obtain ⟨s', ho, hinv, hunstuck⟩ := h.start_round (ω := ω) hrunning fun s' ho => by
    obtain ⟨a, log, hlog⟩ := h2 b hd.has.2
    have hle := length_le hlog.toLogOk hd.has.2
    rw [← issued_eq hlog hd.has.2, hd.result, hout, ho] at hle
    omega
  rw [ho]
  exact ⟨.returns s' hunstuck, token, hinv⟩

end RCanopus
