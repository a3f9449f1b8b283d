import RCanopus.Round3Inv

/-!
# What a step leaves alone in round 3

A dispatch changes one SL, and there one cycle. The facts about the other cycles of this SL and
about the other SLs stay, because what they say about the logs only grows.
-/

namespace RCanopus

open Cluster

variable {d : Deployment} {σ σ' : Cluster} {x x' : Exchange} {b : Nat} {c c' : UInt16}
  {y z : Peer} {k : FetchKind} {e e' : QueueElement} {ω : Choice} {before : Node} {o : Outcome}
  {s s' : ConnManager} {token token' : FetchKind → Nat → Nat → UInt16 → Token}

/-! ## Counting messages -/

section Count

variable {f : Message → Option (FetchKind × Nat × UInt16)} {key : FetchKind × Nat × UInt16}

theorem countKey_add (l l' : Multiset QueueElement) :
    countKey f key (l + l') = countKey f key l + countKey f key l' := Multiset.countP_add ..

theorem countKey_cons (l : Multiset QueueElement) :
    countKey f key (e ::ₘ l)
      = countKey f key l + if f e.pMessage = some key then 1 else 0 := Multiset.countP_cons ..

theorem countKey_eq_zero {l : Multiset QueueElement} (h : ∀ e ∈ l, f e.pMessage ≠ some key) :
    countKey f key l = 0 := Multiset.countP_eq_zero.mpr h

theorem length_deliveries (hnone : none ∉ e.upPeers) :
    (deliveries y e z).length = e.upPeers.count (some z) := by
  unfold deliveries
  rw [if_neg fun h => hnone h.2, List.nil_append, List.length_map, List.count_eq_length_filter]
  exact congrArg List.length (List.filter_congr fun p _ => Bool.eq_iff_iff.mpr (by simp))

/-- An element arrives once for each time that it names the recipient. -/
theorem countKey_sent_singleton (hf : ∀ m, f m.copy = f m) (hnone : none ∉ e.upPeers) :
    countKey f key (sent y [e] z)
      = if f e.pMessage = some key then e.upPeers.count (some z) else 0 := by
  have hcopy : ∀ e' ∈ sent y [e] z, f e'.pMessage = f e.pMessage := by
    intro e' he'
    rw [sent_singleton, Multiset.mem_coe] at he'
    rw [(mem_deliveries he').1, hf]
  split
  · next h =>
    rw [countKey, Multiset.countP_eq_card.mpr fun e' he' => (hcopy e' he').trans h,
      sent_singleton, Multiset.coe_card, length_deliveries hnone]
  · next h => exact countKey_eq_zero fun e' he' => by rw [hcopy e' he']; exact h

/-- Elements of round 2 carry no keys. -/
theorem countKey_sent_round2 {l : List QueueElement} (hf : ∀ m, f m.copy = f m)
    (hl : ∀ e ∈ l, f e.pMessage = none) : countKey f key (sent y l z) = 0 := by
  refine countKey_eq_zero fun e' he' => ?_
  unfold sent at he'
  obtain ⟨e, he, hd⟩ := List.mem_flatMap.mp (Multiset.mem_coe.mp he')
  rw [(mem_deliveries hd).1, hf, hl e he]
  simp

/-- What a step that does not juggle does to the counts. -/
theorem countKey_install (f : Message → Option (FetchKind × Nat × UInt16))
    (key : FetchKind × Nat × UInt16)
    (htaken : pool σ y = e ::ₘ (↑before.inbox + ↑before.sl.juggleQueue))
    (hjuggle : o.state.juggleQueue = before.sl.juggleQueue) :
    countKey f key (pool (install y before o σ) z)
        + (if z = y ∧ f e.pMessage = some key then 1 else 0)
      = countKey f key (pool σ z) + countKey f key (sent y o.state.sendQueue z) := by
  by_cases hz : z = y
  · subst hz
    rw [pool_install_self, htaken, countKey_cons, countKey_add, hjuggle]
    simp only [true_and]
    omega
  · rw [pool_install_of_ne hz, countKey_add]
    simp [hz]

end Count

/-! ## Growing logs -/

theorem Numbered.trans {p q r : MessageRound2Preprepare} (h : Numbered p q) (h' : Numbered q r) :
    Numbered p r := by
  unfold Numbered at *
  rw [← h', ← h]

theorem Proposal.mono {p : MessageRound2Preprepare} (h : Proposal d σ b p)
    (hissued : ∀ b, issued σ b ⊆ issued σ' b) : Proposal d σ' b p := by
  refine { h with fetched := fun ht => ?_ }
  obtain ⟨q, hq, hcycle, hwraps⟩ := h.fetched ht
  exact ⟨q, hissued _ hq, hcycle, hwraps⟩

/-- The common parts are filled in later. -/
theorem Proposal.numbered {p q : MessageRound2Preprepare} (h : Proposal d σ b p)
    (hq : Numbered p q) : Proposal d σ b q := by
  have heq := hq
  unfold Numbered at heq
  have htype : q.requestType = p.requestType := by rw [← heq]
  have hcycle : q.cycle = p.cycle := by rw [← heq]
  have hbg : q.bGid = p.bGid := by rw [← heq]
  refine ⟨?_, ?_, fun ht => ?_, fun ht => ?_, fun ht => ?_, fun ht => ?_, fun ht => ?_,
    fun ht => hq.covers (h.news (htype ▸ ht)), fun ht => ?_⟩
  · rw [hq.header]
    exact h.version
  · rw [htype]
    exact h.known
  · rw [← heq]
    exact h.participants (htype ▸ ht)
  · rw [hbg]
    exact h.home (htype ▸ ht)
  · obtain ⟨hn, hc⟩ := h.client (htype ▸ ht)
    rw [hcycle]
    exact ⟨hn.trans hq, hc⟩
  · obtain ⟨r, hr, hentry, hwraps⟩ := h.fetched (htype ▸ ht)
    rw [hbg, hcycle]
    exact ⟨r, hr, hentry, hwraps.numbered hq⟩
  · exact (h.full (htype ▸ ht)).numbered hq
  · rw [hq.header]
    exact h.connectivity (htype ▸ ht)

/-- No copy of what a leader issues is cut inside the fixed fields. -/
theorem Proposal.covers {p : MessageRound2Preprepare} (h : Proposal d σ b p) (hfits : d.conf.Fits)
    (hb : 0 < d.conf.numSL b) : p.Covers := by
  by_cases ht : p.requestType = requestTypeFromClient
  · exact (h.client ht).1.covers (covers_clientProposal hfits hb)
  · exact h.news ht

theorem GoodMessage.mono {m : Message} (h : GoodMessage d σ y m)
    (hissued : ∀ b, issued σ b ⊆ issued σ' b) : GoodMessage d σ' y m := by
  cases m with
  | round3FetchResponse m =>
    obtain ⟨hversion, q, hq, hcycle, hcarries⟩ := h
    exact ⟨hversion, q, hissued _ hq, hcycle, hcarries⟩
  | _ => exact h

theorem EventOk.mono {ev : Event} (h : EventOk d σ y ev)
    (hissued : ∀ b, issued σ b ⊆ issued σ' b) (hcommitted : committed σ y ⊆ committed σ' y) :
    EventOk d σ' y ev := by
  cases ev with
  | answered k c r m =>
    obtain ⟨p, hp, hentry, hm⟩ := h
    exact ⟨p, hcommitted hp, hentry, hm⟩
  | round3Committed c status =>
    obtain ⟨hclosed, hslots⟩ := h
    refine ⟨List.map_subset _ hcommitted hclosed, fun A hA => ?_⟩
    obtain ⟨r, hr, q, hq, hcycle, hbytes⟩ := hslots A hA
    exact ⟨r, hr, q, hissued A hq, hcycle, hbytes⟩
  | _ => exact h

/-- What was copied is still good, because the headers count what is there. -/
theorem GoodMessage.copy {m : Message} (h : GoodMessage d σ y m) : GoodMessage d σ y m.copy := by
  cases m with
  | round3FetchResponse m =>
    obtain ⟨hversion, q, hq, hentry, hcarries⟩ := h
    refine ⟨hversion, q, hq, hentry, ?_⟩
    rw [hcarries.copy]
    exact hcarries
  | round3MembershipResponse m =>
    obtain ⟨hversion, hones⟩ := h
    refine ⟨hversion, ?_⟩
    rw [hones.framed.copy_eq]
    exact hones
  | _ => exact h

/-- The status of a cycle depends on the entries and the tokens of this cycle. -/
theorem StatusOk.congr {status : CycleStatus} (h : StatusOk d σ x y c status)
    (hissued : ∀ b, issued σ b ⊆ issued σ' b) (hcommitted : committed σ y ⊆ committed σ' y)
    (hentries : ∀ e : Entry, e.cycle = c → (e ∈ x'.committed y ↔ e ∈ x.committed y))
    (htoken : y.2 = 0 → ∀ k, k ≠ .result → ∀ A,
      (x'.token k y.1 A c = .done ↔ x.token k y.1 A c = .done)) :
    StatusOk d σ' x' y c status := by
  have hcloser : (closer d.conf.numBG c).cycle = c := by
    unfold closer
    split <;> rfl
  have hall : d.layout.AllOthers y.1 (fun A => .fetched c A ∈ x'.committed y)
      ↔ d.layout.AllOthers y.1 (fun A => .fetched c A ∈ x.committed y) :=
    Layout.AllOthers.congr fun A => hentries (.fetched c A) rfl
  refine {
    client := (hentries _ rfl).mpr h.client
    still := fun hc => h.still ((hentries _ hcloser).mp hc)
    ready := fun k hk => ?_
    missing := fun k hk => h.missing k fun hc => hk ((hentries _ (k.cycle_trigger c)).mpr hc)
    results := fun A hA => (h.results A hA).trans (hentries _ rfl).symm
    carries := fun A r hr => ?_
    unwrapped := fun A hA r hr => ?_
    connectivity := fun A hA => (h.connectivity A hA).trans
      (and_congr_right fun hy => (htoken hy _ (by simp) A).symm)
    membership := fun A hA => (h.membership A hA).trans
      (and_congr_right fun hy => (htoken hy _ (by simp) A).symm)
    ones := h.ones
    collecting := fun hc => h.collecting fun h' => hc (hall.mpr h')
    collected := fun h' hc => h.collected (hall.mp h') fun hl => hc ((hentries _ rfl).mpr hl)
    connecting := fun hl hc => h.connecting ((hentries _ rfl).mp hl)
      fun hm => hc ((hentries _ rfl).mpr hm)
    joining := fun hm => h.joining ((hentries _ rfl).mp hm) }
  · obtain ⟨p, hp, hentry, hanswer⟩ := h.ready k ((hentries _ (k.cycle_trigger c)).mp hk)
    exact ⟨p, hcommitted hp, hentry, hanswer⟩
  · obtain ⟨q, hq, hcycle, hbytes⟩ := h.carries A r hr
    exact ⟨q, hissued A hq, hcycle, hbytes⟩
  · obtain ⟨p, hp, hentry, hunwrap⟩ := h.unwrapped A hA r hr
    exact ⟨p, hcommitted hp, hentry, hunwrap⟩

theorem StatusAt.congr {status : Option CycleStatus} (h : StatusAt d σ x y c status)
    (hissued : ∀ b, issued σ b ⊆ issued σ' b) (hcommitted : committed σ y ⊆ committed σ' y)
    (hentries : ∀ e : Entry, e.cycle = c → (e ∈ x'.committed y ↔ e ∈ x.committed y))
    (htoken : y.2 = 0 → ∀ k, k ≠ .result → ∀ A,
      (x'.token k y.1 A c = .done ↔ x.token k y.1 A c = .done)) :
    StatusAt d σ' x' y c status := by
  cases status with
  | none =>
    have hcloser : (closer d.conf.numBG c).cycle = c := by
      unfold closer
      split <;> rfl
    rcases h with h | h
    · exact Or.inl fun hc => h ((hentries _ rfl).mp hc)
    · exact Or.inr ((hentries _ hcloser).mpr h)
  | some status => exact StatusOk.congr h hissued hcommitted hentries htoken

theorem PendingOk.congr {requests : Option (List (UInt16 × UInt16))}
    (h : PendingOk d x y k c requests)
    (htoken : ∀ b, x'.token k b y.1 c = .pending y.2 ↔ x.token k b y.1 c = .pending y.2) :
    PendingOk d x' y k c requests := by
  refine ⟨h.nodup, fun z => ?_⟩
  rw [h.mem, htoken]

/-! ## One SL -/

/-- What a step does not change at the other SLs. -/
structure Untouched (x x' : Exchange) (z : Peer) : Prop where
  entries : x'.committed z = x.committed z
  done : z.2 = 0 → ∀ k, k ≠ .result → ∀ A c,
    (x'.token k z.1 A c = .done ↔ x.token k z.1 A c = .done)
  pending : ∀ k b c, x'.token k b z.1 c = .pending z.2 ↔ x.token k b z.1 c = .pending z.2

theorem SlOk.untouched (h : SlOk d σ x z s) (hx : Untouched x x' z)
    (hissued : ∀ b, issued σ b ⊆ issued σ' b) (hcommitted : committed σ z ⊆ committed σ' z) :
    SlOk d σ' x' z s where
  status := fun c => (h.status c).congr hissued hcommitted (fun e _ => by rw [hx.entries])
    fun hz k hk A => hx.done hz k hk A c
  pending := fun k c => (h.pending k c).congr fun b => hx.pending k b c
  storage := by rw [hx.entries]; exact h.storage
  closed := h.closed
  events := fun ev hev => (h.events ev hev).mono hissued hcommitted
  proposals := fun p hp => (h.proposals p hp).mono hissued

/-- What a step does to one SL, where it concerns one cycle. -/
structure Touched (d : Deployment) (σ' : Cluster) (x x' : Exchange) (y : Peer) (c : UInt16)
    (s s' : ConnManager) : Prop where
  entries : ∀ e : Entry, e.cycle ≠ c → (e ∈ x'.committed y ↔ e ∈ x.committed y)
  token : ∀ k b A c', c' ≠ c → x'.token k b A c' = x.token k b A c'
  status : ∀ c' ≠ c, s'.mapRound3Status c' = s.mapRound3Status c'
  status_self : StatusAt d σ' x' y c (s'.mapRound3Status c)
  pending : ∀ k, ∀ c' ≠ c, s'.mapRound3PendingRequests k c' = s.mapRound3PendingRequests k c'
  pending_self : ∀ k, PendingOk d x' y k c (s'.mapRound3PendingRequests k c)
  storage : s'.pStorage = (x'.committed y).filterMap (closedCycle d.conf.numBG)
  closed : closedOf s'.history = s'.pStorage
  events : ∀ ev ∈ s'.history, ev ∈ s.history ∨ EventOk d σ' y ev
  proposals : ∀ p ∈ s'.pLeaderRound2PendingPreprepareRaw,
    p ∈ s.pLeaderRound2PendingPreprepareRaw ∨ Proposal d σ' y.1 p

theorem SlOk.touched (h : SlOk d σ x y s) (ht : Touched d σ' x x' y c s s')
    (hissued : ∀ b, issued σ b ⊆ issued σ' b) (hcommitted : committed σ y ⊆ committed σ' y) :
    SlOk d σ' x' y s' := by
  refine ⟨fun c' => ?_, fun k c' => ?_, ht.storage, ht.closed, fun ev hev => ?_, fun p hp => ?_⟩
  · by_cases hc : c' = c
    · subst hc
      exact ht.status_self
    · rw [ht.status c' hc]
      refine (h.status c').congr hissued hcommitted (fun e he => ht.entries e (he ▸ hc)) ?_
      intro _ k _ A
      rw [ht.token k _ _ c' hc]
  · by_cases hc : c' = c
    · subst hc
      exact ht.pending_self k
    · rw [ht.pending k c' hc]
      exact (h.pending k c').congr fun b => by rw [ht.token k b _ c' hc]
  · rcases ht.events ev hev with hev | hev
    · exact (h.events ev hev).mono hissued hcommitted
    · exact hev
  · rcases ht.proposals p hp with hp | hp
    · exact (h.proposals p hp).mono hissued
    · exact hp

/-! ## Steps that round 3 does not notice -/

/-- Two states of an SL that are the same in round 3. -/
structure SameRound3 (s s' : ConnManager) : Prop where
  status : s'.mapRound3Status = s.mapRound3Status
  pending : s'.mapRound3PendingRequests = s.mapRound3PendingRequests
  storage : s'.pStorage = s.pStorage
  queue : s'.pLeaderRound2PendingPreprepareRaw = s.pLeaderRound2PendingPreprepareRaw
  nextCycle : s'.leaderRound2NextRcanopusCycle = s.leaderRound2NextRcanopusCycle
  envoysRr : s'.leaderEnvoysRr = s.leaderEnvoysRr
  events : s'.history.filter (!·.isRound2) = s.history.filter (!·.isRound2)

theorem SameRound3.refl (s : ConnManager) : SameRound3 s s := ⟨rfl, rfl, rfl, rfl, rfl, rfl, rfl⟩

theorem SameRound3.of_view (h : s'.round3View = s.round3View) : SameRound3 s s' := by
  injection h with h1 h2 h3 h4 h5 h6 h7 h8 h9
  exact ⟨h1, h2, h3, h4, h5, h6, h7⟩

theorem SameRound3.closedOf (h : SameRound3 s s') : closedOf s'.history = closedOf s.history := by
  have hfilter : ∀ events : List Event,
      RCanopus.closedOf (events.filter (!·.isRound2)) = RCanopus.closedOf events := by
    intro events
    unfold RCanopus.closedOf
    rw [List.filterMap_filter]
    refine List.filterMap_congr fun ev _ => ?_
    cases ev <;> rfl
  rw [← hfilter, h.events, hfilter]

theorem SlOk.same (h : SlOk d σ x y s) (hs : SameRound3 s s') : SlOk d σ x y s' where
  status := hs.status ▸ h.status
  pending := hs.pending ▸ h.pending
  storage := hs.storage ▸ h.storage
  closed := hs.closedOf.trans (h.closed.trans hs.storage.symm)
  events := fun ev hev => by
    by_cases hround : ev.isRound2 = true
    · cases ev <;> trivial
    · refine h.events ev ?_
      have hmem : ev ∈ s'.history.filter (!·.isRound2) := by simpa [hround] using hev
      rw [hs.events] at hmem
      exact (List.mem_filter.mp hmem).1
  proposals := hs.queue ▸ h.proposals

/-- A step of round 2 that commits nothing, or of a client. -/
structure Unnoticed (d : Deployment) (σ σ' : Cluster) : Prop where
  same : ∀ z, SameRound3 (σ z).sl (σ' z).sl
  issued : issued σ' = issued σ
  committed : committed σ' = committed σ
  requests : ∀ z key, countKey Message.requestKey key (pool σ' z)
    = countKey Message.requestKey key (pool σ z)
  responses : ∀ z key, countKey Message.responseKey key (pool σ' z)
    = countKey Message.responseKey key (pool σ z)
  good : ∀ z, ∀ e ∈ pool σ' z, e ∈ pool σ z ∨ GoodMessage d σ' z e.pMessage

theorem Round3Inv.unnoticed (h : Round3Inv d σ token) (hs : Unnoticed d σ σ') :
    Round3Inv d σ' token := by
  have hsub : ∀ b, Cluster.issued σ b ⊆ Cluster.issued σ' b := by
    rw [hs.issued]
    exact fun _ _ hp => hp
  have hexchange : exchange σ' token = exchange σ token := by
    unfold exchange entries
    rw [hs.issued, hs.committed]
    simp only [(hs.same _).queue]
  have hcycles : ∀ b, clientCycles σ' b = clientCycles σ b := fun b => by
    unfold clientCycles
    rw [hs.issued]
  refine ⟨?_, fun z => ?_, fun b p hp => ?_, fun b => ?_, fun z k b c => ?_, fun z k A c => ?_,
    fun z e he => ?_⟩
  · rw [hexchange]
    exact h.inv
  · rw [hexchange]
    refine ((h.sl z).untouched ⟨rfl, fun _ _ _ _ _ => Iff.rfl, fun _ _ _ => Iff.rfl⟩ hsub ?_).same
      (hs.same z)
    rw [hs.committed]
    exact fun _ hp => hp
  · rw [hs.issued] at hp
    exact (h.issued b p hp).mono hsub
  · obtain ⟨hc, hnext, hrr⟩ := h.clients b
    refine ⟨?_, ?_, ?_⟩
    · rw [hcycles]
      exact hc
    · rw [hcycles, (hs.same (b, 0)).nextCycle]
      exact hnext
    · rw [hcycles, (hs.same (b, 0)).envoysRr]
      exact hrr
  · rw [hs.requests]
    exact h.requests z k b c
  · rw [hs.responses]
    exact h.responses z k A c
  · rcases hs.good z e he with he | he
    · exact (h.good z e he).mono hsub
    · exact he

/-! ## Installing an outcome -/

theorem issued_install (b : Nat) : issued (install y before o σ) b
    = if (b, 0) = y then issuedOf o.state.history else issued σ b := by
  unfold issued
  split
  · next h => rw [h, install_sl_self]
  · next h => rw [install_sl_of_ne h]

theorem committed_install (z : Peer) : committed (install y before o σ) z
    = if z = y then committedOf o.state.history else committed σ z := by
  unfold committed
  split
  · next h => rw [h, install_sl_self]
  · next h => rw [install_sl_of_ne h]

theorem issued_install_of_eq (h : issuedOf o.state.history = issuedOf (σ y).sl.history) :
    issued (install y before o σ) = issued σ := by
  funext b
  rw [issued_install]
  split
  · next hb =>
    rw [h]
    unfold issued
    rw [hb]
  · rfl

/-- What the dispatcher does at `y` with an element of `y`'s pool, which it does not juggle. -/
structure Round3Step (d : Deployment) (σ : Cluster) (y : Peer) (e : QueueElement) (before : Node)
    (s' : ConnManager) (token token' : FetchKind → Nat → Nat → UInt16 → Token) : Prop where
  juggleQueue : s'.juggleQueue = before.sl.juggleQueue
  issued : issuedOf s'.history = issuedOf before.sl.history
  nextCycle : s'.leaderRound2NextRcanopusCycle = before.sl.leaderRound2NextRcanopusCycle
  envoysRr : s'.leaderEnvoysRr = before.sl.leaderEnvoysRr
  requests : ∀ z k b c, (if token' k b z.1 c = .asked z.2 then 1 else 0)
      + (if z = y ∧ e.pMessage.requestKey = some (k, b, c) then 1 else 0)
    = (if token k b z.1 c = .asked z.2 then 1 else 0)
      + countKey Message.requestKey (k, b, c) (sent y s'.sendQueue z)
  responses : ∀ z k A c, (if token' k z.1 A c = .answered z.2 then 1 else 0)
      + (if z = y ∧ e.pMessage.responseKey = some (k, A, c) then 1 else 0)
    = (if token k z.1 A c = .answered z.2 then 1 else 0)
      + countKey Message.responseKey (k, A, c) (sent y s'.sendQueue z)
  good : ∀ z, ∀ e' ∈ sent y s'.sendQueue z, GoodMessage d σ z e'.pMessage

section Install

variable (hd : Dispatch d σ σ' y e ω before)

include hd

/-- The SL as the element is taken. -/
theorem SlOk.taken (h : SlOk d σ x y (σ y).sl) : SlOk d σ x y before.sl := by
  rw [hd.sl_eq]
  exact ⟨h.status, h.pending, h.storage, h.closed, h.events, h.proposals⟩

theorem Round3Step.issued_eq (hstep : Round3Step d σ y e before o.state token token') :
    Cluster.issued (install y before o σ) = Cluster.issued σ := by
  refine issued_install_of_eq ?_
  rw [hstep.issued, hd.sl_eq]

theorem Round3Inv.installed (h : Round3Inv d σ token)
    (hstep : Round3Step d σ y e before o.state token token')
    (hinv : (exchange (install y before o σ) token').Inv d.layout)
    (hself : SlOk d (install y before o σ) (exchange (install y before o σ) token') y o.state)
    (hothers : ∀ z, z ≠ y →
      Untouched (exchange σ token) (exchange (install y before o σ) token') z) :
    Round3Inv d (install y before o σ) token' := by
  have hissued := hstep.issued_eq hd
  have hsub : ∀ b, Cluster.issued σ b ⊆ Cluster.issued (install y before o σ) b := by
    rw [hissued]
    exact fun b p hp => hp
  refine ⟨hinv, fun z => ?_, fun b p hp => ?_, fun b => ?_, fun z k b c => ?_, fun z k A c => ?_,
    fun z e' he' => ?_⟩
  · by_cases hz : z = y
    · subst hz
      rw [install_sl_self]
      exact ⟨hself.status, hself.pending, hself.storage, hself.closed, hself.events,
        hself.proposals⟩
    · rw [install_sl_of_ne hz]
      refine (h.sl z).untouched (hothers z hz) hsub ?_
      rw [committed_install, if_neg hz]
      exact fun p hp => hp
  · rw [hissued] at hp
    exact (h.issued b p hp).mono hsub
  · have hclients := h.clients b
    have heq : clientCycles (install y before o σ) b = clientCycles σ b := by
      unfold clientCycles
      rw [hissued]
    refine ⟨heq ▸ hclients.cycles, ?_, ?_⟩
    · rw [heq, ← hclients.nextCycle]
      by_cases hb : (b, 0) = y
      · rw [hb, install_sl_self]
        exact hstep.nextCycle.trans (by rw [hd.sl_eq])
      · rw [install_sl_of_ne hb]
    · rw [heq, ← hclients.envoysRr]
      by_cases hb : (b, 0) = y
      · rw [hb, install_sl_self]
        exact hstep.envoysRr.trans (by rw [hd.sl_eq])
      · rw [install_sl_of_ne hb]
  · have hcount := countKey_install (z := z) Message.requestKey (k, b, c) hd.taken
      hstep.juggleQueue
    have hold := h.requests z k b c
    have hnew := hstep.requests z k b c
    omega
  · have hcount := countKey_install (z := z) Message.responseKey (k, A, c) hd.taken
      hstep.juggleQueue
    have hold := h.responses z k A c
    have hnew := hstep.responses z k A c
    omega
  · have hcases : e' ∈ pool σ z ∨ e' ∈ sent y o.state.sendQueue z := by
      by_cases hz : z = y
      · subst hz
        rw [pool_install_self, hstep.juggleQueue] at he'
        rcases Multiset.mem_add.mp he' with he' | he'
        · rw [hd.taken]
          exact Or.inl (Multiset.mem_cons_of_mem he')
        · exact Or.inr he'
      · rw [pool_install_of_ne hz] at he'
        exact Multiset.mem_add.mp he'
    rcases hcases with he' | he'
    · exact (h.good z e' he').mono hsub
    · exact (hstep.good z e' he').mono hsub

/-! ### What the element tells -/

/-- The token of a request that is dispatched. -/
theorem Round3Inv.asked_of_request (h : Round3Inv d σ token)
    (hkey : e.pMessage.requestKey = some (k, b, c)) : token k b y.1 c = .asked y.2 := by
  have hcount := h.requests y k b c
  rw [hd.taken, countKey_cons, if_pos hkey] at hcount
  by_contra hne
  rw [if_neg hne] at hcount
  omega

/-- The token of a response that is dispatched. -/
theorem Round3Inv.answered_of_response (h : Round3Inv d σ token) {A : Nat}
    (hkey : e.pMessage.responseKey = some (k, A, c)) : token k y.1 A c = .answered y.2 := by
  have hcount := h.responses y k A c
  rw [hd.taken, countKey_cons, if_pos hkey] at hcount
  by_contra hne
  rw [if_neg hne] at hcount
  omega

theorem Round3Inv.good_of_dispatch (h : Round3Inv d σ token) : GoodMessage d σ y e.pMessage := by
  refine h.good y e ?_
  rw [hd.taken]
  exact Multiset.mem_cons_self _ _

end Install

end RCanopus
