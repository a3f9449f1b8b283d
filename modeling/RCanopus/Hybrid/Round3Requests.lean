import RCanopus.Hybrid.Round3Issue

/-!
# Requests in the hybrid variant

The dispatcher handles a request as in `ConnManager.cpp`: it answers, it lets the request wait for
the own BG, or it juggles it. The answer goes back to the SL that asked.
-/

namespace RCanopus.Hybrid

open Cluster Gathering

variable {d : Deployment} {σ σ' : Cluster} {c : UInt16} {y z w : Peer} {k : FetchKind}
  {e : QueueElement} {ω : Choice} {before : Node} {o : Outcome} {s : ConnManager}
  {token token' : FetchKind → Peer → Nat → UInt16 → Token} {r : UInt16 × UInt16} {m : Message}

/-! ## Steps that round 3 does not notice -/

theorem requestFrom_round2 {i : Nat} (m : Message) (h : m.isRound2 = true) :
    requestFrom i m = none := requestFrom_eq_none (Message.requestKey_round2 h)

/-- What was not committed, issued, queued or accepted is not in the gathering. -/
theorem gathering_unnoticed (hs : Unnoticed d σ σ') (haccepted : accepted σ' = accepted σ) :
    gathering σ' token = gathering σ token := by
  unfold gathering entries
  rw [hs.issued, hs.committed, haccepted]
  simp only [(hs.same _).queue]

theorem Round3Inv.same (h : Round3Inv d σ token) (hs : Unnoticed d σ σ')
    (haccepted : accepted σ' = accepted σ)
    (hrequests : ∀ z i key, countKey (requestFrom i) key (pool σ' z)
      = countKey (requestFrom i) key (pool σ z)) : Round3Inv d σ' token :=
  h.unnoticed hs hrequests (gathering_unnoticed hs haccepted ▸ h.inv)

/-- The messages of round 3 stay where they are. -/
theorem requests_of_pool (hpool : ∀ z, notRound2 (pool σ' z) = notRound2 (pool σ z)) (z : Peer)
    (i : Nat) (key : FetchKind × Nat × UInt16) : countKey (requestFrom i) key (pool σ' z)
      = countKey (requestFrom i) key (pool σ z) := by
  rw [← countKey_notRound2 requestFrom_round2, hpool, countKey_notRound2 requestFrom_round2]

section Unnoticed

variable (h : Round3Inv d σ token) (hd : Dispatch d σ σ' y e ω before)

include hd

theorem accepted_dispatch (haccepted : acceptedOf o.state.history = acceptedOf before.sl.history) :
    accepted (install y before o σ) = accepted σ := by
  refine accepted_install_of_eq ?_
  rw [haccepted, hd.sl_eq]

include h

/-- A message that is no request and no response is used up. -/
theorem Round3Inv.drop (hrequest : e.pMessage.requestKey = none)
    (hresponse : e.pMessage.responseKey = none) (hsame : SameRound3 before.sl s)
    (hissued : issuedOf s.history = issuedOf before.sl.history)
    (hcommitted : committedOf s.history = committedOf before.sl.history)
    (haccepted : acceptedOf s.history = acceptedOf before.sl.history)
    (hsend : s.sendQueue = []) (hjuggle : s.juggleQueue = before.sl.juggleQueue) :
    Round3Inv d (install y before (.ok s) σ) token :=
  h.same (unnoticed_drop hd hrequest hresponse hsame hissued hcommitted hsend hjuggle)
    (accepted_dispatch hd haccepted)
    fun z _ key => countKey_drop hd (requestFrom_eq_none hrequest) hsend hjuggle z key

/-- A message is juggled. -/
theorem Round3Inv.juggle (hsend : before.sl.sendQueue = []) :
    Round3Inv d (install y before (.ok (before.sl.juggle e)) σ) token :=
  h.same (unnoticed_juggle hd hsend) (accepted_dispatch hd rfl)
    (requests_of_pool (notRound2_install hd (juggle_sent hsend) juggle_pool))

end Unnoticed

theorem Round3Inv.tick (h : Round3Inv d σ token) (hfits : d.conf.Fits) (ht : Tick d σ σ') :
    Round3Inv d σ' token := by
  refine h.same (unnoticed_tick hfits ht) ?_ fun z i key => ?_
  · funext z
    obtain ⟨k, hk⟩ := ht.sl_eq z
    unfold Cluster.accepted
    rw [hk]
  · obtain ⟨l, hl, hnew⟩ := tick_pool hfits ht z
    rw [hl, countKey_add, countKey_eq_zero (l := l) fun e he => by
      simp [requestFrom_eq_none (hnew e he).1], add_zero]

/-! ## Moving a token -/

@[simp] theorem moveToken_self (A : Nat) (t : Token) : moveToken token k w A c t k w A c = t :=
  setToken_self (x := gathering init token)

theorem moveToken_of_ne {A A' : Nat} {w' : Peer} {k' : FetchKind} {c' : UInt16} {t : Token}
    (hne : ¬ (k' = k ∧ w' = w ∧ A' = A ∧ c' = c)) :
    moveToken token k w A c t k' w' A' c' = token k' w' A' c' := if_neg hne

theorem held_moveToken_self {L : Layout} {A : Nat} {t : Token} (h : holder L k z c = some w) :
    held L (moveToken token k w A c t) k z A c = t := (held_eq h).trans (moveToken_self A t)

theorem held_moveToken_of_ne {L : Layout} {A A' : Nat} {k' : FetchKind} {c' : UInt16} {t : Token}
    (hne : ¬ (k' = k ∧ holder L k' z c' = some w ∧ A' = A ∧ c' = c)) :
    held L (moveToken token k w A c t) k' z A' c' = held L token k' z A' c' :=
  held_setToken_of_ne (x := gathering init token) hne

/-- A step that commits and accepts nothing and leaves the queue alone only moves tokens. -/
theorem gathering_install (hd : Dispatch d σ σ' y e ω before)
    (hissued : issuedOf o.state.history = issuedOf before.sl.history)
    (hcommitted : committedOf o.state.history = committedOf before.sl.history)
    (haccepted : acceptedOf o.state.history = acceptedOf before.sl.history)
    (hqueue : o.state.pLeaderRound2PendingPreprepareRaw
      = before.sl.pLeaderRound2PendingPreprepareRaw) :
    gathering (install y before o σ) token' = { gathering σ token with token := token' } := by
  have hlog : issued (install y before o σ) = issued σ := by
    refine issued_install_of_eq ?_
    rw [hissued, hd.sl_eq]
  unfold gathering entries
  simp only [Gathering.mk.injEq, and_true]
  refine ⟨by rw [hlog], ?_, by rw [accepted_dispatch hd haccepted],
    by rw [committed_install_of_eq hd hcommitted]⟩
  funext b
  by_cases hb : (b, 0) = y
  · rw [hb, install_sl_self]
    show o.state.pLeaderRound2PendingPreprepareRaw.map entryOf = _
    rw [hqueue, hd.sl_eq]
  · rw [install_sl_of_ne hb]

/--
What the dispatcher does when it commits nothing and moves one token, of kind `k` from SL `w` to BG
`A` for cycle `c`.
-/
structure TokenStep (d : Deployment) (σ : Cluster) (y : Peer) (e : QueueElement) (before : Node)
    (s' : ConnManager) (token : FetchKind → Peer → Nat → UInt16 → Token) (k : FetchKind) (w : Peer)
    (A : Nat) (c : UInt16) (t : Token) : Prop where
  step : Round3Step d σ y e before s' token (moveToken token k w A c t)
  committed : committedOf s'.history = committedOf before.sl.history
  accepted : acceptedOf s'.history = acceptedOf before.sl.history
  queue : s'.pLeaderRound2PendingPreprepareRaw = before.sl.pLeaderRound2PendingPreprepareRaw
  status : s'.mapRound3Status = before.sl.mapRound3Status
  pending : ∀ k' c', ¬ (k' = k ∧ c' = c) →
    s'.mapRound3PendingRequests k' c' = before.sl.mapRound3PendingRequests k' c'
  pending_self : PendingOk ((gathering σ token).setToken k w A c t) y k c
    (s'.mapRound3PendingRequests k c)
  storage : s'.pStorage = before.sl.pStorage
  closed : closedOf s'.history = closedOf before.sl.history
  events : ∀ ev ∈ s'.history, ev ∈ before.sl.history ∨ EventOk d σ y ev
  old : token k w A c ≠ .done
  new : t ≠ .done
  elsewhere : ∀ z, z ≠ y → z.1 = A → (t = .pending z.2 ↔ token k w A c = .pending z.2)

/-- Moving one token keeps the invariant when it does in the abstract model. -/
theorem Round3Inv.move_token {A : Nat} {t : Token} (h : Round3Inv d σ token)
    (hd : Dispatch d σ σ' y e ω before) (hs : TokenStep d σ y e before s token k w A c t)
    (hinv : ((gathering σ token).setToken k w A c t).Inv d.layout) :
    Round3Inv d (install y before (.ok s) σ) (moveToken token k w A c t) := by
  have hgathering : gathering (install y before (.ok s) σ) (moveToken token k w A c t)
      = (gathering σ token).setToken k w A c t :=
    gathering_install hd hs.step.issued hs.committed hs.accepted hs.queue
  have hsub : ∀ b', Cluster.issued σ b' ⊆ Cluster.issued (install y before (.ok s) σ) b' := by
    intro b' p hp
    rw [issued_install_of_eq (by rw [Outcome.state_ok, hs.step.issued, hd.sl_eq])]
    exact hp
  have hcommitted : Cluster.committed σ y ⊆ Cluster.committed (install y before (.ok s) σ) y := by
    rw [committed_install_of_eq (o := .ok s) hd hs.committed]
    exact fun p hp => hp
  have hdone : ∀ k' z A' c', held d.layout ((gathering σ token).setToken k w A c t).token k' z A' c'
      = .done ↔ held d.layout token k' z A' c' = .done := fun _ _ _ _ =>
    held_done_congr fun _ _ _ _ => setToken_done (x := gathering σ token) hs.old hs.new
  have hsl := SlOk.taken hd (h.sl y)
  refine h.installed hd hs.step ?_ ?_ fun z hz => ?_
  · rw [hgathering]
    exact hinv
  · rw [hgathering]
    refine ⟨fun c' => ?_, fun k' c' => ?_, ?_, ?_, fun ev hev => ?_, fun p hp => ?_⟩
    · have hstatus : StatusAt d σ (gathering σ token) y c' (s.mapRound3Status c') :=
        hs.status ▸ hsl.status c'
      exact hstatus.congr hsub hcommitted (fun _ _ => Iff.rfl) fun k' _ A' => hdone k' y A' c'
    · by_cases hc : k' = k ∧ c' = c
      · obtain ⟨rfl, rfl⟩ := hc
        exact hs.pending_self
      · have hpending : PendingOk (gathering σ token) y k' c' (s.mapRound3PendingRequests k' c') :=
          hs.pending k' c' hc ▸ hsl.pending k' c'
        refine hpending.congr fun w' => ?_
        rw [setToken_of_ne fun heq => hc ⟨heq.1, heq.2.2.2⟩]
    · exact hs.storage.trans hsl.storage
    · show closedOf s.history = s.pStorage
      rw [hs.closed, hs.storage]
      exact hsl.closed
    · rcases hs.events ev hev with hev | hev
      · exact (hsl.events ev hev).mono hsub hcommitted
      · exact hev.mono hsub hcommitted
    · refine (hsl.proposals p ?_).mono hsub
      rw [← hs.queue]
      exact hp
  · rw [hgathering]
    refine ⟨rfl, fun k' _ A' c' => hdone k' z A' c', fun k' w' c' => ?_⟩
    by_cases heq : k' = k ∧ w' = w ∧ z.1 = A ∧ c' = c
    · obtain ⟨rfl, rfl, hA, rfl⟩ := heq
      rw [hA, setToken_self]
      exact hs.elsewhere z hz hA
    · rw [setToken_of_ne heq]

/-! ## Answering a request -/

section Serve

variable (h : Round3Inv d σ token) (hd : Dispatch d σ σ' y e ω before)
  (hsend : before.sl.sendQueue = [])
  (hkey : e.pMessage.requestKey = some (k, r.1.toNat, c))
  (hfrom : requester e.pMessage = some r.2.toNat)

include h hd hkey hfrom

theorem Round3Inv.asked_here : token k (r.1.toNat, r.2.toNat) y.1 c = .asked y.2 :=
  h.asked_of_request (z := (r.1.toNat, r.2.toNat)) hd (requestFrom_eq.mpr ⟨hfrom, hkey⟩)

theorem Round3Inv.idle_of_request :
    (gathering σ token).token k (r.1.toNat, r.2.toNat) y.1 c ≠ .idle := by
  show token k (r.1.toNat, r.2.toNat) y.1 c ≠ .idle
  rw [h.asked_here hd hkey hfrom]
  simp

omit h hd in
/-- Whose request the element is. -/
theorem requestFrom_here (k' : FetchKind) (w' : Peer) (c' : UInt16) :
    requestFrom w'.2 e.pMessage = some (k', w'.1, c')
      ↔ k' = k ∧ w' = (r.1.toNat, r.2.toNat) ∧ c' = c := by
  rw [requestFrom_eq, hfrom, hkey]
  simp only [Option.some.injEq, Prod.ext_iff]
  constructor
  · rintro ⟨h2, h1, h3, h4⟩
    exact ⟨h1.symm, ⟨h3.symm, h2.symm⟩, h4.symm⟩
  · rintro ⟨h1, ⟨h3, h2⟩, h4⟩
    exact ⟨h2.symm, h1.symm, h3.symm, h4.symm⟩

include hsend

/-- **A request is answered.** -/
theorem Round3Inv.serve_answer (hready : k.trigger c ∈ entries σ y)
    (hm : m.responseKey = some (k, y.1, c)) (hgood : ∀ z, GoodMessage d σ z m)
    (hevent : EventOk d σ y (.answered k c r m)) :
    Round3Inv d (install y before (.ok (answerRequests k c m [r] before.sl)) σ)
      (moveToken token k (r.1.toNat, r.2.toNat) y.1 c (.answered r.2.toNat)) := by
  have htoken := h.asked_here hd hkey hfrom
  obtain ⟨-, -, -, -, hholder, -⟩ := (h.inv.asked _ _ _ _).mp (h.idle_of_request hd hkey hfrom)
  have hhere := requestFrom_here hkey hfrom
  have hresp := responseKey_of_requestKey hkey
  have hpending := (SlOk.taken hd (h.sl y)).pending k c
  have hpeer : requestPeer r = some (r.1.toNat, r.2.toNat) := rfl
  generalize hw : (r.1.toNat, r.2.toNat) = w at *
  have hw2 : r.2.toNat = w.2 := by rw [← hw]
  rw [hw2]
  refine h.move_token hd ?_ (h.inv.answer htoken hd.has.2 hready)
  refine {
    step := ?_
    committed := by simp [answerRequests, committedOf, ConnManager.enqueue]
    accepted := by simp [answerRequests, acceptedOf, ConnManager.enqueue]
    queue := rfl
    status := rfl
    pending := fun _ _ _ => rfl
    pending_self := hpending.congr fun w' => ?_
    storage := rfl
    closed := by simp [answerRequests, closedOf, ConnManager.enqueue]
    events := fun ev hev => ?_
    old := by simp [htoken]
    new := by simp
    elsewhere := fun z hz hA => by simp [htoken] }
  · refine ⟨rfl, ?_, rfl, rfl, fun z k' w' c' => ?_, fun z k' A' c' => ?_, fun z e' he' => ?_⟩
    · simp [answerRequests, issuedOf, ConnManager.enqueue]
    · rw [answerRequests_sendQueue hsend, countKey_sent_singleton (by simp) (by simp [hpeer]),
        requestFrom_eq_none (requestKey_of_responseKey hm)]
      simp only [hhere]
      by_cases heq : k' = k ∧ w' = w ∧ z.1 = y.1 ∧ c' = c
      · obtain ⟨rfl, rfl, hz, rfl⟩ := heq
        rw [hz, moveToken_self, htoken]
        simp [Prod.ext_iff, hz, eq_comm]
      · have hother : ¬ (z = y ∧ k' = k ∧ w' = w ∧ c' = c) := fun hc =>
          heq ⟨hc.2.1, hc.2.2.1, congrArg Prod.fst hc.1, hc.2.2.2⟩
        rw [moveToken_of_ne heq, if_neg hother]
        simp
    · rw [answerRequests_sendQueue hsend, countKey_sent_singleton (by simp) (by simp [hpeer]), hm,
        hresp, hpeer]
      by_cases heq : k' = k ∧ holder d.layout k' z c' = some w ∧ A' = y.1 ∧ c' = c
      · obtain ⟨rfl, hz, rfl, rfl⟩ := heq
        have hbg := holder_bg hz
        rw [held_moveToken_self hz, held_eq hz, htoken]
        simp [Prod.ext_iff, hbg, List.count_singleton]
      · rw [held_moveToken_of_ne heq]
        simp only [Option.some.injEq, Prod.mk.injEq]
        by_cases hc : k = k' ∧ y.1 = A' ∧ c = c'
        · obtain ⟨rfl, rfl, rfl⟩ := hc
          have hz : z ≠ w := fun hz => heq ⟨rfl, hz ▸ hholder, rfl, rfl⟩
          simp [Ne.symm hz]
        · rw [if_neg hc]
          simp
    · rw [answerRequests_sendQueue hsend, sent_singleton, Multiset.mem_coe] at he'
      rw [(mem_deliveries he').1]
      exact (hgood z).copy
  · by_cases hb : w' = w
    · subst hb
      rw [setToken_self]
      exact iff_of_false (by simp) (by simp [gathering, htoken])
    · rw [setToken_of_ne fun heq => hb heq.2.1]
  · rcases List.mem_append.mp hev with hev | hev
    · exact Or.inl hev
    · rw [List.map_singleton, List.mem_singleton] at hev
      exact Or.inr (hev ▸ hevent)

/-- **A request waits** until the own answer is ready. -/
theorem Round3Inv.serve_hold (hready : k.trigger c ∉ entries σ y) :
    Round3Inv d (install y before (.ok (pushPending k c r before.sl)) σ)
      (moveToken token k (r.1.toNat, r.2.toNat) y.1 c (.pending y.2)) := by
  have htoken := h.asked_here hd hkey hfrom
  have hhere := requestFrom_here hkey hfrom
  have hresp := responseKey_of_requestKey hkey
  have hpending := (SlOk.taken hd (h.sl y)).pending k c
  have hmap : requesters (some ((before.sl.mapRound3PendingRequests k c).getD [] ++ [r]))
      = requesters (before.sl.mapRound3PendingRequests k c) ++ [(r.1.toNat, r.2.toNat)] := by
    unfold requesters
    rw [Option.getD_some, List.map_append, List.map_singleton]
  generalize hw : (r.1.toNat, r.2.toNat) = w at *
  refine h.move_token hd ?_ (h.inv.hold htoken hd.has.2 hready)
  refine {
    step := ?_
    committed := rfl
    accepted := rfl
    queue := rfl
    status := rfl
    pending := fun k' c' hne => ?_
    pending_self := ?_
    storage := rfl
    closed := rfl
    events := fun ev hev => Or.inl hev
    old := by simp [htoken]
    new := by simp
    elsewhere := fun z hz hA => ?_ }
  · have hnone : (pushPending k c r before.sl).sendQueue = [] := hsend
    refine ⟨rfl, rfl, rfl, rfl, fun z k' w' c' => ?_, fun z k' A' c' => ?_, fun z e' he' => ?_⟩
    · rw [hnone, sent_nil]
      simp only [hhere]
      by_cases heq : k' = k ∧ w' = w ∧ z.1 = y.1 ∧ c' = c
      · obtain ⟨rfl, rfl, hz, rfl⟩ := heq
        rw [hz, moveToken_self, htoken]
        simp [Prod.ext_iff, hz, eq_comm, countKey]
      · have hother : ¬ (z = y ∧ k' = k ∧ w' = w ∧ c' = c) := fun hc =>
          heq ⟨hc.2.1, hc.2.2.1, congrArg Prod.fst hc.1, hc.2.2.2⟩
        rw [moveToken_of_ne heq, if_neg hother]
        rfl
    · rw [hnone, sent_nil, hresp]
      by_cases heq : k' = k ∧ holder d.layout k' z c' = some w ∧ A' = y.1 ∧ c' = c
      · obtain ⟨rfl, hz, rfl, rfl⟩ := heq
        rw [held_moveToken_self hz, held_eq hz, htoken]
        simp [countKey]
      · rw [held_moveToken_of_ne heq]
        simp [countKey]
    · rw [hnone, sent_nil] at he'
      exact absurd he' (Multiset.notMem_zero _)
  · show Function.update before.sl.mapRound3PendingRequests k _ k' c' = _
    by_cases hk : k' = k
    · subst hk
      rw [Function.update_self, Function.update_of_ne fun hc => hne ⟨rfl, hc⟩]
    · rw [Function.update_of_ne hk]
  · have hget : (pushPending k c r before.sl).mapRound3PendingRequests k c
        = some ((before.sl.mapRound3PendingRequests k c).getD [] ++ [r]) := by
      show Function.update before.sl.mapRound3PendingRequests k _ k c = _
      rw [Function.update_self, Function.update_self]
    have hwaits : (gathering σ token).token k w y.1 c ≠ .pending y.2 := by
      simp [gathering, htoken]
    have hnew : w ∉ requesters (before.sl.mapRound3PendingRequests k c) := by
      rw [hpending.mem]
      exact hwaits
    rw [hget]
    refine ⟨?_, fun z => ?_⟩
    · rw [hmap, List.nodup_append]
      refine ⟨hpending.nodup, List.nodup_singleton _, ?_⟩
      rintro z hz z' hz' rfl
      rw [List.mem_singleton] at hz'
      exact hnew (hz' ▸ hz)
    · rw [hmap, List.mem_append, List.mem_singleton, hpending.mem]
      by_cases hb : z = w
      · subst hb
        rw [setToken_self]
        simp
      · rw [setToken_of_ne fun heq => hb heq.2.1]
        simp [hb]
  · rw [htoken]
    refine iff_of_false (fun heq => hz ?_) (by simp)
    rw [Token.pending.injEq] at heq
    exact Prod.ext hA heq.symm

end Serve

/-! ## The dispatchers -/

section Dispatchers

variable (h : Round3Inv d σ token) (h2 : Round2Ok d σ) (hfits : d.conf.Fits)
  (hd : Dispatch d σ σ' y e ω before) (hsend : before.sl.sendQueue = [])
  (hunstuck : Unstuck y before.sl)

include h h2 hfits hd hsend hunstuck

/-- The own answer is there. -/
theorem Round3Inv.answered {status : CycleStatus}
    (hkey : e.pMessage.requestKey = some (k, r.1.toNat, c))
    (hfrom : requester e.pMessage = some r.2.toNat)
    (hstatus : StatusOk d σ (gathering σ token) y c status) (hready : k.trigger c ∈ entries σ y) :
    ∃ response, ownResponse (d.env y).conf k status = some response
      ∧ Keeps3 d σ y before (.ok (answerRequests k c response.copy [r] before.sl)) := by
  obtain ⟨p, hp, hentry, hresponse⟩ := hstatus.ready k hready
  have hown := OwnAnswer.of_committed (h.issued y.1) h2 hfits hd.has hp hentry
  obtain ⟨hresponseKey, hgood, hevent⟩ := hown.copy (r := r)
  exact ⟨_, hresponse, .returns _ (hunstuck.congr rfl rfl), _,
    h.serve_answer hd hsend hkey hfrom hready hresponseKey (fun z => .of_main (hgood z)) hevent⟩

/-- **`dispatcher_round3_fetchRequest`** -/
theorem Round3Inv.fetchRequest {m : MessageRound3FetchRequest}
    (hm : e.pMessage = .round3FetchRequest m) :
    Keeps3 d σ y before (dispatcherRound3FetchRequest (d.env y) m before.sl) := by
  have hkey : e.pMessage.requestKey = some (.result, m.senderBGid.toNat, m.cycle) := by rw [hm]; rfl
  have hfrom : requester e.pMessage = some m.senderSLid.toNat := by rw [hm]; rfl
  have hsl := SlOk.taken hd (h.sl y)
  have hstatus := hsl.status m.cycle
  unfold dispatcherRound3FetchRequest
  dsimp only
  revert hstatus
  cases hget : before.sl.mapRound3Status m.cycle with
  | none =>
    intro hstatus
    have htoken := h.asked_here (r := (m.senderBGid, m.senderSLid)) hd hkey hfrom
    have hidle := h.idle_of_request (r := (m.senderBGid, m.senderSLid)) hd hkey hfrom
    have hopen := h.inv.not_closed (by simp) hidle (by simp [gathering, htoken])
    obtain ⟨hb, -, hA, hne, -⟩ := (h.inv.asked _ _ _ _).mp hidle
    have hcloser : closer d.conf.numBG m.cycle ∉ (gathering σ token).committed y := by
      intro hc
      rw [closer_of_two (show 2 ≤ d.conf.numBG from h.inv.two_of_token hidle)] at hc
      exact hopen (h.inv.mem_all hd.has.2 hc)
    have hclient : FetchKind.result.trigger m.cycle ∉ entries σ y := hstatus.resolve_right hcloser
    have hstorage : m.cycle ∉ before.sl.pStorage := by
      rw [hsl.storage]
      exact fun hc => hcloser (mem_closed.mp hc)
    rw [if_neg hstorage]
    exact ⟨.returns _ (hunstuck.congr rfl rfl), _,
      h.serve_hold (r := (m.senderBGid, m.senderSLid)) hd hsend hkey hfrom hclient⟩
  | some status =>
    intro hstatus
    obtain ⟨response, hresponse, hkeeps⟩ :=
      h.answered (r := (m.senderBGid, m.senderSLid)) h2 hfits hd hsend hunstuck hkey
        hfrom hstatus hstatus.client
    dsimp only
    rw [hresponse]
    exact hkeeps

/-- The common part of the two dispatchers for general fetches. -/
theorem Round3Inv.answerOrPush {m : MessageRound3GeneralFetch} {status : CycleStatus}
    (hkey : e.pMessage.requestKey = some (k, m.senderBGid.toNat, m.cycle))
    (hfrom : requester e.pMessage = some m.senderSLid.toNat)
    (hstatus : StatusOk d σ (gathering σ token) y m.cycle status) :
    Keeps3 d σ y before (.ok (answerOrPush k (d.env y) m status before.sl)) := by
  unfold RCanopus.answerOrPush
  by_cases hready : k.trigger m.cycle ∈ entries σ y
  · obtain ⟨response, hresponse, hkeeps⟩ :=
      h.answered (r := (m.senderBGid, m.senderSLid)) h2 hfits hd hsend hunstuck hkey
        hfrom hstatus hready
    rw [hresponse]
    exact hkeeps
  · rw [hstatus.missing k hready]
    exact ⟨.returns _ (hunstuck.congr rfl rfl), _,
      h.serve_hold (r := (m.senderBGid, m.senderSLid)) hd hsend hkey hfrom hready⟩

/-- **`dispatcher_round3_generalFetchRequest`** -/
theorem Round3Inv.generalFetchRequest {m : MessageRound3GeneralFetch}
    (hm : e.pMessage = .round3GeneralFetch m) :
    Keeps3 d σ y before (dispatcherRound3GeneralFetchRequest (d.env y) e m before.sl) := by
  have hgood := h.good_of_dispatch hd
  rw [hm] at hgood
  obtain ⟨-, hdemanded⟩ := hgood
  have hsl := SlOk.taken hd (h.sl y)
  have hstatus := hsl.status m.cycle
  have hfrom : requester e.pMessage = some m.senderSLid.toNat := by rw [hm]; rfl
  have hkey' : e.pMessage.requestKey = some
      (if m.msgTypeDemanded = MessageType.round3ConnectivityResponse.code then .connectivity
        else .membership, m.senderBGid.toNat, m.cycle) := by rw [hm]; rfl
  unfold dispatcherRound3GeneralFetchRequest
  by_cases hconn : m.msgTypeDemanded = MessageType.round3ConnectivityResponse.code
  · have hkey : e.pMessage.requestKey = some (.connectivity, m.senderBGid.toNat, m.cycle) := by
      rw [hkey', if_pos hconn]
    rw [if_pos hconn]
    unfold dispatcherRound3FetchConnectivityRequest
    revert hstatus
    cases hget : before.sl.mapRound3Status m.cycle with
    | none => exact fun _ => ⟨.returns _ (hunstuck.congr rfl rfl), token, h.juggle hd hsend⟩
    | some status =>
      exact fun hstatus => h.answerOrPush h2 hfits hd hsend hunstuck hkey hfrom hstatus
  · have hkey : e.pMessage.requestKey = some (.membership, m.senderBGid.toNat, m.cycle) := by
      rw [hkey', if_neg hconn]
    rw [if_neg hconn, if_pos (hdemanded.resolve_left hconn)]
    unfold dispatcherRound3FetchMembershipRequest
    dsimp only
    revert hstatus
    cases hget : before.sl.mapRound3Status m.cycle with
    | some status =>
      exact fun hstatus => h.answerOrPush h2 hfits hd hsend hunstuck hkey hfrom hstatus
    | none =>
      -- the cycle is over here, and the answer is what the SL would have sent before
      intro hstatus
      have hidle := h.idle_of_request (r := (m.senderBGid, m.senderSLid)) hd hkey hfrom
      obtain ⟨hb, -, hA, hne, -⟩ := (h.inv.asked _ _ _ _).mp hidle
      have hclosed := hstatus.resolve_left fun hc => hc (h.inv.client_of_asked hidle hd.has.2)
      have hstorage : m.cycle ∈ before.sl.pStorage := by
        rw [hsl.storage]
        exact mem_closed.mpr hclosed
      have hfull : Entry.fullMembership m.cycle ∈ (gathering σ token).committed y := by
        rwa [closer_of_two (show 2 ≤ d.conf.numBG from h.inv.two_of_token hidle)] at hclosed
      have hready : FetchKind.membership.trigger m.cycle ∈ entries σ y :=
        h.inv.needs_committed hd.has.2 hfull (.follow .membership m.cycle)
      obtain ⟨p, hp, hentry⟩ := List.mem_map.mp hready
      have hcycle : p.cycle = m.cycle := by
        rw [← cycle_entryOf, hentry]
        rfl
      have hown := OwnAnswer.of_committed (h.issued y.1) h2 hfits hd.has hp hentry
      have heq : Message.round3MembershipResponse (fakeMembershipResponse (d.env y).conf m.cycle)
          = RCanopus.ownAnswer (d.env y) .membership p := by
        unfold RCanopus.ownAnswer
        rw [membershipResponse_eq_fake, hcycle]
      have hcopy : (RCanopus.ownAnswer (d.env y) .membership p).copy
          = RCanopus.ownAnswer (d.env y) .membership p := by
        have hones := ((hown.good y).2 : MessageRound3FullMembership.Ones _ _)
        exact congrArg Message.round3MembershipResponse hones.framed.copy_eq
      obtain ⟨hresponseKey, hgood, hevent⟩ := hown.copy (r := (m.senderBGid, m.senderSLid))
      rw [decide_eq_true hstorage, debugThrow_true, heq, ← hcopy]
      exact ⟨.returns _ (hunstuck.congr rfl rfl), _,
        h.serve_answer (r := (m.senderBGid, m.senderSLid)) hd hsend hkey hfrom hready hresponseKey
          (fun z => .of_main (hgood z)) hevent⟩

end Dispatchers

end RCanopus.Hybrid
