import RCanopus.Round3Issue
import RCanopus.Round3Unnoticed

/-!
# Requests

What the dispatcher does with a request of another BG: it answers, it lets the request wait for the
own BG, or it juggles it. Each of the three keeps the invariant of round 3.
-/

namespace RCanopus

open Cluster Exchange

variable {d : Deployment} {σ σ' : Cluster} {b : Nat} {c : UInt16} {y z : Peer} {k : FetchKind}
  {e : QueueElement} {ω : Choice} {before : Node} {o : Outcome} {s : ConnManager}
  {token token' : FetchKind → Nat → Nat → UInt16 → Token} {r : UInt16 × UInt16} {m : Message}

/-! ## Moving a token -/

@[simp] theorem moveToken_self (A : Nat) (t : Token) : moveToken token k b A c t k b A c = t :=
  setToken_self (x := exchange init token)

theorem moveToken_of_ne {A A' b' : Nat} {k' : FetchKind} {c' : UInt16} {t : Token}
    (hne : ¬ (k' = k ∧ b' = b ∧ A' = A ∧ c' = c)) :
    moveToken token k b A c t k' b' A' c' = token k' b' A' c' := if_neg hne

/-- A step that commits nothing and leaves the queue alone only moves tokens. -/
theorem exchange_install (hd : Dispatch d σ σ' y e ω before)
    (hissued : issuedOf o.state.history = issuedOf before.sl.history)
    (hcommitted : committedOf o.state.history = committedOf before.sl.history)
    (hqueue : o.state.pLeaderRound2PendingPreprepareRaw
      = before.sl.pLeaderRound2PendingPreprepareRaw) :
    exchange (install y before o σ) token' = { exchange σ token with token := token' } := by
  have hlog : issued (install y before o σ) = issued σ := by
    refine issued_install_of_eq ?_
    rw [hissued, hd.sl_eq]
  unfold exchange
  simp only [Exchange.mk.injEq, and_true]
  refine ⟨?_, ?_, ?_⟩
  · rw [hlog]
  · funext b
    by_cases hb : (b, 0) = y
    · rw [hb, install_sl_self]
      show o.state.pLeaderRound2PendingPreprepareRaw.map entryOf = _
      rw [hqueue, hd.sl_eq]
    · rw [install_sl_of_ne hb]
  · funext z
    unfold entries
    rw [committed_install]
    split
    · next hz =>
      subst hz
      rw [hcommitted, hd.sl_eq]
      rfl
    · rfl

theorem committed_subset_install (hd : Dispatch d σ σ' y e ω before)
    (hcommitted : committedOf o.state.history = committedOf before.sl.history) :
    committed σ y ⊆ committed (install y before o σ) y := by
  rw [committed_install, if_pos rfl, hcommitted, hd.sl_eq]
  exact fun p hp => hp

/--
What the dispatcher does when it commits nothing and moves one token, of kind `k` from BG `b` to BG
`A` for cycle `c`.
-/
structure TokenStep (d : Deployment) (σ : Cluster) (y : Peer) (e : QueueElement) (before : Node)
    (s' : ConnManager) (token : FetchKind → Nat → Nat → UInt16 → Token) (k : FetchKind) (b A : Nat)
    (c : UInt16) (t : Token) : Prop where
  step : Round3Step d σ y e before s' token (moveToken token k b A c t)
  committed : committedOf s'.history = committedOf before.sl.history
  queue : s'.pLeaderRound2PendingPreprepareRaw = before.sl.pLeaderRound2PendingPreprepareRaw
  status : s'.mapRound3Status = before.sl.mapRound3Status
  pending : ∀ k' c', ¬ (k' = k ∧ c' = c) →
    s'.mapRound3PendingRequests k' c' = before.sl.mapRound3PendingRequests k' c'
  pending_self : PendingOk d ((exchange σ token).setToken k b A c t) y k c
    (s'.mapRound3PendingRequests k c)
  storage : s'.pStorage = before.sl.pStorage
  closed : closedOf s'.history = closedOf before.sl.history
  events : ∀ ev ∈ s'.history, ev ∈ before.sl.history ∨ EventOk d σ y ev
  old : token k b A c ≠ .done
  new : t ≠ .done
  elsewhere : ∀ z, z ≠ y → z.1 = A → (t = .pending z.2 ↔ token k b A c = .pending z.2)

/-- Moving one token keeps the invariant when it does in the abstract model. -/
theorem Round3Inv.move_token {A : Nat} {t : Token} (h : Round3Inv d σ token)
    (hd : Dispatch d σ σ' y e ω before) (hs : TokenStep d σ y e before s token k b A c t)
    (hinv : ((exchange σ token).setToken k b A c t).Inv d.layout) :
    Round3Inv d (install y before (.ok s) σ) (moveToken token k b A c t) := by
  have hexchange : exchange (install y before (.ok s) σ) (moveToken token k b A c t)
      = (exchange σ token).setToken k b A c t :=
    exchange_install hd hs.step.issued hs.committed hs.queue
  have hsub : ∀ b', Cluster.issued σ b' ⊆ Cluster.issued (install y before (.ok s) σ) b' := by
    intro b' p hp
    rw [issued_install_of_eq (by rw [Outcome.state_ok, hs.step.issued, hd.sl_eq])]
    exact hp
  have hcommitted : Cluster.committed σ y ⊆ Cluster.committed (install y before (.ok s) σ) y :=
    committed_subset_install hd hs.committed
  have hsl := SlOk.taken hd (h.sl y)
  refine h.installed hd hs.step ?_ ?_ fun z hz => ?_
  · rw [hexchange]
    exact hinv
  · rw [hexchange]
    refine ⟨fun c' => ?_, fun k' c' => ?_, ?_, ?_, fun ev hev => ?_, fun p hp => ?_⟩
    · have hstatus : StatusAt d σ (exchange σ token) y c' (s.mapRound3Status c') :=
        hs.status ▸ hsl.status c'
      exact hstatus.congr hsub hcommitted (fun _ _ => Iff.rfl) fun _ k' _ A' =>
        setToken_done hs.old hs.new
    · by_cases hc : k' = k ∧ c' = c
      · obtain ⟨rfl, rfl⟩ := hc
        exact hs.pending_self
      · have hpending : PendingOk d (exchange σ token) y k' c' (s.mapRound3PendingRequests k' c') :=
          hs.pending k' c' hc ▸ hsl.pending k' c'
        refine hpending.congr fun b' => ?_
        rw [setToken_of_ne fun heq => hc ⟨heq.1, heq.2.2.2⟩]
    · exact hs.storage.trans hsl.storage
    · show closedOf s.history = s.pStorage
      rw [hs.closed, hs.storage]
      exact hsl.closed
    · rcases hs.events ev hev with hev | hev
      · exact (hsl.events ev hev).mono hsub hcommitted
      · exact hev.mono hsub hcommitted
    · refine (hsl.proposals p ?_).mono hsub
      rw [← hs.queue]
      exact hp
  · rw [hexchange]
    refine ⟨rfl, fun _ k' _ A' c' => setToken_done hs.old hs.new, fun k' b' c' => ?_⟩
    by_cases heq : k' = k ∧ b' = b ∧ z.1 = A ∧ c' = c
    · obtain ⟨rfl, rfl, hA, rfl⟩ := heq
      rw [hA, setToken_self]
      exact hs.elsewhere z hz hA
    · rw [setToken_of_ne heq]

/-! ## Answering a request -/

/-- What one answer adds to the state. -/
theorem answerRequests_sendQueue (hsend : s.sendQueue = []) :
    (answerRequests k c m [r] s).sendQueue = [{ upPeers := [requestPeer r], pMessage := m }] := by
  show s.sendQueue ++ _ = _
  rw [hsend]
  rfl

/-- A request has no response key. -/
theorem responseKey_of_requestKey {key : FetchKind × Nat × UInt16}
    (hkey : m.requestKey = some key) : m.responseKey = none := by
  cases m <;> simp_all [Message.requestKey, Message.responseKey]

theorem requestKey_of_responseKey {key : FetchKind × Nat × UInt16}
    (hkey : m.responseKey = some key) : m.requestKey = none := by
  cases m <;> simp_all [Message.requestKey, Message.responseKey]

/-! ### The own answers -/

/-- What an SL commits was issued by its leader. -/
theorem Round2Ok.exists_issued (h : Round2Ok d σ) (hy : d.Has y) {p : MessageRound2Preprepare}
    (hp : p ∈ committed σ y) : ∃ q ∈ issued σ y.1, p = q.copy := by
  have hn : 0 < d.conf.numSL y.1 := Nat.lt_of_le_of_lt (Nat.zero_le _) hy.2
  obtain ⟨a, log, hinv⟩ := h y.1 hn
  rw [committed_eq (i := y.2) hinv hy.2] at hp
  obtain ⟨q, hq, rfl⟩ := List.mem_map.mp hp
  refine ⟨q, ?_, rfl⟩
  rw [issued_eq hinv hn]
  exact List.take_subset _ _ hq

/-- The own answer of an SL, from a Preprepare that it has committed. -/
structure OwnAnswer (d : Deployment) (σ : Cluster) (y : Peer) (k : FetchKind) (c : UInt16)
    (m : Message) : Prop where
  key : m.responseKey = some (k, y.1, c)
  good : ∀ z, GoodMessage d σ z m
  own : ∃ p ∈ committed σ y, entryOf p = k.trigger c ∧ m = ownAnswer (d.env y) k p

theorem toNat_ofNat_bg (hfits : d.conf.Fits) (hb : b < d.conf.numBG) :
    (UInt16.ofNat b).toNat = b := by
  have := hfits.numBG
  rw [UInt16.toNat_ofNat', Nat.mod_eq_of_lt (by omega)]

/-- The answer that comes from an issued Preprepare. -/
theorem Proposal.answer {p q : MessageRound2Preprepare} (hproposal : Proposal d σ y.1 q)
    (hfits : d.conf.Fits) (hy : d.Has y) (hq : q ∈ Cluster.issued σ y.1) (hp : p = q.copy)
    (hentry : entryOf p = k.trigger c) :
    (RCanopus.ownAnswer (d.env y) k p).responseKey = some (k, y.1, c)
      ∧ ∀ z, GoodMessage d σ z (RCanopus.ownAnswer (d.env y) k p) := by
  have hn : 0 < d.conf.numSL y.1 := Nat.lt_of_le_of_lt (Nat.zero_le _) hy.2
  have hbg := toNat_ofNat_bg hfits hy.1
  subst hp
  have hcycle : q.cycle = c := by
    rw [← k.cycle_trigger c, ← hentry]
    exact (cycle_entryOf (p := q)).symm
  rw [entryOf_copy] at hentry
  refine ⟨?_, fun z => ?_⟩
  · cases k with
    | result =>
      have hhome := hproposal.home (by rw [(entryOf_client.mp hentry).1]; simp)
      show some (FetchKind.result, q.bGid.toNat, q.cycle) = _
      rw [hhome, hbg, hcycle]
    | connectivity =>
      have hhome := hproposal.home (by rw [(entryOf_localConnectivity hentry).1]; simp)
      show some (FetchKind.connectivity, q.bGid.toNat, q.cycle) = _
      rw [hhome, hbg, hcycle]
    | membership =>
      show some (FetchKind.membership, (UInt16.ofNat y.1).toNat, q.cycle) = _
      rw [hbg, hcycle]
  · cases k with
    | result =>
      have htype := (entryOf_client.mp hentry).1
      have hhome := hproposal.home (by rw [htype]; simp)
      refine ⟨hproposal.version, q, ?_, ?_, ?_⟩
      · show q ∈ Cluster.issued σ q.bGid.toNat
        rw [hhome, hbg]
        exact hq
      · show RCanopus.entryOf q = .client q.cycle
        rw [hentry, ← hcycle]
        rfl
      · exact carries_getRound3Response hfits hn (hproposal.client htype).1 _ _
    | connectivity =>
      exact ⟨hproposal.version, connects_getRound3Response (p := q.copy) hfits
        (hproposal.covers hfits hn) (hproposal.connectivity (entryOf_localConnectivity hentry).1)
        _ _ _ _⟩
    | membership =>
      refine ⟨rfl, ?_⟩
      show (membershipResponse (d.env y).conf q.cycle).Ones d.conf.numBG
      rw [membershipResponse_eq_fake]
      exact ones_fakeMembershipResponse hfits y _ (Nat.lt_of_le_of_lt (Nat.zero_le _) hy.1)

theorem OwnAnswer.of_committed (h : ∀ q ∈ Cluster.issued σ y.1, Proposal d σ y.1 q)
    (h2 : Round2Ok d σ) (hfits : d.conf.Fits) (hy : d.Has y) {p : MessageRound2Preprepare}
    (hp : p ∈ committed σ y) (hentry : entryOf p = k.trigger c) :
    OwnAnswer d σ y k c (ownAnswer (d.env y) k p) := by
  obtain ⟨q, hq, hcopy⟩ := h2.exists_issued hy hp
  obtain ⟨hkey, hgood⟩ := (h q hq).answer hfits hy hq hcopy hentry
  exact ⟨hkey, hgood, p, hp, hentry, rfl⟩

theorem OwnAnswer.copy (h : OwnAnswer d σ y k c m) : m.copy.responseKey = some (k, y.1, c)
    ∧ (∀ z, GoodMessage d σ z m.copy) ∧ EventOk d σ y (.answered k c r m.copy) := by
  obtain ⟨p, hp, hentry, heq⟩ := h.own
  refine ⟨by simp [h.key], fun z => (h.good z).copy, p, hp, hentry, ?_⟩
  rw [heq]

section Serve

variable (h : Round3Inv d σ token) (hd : Dispatch d σ σ' y e ω before)
  (hsend : before.sl.sendQueue = []) (hkey : e.pMessage.requestKey = some (k, b, c))
  (henvoy : r.1.toNat = b ∧ d.layout.envoy b c = some r.2.toNat)

include h hd hkey

theorem Round3Inv.idle_of_request : (exchange σ token).token k b y.1 c ≠ .idle := by
  show token k b y.1 c ≠ .idle
  rw [h.asked_of_request hd hkey]
  simp

include hsend henvoy

/-- **A request is answered.** -/
theorem Round3Inv.serve_answer (hready : k.trigger c ∈ entries σ y)
    (hm : m.responseKey = some (k, y.1, c)) (hgood : ∀ z, GoodMessage d σ z m)
    (hevent : EventOk d σ y (.answered k c r m)) :
    Round3Inv d (install y before (.ok (answerRequests k c m [r] before.sl)) σ)
      (moveToken token k b y.1 c (.answered r.2.toNat)) := by
  have htoken := h.asked_of_request hd hkey
  obtain ⟨-, -, hne, i, hi, hi', -⟩ := (h.inv.asked k b y.1 c).mp (h.idle_of_request hd hkey)
  obtain rfl : i = r.2.toNat := Option.some.inj (hi'.symm.trans henvoy.2)
  have hpeer : requestPeer r = some (b, r.2.toNat) := by
    rw [← henvoy.1]
    rfl
  have hresp := responseKey_of_requestKey hkey
  have hpending := (SlOk.taken hd (h.sl y)).pending k c
  refine h.move_token hd ?_ (h.inv.answer htoken hd.has.2 hready hi)
  refine {
    step := ?_
    committed := by simp [answerRequests, committedOf, ConnManager.enqueue]
    queue := rfl
    status := rfl
    pending := fun _ _ _ => rfl
    pending_self := hpending.congr fun b' => ?_
    storage := rfl
    closed := by simp [answerRequests, closedOf, ConnManager.enqueue]
    events := fun ev hev => ?_
    old := by simp [htoken]
    new := by simp
    elsewhere := fun z hz hA => by simp [htoken] }
  · refine ⟨rfl, ?_, rfl, rfl, fun z k' b' c' => ?_, fun z k' A' c' => ?_, fun z e' he' => ?_⟩
    · simp [answerRequests, issuedOf, ConnManager.enqueue]
    · rw [answerRequests_sendQueue hsend, countKey_sent_singleton (by simp) (by simp [hpeer]),
        requestKey_of_responseKey hm, hkey]
      by_cases heq : k' = k ∧ b' = b ∧ z.1 = y.1 ∧ c' = c
      · obtain ⟨rfl, rfl, hz, rfl⟩ := heq
        rw [hz, moveToken_self, htoken]
        simp [Prod.ext_iff, hz, eq_comm]
      · have hother : ¬ (z = y ∧ k = k' ∧ b = b' ∧ c = c') := fun hc =>
          heq ⟨hc.2.1.symm, hc.2.2.1.symm, congrArg Prod.fst hc.1, hc.2.2.2.symm⟩
        simp only [Option.some.injEq, Prod.mk.injEq]
        rw [moveToken_of_ne heq, if_neg hother]
        simp
    · rw [answerRequests_sendQueue hsend, countKey_sent_singleton (by simp) (by simp [hpeer]), hm,
        hresp, hpeer]
      by_cases heq : k' = k ∧ z.1 = b ∧ A' = y.1 ∧ c' = c
      · obtain ⟨rfl, hz, rfl, rfl⟩ := heq
        rw [hz, moveToken_self, htoken]
        simp [Prod.ext_iff, hz, List.count_singleton]
      · rw [moveToken_of_ne heq]
        simp only [Option.some.injEq, Prod.mk.injEq]
        by_cases hc : k = k' ∧ y.1 = A' ∧ c = c'
        · obtain ⟨rfl, rfl, rfl⟩ := hc
          have hz : z ≠ (b, r.2.toNat) := fun hz => heq ⟨rfl, by rw [hz], rfl, rfl⟩
          simp [Ne.symm hz]
        · rw [if_neg hc]
          simp
    · rw [answerRequests_sendQueue hsend, sent_singleton, Multiset.mem_coe] at he'
      rw [(mem_deliveries he').1]
      exact (hgood z).copy
  · by_cases hb : b' = b
    · subst hb
      rw [setToken_self]
      exact iff_of_false (by simp) (by simp [exchange, htoken])
    · rw [setToken_of_ne fun heq => hb heq.2.1]
  · rcases List.mem_append.mp hev with hev | hev
    · exact Or.inl hev
    · rw [List.map_singleton, List.mem_singleton] at hev
      exact Or.inr (hev ▸ hevent)

/-- **A request waits** until the own answer is ready. -/
theorem Round3Inv.serve_hold (hready : k.trigger c ∉ entries σ y) :
    Round3Inv d (install y before (.ok (pushPending k c r before.sl)) σ)
      (moveToken token k b y.1 c (.pending y.2)) := by
  have htoken := h.asked_of_request hd hkey
  have hresp := responseKey_of_requestKey hkey
  have hpending := (SlOk.taken hd (h.sl y)).pending k c
  refine h.move_token hd ?_ (h.inv.hold htoken hd.has.2 hready)
  refine {
    step := ?_
    committed := rfl
    queue := rfl
    status := rfl
    pending := fun k' c' hne => ?_
    pending_self := ?_
    storage := rfl
    closed := rfl
    events := fun ev hev => Or.inl hev
    old := by simp [htoken]
    new := by simp
    elsewhere := fun z hz hA => ?_ }
  · refine ⟨rfl, rfl, rfl, rfl, fun z k' b' c' => ?_, fun z k' A' c' => ?_, fun z e' he' => ?_⟩
    · have hnone : (pushPending k c r before.sl).sendQueue = [] := hsend
      rw [hnone, sent_nil, hkey]
      by_cases heq : k' = k ∧ b' = b ∧ z.1 = y.1 ∧ c' = c
      · obtain ⟨rfl, rfl, hz, rfl⟩ := heq
        rw [hz, moveToken_self, htoken]
        simp [Prod.ext_iff, hz, eq_comm, countKey]
      · have hother : ¬ (z = y ∧ k = k' ∧ b = b' ∧ c = c') := fun hc =>
          heq ⟨hc.2.1.symm, hc.2.2.1.symm, congrArg Prod.fst hc.1, hc.2.2.2.symm⟩
        simp only [Option.some.injEq, Prod.mk.injEq]
        rw [moveToken_of_ne heq, if_neg hother]
        rfl
    · have hnone : (pushPending k c r before.sl).sendQueue = [] := hsend
      rw [hnone, sent_nil, hresp]
      by_cases heq : k' = k ∧ z.1 = b ∧ A' = y.1 ∧ c' = c
      · obtain ⟨rfl, hz, rfl, rfl⟩ := heq
        rw [hz, moveToken_self, htoken]
        simp [countKey]
      · rw [moveToken_of_ne heq]
        simp [countKey]
    · have hnone : (pushPending k c r before.sl).sendQueue = [] := hsend
      rw [hnone, sent_nil] at he'
      exact absurd he' (Multiset.notMem_zero _)
  · show Function.update before.sl.mapRound3PendingRequests k _ k' c' = _
    by_cases hk : k' = k
    · subst hk
      rw [Function.update_self, Function.update_of_ne fun hc => hne ⟨rfl, hc⟩]
    · rw [Function.update_of_ne hk]
  · have hget : (pushPending k c r before.sl).mapRound3PendingRequests k c
        = some ((before.sl.mapRound3PendingRequests k c).getD [] ++ [r]) := by
      show Function.update before.sl.mapRound3PendingRequests k _ k c = _
      rw [Function.update_self, Function.update_self]
    have hmap : requesters (some ((before.sl.mapRound3PendingRequests k c).getD [] ++ [r]))
        = requesters (before.sl.mapRound3PendingRequests k c) ++ [(b, r.2.toNat)] := by
      unfold requesters
      rw [Option.getD_some, List.map_append, List.map_singleton, henvoy.1]
    have hnew : (b, r.2.toNat) ∉ requesters (before.sl.mapRound3PendingRequests k c) := by
      rw [hpending.mem]
      rintro ⟨hwaits, -⟩
      have hwaits : token k b y.1 c = .pending y.2 := hwaits
      rw [htoken] at hwaits
      simp at hwaits
    rw [hget]
    refine ⟨?_, fun z => ?_⟩
    · rw [hmap, List.nodup_append]
      refine ⟨hpending.nodup, List.nodup_singleton _, ?_⟩
      rintro z hz z' hz' rfl
      rw [List.mem_singleton] at hz'
      exact hnew (hz' ▸ hz)
    · rw [hmap, List.mem_append, List.mem_singleton, hpending.mem]
      by_cases hb : z.1 = b
      · rw [hb, setToken_self]
        have hwaits : (exchange σ token).token k b y.1 c ≠ .pending y.2 := by
          simp [exchange, htoken]
        simp [hwaits, henvoy.2, Prod.ext_iff, hb, eq_comm]
      · rw [setToken_of_ne fun heq => hb heq.2.1]
        simp [Prod.ext_iff, hb]
  · rw [htoken]
    refine iff_of_false (fun heq => hz ?_) (by simp)
    rw [Token.pending.injEq] at heq
    exact Prod.ext hA heq.symm

end Serve

/-! ## The dispatchers -/

section Dispatchers

variable (h : Round3Inv d σ token) (h2 : Round2Ok d σ) (hfits : d.conf.Fits)
  (hd : Dispatch d σ σ' y e ω before) (hsend : before.sl.sendQueue = [])
  (hunstuck : Unstuck y before.sl)

include h h2 hfits hd hsend hunstuck

/-- The own answer is there. -/
theorem Round3Inv.answered {status : CycleStatus}
    (hkey : e.pMessage.requestKey = some (k, b, c))
    (henvoy : r.1.toNat = b ∧ d.layout.envoy b c = some r.2.toNat)
    (hstatus : StatusOk d σ (exchange σ token) y c status) (hready : k.trigger c ∈ entries σ y) :
    ∃ response, ownResponse (d.env y).conf k status = some response
      ∧ Keeps3 d σ y before (.ok (answerRequests k c response.copy [r] before.sl)) := by
  obtain ⟨p, hp, hentry, hresponse⟩ := hstatus.ready k hready
  have hown := OwnAnswer.of_committed (h.issued y.1) h2 hfits hd.has hp hentry
  obtain ⟨hresponseKey, hgood, hevent⟩ := hown.copy (r := r)
  exact ⟨_, hresponse, .returns _ (hunstuck.congr rfl rfl), _,
    h.serve_answer hd hsend hkey henvoy hready hresponseKey hgood hevent⟩

/-- **`dispatcher_round3_fetchRequest`** -/
theorem Round3Inv.fetchRequest {m : MessageRound3FetchRequest}
    (hm : e.pMessage = .round3FetchRequest m) :
    Keeps3 d σ y before (dispatcherRound3FetchRequest (d.env y) m before.sl) := by
  have hkey : e.pMessage.requestKey = some (.result, m.senderBGid.toNat, m.cycle) := by rw [hm]; rfl
  have hgood := h.good_of_dispatch hd
  rw [hm] at hgood
  have hsl := SlOk.taken hd (h.sl y)
  have hstatus := hsl.status m.cycle
  unfold dispatcherRound3FetchRequest
  dsimp only
  revert hstatus
  cases hget : before.sl.mapRound3Status m.cycle with
  | none =>
    intro hstatus
    have htoken := h.asked_of_request hd hkey
    have hidle := h.idle_of_request hd hkey
    have hopen := h.inv.not_closed (by simp) hidle (by simp [exchange, htoken])
    obtain ⟨hb, hA, hne, -⟩ := (h.inv.asked _ _ _ _).mp hidle
    have hcloser : closer d.conf.numBG m.cycle ∉ (exchange σ token).committed y := by
      intro hc
      unfold closer at hc
      rw [if_neg (by have : y.1 < d.conf.numBG := hA; have : _ < d.conf.numBG := hb; omega)] at hc
      exact hopen (h.inv.mem_all hd.has.2 hc)
    have hclient : FetchKind.result.trigger m.cycle ∉ entries σ y := hstatus.resolve_right hcloser
    have hstorage : m.cycle ∉ before.sl.pStorage := by
      rw [hsl.storage]
      exact fun hc => hcloser (mem_closed.mp hc)
    rw [if_neg hstorage]
    exact ⟨.returns _ (hunstuck.congr rfl rfl), _,
      h.serve_hold (r := (m.senderBGid, m.senderSLid)) hd hsend hkey ⟨rfl, hgood.2⟩ hclient⟩
  | some status =>
    intro hstatus
    obtain ⟨response, hresponse, hkeeps⟩ :=
      h.answered (r := (m.senderBGid, m.senderSLid)) h2 hfits hd hsend hunstuck hkey
        ⟨rfl, hgood.2⟩ hstatus hstatus.client
    dsimp only
    rw [hresponse]
    exact hkeeps

/-- The common part of the two dispatchers for general fetches. -/
theorem Round3Inv.answerOrPush {m : MessageRound3GeneralFetch} {status : CycleStatus}
    (hkey : e.pMessage.requestKey = some (k, m.senderBGid.toNat, m.cycle))
    (henvoy : d.layout.envoy m.senderBGid.toNat m.cycle = some m.senderSLid.toNat)
    (hstatus : StatusOk d σ (exchange σ token) y m.cycle status) :
    Keeps3 d σ y before (.ok (answerOrPush k (d.env y) m status before.sl)) := by
  unfold RCanopus.answerOrPush
  by_cases hready : k.trigger m.cycle ∈ entries σ y
  · obtain ⟨response, hresponse, hkeeps⟩ :=
      h.answered (r := (m.senderBGid, m.senderSLid)) h2 hfits hd hsend hunstuck hkey
        ⟨rfl, henvoy⟩ hstatus hready
    rw [hresponse]
    exact hkeeps
  · rw [hstatus.missing k hready]
    exact ⟨.returns _ (hunstuck.congr rfl rfl), _, h.serve_hold hd hsend hkey ⟨rfl, henvoy⟩ hready⟩

/-- **`dispatcher_round3_generalFetchRequest`** -/
theorem Round3Inv.generalFetchRequest {m : MessageRound3GeneralFetch}
    (hm : e.pMessage = .round3GeneralFetch m) :
    Keeps3 d σ y before (dispatcherRound3GeneralFetchRequest (d.env y) e m before.sl) := by
  have hgood := h.good_of_dispatch hd
  rw [hm] at hgood
  obtain ⟨-, henvoy, hdemanded⟩ := hgood
  have hsl := SlOk.taken hd (h.sl y)
  have hstatus := hsl.status m.cycle
  have hkey' : e.pMessage.requestKey = some
      (if m.msgTypeDemanded = MessageType.round3ConnectivityResponse.code then .connectivity
        else .membership, m.senderBGid.toNat, m.cycle) := by rw [hm]; rfl
  unfold dispatcherRound3GeneralFetchRequest
  by_cases hconn : m.msgTypeDemanded = MessageType.round3ConnectivityResponse.code
  · have hkey : e.pMessage.requestKey = some (.connectivity, m.senderBGid.toNat, m.cycle) := by
      rw [hkey', if_pos hconn]
    rw [if_pos hconn]
    unfold dispatcherRound3FetchConnectivityRequest
    revert hstatus
    cases hget : before.sl.mapRound3Status m.cycle with
    | none =>
      exact fun _ => ⟨.returns _ (hunstuck.congr rfl rfl), token,
        h.unnoticed (unnoticed_juggle hd.to hsend)⟩
    | some status =>
      exact fun hstatus => h.answerOrPush h2 hfits hd hsend hunstuck hkey henvoy hstatus
  · have hkey : e.pMessage.requestKey = some (.membership, m.senderBGid.toNat, m.cycle) := by
      rw [hkey', if_neg hconn]
    rw [if_neg hconn, if_pos (hdemanded.resolve_left hconn)]
    unfold dispatcherRound3FetchMembershipRequest
    dsimp only
    revert hstatus
    cases hget : before.sl.mapRound3Status m.cycle with
    | some status =>
      exact fun hstatus => h.answerOrPush h2 hfits hd hsend hunstuck hkey henvoy hstatus
    | none =>
      intro hstatus
      have hidle := h.idle_of_request hd hkey
      obtain ⟨hb, hA, hne, -⟩ := (h.inv.asked _ _ _ _).mp hidle
      have hclosed := hstatus.resolve_left fun hc => hc (h.inv.client_of_asked hidle hd.has.2)
      have hstorage : m.cycle ∈ before.sl.pStorage := by
        rw [hsl.storage]
        exact mem_closed.mpr hclosed
      have hfull : Entry.fullMembership m.cycle ∈ (exchange σ token).committed y := by
        unfold closer at hclosed
        rwa [if_neg (by have : y.1 < d.conf.numBG := hA; have : _ < d.conf.numBG := hb; omega)]
          at hclosed
      have hready : FetchKind.membership.trigger m.cycle ∈ entries σ y :=
        h.inv.needs_committed hd.has.2 hfull (.fullMembership m.cycle)
      obtain ⟨p, hp, hentry⟩ := List.mem_map.mp hready
      have hcycle : p.cycle = m.cycle := by
        rw [← cycle_entryOf, hentry]
        rfl
      have hown := OwnAnswer.of_committed (h.issued y.1) h2 hfits hd.has hp hentry
      have heq : Message.round3MembershipResponse (fakeMembershipResponse (d.env y).conf m.cycle)
          = RCanopus.ownAnswer (d.env y) .membership p := by
        unfold RCanopus.ownAnswer
        rw [membershipResponse_eq_fake, hcycle]
      have hcopy : (RCanopus.ownAnswer (d.env y) .membership p).copy
          = RCanopus.ownAnswer (d.env y) .membership p := by
        have hones := ((hown.good y).2 : MessageRound3FullMembership.Ones _ _)
        exact congrArg Message.round3MembershipResponse hones.framed.copy_eq
      obtain ⟨hresponseKey, hgood, hevent⟩ := hown.copy (r := (m.senderBGid, m.senderSLid))
      rw [decide_eq_true hstorage, debugThrow_true, heq, ← hcopy]
      exact ⟨.returns _ (hunstuck.congr rfl rfl), _,
        h.serve_answer hd hsend hkey ⟨rfl, henvoy⟩ hready hresponseKey hgood hevent⟩

end Dispatchers

end RCanopus
