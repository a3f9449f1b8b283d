import RCanopus.Round3Moves

/-!
# Steps that round 3 does not notice

A step of a client, a step of round 2 that commits nothing, and a message of round 3 that is
juggled.
-/

namespace RCanopus

open Cluster

variable {d : Deployment} {σ σ' : Cluster} {b i : Nat} {y z : Peer} {e : QueueElement} {ω : Choice}
  {before : Node} {o : Outcome} {s s' : ConnManager} {a a' : LockStep.State}
  {log : List MessageRound2Preprepare} {v : Round2View}

/-! ## The messages of round 3 -/

/-- The messages that are not of round 2. -/
def notRound2 (l : Multiset QueueElement) : Multiset QueueElement :=
  l.filter fun e => e.pMessage.isRound2 = false

theorem notRound2_add (l l' : Multiset QueueElement) :
    notRound2 (l + l') = notRound2 l + notRound2 l' := Multiset.filter_add ..

theorem notRound2_cons (h : e.pMessage.isRound2 = true) (l : Multiset QueueElement) :
    notRound2 (e ::ₘ l) = notRound2 l := Multiset.filter_cons_of_neg _ (by simp [h])

theorem notRound2_eq_zero {l : Multiset QueueElement}
    (h : ∀ e ∈ l, e.pMessage.isRound2 = true) : notRound2 l = 0 :=
  Multiset.filter_eq_nil.mpr fun e he => by simp [h e he]

theorem notRound2_coe (l : List QueueElement) :
    notRound2 ↑l = ↑(l.filter fun e => !e.pMessage.isRound2) := by
  unfold notRound2
  rw [Multiset.filter_coe]
  congr 1
  exact List.filter_congr fun e _ => by cases e.pMessage.isRound2 <;> rfl

/-- What round 2 sends is of round 2 when it arrives. -/
theorem notRound2_sent {l : List QueueElement} (h : ∀ e ∈ l, e.pMessage.isRound2 = true) :
    notRound2 (sent y l z) = 0 := by
  refine notRound2_eq_zero fun e' he' => ?_
  unfold sent at he'
  obtain ⟨e, he, hd⟩ := List.mem_flatMap.mp (Multiset.mem_coe.mp he')
  rw [(mem_deliveries hd).1]
  have := h e he
  unfold Message.isRound2 at *
  rwa [msgType_copy]

theorem countKey_notRound2 {f : Message → Option (FetchKind × Nat × UInt16)}
    (hf : ∀ m : Message, m.isRound2 = true → f m = none) (key : FetchKind × Nat × UInt16)
    (l : Multiset QueueElement) : countKey f key (notRound2 l) = countKey f key l := by
  unfold countKey notRound2
  rw [Multiset.countP_filter]
  refine Multiset.countP_congr rfl fun e _ => propext (and_iff_left_of_imp fun h => ?_)
  by_contra hround
  rw [hf _ (by simpa using hround)] at h
  exact absurd h (by simp)

theorem goodMessage_round2 {m : Message} (h : m.isRound2 = true) : GoodMessage d σ y m := by
  cases m <;> trivial

/-- A step that keeps the messages of round 3 where they are. -/
theorem Unnoticed.of_pool (hsame : ∀ z, SameRound3 (σ z).sl (σ' z).sl)
    (hissued : Cluster.issued σ' = Cluster.issued σ)
    (hcommitted : Cluster.committed σ' = Cluster.committed σ)
    (hpool : ∀ z, notRound2 (pool σ' z) = notRound2 (pool σ z)) : Unnoticed d σ σ' where
  same := hsame
  issued := hissued
  committed := hcommitted
  requests := fun z key => by
    rw [← countKey_notRound2 fun m hm => Message.requestKey_round2 hm, hpool,
      countKey_notRound2 fun m hm => Message.requestKey_round2 hm]
  responses := fun z key => by
    rw [← countKey_notRound2 fun m hm => Message.responseKey_round2 hm, hpool,
      countKey_notRound2 fun m hm => Message.responseKey_round2 hm]
  good := fun z e he => by
    by_cases hround : e.pMessage.isRound2 = true
    · exact Or.inr (goodMessage_round2 hround)
    · have hmem : e ∈ notRound2 (pool σ' z) :=
        Multiset.mem_filter.mpr ⟨he, by simpa using hround⟩
      rw [hpool] at hmem
      exact Or.inl (Multiset.mem_filter.mp hmem).1

/-! ## Dispatches -/

theorem SameRound3.trans {s'' : ConnManager} (h : SameRound3 s s') (h' : SameRound3 s' s'') :
    SameRound3 s s'' :=
  ⟨h'.status.trans h.status, h'.pending.trans h.pending, h'.storage.trans h.storage,
    h'.queue.trans h.queue, h'.nextCycle.trans h.nextCycle, h'.envoysRr.trans h.envoysRr,
    h'.events.trans h.events⟩

section Dispatch

variable {o' : Outcome} (hd : DispatchTo d σ σ' y e before o')

include hd

theorem SameRound3.install (hsame : SameRound3 before.sl o.state) (z : Peer) :
    SameRound3 (σ z).sl (install y before o σ z).sl := by
  by_cases hz : z = y
  · subst hz
    rw [install_sl_self]
    have hbefore : SameRound3 (σ z).sl before.sl := by
      rw [hd.sl_eq]
      exact ⟨rfl, rfl, rfl, rfl, rfl, rfl, rfl⟩
    have hafter : SameRound3 o.state { o.state with sendQueue := [] } :=
      ⟨rfl, rfl, rfl, rfl, rfl, rfl, rfl⟩
    exact (hbefore.trans hsame).trans hafter
  · rw [install_sl_of_ne hz]
    exact .refl _

theorem committed_install_of_eq (h : committedOf o.state.history = committedOf before.sl.history) :
    committed (install y before o σ) = committed σ := by
  funext z
  rw [committed_install]
  split
  · next hz =>
    subst hz
    rw [h, hd.sl_eq]
    rfl
  · rfl

/-- What is taken or juggled and what is sent is of round 2 only, or it stays. -/
theorem notRound2_install (hsent : ∀ e ∈ o.state.sendQueue, e.pMessage.isRound2 = true)
    (hpool : notRound2 (e ::ₘ ↑before.sl.juggleQueue) = notRound2 ↑o.state.juggleQueue)
    (z : Peer) : notRound2 (pool (install y before o σ) z) = notRound2 (pool σ z) := by
  by_cases hz : z = y
  · subst hz
    rw [pool_install_self, hd.taken, notRound2_add, notRound2_add, notRound2_sent hsent, add_zero,
      ← hpool, ← notRound2_add, Multiset.add_cons]
  · rw [pool_install_of_ne hz, notRound2_add, notRound2_sent hsent, add_zero]

theorem Unnoticed.of_install (hsame : SameRound3 before.sl o.state)
    (hissued : issuedOf o.state.history = issuedOf before.sl.history)
    (hcommitted : committedOf o.state.history = committedOf before.sl.history)
    (hsent : ∀ e ∈ o.state.sendQueue, e.pMessage.isRound2 = true)
    (hpool : notRound2 (e ::ₘ ↑before.sl.juggleQueue) = notRound2 ↑o.state.juggleQueue) :
    Unnoticed d σ (install y before o σ) := by
  refine Unnoticed.of_pool (hsame.install hd) ?_ (committed_install_of_eq hd hcommitted)
    (notRound2_install hd hsent hpool)
  refine issued_install_of_eq ?_
  rw [hissued, hd.sl_eq]

/-- The element that is taken is the only one that is gone. -/
theorem pool_drop (hsend : s.sendQueue = []) (hjuggle : s.juggleQueue = before.sl.juggleQueue)
    (z : Peer) : ∃ l : Multiset QueueElement, pool σ z = l + pool (install y before (.ok s) σ) z
      ∧ ∀ e' ∈ l, e' = e := by
  by_cases hz : z = y
  · subst hz
    refine ⟨{e}, ?_, fun e' he' => Multiset.mem_singleton.mp he'⟩
    rw [pool_install_self, hd.taken, Outcome.state_ok, hsend, hjuggle, sent_nil, add_zero,
      Multiset.singleton_add]
  · refine ⟨0, ?_, fun e' he' => absurd he' (Multiset.notMem_zero e')⟩
    rw [pool_install_of_ne hz, Outcome.state_ok, hsend, sent_nil, add_zero, zero_add]

/-- A message without a key is not missed. -/
theorem countKey_drop {f : Message → Option (FetchKind × Nat × UInt16)}
    (hf : f e.pMessage = none) (hsend : s.sendQueue = [])
    (hjuggle : s.juggleQueue = before.sl.juggleQueue) (z : Peer)
    (key : FetchKind × Nat × UInt16) :
    countKey f key (pool (install y before (.ok s) σ) z) = countKey f key (pool σ z) := by
  obtain ⟨l, hl, hnew⟩ := pool_drop hd hsend hjuggle z
  have hnone : countKey f key l = 0 := countKey_eq_zero fun e' he' => by
    rw [hnew e' he', hf]
    simp
  rw [hl, countKey_add, hnone, zero_add]

/-- A message that is no request and no response is used up. -/
theorem unnoticed_drop (hrequest : e.pMessage.requestKey = none)
    (hresponse : e.pMessage.responseKey = none) (hsame : SameRound3 before.sl s)
    (hissued : issuedOf s.history = issuedOf before.sl.history)
    (hcommitted : committedOf s.history = committedOf before.sl.history)
    (hsend : s.sendQueue = []) (hjuggle : s.juggleQueue = before.sl.juggleQueue) :
    Unnoticed d σ (install y before (.ok s) σ) := by
  refine ⟨hsame.install hd, ?_, committed_install_of_eq hd hcommitted,
    countKey_drop hd hrequest hsend hjuggle, countKey_drop hd hresponse hsend hjuggle,
    fun z e' he' => Or.inl ?_⟩
  · refine issued_install_of_eq ?_
    rw [Outcome.state_ok, hissued, hd.sl_eq]
  · obtain ⟨l, hl, -⟩ := pool_drop hd hsend hjuggle z
    rw [hl]
    exact Multiset.mem_add.mpr (Or.inr he')

omit hd in
theorem juggle_sent (hsend : before.sl.sendQueue = []) :
    ∀ e' ∈ (Outcome.ok (before.sl.juggle e)).state.sendQueue, e'.pMessage.isRound2 = true := by
  intro e' he'
  have hnone : (before.sl.juggle e).sendQueue = [] := hsend
  rw [Outcome.state_ok, hnone] at he'
  exact absurd he' List.not_mem_nil

omit hd in
theorem juggle_pool : notRound2 (e ::ₘ ↑before.sl.juggleQueue)
    = notRound2 ↑(Outcome.ok (before.sl.juggle e)).state.juggleQueue := by
  show _ = notRound2 ↑(before.sl.juggleQueue ++ [e])
  rw [← Multiset.coe_add, Multiset.coe_singleton, add_comm, Multiset.singleton_add]

/-- A message of round 3 is juggled. -/
theorem unnoticed_juggle (hsend : before.sl.sendQueue = []) :
    Unnoticed d σ (install y before (.ok (before.sl.juggle e)) σ) :=
  .of_install hd ⟨rfl, rfl, rfl, rfl, rfl, rfl, rfl⟩ rfl rfl (juggle_sent hsend) juggle_pool

end Dispatch

section Quiet

variable {o' : Outcome} (hd : DispatchTo d σ σ' (b, i) e before o') (hinv : Round2Inv d σ b a log)
  (h3 : s'.round3View = before.sl.round3View)

include hd hinv h3

theorem quiet_sent : ∀ e' ∈ (Outcome.ok s').state.sendQueue, e'.pMessage.isRound2 = true := by
  intro e' he'
  injection h3 with h1 h2 h3 h4 h5 h6 h7 h8 h9
  have hnone : s'.sendQueue.filter (fun e => !e.pMessage.isRound2) = [] := by
    rw [h8, hd.sendQueue_before hinv]
    rfl
  simpa using List.filter_eq_nil_iff.mp hnone e' he'

omit hd hinv in
theorem quiet_pool (he : e.pMessage.isRound2 = true) : notRound2 (e ::ₘ ↑before.sl.juggleQueue)
    = notRound2 ↑(Outcome.ok s').state.juggleQueue := by
  injection h3 with h1 h2 h3 h4 h5 h6 h7 h8 h9
  rw [notRound2_cons he, notRound2_coe, notRound2_coe, Outcome.state_ok, h9]

/-- A step of round 2 that commits nothing. -/
theorem unnoticed_quiet (he : e.pMessage.isRound2 = true) (hs : s'.At v)
    (hcom : a'.com = a.com) (hst : Staged d σ b i ↑before.inbox a' log v) :
    Unnoticed d σ (install (b, i) before (.ok s') σ) := by
  have hevents : s'.history.filter Event.isRound2 = v.trace.events :=
    congrArg Round2Trace.events hs.trace
  have htrace := hinv.trace i hd.has.2
  have hbefore : before.sl.history = (σ (b, i)).sl.history := by rw [hd.sl_eq]
  have hold : (σ (b, i)).sl.round2View.trace.events
      = (σ (b, i)).sl.history.filter Event.isRound2 := rfl
  refine .of_install hd (.of_view h3) ?_ ?_ (quiet_sent hd hinv h3) (quiet_pool h3 he)
  · rw [Outcome.state_ok, ← issuedOf_round2, hevents, hst.trace_self.issued, hbefore,
      ← issuedOf_round2, ← hold, htrace.issued]
  · rw [Outcome.state_ok, ← committedOf_round2, hevents, hst.trace_self.committed, hcom, hbefore,
      ← committedOf_round2, ← hold, htrace.committed]

end Quiet

/-! ## Clients -/

/-- What a step of a client adds has no key. -/
theorem tick_pool (hfits : d.conf.Fits) (ht : Tick d σ σ') (z : Peer) :
    ∃ l : Multiset QueueElement, pool σ' z = pool σ z + l ∧ ∀ e ∈ l,
      e.pMessage.requestKey = none ∧ e.pMessage.responseKey = none
        ∧ GoodMessage d σ' z e.pMessage := by
  obtain ⟨l, hl, hnew⟩ := ht.pool_eq z
  refine ⟨↑l, hl, fun e he => ?_⟩
  obtain ⟨hz, hm | ⟨sl, content, hsl, hm⟩⟩ := hnew e (Multiset.mem_coe.mp he)
  · rw [hm]
    exact ⟨rfl, rfl, trivial⟩
  · rw [hm]
    refine ⟨rfl, rfl, rfl, hz, ?_⟩
    show (UInt16.ofNat sl).toNat < _
    have := hfits.numSL z.1
    rw [UInt16.toNat_ofNat', Nat.mod_eq_of_lt (by omega)]
    exact hsl

theorem unnoticed_tick (hfits : d.conf.Fits) (ht : Tick d σ σ') : Unnoticed d σ σ' := by
  have hhistory : ∀ z, (σ' z).sl.history = (σ z).sl.history := fun z => by
    obtain ⟨k, hk⟩ := ht.sl_eq z
    rw [hk]
  have hkeys := tick_pool hfits ht
  refine ⟨fun z => ?_, ?_, ?_, fun z key => ?_, fun z key => ?_, fun z e he => ?_⟩
  · obtain ⟨k, hk⟩ := ht.sl_eq z
    rw [hk]
    exact ⟨rfl, rfl, rfl, rfl, rfl, rfl, rfl⟩
  · funext b
    unfold issued
    rw [hhistory]
  · funext z
    unfold committed
    rw [hhistory]
  · obtain ⟨l, hl, hnew⟩ := hkeys z
    rw [hl, countKey_add, countKey_eq_zero (l := l) fun e he => by simp [(hnew e he).1], add_zero]
  · obtain ⟨l, hl, hnew⟩ := hkeys z
    rw [hl, countKey_add, countKey_eq_zero (l := l) fun e he => by simp [(hnew e he).2.1], add_zero]
  · obtain ⟨l, hl, hnew⟩ := hkeys z
    rw [hl] at he
    rcases Multiset.mem_add.mp he with he | he
    · exact Or.inl he
    · exact Or.inr (hnew e he).2.2

end RCanopus
