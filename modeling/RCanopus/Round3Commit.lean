import RCanopus.Round3Responses

/-!
# A commit in round 3

An SL commits the next entry of the log of its BG. What a commit does to the exchange is said once,
in `Round3Inv.commit`, for any place where the tokens may be afterwards; here it is used for the
entries that move no token, the fetched results and the end of a cycle.
-/

namespace RCanopus

open Cluster Exchange

variable {d : Deployment} {σ σ' : Cluster} {b i : Nat} {c : UInt16} {y z : Peer} {k : FetchKind}
  {e : QueueElement} {ω : Choice} {before : Node} {s : ConnManager} {x : Exchange}
  {token token' : FetchKind → Nat → Nat → UInt16 → Token} {p : MessageRound2Preprepare}
  {a : LockStep.State} {log : List MessageRound2Preprepare}

/-! ## The next entry -/

/-- The log goes on after what an SL has committed. -/
theorem Round2Inv.log_split (hinv : Round2Inv d σ b a log) (hi : i < d.conf.numSL b)
    (hp : log[a.com i]? = some p) :
    ∃ l, (Cluster.issued σ b).map entryOf = entries σ (b, i) ++ entryOf p :: l := by
  have hn : 0 < d.conf.numSL b := Nat.lt_of_le_of_lt (Nat.zero_le i) hi
  refine ⟨((log.drop (a.com i + 1)).map entryOf), ?_⟩
  show (Cluster.issued σ b).map entryOf = (Cluster.committed σ (b, i)).map entryOf ++ _
  rw [issued_eq hinv hn, committed_eq hinv hi, List.map_map,
    show entryOf ∘ MessageRound2Preprepare.copy = entryOf from funext entryOf_copy,
    ← List.map_cons (f := entryOf), ← List.map_append]
  congr 1
  have hlen : a.com i < log.length := (List.getElem?_eq_some_iff.mp hp).1
  rw [← (List.getElem?_eq_some_iff.mp hp).2, List.getElem_cons_drop, List.take_append_drop]

/-- The next entry of the log is the next entry of the exchange. -/
theorem Round2Inv.next (hinv : Round2Inv d σ b a log) (hi : i < d.conf.numSL b)
    (hp : log[a.com i]? = some p) (hlt : a.com i < a.closed) :
    (exchange σ token).Next d.layout (b, i) (entryOf p) := by
  refine ⟨hi, hinv.log_split hi hp, fun j hj => ?_⟩
  show ((Cluster.committed σ (b, i)).map entryOf).length
    ≤ ((Cluster.committed σ (b, j)).map entryOf).length
  rw [List.length_map, List.length_map, length_committed hinv hi, length_committed hinv hj]
  have := hinv.lock.closed_le_acc j hj
  have := hinv.lock.acc_le_com j hj
  omega

/-! ## Any commit -/

/-- The exchange after an SL has committed an entry and perhaps queued some. -/
def afterCommit (x : Exchange) (y : Peer) (e : Entry) (queued : List Entry)
    (token : FetchKind → Nat → Nat → UInt16 → Token) : Exchange :=
  { x.commit y e with
    queue := Function.update x.queue y.1 (x.queue y.1 ++ queued)
    token := token }

theorem afterCommit_nil {e : Entry} :
    afterCommit x y e [] token = { x.commit y e with token := token } := by
  unfold afterCommit
  rw [List.append_nil, Function.update_eq_self]
  rfl

/-- What a commit of `p` does, until a new round is spawned. -/
structure CommitStep (d : Deployment) (σ : Cluster) (y : Peer) (before : Node)
    (p : MessageRound2Preprepare) (queued : List MessageRound2Preprepare) (s : ConnManager)
    (token token' : FetchKind → Nat → Nat → UInt16 → Token) : Prop where
  juggleQueue : s.juggleQueue = before.sl.juggleQueue
  nextCycle : s.leaderRound2NextRcanopusCycle = before.sl.leaderRound2NextRcanopusCycle
  envoysRr : s.leaderEnvoysRr = before.sl.leaderEnvoysRr
  issued : issuedOf s.history = issuedOf before.sl.history
  committed : committedOf s.history = committedOf before.sl.history ++ [p]
  queue : s.pLeaderRound2PendingPreprepareRaw
    = before.sl.pLeaderRound2PendingPreprepareRaw ++ queued
  leader : y.2 ≠ 0 → queued = []
  status : ∀ c ≠ p.cycle, s.mapRound3Status c = before.sl.mapRound3Status c
  pending : ∀ k, ∀ c ≠ p.cycle,
    s.mapRound3PendingRequests k c = before.sl.mapRound3PendingRequests k c
  storage : s.pStorage = before.sl.pStorage ++ (closedCycle d.conf.numBG (entryOf p)).toList
  closed : closedOf s.history
    = closedOf before.sl.history ++ (closedCycle d.conf.numBG (entryOf p)).toList
  moved : ∀ k b A, ∀ c ≠ p.cycle, token' k b A c = token k b A c
  done : ∀ k b A c, token' k b A c = .done ↔ token k b A c = .done
  elsewhere : ∀ z ≠ y, ∀ k b c, token' k b z.1 c = .pending z.2 ↔ token k b z.1 c = .pending z.2
  requests : ∀ z k b c, (if token' k b z.1 c = .asked z.2 then 1 else 0)
    = (if token k b z.1 c = .asked z.2 then 1 else 0)
      + countKey Message.requestKey (k, b, c) (sent y s.sendQueue z)
  responses : ∀ z k A c, (if token' k z.1 A c = .answered z.2 then 1 else 0)
    = (if token k z.1 A c = .answered z.2 then 1 else 0)
      + countKey Message.responseKey (k, A, c) (sent y s.sendQueue z)
  good : ∀ z, ∀ e ∈ sent y s.sendQueue z, GoodMessage d σ z e.pMessage

section Commit

variable {queued : List MessageRound2Preprepare} (hd : Dispatch d σ σ' y e ω before)
  (hs : CommitStep d σ y before p queued s token token')

include hd hs

theorem CommitStep.issued_eq :
    Cluster.issued (install y before (.ok s) σ) = Cluster.issued σ := by
  refine issued_install_of_eq ?_
  rw [Outcome.state_ok, hs.issued, hd.sl_eq]

theorem CommitStep.committed_eq (z : Peer) : Cluster.committed (install y before (.ok s) σ) z
    = if z = y then Cluster.committed σ y ++ [p] else Cluster.committed σ z := by
  rw [committed_install]
  split
  · show committedOf s.history = _
    rw [hs.committed, hd.sl_eq]
    rfl
  · rfl

theorem CommitStep.committed_subset :
    Cluster.committed σ y ⊆ Cluster.committed (install y before (.ok s) σ) y := by
  rw [hs.committed_eq hd, if_pos rfl]
  exact List.subset_append_left _ _

/-- What was committed is committed. -/
theorem CommitStep.mem_committed : p ∈ Cluster.committed (install y before (.ok s) σ) y := by
  rw [hs.committed_eq hd, if_pos rfl]
  exact List.mem_append_right _ List.mem_cons_self

theorem CommitStep.exchange_eq : exchange (install y before (.ok s) σ) token'
    = afterCommit (exchange σ token) y (entryOf p) (queued.map entryOf) token' := by
  unfold exchange afterCommit Exchange.commit entries
  rw [hs.issued_eq hd]
  simp only [Exchange.mk.injEq, true_and, and_true]
  refine ⟨?_, ?_⟩
  · funext b
    rw [Function.update_apply]
    by_cases hb : (b, 0) = y
    · subst hb
      rw [install_sl_self, if_pos rfl]
      show s.pLeaderRound2PendingPreprepareRaw.map entryOf = _
      rw [hs.queue, hd.sl_eq, List.map_append]
    · rw [install_sl_of_ne hb]
      split
      · next hy =>
        subst hy
        rw [hs.leader fun hy => hb (Prod.ext rfl hy.symm), List.map_nil, List.append_nil]
      · rfl
  · funext z
    rw [hs.committed_eq hd, Function.update_apply]
    split
    · rw [List.map_append]
      rfl
    · rfl

/-- **Any commit** keeps the invariant when it does in the abstract model. -/
theorem Round3Inv.commit (h : Round3Inv d σ token) (he : e.pMessage.isRound2 = true)
    (hinv : (afterCommit (exchange σ token) y (entryOf p) (queued.map entryOf) token').Inv d.layout)
    (hstatus : StatusAt d (install y before (.ok s) σ)
      (afterCommit (exchange σ token) y (entryOf p) (queued.map entryOf) token') y p.cycle
      (s.mapRound3Status p.cycle))
    (hpending : ∀ k, PendingOk d
      (afterCommit (exchange σ token) y (entryOf p) (queued.map entryOf) token') y k p.cycle
      (s.mapRound3PendingRequests k p.cycle))
    (hevents : ∀ ev ∈ s.history, ev ∈ before.sl.history
      ∨ EventOk d (install y before (.ok s) σ) y ev)
    (hqueued : ∀ q ∈ queued, Proposal d σ y.1 q) :
    Round3Inv d (install y before (.ok s) σ) token' := by
  have hexchange := hs.exchange_eq hd
  have hrequest := Message.requestKey_round2 he
  have hresponse := Message.responseKey_round2 he
  have hstep : Round3Step d σ y e before s token token' := by
    refine ⟨hs.juggleQueue, hs.issued, hs.nextCycle, hs.envoysRr, fun z k b c => ?_,
      fun z k A c => ?_, hs.good⟩
    · rw [hrequest, hs.requests z k b c]
      simp
    · rw [hresponse, hs.responses z k A c]
      simp
  have hsub : ∀ b, Cluster.issued σ b ⊆ Cluster.issued (install y before (.ok s) σ) b := by
    rw [hs.issued_eq hd]
    exact fun _ _ hq => hq
  have hsl := SlOk.taken hd (h.sl y)
  refine h.installed hd hstep (hexchange ▸ hinv) ?_ fun z hz => ?_
  · rw [hexchange]
    refine hsl.touched (c := p.cycle) ?_ hsub (hs.committed_subset hd)
    refine {
      entries := fun e he => mem_commit_of_ne y fun heq => he (heq ▸ cycle_entryOf)
      token := fun k b A c hc => hs.moved k b A c hc
      status := hs.status
      status_self := hstatus
      pending := hs.pending
      pending_self := hpending
      storage := ?_
      closed := ?_
      events := hevents
      proposals := fun q hq => ?_ }
    · show s.pStorage = (((exchange σ token).commit y (entryOf p)).committed y).filterMap _
      rw [hs.storage, commit_committed, if_pos rfl, List.filterMap_append, hsl.storage]
      congr 1
    · show closedOf s.history = s.pStorage
      rw [hs.closed, hs.storage, hsl.closed]
    · rw [Outcome.state_ok, hs.queue] at hq
      rcases List.mem_append.mp hq with hq | hq
      · exact Or.inl hq
      · exact Or.inr ((hqueued q hq).mono hsub)
  · rw [hexchange]
    refine ⟨?_, fun _ k _ A c => hs.done k z.1 A c, fun k b c => hs.elsewhere z hz k b c⟩
    show ((exchange σ token).commit y (entryOf p)).committed z = _
    rw [commit_committed, if_neg hz]

end Commit

/-! ## The end of a commit -/

/-- The state of an SL that has crashed is as if it had returned. -/
theorem Round3Inv.thrown {ex : Exception} (h : Round3Inv d (install y before (.ok s) σ) token) :
    Round3Inv d (install y before (.thrown ex s) σ) token := by
  have hsl : ∀ z, (install y before (.thrown ex s) σ z).sl = (install y before (.ok s) σ z).sl := by
    intro z
    by_cases hz : z = y
    · subst hz
      rw [install_sl_self, install_sl_self]
      rfl
    · rw [install_sl_of_ne hz, install_sl_of_ne hz]
  have hpool : ∀ z, pool (install y before (.thrown ex s) σ) z
      = pool (install y before (.ok s) σ) z := by
    intro z
    by_cases hz : z = y
    · subst hz
      rw [pool_install_self, pool_install_self]
      rfl
    · rw [pool_install_of_ne hz, pool_install_of_ne hz]
      rfl
  refine h.unnoticed (.of_pool (fun z => ?_) ?_ ?_ fun z => ?_)
  · rw [hsl]
    exact .refl _
  · funext b
    unfold Cluster.issued
    rw [hsl]
  · funext z
    unfold Cluster.committed
    rw [hsl]
  · rw [hpool]

/-- **Spawning a new round** at the end of a commit. -/
theorem Round3Inv.spawned (h : Round3Inv d (install y before (.ok s) σ) token)
    (hd : Dispatch d σ σ' y e ω before) (h2 : Round2Ok d σ')
    (hout : dispatcherRound2 (d.env y) ω e before.sl = spawnRound2 (d.env y) ω s)
    (hidle : s.pRound2CurrentStatus = none) :
    Keeps3 d σ y before (spawnRound2 (d.env y) ω s) := by
  have hrunning : ∀ status, s.pRound2CurrentStatus = some status →
      status.state ≠ .round2Committed := by
    rw [hidle]
    simp
  obtain ⟨b, i⟩ := y
  have hleader : (d.env (b, i)).conf.isRound2Leader = (i == 0) := rfl
  unfold spawnRound2 at hout ⊢
  rw [hleader] at hout ⊢
  by_cases hi : i = 0
  · subst hi
    rw [beq_self_eq_true, if_pos rfl] at hout ⊢
    exact h.started hd h2 hout hrunning
  · rw [beq_false_of_ne hi, if_neg Bool.false_ne_true]
    exact ⟨.returns s ⟨hrunning, fun h0 => absurd h0 hi⟩, token, h⟩

end RCanopus
