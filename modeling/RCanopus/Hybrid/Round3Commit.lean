import RCanopus.Round3Phases
import RCanopus.Hybrid.Round3Slots

/-!
# A commit in round 3 of the hybrid variant

An SL commits the next entry of the log of its BG. What a commit does to the gathering is said once,
in `Round3Inv.commit`, for any place where the tokens may be afterwards. A commit queues nothing.
-/

namespace RCanopus.Hybrid

open Cluster Gathering

variable {d : Deployment} {σ σ' : Cluster} {b i : Nat} {c : UInt16} {y z : Peer} {k : FetchKind}
  {e : QueueElement} {ω : Choice} {before : Node} {s : ConnManager} {x : Gathering}
  {token token' : FetchKind → Peer → Nat → UInt16 → Token} {p : MessageRound2Preprepare}
  {m : MessageRound2FullCommit} {a : LockStep.State} {log : List MessageRound2Preprepare}

/-! ## The next entry -/

/-- The next entry of the log is the next entry of the gathering. -/
theorem next_of_log (hinv : Round2Inv d σ b a log) (hi : i < d.conf.numSL b)
    (hp : log[a.com i]? = some p) (hlt : a.com i < a.closed) :
    (gathering σ token).Next d.layout (b, i) (entryOf p) := by
  obtain ⟨hlt', hnext, hfirst⟩ :
      (exchange σ fun _ _ _ _ => .idle).Next d.layout (b, i) (entryOf p) := hinv.next hi hp hlt
  refine ⟨hlt', hnext, hfirst, fun j hj => ?_⟩
  show entryOf p ∈ (accepted σ (b, j)).map entryOf
  -- a round that is closed has the Preprepare at all SLs
  have hacc := hinv.lock.closed_le_acc j hj
  rw [accepted_eq hinv hj, List.map_map,
    show entryOf ∘ MessageRound2Preprepare.copy = entryOf from funext entryOf_copy]
  refine List.mem_map_of_mem (List.mem_of_getElem? (i := a.com i) ?_)
  rw [List.getElem?_take_of_lt (by omega), hp]

/-! ## Any commit -/

/-- The gathering after an SL has committed an entry. -/
def afterCommit (x : Gathering) (y : Peer) (e : Entry)
    (token : FetchKind → Peer → Nat → UInt16 → Token) : Gathering :=
  { x.commit y e with token := token }

theorem afterCommit_mem {e e' : Entry} :
    e' ∈ (afterCommit x y e token).committed y ↔ e' ∈ x.committed y ∨ e' = e := by
  show e' ∈ (x.commit y e).committed y ↔ _
  rw [commit_committed, if_pos rfl, List.mem_append, List.mem_singleton]

/-- What a commit of `p` does, until a new round is spawned. -/
structure CommitStep (d : Deployment) (σ : Cluster) (y : Peer) (before : Node)
    (p : MessageRound2Preprepare) (s : ConnManager)
    (token token' : FetchKind → Peer → Nat → UInt16 → Token) : Prop where
  juggleQueue : s.juggleQueue = before.sl.juggleQueue
  nextCycle : s.leaderRound2NextRcanopusCycle = before.sl.leaderRound2NextRcanopusCycle
  envoysRr : s.leaderEnvoysRr = before.sl.leaderEnvoysRr
  queue : s.pLeaderRound2PendingPreprepareRaw = before.sl.pLeaderRound2PendingPreprepareRaw
  history : ∃ events, s.history = before.sl.history ++ .committed p :: events
    ∧ issuedOf events = [] ∧ committedOf events = [] ∧ acceptedOf events = []
    ∧ closedOf events = (closedCycle d.conf.numBG (entryOf p)).toList
  status : ∀ c ≠ p.cycle, s.mapRound3Status c = before.sl.mapRound3Status c
  pending : ∀ k, ∀ c ≠ p.cycle,
    s.mapRound3PendingRequests k c = before.sl.mapRound3PendingRequests k c
  storage : s.pStorage = before.sl.pStorage ++ (closedCycle d.conf.numBG (entryOf p)).toList
  moved : ∀ k w A, ∀ c ≠ p.cycle, token' k w A c = token k w A c
  done : ∀ k w A c, token' k w A c = .done ↔ token k w A c = .done
  elsewhere : ∀ z ≠ y, ∀ k w c, token' k w z.1 c = .pending z.2 ↔ token k w z.1 c = .pending z.2
  requests : ∀ z k w c, (if token' k w z.1 c = .asked z.2 then 1 else 0)
    = (if token k w z.1 c = .asked z.2 then 1 else 0)
      + countKey (requestFrom w.2) (k, w.1, c) (sent y s.sendQueue z)
  responses : ∀ z k A c, (if held d.layout token' k z A c = .answered z.2 then 1 else 0)
    = (if held d.layout token k z A c = .answered z.2 then 1 else 0)
      + countKey Message.responseKey (k, A, c) (sent y s.sendQueue z)
  good : ∀ z, ∀ e ∈ sent y s.sendQueue z, GoodMessage d σ z e.pMessage

section Commit

variable (hd : Dispatch d σ σ' y e ω before) (hs : CommitStep d σ y before p s token token')

include hs

theorem CommitStep.issuedOf_eq : issuedOf s.history = issuedOf before.sl.history := by
  obtain ⟨events, hhistory, hissued, -⟩ := hs.history
  rw [hhistory, issuedOf_append]
  show _ ++ issuedOf events = _
  rw [hissued, List.append_nil]

theorem CommitStep.committedOf_eq :
    committedOf s.history = committedOf before.sl.history ++ [p] := by
  obtain ⟨events, hhistory, -, hcommitted, -⟩ := hs.history
  rw [hhistory, committedOf_append]
  show _ ++ p :: committedOf events = _
  rw [hcommitted]

theorem CommitStep.acceptedOf_eq : acceptedOf s.history = acceptedOf before.sl.history := by
  obtain ⟨events, hhistory, -, -, haccepted, -⟩ := hs.history
  rw [hhistory, acceptedOf_append]
  show _ ++ acceptedOf events = _
  rw [haccepted, List.append_nil]

theorem CommitStep.closedOf_eq : closedOf s.history
    = closedOf before.sl.history ++ (closedCycle d.conf.numBG (entryOf p)).toList := by
  obtain ⟨events, hhistory, -, -, -, hclosed⟩ := hs.history
  rw [hhistory]
  unfold closedOf
  rw [List.filterMap_append]
  show _ ++ closedOf events = _
  rw [hclosed]

include hd

theorem CommitStep.issued_eq :
    Cluster.issued (install y before (.ok s) σ) = Cluster.issued σ := by
  refine issued_install_of_eq ?_
  rw [Outcome.state_ok, hs.issuedOf_eq, hd.sl_eq]

theorem CommitStep.committed_eq (z : Peer) : Cluster.committed (install y before (.ok s) σ) z
    = if z = y then Cluster.committed σ y ++ [p] else Cluster.committed σ z := by
  rw [committed_install]
  split
  · show committedOf s.history = _
    rw [hs.committedOf_eq, hd.sl_eq]
    rfl
  · rfl

theorem CommitStep.committed_subset :
    Cluster.committed σ y ⊆ Cluster.committed (install y before (.ok s) σ) y := by
  rw [hs.committed_eq hd, if_pos rfl]
  exact List.subset_append_left _ _

/-- What was committed is committed. -/
theorem CommitStep.mem_committed : p ∈ Cluster.committed (install y before (.ok s) σ) y := by
  rw [hs.committed_eq hd, if_pos rfl]
  exact List.mem_append_right _ List.mem_cons_self

theorem CommitStep.gathering_eq : gathering (install y before (.ok s) σ) token'
    = afterCommit (gathering σ token) y (entryOf p) token' := by
  unfold gathering afterCommit Gathering.commit entries
  rw [hs.issued_eq hd, accepted_install_of_eq]
  · simp only [Gathering.mk.injEq, true_and, and_true]
    refine ⟨?_, ?_⟩
    · funext b
      by_cases hb : (b, 0) = y
      · subst hb
        rw [install_sl_self]
        show s.pLeaderRound2PendingPreprepareRaw.map entryOf = _
        rw [hs.queue, hd.sl_eq]
      · rw [install_sl_of_ne hb]
    · funext z
      rw [hs.committed_eq hd, Function.update_apply]
      split
      · rw [List.map_append]
        rfl
      · rfl
  · rw [Outcome.state_ok, hs.acceptedOf_eq, hd.sl_eq]

/-- **Any commit** keeps the invariant when it does in the abstract model. -/
theorem Round3Inv.commit (h : Round3Inv d σ token) (he : e.pMessage.isRound2 = true)
    (hinv : (afterCommit (gathering σ token) y (entryOf p) token').Inv d.layout)
    (hstatus : StatusAt d (install y before (.ok s) σ)
      (afterCommit (gathering σ token) y (entryOf p) token') y p.cycle (s.mapRound3Status p.cycle))
    (hpending : ∀ k, PendingOk (afterCommit (gathering σ token) y (entryOf p) token') y k p.cycle
      (s.mapRound3PendingRequests k p.cycle))
    (hevents : ∀ ev ∈ s.history, ev ∈ before.sl.history
      ∨ EventOk d (install y before (.ok s) σ) y ev) :
    Round3Inv d (install y before (.ok s) σ) token' := by
  have hgathering := hs.gathering_eq hd
  have hrequest := fun i => requestFrom_round2 (i := i) e.pMessage he
  have hresponse := Message.responseKey_round2 he
  have hstep : Round3Step d σ y e before s token token' := by
    refine ⟨hs.juggleQueue, hs.issuedOf_eq, hs.nextCycle, hs.envoysRr, fun z k w c => ?_,
      fun z k A c => ?_, hs.good⟩
    · rw [hrequest, hs.requests z k w c]
      simp
    · rw [hresponse, hs.responses z k A c]
      simp
  have hsub : ∀ b, Cluster.issued σ b ⊆ Cluster.issued (install y before (.ok s) σ) b := by
    rw [hs.issued_eq hd]
    exact fun _ _ hq => hq
  have hsl := SlOk.taken hd (h.sl y)
  refine h.installed hd hstep (hgathering ▸ hinv) ?_ fun z hz => ?_
  · rw [hgathering]
    refine hsl.touched (c := p.cycle) ?_ hsub (hs.committed_subset hd)
    refine {
      entries := fun e he => mem_commit_of_ne y fun heq => he (heq ▸ cycle_entryOf)
      token := fun k w A c hc => hs.moved k w A c hc
      status := hs.status
      status_self := hstatus
      pending := hs.pending
      pending_self := hpending
      storage := ?_
      closed := ?_
      events := hevents
      proposals := fun q hq => Or.inl (hs.queue ▸ hq) }
    · show s.pStorage = (((gathering σ token).commit y (entryOf p)).committed y).filterMap _
      rw [hs.storage, commit_committed, if_pos rfl, List.filterMap_append, hsl.storage]
      congr 1
    · show closedOf s.history = s.pStorage
      rw [hs.closedOf_eq, hs.storage, hsl.closed]
  · rw [hgathering]
    refine ⟨?_, fun k _ A c => held_done_congr fun k w A c => hs.done k w A c,
      fun k w c => hs.elsewhere z hz k w c⟩
    show ((gathering σ token).commit y (entryOf p)).committed z = _
    rw [commit_committed, if_neg hz]

end Commit

/-- The state of an SL that has crashed is as if it had returned. -/
theorem Round3Inv.thrown {ex : Exception} (h : Round3Inv d (install y before (.ok s) σ) token) :
    Round3Inv d (install y before (.thrown ex s) σ) token := by
  have hsl : ∀ z, (install y before (.thrown ex s) σ z).sl
      = (install y before (.ok s) σ z).sl := by
    intro z
    by_cases hz : z = y
    · subst hz
      rw [install_sl_self, install_sl_self]
      rfl
    · rw [install_sl_of_ne hz, install_sl_of_ne hz]
  have hpool : ∀ z, pool (install y before (.thrown ex s) σ) z
      = pool (install y before (.ok s) σ) z := by
    intro z
    by_cases hz : z = y
    · subst hz
      rw [pool_install_self, pool_install_self]
      rfl
    · rw [pool_install_of_ne hz, pool_install_of_ne hz]
      rfl
  refine h.same (.of_pool (fun z => ?_) ?_ ?_ fun z => ?_) ?_ fun z i key => ?_
  · rw [hsl]
    exact .refl _
  · funext b
    unfold Cluster.issued
    rw [hsl]
  · funext z
    unfold Cluster.committed
    rw [hsl]
  · rw [hpool]
  · funext z
    unfold Cluster.accepted
    rw [hsl]
  · rw [hpool]

end RCanopus.Hybrid
