import RCanopus.Round2Moves

/-!
# Round 2 keeps its invariant

A dispatch opens the invariant at one SL (`Round2Inv.start`), changes it by one of the transitions
of `LockStep`, perhaps followed by a proposal, and closes it again (`Staged.finish`).
-/

namespace RCanopus

open Cluster

variable {d : Deployment} {σ σ' : Cluster} {b i : Nat} {e : QueueElement} {ω : Choice}
  {before : Node} {a a₀ : LockStep.State} {log log₀ : List MessageRound2Preprepare}
  {v : Round2View}
  {rest : Multiset QueueElement}

/-! ## Opening and closing -/

/-- Of the messages of round 2 none is lost when the others are left out. -/
theorem ofType_filter_round2 {t : MessageType} (ht : t.isRound2 = true) (l : List QueueElement) :
    ofType t ↑(l.filter fun e => e.pMessage.isRound2) = ofType t ↑l := by
  unfold ofType
  rw [Multiset.filter_coe, Multiset.filter_coe, List.filter_filter]
  congr 1
  refine List.filter_congr fun e _ => ?_
  by_cases he : e.pMessage.msgType = t
  · simp [he, Message.isRound2, ht]
  · simp [he]

theorem ofType_sent_filter_round2 {t : MessageType} (ht : t.isRound2 = true) {x y : Peer}
    (l : List QueueElement) :
    ofType t (sent x (l.filter fun e => e.pMessage.isRound2) y) = ofType t (sent x l y) := by
  rw [ofType_sent, ofType_sent, List.filter_filter]
  congr 1
  refine List.filter_congr fun e _ => ?_
  by_cases he : e.pMessage.msgType = t
  · simp [he, Message.isRound2, ht]
  · simp [he]

/-- What goes to one BG does not arrive in another. -/
theorem sent_of_local {x y : Peer} {l : List QueueElement} (hl : ∀ e ∈ l, LocalTo x.1 e)
    (hy : y.1 ≠ x.1) : sent x l y = 0 := by
  refine Multiset.eq_zero_of_forall_notMem fun e' he' => ?_
  unfold sent at he'
  obtain ⟨e, he, hd⟩ := List.mem_flatMap.mp (Multiset.mem_coe.mp he')
  obtain ⟨-, h | h⟩ := mem_deliveries hd
  · exact hy (by rw [h.1])
  · rcases hl e he _ h.1 with hp | ⟨sl, hp⟩
    · exact absurd hp (by simp)
    · rw [Option.some.injEq] at hp
      exact hy (by rw [hp])

section Open

variable {o : Outcome} (hd : DispatchTo d σ σ' (b, i) e before o)

include hd

theorem Cluster.DispatchTo.at_before (hinv : Round2Inv d σ b a log) :
    before.sl.At before.sl.round2View := by
  refine ⟨rfl, ?_⟩
  rw [hd.sl_eq]
  exact hinv.versions i hd.has.2 hd.alive

theorem Cluster.DispatchTo.sendQueue_before (hinv : Round2Inv d σ b a log) :
    before.sl.sendQueue = [] := by
  rw [hd.sl_eq]
  exact hinv.sendQueue i hd.has.2

/-- The invariant as SL `i` takes up an element. -/
theorem Round2Inv.start (hinv : Round2Inv d σ b a log) :
    Staged d σ b i (e ::ₘ ↑before.inbox) a log before.sl.round2View := by
  have hi := hd.has.2
  have hsends : before.sl.round2View.trace.sends = [] := by
    unfold ConnManager.round2View
    rw [hd.sendQueue_before hinv]
    rfl
  refine { hinv.toLogOk with
    trace_self := ?_
    live_self := ?_
    flight_self := ?_
    trace_others := fun j hj _ => hinv.trace j hj
    live_others := fun j hj _ => hinv.live j hj
    flight_others := ?_
    sends_local := ?_ }
  · have h := hinv.trace i hi
    rw [hd.sl_eq]
    exact h
  · refine (hinv.live i hi hd.alive).of_eq ?_
    rw [hd.sl_eq]
    rfl
  · refine (hinv.flight i hi).congr fun t ht => ?_
    have hjug : ofType t ↑before.sl.round2View.trace.juggled = ofType t ↑before.sl.juggleQueue :=
      ofType_filter_round2 ht _
    rw [hsends, sent_nil, add_zero, ofType_add, hjug, ← ofType_add, hd.taken, Multiset.cons_add]
  · intro j hj hji
    rw [hsends, sent_nil, add_zero]
    exact hinv.flight j hj
  · rw [hsends]
    exact fun e he => absurd he List.not_mem_nil

/-- Closing: the dispatcher has kept the view. -/
theorem Staged.finish (hinv : Round2Inv d σ b a₀ log₀)
    (hst : Staged d σ b i ↑before.inbox a log v)
    (ho : o.Keeps v) : Round2Inv d σ' b a log := by
  have hresult := hd.result
  have htrace : o.state.round2View.trace = v.trace := ho.trace
  have hothers : ∀ j, j ≠ i → (b, j) ≠ (b, i) := fun j hj h => hj (congrArg Prod.snd h)
  have hsl : ∀ j, j ≠ i → (σ' (b, j)).sl = (σ (b, j)).sl := fun j hj => by
    rw [hresult, install_sl_of_ne (hothers j hj)]
  have hcr : ∀ j, j ≠ i → (σ' (b, j)).crashed = (σ (b, j)).crashed := fun j hj => by
    rw [hresult, install_crashed_of_ne (hothers j hj)]
  have hself : (σ' (b, i)).sl = { o.state with sendQueue := [] } := by
    rw [hresult, install_sl_self]
  refine { hst.toLogOk with
    trace := ?_
    live := ?_
    versions := ?_
    sendQueue := ?_
    flight := ?_ }
  · intro j hj
    by_cases hji : j = i
    · subst hji
      have h := hst.trace_self
      rw [← htrace] at h
      rw [hself]
      exact h
    · rw [hsl j hji]
      exact hst.trace_others j hj hji
  · intro j hj hcrashed
    by_cases hji : j = i
    · subst hji
      cases o with
      | ok s =>
        rw [hself]
        refine hst.live_self.of_eq ?_
        rw [← ho.1]
        rfl
      | thrown ex s =>
        rw [hresult, install_thrown_crashed] at hcrashed
        exact absurd hcrashed (by simp)
    · rw [hcr j hji] at hcrashed
      rw [hsl j hji]
      exact hst.live_others j hj hji hcrashed
  · intro j hj hcrashed
    by_cases hji : j = i
    · subst hji
      cases o with
      | ok s =>
        rw [hself]
        exact ho.2
      | thrown ex s =>
        rw [hresult, install_thrown_crashed] at hcrashed
        exact absurd hcrashed (by simp)
    · rw [hcr j hji] at hcrashed
      rw [hsl j hji]
      exact hinv.versions j hj hcrashed
  · intro j hj
    by_cases hji : j = i
    · subst hji
      rw [hself]
    · rw [hsl j hji]
      exact hinv.sendQueue j hj
  · intro j hj
    by_cases hji : j = i
    · subst hji
      refine hst.flight_self.congr fun t ht => ?_
      rw [hresult, pool_install_self, ← htrace]
      simp only [ofType_add]
      congr 1
      · congr 1
        exact (ofType_filter_round2 ht _).symm
      · exact (ofType_sent_filter_round2 ht _).symm
    · refine (hst.flight_others j hj hji).congr fun t ht => ?_
      rw [hresult, pool_install_of_ne (hothers j hji), ← htrace]
      simp only [ofType_add]
      congr 1
      exact (ofType_sent_filter_round2 ht _).symm

/-- What SL `i` did in round 2 stays in its BG. -/
theorem Staged.finish_other {b' : Nat} (hb : b' ≠ b)
    (hst : Staged d σ b i ↑before.inbox a log v)
    (ho : o.Keeps v) (hinv : Round2Inv d σ b' a₀ log₀) : Round2Inv d σ' b' a₀ log₀ := by
  have hresult := hd.result
  have htrace : o.state.round2View.trace = v.trace := ho.trace
  have hothers : ∀ j, (b', j) ≠ (b, i) := fun j h => hb (congrArg Prod.fst h)
  have hsl : ∀ j, (σ' (b', j)).sl = (σ (b', j)).sl := fun j => by
    rw [hresult, install_sl_of_ne (hothers j)]
  have hcr : ∀ j, (σ' (b', j)).crashed = (σ (b', j)).crashed := fun j => by
    rw [hresult, install_crashed_of_ne (hothers j)]
  have hsent : ∀ j t, t.isRound2 = true →
      ofType t (sent (b, i) o.state.sendQueue (b', j)) = 0 := fun j t ht => by
    rw [← ofType_sent_filter_round2 ht]
    have hsends : o.state.sendQueue.filter (fun e => e.pMessage.isRound2) = v.trace.sends := by
      rw [← htrace]
      rfl
    rw [hsends, sent_of_local (y := (b', j)) hst.sends_local hb, ofType_zero]
  refine { hinv.toLogOk with
    trace := fun j hj => ?_
    live := fun j hj hcrashed => ?_
    versions := fun j hj hcrashed => ?_
    sendQueue := fun j hj => ?_
    flight := fun j hj => ?_ }
  · rw [hsl]
    exact hinv.trace j hj
  · rw [hsl]
    exact hinv.live j hj (hcr j ▸ hcrashed)
  · rw [hsl]
    exact hinv.versions j hj (hcr j ▸ hcrashed)
  · rw [hsl]
    exact hinv.sendQueue j hj
  · refine (hinv.flight j hj).congr fun t ht => ?_
    rw [hresult, pool_install_of_ne (hothers j), ofType_add, hsent j t ht, add_zero]

end Open

/-! ## What a dispatch does -/

/--
The cases of a dispatch at SL `i`, by what it does in round 2: it stays in round 2, it commits, or
the message is not of round 2 and at most wakes up the leader.
-/
inductive Round2Dispatch (d : Deployment) (σ : Cluster) (b i : Nat) (e : QueueElement) (ω : Choice)
    (before : Node) (a : LockStep.State) (log : List MessageRound2Preprepare) : Outcome → Prop
  | quiet (s' : ConnManager) (a' : LockStep.State) (v' : Round2View)
    (he : e.pMessage.isRound2 = true) (hs : s'.At v')
    (h3 : s'.round3View = before.sl.round3View) (hcom : a'.com = a.com)
    (hstatus : v'.status = before.sl.round2View.status
      ∨ ∃ status, v'.status = some status ∧ status.state ≠ .round2Committed)
    (hst : Staged d σ b i ↑before.inbox a' log v') :
    Round2Dispatch d σ b i e ω before a log (.ok s')
  | commit (p : MessageRound2Preprepare) (hp : log[a.com i]? = some p)
    (hlt : a.com i < a.closed)
    (he : e.pMessage = .round2FullCommit
      (fullCommitMessage (collectorOf log (a.com i)) 1 (seqOf (a.com i))))
    (hst : Staged d σ b i ↑before.inbox (a.commit i) log (before.sl.round2View.commit p.copy))
    (hst' : Staged d σ b i ↑before.inbox (a.commit i) log
      (before.sl.round2View.commit p.copy).clear) :
    Round2Dispatch d σ b i e ω before a log
      (fullCommitBranch (d.env (b, i)) ω
        (fullCommitMessage (collectorOf log (a.com i)) 1 (seqOf (a.com i))) p.copy
        (.committed p.copy) (beforeBranch p.copy before.sl) (spawnRound2 (d.env (b, i)) ω))
  | other (he : e.pMessage.isRound2 = false ∨ ∃ m, e.pMessage = .empty m ∧ i = 0)
    (hst : Staged d σ b i ↑before.inbox a log before.sl.round2View) :
    Round2Dispatch d σ b i e ω before a log (dispatcherRound2 (d.env (b, i)) ω e before.sl)

theorem seqOf_lt {j k : Nat} (hjk : j < k) (hk : k < 65535) : seqOf j < seqOf k := by
  unfold seqOf
  rw [UInt16.lt_iff_toNat_lt, UInt16.toNat_ofNat', UInt16.toNat_ofNat',
    Nat.mod_eq_of_lt (by omega), Nat.mod_eq_of_lt (by omega)]
  omega

/-- The status of an SL in the ready phase. -/
theorem ready_of_status {s : ConnManager} (hs : s.At v)
    (hstatus : v.status = none ∨ v.status = some .waitingForPreprepare) : s.Ready := by
  have h : s.pRound2CurrentStatus = v.status := congrArg Round2View.status hs.1
  unfold ConnManager.Ready
  rw [h]
  exact hstatus

/-- Whether a Preprepare is too early depends on the view. -/
theorem preprepareTooEarly_at {s : ConnManager} {p : MessageRound2Preprepare} (hs : s.At v)
    (hview : p.view = v.nextView) :
    preprepareTooEarly s p = decide (v.nextSeq < p.seq) := by
  have h1 : s.round2NextView = v.nextView := congrArg Round2View.nextView hs.1
  have h2 : s.round2NextSeq = v.nextSeq := congrArg Round2View.nextSeq hs.1
  unfold preprepareTooEarly
  rw [h1, h2, hview]
  simp

section Taken

variable {o : Outcome} (hd : DispatchTo d σ σ' (b, i) e before o)
  (hinv : Round2Inv d σ b a log)

include hd

/-- The elements of one type that can be taken. -/
theorem Cluster.DispatchTo.mem_pool : e ∈ ofType e.pMessage.msgType (pool σ (b, i)) := by
  rw [mem_ofType, hd.taken]
  exact ⟨Multiset.mem_cons_self _ _, rfl⟩

include hinv

/-- A Preprepare that waits is the next one. -/
theorem Cluster.DispatchTo.preprepare_eq (he : e.pMessage.msgType = .round2Preprepare) :
    ∃ p, log[a.acc i]? = some p ∧ e = preprepareAt b i p := by
  have hmem := hd.mem_pool
  rw [he, (hinv.flight i hd.has.2).preprepare, Multiset.mem_coe, List.mem_map] at hmem
  obtain ⟨p, hp, rfl⟩ := hmem
  refine ⟨p, ?_, rfl⟩
  obtain ⟨k, hk⟩ := List.mem_iff_getElem?.mp hp
  rw [List.getElem?_drop] at hk
  have hlt := (List.getElem?_eq_some_iff.mp hk).1
  have h1 := hinv.lock.len_le_closed
  have h2 := hinv.lock.closed_le_acc i hd.has.2
  have h3 := hinv.len
  have hk0 : k = 0 := by omega
  rw [hk0, Nat.add_zero] at hk
  exact hk

/-- A partial commit that waits is an open vote. -/
theorem Cluster.DispatchTo.partialCommit_eq (he : e.pMessage.msgType = .round2PartialCommit) :
    collectorOf log a.closed = i
      ∧ ∃ j ∈ openVotes (d.conf.numSL b) a, e = voteAt b i a.closed j := by
  have hmem := hd.mem_pool
  rw [he, (hinv.flight i hd.has.2).partialCommit] at hmem
  split at hmem
  · next hc =>
    obtain ⟨j, hj, rfl⟩ := Multiset.mem_map.mp hmem
    exact ⟨hc, j, hj, rfl⟩
  · exact absurd hmem (Multiset.notMem_zero _)

/-- A full commit that waits is for the next entry to commit. -/
theorem Cluster.DispatchTo.fullCommit_eq (he : e.pMessage.msgType = .round2FullCommit) :
    a.com i < a.closed ∧ e = fullCommitAt b i (a.com i) (collectorOf log (a.com i)) := by
  have hmem := hd.mem_pool
  rw [he, (hinv.flight i hd.has.2).fullCommit] at hmem
  split at hmem
  · next hlt => exact ⟨hlt, Multiset.mem_singleton.mp hmem⟩
  · exact absurd hmem (Multiset.notMem_zero _)

end Taken

section Cases

variable (hd : Dispatch d σ σ' (b, i) e ω before) (hinv : Round2Inv d σ b a log)

include hd hinv

/-- A Preprepare is accepted, or it waits until the running round is over. -/
theorem Round2Inv.dispatch_preprepare (he : e.pMessage.msgType = .round2Preprepare) :
    Round2Dispatch d σ b i e ω before a log (dispatcherRound2 (d.env (b, i)) ω e before.sl) := by
  obtain ⟨p, hp, rfl⟩ := hd.to.preprepare_eq hinv he
  have hi : i < d.conf.numSL b := hd.has.2
  have hst := hinv.start hd.to
  have hs := hd.to.at_before hinv
  have hentry := hinv.entries _ _ hp
  have hm : (preprepareAt b i p).pMessage = .round2Preprepare p.copy := rfl
  have hversion : p.copy.header.version = versionLatest := hentry.version
  have hlive := hst.live_self
  have hview : p.copy.view = before.sl.round2View.nextView := hentry.view.trans hlive.nextView.symm
  have hlt := (List.getElem?_eq_some_iff.mp hp).1
  have hjuggle : ∀ status, before.sl.round2View.status = some status →
      status.awaitingMessageType ≠ .round2Preprepare →
      Round2Dispatch d σ b i (preprepareAt b i p) ω before a log
        (dispatcherRound2 (d.env (b, i)) ω (preprepareAt b i p) before.sl) := fun status h1 h2 => by
    obtain ⟨s', ho, hs', h3⟩ := preprepare_juggled hm hversion hs h1 h2
    rw [ho]
    exact .quiet s' a _ rfl hs' h3 rfl (Or.inl rfl) hst.juggle
  cases hlive.phase with
  | stuck q k hk hq hacc hstatus =>
    exact hjuggle _ hstatus (by simp [CycleStatus.committed, CycleStatus.active])
  | active q hq hacc hstored hcollector hstatus =>
    refine hjuggle _ hstatus ?_
    split
    · exact fun h => absurd h (by simp [CycleStatus.collecting, CycleStatus.active])
    · exact fun h => absurd h (by simp [CycleStatus.waitingForFullcommit, CycleStatus.active])
  | ready hacc hstored hstatus hleader =>
    have hready := ready_of_status hs hstatus
    have hlen := hinv.len
    have hcom0 := hinv.lock.len_le_com
    have hshort := hinv.short
    have hacc0 := hinv.lock.com_le_acc 0 (by omega)
    by_cases hearly : i = 0 ∧ log.length = 65535
    · -- the leader's counter has wrapped, and its own copy looks like a later one
      obtain ⟨rfl, hwrap⟩ := hearly
      have hacc65534 : a.acc 0 = 65534 := by omega
      have htoo : preprepareTooEarly before.sl p.copy = true := by
        rw [preprepareTooEarly_at hs hview]
        have h1 := hlive.nextSeq
        rw [if_pos rfl, hwrap] at h1
        have h2 : p.copy.seq = seqOf 65534 := hacc65534 ▸ hentry.seq
        rw [h1, h2]
        decide
      have hwaiting : before.sl.round2View.status = some .waitingForPreprepare := by
        refine hstatus.resolve_left fun h => ?_
        have := (hleader rfl).mp h
        omega
      have ho : dispatcherRound2 (d.env (b, 0)) ω (preprepareAt b 0 p) before.sl = _ :=
        preprepare_early hm hversion hs hwaiting htoo
      rw [ho]
      exact .quiet _ a _ rfl (at_juggle_round2 hs rfl) (before.sl.round3View_juggle rfl) rfl
        (Or.inl rfl) hst.juggle
    · have hshort' : i = 0 → log.length < 65535 := fun h => by
        have : log.length ≠ 65535 := fun hl => hearly ⟨h, hl⟩
        omega
      have hseq : i = 0 ∨ p.copy.seq = before.sl.round2View.nextSeq := by
        by_cases h0 : i = 0
        · exact Or.inl h0
        · refine Or.inr (hentry.seq.trans ?_)
          rw [hlive.nextSeq, if_neg h0]
      have htoo : preprepareTooEarly before.sl p.copy = false := by
        rw [preprepareTooEarly_at hs hview, decide_eq_false_iff_not]
        rcases hseq with rfl | hseq
        · have h1 := hlive.nextSeq
          rw [if_pos rfl] at h1
          have h2 : p.copy.seq = seqOf (a.acc 0) := hentry.seq
          rw [h1, h2]
          exact UInt16.not_lt.mpr (UInt16.le_of_lt (seqOf_lt hlt (hshort' rfl)))
        · rw [hseq]
          exact UInt16.lt_irrefl _
      have ho : dispatcherRound2 (d.env (b, i)) ω (preprepareAt b i p) before.sl = _ :=
        preprepare_accepted hm hversion hs hready htoo hview hseq hstored
      rw [ho]
      exact .quiet _ (a.accept i) _ rfl (at_afterAccept hs) round3View_afterAccept rfl
        (Or.inr ⟨_, rfl, by
          split
          · exact CycleStatus.collecting_state_ne
          · exact CycleStatus.waitingForFullcommit_state_ne⟩)
        (hst.accept hi hp hacc hshort')

/-- A partial commit is counted, or it waits until its round is collected. -/
theorem Round2Inv.dispatch_partialCommit (he : e.pMessage.msgType = .round2PartialCommit) :
    Round2Dispatch d σ b i e ω before a log (dispatcherRound2 (d.env (b, i)) ω e before.sl) := by
  obtain ⟨hcollector, j, hj, rfl⟩ := hd.to.partialCommit_eq hinv he
  have hi : i < d.conf.numSL b := hd.has.2
  have hst := hinv.start hd.to
  have hs := hd.to.at_before hinv
  have hm : (voteAt b i a.closed j).pMessage
      = .round2PartialCommit (partialCommitMessage j 1 (seqOf a.closed)) := rfl
  have hlive := hst.live_self
  have hclosed : a.closed < 65535 :=
    Nat.lt_of_le_of_lt (hinv.lock.closed_le_acc 0 (by omega)) hinv.short
  have hcom := hinv.lock.com_le_closed i hi
  have hlater : ∀ status, before.sl.round2View.status = some status →
      status.round2Sequence < seqOf a.closed →
      Round2Dispatch d σ b i (voteAt b i a.closed j) ω before a log
        (dispatcherRound2 (d.env (b, i)) ω (voteAt b i a.closed j) before.sl) :=
    fun status h1 h2 => by
      obtain ⟨s', ho, hs', h3⟩ := partialCommit_later hm rfl hs h1 h2
      rw [ho]
      exact .quiet s' a _ rfl hs' h3 rfl (Or.inl rfl) hst.juggle
  cases hlive.phase with
  | ready hacc hstored hstatus hleader =>
    obtain ⟨s', ho, hs', h3⟩ : ∃ s', dispatcherRound2 (d.env (b, i)) ω (voteAt b i a.closed j)
        before.sl = .ok s' ∧ s'.At _ ∧ s'.round3View = before.sl.round3View :=
      partialCommit_ready hm rfl hs (ready_of_status hs hstatus)
    rw [ho]
    exact .quiet s' a _ rfl hs' h3 rfl (Or.inl rfl) hst.juggle
  | stuck q k hk hq hacc hstatus =>
    refine hlater _ hstatus ?_
    have hseq : q.seq = seqOf k := (hinv.entries _ _ hq).seq
    show q.seq < _
    rw [hseq]
    exact seqOf_lt (by omega) hclosed
  | active q hq hacc hstored hcol hstatus =>
    have hentry := hinv.entries _ _ hq
    rcases Nat.eq_or_lt_of_le hcom with heq | hlt
    · rw [heq] at hq
      have hqi : q.collectorSLid.toNat = i := by rw [← collectorOf_eq hq, hcollector]
      have hopen : a.closed < a.acc i := by omega
      have hview : (partialCommitMessage j 1 (seqOf a.closed)).view = q.copy.view :=
        hentry.view.symm
      have hseq : (partialCommitMessage j 1 (seqOf a.closed)).seq = q.copy.seq := by
        rw [← heq]
        exact hentry.seq.symm
      rw [if_pos ⟨hqi, heq⟩] at hstatus
      rw [hqi, beq_self_eq_true] at hcol
      have ho : dispatcherRound2 (d.env (b, i)) ω (voteAt b i a.closed j) before.sl = _ :=
        partialCommit_counted hm rfl hs hstatus hcol hstored rfl hview hseq rfl
      rw [ho]
      by_cases hlast : (a.votes a.closed).length + 1 = d.conf.numSL b
      · exact .quiet _ (a.count (d.conf.numSL b) j) _ rfl (at_afterCount_last hs hlast)
          round3View_afterCount rfl (Or.inr ⟨_, rfl, CycleStatus.waitingForFullcommit_state_ne⟩)
          (hst.countLast hq hqi hi hopen hj hlast)
      · exact .quiet _ (a.count (d.conf.numSL b) j) _ rfl (at_afterCount hs hlast)
          round3View_afterCount rfl (Or.inr ⟨_, rfl, CycleStatus.collecting_state_ne⟩)
          (hst.count hq hqi hi hopen hj hlast)
    · rw [if_neg fun h => Nat.ne_of_lt hlt h.2] at hstatus
      refine hlater _ hstatus ?_
      show q.seq < _
      rw [hentry.seq]
      exact seqOf_lt hlt hclosed

/-- A full commit is never juggled, and it commits the next entry. -/
theorem Round2Inv.fullCommit_branch (he : e.pMessage.msgType = .round2FullCommit) :
    ∃ p, log[a.com i]? = some p ∧ dispatcherRound2 (d.env (b, i)) ω e before.sl
      = fullCommitBranch (d.env (b, i)) ω
        (fullCommitMessage (collectorOf log (a.com i)) 1 (seqOf (a.com i))) p.copy
        (.committed p.copy) (beforeBranch p.copy before.sl) (spawnRound2 (d.env (b, i)) ω) := by
  obtain ⟨hlt, rfl⟩ := hd.to.fullCommit_eq hinv he
  have hi : i < d.conf.numSL b := hd.has.2
  obtain ⟨hacc, hclosed⟩ := hinv.lock.closed_of_lt hi hlt
  have hst := hinv.start hd.to
  have hs := hd.to.at_before hinv
  cases hst.live_self.phase with
  | ready hidle => omega
  | stuck q k hk hq hidle => omega
  | active q hq hidle hstored hcol hstatus =>
    have hentry := hinv.entries _ _ hq
    rw [if_neg fun h => Nat.ne_of_lt hlt h.2] at hstatus
    exact ⟨q, hq, fullCommit_committed rfl rfl hs hstatus hstored
      (show (1 : UInt16) = q.view from hentry.view.symm)
      (show seqOf (a.com i) = q.seq from hentry.seq.symm)⟩

theorem Round2Inv.dispatch_fullCommit (he : e.pMessage.msgType = .round2FullCommit) :
    Round2Dispatch d σ b i e ω before a log (dispatcherRound2 (d.env (b, i)) ω e before.sl) := by
  obtain ⟨p, hp, ho⟩ := hinv.fullCommit_branch hd he
  obtain ⟨hlt, rfl⟩ := hd.to.fullCommit_eq hinv he
  have hi : i < d.conf.numSL b := hd.has.2
  have hst := hinv.start hd.to
  rw [ho]
  exact .commit p hp hlt rfl (hst.commit hi hlt hp) (hst.commit_clear hi hlt hp)

/-- **Every dispatch** is one of the three cases. -/
theorem Round2Inv.dispatch_cases :
    Round2Dispatch d σ b i e ω before a log (dispatcherRound2 (d.env (b, i)) ω e before.sl) := by
  have hst := hinv.start hd.to
  cases hm : e.pMessage with
  | round2Preprepare m => exact hinv.dispatch_preprepare hd (by rw [hm]; rfl)
  | round2PartialCommit m => exact hinv.dispatch_partialCommit hd (by rw [hm]; rfl)
  | round2FullCommit m => exact hinv.dispatch_fullCommit hd (by rw [hm]; rfl)
  | empty m =>
    obtain ⟨hi, hst'⟩ := hst.drop_empty (by rw [hm]; rfl)
    exact .other (Or.inr ⟨m, hm, hi⟩) hst'
  | hello m => exact .other (Or.inl (by rw [hm]; rfl)) (hst.drop (by rw [hm]; rfl))
  | round2Request m => exact .other (Or.inl (by rw [hm]; rfl)) (hst.drop (by rw [hm]; rfl))
  | round3FetchRequest m => exact .other (Or.inl (by rw [hm]; rfl)) (hst.drop (by rw [hm]; rfl))
  | round3FetchResponse m => exact .other (Or.inl (by rw [hm]; rfl)) (hst.drop (by rw [hm]; rfl))
  | round3GeneralFetch m => exact .other (Or.inl (by rw [hm]; rfl)) (hst.drop (by rw [hm]; rfl))
  | round3ConnectivityResponse m =>
    exact .other (Or.inl (by rw [hm]; rfl)) (hst.drop (by rw [hm]; rfl))
  | round3MembershipResponse m =>
    exact .other (Or.inl (by rw [hm]; rfl)) (hst.drop (by rw [hm]; rfl))

end Cases

end RCanopus
