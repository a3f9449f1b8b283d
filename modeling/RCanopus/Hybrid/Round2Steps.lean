import RCanopus.Hybrid.Round2

/-!
# Round 2 of the hybrid variant keeps its invariant

The invariant of round 2 is that of `ConnManager.cpp`. A Preprepare that waits at the gate is the
same as one that waits for its round.
-/

namespace RCanopus.Hybrid

open Cluster

variable {d : Deployment} {σ σ' : Cluster} {b i : Nat} {e : QueueElement} {ω : Choice}
  {before : Node} {a : LockStep.State} {log : List MessageRound2Preprepare} {v : Round2View}
  {rest : Multiset QueueElement} {p : MessageRound2Preprepare}

/-- An SL that has nothing to do waits for the Preprepare that is on its way. -/
theorem waiting_of_ready (hst : Staged d σ b i rest a log v) (hacc : a.acc i = a.com i)
    (hstored : v.stored = none) (hlt : a.acc i < log.length) :
    Staged d σ b i rest a log { v with status := some .waitingForPreprepare } := by
  refine { hst with
    trace_self := hst.trace_self
    live_self := ⟨hst.live_self.nextView, hst.live_self.nextSeq, hst.live_self.collectorRr, ?_⟩
    flight_self := hst.flight_self
    flight_others := hst.flight_others
    sends_local := hst.sends_local }
  refine .ready hacc hstored (Or.inr rfl) fun h0 => iff_of_false (by simp) ?_
  subst h0
  omega

/--
The cases of a dispatch at SL `i`, by what it does in round 2: it stays in round 2 and may accept a
Preprepare that passes the gate, it commits, or the message is not of round 2 and at most wakes up
the leader.
-/
inductive Round2Dispatch (d : Deployment) (σ : Cluster) (b i : Nat) (e : QueueElement) (ω : Choice)
    (before : Node) (a : LockStep.State) (log : List MessageRound2Preprepare) : Outcome → Prop
  | quiet (s' : ConnManager) (a' : LockStep.State) (v' : Round2View)
    (he : e.pMessage.isRound2 = true) (hs : s'.At v')
    (h3 : s'.round3View = before.sl.round3View) (hcom : a'.com = a.com)
    (hstatus : v'.status = before.sl.round2View.status
      ∨ ∃ status, v'.status = some status ∧ status.state ≠ .round2Committed)
    (hst : Staged d σ b i ↑before.inbox a' log v')
    (haccepted : acceptedOf s'.history = acceptedOf before.sl.history
      ∨ ∃ p, log[a.acc i]? = some p ∧ Passes before.sl p.copy
        ∧ acceptedOf s'.history = acceptedOf before.sl.history ++ [p.copy]) :
    Round2Dispatch d σ b i e ω before a log (.ok s')
  | commit (p : MessageRound2Preprepare) (hp : log[a.com i]? = some p)
    (hlt : a.com i < a.closed)
    (he : e.pMessage = .round2FullCommit
      (fullCommitMessage (collectorOf log (a.com i)) 1 (seqOf (a.com i))))
    (hst : Staged d σ b i ↑before.inbox (a.commit i) log (before.sl.round2View.commit p.copy))
    (hst' : Staged d σ b i ↑before.inbox (a.commit i) log
      (before.sl.round2View.commit p.copy).clear) :
    Round2Dispatch d σ b i e ω before a log
      (fullCommitBranch (d.env (b, i)) ω
        (fullCommitMessage (collectorOf log (a.com i)) 1 (seqOf (a.com i))) p.copy
        (.committed p.copy) (beforeBranch p.copy before.sl) (spawnRound2 (d.env (b, i)) ω))
  | other (he : e.pMessage.isRound2 = false ∨ ∃ m, e.pMessage = .empty m ∧ i = 0)
    (hst : Staged d σ b i ↑before.inbox a log before.sl.round2View) :
    Round2Dispatch d σ b i e ω before a log (dispatcherRound2 (d.env (b, i)) ω e before.sl)

/-- What `ConnManager.cpp` does in round 2, with what was accepted. -/
theorem Round2Dispatch.of_main {o : Outcome} (he : e.pMessage.isRound2 = true)
    (hfull : e.pMessage.msgType ≠ .round2FullCommit) (hempty : e.pMessage.msgType ≠ .empty)
    (h : RCanopus.Round2Dispatch d σ b i e ω before a log o)
    (haccepted : acceptedOf o.state.history = acceptedOf before.sl.history
      ∨ ∃ p, log[a.acc i]? = some p ∧ Passes before.sl p.copy
        ∧ acceptedOf o.state.history = acceptedOf before.sl.history ++ [p.copy]) :
    Round2Dispatch d σ b i e ω before a log o := by
  cases h with
  | quiet s' a' v' he hs h3 hcom hstatus hst =>
    exact .quiet s' a' v' he hs h3 hcom hstatus hst haccepted
  | commit p hp hlt hm hst hst' => exact absurd (by rw [hm]; rfl) hfull
  | other hm hst =>
    rcases hm with hm | ⟨m, hm, -⟩
    · exact absurd (hm.symm.trans he) Bool.false_ne_true
    · exact absurd (by rw [hm]; rfl) hempty

section Cases

variable (hd : Dispatch d σ σ' (b, i) e ω before) (hinv : Round2Inv d σ b a log)

include hd hinv

/--
**A Preprepare** is accepted, or it waits for its round or at the gate. An SL that is between two
rounds has a status for the cycle.
-/
theorem dispatch_preprepare (he : e.pMessage.msgType = .round2Preprepare)
    (hopen : a.acc i = a.com i → ∀ p, log[a.acc i]? = some p →
      p.requestType = requestTypeLocalConnectivity → before.sl.mapRound3Status p.cycle ≠ none) :
    Round2Dispatch d σ b i e ω before a log (dispatcherRound2 (d.env (b, i)) ω e before.sl) := by
  obtain ⟨p, hp, rfl⟩ := hd.preprepare_eq hinv he
  have hi : i < d.conf.numSL b := hd.has.2
  have hst := hinv.start hd
  have hs := hd.at_before hinv
  have hentry := hinv.entries _ _ hp
  have hm : (preprepareAt b i p).pMessage = .round2Preprepare p.copy := rfl
  have hversion : p.copy.header.version = versionLatest := hentry.version
  have hbusy : ∀ current, before.sl.round2View.status = some current →
      current.awaitingMessageType ≠ .round2Preprepare →
      Round2Dispatch d σ b i (preprepareAt b i p) ω before a log
        (dispatcherRound2 (d.env (b, i)) ω (preprepareAt b i p) before.sl) :=
    fun current h1 h2 => by
      have ho : dispatcherRound2 (d.env (b, i)) ω (preprepareAt b i p) before.sl = _ :=
        preprepare_busy hm hversion h1 h2
      rw [ho]
      exact .quiet _ a _ rfl (at_juggle_round2 hs rfl) (before.sl.round3View_juggle rfl) rfl
        (Or.inl rfl) hst.juggle (Or.inl rfl)
  cases hst.live_self.phase with
  | stuck q k hk hq hacc hstatus =>
    exact hbusy _ hstatus (by simp [CycleStatus.committed, CycleStatus.active])
  | active q hq hacc hstored hcollector hstatus =>
    refine hbusy _ hstatus ?_
    split
    · exact fun h => absurd h (by simp [CycleStatus.collecting, CycleStatus.active])
    · exact fun h => absurd h (by simp [CycleStatus.waitingForFullcommit, CycleStatus.active])
  | ready hacc hstored hstatus hleader =>
    rcases passes_or (p := p.copy) (hopen hacc p hp) with hpass | ⟨ht, status, hget, hstate⟩
    · have ho : dispatcherRound2 (d.env (b, i)) ω (preprepareAt b i p) before.sl
          = RCanopus.dispatcherRound2 (d.env (b, i)) ω (preprepareAt b i p) before.sl :=
        dispatcherRound2_passes hm hversion hpass
      have hmain : RCanopus.Cluster.Dispatch d σ σ' (b, i) (preprepareAt b i p) ω before := by
        refine ⟨hd.has, hd.alive, hd.taken, hd.sl_eq, ?_⟩
        rw [← ho]
        exact hd.result
      rw [ho]
      refine .of_main rfl (by rw [he]; decide) (by rw [he]; decide)
        (hinv.dispatch_preprepare hmain he) ?_
      rw [RCanopus.dispatcherRound2_preprepare hm hversion]
      rcases accepted_preprepare with hsame | hmore
      · exact Or.inl hsame
      · exact Or.inr ⟨p, hp, hpass, hmore⟩
    · have ho : dispatcherRound2 (d.env (b, i)) ω (preprepareAt b i p) before.sl = _ :=
        preprepare_waits hm hversion (ready_of_status hs hstatus) ht hget hstate
      have hs' : ConnManager.At
          { before.sl with pRound2CurrentStatus := some CycleStatus.waitingForPreprepare }
          { before.sl.round2View with status := some .waitingForPreprepare } := ⟨rfl, hs.2⟩
      rw [ho]
      refine .quiet _ a _ rfl (at_juggle_round2 hs' rfl) (ConnManager.round3View_juggle _ rfl) rfl
        (Or.inr ⟨_, rfl, ?_⟩) ?_ (Or.inl rfl)
      · simp [CycleStatus.waitingForPreprepare]
      · exact (waiting_of_ready hst hacc hstored (List.getElem?_eq_some_iff.mp hp).1).juggle

/-- A partial commit is counted, or it waits until its round is collected. -/
theorem dispatch_partialCommit (he : e.pMessage.msgType = .round2PartialCommit) :
    Round2Dispatch d σ b i e ω before a log (dispatcherRound2 (d.env (b, i)) ω e before.sl) := by
  obtain ⟨-, j, -, rfl⟩ := hd.partialCommit_eq hinv he
  have ho : dispatcherRound2 (d.env (b, i)) ω (voteAt b i a.closed j) before.sl
      = RCanopus.dispatcherRound2 (d.env (b, i)) ω (voteAt b i a.closed j) before.sl :=
    dispatcherRound2_main (by rw [he]; decide) (by rw [he]; decide) (by rw [he]; decide)
  have hmain : RCanopus.Cluster.Dispatch d σ σ' (b, i) (voteAt b i a.closed j) ω before := by
    refine ⟨hd.has, hd.alive, hd.taken, hd.sl_eq, ?_⟩
    rw [← ho]
    exact hd.result
  rw [ho]
  refine .of_main rfl (by rw [he]; decide) (by rw [he]; decide)
    (hinv.dispatch_partialCommit hmain he) (Or.inl ?_)
  rw [RCanopus.dispatcherRound2_partialCommit (m := partialCommitMessage j 1 (seqOf a.closed))
    rfl rfl]
  exact accepted_partialCommit

/-- A full commit commits the next entry. -/
theorem fullCommit_branch (he : e.pMessage.msgType = .round2FullCommit) :
    ∃ p, log[a.com i]? = some p ∧ dispatcherRound2 (d.env (b, i)) ω e before.sl
      = fullCommitBranch (d.env (b, i)) ω
        (fullCommitMessage (collectorOf log (a.com i)) 1 (seqOf (a.com i))) p.copy
        (.committed p.copy) (beforeBranch p.copy before.sl) (spawnRound2 (d.env (b, i)) ω) := by
  obtain ⟨hlt, rfl⟩ := hd.fullCommit_eq hinv he
  have hi : i < d.conf.numSL b := hd.has.2
  obtain ⟨hacc, hclosed⟩ := hinv.lock.closed_of_lt hi hlt
  have hst := hinv.start hd
  have hs := hd.at_before hinv
  cases hst.live_self.phase with
  | ready hidle => omega
  | stuck q k hk hq hidle => omega
  | active q hq hidle hstored hcol hstatus =>
    have hentry := hinv.entries _ _ hq
    rw [if_neg fun h => Nat.ne_of_lt hlt h.2] at hstatus
    exact ⟨q, hq, fullCommit_committed rfl rfl hs hstatus hstored
      (show (1 : UInt16) = q.view from hentry.view.symm)
      (show seqOf (a.com i) = q.seq from hentry.seq.symm)⟩

theorem dispatch_fullCommit (he : e.pMessage.msgType = .round2FullCommit) :
    Round2Dispatch d σ b i e ω before a log (dispatcherRound2 (d.env (b, i)) ω e before.sl) := by
  obtain ⟨p, hp, ho⟩ := fullCommit_branch hd hinv he
  obtain ⟨hlt, rfl⟩ := hd.fullCommit_eq hinv he
  have hi : i < d.conf.numSL b := hd.has.2
  have hst := hinv.start hd
  rw [ho]
  exact .commit p hp hlt rfl (hst.commit hi hlt hp) (hst.commit_clear hi hlt hp)

/-- **Every dispatch** is one of the three cases. -/
theorem dispatch_cases
    (hopen : a.acc i = a.com i → ∀ p, log[a.acc i]? = some p →
      p.requestType = requestTypeLocalConnectivity → before.sl.mapRound3Status p.cycle ≠ none) :
    Round2Dispatch d σ b i e ω before a log (dispatcherRound2 (d.env (b, i)) ω e before.sl) := by
  have hst := hinv.start hd
  have hother : e.pMessage.isRound2 = false →
      Round2Dispatch d σ b i e ω before a log (dispatcherRound2 (d.env (b, i)) ω e before.sl) :=
    fun he => .other (Or.inl he) (hst.drop he)
  cases hm : e.pMessage with
  | round2Preprepare m => exact dispatch_preprepare hd hinv (by rw [hm]; rfl) hopen
  | round2PartialCommit m => exact dispatch_partialCommit hd hinv (by rw [hm]; rfl)
  | round2FullCommit m => exact dispatch_fullCommit hd hinv (by rw [hm]; rfl)
  | empty m =>
    obtain ⟨hi, hst'⟩ := hst.drop_empty (by rw [hm]; rfl)
    exact .other (Or.inr ⟨m, hm, hi⟩) hst'
  | _ => exact hother (by rw [hm]; rfl)

/-- A dispatch keeps the invariant of round 2. -/
theorem round2_dispatch
    (hopen : a.acc i = a.com i → ∀ p, log[a.acc i]? = some p →
      p.requestType = requestTypeLocalConnectivity → before.sl.mapRound3Status p.cycle ≠ none) :
    ∃ a' log', Round2Next d σ σ' b a' log' := by
  have hcases := dispatch_cases hd hinv hopen
  have hs := hd.at_before hinv
  revert hcases
  generalize hout : dispatcherRound2 (d.env (b, i)) ω e before.sl = o
  intro hcases
  cases hcases with
  | quiet s' a' v' he hs' h3 hcom hstatus hst haccepted =>
    exact ⟨a', log, hst.close hd hinv (by rw [hout]; exact hs')⟩
  | other he hst =>
    refine hst.close_spawned hd hinv ?_
    rcases he with he | ⟨m, hm, hi⟩
    · exact dispatcherRound2_spawned he hs
    · rw [dispatcherRound2_main (by rw [hm]; simp [Message.msgType])
        (by rw [hm]; simp [Message.msgType]) (by rw [hm]; simp [Message.msgType])]
      exact dispatcherRound2_empty hm hi hs
  | commit p hp hlt he hst hst' =>
    have hfinished : Finished (d.env (b, i)) (before.sl.round2View.commit p.copy)
        (dispatcherRound2 (d.env (b, i)) ω e before.sl) := by
      rw [hout]
      exact fullCommitBranch_finished (fun _ h => spawnRound2_finished h) (at_beforeBranch hs)
    revert hfinished
    generalize hout' : dispatcherRound2 (d.env (b, i)) ω e before.sl = o
    intro hfinished
    cases hfinished with
    | returned s hs => exact ⟨_, _, hst.close hd hinv (by rw [hout']; exact hs)⟩
    | cleared o h => exact hst'.close_spawned hd hinv (by rw [hout']; exact h)

end Cases

end RCanopus.Hybrid
