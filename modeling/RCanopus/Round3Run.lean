import RCanopus.Round3Phases

/-!
# Round 3 in all runs

Every step keeps the invariant of round 3, so it holds in every reachable state of a configuration
whose sizes fit. An SL crashes only when a Preprepare of its BG names no envoy.
-/

namespace RCanopus

open Cluster Exchange

variable {d : Deployment} {σ σ' : Cluster} {b i : Nat} {y z : Peer} {e : QueueElement} {ω : Choice}
  {before : Node} {token : FetchKind → Nat → Nat → UInt16 → Token} {p : MessageRound2Preprepare}
  {m : MessageRound2FullCommit} {a : LockStep.State} {log : List MessageRound2Preprepare}
  {v : Round2View} {s : ConnManager}

/-! ## Batches -/

/-- The state after a leader has counted a batch. -/
def countBatch (sender : UInt16) (s : ConnManager) : ConnManager :=
  { s with
    rgLeaderBatchReceivedFrom := Function.update s.rgLeaderBatchReceivedFrom sender.toNat
      (s.rgLeaderBatchReceivedFrom sender.toNat + 1) }

theorem dispatcherRound2Request_leader {env : Env} {r : MessageRound2Request}
    (hleader : env.conf.isRound2Leader = true)
    (hsender : r.sender.toNat < env.conf.numSL env.conf.bGid) :
    dispatcherRound2Request env ω e r s
      = startRound2IfPossible env ω (countBatch r.sender s) := by
  unfold dispatcherRound2Request
  rw [hleader, Bool.not_true, if_neg Bool.false_ne_true, decide_eq_true hsender,
    debugThrowElseReturnVoid_true]
  rfl

/-! ## Dispatches -/

/-- **Every commit** keeps the invariant. -/
theorem Round3Inv.commit_branch (h : Round3Inv d σ token) (h2 : Round2Ok d σ')
    (hfits : d.conf.Fits) (hc : Commits d σ σ' y e ω before m p) :
    Keeps3 d σ y before (fullCommitBranch (d.env y) ω m p (.committed p) (beforeBranch p before.sl)
      (spawnRound2 (d.env y) ω)) := by
  have hknown : p.requestType ∈ [requestTypeFromClient, requestTypeFetchedResult,
      requestTypeLocalConnectivity, requestTypeLocalMembership, requestTypeFullMembership] := by
    obtain ⟨q, hq, rfl⟩ := hc.copied
    exact (h.issued y.1 q hq).known
  simp only [List.mem_cons, List.not_mem_nil, or_false] at hknown
  rcases hknown with ht | ht | ht | ht | ht
  · exact h.commit_fromClient h2 hfits hc ht
  · exact h.commit_fetchedResult h2 hc hfits ht
  · exact h.commit_localConnectivity h2 hfits hc ht
  · exact h.commit_localMembership h2 hfits hc ht
  · exact h.commit_fullMembership h2 hc hfits ht

/-- A step of round 2 that commits nothing leaves the SL unstuck. -/
theorem Unstuck.quiet (h : Unstuck y before.sl) (hs : s.At v)
    (h3 : s.round3View = before.sl.round3View)
    (hstatus : v.status = before.sl.round2View.status
      ∨ ∃ status, v.status = some status ∧ status.state ≠ .round2Committed) : Unstuck y s := by
  have hcurrent : s.pRound2CurrentStatus = v.status := by
    rw [← hs.1]
    rfl
  have hqueue := (SameRound3.of_view h3).queue
  rcases hstatus with hstatus | ⟨status, hstatus, hne⟩
  · exact h.congr (hcurrent.trans hstatus) hqueue
  · refine ⟨fun st hst => ?_, fun _ hnone => ?_⟩
    · rw [hcurrent, hstatus, Option.some.injEq] at hst
      exact hst ▸ hne
    · rw [hcurrent, hstatus] at hnone
      exact absurd hnone (by simp)

section Dispatch

variable (h : Round3Inv d σ token) (h2 : Round2Ok d σ) (h2' : Round2Ok d σ') (hfits : d.conf.Fits)
  (hd : Dispatch d σ σ' y e ω before) (hunstuck : Unstuck y before.sl)

include h h2 h2' hfits hd hunstuck

/-- A message that is no step of round 2. -/
theorem Round3Inv.dispatch_other (hinv : Round2Inv d σ y.1 a log)
    (he : e.pMessage.isRound2 = false ∨ ∃ m, e.pMessage = .empty m ∧ y.2 = 0) :
    Keeps3 d σ y before (dispatcherRound2 (d.env y) ω e before.sl) := by
  have hgood := h.good_of_dispatch hd
  have hsend : before.sl.sendQueue = [] :=
    DispatchTo.sendQueue_before (b := y.1) (i := y.2) hd.to hinv
  have hround2 : e.pMessage.isRound2 = true → ∃ m, e.pMessage = .empty m ∧ y.2 = 0 := fun ht =>
    he.resolve_left fun hf => Bool.false_ne_true (hf.symm.trans ht)
  cases hm : e.pMessage with
  | hello m =>
    rw [hm] at hgood
    exact hgood.elim
  | empty m =>
    obtain ⟨-, -, hy⟩ := hround2 (by rw [hm]; rfl)
    obtain ⟨b, i⟩ := y
    have hy : i = 0 := hy
    subst hy
    have hmem : e ∈ ofType .empty (pool σ (b, 0)) := by
      refine mem_ofType.mpr ⟨?_, by rw [hm]; rfl⟩
      rw [hd.taken]
      exact Multiset.mem_cons_self _ _
    obtain ⟨-, hempty⟩ := (hinv.flight 0 hd.has.2).empty e hmem
    have hversion : m.header.version = versionLatest := by
      rw [hm] at hempty
      rw [Message.empty.inj hempty]
      rfl
    have hout : dispatcherRound2 (d.env (b, 0)) ω e before.sl
        = startRound2IfPossible (d.env (b, 0)) ω before.sl := by
      unfold dispatcherRound2
      rw [hm]
      exact if_neg fun hv => hv hversion
    rw [hout]
    refine (h.unnoticed (unnoticed_drop hd.to (by rw [hm]; rfl) (by rw [hm]; rfl) (.refl _) rfl rfl
      hsend rfl)).started hd h2' hout hunstuck.running
  | round2Request m =>
    rw [hm] at hgood
    obtain ⟨hversion, hy, hsender⟩ := hgood
    obtain ⟨b, i⟩ := y
    have hy : i = 0 := hy
    subst hy
    have hout : dispatcherRound2 (d.env (b, 0)) ω e before.sl
        = startRound2IfPossible (d.env (b, 0)) ω (countBatch m.sender before.sl) := by
      unfold dispatcherRound2
      rw [hm]
      refine (if_neg fun hv => hv hversion).trans ?_
      exact dispatcherRound2Request_leader rfl hsender
    rw [hout]
    refine (h.unnoticed (unnoticed_drop (s := countBatch m.sender before.sl) hd.to (by rw [hm]; rfl)
      (by rw [hm]; rfl) ⟨rfl, rfl, rfl, rfl, rfl, rfl, rfl⟩ rfl rfl hsend rfl)).started hd h2' hout
      hunstuck.running
  | round2Preprepare m =>
    obtain ⟨m', hm', -⟩ := hround2 (by rw [hm]; rfl)
    rw [hm] at hm'
    exact absurd hm' (by simp)
  | round2PartialCommit m =>
    obtain ⟨m', hm', -⟩ := hround2 (by rw [hm]; rfl)
    rw [hm] at hm'
    exact absurd hm' (by simp)
  | round2FullCommit m =>
    obtain ⟨m', hm', -⟩ := hround2 (by rw [hm]; rfl)
    rw [hm] at hm'
    exact absurd hm' (by simp)
  | round3FetchRequest m =>
    rw [hm] at hgood
    have hout : dispatcherRound2 (d.env y) ω e before.sl
        = dispatcherRound3FetchRequest (d.env y) m before.sl := by
      unfold dispatcherRound2
      rw [hm]
      exact if_neg fun hv => hv hgood.1
    rw [hout]
    exact h.fetchRequest h2 hfits hd hsend hunstuck hm
  | round3FetchResponse m =>
    rw [hm] at hgood
    have hout : dispatcherRound2 (d.env y) ω e before.sl
        = dispatcherRound3FetchResponse (d.env y) ω e m before.sl := by
      unfold dispatcherRound2
      rw [hm]
      exact if_neg fun hv => hv hgood.1
    rw [hout]
    exact h.fetchResponse h2' hd hsend hunstuck hm hout
  | round3GeneralFetch m =>
    rw [hm] at hgood
    have hout : dispatcherRound2 (d.env y) ω e before.sl
        = dispatcherRound3GeneralFetchRequest (d.env y) e m before.sl := by
      unfold dispatcherRound2
      rw [hm]
      exact if_neg fun hv => hv hgood.1
    rw [hout]
    exact h.generalFetchRequest h2 hfits hd hsend hunstuck hm
  | round3ConnectivityResponse m =>
    rw [hm] at hgood
    have hout : dispatcherRound2 (d.env y) ω e before.sl
        = dispatcherRound3FetchConnectivityResponse (d.env y) ω e m before.sl := by
      unfold dispatcherRound2
      rw [hm]
      exact if_neg fun hv => hv hgood.1
    rw [hout]
    exact h.fetchConnectivityResponse h2' hfits hd hsend hunstuck hm hout
  | round3MembershipResponse m =>
    rw [hm] at hgood
    have hout : dispatcherRound2 (d.env y) ω e before.sl
        = dispatcherRound3FetchMembershipResponse (d.env y) ω e m before.sl := by
      unfold dispatcherRound2
      rw [hm]
      exact if_neg fun hv => hv hgood.1
    rw [hout]
    exact h.fetchMembershipResponse h2' hfits hd hsend hunstuck hm hout

/-- **Every dispatch** keeps the invariant. -/
theorem Round3Inv.dispatch : Keeps3 d σ y before (dispatcherRound2 (d.env y) ω e before.sl) := by
  obtain ⟨a, log, hinv⟩ := h2 y.1 (Nat.lt_of_le_of_lt (Nat.zero_le _) hd.has.2)
  obtain ⟨b, i⟩ := y
  have hn : 0 < d.conf.numSL b := Nat.lt_of_le_of_lt (Nat.zero_le _) hd.has.2
  have hsend : before.sl.sendQueue = [] := hd.to.sendQueue_before hinv
  have hcases := hinv.dispatch_cases hd
  revert hcases
  generalize hout : dispatcherRound2 (d.env (b, i)) ω e before.sl = o
  intro hcases
  cases hcases with
  | quiet s' a' v' he hs h3 hcom hstatus hst =>
    exact ⟨.returns s' (hunstuck.quiet hs h3 hstatus), token,
      h.unnoticed (unnoticed_quiet hd.to hinv h3 he hs hcom hst)⟩
  | commit p hp hlt he hst hst' =>
    have hc : Commits d σ σ' (b, i) e ω before
        (fullCommitMessage (collectorOf log (a.com i)) 1 (seqOf (a.com i))) p.copy :=
      { toDispatch := hd
        round2 := by rw [he]; rfl
        sendQueue := hsend
        next := by
          rw [entryOf_copy]
          exact hinv.next hd.has.2 hp hlt
        copied := ⟨p, by rw [issued_eq hinv hn]; exact List.mem_of_getElem? hp, rfl⟩
        certificate := rfl
        branch := hout }
    exact h.commit_branch h2' hfits hc
  | other he hst =>
    exact h.dispatch_other h2 h2' hfits hd hunstuck hinv he

end Dispatch

/-! ## Runs -/

/-- At the start there is nothing to exchange. -/
theorem exchange_init : (exchange init fun _ _ _ _ => .idle).Inv d.layout where
  asked := fun k b A c => iff_of_false (fun h => h rfl) fun ⟨_, _, _, i, _, _, hmem⟩ =>
    absurd hmem List.not_mem_nil
  pending := fun k b A c j hj => absurd hj (by simp [exchange])
  served := fun k b A c hs => by
    rcases hs with ⟨i, hi⟩ | hs
    · exact absurd hi (by simp [exchange])
    · exact absurd hs (by simp [exchange])
  answered_lt := fun k b A c i hi => absurd hi (by simp [exchange])
  asked_lt := fun k b A c j hj => absurd hj (by simp [exchange])
  nodup := fun b => List.nodup_nil
  grounded := fun b => .nil
  queued := fun b e he => absurd he List.not_mem_nil
  committed_log := fun b i hi => List.nil_prefix
  close := fun b i hi j hj => Nat.zero_le _
  fetched := fun b c A => iff_of_false List.not_mem_nil (by simp [exchange])
  localConnectivity := fun b c => iff_of_false List.not_mem_nil fun h => by
    obtain ⟨A, hA⟩ := h.exists
    exact absurd hA List.not_mem_nil
  followed := fun k hk b c => iff_of_false List.not_mem_nil fun h => by
    obtain ⟨A, hA⟩ := h.exists
    exact absurd hA (by simp [exchange])
  taken := fun k hk b A c hdone => absurd hdone (by simp [exchange])

theorem round3Inv_init : Round3Inv d init fun _ _ _ _ => .idle where
  inv := exchange_init
  sl := fun y =>
    { status := fun c => Or.inl List.not_mem_nil
      pending := fun k c => ⟨List.nodup_nil, fun z => iff_of_false List.not_mem_nil fun h => by
        exact absurd h.1 (by simp [exchange])⟩
      storage := rfl
      closed := rfl
      events := fun ev hev => absurd hev List.not_mem_nil
      proposals := fun p hp => absurd hp List.not_mem_nil }
  issued := fun b p hp => absurd hp List.not_mem_nil
  clients := fun b => ⟨rfl, rfl, rfl⟩
  requests := fun y k b c => rfl
  responses := fun y k A c => rfl
  good := fun y e he => absurd he (Multiset.notMem_zero e)

/-- **Round 3 is as it should be**: the invariant holds, and an SL that runs is not stuck. -/
structure Round3Ok (d : Deployment) (σ : Cluster) : Prop where
  inv : ∃ token, Round3Inv d σ token
  unstuck : ∀ y, (σ y).crashed = false → Unstuck y (σ y).sl
  crashed : ∀ y, (σ y).crashed = true → ∃ c, d.layout.envoy y.1 c = none

theorem round3Ok_init : Round3Ok d init where
  inv := ⟨_, round3Inv_init⟩
  unstuck := fun y _ => ⟨fun status hs => absurd hs (by simp [init, ConnManager.init]),
    fun _ _ => rfl⟩
  crashed := fun y hy => absurd hy (by simp [init])

/-- A dispatch keeps the invariant, and ends as it should. -/
theorem Round3Ok.dispatch (h : Round3Ok d σ) (h2 : Round2Ok d σ) (hfits : d.conf.Fits)
    (hs : Step d σ σ') (hd : Dispatch d σ σ' y e ω before) :
    Keeps3 d σ y before (dispatcherRound2 (d.env y) ω e before.sl) := by
  obtain ⟨token, hinv⟩ := h.inv
  exact hinv.dispatch h2 (h2.step hs) hfits hd
    ((h.unstuck y hd.alive).congr (by rw [hd.sl_eq]) (by rw [hd.sl_eq]))

/-- Every step keeps it. -/
theorem Round3Ok.step (h : Round3Ok d σ) (h2 : Round2Ok d σ) (hfits : d.conf.Fits)
    (hs : Step d σ σ') : Round3Ok d σ' := by
  rcases step_cases hs with ⟨y, e, ω, before, hd⟩ | ht
  · obtain ⟨hends, hnext⟩ := h.dispatch h2 hfits hs hd
    rw [hd.result]
    revert hends hnext
    generalize dispatcherRound2 (d.env y) ω e before.sl = o
    intro hends hnext
    refine ⟨hnext, fun z hz => ?_, fun z hz => ?_⟩
    · by_cases hzy : z = y
      · subst hzy
        cases hends with
        | returns s hs =>
          rw [install_sl_self]
          exact hs.congr rfl rfl
        | noEnvoy s c hc =>
          rw [install_thrown_crashed] at hz
          exact absurd hz (by simp)
      · rw [install_crashed_of_ne hzy] at hz
        rw [install_sl_of_ne hzy]
        exact h.unstuck z hz
    · by_cases hzy : z = y
      · subst hzy
        cases hends with
        | returns s hs =>
          rw [install_ok_crashed] at hz
          exact absurd hz (by simp)
        | noEnvoy s c hc => exact ⟨c, hc⟩
      · rw [install_crashed_of_ne hzy] at hz
        exact h.crashed z hz
  · obtain ⟨token, hinv⟩ := h.inv
    refine ⟨⟨token, hinv.unnoticed (unnoticed_tick hfits ht)⟩, fun z hz => ?_, fun z hz => ?_⟩
    · obtain ⟨k, hk⟩ := ht.sl_eq z
      rw [ht.crashed_eq] at hz
      exact (h.unstuck z hz).congr (by rw [hk]) (by rw [hk])
    · rw [ht.crashed_eq] at hz
      exact h.crashed z hz

/-- **The invariant of round 3 holds in every reachable state.** -/
theorem round3Ok_of_reachable (hfits : d.conf.Fits) (h : Reachable d σ) : Round3Ok d σ := by
  have hboth : Round2Ok d σ ∧ Round3Ok d σ :=
    h.induct (P := fun σ => Round2Ok d σ ∧ Round3Ok d σ) ⟨round2Ok_init, round3Ok_init⟩
      fun _ _ h hs => ⟨h.1.step hs, h.2.step h.1 hfits hs⟩
  exact hboth.2

end RCanopus
