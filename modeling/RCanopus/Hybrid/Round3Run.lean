import RCanopus.Round3Run
import RCanopus.Hybrid.Round2Steps
import RCanopus.Hybrid.Round3Phases

/-!
# The hybrid variant in all runs

Round 2 and round 3 need each other here. The Preprepare for the connectivity of a cycle meets an SL
that has the cycle in round 3, so the gate never drops it; and what passes the gate has all results.
Every step keeps both invariants.
-/

namespace RCanopus.Hybrid

open Cluster Gathering

variable {d : Deployment} {σ σ' : Cluster} {b i : Nat} {c : UInt16} {y z : Peer}
  {e : QueueElement} {ω : Choice} {before : Node}
  {token : FetchKind → Peer → Nat → UInt16 → Token} {p : MessageRound2Preprepare}
  {m : MessageRound2FullCommit} {a : LockStep.State} {log : List MessageRound2Preprepare}
  {status : CycleStatus} {x : Gathering}

/-! ## The gate -/

theorem entryOf_of_localConnectivity (ht : p.requestType = requestTypeLocalConnectivity) :
    entryOf p = .localConnectivity p.cycle := by
  unfold entryOf
  rw [if_neg (by rw [ht]; decide), if_neg (by rw [ht]; decide), if_pos ht]

/--
**The gate never drops a Preprepare.** An SL that is to accept the local connectivity of a cycle has
committed the client Preprepare of the cycle, and the cycle is open.
-/
theorem Round3Inv.open_at_gate (h : Round3Inv d σ token)
    (hd : Dispatch d σ σ' (b, i) e ω before) (hinv : Round2Inv d σ b a log)
    (hp : log[a.com i]? = some p) (ht : p.requestType = requestTypeLocalConnectivity) :
    before.sl.mapRound3Status p.cycle ≠ none := by
  have hi : i < d.conf.numSL b := hd.has.2
  obtain ⟨l, hlog⟩ := hinv.log_split hi hp
  rw [entryOf_of_localConnectivity ht] at hlog
  have hlog : (gathering σ token).log b
      = (gathering σ token).committed (b, i) ++ .localConnectivity p.cycle :: l := hlog
  have hmem : .localConnectivity p.cycle ∈ (gathering σ token).log b := by
    rw [hlog]
    exact List.mem_append_right _ List.mem_cons_self
  have hN : 2 ≤ d.conf.numBG := ((h.inv.followed .result b p.cycle).mp
    (List.mem_append_left _ hmem)).1
  have hclient : .client p.cycle ∈ (gathering σ token).committed (b, i) :=
    (h.inv.grounded b).mem_of_next hlog (.follow .result p.cycle)
  have hnew : .localConnectivity p.cycle ∉ (gathering σ token).committed (b, i) := by
    have hnodup := (List.nodup_append.mp (h.inv.nodup b)).1
    rw [hlog, List.nodup_append] at hnodup
    exact fun hc => hnodup.2.2 _ hc _ List.mem_cons_self rfl
  have hstatus := (SlOk.taken hd (h.sl (b, i))).status p.cycle
  intro hnone
  rw [hnone] at hstatus
  unfold StatusAt closer at hstatus
  rw [if_neg (by omega)] at hstatus
  rcases hstatus with hstatus | hstatus
  · exact hstatus hclient
  · have hmember := h.inv.needs_committed hi hstatus (.follow .membership p.cycle)
    exact hnew (h.inv.needs_committed hi hmember (.follow .connectivity p.cycle))

/-- In the state in which the gate is open, all results are there. -/
theorem StatusOk.complete (h : StatusOk d σ x y c status)
    (hstate : status.state = .round3WaitingForLocalConnectivity) : Complete d x y .result c := by
  by_contra hall
  have hcollecting := (h.collecting hall).1
  rw [hstate] at hcollecting
  exact absurd hcollecting (by simp)

/-- **What passes the gate** may be accepted. -/
theorem Round3Inv.passed (h : Round3Inv d σ token) (hd : Dispatch d σ σ' y e ω before)
    (hpass : Passes before.sl p) :
    ((gathering σ token).accept y (entryOf p)).Inv d.layout := by
  refine h.inv.accept fun c hc => ?_
  have ht : p.requestType = requestTypeLocalConnectivity := by
    unfold entryOf at hc
    split at hc
    · exact absurd hc (by simp)
    · split at hc
      · exact absurd hc (by simp)
      · split at hc
        · next ht => exact ht
        · split at hc <;> exact absurd hc (by simp)
  rw [entryOf_of_localConnectivity ht] at hc
  obtain rfl := Entry.localConnectivity.inj hc
  obtain ⟨status, hget, hstate⟩ := hpass ht
  have hstatus := (SlOk.taken hd (h.sl y)).status p.cycle
  rw [hget] at hstatus
  exact StatusOk.complete hstatus hstate

theorem gathering_accept (hs : Unnoticed d σ σ')
    (haccepted : ∀ z, accepted σ' z = if z = y then accepted σ y ++ [p] else accepted σ z) :
    gathering σ' token = (gathering σ token).accept y (entryOf p) := by
  unfold gathering entries Gathering.accept
  rw [hs.issued, hs.committed]
  simp only [(hs.same _).queue, Gathering.mk.injEq, true_and, and_true]
  funext z
  rw [haccepted, Function.update_apply]
  split
  · rw [List.map_append]
    rfl
  · rfl

/-! ## Dispatches -/

section Dispatch

variable (h : Round3Inv d σ token) (h2 : Round2Ok d σ) (h2' : Round2Ok d σ') (hfits : d.conf.Fits)
  (hd : Dispatch d σ σ' y e ω before) (hunstuck : Unstuck y before.sl)

include h h2 h2' hfits hd hunstuck

/-- A message that is no step of round 2. -/
theorem Round3Inv.dispatch_other (hinv : Round2Inv d σ y.1 a log)
    (he : e.pMessage.isRound2 = false ∨ ∃ m, e.pMessage = .empty m ∧ y.2 = 0) :
    Keeps3 d σ y before (dispatcherRound2 (d.env y) ω e before.sl) := by
  have hgood := h.good_of_dispatch hd
  have hsend : before.sl.sendQueue = [] :=
    DispatchTo.sendQueue_before (b := y.1) (i := y.2) hd hinv
  have hround2 : e.pMessage.isRound2 = true → ∃ m, e.pMessage = .empty m ∧ y.2 = 0 := fun ht =>
    he.resolve_left fun hf => Bool.false_ne_true (hf.symm.trans ht)
  cases hm : e.pMessage with
  | hello m =>
    rw [hm] at hgood
    exact False.elim hgood
  | empty m =>
    obtain ⟨-, -, hy⟩ := hround2 (by rw [hm]; rfl)
    obtain ⟨b, i⟩ := y
    have hy : i = 0 := hy
    subst hy
    have hmem : e ∈ ofType .empty (pool σ (b, 0)) := by
      refine mem_ofType.mpr ⟨?_, by rw [hm]; rfl⟩
      rw [hd.taken]
      exact Multiset.mem_cons_self _ _
    obtain ⟨-, hempty⟩ := (hinv.flight 0 hd.has.2).empty e hmem
    have hversion : m.header.version = versionLatest := by
      rw [hm] at hempty
      rw [Message.empty.inj hempty]
      rfl
    have hout : dispatcherRound2 (d.env (b, 0)) ω e before.sl
        = startRound2IfPossible (d.env (b, 0)) ω before.sl := by
      unfold dispatcherRound2
      rw [hm]
      exact if_neg fun hv => hv hversion
    rw [hout]
    exact (h.drop hd (by rw [hm]; rfl) (by rw [hm]; rfl) (.refl _) rfl rfl rfl hsend rfl).started hd
      h2' hout hunstuck.running
  | round2Request m =>
    rw [hm] at hgood
    obtain ⟨hversion, hy, hsender⟩ := hgood
    obtain ⟨b, i⟩ := y
    have hy : i = 0 := hy
    subst hy
    have hout : dispatcherRound2 (d.env (b, 0)) ω e before.sl
        = startRound2IfPossible (d.env (b, 0)) ω (countBatch m.sender before.sl) := by
      unfold dispatcherRound2
      rw [hm]
      refine (if_neg fun hv => hv hversion).trans ?_
      exact dispatcherRound2Request_leader rfl hsender
    rw [hout]
    exact (h.drop (s := countBatch m.sender before.sl) hd (by rw [hm]; rfl) (by rw [hm]; rfl)
      ⟨rfl, rfl, rfl, rfl, rfl, rfl, rfl⟩ rfl rfl rfl hsend rfl).started hd h2' hout
      hunstuck.running
  | round3FetchRequest m =>
    rw [hm] at hgood
    have hout : dispatcherRound2 (d.env y) ω e before.sl
        = dispatcherRound3FetchRequest (d.env y) m before.sl := by
      unfold dispatcherRound2
      rw [hm]
      exact if_neg fun hv => hv hgood
    rw [hout]
    exact h.fetchRequest h2 hfits hd hsend hunstuck hm
  | round3FetchResponse m =>
    rw [hm] at hgood
    have hout : dispatcherRound2 (d.env y) ω e before.sl
        = dispatcherRound3FetchResponse (d.env y) ω m before.sl := by
      unfold dispatcherRound2
      rw [hm]
      exact if_neg fun hv => hv hgood.1
    rw [hout]
    exact h.fetchResponse h2' hd hsend hunstuck hm hout
  | round3GeneralFetch m =>
    rw [hm] at hgood
    have hout : dispatcherRound2 (d.env y) ω e before.sl
        = dispatcherRound3GeneralFetchRequest (d.env y) e m before.sl := by
      unfold dispatcherRound2
      rw [hm]
      exact if_neg fun hv => hv hgood.1
    rw [hout]
    exact h.generalFetchRequest h2 hfits hd hsend hunstuck hm
  | round3ConnectivityResponse m =>
    rw [hm] at hgood
    have hout : dispatcherRound2 (d.env y) ω e before.sl
        = dispatcherRound3FetchConnectivityResponse (d.env y) ω e m before.sl := by
      unfold dispatcherRound2
      rw [hm]
      exact if_neg fun hv => hv hgood.1
    rw [hout]
    exact h.fetchConnectivityResponse h2' hfits hd hsend hunstuck hm hout
  | round3MembershipResponse m =>
    rw [hm] at hgood
    have hout : dispatcherRound2 (d.env y) ω e before.sl
        = dispatcherRound3FetchMembershipResponse (d.env y) ω e m before.sl := by
      unfold dispatcherRound2
      rw [hm]
      exact if_neg fun hv => hv hgood.1
    rw [hout]
    exact h.fetchMembershipResponse h2' hfits hd hsend hunstuck hm hout
  | _ =>
    obtain ⟨m', hm', -⟩ := hround2 (by rw [hm]; rfl)
    rw [hm] at hm'
    exact absurd hm' (by simp)

/-- **Every dispatch** keeps the invariant. -/
theorem Round3Inv.dispatch : Keeps3 d σ y before (dispatcherRound2 (d.env y) ω e before.sl) := by
  obtain ⟨a, log, hinv⟩ := h2 y.1 (Nat.lt_of_le_of_lt (Nat.zero_le _) hd.has.2)
  obtain ⟨b, i⟩ := y
  have hn : 0 < d.conf.numSL b := Nat.lt_of_le_of_lt (Nat.zero_le _) hd.has.2
  have hsend : before.sl.sendQueue = [] := hd.sendQueue_before hinv
  have hcases := dispatch_cases hd hinv fun hacc p hp ht =>
    h.open_at_gate hd hinv (hacc ▸ hp) ht
  revert hcases
  generalize hout : dispatcherRound2 (d.env (b, i)) ω e before.sl = o
  intro hcases
  cases hcases with
  | quiet s' a' v' he hs h3 hcom hstatus hst haccepted =>
    have hquiet := unnoticed_quiet hd hinv h3 he hs hcom hst
    have hrequests := requests_of_pool
      (notRound2_install (o := .ok s') hd (quiet_sent hd hinv h3) (quiet_pool h3 he))
    refine ⟨.returns s' (hunstuck.quiet hs h3 hstatus), token, ?_⟩
    rcases haccepted with hsame | ⟨p, -, hpass, hmore⟩
    · exact h.same hquiet (accepted_dispatch hd hsame) hrequests
    · refine h.unnoticed hquiet hrequests ?_
      rw [gathering_accept (p := p.copy) hquiet fun z => ?_]
      · exact h.passed hd hpass
      · rw [accepted_install, Outcome.state_ok, hmore, hd.sl_eq]
        rfl
  | commit p hp hlt he hst hst' =>
    have hc : Commits d σ σ' (b, i) e ω before
        (fullCommitMessage (collectorOf log (a.com i)) 1 (seqOf (a.com i))) p.copy :=
      { dispatch := hd
        round2 := by rw [he]; rfl
        sendQueue := hsend
        next := by
          rw [entryOf_copy]
          exact next_of_log hinv hd.has.2 hp hlt
        copied := ⟨p, by rw [issued_eq hinv hn]; exact List.mem_of_getElem? hp, rfl⟩
        certificate := rfl
        branch := hout }
    exact h.commit_branch h2' hfits hc
  | other he hst =>
    exact h.dispatch_other h2 h2' hfits hd hunstuck hinv he

end Dispatch

/-! ## Runs -/

/-- At the start there is nothing to gather. -/
theorem gathering_init : (gathering init fun _ _ _ _ => .idle).Inv d.layout where
  asked := fun k y A c => iff_of_false (fun h => h rfl) fun ⟨_, _, _, _, _, hmem⟩ =>
    absurd hmem List.not_mem_nil
  pending := fun k y A c j hj => absurd hj (by simp [gathering])
  served := fun k y A c hs => by
    rcases hs with ⟨i, hi⟩ | hs
    · exact absurd hi (by simp [gathering])
    · exact absurd hs (by simp [gathering])
  answered_lt := fun k y A c i hi => absurd hi (by simp [gathering])
  asked_lt := fun k y A c j hj => absurd hj (by simp [gathering])
  nodup := fun b => List.nodup_nil
  grounded := fun b => .nil
  queued := fun b e he => absurd he List.not_mem_nil
  known := fun b e he => absurd he List.not_mem_nil
  committed_log := fun b i hi => List.nil_prefix
  close := fun b i hi j hj => Nat.zero_le _
  accepted := fun b i hi j hj e he => absurd he List.not_mem_nil
  gate := fun y c hc => absurd hc List.not_mem_nil
  followed := fun k b c => iff_of_false List.not_mem_nil fun h => by
    obtain ⟨A, hA⟩ := h.exists
    unfold held at hA
    split at hA <;> exact absurd hA (by simp [gathering])
  taken := fun k b A c hdone => by
    unfold held at hdone
    split at hdone <;> exact absurd hdone (by simp [gathering])

theorem round3Inv_init : Round3Inv d init fun _ _ _ _ => .idle where
  inv := gathering_init
  sl := fun y =>
    { status := fun c => Or.inl List.not_mem_nil
      pending := fun k c => ⟨List.nodup_nil, fun z => iff_of_false List.not_mem_nil fun h => by
        exact absurd h (by simp [gathering])⟩
      storage := rfl
      closed := rfl
      events := fun ev hev => absurd hev List.not_mem_nil
      proposals := fun p hp => absurd hp List.not_mem_nil }
  issued := fun b p hp => absurd hp List.not_mem_nil
  clients := fun b => ⟨rfl, rfl, rfl⟩
  requests := fun y k z c => rfl
  responses := fun y k A c => by
    unfold held
    split <;> rfl
  good := fun y e he => absurd he (Multiset.notMem_zero e)

/-- **All is as it should be**: both invariants hold, and an SL that runs is not stuck. -/
structure ClusterOk (d : Deployment) (σ : Cluster) : Prop where
  round2 : Round2Ok d σ
  inv : ∃ token, Round3Inv d σ token
  unstuck : ∀ y, (σ y).crashed = false → Unstuck y (σ y).sl
  crashed : ∀ y, (σ y).crashed = true → ∃ c, d.layout.envoy y.1 c = none

theorem clusterOk_init : ClusterOk d init where
  round2 := round2Ok_init
  inv := ⟨_, round3Inv_init⟩
  unstuck := fun y _ => ⟨fun status hs => absurd hs (by simp [init, ConnManager.init]),
    fun _ _ => rfl⟩
  crashed := fun y hy => absurd hy (by simp [init])

/-- A dispatch keeps the invariant of round 2, since nothing is dropped at the gate. -/
theorem ClusterOk.round2_step (h : ClusterOk d σ) (hd : Dispatch d σ σ' y e ω before) :
    Round2Ok d σ' := by
  obtain ⟨token, hinv⟩ := h.inv
  obtain ⟨b, i⟩ := y
  obtain ⟨a, log, h2⟩ := h.round2 b (Nat.lt_of_le_of_lt (Nat.zero_le i) hd.has.2)
  obtain ⟨a', log', hnext⟩ := round2_dispatch hd h2 fun hacc p hp ht =>
    hinv.open_at_gate hd h2 (hacc ▸ hp) ht
  intro b' hn
  by_cases hb : b' = b
  · subst hb
    exact ⟨a', log', hnext.own⟩
  · obtain ⟨a₀, log₀, h₀⟩ := h.round2 b' hn
    exact ⟨a₀, log₀, hnext.others b' hb a₀ log₀ h₀⟩

/-- Every step keeps it. -/
theorem ClusterOk.step (h : ClusterOk d σ) (hfits : d.conf.Fits) (hs : Step d σ σ') :
    ClusterOk d σ' := by
  rcases step_cases hs with ⟨y, e, ω, before, hd⟩ | ht
  · have h2' := h.round2_step hd
    obtain ⟨token, hinv⟩ := h.inv
    obtain ⟨hends, hnext⟩ := hinv.dispatch h.round2 h2' hfits hd
      ((h.unstuck y hd.alive).congr (by rw [hd.sl_eq]) (by rw [hd.sl_eq]))
    refine ⟨h2', ?_, ?_, ?_⟩
    all_goals
      rw [hd.result]
      revert hends hnext
      generalize dispatcherRound2 (d.env y) ω e before.sl = o
      intro hends hnext
    · exact hnext
    · intro z hz
      by_cases hzy : z = y
      · subst hzy
        cases hends with
        | returns s hs =>
          rw [install_sl_self]
          exact hs.congr rfl rfl
        | noEnvoy s c hc =>
          rw [install_thrown_crashed] at hz
          exact absurd hz (by simp)
      · rw [install_crashed_of_ne hzy] at hz
        rw [install_sl_of_ne hzy]
        exact h.unstuck z hz
    · intro z hz
      by_cases hzy : z = y
      · subst hzy
        cases hends with
        | returns s hs =>
          rw [install_ok_crashed] at hz
          exact absurd hz (by simp)
        | noEnvoy s c hc => exact ⟨c, hc⟩
      · rw [install_crashed_of_ne hzy] at hz
        exact h.crashed z hz
  · obtain ⟨token, hinv⟩ := h.inv
    refine ⟨fun b hn => ?_, ⟨token, hinv.tick hfits ht⟩, fun z hz => ?_, fun z hz => ?_⟩
    · obtain ⟨a, log, h2⟩ := h.round2 b hn
      exact ⟨a, log, h2.tick ht⟩
    · obtain ⟨k, hk⟩ := ht.sl_eq z
      rw [ht.crashed_eq] at hz
      exact (h.unstuck z hz).congr (by rw [hk]) (by rw [hk])
    · rw [ht.crashed_eq] at hz
      exact h.crashed z hz

/-- **The invariants hold in every reachable state.** -/
theorem clusterOk_of_reachable (hfits : d.conf.Fits) (h : Reachable d σ) : ClusterOk d σ :=
  h.induct clusterOk_init fun _ _ h hs => h.step hfits hs

end RCanopus.Hybrid
