import RCanopus.Baseline.LeaderMoves

/-!
# Round 3 of the baseline variant in all runs

Round 2 leaves the cycles alone until an entry is committed, and the clients do so always. So every
step keeps the invariant, and it holds in every reachable state of a configuration whose sizes fit.
-/

namespace RCanopus.Baseline

open Baseline.Cluster
open RCanopus.Cluster (ofType mem_ofType)

/-! ## Round 2 -/

section Quiet

variable {env : Env} {ω : RCanopus.Choice} {s₀ s : RCanopus.ConnManager}
  {e : RCanopus.QueueElement} {status : RCanopus.CycleStatus}

/-- Round 2 goes on, but nothing is issued, queued or committed. -/
structure Quiet (s₀ s : RCanopus.ConnManager) : Prop where
  plan : SamePlan s₀ s
  only : Round2Only s₀ s

theorem quiet_round2 (s : ConnManager) : Quiet s.common s.round2 :=
  ⟨⟨rfl, rfl, rfl, rfl⟩, round2Only_round2 s⟩

namespace Quiet

/-- Fields that neither the plan nor the cycles depend on have changed. -/
theorem congr {s' : RCanopus.ConnManager} (h : Quiet s₀ s) (hplan : SamePlan s s')
    (hjuggle : s'.juggleQueue = s.juggleQueue) (hsend : s'.sendQueue = s.sendQueue)
    (hcommitted : committedOf s'.history = committedOf s.history) : Quiet s₀ s' :=
  ⟨h.plan.trans hplan, hjuggle ▸ h.only.juggled, hsend ▸ h.only.sends,
    hcommitted.trans h.only.committed⟩

theorem note {ev : RCanopus.Event} (h : Quiet s₀ s) (hissued : issuedOf [ev] = [])
    (hcommitted : committedOf [ev] = []) : Quiet s₀ (s.note ev) := by
  refine h.congr ⟨?_, rfl, rfl, rfl⟩ rfl rfl ?_
  · show issuedOf (s.history ++ [ev]) = _
    rw [issuedOf_append, hissued, List.append_nil]
  · show committedOf (s.history ++ [ev]) = _
    rw [committedOf_append, hcommitted, List.append_nil]

theorem juggle (h : Quiet s₀ s) (he : e.pMessage.isRound3 = false) : Quiet s₀ (s.juggle e) where
  plan := h.plan.trans ⟨rfl, rfl, rfl, rfl⟩
  only :=
    { h.only with
      juggled := fun e' he' => by
        rcases List.mem_append.mp he' with he' | he'
        · exact h.only.juggled e' he'
        · rwa [List.mem_singleton.mp he'] }

theorem enqueue (h : Quiet s₀ s) (he : e.pMessage.isRound3 = false) : Quiet s₀ (s.enqueue e) where
  plan := h.plan.trans ⟨rfl, rfl, rfl, rfl⟩
  only :=
    { h.only with
      sends := fun e' he' => by
        rcases List.mem_append.mp he' with he' | he'
        · exact h.only.sends e' he'
        · rwa [List.mem_singleton.mp he'] }

theorem debugThrow {flag : Bool} {k : RCanopus.ConnManager → RCanopus.Outcome} (h : Quiet s₀ s)
    (hk : ∀ s, Quiet s₀ s → Quiet s₀ (k s).state) :
    Quiet s₀ (RCanopus.debugThrow env flag s k).state := by
  have hfailed : Quiet s₀ (s.note .guardFailed) := h.note rfl rfl
  unfold RCanopus.debugThrow
  split
  · exact hk s h
  · split
    · exact hfailed
    · exact hk _ hfailed

theorem debugThrowElseReturnVoid {flag : Bool}
    {k : RCanopus.ConnManager → RCanopus.Outcome} (h : Quiet s₀ s)
    (hk : ∀ s, Quiet s₀ s → Quiet s₀ (k s).state) :
    Quiet s₀ (RCanopus.debugThrowElseReturnVoid env flag s k).state := by
  have hfailed : Quiet s₀ (s.note .guardFailed) := h.note rfl rfl
  unfold RCanopus.debugThrowElseReturnVoid
  split
  · exact hk s h
  · split
    · exact hfailed
    · exact hfailed

theorem acceptPreprepare {m : MessageRound2Preprepare} (h : Quiet s₀ s) :
    Quiet s₀ (acceptPreprepare env m status s).state := by
  unfold RCanopus.acceptPreprepare
  dsimp only
  refine debugThrow (enqueue (h.congr ⟨rfl, rfl, rfl, rfl⟩ rfl rfl rfl) rfl) fun s hs => ?_
  exact note (hs.congr ⟨rfl, rfl, rfl, rfl⟩ rfl rfl rfl) rfl rfl

theorem dispatcherRound2Preprepare {m : MessageRound2Preprepare} (h : Quiet s₀ s)
    (he : e.pMessage.isRound3 = false) : Quiet s₀ (dispatcherRound2Preprepare env e m s).state := by
  have hset : ∀ st, Quiet s₀ { s with pRound2CurrentStatus := st } := fun st =>
    h.congr ⟨rfl, rfl, rfl, rfl⟩ rfl rfl rfl
  unfold RCanopus.dispatcherRound2Preprepare
  dsimp only
  split
  · exact (hset _).juggle he
  · refine debugThrow (hset _) fun s₁ h₁ => debugThrow h₁ fun s₂ h₂ => ?_
    split
    · exact h₂.juggle he
    · exact debugThrowElseReturnVoid h₂ fun s₃ h₃ => debugThrow h₃ fun s₄ h₄ => h₄.acceptPreprepare

theorem countPartialCommit {m : MessageRound2PartialCommit} (h : Quiet s₀ s) :
    Quiet s₀ (countPartialCommit env e m status s).state := by
  unfold RCanopus.countPartialCommit
  dsimp only
  have hcounted : Quiet s₀ (s.note (.counted (e.upPeers.head?.getD none) m status.round2View
      status.round2Sequence)) := h.note rfl rfl
  split
  · exact note (enqueue (hcounted.congr ⟨rfl, rfl, rfl, rfl⟩ rfl rfl rfl) rfl) rfl rfl
  · exact hcounted.congr ⟨rfl, rfl, rfl, rfl⟩ rfl rfl rfl

theorem dispatcherRound2PartialCommit {m : MessageRound2PartialCommit} (h : Quiet s₀ s)
    (he : e.pMessage.isRound3 = false) :
    Quiet s₀ (dispatcherRound2PartialCommit env e m s).state := by
  unfold RCanopus.dispatcherRound2PartialCommit
  split
  · exact h.juggle he
  · split
    · exact h.juggle he
    · split
      · exact h.juggle he
      · refine debugThrowElseReturnVoid h fun s₁ h₁ => ?_
        refine debugThrowElseReturnVoid h₁ fun s₂ h₂ => ?_
        refine debugThrowElseReturnVoid h₂ fun s₃ h₃ => ?_
        refine debugThrowElseReturnVoid h₃ fun s₄ h₄ => ?_
        split
        · exact h₄
        · split
          · exact h₄
          · exact debugThrowElseReturnVoid h₄ fun s₅ h₅ => h₅.countPartialCommit

end Quiet

end Quiet

/-! ## Dispatches -/

variable {d : Deployment} {σ σ' : Cluster} {x : Peer} {e : QueueElement} {ω : Choice}
  {before : Node} {s : ConnManager}

/-- A function of round 2 that issues nothing, or that starts a round. -/
theorem endsFrom_shared {f : RCanopus.ConnManager → RCanopus.Outcome}
    (honly : Round2Only s.common (f s.round2).state)
    (hplan : x.2 = 0 → PlanOk d x.1 s.round2 →
      (issuedOf (f s.round2).state.history).length < 2 ^ 16 →
      PlanOk d x.1 (f s.round2).state ∧ ∀ c, .localConnectivity c
        ∈ (planOf (f s.round2).state).map entryOf
          ↔ .localConnectivity c ∈ (planOf s.common).map entryOf) :
    EndsFrom d x s (shared f s) where
  view := fun _ => cycleView_shared honly
  plan := fun hx h hshort => by
    have hcommon : (shared f s).state.common = (f s.round2).state :=
      congrArg ConnManager.common (shared_state f s)
    rw [hcommon] at hshort
    obtain ⟨hok, hmem⟩ := hplan hx (h.same ⟨rfl, rfl, rfl, rfl⟩) hshort
    unfold Plans
    rw [hcommon]
    exact ⟨hok, hmem⟩
  fake := (congrArg ConnManager.fakeRound3ResponseForBaseline (shared_state f s)).trans rfl

theorem endsFrom_quiet {f : RCanopus.ConnManager → RCanopus.Outcome}
    (h : Quiet s.common (f s.round2).state) : EndsFrom d x s (shared f s) := by
  refine endsFrom_shared h.only fun _ hok _ => ⟨?_, fun c => ?_⟩
  · have hcommon : PlanOk d x.1 s.common := hok.same ⟨rfl, rfl, rfl, rfl⟩
    exact hcommon.same h.plan
  · rw [h.plan.planOf]

/-- A leader that is woken up may start a round. -/
theorem endsFrom_empty (hx : x.2 = 0) : EndsFrom d x s (shared (fun c =>
    RCanopus.debugThrow (d.env x) (d.env x).conf.isRound2Leader c
      (startRound2IfPossible (d.env x) ω.engine)) s) := by
  obtain ⟨b, i⟩ := x
  have hx : i = 0 := hx
  subst hx
  have hleader : (d.env (b, 0)).conf.sLid = 0 := rfl
  refine endsFrom_shared ?_ fun _ hok hshort => ?_
  · exact (round2Only_round2 s).startRound2IfPossible hleader
  · exact hok.start hshort

/-- A batch may start a round at a leader, and another SL forwards it. -/
theorem endsFrom_request {e' : RCanopus.QueueElement} {m : MessageRound2Request}
    (he : e'.pMessage = .round2Request m) : EndsFrom d x s
      (shared (dispatcherRound2Request (d.env x) ω.engine e' m) s) := by
  refine endsFrom_shared ((round2Only_round2 s).dispatcherRound2Request he) fun hx hok hshort => ?_
  obtain ⟨b, i⟩ := x
  have hx : i = 0 := hx
  subst hx
  have hleader : (d.env (b, 0)).conf.isRound2Leader = true := rfl
  unfold dispatcherRound2Request at hshort ⊢
  rw [hleader, Bool.not_true, if_neg Bool.false_ne_true] at hshort ⊢
  unfold RCanopus.debugThrowElseReturnVoid at hshort ⊢
  have hguard : PlanOk d b (s.round2.note .guardFailed)
      ∧ ∀ c, .localConnectivity c ∈ (planOf (s.round2.note .guardFailed)).map entryOf
        ↔ .localConnectivity c ∈ (planOf s.common).map entryOf := by
    have hquiet : Quiet s.common (s.round2.note .guardFailed) := (quiet_round2 s).note rfl rfl
    have hcommon : PlanOk d b s.common := hok.same ⟨rfl, rfl, rfl, rfl⟩
    refine ⟨hcommon.same hquiet.plan, fun c => ?_⟩
    rw [hquiet.plan.planOf]
  by_cases hsender : m.sender.toNat < (d.env (b, 0)).conf.numSL (d.env (b, 0)).conf.bGid
  · rw [decide_eq_true hsender, if_pos rfl] at hshort ⊢
    have hcounted : PlanOk d b { s.round2 with
        rgLeaderBatchReceivedFrom := Function.update s.round2.rgLeaderBatchReceivedFrom
          m.sender.toNat (s.round2.rgLeaderBatchReceivedFrom m.sender.toNat + 1) } :=
      hok.same ⟨rfl, rfl, rfl, rfl⟩
    exact hcounted.start hshort
  · rw [decide_eq_false hsender, if_neg Bool.false_ne_true]
    split
    · exact hguard
    · exact hguard

/-- A handler that leaves the cycles alone, but that may start a round. -/
theorem CoreOk.ends (h : CoreOk d σ) (h2 : Round2Ok d σ'.erase)
    (hd : Dispatch d σ σ' x e ω before) (hsend : before.sl.sendQueue = [])
    (hends : EndsFrom d x before.sl (dispatcherRound2 (d.env x) ω e before.sl)) :
    Advance d σ σ' x := by
  have hplan : x.2 = 0 → PlanOk d x.1 before.sl.common := h.plan_before hd
  exact h.step hd h2 hends hplan (h.fake_before hd) fun c g hg =>
    ⟨g, hg.quiet_from hd h2 hsend hends hplan (Or.inl rfl) Iff.rfl, .stay⟩

/-- A request changes neither the plan nor the template. -/
theorem fetchRequest_same (env : Env) (m : MessageRound3FetchRequest) (s : ConnManager) :
    (dispatcherRound3FetchRequest env m s).state.common = s.common
      ∧ (dispatcherRound3FetchRequest env m s).state.fakeRound3ResponseForBaseline
        = s.fakeRound3ResponseForBaseline := by
  unfold dispatcherRound3FetchRequest
  dsimp only
  split
  · split
    · split <;> exact ⟨rfl, rfl⟩
    · exact ⟨rfl, rfl⟩
  · split <;> exact ⟨rfl, rfl⟩

/-- **A request** keeps the invariant. -/
theorem CoreOk.fetchRequest {m : MessageRound3FetchRequest} (h : CoreOk d σ)
    (hfits : d.conf.Fits) (h2 : Round2Ok d σ'.erase) (hd : Dispatch d σ σ' x e ω before)
    (hsend : before.sl.sendQueue = []) (hm : e.pMessage = .common (.round3FetchRequest m))
    (hs : dispatcherRound2 (d.env x) ω e before.sl
      = dispatcherRound3FetchRequest (d.env x) m before.sl) : Advance d σ σ' x := by
  obtain ⟨hcommon, hfake⟩ := fetchRequest_same (d.env x) m before.sl
  rw [← hs] at hcommon hfake
  refine h.step hd h2 endsFrom_state (fun hx => hcommon ▸ h.plan_before hd hx) ?_
    (h.cycles.fetchRequest hfits hd hsend (h.fake_before hd) hm hs)
  unfold FakeOk
  rw [hfake]
  exact h.fake_before hd

/-- **A dispatch** keeps the invariant. -/
theorem CoreOk.dispatch (h : CoreOk d σ) (hfits : d.conf.Fits) (h1 : Round2Ok d σ.erase)
    (h2 : Round2Ok d σ'.erase) (hd : Dispatch d σ σ' x e ω before) : Advance d σ σ' x := by
  obtain ⟨a, log, hinv⟩ := h1 x.1 (Nat.lt_of_le_of_lt (Nat.zero_le _) hd.has.2)
  have hsend : before.sl.sendQueue = [] :=
    List.map_eq_nil_iff.mp
      (RCanopus.Cluster.DispatchTo.sendQueue_before (b := x.1) (i := x.2) hd.erase hinv)
  by_cases hversion : e.pMessage.header.version ≠ versionLatest
  · refine h.leaderQuiet hd h2 hsend (Or.inl ?_)
    unfold dispatcherRound2
    rw [if_pos hversion]
    rfl
  have hout : dispatcherRound2 (d.env x) ω e before.sl = _ := if_neg hversion
  cases hm : e.pMessage with
  | common m =>
    cases m with
    | empty m =>
      obtain ⟨b, i⟩ := x
      have hleader :=
        ((hinv.flight i hd.has.2).empty _ (mem_ofType_erase hd.mem_pool hm)).1
      rw [hm] at hout
      exact h.ends h2 hd hsend (hout ▸ endsFrom_empty hleader)
    | round2Request m =>
      rw [hm] at hout
      exact h.ends h2 hd hsend (hout ▸ endsFrom_request rfl)
    | round2Preprepare m =>
      rw [hm] at hout
      exact h.ends h2 hd hsend
        (hout ▸ endsFrom_quiet ((quiet_round2 _).dispatcherRound2Preprepare rfl))
    | round2PartialCommit m =>
      rw [hm] at hout
      exact h.ends h2 hd hsend
        (hout ▸ endsFrom_quiet ((quiet_round2 _).dispatcherRound2PartialCommit rfl))
    | round2FullCommit m => exact h.fullCommit hfits h1 h2 hd hsend hm
    | round3FetchRequest m =>
      rw [hm] at hout
      exact h.fetchRequest hfits h2 hd hsend hm hout
    | round3FetchResponse m =>
      rw [hm] at hout
      exact h.fetchResponse h1 h2 hd hsend hm hout
    | _ =>
      rw [hm] at hout
      exact h.leaderQuiet hd h2 hsend (Or.inl (congrArg Outcome.state hout))
  | round3Preprepare m =>
    rw [hm] at hout
    exact h.preprepare3 hfits h2 hd hsend hm hout
  | round3PartialCommit m =>
    rw [hm] at hout
    exact h.partialCommit3 h2 hd hsend hm hout
  | round3FullCommit m =>
    rw [hm] at hout
    exact h.fullCommit3 h2 hd hsend hm hout

/-! ## All runs -/

theorem coreOk_init (hn : 0 < d.conf.numBG) : CoreOk d init where
  plan := fun _ => planOk_init
  cycles := fun c => by
    refine ⟨.init, {
      ok := Progress.ok_init hn
      sl := fun y => ?_
      flight := fun y k => Nat.zero_le _
      good := fun y e he => absurd he (Multiset.notMem_zero e)
      slots := fun y status hs => absurd hs (by simp [viewAt, ConnManager.cycleView, init,
        ConnManager.init])
      events := fun y ev hev => absurd hev List.not_mem_nil
      planned := fun b _ => ?_ }⟩
    · exact {
        committed := rfl
        stored := rfl
        status := rfl
        own := fun status hs => absurd hs (by simp [viewAt, ConnManager.cycleView, init,
          ConnManager.init])
        slots := fun status hs => absurd hs (by simp [viewAt, ConnManager.cycleView, init,
          ConnManager.init])
        nodup := List.nodup_nil
        pending := fun z => iff_of_false List.not_mem_nil (by simp [Progress.init])
        marks := by
          unfold Progress.marks
          simp [Progress.init, LockStep.State.init, Stage.Connected]
          rfl }
    · exact iff_of_false List.not_mem_nil (by simp [Progress.init, Stage.Connected])
  fake := fun y f hf => absurd hf (by simp [init, ConnManager.init])

theorem Cluster.Tick.viewAt (ht : Tick d σ σ') (c : UInt16) (y : Peer) :
    viewAt σ' c y = viewAt σ c y := by
  obtain ⟨k, hk⟩ := ht.sl_eq y
  unfold Baseline.viewAt
  rw [hk]
  rfl

/-- **The clients** leave the cycles alone. -/
theorem CycleOk.tick {c : UInt16} {g : Progress} (hg : CycleOk d σ c g) (ht : Tick d σ σ') :
    CycleOk d σ' c g := by
  have hview := ht.viewAt c
  have hplans : ∀ b, Plans (σ' (b, 0)).sl c ↔ Plans (σ (b, 0)).sl c := fun b => by
    obtain ⟨k, hk⟩ := ht.sl_eq (b, 0)
    rw [hk]
    exact Iff.rfl
  have hanswered : ∀ {A r}, Answered σ c A r → Answered σ' c A r := by
    rintro A r ⟨j, source, z, hmem⟩
    exact ⟨j, source, z, by rwa [hview]⟩
  have hown : ∀ {y r}, OwnAnswer d σ c y r → OwnAnswer d σ' c y r := by
    rintro y r ⟨p, hp, hrest⟩
    exact ⟨p, by rwa [hview], hrest⟩
  -- what the clients send is of round 2
  have hpool : ∀ y, ∃ l : List QueueElement, pool σ' y = pool σ y + ↑l
      ∧ ∀ e ∈ l, e.pMessage.key = none := fun y => by
    obtain ⟨l, hl, hnew⟩ := ht.pool_eq y
    refine ⟨l, hl, fun e he => ?_⟩
    rcases (hnew e he).2 with hm | ⟨sl, content, -, hm⟩
    · rw [hm]
      rfl
    · rw [hm]
      rfl
  refine {
    ok := hg.ok
    sl := fun y => hview y ▸ hg.sl y
    flight := fun y k => ?_
    good := fun y e he hc => ?_
    slots := fun y status hs A hA r hr => hanswered (hg.slots y status (hview y ▸ hs) A hA r hr)
    events := fun y ev hev => ?_
    planned := fun b hb => (hplans b).trans (hg.planned b hb) }
  · obtain ⟨l, hl, hnew⟩ := hpool y
    rw [hl, keyCount_add]
    have hzero : keyCount c k ↑l = 0 := Multiset.countP_eq_zero.mpr fun e he => by
      rw [hnew e (Multiset.mem_coe.mp he)]
      simp
    rw [hzero, Nat.add_zero]
    exact hg.flight y k
  · obtain ⟨l, hl, hnew⟩ := hpool y
    rw [hl] at he
    rcases Multiset.mem_add.mp he with he | he
    · have hgood := hg.good y e he hc
      revert hgood
      cases e.pMessage with
      | common m =>
        cases m with
        | round3FetchResponse m => exact hanswered
        | _ => exact id
      | _ => exact id
    · rw [e.pMessage.round3Cycle_eq, hnew e (Multiset.mem_coe.mp he)] at hc
      exact absurd hc (by simp)
  · rw [hview] at hev
    have hok := hg.events y ev hev
    cases ev with
    | answered source cycle z m =>
      refine ⟨fun hsource => ?_, hok.2⟩
      obtain ⟨r, hr, hm⟩ := hok.1 hsource
      exact ⟨r, hown hr, hm⟩
    | fetched cycle status =>
      obtain ⟨⟨r, hr, hr'⟩, hslots⟩ := hok
      refine ⟨⟨r, hr, hown hr'⟩, fun A hA hne => ?_⟩
      obtain ⟨r, hr, hanswer⟩ := hslots A hA hne
      exact ⟨r, hr, hanswered hanswer⟩
    | _ => trivial

theorem CoreOk.tick (h : CoreOk d σ) (ht : Tick d σ σ') : CoreOk d σ' where
  plan := fun b => by
    obtain ⟨k, hk⟩ := ht.sl_eq (b, 0)
    rw [hk]
    exact (h.plan b).same ⟨rfl, rfl, rfl, rfl⟩
  cycles := fun c => by
    obtain ⟨g, hg⟩ := h.cycles c
    exact ⟨g, hg.tick ht⟩
  fake := fun y => by
    obtain ⟨k, hk⟩ := ht.sl_eq y
    rw [hk]
    exact h.fake y

theorem coreOk_step (hfits : d.conf.Fits) (hreach : Reachable d σ) (h : CoreOk d σ)
    (hs : Step d σ σ') : CoreOk d σ' := by
  rcases step_cases hs with ⟨x, e, ω, before, hd⟩ | ht
  · exact (h.dispatch hfits (round2Ok_of_reachable hreach)
      (round2Ok_of_reachable (hreach.step hs)) hd).core
  · exact h.tick ht

/-- **The invariant of round 3** holds in every run. -/
theorem coreOk_of_reachable (hfits : d.conf.Fits) (hn : 0 < d.conf.numBG)
    (h : Reachable d σ) : CoreOk d σ :=
  h.induct (coreOk_init hn) fun _ _ hreach h hs => coreOk_step hfits hreach h hs

/-- Every step makes one move in every cycle, or none. -/
theorem cyclesNext_step (hfits : d.conf.Fits) (hn : 0 < d.conf.numBG) (hreach : Reachable d σ)
    (hs : Step d σ σ') : ∃ x, CyclesNext d σ σ' x := by
  rcases step_cases hs with ⟨x, e, ω, before, hd⟩ | ht
  · exact ⟨x, ((coreOk_of_reachable hfits hn hreach).dispatch hfits (round2Ok_of_reachable hreach)
      (round2Ok_of_reachable (hreach.step hs)) hd).cycles⟩
  · exact ⟨(0, 0), fun _ g hg => ⟨g, hg.tick ht, .stay⟩⟩

end RCanopus.Baseline
