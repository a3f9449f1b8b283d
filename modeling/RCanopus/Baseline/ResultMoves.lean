import RCanopus.Baseline.FetchMoves

/-!
# Results

An answer to an SL, and the committed result of its own BG, keep the invariant of their cycle.
-/

namespace RCanopus.Baseline

open Baseline.Cluster
open RCanopus.Cluster (length_le issued_eq committed_eq)

variable {d : Deployment} {σ σ' : Cluster} {x y z : Peer} {e : QueueElement} {ω : Choice}
  {before : Node} {c : UInt16} {k : Key} {s : ConnManager} {g g' : Progress}

/-! ## Handlers that end with a new round -/

/-- How a handler ends that has led to `s`: the leader may have started a round. -/
structure EndsFrom (d : Deployment) (x : Peer) (s : ConnManager) (o : Outcome) : Prop where
  view : ∀ c, o.state.cycleView c = s.cycleView c
  plan : x.2 = 0 → PlanOk d x.1 s.common → (issuedOf o.state.common.history).length < 2 ^ 16 →
    PlanOk d x.1 o.state.common ∧ ∀ c, Plans o.state c ↔ Plans s c
  fake : o.state.fakeRound3ResponseForBaseline = s.fakeRound3ResponseForBaseline

theorem endsFrom_state {o : Outcome} : EndsFrom d x o.state o where
  view := fun _ => rfl
  plan := fun _ h _ => ⟨h, fun _ => Iff.rfl⟩
  fake := rfl

theorem endsFrom_ok : EndsFrom d x s (.ok s) := endsFrom_state (o := .ok s)

theorem endsFrom_spawnRound2 : EndsFrom d x s (spawnRound2 (d.env x) ω s) where
  view := fun _ => cycleView_spawnRound2
  plan := fun hx h hshort => by
    obtain ⟨b, i⟩ := x
    have hx : i = 0 := hx
    subst hx
    have hcommon : (spawnRound2 (d.env (b, 0)) ω s).state.common
        = (startRound2IfPossible (d.env (b, 0)) ω.engine s.round2).state :=
      congrArg ConnManager.common (shared_state _ s)
    have hround2 : PlanOk d b s.round2 := PlanOk.same h ⟨rfl, rfl, rfl, rfl⟩
    rw [hcommon] at hshort
    obtain ⟨hok, hmem⟩ := hround2.start hshort
    unfold Plans
    rw [hcommon]
    exact ⟨hok, hmem⟩
  fake := (congrArg ConnManager.fakeRound3ResponseForBaseline (shared_state _ s)).trans rfl

/-- A leader has not issued more than the sequence numbers allow. -/
theorem issued_short (h2 : Round2Ok d σ.erase) {b : Nat} (hn : 0 < d.conf.numSL b) :
    (issuedOf (σ (b, 0)).sl.common.history).length < 2 ^ 16 := by
  obtain ⟨a, log, hlog⟩ := h2 b hn
  have hle := length_le hlog.toLogOk hn
  rw [← issued_eq hlog hn] at hle
  exact Nat.lt_succ_of_le hle

/-- What a leader has issued after a dispatch is short. -/
theorem Cluster.Dispatch.short (hd : Dispatch d σ σ' x e ω before) (h2 : Round2Ok d σ'.erase)
    (hx : x.2 = 0) : (issuedOf (dispatcherRound2 (d.env x) ω e
      before.sl).state.common.history).length < 2 ^ 16 := by
  obtain ⟨b, i⟩ := x
  have hx : i = 0 := hx
  subst hx
  have hshort := issued_short h2 (Nat.lt_of_le_of_lt (Nat.zero_le _) hd.has.2)
  rwa [hd.result, install_sl_self] at hshort

/-- **The invariant** of the plans, of the cycles and of the templates. -/
structure CoreOk (d : Deployment) (σ : Cluster) : Prop where
  plan : ∀ b, PlanOk d b (σ (b, 0)).sl.common
  cycles : CyclesOk d σ
  fake : ∀ y, FakeOk (d.env y) (σ y).sl

theorem CoreOk.plan_before (h : CoreOk d σ) (hd : Dispatch d σ σ' x e ω before) (hx : x.2 = 0) :
    PlanOk d x.1 before.sl.common := by
  have hplan := h.plan x.1
  have heq : (x.1, 0) = x := Prod.ext rfl hx.symm
  rw [heq] at hplan
  rw [hd.sl_eq]
  exact hplan

/-- A step of an SL keeps the invariant, and every cycle makes a move or none. -/
structure Advance (d : Deployment) (σ σ' : Cluster) (x : Peer) : Prop where
  core : CoreOk d σ'
  cycles : CyclesNext d σ σ' x

theorem CyclesNext.ok (h : CyclesNext d σ σ' x) (hok : CyclesOk d σ) : CyclesOk d σ' := fun c => by
  obtain ⟨g, hg⟩ := hok c
  obtain ⟨g', hg', -⟩ := h c g hg
  exact ⟨g', hg'⟩

/-- A dispatch with its cycles in order keeps the rest of the invariant. -/
theorem CoreOk.step (h : CoreOk d σ) (hd : Dispatch d σ σ' x e ω before)
    (h2 : Round2Ok d σ'.erase)
    (hends : EndsFrom d x s (dispatcherRound2 (d.env x) ω e before.sl))
    (hplan : x.2 = 0 → PlanOk d x.1 s.common) (hfake : FakeOk (d.env x) s)
    (hcycles : CyclesNext d σ σ' x) : Advance d σ σ' x := by
  refine ⟨⟨fun b => ?_, hcycles.ok h.cycles, fun y => ?_⟩, hcycles⟩
  · rw [hd.result]
    by_cases hx : (b, 0) = x
    · subst hx
      rw [install_sl_self]
      exact (hends.plan rfl (hplan rfl) (hd.short h2 rfl)).1
    · rw [install_sl_of_ne hx]
      exact h.plan b
  · rw [hd.result]
    by_cases hy : y = x
    · subst hy
      rw [install_sl_self]
      unfold FakeOk
      intro f hf
      have hf : (dispatcherRound2 (d.env y) ω e before.sl).state.fakeRound3ResponseForBaseline
        = some f := hf
      rw [hends.fake] at hf
      exact hfake f hf
    · rw [install_sl_of_ne hy]
      exact h.fake y

theorem CoreOk.fake_before (h : CoreOk d σ) (hd : Dispatch d σ σ' x e ω before) :
    FakeOk (d.env x) before.sl := by
  have hfake := h.fake x
  rw [hd.sl_eq]
  exact hfake

/-- What the leaders have planned after a dispatch. -/
theorem Cluster.Dispatch.planned_from (hd : Dispatch d σ σ' x e ω before)
    (h2 : Round2Ok d σ'.erase)
    (hends : EndsFrom d x s (dispatcherRound2 (d.env x) ω e before.sl))
    (hplan : x.2 = 0 → PlanOk d x.1 s.common) (b : Nat) :
    Plans (σ' (b, 0)).sl c ↔ if (b, 0) = x then Plans s c else Plans (σ (b, 0)).sl c := by
  rw [hd.result]
  split
  · next hx =>
    subst hx
    rw [install_sl_self]
    exact (hends.plan rfl (hplan rfl) (hd.short h2 rfl)).2 c
  · next hx => rw [install_sl_of_ne hx]

/-- A handler that leaves a cycle alone, but for the element that it may put back. -/
theorem CycleOk.quiet_from (hg : CycleOk d σ c g) (hd : Dispatch d σ σ' x e ω before)
    (h2 : Round2Ok d σ'.erase) (hsend : before.sl.sendQueue = [])
    (hends : EndsFrom d x s (dispatcherRound2 (d.env x) ω e before.sl))
    (hplan : x.2 = 0 → PlanOk d x.1 s.common)
    (hview : s.cycleView c = before.sl.cycleView c
      ∨ s.cycleView c = (before.sl.cycleView c).juggle e)
    (hsame : Plans s c ↔ Plans before.sl c) : CycleOk d σ' c g := by
  refine hg.quiet hd hsend ?_ fun hx => ?_
  · rw [hends.view]
    exact hview
  · exact ((hends.plan hx (hplan hx) (hd.short h2 hx)).2 c).trans hsame

/-! ## Answers -/

section Response

variable {m : MessageRound3FetchResponse} {status : CycleStatus}

theorem fill_slot (A : Nat) : (status.fill m).rgMsgRound3FetchResponse A
    = if A = m.senderBGid.toNat then some m else status.rgMsgRound3FetchResponse A :=
  Function.update_apply ..

/-- The view of the cycle after a response. -/
theorem cycleView_afterResponse {env : Env} :
    (afterResponse env m status s).cycleView m.cycle
      = if (status.fill m).full env.conf.numBG then
          ((s.cycleView m.cycle).setStatus (status.fill m).fetched).notes
            [.fetched m.cycle (status.fill m).fetched]
        else (s.cycleView m.cycle).setStatus (status.fill m) := by
  have hnoted : (((s.setStatus m.cycle (status.fill m)).setStatus m.cycle
      (status.fill m).fetched).note (.fetched m.cycle (status.fill m).fetched)).cycleView m.cycle
      = ((s.cycleView m.cycle).setStatus (status.fill m).fetched).notes
        [.fetched m.cycle (status.fill m).fetched] := by
    rw [cycleView_note rfl, cycleView_setStatus, cycleView_setStatus]
    rfl
  unfold afterResponse
  dsimp only
  split
  · split
    · exact hnoted
    · exact hnoted
  · exact cycleView_setStatus

theorem cycleView_afterResponse_of_ne {env : Env} (hc : m.cycle ≠ c) :
    (afterResponse env m status s).cycleView c = s.cycleView c := by
  have hne : (Event.fetched m.cycle (status.fill m).fetched).cycle ≠ some c := by
    simpa [Event.cycle] using hc
  have hnoted : (((s.setStatus m.cycle (status.fill m)).setStatus m.cycle
      (status.fill m).fetched).note (.fetched m.cycle (status.fill m).fetched)).cycleView c
      = s.cycleView c := by
    rw [cycleView_note_of_ne hne, cycleView_setStatus_of_ne hc, cycleView_setStatus_of_ne hc]
  unfold afterResponse
  dsimp only
  split
  · split
    · exact hnoted
    · exact hnoted
  · exact cycleView_setStatus_of_ne hc

/-- What is queued after a response. -/
theorem common_afterResponse {env : Env} : (afterResponse env m status s).common
    = if (status.fill m).full env.conf.numBG ∧ env.conf.isRound2Leader then
        RCanopus.pushPreprepare (localConnectivityPreprepare env.conf m.cycle) s.common
      else s.common := by
  unfold afterResponse
  dsimp only
  by_cases hfull : (status.fill m).full env.conf.numBG = true
  · by_cases hleader : env.conf.isRound2Leader = true
    · rw [if_pos hfull, if_pos hleader, if_pos ⟨hfull, hleader⟩]
      rfl
    · rw [if_pos hfull, if_neg hleader, if_neg fun hc => hleader hc.2]
      rfl
  · rw [if_neg hfull, if_neg fun hc => hfull hc.1]
    rfl

/-- The slot of the answering BG is filled. -/
theorem same_take {numBG A : Nat} (hold : g.token x A = .answered) (hy : y ≠ x) :
    g.Same numBG (g.take numBG x A) y := by
  have hstage : (g.take numBG x A).stage y = g.stage y := by
    rw [Progress.take_stage, if_neg fun hc => hy hc.1]
  refine ⟨hstage, ?_, fun B _ _ => ?_, fun z => ?_, ?_⟩
  · unfold Progress.expected
    rw [hstage]
    rfl
  · rw [Progress.take_token, if_neg fun hc => hy hc.1]
  · rw [Progress.take_token]
    split
    · next hc =>
      rw [hc.1, hc.2, hold]
      simp
    · exact Iff.rfl
  · unfold Progress.marks
    rw [hstage]
    rfl

variable (hg : CycleOk d σ m.cycle g) (hd : Dispatch d σ σ' x e ω before)
  (hm : e.pMessage = .common (.round3FetchResponse m))

include hg hd hm

theorem CycleOk.answered : g.token x m.senderBGid.toNat = .answered :=
  hg.holds (k := .response m.senderBGid.toNat) hd.mem_pool (by rw [hm]; rfl)

/-- An SL that gets an answer waits for it. -/
theorem CycleOk.waiting : 1 < d.conf.numBG ∧ ∃ status,
    before.sl.mapRound3Status m.cycle = some status
    ∧ status.summary = (.common .round3WaitingForReplicatedResults, .common .round3FetchResponse,
      0, d.conf.numBG - 1) := by
  have hanswered := hg.answered hd hm
  have hlt := hg.ok.lt_of_token (y := x) (A := m.senderBGid.toNat) (by simp [hanswered])
  have hstage := hg.ok.stage_of_token (y := x) (A := m.senderBGid.toNat) (by simp [hanswered])
    (by simp [hanswered])
  have hN := hg.ok.several x (by simp [hstage]) (by simp [hstage])
  refine ⟨by omega, ?_⟩
  have hsl := (hd.slCycle hg).status
  unfold Progress.expected at hsl
  rw [hstage] at hsl
  exact Option.map_eq_some_iff.mp hsl

/-- All slots are full after the answer, when all other BGs have answered. -/
theorem CycleOk.full_iff (hstatus : before.sl.mapRound3Status m.cycle = some status) :
    (status.fill m).full d.conf.numBG = true
      ↔ (g.take d.conf.numBG x m.senderBGid.toNat).Fetched d.conf.numBG x := by
  have hanswered := hg.answered hd hm
  have hlt := hg.ok.lt_of_token (y := x) (A := m.senderBGid.toNat) (by simp [hanswered])
  have hsl := hd.slCycle hg
  obtain ⟨p, -, -, -, fc, hown⟩ := hsl.own status hstatus
  unfold CycleStatus.full
  rw [List.all_eq_true]
  refine ⟨fun hall B hB hne => ?_, fun hall B hB => ?_⟩
  · have hslot := hall B (List.mem_range.mpr hB)
    rw [fill_slot] at hslot
    rw [Progress.take_token]
    split at hslot
    · next hBA => rw [if_pos ⟨rfl, hBA⟩]
    · next hBA =>
      rw [if_neg fun hc => hBA hc.2]
      exact (hsl.slots status hstatus B hB hne).mp hslot
  · have hB := List.mem_range.mp hB
    rw [fill_slot]
    split
    · rfl
    · next hBA =>
      by_cases hne : B = x.1
      · rw [hne, hown]
        rfl
      · have htoken := hall B hB hne
        rw [Progress.take_token, if_neg fun hc => hBA hc.2] at htoken
        exact (hsl.slots status hstatus B hB hne).mpr htoken

/-- The cycle after an answer. -/
theorem CycleOk.take (h2 : Round2Ok d σ'.erase) (hsend : before.sl.sendQueue = [])
    (hends : EndsFrom d x (afterResponse (d.env x) m status before.sl)
      (dispatcherRound2 (d.env x) ω e before.sl))
    (hplan : x.2 = 0 → PlanOk d x.1 (afterResponse (d.env x) m status before.sl).common)
    (hstatus : before.sl.mapRound3Status m.cycle = some status)
    (hsummary : status.summary = (.common .round3WaitingForReplicatedResults,
      .common .round3FetchResponse, 0, d.conf.numBG - 1))
    (hplans : Plans (afterResponse (d.env x) m status before.sl) m.cycle
      ↔ Plans before.sl m.cycle
        ∨ m.cycle = m.cycle ∧ (status.fill m).full d.conf.numBG = true ∧ x.2 = 0) :
    CycleOk d σ' m.cycle (g.take d.conf.numBG x m.senderBGid.toNat) := by
  have hanswered := hg.answered hd hm
  have hlt := hg.ok.lt_of_token (y := x) (A := m.senderBGid.toNat) (by simp [hanswered])
  have hstage := hg.ok.stage_of_token (y := x) (A := m.senderBGid.toNat) (by simp [hanswered])
    (by simp [hanswered])
  have hfull := hg.full_iff hd hm hstatus
  have hsl := hd.slCycle hg
  have hbefore := hd.view_eq (c := m.cycle)
  have hnone := sends_nil (c := m.cycle) hsend
  obtain ⟨status', evs, hstatus', hview⟩ : ∃ status' evs,
      (status' = (if (status.fill m).full d.conf.numBG then (status.fill m).fetched
          else status.fill m)
        ∧ evs = if (status.fill m).full d.conf.numBG then
          [Event.fetched m.cycle (status.fill m).fetched] else [])
      ∧ (afterResponse (d.env x) m status before.sl).cycleView m.cycle
        = ((before.sl.cycleView m.cycle).setStatus status').notes evs := by
    refine ⟨_, _, ⟨rfl, rfl⟩, ?_⟩
    rw [cycleView_afterResponse]
    split
    · next hf =>
      have hf : (status.fill m).full d.conf.numBG = true := hf
      rw [if_pos hf, if_pos hf]
    · next hf =>
      have hf : ¬ (status.fill m).full d.conf.numBG = true := hf
      rw [if_neg hf, if_neg hf]
      unfold CycleView.notes
      rw [List.append_nil]
  obtain ⟨hstatus', hevs'⟩ := hstatus'
  have hslots : ∀ B, status'.rgMsgRound3FetchResponse B
      = if B = m.senderBGid.toNat then some m else status.rgMsgRound3FetchResponse B := fun B => by
    rw [hstatus', ← fill_slot]
    split <;> rfl
  have ht := hd.turn (c := m.cycle) true rfl (by
    rw [hends.view, hview]
    exact (List.append_nil _).symm)
  rw [hends.view, hview] at ht
  have hevs : (((before.sl.cycleView m.cycle).setStatus status').notes evs).events
      = (viewAt σ m.cycle x).events ++ evs := by
    rw [hbefore]
    rfl
  have hps : (((before.sl.cycleView m.cycle).setStatus status').notes evs).committed
      = (viewAt σ m.cycle x).committed ++ [] := by
    rw [hbefore, List.append_nil]
    rfl
  have hstage' : (g.take d.conf.numBG x m.senderBGid.toNat).stage x = _ := Progress.take_stage x
  have hgood : Answered σ m.cycle m.senderBGid.toNat m := by
    have := hg.good x e hd.mem_pool (by rw [hm]; rfl)
    rwa [hm] at this
  have hanswers : ∀ A ≠ x.1, ∀ r, status'.rgMsgRound3FetchResponse A = some r →
      Answered σ' m.cycle A r := fun A hA r hr => by
    rw [hslots] at hr
    split at hr
    · next hAm =>
      rw [← Option.some.inj hr, hAm]
      exact ht.answered hevs hgood
    · exact ht.answered hevs (hg.slots x status (hd.status_eq.symm.trans hstatus) A hA r hr)
  have hown : ∃ p ∈ (viewAt σ m.cycle x).committed, entryOf p = .client m.cycle
      ∧ p.bGid = UInt16.ofNat x.1
      ∧ ∃ fc, status'.rgMsgRound3FetchResponse x.1 = some (ownResult (d.env x) fc p) := by
    obtain ⟨p, hp, hentry, hbGid, fc, hslot⟩ := hsl.own status hstatus
    rw [hbefore] at hp
    refine ⟨p, hp, hentry, hbGid, fc, ?_⟩
    rw [hslots, if_neg fun heq => hlt.2 heq.symm]
    exact hslot
  have hstages : (g.take d.conf.numBG x m.senderBGid.toNat).stage x
      = if (status.fill m).full d.conf.numBG then .connecting else .fetching := by
    rw [hstage', hstage]
    exact if_congr ((and_iff_right rfl).trans hfull.symm) rfl rfl
  refine hg.turn ht hevs hps (hg.ok.take hanswered) ?_ (fun y hy => same_take hanswered hy)
    (fun y k hk => ?_) (fun y k hk => ?_) (fun _ => rfl) (fun el hel _ => ?_)
    (fun st hst A hA r hr => ?_) (fun ev hev => ?_) fun b hb => ?_
  · refine {
      committed := ?_
      stored := ?_
      status := ?_
      own := fun st hst => ?_
      slots := fun st hst A hA hne => ?_
      nodup := hsl.nodup
      pending := fun z => ?_
      marks := ?_ }
    · refine hsl.committed.trans ?_
      rw [hstages, hstage]
      split <;> simp [Stage.entries, Stage.Connected]
    · refine hsl.stored.trans ?_
      rw [hstages, hstage]
      split <;> rfl
    · show some status'.summary = _
      unfold Progress.expected
      rw [hstages, hstatus']
      split
      · rfl
      · exact congrArg some hsummary
    · obtain ⟨p, hp, hrest⟩ := hown
      refine ⟨p, ?_, ?_⟩
      · rw [hps, List.append_nil]
        exact hp
      · rw [← Option.some.inj hst]
        exact hrest
    · rw [← Option.some.inj hst, hslots, Progress.take_token]
      by_cases hAm : A = m.senderBGid.toNat
      · rw [if_pos hAm, if_pos ⟨rfl, hAm⟩]
        simp
      · rw [if_neg hAm, if_neg fun hc => hAm hc.2]
        exact hsl.slots status hstatus A hA hne
    · refine (hsl.pending z).trans ?_
      rw [Progress.take_token, if_neg]
      rintro ⟨-, heq⟩
      exact hlt.2 heq.symm
    · show marks ((before.sl.cycleView m.cycle).events ++ evs) = _
      have hnomark : marks evs = [] := by
        rw [hevs']
        split <;> rfl
      rw [marks_append, hnomark, List.append_nil, hsl.marks]
      have hlast : (g.take d.conf.numBG x m.senderBGid.toNat).last = g.last := rfl
      refine (Progress.marks_congr hlast rfl ?_ ?_).symm
      all_goals
        rw [hstages, hstage]
        split <;> simp [Stage.Connected]
  · cases k with
    | request z =>
      refine Or.inl ?_
      have hk : g.token z y.1 = .asked y.2 := hk
      show (g.take _ _ _).token z y.1 = _
      rw [Progress.take_token, if_neg]
      · exact hk
      · rintro ⟨rfl, heq⟩
        rw [heq, hanswered] at hk
        simp at hk
    | response A =>
      have hk : g.token y A = .answered := hk
      by_cases hy : y = x ∧ A = m.senderBGid.toNat
      · obtain ⟨rfl, rfl⟩ := hy
        exact Or.inr ⟨rfl, rfl, by rw [hm]; rfl⟩
      · refine Or.inl ?_
        show (g.take _ _ _).token y A = _
        rw [Progress.take_token, if_neg hy]
        exact hk
    | _ => exact Or.inl hk
  · have hk : 0 < keyCount m.cycle k (sent x (before.sl.cycleView m.cycle).sends y) := hk
    rw [hnone, sent_nil] at hk
    exact absurd hk (Nat.lt_irrefl 0)
  · have hel : el ∈ (before.sl.cycleView m.cycle).sends := hel
    rw [hnone] at hel
    exact absurd hel List.not_mem_nil
  · rw [← Option.some.inj hst] at hr
    exact hanswers A hA r hr
  · rw [hevs'] at hev
    split at hev
    · next hf =>
      rw [List.mem_singleton.mp hev]
      have hfetched : (status.fill m).fetched = status' := by rw [hstatus', if_pos hf]
      rw [hfetched]
      obtain ⟨p, hp, hentry, -, fc, hslot⟩ := hown
      refine ⟨⟨_, hslot, ht.ownAnswer hevs hps ⟨p, hp, hentry, fc, rfl⟩⟩, fun A hA hne => ?_⟩
      have hsome : (status'.rgMsgRound3FetchResponse A).isSome = true := by
        rw [← hfetched]
        exact List.all_eq_true.mp hf A (List.mem_range.mpr hA)
      obtain ⟨r, hr⟩ := Option.isSome_iff_exists.mp hsome
      exact ⟨r, hr, hanswers A hne r hr⟩
    · exact absurd hev List.not_mem_nil
  · rw [hd.planned_from h2 hends hplan]
    split
    · next hbx =>
      have hx : x.2 = 0 := by rw [← hbx]
      have hold := hg.planned b hb
      rw [hbx, hstage] at hold
      have hnot : ¬ Plans before.sl m.cycle := fun hp => by
        have := hold.mp (by rwa [hd.sl_eq] at hp)
        simp [Stage.Connected] at this
      rw [hplans, hbx, hstages]
      by_cases hf : (status.fill m).full d.conf.numBG = true
      · rw [if_pos hf]
        exact iff_of_true (Or.inr ⟨rfl, hf, hx⟩) (Or.inl rfl)
      · rw [if_neg hf]
        refine iff_of_false ?_ (by simp [Stage.Connected])
        rintro (hp | ⟨-, hf', -⟩)
        · exact hnot hp
        · exact hf hf'
    · next hbx =>
      rw [Progress.take_stage, if_neg fun hc => hbx hc.1]
      exact hg.planned b hb

end Response

/-- What an SL commits was issued by its leader. -/
theorem exists_issued (h2 : Round2Ok d σ.erase) (hx : d.Has x)
    {p : MessageRound2Preprepare} (hp : p ∈ committedOf (σ x).sl.common.history) :
    ∃ q ∈ issuedOf (σ (x.1, 0)).sl.common.history, p = q.copy := by
  obtain ⟨b, i⟩ := x
  have hn : 0 < d.conf.numSL b := Nat.lt_of_le_of_lt (Nat.zero_le _) hx.2
  obtain ⟨a, log, hlog⟩ := h2 b hn
  have hcommitted := committed_eq hlog hx.2
  have hissued := issued_eq hlog hn
  have hp : p ∈ RCanopus.Cluster.committed σ.erase (b, i) := hp
  rw [hcommitted] at hp
  obtain ⟨q, hq, rfl⟩ := List.mem_map.mp hp
  have hq : q ∈ RCanopus.Cluster.issued σ.erase b := hissued ▸ List.mem_of_mem_take hq
  exact ⟨q, hq, rfl⟩

theorem mem_issued_of_committed (h2 : Round2Ok d σ.erase) (hx : d.Has x)
    {p : MessageRound2Preprepare} (hp : p ∈ committedOf (σ x).sl.common.history) :
    entryOf p ∈ (issuedOf (σ (x.1, 0)).sl.common.history).map entryOf := by
  obtain ⟨q, hq, rfl⟩ := exists_issued h2 hx hp
  rw [entryOf_copy]
  exact List.mem_map_of_mem hq

/-- **An answer** keeps the invariant. -/
theorem CoreOk.fetchResponse {m : MessageRound3FetchResponse} (h : CoreOk d σ)
    (h1 : Round2Ok d σ.erase) (h2 : Round2Ok d σ'.erase) (hd : Dispatch d σ σ' x e ω before)
    (hsend : before.sl.sendQueue = []) (hm : e.pMessage = .common (.round3FetchResponse m))
    (hs : dispatcherRound2 (d.env x) ω e before.sl
      = dispatcherRound3FetchResponse (d.env x) ω m before.sl) : Advance d σ σ' x := by
  obtain ⟨g, hg⟩ := h.cycles m.cycle
  obtain ⟨hN, status, hstatus, hsummary⟩ := hg.waiting hd hm
  have hanswered := hg.answered hd hm
  have hlt := hg.ok.lt_of_token (y := x) (A := m.senderBGid.toNat) (by simp [hanswered])
  have hstage := hg.ok.stage_of_token (y := x) (A := m.senderBGid.toNat) (by simp [hanswered])
    (by simp [hanswered])
  rw [fetchResponse_eq hstatus hN] at hs
  have hends : EndsFrom d x (afterResponse (d.env x) m status before.sl)
      (dispatcherRound2 (d.env x) ω e before.sl) := hs ▸ endsFrom_spawnRound2
  have hfull := hg.full_iff hd hm hstatus
  have hsl := hd.slCycle hg
  have hcommon : (afterResponse (d.env x) m status before.sl).common = _ := common_afterResponse
  have hbefore := hd.view_eq (c := m.cycle)
  -- the leader queues the local connectivity for the first time
  have hnew : x.2 = 0 → ¬ Plans before.sl m.cycle := fun hx hmem => by
    have hplanned := (hg.planned x.1 hd.has.1).mp (by
      rw [show (x.1, 0) = x from Prod.ext rfl hx.symm]
      rwa [hd.sl_eq] at hmem)
    rw [show (x.1, 0) = x from Prod.ext rfl hx.symm, hstage] at hplanned
    simp [Stage.Connected] at hplanned
  have hclient : x.2 = 0 → .client m.cycle ∈ (issuedOf before.sl.common.history).map entryOf :=
    fun hx => by
      obtain ⟨p, hp, hentry, -⟩ := hsl.own status hstatus
      have hp : p ∈ committedOf before.sl.common.history := (List.mem_filter.mp hp).1
      rw [hd.sl_eq] at hp ⊢
      have := mem_issued_of_committed h1 hd.has hp
      rwa [hentry, show (x.1, 0) = x from Prod.ext rfl hx.symm] at this
  have hplan : x.2 = 0 → PlanOk d x.1 (afterResponse (d.env x) m status before.sl).common :=
    fun hx => by
      have hok := h.plan_before hd hx
      rw [hcommon]
      split
      · exact hok.push rfl rfl (hclient hx) (Nat.le_refl _) (hnew hx)
      · exact hok
  have hplans : ∀ c, Plans (afterResponse (d.env x) m status before.sl) c
      ↔ Plans before.sl c ∨ c = m.cycle ∧ (status.fill m).full d.conf.numBG = true ∧ x.2 = 0 := by
    intro c
    unfold Plans
    rw [hcommon]
    have hleader : (d.env x).conf.isRound2Leader = true ↔ x.2 = 0 := beq_iff_eq
    split
    · next hc =>
      rw [mem_plan_push rfl]
      exact or_congr_right ⟨fun heq => ⟨heq, hc.1, hleader.mp hc.2⟩, fun heq => heq.1⟩
    · next hc =>
      exact (or_iff_left fun hc' => hc ⟨hc'.2.1, hleader.mpr hc'.2.2⟩).symm
  refine h.step hd h2 hends hplan (h.fake_before hd |> fun hf => ?_) fun c g' hg' => ?_
  · unfold afterResponse
    dsimp only
    split
    · split
      · exact hf
      · exact hf
    · exact hf
  by_cases hc : m.cycle = c
  · subst hc
    exact ⟨_, hg'.take hd hm h2 hsend hends hplan hstatus hsummary (hplans m.cycle),
      .take _ (hg'.answered hd hm)⟩
  · refine ⟨g', hg'.quiet_from hd h2 hsend hends hplan
      (Or.inl (cycleView_afterResponse_of_ne hc)) ((hplans c).trans ?_), .stay⟩
    exact or_iff_left fun heq => hc heq.1.symm

end RCanopus.Baseline
