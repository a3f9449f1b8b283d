import RCanopus.Baseline.ConnectMoves

/-!
# The last round

The leaders accept the Preprepare of the last round, the collector counts their partial commits and
sends the full commit, and the leaders end the cycle. Each of these steps keeps the invariant.
-/

namespace RCanopus.Baseline

open Baseline.Cluster

variable {d : Deployment} {σ σ' : Cluster} {x y z : Peer} {e : QueueElement} {ω : Choice}
  {before : Node} {c : UInt16} {k : Key} {s : ConnManager} {g g' : Progress}
  {status status' : CycleStatus}

/-! ## Leaders -/

/-- The stage of a leader in the last round, from its status. -/
theorem CycleOk.leading (hg : CycleOk d σ c g) (hd : Dispatch d σ σ' x e ω before)
    (hstatus : before.sl.mapRound3Status c = some status)
    (hstate : ∀ state, status.state ≠ .common state) :
    g.stage x = .leading ∧ g.expected d.conf.numBG x = some status.summary := by
  have hexpected := (hd.slCycle hg).status
  have hsome : (before.sl.cycleView c).status = some status := hstatus
  rw [hsome, Option.map_some] at hexpected
  refine ⟨?_, hexpected.symm⟩
  unfold Progress.expected at hexpected
  cases hs : g.stage x with
  | leading => rfl
  | fetching =>
    rw [hs] at hexpected
    exact absurd (congrArg Prod.fst (Option.some.inj hexpected)) (hstate _)
  | connecting =>
    rw [hs] at hexpected
    exact absurd (congrArg Prod.fst (Option.some.inj hexpected)) (hstate _)
  | idle =>
    rw [hs] at hexpected
    exact absurd hexpected (by simp)
  | done =>
    rw [hs] at hexpected
    exact absurd hexpected (by simp)

/-- A leader in the last round changes its status and notes what it does. -/
theorem SlCycle.lead {v v' : CycleView} {evs : List Event} (h : SlCycle d c g y v)
    (hcommitted : v'.committed = v.committed) (hstored : v'.stored = v.stored)
    (hpending : v'.pending = v.pending) (hevents : v'.events = v.events ++ evs)
    (hstage : g'.stage y = g.stage y) (htoken : g'.token = g.token)
    (hstatus : v.status = some status) (hstatus' : v'.status = some status')
    (hslots : status'.rgMsgRound3FetchResponse = status.rgMsgRound3FetchResponse)
    (hexpected : g'.expected d.conf.numBG y = some status'.summary)
    (hmarks : g'.marks d.conf.numBG y = g.marks d.conf.numBG y ++ Baseline.marks evs) :
    SlCycle d c g' y v' where
  committed := by rw [hcommitted, hstage, h.committed]
  stored := by rw [hstored, hstage, h.stored]
  status := by rw [hstatus', hexpected]; rfl
  own := fun st hst => by
    obtain ⟨p, hp, hrest⟩ := h.own status hstatus
    rw [hstatus', Option.some.injEq] at hst
    rw [hcommitted, ← hst, hslots]
    exact ⟨p, hp, hrest⟩
  slots := fun st hst A hA hne => by
    rw [hstatus', Option.some.injEq] at hst
    rw [← hst, hslots, htoken]
    exact h.slots status hstatus A hA hne
  nodup := hpending ▸ h.nodup
  pending := fun z => by
    rw [hpending, htoken]
    exact h.pending z
  marks := by rw [hevents, marks_append, h.marks, hmarks]

/-- A handler that does not change the plan, and that no round follows. -/
theorem CoreOk.leaderStep (h : CoreOk d σ) (hd : Dispatch d σ σ' x e ω before)
    (h2 : Round2Ok d σ'.erase) (hsend : before.sl.sendQueue = [])
    (hs : dispatcherRound2 (d.env x) ω e before.sl = .ok s)
    (hcommon : s.common = before.sl.common)
    (hfake : s.fakeRound3ResponseForBaseline = before.sl.fakeRound3ResponseForBaseline)
    (hothers : ∀ c' ≠ c, s.cycleView c' = before.sl.cycleView c')
    (hcycle : ∀ g, CycleOk d σ c g →
      ∃ g', CycleOk d σ' c g' ∧ Progress.Next d.conf.numBG x g g') : Advance d σ σ' x := by
  have hends : EndsFrom d x s (dispatcherRound2 (d.env x) ω e before.sl) := hs ▸ endsFrom_ok
  have hplan : x.2 = 0 → PlanOk d x.1 s.common := fun hx => hcommon ▸ h.plan_before hd hx
  refine h.step hd h2 hends hplan ?_ fun c' g hg => ?_
  · unfold FakeOk
    rw [hfake]
    exact h.fake_before hd
  · by_cases hc : c' = c
    · subst hc
      exact hcycle g hg
    · refine ⟨g, hg.quiet_from hd h2 hsend hends hplan (Or.inl (hothers c' hc)) ?_, .stay⟩
      unfold Plans
      rw [hcommon]

/-- A handler that leaves everything as it is, but that may put its element back. -/
theorem CoreOk.leaderQuiet (h : CoreOk d σ) (hd : Dispatch d σ σ' x e ω before)
    (h2 : Round2Ok d σ'.erase) (hsend : before.sl.sendQueue = [])
    (hs : (dispatcherRound2 (d.env x) ω e before.sl).state = before.sl
      ∨ (dispatcherRound2 (d.env x) ω e before.sl).state = before.sl.juggle e) :
    Advance d σ σ' x := by
  have hcommon : (dispatcherRound2 (d.env x) ω e before.sl).state.common = before.sl.common := by
    rcases hs with hs | hs
    · rw [hs]
    · rw [hs]
      rfl
  have hplan : x.2 = 0 → PlanOk d x.1 (dispatcherRound2 (d.env x) ω e before.sl).state.common :=
    fun hx => hcommon ▸ h.plan_before hd hx
  refine h.step hd h2 endsFrom_state hplan ?_ fun c g hg => ?_
  · rcases hs with hs | hs
    · rw [hs]
      exact h.fake_before hd
    · rw [hs]
      exact h.fake_before hd
  · refine ⟨g, hg.quiet_from hd h2 hsend endsFrom_state hplan ?_ ?_, .stay⟩
    · rcases hs with hs | hs
      · exact Or.inl (by rw [hs])
      · rw [hs]
        by_cases hc : e.pMessage.round3Cycle = some c
        · exact Or.inr (cycleView_juggle hc)
        · exact Or.inl (cycleView_juggle_of_ne hc)
    · unfold Plans
      rw [hcommon]

/-! ## Preprepares -/

section Preprepare

variable {m : MessageRound3PreprepareBaseline}

/-- The partial commit of a leader goes to the collector. -/
theorem keyCount_sent_partialCommit3 {c' : UInt16} (hfits : d.conf.Fits)
    (hx : d.Has x) (h0 : x.2 = 0) : keyCount c k (sent x
      [{ upPeers := [collector3Peer (d.env x) m]
         pMessage := .round3PartialCommit (round3PartialCommitMessage (d.env x).conf c') }] y)
      = if c' = c ∧ k = .partialCommit x.1 ∧ y = (m.collectorBGid.toNat, 0) then 1 else 0 := by
  have hkey : (Message.round3PartialCommit
      (round3PartialCommitMessage (d.env x).conf c')).key = some (c', .partialCommit x.1) :=
    congrArg (fun b => some (c', Key.partialCommit b)) (toNat_bGid hfits hx.1)
  have hcount : (if y = x ∧ none ∈ [collector3Peer (d.env x) m] then 1 else 0)
      + [collector3Peer (d.env x) m].count (some y)
      = if y = (m.collectorBGid.toNat, 0) then 1 else 0 := by
    unfold collector3Peer
    by_cases hc : m.collectorBGid.toNat = (d.env x).conf.bGid
    · have hx' : x = (m.collectorBGid.toNat, 0) := Prod.ext hc.symm h0
      rw [if_pos hc, ← hx']
      simp
    · rw [if_neg hc]
      rw [if_neg (by simp), Nat.zero_add, List.count_singleton]
      simp only [beq_iff_eq, Option.some.injEq]
      exact if_congr eq_comm rfl rfl
  rw [keyCount_sent_singleton]
  dsimp only
  rw [hkey, hcount]
  by_cases hk : some (c', Key.partialCommit x.1) = some (c, k)
  · obtain ⟨hc, hk'⟩ := Prod.mk.inj (Option.some.inj hk)
    rw [if_pos hk]
    exact if_congr ⟨fun hy => ⟨hc, hk'.symm, hy⟩, fun h => h.2.2⟩ rfl rfl
  · rw [if_neg hk, if_neg]
    rintro ⟨rfl, rfl, -⟩
    exact hk rfl

/-- The view of the cycle after a Preprepare of round 3. -/
theorem cycleView_afterPreprepare3 : (afterPreprepare3 (d.env x) m status s).cycleView m.cycle
    = (((s.cycleView m.cycle).setStatus (if m.collectorBGid.toNat = x.1 then
        status.enter .round3CollectorWaitingForPartialcommitsBaseline .round3PartialCommitBaseline
          d.conf.numBG
      else status.enter .round3WaitingForFullcommitBaseline .round3FullCommitBaseline 1)).send
        { upPeers := [collector3Peer (d.env x) m]
          pMessage := .round3PartialCommit
            (round3PartialCommitMessage (d.env x).conf m.cycle) }).notes
        [.sentPartialCommit m.collectorBGid.toNat
          (round3PartialCommitMessage (d.env x).conf m.cycle)] := by
  unfold afterPreprepare3
  rw [cycleView_note rfl, cycleView_enqueue rfl, cycleView_setStatus]
  rfl

theorem cycleView_afterPreprepare3_of_ne {env : Env} (hc : m.cycle ≠ c) :
    (afterPreprepare3 env m status s).cycleView c = s.cycleView c := by
  unfold afterPreprepare3
  rw [cycleView_note_of_ne, cycleView_enqueue_of_ne, cycleView_setStatus_of_ne hc]
  · exact fun heq => hc (Option.some.inj heq)
  · exact fun heq => hc (Option.some.inj heq)

/-- The vote of one leader does not show at another SL. -/
theorem same_accept {numBG : Nat} (h : g.Ok numBG) (hx : x.2 = 0) (hy : y ≠ x) :
    g.Same numBG (g.accept x.1) y := by
  have hacc : y.2 = 0 → (g.accept x.1).last.acc y.1 = g.last.acc y.1 := fun h0 => by
    refine (g.last.accept_acc x.1 y.1).trans (if_neg fun hb => hy ?_)
    exact Prod.ext hb (h0.trans hx.symm)
  refine ⟨rfl, ?_, fun _ _ _ => Iff.rfl, fun _ => Iff.rfl, ?_⟩
  · unfold Progress.expected
    rw [show (g.accept x.1).stage y = g.stage y from rfl]
    cases hs : g.stage y with
    | leading =>
      dsimp only
      rw [hacc (h.leading y hs)]
      rfl
    | _ => rfl
  · unfold Progress.marks
    by_cases h0 : y.2 = 0
    · rw [hacc h0]
      rfl
    · have hy' : ∀ b, y ≠ (b, 0) := fun b heq => h0 (by rw [heq])
      simp only [h0, hy', false_and, if_false]
      rfl

/-- The cycle after a leader has accepted the Preprepare. -/
theorem CycleOk.accept (hg : CycleOk d σ m.cycle g) (hd : Dispatch d σ σ' x e ω before)
    (hfits : d.conf.Fits) (hsend : before.sl.sendQueue = [])
    (hm : e.pMessage = .round3Preprepare m)
    (hstatus : before.sl.mapRound3Status m.cycle = some status)
    (hstate : status.state = .round3WaitingForPreprepareBaseline)
    (hs : dispatcherRound2 (d.env x) ω e before.sl
      = .ok (afterPreprepare3 (d.env x) m status before.sl)) :
    CycleOk d σ' m.cycle (g.accept x.1) := by
  obtain ⟨hstage, hexpected⟩ := hg.leading hd hstatus fun _ => by simp [hstate]
  obtain ⟨h0, hx, hlt⟩ : x.2 = 0 ∧ x.1 < d.conf.numBG ∧ g.last.acc x.1 < g.last.len :=
    hg.holds (k := .preprepare) hd.mem_pool (by rw [hm]; rfl)
  have hx0 : (x.1, 0) = x := Prod.ext rfl h0.symm
  have hacc : g.last.acc x.1 = 0 := by
    have := hg.ok.len_le
    omega
  have hclosed : g.last.closed = 0 := by
    have := hg.ok.last.closed_le_acc x.1 hx
    omega
  have hcollector : m.collectorBGid.toNat = g.collector := by
    have := hg.good x e hd.mem_pool (by rw [hm]; rfl)
    rwa [hm] at this
  have hnot : x.1 ∉ g.last.votes 0 := fun hmem => by
    have := (hg.ok.last.votes_acc 0 x.1 hmem).2
    omega
  have hsl := hd.slCycle hg
  have hbefore := hd.view_eq (c := m.cycle)
  have hview : (afterPreprepare3 (d.env x) m status before.sl).cycleView m.cycle = _ :=
    cycleView_afterPreprepare3
  have ht := hd.turn (c := m.cycle) true (congrArg Outcome.state hs) (by
    rw [Outcome.state_ok, hview]
    exact (List.append_nil _).symm)
  rw [Outcome.state_ok, hview] at ht
  generalize hst' : (if m.collectorBGid.toNat = x.1 then
      status.enter .round3CollectorWaitingForPartialcommitsBaseline .round3PartialCommitBaseline
        d.conf.numBG
    else status.enter .round3WaitingForFullcommitBaseline .round3FullCommitBaseline 1) = status'
    at ht
  have hslots : status'.rgMsgRound3FetchResponse = status.rgMsgRound3FetchResponse := by
    rw [← hst']
    split <;> rfl
  have hacc' : (g.accept x.1).last.acc x.1 = 1 :=
    (g.last.accept_acc x.1 x.1).trans (by rw [if_pos rfl, hacc])
  have hnone := sends_nil (c := m.cycle) hsend
  generalize hv : (((before.sl.cycleView m.cycle).setStatus status').send
    { upPeers := [collector3Peer (d.env x) m]
      pMessage := .round3PartialCommit (round3PartialCommitMessage (d.env x).conf m.cycle) }).notes
    [.sentPartialCommit m.collectorBGid.toNat
      (round3PartialCommitMessage (d.env x).conf m.cycle)] = v at ht
  have hevs : v.events = (viewAt σ m.cycle x).events ++ [.sentPartialCommit m.collectorBGid.toNat
      (round3PartialCommitMessage (d.env x).conf m.cycle)] := by
    rw [← hv, hbefore]
    rfl
  have hps : v.committed = (viewAt σ m.cycle x).committed ++ [] := by
    rw [← hv, hbefore]
    exact (List.append_nil _).symm
  have hsends : v.sends = [{ upPeers := [collector3Peer (d.env x) m]
                             pMessage := .round3PartialCommit
                               (round3PartialCommitMessage (d.env x).conf m.cycle) }] := by
    rw [← hv]
    show (before.sl.cycleView m.cycle).sends ++ _ = _
    rw [hnone, List.nil_append]
  refine hg.turn ht hevs hps (hg.ok.accept hx (hx0.symm ▸ hstage) hlt) ?_
    (fun y hy => same_accept hg.ok h0 hy) (fun y k hk => ?_) (fun y k hk => ?_) (fun _ => rfl)
    (fun el hel _ => ?_) (fun st hst A hA r hr => ?_) (fun ev hev => ?_) fun b hb => ?_
  · refine hsl.lead (by rw [← hv]; rfl) (by rw [← hv]; rfl) (by rw [← hv]; rfl)
      (by rw [← hv]; rfl) rfl rfl hstatus (by rw [← hv]; rfl) hslots ?_ ?_
    · unfold Progress.expected
      rw [show (g.accept x.1).stage x = .leading from hstage]
      dsimp only
      rw [hacc', if_neg (by simp), ← hst', hcollector, Progress.accept_collector,
        Progress.accept_closed]
      have hvotes : g.collector = x.1 → (g.accept x.1).last.votes 0 = [] := fun hc => by
        by_contra hne
        have hpos := hg.ok.counted hne
        rw [hc, hacc] at hpos
        exact absurd hpos (Nat.lt_irrefl 0)
      by_cases hc : g.collector = x.1
      · rw [if_pos ⟨hc, hclosed⟩, if_pos hc, hvotes hc]
        rfl
      · rw [if_neg fun h => hc h.1, if_neg hc]
        rfl
    · have hbefore' : ¬(x.2 = 0 ∧ x.1 < d.conf.numBG ∧ 0 < g.last.acc x.1) := by
        rintro ⟨-, -, hpos⟩
        omega
      have hafter : x.2 = 0 ∧ x.1 < d.conf.numBG ∧ 0 < (g.accept x.1).last.acc x.1 :=
        ⟨h0, hx, by omega⟩
      have hmark : Baseline.marks [Event.sentPartialCommit m.collectorBGid.toNat
          (round3PartialCommitMessage (d.env x).conf m.cycle)] = [.voted g.collector] := by
        rw [← hcollector]
        rfl
      unfold Progress.marks
      rw [if_neg hbefore', if_pos hafter, hmark, Progress.accept_closed, hclosed,
        Progress.accept_stage, hstage, Progress.accept_len, Progress.accept_collector]
      simp
  · cases k with
    | preprepare =>
      obtain ⟨hy0, hy, hlt⟩ : y.2 = 0 ∧ y.1 < d.conf.numBG ∧ g.last.acc y.1 < g.last.len := hk
      by_cases hyx : y = x
      · exact Or.inr ⟨rfl, hyx, by rw [hm]; rfl⟩
      · refine Or.inl ⟨hy0, hy, ?_⟩
        show (g.last.accept x.1).acc y.1 < _
        rw [LockStep.State.accept_acc, if_neg fun hb => hyx (Prod.ext hb (hy0.trans h0.symm))]
        exact hlt
    | partialCommit b =>
      obtain ⟨hy, hb, hvoted, hvotes⟩ : y = (g.collector, 0) ∧ b < d.conf.numBG
        ∧ g.last.closed < g.last.acc b ∧ b ∉ g.last.votes g.last.closed := hk
      refine Or.inl ⟨hy, hb, ?_, hvotes⟩
      show g.last.closed < (g.last.accept x.1).acc b
      rw [LockStep.State.accept_acc]
      split <;> omega
    | _ => exact Or.inl hk
  · rw [hsends, keyCount_sent_partialCommit3 hfits hd.has h0] at hk ⊢
    split at hk
    · next hkey =>
      obtain ⟨-, rfl, hy⟩ := hkey
      refine ⟨by split <;> omega, ?_, ?_⟩
      · rintro ⟨-, -, hlt, -⟩
        omega
      · refine ⟨by rw [hy, hcollector]; rfl, hx, ?_, ?_⟩
        · show g.last.closed < (g.accept x.1).last.acc x.1
          omega
        · show x.1 ∉ g.last.votes g.last.closed
          rw [hclosed]
          exact hnot
    · exact absurd hk (Nat.lt_irrefl 0)
  · rw [hsends] at hel
    rw [List.mem_singleton.mp hel]
    trivial
  · have hst : status' = st := by
      rw [← hv] at hst
      exact Option.some.inj hst
    rw [← hst, hslots] at hr
    exact ht.answered hevs (hg.slots x status (hd.status_eq.symm.trans hstatus) A hA r hr)
  · rw [List.mem_singleton.mp hev]
    trivial
  · refine (hd.planned (fun _ => ?_) b).trans (hg.planned b hb)
    rw [hs]
    exact Iff.rfl

/-- A leader with a status accepts the Preprepare or puts it back. -/
theorem CycleOk.preprepare3_cases (hg : CycleOk d σ m.cycle g) (hd : Dispatch d σ σ' x e ω before)
    (hstatus : before.sl.mapRound3Status m.cycle = some status) :
    status.state = .round3WaitingForPreprepareBaseline
        ∧ dispatcherRound3Preprepare (d.env x) e m before.sl
          = .ok (afterPreprepare3 (d.env x) m status before.sl)
      ∨ status.state ≠ .round3WaitingForPreprepareBaseline
        ∧ dispatcherRound3Preprepare (d.env x) e m before.sl = .ok (before.sl.juggle e) := by
  by_cases hstate : status.state = .round3WaitingForPreprepareBaseline
  · obtain ⟨hstage, hexpected⟩ := hg.leading hd hstatus fun _ => by simp [hstate]
    obtain ⟨hawaiting, hcounter⟩ : status.awaitingMessageType = .round3PreprepareBaseline
        ∧ status.messageReceivedCounter = 0 := by
      unfold Progress.expected at hexpected
      rw [hstage, Option.some.injEq] at hexpected
      split at hexpected
      · exact ⟨congrArg (·.2.1) hexpected.symm, congrArg (·.2.2.1) hexpected.symm⟩
      · have := congrArg Prod.fst hexpected
        split at this <;> simp [CycleStatus.summary, hstate] at this
    exact Or.inl ⟨hstate, preprepare3_accepted hstatus hstate hawaiting hcounter⟩
  · exact Or.inr ⟨hstate, preprepare3_juggled hstatus hstate⟩

/-- **A Preprepare of round 3** keeps the invariant. -/
theorem CoreOk.preprepare3 (h : CoreOk d σ) (hfits : d.conf.Fits) (h2 : Round2Ok d σ'.erase)
    (hd : Dispatch d σ σ' x e ω before) (hsend : before.sl.sendQueue = [])
    (hm : e.pMessage = .round3Preprepare m)
    (hs : dispatcherRound2 (d.env x) ω e before.sl
      = dispatcherRound3Preprepare (d.env x) e m before.sl) : Advance d σ σ' x := by
  obtain ⟨g, hg⟩ := h.cycles m.cycle
  cases hstatus : before.sl.mapRound3Status m.cycle with
  | none =>
    refine h.leaderQuiet hd h2 hsend (Or.inl ?_)
    rw [hs]
    unfold dispatcherRound3Preprepare
    dsimp only
    rw [hstatus]
    rfl
  | some status =>
    rcases hg.preprepare3_cases hd hstatus with ⟨hstate, haccepted⟩ | ⟨-, hjuggled⟩
    · rw [haccepted] at hs
      exact h.leaderStep hd h2 hsend hs rfl rfl
        (fun c' hc => cycleView_afterPreprepare3_of_ne hc.symm) fun g' hg' =>
          ⟨_, hg'.accept hd hfits hsend hm hstatus hstate hs,
            .accept (hg'.holds (k := .preprepare) hd.mem_pool (by rw [hm]; rfl)).1
              (hg'.leading hd hstatus fun _ => by simp [hstate]).1⟩
    · rw [hjuggled] at hs
      exact h.leaderQuiet hd h2 hsend (Or.inr (by rw [hs]; rfl))

end Preprepare

/-! ## Partial commits -/

section PartialCommit

variable {m : MessageRound3PartialCommitBaseline}

/-- The full commit of the collector. -/
def fullCommit3Element (env : Env) (c : UInt16) : QueueElement where
  upPeers := fullCommit3Peers env.conf
  pMessage := .round3FullCommit (round3FullCommitMessage env.conf c)

/-- The status after a partial commit of round 3 was counted. -/
def CycleStatus.counted (status : CycleStatus) : CycleStatus :=
  if status.messageReceivedCounter + 1 = status.messageRequired then
    status.enter .round3WaitingForFullcommitBaseline .round3FullCommitBaseline 1
  else { status with messageReceivedCounter := status.messageReceivedCounter + 1 }

/-- What counting a partial commit of round 3 changes in the view of the cycle. -/
structure Counted (env : Env) (m : MessageRound3PartialCommitBaseline) (st : CycleStatus)
    (v v' : CycleView) : Prop where
  committed : v'.committed = v.committed
  status : v'.status = some st.counted
  stored : v'.stored = v.stored
  pending : v'.pending = v.pending
  juggled : v'.juggled = v.juggled
  events : v'.events = v.events ++ ([.countedPartialCommit m]
    ++ if st.messageReceivedCounter + 1 = st.messageRequired then
      [.sentFullCommit (round3FullCommitMessage env.conf m.cycle)]
    else [])
  sends : v'.sends = v.sends
    ++ if st.messageReceivedCounter + 1 = st.messageRequired then
      [fullCommit3Element env m.cycle]
    else []

theorem counted_afterPartialCommit3 {env : Env} : Counted env m status (s.cycleView m.cycle)
    ((afterPartialCommit3 env m status s).cycleView m.cycle) := by
  unfold afterPartialCommit3
  dsimp only
  by_cases hlast : status.messageReceivedCounter + 1 = status.messageRequired
  · rw [if_pos hlast, cycleView_note rfl, cycleView_enqueue rfl, cycleView_setStatus,
      cycleView_note rfl]
    exact {
      committed := rfl
      status := by
        unfold CycleStatus.counted
        rw [if_pos hlast]
        rfl
      stored := rfl
      pending := rfl
      juggled := rfl
      events := by
        rw [if_pos hlast]
        exact List.append_assoc ..
      sends := by
        rw [if_pos hlast]
        rfl }
  · rw [if_neg hlast, cycleView_setStatus, cycleView_note rfl]
    exact {
      committed := rfl
      status := by
        unfold CycleStatus.counted
        rw [if_neg hlast]
        rfl
      stored := rfl
      pending := rfl
      juggled := rfl
      events := by
        rw [if_neg hlast]
        rfl
      sends := by
        rw [if_neg hlast]
        exact (List.append_nil _).symm }

theorem cycleView_afterPartialCommit3_of_ne {env : Env} (hc : m.cycle ≠ c) :
    (afterPartialCommit3 env m status s).cycleView c = s.cycleView c := by
  have hne : some m.cycle ≠ some c := fun heq => hc (Option.some.inj heq)
  have hcounted : (s.note (.countedPartialCommit m)).cycleView c = s.cycleView c :=
    cycleView_note_of_ne hne
  unfold afterPartialCommit3
  dsimp only
  split
  · rw [cycleView_note_of_ne, cycleView_enqueue_of_ne, cycleView_setStatus_of_ne hc, hcounted]
    · exact hne
    · exact hne
  · rw [cycleView_setStatus_of_ne hc, hcounted]

/-- What the collector counts does not show at another SL. -/
theorem same_count {numBG b : Nat} (h : g.Ok numBG) (hx : x = (g.collector, 0)) (hy : y ≠ x) :
    g.Same numBG (g.count numBG b) y := by
  have hother : y.2 = 0 → ∀ n, ¬(g.collector = y.1 ∧ n = 0) := fun h0 n hc => by
    refine hy ?_
    rw [hx]
    exact Prod.ext hc.1.symm h0
  have hopen : ∀ n, ¬(y = (g.collector, 0) ∧ 0 < n) := fun n h => hy (h.1.trans hx.symm)
  refine ⟨rfl, ?_, fun _ _ _ => Iff.rfl, fun _ => Iff.rfl, ?_⟩
  · unfold Progress.expected
    rw [Progress.count_stage]
    cases hs : g.stage y with
    | leading =>
      have hc := hother (h.leading y hs)
      dsimp only
      rw [Progress.count_acc, Progress.count_collector, if_neg (hc _), if_neg (hc _)]
    | _ => rfl
  · unfold Progress.marks
    rw [Progress.count_stage, Progress.count_len, Progress.count_acc, Progress.count_collector,
      if_neg (hopen _), if_neg (hopen _)]

/-- A collector has voted itself, and not all votes are counted. -/
theorem CycleOk.collecting (hg : CycleOk d σ c g) (hd : Dispatch d σ σ' x e ω before)
    (hstatus : before.sl.mapRound3Status c = some status)
    (hstate : status.state = .round3CollectorWaitingForPartialcommitsBaseline) :
    g.last.acc x.1 ≠ 0 ∧ g.last.closed = 0
      ∧ status.summary = (.round3CollectorWaitingForPartialcommitsBaseline,
        .round3PartialCommitBaseline, (g.last.votes 0).length, d.conf.numBG) := by
  obtain ⟨hstage, hexpected⟩ := hg.leading hd hstatus fun _ => by simp [hstate]
  unfold Progress.expected at hexpected
  rw [hstage, Option.some.injEq] at hexpected
  split at hexpected
  · have := congrArg Prod.fst hexpected
    simp [CycleStatus.summary, hstate] at this
  · next hacc =>
    split at hexpected
    · next hopen => exact ⟨hacc, hopen.2, hexpected.symm⟩
    · have := congrArg Prod.fst hexpected
      simp [CycleStatus.summary, hstate] at this

/-- The cycle after the collector has counted a partial commit. -/
theorem CycleOk.count (hg : CycleOk d σ m.cycle g) (hd : Dispatch d σ σ' x e ω before)
    (hsend : before.sl.sendQueue = []) (hm : e.pMessage = .round3PartialCommit m)
    (hstatus : before.sl.mapRound3Status m.cycle = some status)
    (hstate : status.state = .round3CollectorWaitingForPartialcommitsBaseline)
    (hs : dispatcherRound2 (d.env x) ω e before.sl
      = .ok (afterPartialCommit3 (d.env x) m status before.sl)) :
    CycleOk d σ' m.cycle (g.count d.conf.numBG m.sender.toNat) := by
  have hstage := (hg.leading hd hstatus fun _ => by simp [hstate]).1
  obtain ⟨hx, hb, hvoted, hvotes⟩ : x = (g.collector, 0) ∧ m.sender.toNat < d.conf.numBG
      ∧ g.last.closed < g.last.acc m.sender.toNat
      ∧ m.sender.toNat ∉ g.last.votes g.last.closed :=
    hg.holds (k := .partialCommit m.sender.toNat) hd.mem_pool (by rw [hm]; rfl)
  have hcollector : x.1 = g.collector := by rw [hx]
  have h0 : x.2 = 0 := by rw [hx]
  obtain ⟨hacc, hclosed, hsummary⟩ := hg.collecting hd hstatus hstate
  have hcounter : status.messageReceivedCounter = (g.last.votes 0).length :=
    congrArg (·.2.2.1) hsummary
  have hrequired : status.messageRequired = d.conf.numBG := congrArg (·.2.2.2) hsummary
  have hsl := hd.slCycle hg
  have hbefore := hd.view_eq (c := m.cycle)
  have hview : Counted (d.env x) m status (before.sl.cycleView m.cycle) _ :=
    counted_afterPartialCommit3
  have ht := hd.turn (c := m.cycle) true (congrArg Outcome.state hs) (by
    rw [Outcome.state_ok, hview.juggled]
    exact (List.append_nil _).symm)
  rw [Outcome.state_ok] at ht
  generalize (afterPartialCommit3 (d.env x) m status before.sl).cycleView m.cycle = v at ht hview
  have hnone := sends_nil (c := m.cycle) hsend
  obtain ⟨evs, hevs', hevents⟩ : ∃ evs, evs = [Event.countedPartialCommit m]
      ++ (if (g.last.votes 0).length + 1 = d.conf.numBG then
        [.sentFullCommit (round3FullCommitMessage (d.env x).conf m.cycle)]
      else [])
      ∧ v.events = (before.sl.cycleView m.cycle).events ++ evs := by
    refine ⟨_, rfl, ?_⟩
    rw [hview.events, hcounter, hrequired]
  have hevs : v.events = (viewAt σ m.cycle x).events ++ evs := by rw [hevents, hbefore]
  have hps : v.committed = (viewAt σ m.cycle x).committed ++ [] := by
    rw [hview.committed, hbefore, List.append_nil]
  have hsends := hview.sends
  rw [hnone, List.nil_append, hcounter, hrequired] at hsends
  have hslots : status.counted.rgMsgRound3FetchResponse = status.rgMsgRound3FetchResponse := by
    unfold CycleStatus.counted
    split <;> rfl
  have hclosed' : (g.count d.conf.numBG m.sender.toNat).last.closed
      = if (g.last.votes 0).length + 1 = d.conf.numBG then 1 else 0 := by
    show (if (g.last.votes g.last.closed).length + 1 = d.conf.numBG then g.last.closed + 1
      else g.last.closed) = _
    rw [hclosed]
  have hvotes' : (g.count d.conf.numBG m.sender.toNat).last.votes 0
      = g.last.votes 0 ++ [m.sender.toNat] := by
    refine (g.last.count_votes d.conf.numBG m.sender.toNat 0).trans ?_
    rw [hclosed, if_pos rfl]
  have hok := hg.ok.count hb hvoted hvotes (by rw [← hcollector]; exact Nat.pos_of_ne_zero hacc)
  refine hg.turn ht hevs hps hok ?_ (fun y hy => same_count hg.ok hx hy) (fun y k hk => ?_)
    (fun y k hk => ?_) (fun _ => rfl) (fun el hel _ => ?_) (fun st hst A hA r hr => ?_)
    (fun ev hev => ?_) fun b hb => ?_
  · refine hsl.lead hview.committed hview.stored hview.pending hevents rfl rfl hstatus
      hview.status hslots ?_ ?_
    · unfold Progress.expected
      rw [Progress.count_stage, hstage]
      dsimp only
      rw [Progress.count_acc, if_neg hacc, Progress.count_collector, hclosed', hvotes']
      unfold CycleStatus.counted
      rw [hcounter, hrequired]
      by_cases hlast : (g.last.votes 0).length + 1 = d.conf.numBG
      · rw [if_pos hlast, if_neg (by simp), if_pos hlast]
        rfl
      · rw [if_neg hlast, if_pos ⟨hcollector.symm, rfl⟩, if_neg hlast, List.length_append,
          List.length_singleton]
        have hawaiting : status.awaitingMessageType = .round3PartialCommitBaseline :=
          congrArg (·.2.1) hsummary
        unfold CycleStatus.summary
        dsimp only
        rw [hstate, hawaiting]
    · unfold Progress.marks
      rw [Progress.count_stage, Progress.count_len, Progress.count_acc, Progress.count_collector,
        hclosed', hclosed, hstage, hevs']
      by_cases hlast : (g.last.votes 0).length + 1 = d.conf.numBG
      · have hmark : Baseline.marks ([Event.countedPartialCommit m]
              ++ [.sentFullCommit (round3FullCommitMessage (d.env x).conf m.cycle)])
            = [.closed] := rfl
        rw [if_pos hlast, if_pos hlast, hmark]
        simp [hx]
      · have hmark : Baseline.marks ([Event.countedPartialCommit m] ++ []) = [] := rfl
        rw [if_neg hlast, if_neg hlast, hmark, List.append_nil]
  · cases k with
    | partialCommit b =>
      obtain ⟨hy, hb', hvoted', hnew⟩ : y = (g.collector, 0) ∧ b < d.conf.numBG
        ∧ g.last.closed < g.last.acc b ∧ b ∉ g.last.votes g.last.closed := hk
      by_cases hsender : b = m.sender.toNat
      · exact Or.inr ⟨rfl, hy.trans hx.symm, by rw [hm, hsender]; rfl⟩
      · -- with all votes there would be one of this leader
        have hlast : (g.last.votes 0).length + 1 ≠ d.conf.numBG := fun hlast => by
          rw [if_pos hlast] at hclosed'
          have hmem := hok.last.mem_votes (k := 0) (by omega) hb'
          rw [hvotes', List.mem_append, List.mem_singleton] at hmem
          rw [hclosed] at hnew
          exact hmem.elim hnew hsender
        rw [if_neg hlast] at hclosed'
        refine Or.inl ⟨hy, hb', ?_, ?_⟩
        · rw [hclosed', Progress.count_acc]
          omega
        · rw [hclosed', hvotes', List.mem_append, List.mem_singleton]
          rw [hclosed] at hnew
          exact fun hmem => hmem.elim hnew hsender
    | fullCommit =>
      obtain ⟨-, -, hlt⟩ : y.2 = 0 ∧ y.1 < d.conf.numBG ∧ g.last.com y.1 < g.last.closed := hk
      omega
    | _ => exact Or.inl hk
  · rw [hsends] at hk ⊢
    split at hk
    · next hlast =>
      rw [if_pos hlast]
      rw [keyCount_sent_leaders hd.has.1 h0 (List.mem_cons_self ..) count_fullCommit3Peers]
        at hk ⊢
      split at hk
      · next hkey =>
        obtain ⟨hkey, hy0, hlt⟩ := hkey
        obtain rfl : k = .fullCommit := (Prod.mk.inj (Option.some.inj hkey)).2.symm
        refine ⟨by split <;> omega, ?_, hy0, hlt, ?_⟩
        · rintro ⟨-, -, hcom⟩
          omega
        · have := hg.ok.last.com_le_closed y.1 hlt
          rw [hclosed', if_pos hlast]
          show g.last.com y.1 < 1
          omega
      · exact absurd hk (Nat.lt_irrefl 0)
    · rw [sent_nil] at hk
      exact absurd hk (Nat.lt_irrefl 0)
  · rw [hsends] at hel
    split at hel
    · rw [List.mem_singleton.mp hel]
      trivial
    · exact absurd hel List.not_mem_nil
  · rw [hview.status, Option.some.injEq] at hst
    rw [← hst, hslots] at hr
    exact ht.answered hevs (hg.slots x status (hd.status_eq.symm.trans hstatus) A hA r hr)
  · rw [hevs'] at hev
    rcases List.mem_append.mp hev with hev | hev
    · rw [List.mem_singleton.mp hev]
      trivial
    · split at hev
      · rw [List.mem_singleton.mp hev]
        trivial
      · exact absurd hev List.not_mem_nil
  · refine (hd.planned (fun _ => ?_) b).trans (hg.planned b hb)
    rw [hs]
    unfold Plans afterPartialCommit3
    dsimp only
    split
    · exact Iff.rfl
    · exact Iff.rfl

/-- A partial commit comes to a leader. -/
theorem CycleOk.leader_partialCommit3 (hg : CycleOk d σ m.cycle g)
    (hd : Dispatch d σ σ' x e ω before) (hm : e.pMessage = .round3PartialCommit m) :
    (d.env x).conf.isRound2Leader = true := by
  have hholds : g.Holds d.conf.numBG x (.partialCommit m.sender.toNat) :=
    hg.holds hd.mem_pool (by rw [hm]; rfl)
  have h0 : x.2 = 0 := by rw [hholds.1]
  exact beq_iff_eq.mpr h0

/-- A leader with a status counts the partial commit or puts it back. -/
theorem CycleOk.partialCommit3_cases (hg : CycleOk d σ m.cycle g)
    (hd : Dispatch d σ σ' x e ω before) (hm : e.pMessage = .round3PartialCommit m)
    (hstatus : before.sl.mapRound3Status m.cycle = some status) :
    status.state = .round3CollectorWaitingForPartialcommitsBaseline
        ∧ dispatcherRound3PartialCommit (d.env x) e m before.sl
          = .ok (afterPartialCommit3 (d.env x) m status before.sl)
      ∨ status.state ≠ .round3CollectorWaitingForPartialcommitsBaseline
        ∧ dispatcherRound3PartialCommit (d.env x) e m before.sl = .ok (before.sl.juggle e) := by
  have hleader := hg.leader_partialCommit3 hd hm
  by_cases hstate : status.state = .round3CollectorWaitingForPartialcommitsBaseline
  · have hawaiting : status.awaitingMessageType = .round3PartialCommitBaseline :=
      congrArg (·.2.1) (hg.collecting hd hstatus hstate).2.2
    exact Or.inl ⟨hstate, partialCommit3_counted hleader hstatus hstate hawaiting⟩
  · exact Or.inr ⟨hstate, partialCommit3_juggled hleader hstatus hstate⟩

/-- **A partial commit of round 3** keeps the invariant. -/
theorem CoreOk.partialCommit3 (h : CoreOk d σ) (h2 : Round2Ok d σ'.erase)
    (hd : Dispatch d σ σ' x e ω before) (hsend : before.sl.sendQueue = [])
    (hm : e.pMessage = .round3PartialCommit m)
    (hs : dispatcherRound2 (d.env x) ω e before.sl
      = dispatcherRound3PartialCommit (d.env x) e m before.sl) : Advance d σ σ' x := by
  obtain ⟨g, hg⟩ := h.cycles m.cycle
  cases hstatus : before.sl.mapRound3Status m.cycle with
  | none =>
    refine h.leaderQuiet hd h2 hsend (Or.inl ?_)
    rw [hs]
    unfold dispatcherRound3PartialCommit
    rw [hg.leader_partialCommit3 hd hm, debugThrowElseReturnVoid_true]
    dsimp only
    rw [hstatus]
    rfl
  | some status =>
    rcases hg.partialCommit3_cases hd hm hstatus with ⟨hstate, hcounted⟩ | ⟨-, hjuggled⟩
    · have hcommon : (afterPartialCommit3 (d.env x) m status before.sl).common
          = before.sl.common := by
        unfold afterPartialCommit3
        dsimp only
        split <;> rfl
      have hfake : (afterPartialCommit3 (d.env x) m status
          before.sl).fakeRound3ResponseForBaseline = before.sl.fakeRound3ResponseForBaseline := by
        unfold afterPartialCommit3
        dsimp only
        split <;> rfl
      rw [hcounted] at hs
      exact h.leaderStep hd h2 hsend hs hcommon hfake
        (fun c' hc => cycleView_afterPartialCommit3_of_ne hc.symm) fun g' hg' =>
          ⟨_, hg'.count hd hsend hm hstatus hstate hs,
            .count _ (hg'.holds (k := .partialCommit m.sender.toNat) hd.mem_pool
              (by rw [hm]; rfl)).1⟩
    · rw [hjuggled] at hs
      exact h.leaderQuiet hd h2 hsend (Or.inr (by rw [hs]; rfl))

end PartialCommit

/-! ## Full commits -/

section FullCommit

variable {m : MessageRound3FullCommitBaseline}

/-- The end of the cycle at a leader does not show at another SL. -/
theorem same_finish {numBG b : Nat} (hy : y ≠ (b, 0)) : g.Same numBG (g.finish b) y := by
  have hstage : (g.finish b).stage y = g.stage y := by
    rw [Progress.finish_stage, if_neg hy]
  refine ⟨hstage, ?_, fun _ _ _ => Iff.rfl, fun _ => Iff.rfl, ?_⟩
  · unfold Progress.expected
    rw [hstage]
    rfl
  · unfold Progress.marks
    rw [hstage]
    rfl

/-- A leader that gets the full commit waits for it. -/
theorem CycleOk.closing (hg : CycleOk d σ m.cycle g) (hd : Dispatch d σ σ' x e ω before)
    (hm : e.pMessage = .round3FullCommit m) :
    x.2 = 0 ∧ g.last.com x.1 < g.last.closed ∧ g.stage x = .leading
      ∧ ∃ status, before.sl.mapRound3Status m.cycle = some status
        ∧ status.state = .round3WaitingForFullcommitBaseline := by
  obtain ⟨h0, hx, hcom⟩ : x.2 = 0 ∧ x.1 < d.conf.numBG ∧ g.last.com x.1 < g.last.closed :=
    hg.holds (k := .fullCommit) hd.mem_pool (by rw [hm]; rfl)
  have hx0 : (x.1, 0) = x := Prod.ext rfl h0.symm
  have hacc := hg.ok.last.closed_le_acc x.1 hx
  have hclosed := hg.ok.closed_le hx
  have hstage : g.stage x = .leading := by
    have hconnected := hg.ok.acc x.1 hx (by omega)
    have hdone := hg.ok.com x.1 hx
    rw [hx0] at hconnected hdone
    exact hconnected.resolve_right fun hs => absurd (hdone.mpr hs) (by omega)
  refine ⟨h0, hcom, hstage, ?_⟩
  have hexpected := (hd.slCycle hg).status
  unfold Progress.expected at hexpected
  rw [hstage] at hexpected
  dsimp only at hexpected
  rw [if_neg (by omega), if_neg (by omega)] at hexpected
  obtain ⟨status, hstatus, hsummary⟩ := Option.map_eq_some_iff.mp hexpected
  exact ⟨status, hstatus, congrArg Prod.fst hsummary⟩

/-- The cycle after a leader has committed it. -/
theorem CycleOk.finish (hg : CycleOk d σ m.cycle g) (hd : Dispatch d σ σ' x e ω before)
    (hsend : before.sl.sendQueue = []) (hm : e.pMessage = .round3FullCommit m)
    (hs : dispatcherRound2 (d.env x) ω e before.sl = .ok (afterFullCommit3 m.cycle before.sl)) :
    CycleOk d σ' m.cycle (g.finish x.1) := by
  obtain ⟨h0, hcom, hstage, -⟩ := hg.closing hd hm
  have hx := hd.has.1
  have hx0 : (x.1, 0) = x := Prod.ext rfl h0.symm
  have hN := hg.ok.several x (by simp [hstage]) (by simp [hstage])
  have hsl := hd.slCycle hg
  have hbefore := hd.view_eq (c := m.cycle)
  have hnone := sends_nil (c := m.cycle) hsend
  have hview : (afterFullCommit3 m.cycle before.sl).cycleView m.cycle = _ :=
    cycleView_afterFullCommit3
  have ht := hd.turn (c := m.cycle) true (congrArg Outcome.state hs) (by
    rw [Outcome.state_ok, hview]
    exact (List.append_nil _).symm)
  rw [Outcome.state_ok, hview] at ht
  generalize hv : (before.sl.cycleView m.cycle).store.notes [.round3Committed m.cycle] = v at ht
  have hevs : v.events = (viewAt σ m.cycle x).events ++ [.round3Committed m.cycle] := by
    rw [← hv, hbefore]
    rfl
  have hps : v.committed = (viewAt σ m.cycle x).committed ++ [] := by
    rw [← hv, hbefore]
    exact (List.append_nil _).symm
  have hsends : v.sends = [] := by
    rw [← hv]
    exact hnone
  have hstage' : (g.finish x.1).stage x = .done := by
    rw [Progress.finish_stage, if_pos hx0.symm]
  refine hg.turn ht hevs hps (hg.ok.finish hx (hx0.symm ▸ hstage) hcom) ?_
    (fun y hy => same_finish fun hy' => hy (hy'.trans hx0)) (fun y k hk => ?_)
    (fun y k hk => ?_) (fun _ => rfl) (fun el hel _ => ?_) (fun st hst A hA r hr => ?_)
    (fun ev hev => ?_) fun b hb => ?_
  · have hstatus : v.status = none := by
      rw [← hv]
      rfl
    refine {
      committed := ?_
      stored := ?_
      status := ?_
      own := fun st hst => by rw [hstatus] at hst; exact absurd hst (by simp)
      slots := fun st hst => by rw [hstatus] at hst; exact absurd hst (by simp)
      nodup := by rw [← hv]; exact hsl.nodup
      pending := by rw [← hv]; exact hsl.pending
      marks := ?_ }
    · rw [← hv]
      refine hsl.committed.trans ?_
      rw [hstage, hstage']
      simp [Stage.entries, Stage.Connected, hN]
    · rw [← hv, hstage', decide_eq_true rfl]
      rfl
    · rw [hstatus]
      exact ((Progress.expected_eq_none _ _ _).mpr (Or.inr hstage')).symm
    · rw [← hv]
      show Baseline.marks ((before.sl.cycleView m.cycle).events ++ _) = _
      rw [marks_append, hsl.marks]
      have hleading : Stage.Connected d.conf.numBG .leading := Or.inl rfl
      have hdone : Stage.Connected d.conf.numBG .done := Or.inr ⟨rfl, hN⟩
      have hopen : Stage.leading ≠ .done := by simp
      unfold Progress.marks
      rw [hstage', hstage, Progress.finish_len, Progress.finish_acc, Progress.finish_closed,
        Progress.finish_collector, if_pos hleading, if_pos hdone, if_neg hopen,
        if_pos (rfl : Stage.done = .done), List.append_nil]
      rfl
  · cases k with
    | fullCommit =>
      obtain ⟨hy0, hy, hlt⟩ : y.2 = 0 ∧ y.1 < d.conf.numBG ∧ g.last.com y.1 < g.last.closed := hk
      by_cases hyx : y = x
      · exact Or.inr ⟨rfl, hyx, by rw [hm]; rfl⟩
      · refine Or.inl ⟨hy0, hy, ?_⟩
        show (g.last.commit x.1).com y.1 < g.last.closed
        rw [LockStep.State.commit_com, if_neg fun hb => hyx (Prod.ext hb (hy0.trans h0.symm))]
        exact hlt
    | _ => exact Or.inl hk
  · rw [hsends, sent_nil] at hk
    exact absurd hk (Nat.lt_irrefl 0)
  · rw [hsends] at hel
    exact absurd hel List.not_mem_nil
  · rw [← hv] at hst
    exact absurd hst (by simp [CycleView.store, CycleView.notes])
  · rw [List.mem_singleton.mp hev]
    trivial
  · refine (hd.planned (fun _ => ?_) b).trans ((hg.planned b hb).trans ?_)
    · rw [hs]
      exact Iff.rfl
    · rw [Progress.finish_stage]
      split
      · next hbx =>
        rw [hbx, hx0, hstage]
        exact iff_of_true (Or.inr (Or.inl rfl)) (Or.inr (Or.inr ⟨rfl, hN⟩))
      · exact Iff.rfl

/-- **A full commit of round 3** keeps the invariant. -/
theorem CoreOk.fullCommit3 (h : CoreOk d σ) (h2 : Round2Ok d σ'.erase)
    (hd : Dispatch d σ σ' x e ω before) (hsend : before.sl.sendQueue = [])
    (hm : e.pMessage = .round3FullCommit m)
    (hs : dispatcherRound2 (d.env x) ω e before.sl
      = dispatcherRound3FullCommit e m before.sl) : Advance d σ σ' x := by
  obtain ⟨g, hg⟩ := h.cycles m.cycle
  obtain ⟨-, -, -, status, hstatus, hstate⟩ := hg.closing hd hm
  rw [fullCommit3_committed hstatus hstate] at hs
  exact h.leaderStep hd h2 hsend hs rfl rfl
    (fun c' hc => cycleView_afterFullCommit3_of_ne hc.symm) fun g' hg' => by
      obtain ⟨h0, hcom, hstage, -⟩ := hg'.closing hd hm
      exact ⟨_, hg'.finish hd hsend hm hs, .finish h0 hstage hcom⟩

end FullCommit

end RCanopus.Baseline
