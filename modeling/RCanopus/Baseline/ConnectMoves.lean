import RCanopus.Baseline.CommitMoves

/-!
# The local connectivity

When an SL has committed the local connectivity of a cycle, it is done with the cycle, but a leader
takes part in the last round, which the leader of BG 0 opens. An SL that still waits for results
puts the full commit back.
-/

namespace RCanopus.Baseline

open Baseline.Cluster

variable {d : Deployment} {σ σ' : Cluster} {x y z : Peer} {e : QueueElement} {ω : Choice}
  {before : Node} {c : UInt16} {k : Key} {s : ConnManager} {g g' : Progress}
  {m : MessageRound2FullCommit} {p : MessageRound2Preprepare} {status : CycleStatus}

/-! ## Messages to all leaders -/

/-- The leaders of the other BGs. -/
theorem count_leaders {numBG b : Nat} :
    (List.range numBG).countP (fun bg => decide (bg ≠ b ∧ y = (bg, 0)))
      = if y.2 = 0 ∧ y.1 < numBG ∧ y.1 ≠ b then 1 else 0 := by
  by_cases hy : y.2 = 0 ∧ y.1 ≠ b
  · have hcongr : (List.range numBG).countP (fun bg => decide (bg ≠ b ∧ y = (bg, 0)))
        = (List.range numBG).count y.1 := by
      rw [List.count_eq_countP]
      refine List.countP_congr fun bg _ => ?_
      rw [decide_eq_true_eq, beq_iff_eq]
      exact ⟨fun h => by rw [h.2], fun h => ⟨fun hb => hy.2 (by omega),
        Prod.ext h.symm hy.1⟩⟩
    rw [hcongr, List.nodup_range.count]
    refine if_congr ?_ rfl rfl
    rw [List.mem_range]
    exact ⟨fun h => ⟨hy.1, h, hy.2⟩, fun h => h.2.1⟩
  · rw [if_neg fun h => hy ⟨h.1, h.2.2⟩, List.countP_eq_zero]
    intro bg _
    rw [decide_eq_true_eq]
    rintro ⟨hne, rfl⟩
    exact hy ⟨rfl, hne⟩

theorem count_preprepare3Peers : (preprepare3Peers (d.env x).conf).count (some y)
    = if y.2 = 0 ∧ y.1 < d.conf.numBG ∧ y.1 ≠ x.1 then 1 else 0 := by
  unfold preprepare3Peers
  rw [List.count_reverse, List.count_eq_countP, List.countP_map, ← count_leaders]
  refine List.countP_congr fun bg _ => ?_
  rw [Function.comp_apply, beq_iff_eq, decide_eq_true_eq]
  show (if bg = x.1 then none else some (bg, 0)) = some y ↔ _
  by_cases hb : bg = x.1 <;> simp [hb, eq_comm]

theorem count_fullCommit3Peers : (fullCommit3Peers (d.env x).conf).count (some y)
    = if y.2 = 0 ∧ y.1 < d.conf.numBG ∧ y.1 ≠ x.1 then 1 else 0 := by
  unfold fullCommit3Peers
  rw [List.count_cons_of_ne (by simp), List.count_reverse, List.count_eq_countP, List.countP_map,
    List.countP_filter, ← count_leaders]
  refine List.countP_congr fun bg _ => ?_
  show ((some (bg, 0) == some y) && decide (bg ≠ x.1)) = true ↔ _
  rw [Bool.and_eq_true, beq_iff_eq, decide_eq_true_eq, decide_eq_true_eq, Option.some.injEq,
    and_comm, eq_comm]

/-- One message for every leader, also for oneself. -/
theorem keyCount_sent_leaders {el : QueueElement} (hx : x.1 < d.conf.numBG) (h0 : x.2 = 0)
    (hself : none ∈ el.upPeers)
    (hcount : el.upPeers.count (some y)
      = if y.2 = 0 ∧ y.1 < d.conf.numBG ∧ y.1 ≠ x.1 then 1 else 0) :
    keyCount c k (sent x [el] y)
      = if el.pMessage.key = some (c, k) ∧ y.2 = 0 ∧ y.1 < d.conf.numBG then 1 else 0 := by
  rw [keyCount_sent_singleton, hcount]
  by_cases hkey : el.pMessage.key = some (c, k)
  · rw [if_pos hkey]
    by_cases hy : y = x
    · subst hy
      rw [if_pos ⟨rfl, hself⟩, if_neg fun h => h.2.2 rfl, if_pos ⟨hkey, h0, hx⟩]
    · rw [if_neg fun h => hy h.1, Nat.zero_add]
      refine if_congr ⟨fun h => ⟨hkey, h.1, h.2.1⟩, fun h => ⟨h.2.1, h.2.2, fun hb => hy ?_⟩⟩
        rfl rfl
      exact Prod.ext hb (h.2.1.trans h0.symm)
  · rw [if_neg hkey, if_neg fun h => hkey h.1]

theorem none_mem_preprepare3Peers (hx : x.1 < d.conf.numBG) :
    none ∈ preprepare3Peers (d.env x).conf := by
  unfold preprepare3Peers
  rw [List.mem_reverse, List.mem_map]
  exact ⟨x.1, List.mem_range.mpr hx, if_pos rfl⟩

/-! ## The views -/

/-- What the leader of BG 0 sends to all leaders. -/
def preprepare3Element (env : Env) (ω : Choice) (c : UInt16) : QueueElement where
  upPeers := preprepare3Peers env.conf
  pMessage := .round3Preprepare (round3PreprepareMessage env.host env.conf ω.collector c)

theorem isGlobalLeader_iff : isGlobalLeader (d.env x).conf = true ↔ x = (0, 0) := by
  unfold isGlobalLeader
  rw [Bool.and_eq_true, beq_iff_eq, beq_iff_eq]
  exact (Prod.ext_iff (x := x) (y := (0, 0))).symm

theorem cycleView_proposeRound3 : (proposeRound3 (d.env x) ω c s).cycleView c
    = if x = (0, 0) then
        ((s.cycleView c).send (preprepare3Element (d.env x) ω c)).notes
          [.sentPreprepare (round3PreprepareMessage d.host (d.env x).conf ω.collector c)]
      else s.cycleView c := by
  unfold proposeRound3
  by_cases hx : x = (0, 0)
  · rw [if_pos (isGlobalLeader_iff.mpr hx), if_pos hx, cycleView_note rfl, cycleView_enqueue rfl]
    rfl
  · rw [if_neg fun h => hx (isGlobalLeader_iff.mp h), if_neg hx]

theorem cycleView_proposeRound3_of_ne {c' : UInt16} (hc : c' ≠ c) :
    (proposeRound3 (d.env x) ω c' s).cycleView c = s.cycleView c := by
  unfold proposeRound3
  split
  · rw [cycleView_note_of_ne, cycleView_enqueue_of_ne]
    · exact fun heq => hc (Option.some.inj heq)
    · exact fun heq => hc (Option.some.inj heq)
  · rfl

/-- What a commit of the local connectivity changes in the view of the cycle. -/
structure Joined (d : Deployment) (x : Peer) (ω : Choice) (p : MessageRound2Preprepare)
    (status : CycleStatus) (v v' : CycleView) : Prop where
  committed : v'.committed = v.committed ++ [p]
  status : v'.status = if x.2 = 0 then
      some (status.enter .round3WaitingForPreprepareBaseline .round3PreprepareBaseline 1)
    else none
  stored : v'.stored = (v.stored || x.2 ≠ 0)
  juggled : v'.juggled = v.juggled
  pending : v'.pending = v.pending
  events : v'.events = v.events ++ ([.committedConnectivity p.cycle]
    ++ (if x = (0, 0) then
        [.sentPreprepare (round3PreprepareMessage d.host (d.env x).conf ω.collector p.cycle)]
      else [])
    ++ if x.2 = 0 then [] else [.round3Committed p.cycle])
  sends : v'.sends = v.sends
    ++ if x = (0, 0) then [preprepare3Element (d.env x) ω p.cycle] else []

theorem joined_afterConnectivity : Joined d x ω p status (s.cycleView p.cycle)
    ((afterConnectivity (d.env x) ω p status (beforeBranch p s)).cycleView p.cycle) := by
  have hnoted : ((noteCommitted p (beforeBranch p s)).note
      (.committedConnectivity p.cycle)).cycleView p.cycle
      = { s.cycleView p.cycle with
          committed := (s.cycleView p.cycle).committed ++ [p]
          events := (s.cycleView p.cycle).events ++ [.committedConnectivity p.cycle] } := by
    rw [cycleView_note rfl, cycleView_beforeBranch rfl]
    rfl
  have hclear : (clearRound2 (proposeRound3 (d.env x) ω p.cycle ((noteCommitted p
      (beforeBranch p s)).note (.committedConnectivity p.cycle)))).cycleView p.cycle = _ :=
    cycleView_proposeRound3
  rw [hnoted] at hclear
  have hleader : (d.env x).conf.isRound2Leader = true ↔ x.2 = 0 := beq_iff_eq
  unfold afterConnectivity
  dsimp only
  generalize clearRound2 (proposeRound3 (d.env x) ω p.cycle ((noteCommitted p
    (beforeBranch p s)).note (.committedConnectivity p.cycle))) = t at hclear ⊢
  by_cases h0 : x.2 = 0
  · rw [if_pos (hleader.mpr h0), cycleView_setStatus, hclear]
    by_cases hx : x = (0, 0)
    · rw [if_pos hx]
      exact {
        committed := rfl
        status := by rw [if_pos h0]; rfl
        stored := by simp [h0, CycleView.setStatus, CycleView.notes, CycleView.send]
        juggled := rfl
        pending := rfl
        events := by
          rw [if_pos hx, if_pos h0, List.append_nil]
          exact List.append_assoc ..
        sends := by rw [if_pos hx]; rfl }
    · rw [if_neg hx]
      exact {
        committed := rfl
        status := by rw [if_pos h0]; rfl
        stored := by simp [h0, CycleView.setStatus]
        juggled := rfl
        pending := rfl
        events := by rw [if_neg hx, if_pos h0, List.append_nil, List.append_nil]; rfl
        sends := by rw [if_neg hx, List.append_nil]; rfl }
  · have hx : x ≠ (0, 0) := fun hx => h0 (by rw [hx])
    rw [if_neg fun h => h0 (hleader.mp h)]
    show Joined d x ω p status _ ((afterFullCommit3 p.cycle t).cycleView p.cycle)
    rw [cycleView_afterFullCommit3, hclear, if_neg hx]
    exact {
      committed := rfl
      status := by rw [if_neg h0]; rfl
      stored := by simp [h0, CycleView.store, CycleView.notes]
      juggled := rfl
      pending := rfl
      events := by
        rw [if_neg hx, if_neg h0, List.append_nil]
        exact List.append_assoc ..
      sends := by rw [if_neg hx, List.append_nil]; rfl }

theorem cycleView_afterConnectivity_of_ne (hc : p.cycle ≠ c) :
    (afterConnectivity (d.env x) ω p status (beforeBranch p s)).cycleView c
      = s.cycleView c := by
  have hne : (Event.committedConnectivity p.cycle).cycle ≠ some c := by
    simpa [Event.cycle] using hc
  have hproposed : (clearRound2 (proposeRound3 (d.env x) ω p.cycle ((noteCommitted p
      (beforeBranch p s)).note (.committedConnectivity p.cycle)))).cycleView c
      = s.cycleView c := by
    refine (cycleView_proposeRound3_of_ne hc).trans ?_
    rw [cycleView_note_of_ne hne, cycleView_beforeBranch_of_ne hc]
  unfold afterConnectivity
  dsimp only
  split
  · rw [cycleView_setStatus_of_ne hc, hproposed]
  · exact (cycleView_afterFullCommit3_of_ne hc).trans hproposed

/-! ## The invariant -/

/-- The first leader has nothing in the last round before it is connected. -/
theorem Progress.Ok.nothing_yet {numBG : Nat} (h : g.Ok numBG) (h0 : 0 < numBG)
    (hs : ¬ (g.stage (0, 0)).Connected numBG) :
    g.last.len = 0 ∧ (∀ b < numBG, g.last.acc b = 0) ∧ g.last.closed = 0 := by
  have hlen := h.len
  rw [if_neg hs] at hlen
  have hacc : ∀ b < numBG, g.last.acc b = 0 := fun b hb => by
    have := h.last.acc_le_len b hb
    omega
  refine ⟨hlen, hacc, ?_⟩
  have := h.last.closed_le_acc 0 h0
  have := hacc 0 h0
  omega

/-- A commit of the local connectivity at one SL does not show at another. -/
theorem same_connect {numBG b : Nat} (h : g.Ok numBG) (hN : numBG ≠ 0)
    (hx : g.stage x = .connecting) (hy : y ≠ x) : g.Same numBG (g.connect x b) y := by
  have hstage : (g.connect x b).stage y = g.stage y := by
    rw [Progress.connect_stage, if_neg hy]
  -- before the first leader is connected nobody has voted
  have hfirst : x = (0, 0) → (∀ b < numBG, g.last.acc b = 0) ∧ g.last.closed = 0 := fun hx0 => by
    refine (h.nothing_yet (Nat.pos_of_ne_zero hN) ?_).2
    rw [← hx0, hx]
    simp [Stage.Connected]
  have hcollector : x ≠ (0, 0) → (g.connect x b).collector = g.collector := fun hx0 => if_neg hx0
  refine ⟨hstage, ?_, fun A _ _ => Iff.rfl, fun z => Iff.rfl, ?_⟩
  · unfold Progress.expected
    rw [hstage, Progress.connect_acc, Progress.connect_closed, Progress.connect_votes]
    cases hs : g.stage y with
    | leading =>
      by_cases hx0 : x = (0, 0)
      · have hlt : y.1 < numBG := by
          by_contra hge
          rw [h.beyond y (by omega)] at hs
          simp at hs
        dsimp only
        rw [if_pos ((hfirst hx0).1 _ hlt), if_pos ((hfirst hx0).1 _ hlt)]
      · rw [hcollector hx0]
    | _ => rfl
  · unfold Progress.marks
    rw [hstage, Progress.connect_acc, Progress.connect_closed]
    by_cases hx0 : x = (0, 0)
    · have hy0 : y ≠ (0, 0) := fun hy0 => hy (hy0.trans hx0.symm)
      have hnot : ¬(y.2 = 0 ∧ y.1 < numBG ∧ 0 < g.last.acc y.1) := by
        rintro ⟨-, hlt, hpos⟩
        rw [(hfirst hx0).1 _ hlt] at hpos
        exact absurd hpos (Nat.lt_irrefl 0)
      simp only [(hfirst hx0).2, hnot, hy0, Nat.lt_irrefl, false_and, and_false, if_false]
    · rw [hcollector hx0, Progress.connect_len, if_neg hx0]

/-- The cycle after an SL has committed the local connectivity. -/
theorem CycleOk.connect (hg : CycleOk d σ p.cycle g) (hd : Dispatch d σ σ' x e ω before)
    (hfits : d.conf.Fits) (h2 : Round2Ok d σ'.erase) (hsend : before.sl.sendQueue = [])
    (hentry : entryOf p = .localConnectivity p.cycle) (hstage : g.stage x = .connecting)
    (hstatus : before.sl.mapRound3Status p.cycle = some status)
    (hends : EndsFrom d x s (dispatcherRound2 (d.env x) ω e before.sl))
    (hplan : x.2 = 0 → PlanOk d x.1 s.common)
    (hjoined : Joined d x ω p status (before.sl.cycleView p.cycle) (s.cycleView p.cycle))
    (hplans : Plans s p.cycle ↔ Plans before.sl p.cycle) :
    CycleOk d σ' p.cycle (g.connect x (ω.collector % d.conf.numBG)) := by
  have hN := hg.ok.several x (by simp [hstage]) (by simp [hstage])
  have hpos : 0 < d.conf.numBG := Nat.lt_of_le_of_lt (Nat.zero_le _) hd.has.1
  have hk := Nat.mod_lt ω.collector hpos
  have hsl := hd.slCycle hg
  have hbefore := hd.view_eq (c := p.cycle)
  have hnone := sends_nil (c := p.cycle) hsend
  have hnot : ¬ (g.stage x).Connected d.conf.numBG := by simp [hstage, Stage.Connected]
  have hmodulo : (UInt16.ofNat (ω.collector % d.conf.numBG)).toNat
      = ω.collector % d.conf.numBG := toNat_bGid hfits hk
  have ht := hd.turn (c := p.cycle) true rfl (by
    rw [hends.view, hjoined.juggled]
    exact (List.append_nil _).symm)
  rw [hends.view] at ht
  obtain ⟨evs, hevs', hevents⟩ : ∃ evs, evs = [Event.committedConnectivity p.cycle]
      ++ (if x = (0, 0) then
          [.sentPreprepare (round3PreprepareMessage d.host (d.env x).conf ω.collector p.cycle)]
        else [])
      ++ (if x.2 = 0 then [] else [.round3Committed p.cycle])
      ∧ (s.cycleView p.cycle).events = (before.sl.cycleView p.cycle).events ++ evs :=
    ⟨_, rfl, hjoined.events⟩
  have hevs : (s.cycleView p.cycle).events = (viewAt σ p.cycle x).events ++ evs := by
    rw [hevents, hbefore]
  have hps : (s.cycleView p.cycle).committed = (viewAt σ p.cycle x).committed ++ [p] := by
    rw [hjoined.committed, hbefore]
  have hsends := hjoined.sends
  rw [hnone, List.nil_append] at hsends
  have hok := hg.ok.connect hd.has.1 hstage (k := ω.collector % d.conf.numBG) fun _ => hk
  have hstage' : (g.connect x (ω.collector % d.conf.numBG)).stage x
      = if x.2 = 0 then .leading else .done := by
    rw [Progress.connect_stage, if_pos rfl]
  have hfirst : x = (0, 0) → g.last.len = 0 ∧ (∀ b < d.conf.numBG, g.last.acc b = 0)
      ∧ g.last.closed = 0 := fun hx0 => hg.ok.nothing_yet hpos (hx0 ▸ hnot)
  have hacc : x.2 = 0 → g.last.acc x.1 = 0 := fun h0 => by
    by_contra hacc
    have := hg.ok.acc x.1 hd.has.1 (Nat.pos_of_ne_zero hacc)
    rw [show (x.1, 0) = x from Prod.ext rfl h0.symm] at this
    exact hnot this
  refine hg.turn ht hevs hps hok ?_ (fun y hy => same_connect hg.ok (by omega) hstage hy)
    (fun y k hk => Or.inl ?_) (fun y k hk => ?_) (fun hlen => ?_) (fun el hel _ => ?_)
    (fun st hst A hA r hr => ?_) (fun ev hev => ?_) fun b hb => ?_
  · refine {
      committed := ?_
      stored := ?_
      status := ?_
      own := fun st hst => ?_
      slots := fun st hst A hA hne => ?_
      nodup := hjoined.pending ▸ hsl.nodup
      pending := hjoined.pending ▸ hsl.pending
      marks := ?_ }
    · rw [hjoined.committed, List.map_append, hsl.committed, hstage, hstage', List.map_singleton,
        hentry]
      by_cases h0 : x.2 = 0 <;> simp [h0, hN, Stage.entries, Stage.Connected]
    · rw [hjoined.stored, hsl.stored, hstage, hstage']
      by_cases h0 : x.2 = 0 <;> simp [h0]
    · rw [hjoined.status]
      unfold Progress.expected
      rw [hstage']
      by_cases h0 : x.2 = 0
      · rw [if_pos h0, if_pos h0]
        dsimp only
        rw [Progress.connect_acc, if_pos (hacc h0)]
        rfl
      · rw [if_neg h0, if_neg h0]
        rfl
    · rw [hjoined.status] at hst
      split at hst
      · obtain ⟨p', hp', hrest⟩ := hsl.own status hstatus
        rw [← Option.some.inj hst]
        refine ⟨p', ?_, hrest⟩
        rw [hjoined.committed]
        exact List.mem_append_left _ hp'
      · exact absurd hst (by simp)
    · rw [hjoined.status] at hst
      split at hst
      · rw [← Option.some.inj hst]
        exact hsl.slots status hstatus A hA hne
      · exact absurd hst (by simp)
    · rw [hevents, marks_append, hsl.marks, hg.ok.marks_of_not_connected hd.has.1 hnot, hstage,
        if_neg (by simp), List.nil_append, hevs']
      have hvoted : ¬(x.2 = 0 ∧ x.1 < d.conf.numBG ∧ 0 < g.last.acc x.1) := fun h => by
        rw [hacc h.1] at h
        exact absurd h.2.2 (Nat.lt_irrefl 0)
      have hclosed : x.2 = 0 → g.last.closed = 0 := fun h0 => by
        have := hg.ok.last.closed_le_acc x.1 hd.has.1
        rw [hacc h0] at this
        omega
      unfold Progress.marks
      rw [hstage', Progress.connect_acc, Progress.connect_closed, Progress.connect_len,
        Progress.connect_collector, if_neg hvoted]
      by_cases h0 : x.2 = 0
      · rw [if_pos h0, if_pos h0, hclosed h0]
        by_cases hx0 : x = (0, 0)
        · have hproposed : (round3PreprepareMessage d.host (d.env x).conf ω.collector
              p.cycle).collectorBGid.toNat = ω.collector % d.conf.numBG := hmodulo
          have hopen : x = (0, 0) ∧ 0 < g.last.len + 1 := ⟨hx0, Nat.succ_pos _⟩
          rw [if_pos hx0, if_pos hx0, if_pos hx0, if_pos hopen]
          simp [marks, hproposed, Event.mark, Stage.Connected]
        · simp [marks, Event.mark, Stage.Connected, hx0]
      · have hx0 : x ≠ (0, 0) := fun hx0 => h0 (by rw [hx0])
        have hx1 : ∀ b, x ≠ (b, 0) := fun b hx => h0 (by rw [hx])
        simp [marks, Event.mark, Stage.Connected, hx0, hx1, h0, hN]
  · cases k with
    | preprepare =>
      obtain ⟨h0, hlt, hacc⟩ : y.2 = 0 ∧ y.1 < d.conf.numBG ∧ g.last.acc y.1 < g.last.len := hk
      refine ⟨h0, hlt, ?_⟩
      rw [Progress.connect_acc, Progress.connect_len]
      split <;> omega
    | partialCommit b =>
      obtain ⟨hy, hb, hclosed, hvotes⟩ : y = (g.collector, 0) ∧ b < d.conf.numBG
        ∧ g.last.closed < g.last.acc b ∧ b ∉ g.last.votes g.last.closed := hk
      have hx0 : x ≠ (0, 0) := fun hx0 => by
        rw [(hfirst hx0).2.1 b hb] at hclosed
        omega
      refine ⟨?_, hb, ?_, ?_⟩
      · rw [Progress.connect_collector, if_neg hx0]
        exact hy
      · rw [Progress.connect_acc, Progress.connect_closed]
        exact hclosed
      · rw [Progress.connect_votes, Progress.connect_closed]
        exact hvotes
    | fullCommit =>
      obtain ⟨h0, hlt, hcom⟩ : y.2 = 0 ∧ y.1 < d.conf.numBG ∧ g.last.com y.1 < g.last.closed := hk
      refine ⟨h0, hlt, ?_⟩
      rw [Progress.connect_com, Progress.connect_closed]
      exact hcom
    | _ => exact hk
  · rw [hsends] at hk ⊢
    split at hk
    · next hx0 =>
      rw [if_pos hx0]
      rw [keyCount_sent_leaders hd.has.1 (by rw [hx0]) (none_mem_preprepare3Peers hd.has.1)
        count_preprepare3Peers] at hk ⊢
      split at hk
      · next hkey =>
        obtain ⟨hkey, h0, hlt⟩ := hkey
        obtain rfl : k = .preprepare := (Prod.mk.inj (Option.some.inj hkey)).2.symm
        refine ⟨by split <;> omega, ?_, h0, hlt, ?_⟩
        · rintro ⟨-, -, hacc⟩
          rw [(hfirst hx0).1] at hacc
          omega
        · rw [Progress.connect_acc, Progress.connect_len, if_pos hx0, (hfirst hx0).2.1 _ hlt]
          omega
      · exact absurd hk (Nat.lt_irrefl 0)
    · rw [sent_nil] at hk
      exact absurd hk (Nat.lt_irrefl 0)
  · rw [Progress.connect_collector, if_neg]
    intro hx0
    rw [(hfirst hx0).1] at hlen
    exact absurd hlen (Nat.lt_irrefl 0)
  · rw [hsends] at hel
    split at hel
    · next hx0 =>
      rw [List.mem_singleton.mp hel]
      show (UInt16.ofNat (ω.collector % d.conf.numBG)).toNat = _
      rw [hmodulo, Progress.connect_collector, if_pos hx0]
    · exact absurd hel List.not_mem_nil
  · rw [hjoined.status] at hst
    split at hst
    · rw [← Option.some.inj hst] at hr
      exact ht.answered hevs (hg.slots x status (hd.status_eq.symm.trans hstatus) A hA r hr)
    · exact absurd hst (by simp)
  · rw [hevs'] at hev
    rcases List.mem_append.mp hev with hev | hev
    · rcases List.mem_append.mp hev with hev | hev
      · rw [List.mem_singleton.mp hev]
        trivial
      · split at hev
        · rw [List.mem_singleton.mp hev]
          trivial
        · exact absurd hev List.not_mem_nil
    · split at hev
      · exact absurd hev List.not_mem_nil
      · rw [List.mem_singleton.mp hev]
        trivial
  · rw [hd.planned_from h2 hends hplan]
    split
    · next hbx =>
      have h0 : x.2 = 0 := by rw [← hbx]
      have hold := hg.planned b hb
      rw [hbx, hstage] at hold
      rw [hplans, hd.sl_eq, hbx, hstage', if_pos h0]
      exact hold.trans (iff_of_true (Or.inl rfl) (Or.inr (Or.inl rfl)))
    · next hbx =>
      rw [Progress.connect_stage, if_neg hbx]
      exact hg.planned b hb

/-- A commit of the local connectivity leaves the plan alone. -/
theorem samePlan_afterConnectivity {env : Env} : SamePlan s.common
    (afterConnectivity env ω p status (beforeBranch p s)).common := by
  have hissued : issuedOf (s.common.history ++ [.committed p]) = issuedOf s.common.history := by
    rw [issuedOf_append]
    exact List.append_nil _
  unfold afterConnectivity proposeRound3
  dsimp only
  split
  · split
    · exact ⟨hissued, rfl, rfl, rfl⟩
    · exact ⟨hissued, rfl, rfl, rfl⟩
  · split
    · exact ⟨hissued, rfl, rfl, rfl⟩
    · exact ⟨hissued, rfl, rfl, rfl⟩

theorem fake_afterConnectivity {env : Env} :
    (afterConnectivity env ω p status (beforeBranch p s)).fakeRound3ResponseForBaseline
      = s.fakeRound3ResponseForBaseline := by
  unfold afterConnectivity proposeRound3
  dsimp only
  split
  · split <;> rfl
  · split <;> rfl

/-- The state after a full commit was put back. -/
def putBack (e : QueueElement) (p : MessageRound2Preprepare) (s : ConnManager) : ConnManager :=
  (setRound2Status (some { RCanopus.CycleStatus.committed p with
    state := .round2WaitingForFullcommit }) (beforeBranch p s)).juggle e

theorem fullCommitLocalConnectivity_putBack {env : Env} {common : ConnManager → Outcome}
    (hstatus : s.mapRound3Status p.cycle = some status)
    (hstate : status.state ≠ .common .round3WaitingForLocalConnectivity) :
    fullCommitLocalConnectivity env ω e p (.committed p) (beforeBranch p s) common
      = .ok (putBack e p s) := by
  have hsame : (beforeBranch p s).mapRound3Status p.cycle = some status := hstatus
  unfold fullCommitLocalConnectivity putBack
  dsimp only
  rw [hsame]
  exact if_pos hstate

/-- The leader has planned the local connectivity that is committed. -/
theorem Commits.plans (hc : Commits d σ σ' x e ω before m p)
    (hentry : entryOf p = .localConnectivity p.cycle) : Plans (σ (x.1, 0)).sl p.cycle := by
  have hissued := hc.issued
  rw [hentry] at hissued
  unfold Plans planOf
  rw [List.map_append]
  exact List.mem_append_left _ hissued

/-- The local connectivity is committed by SLs that wait for it or for results. -/
theorem CycleOk.stage_connectivity (hg : CycleOk d σ p.cycle g)
    (hc : Commits d σ σ' x e ω before m p) (hentry : entryOf p = .localConnectivity p.cycle) :
    g.stage x = .fetching ∨ g.stage x = .connecting := by
  have hd := hc.toDispatch
  have hclient : g.stage x ≠ .idle := by
    have hmem := hc.follows (.client p.cycle) ⟨p.cycle, hentry, rfl⟩
    rw [hg.mem_entries hd rfl] at hmem
    exact mem_entries_client.mp hmem
  have hnot : ¬ (g.stage x).Connected d.conf.numBG := fun hconnected => by
    refine hc.fresh ?_
    rw [hentry, hg.mem_entries hd rfl]
    exact mem_entries_localConnectivity.mpr hconnected
  -- the leader has planned it, so there are several BGs
  have hN : d.conf.numBG ≠ 1 := by
    rcases (hg.planned x.1 hd.has.1).mp (hc.plans hentry) with hs | hs | ⟨-, hN⟩
    · exact hg.ok.several (x.1, 0) (by simp [hs]) (by simp [hs])
    · exact hg.ok.several (x.1, 0) (by simp [hs]) (by simp [hs])
    · exact hN
  cases hs : g.stage x with
  | idle => exact absurd hs hclient
  | fetching => exact Or.inl rfl
  | connecting => exact Or.inr rfl
  | leading => exact absurd (hs ▸ Or.inl rfl) hnot
  | done => exact absurd (hs ▸ Or.inr ⟨rfl, hN⟩) hnot

/-- The stage of an SL that waits for the local connectivity, from its status. -/
theorem CycleOk.stage_of_connecting (hg : CycleOk d σ c g) (hd : Dispatch d σ σ' x e ω before)
    (hstatus : before.sl.mapRound3Status c = some status)
    (hstate : status.state = .common .round3WaitingForLocalConnectivity) :
    g.stage x = .connecting := by
  have hexpected := (hd.slCycle hg).status
  have hsome : (before.sl.cycleView c).status = some status := hstatus
  rw [hsome, Option.map_some] at hexpected
  unfold Progress.expected at hexpected
  cases hs : g.stage x with
  | connecting => rfl
  | leading =>
    rw [hs] at hexpected
    have hsummary := congrArg Prod.fst (Option.some.inj hexpected)
    have hleft : status.summary.1 = .common .round3WaitingForLocalConnectivity := hstate
    rw [hleft] at hsummary
    split at hsummary
    · exact absurd hsummary (by simp)
    · split at hsummary <;> exact absurd hsummary (by simp)
  | fetching =>
    rw [hs] at hexpected
    have hsummary := congrArg Prod.fst (Option.some.inj hexpected)
    exact absurd (hstate.symm.trans hsummary) (by simp)
  | idle =>
    rw [hs] at hexpected
    exact absurd hexpected (by simp)
  | done =>
    rw [hs] at hexpected
    exact absurd hexpected (by simp)

/-- The full commit of a local connectivity is put back until the results of the cycle are there. -/
theorem CoreOk.connectivity_cases (h : CoreOk d σ) (hc : Commits d σ σ' x e ω before m p)
    (ht : p.requestType = requestTypeLocalConnectivity) :
    ∃ status, before.sl.mapRound3Status p.cycle = some status
      ∧ (status.state ≠ .common .round3WaitingForLocalConnectivity
          ∧ dispatcherRound2 (d.env x) ω e before.sl = .ok (putBack e p before.sl)
        ∨ status.state = .common .round3WaitingForLocalConnectivity
          ∧ dispatcherRound2 (d.env x) ω e before.sl = spawnRound2 (d.env x) ω
            (afterConnectivity (d.env x) ω p status (beforeBranch p before.sl))) := by
  obtain ⟨g, hg⟩ := h.cycles p.cycle
  have hbranch : dispatcherRound2 (d.env x) ω e before.sl = fullCommitLocalConnectivity (d.env x) ω
      e p (.committed p) (beforeBranch p before.sl) (spawnRound2 (d.env x) ω) := by
    rw [hc.branch]
    unfold commitBranch
    rw [if_neg (by rw [ht]; decide), if_pos ht]
  have hstatus : ∃ status, before.sl.mapRound3Status p.cycle = some status := by
    have hexpected := (hc.slCycle hg).status
    refine Option.ne_none_iff_exists'.mp fun hnone => ?_
    have hview : (before.sl.cycleView p.cycle).status = none := hnone
    rw [hview, Option.map_none] at hexpected
    have hstage := hg.stage_connectivity hc (entryOf_of_localConnectivity ht)
    have hover := (Progress.expected_eq_none _ _ _).mp hexpected.symm
    rcases hstage with hs | hs <;> rw [hs] at hover <;> simp at hover
  obtain ⟨status, hstatus⟩ := hstatus
  have hsame : (beforeBranch p before.sl).mapRound3Status p.cycle = some status := hstatus
  refine ⟨status, hstatus, ?_⟩
  by_cases hstate : status.state = .common .round3WaitingForLocalConnectivity
  · exact Or.inr ⟨hstate, hbranch.trans (fullCommitLocalConnectivity_eq hsame hstate)⟩
  · exact Or.inl ⟨hstate, hbranch.trans (fullCommitLocalConnectivity_putBack hstatus hstate)⟩

/-- **The local connectivity** keeps the invariant, also when its full commit is put back. -/
theorem CoreOk.commitConnectivity (h : CoreOk d σ) (hfits : d.conf.Fits)
    (h2 : Round2Ok d σ'.erase) (hc : Commits d σ σ' x e ω before m p)
    (hsend : before.sl.sendQueue = []) (ht : p.requestType = requestTypeLocalConnectivity) :
    Advance d σ σ' x := by
  have hd := hc.toDispatch
  have hentry := entryOf_of_localConnectivity ht
  obtain ⟨status, hstatus, ⟨-, hbranch⟩ | ⟨hstate, hbranch⟩⟩ := h.connectivity_cases hc ht
  · have hends : EndsFrom d x (putBack e p before.sl) (dispatcherRound2 (d.env x) ω e before.sl) :=
      hbranch ▸ endsFrom_ok
    have hplan : x.2 = 0 → PlanOk d x.1 (putBack e p before.sl).common := fun hx =>
      (h.plan_before hd hx).same ⟨rfl, rfl, rfl, rfl⟩
    have hround3 : e.pMessage.round3Cycle = none := by
      rw [e.pMessage.round3Cycle_eq, hc.element]
      rfl
    refine h.step hd h2 hends hplan (h.fake_before hd) fun c g' hg' => ?_
    refine ⟨g', hg'.quiet_from hd h2 hsend hends hplan (Or.inl ?_) Iff.rfl, .stay⟩
    exact cycleView_juggle_of_ne (by rw [hround3]; simp)
  · have hends : EndsFrom d x (afterConnectivity (d.env x) ω p status (beforeBranch p before.sl))
        (dispatcherRound2 (d.env x) ω e before.sl) := hbranch ▸ endsFrom_spawnRound2
    have hplanSame : SamePlan before.sl.common (afterConnectivity (d.env x) ω p status
        (beforeBranch p before.sl)).common := samePlan_afterConnectivity
    have hplans : ∀ c, Plans (afterConnectivity (d.env x) ω p status
        (beforeBranch p before.sl)) c ↔ Plans before.sl c := fun c => by
      unfold Plans
      rw [hplanSame.planOf]
    have hplan : x.2 = 0 → PlanOk d x.1 (afterConnectivity (d.env x) ω p status
        (beforeBranch p before.sl)).common := fun hx => (h.plan_before hd hx).same hplanSame
    refine h.step hd h2 hends hplan ?_ fun c g' hg' => ?_
    · unfold FakeOk
      rw [fake_afterConnectivity]
      exact h.fake_before hd
    · by_cases hcycle : p.cycle = c
      · subst hcycle
        have hstage' := hg'.stage_of_connecting hd hstatus hstate
        exact ⟨_, hg'.connect hd hfits h2 hsend hentry hstage' hstatus hends hplan
          joined_afterConnectivity (hplans _), .connect _ hstage'⟩
      · exact ⟨g', hg'.quiet_from hd h2 hsend hends hplan
          (Or.inl (cycleView_afterConnectivity_of_ne hcycle)) (hplans c), .stay⟩

/-- **A full commit** keeps the invariant. -/
theorem CoreOk.fullCommit (h : CoreOk d σ) (hfits : d.conf.Fits) (h1 : Round2Ok d σ.erase)
    (h2 : Round2Ok d σ'.erase) (hd : Dispatch d σ σ' x e ω before)
    (hsend : before.sl.sendQueue = []) (hm : e.pMessage = .common (.round2FullCommit m)) :
    Advance d σ σ' x := by
  obtain ⟨p, hc⟩ := h.commits h1 hd hm
  obtain ⟨q, hq, hcopy⟩ := hc.planned
  have ht : p.requestType = q.requestType := by
    rw [hcopy]
    rfl
  rcases hq.known with hclient | hconnectivity
  · exact h.commitClient hfits h2 hc hsend (ht.trans hclient)
  · exact h.commitConnectivity hfits h2 hc hsend (ht.trans hconnectivity)

end RCanopus.Baseline
