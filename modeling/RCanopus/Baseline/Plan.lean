import RCanopus.Round3Issue

/-!
# What the leader of a BG issues

In the baseline variant only two kinds of Preprepares are issued: the results of client cycles, with
the cycles in order, and the local connectivity of a cycle, after its result was committed.
-/

namespace RCanopus.Baseline

/-! ## The plan -/

/-- What the leader has issued, and what it has queued. -/
def planOf (s : RCanopus.ConnManager) : List MessageRound2Preprepare :=
  issuedOf s.history ++ s.pLeaderRound2PendingPreprepareRaw

/-- The client cycles that were issued. -/
def cyclesOf (events : List RCanopus.Event) : List UInt16 :=
  ((issuedOf events).map entryOf).filterMap clientCycle

/-- The local connectivity of a cycle comes after its result. -/
def Follows (e e' : Entry) : Prop := ∃ c, e = .localConnectivity c ∧ e' = .client c

/-- What the leader of BG `b` issues. -/
structure Planned (d : Deployment) (b : Nat) (p : MessageRound2Preprepare) : Prop where
  known : p.requestType = requestTypeFromClient ∨ p.requestType = requestTypeLocalConnectivity
  client : p.requestType = requestTypeFromClient →
    Numbered (d.clientProposal b p.cycle) p ∧ p.cycle ≠ 0
  news : p.requestType ≠ requestTypeFromClient → p.Covers

/-- No copy of what a leader issues is cut inside the fixed fields. -/
theorem Planned.covers {d : Deployment} {b : Nat} {p : MessageRound2Preprepare}
    (h : Planned d b p) (hfits : d.conf.Fits) (hb : 0 < d.conf.numSL b) : p.Covers := by
  by_cases ht : p.requestType = requestTypeFromClient
  · exact (h.client ht).1.covers (covers_clientProposal hfits hb)
  · exact h.news ht

/-- The plan of BG `b`, as its leader has it. -/
structure PlanOk (d : Deployment) (b : Nat) (s : RCanopus.ConnManager) : Prop where
  cycles : cyclesOf s.history
    = (List.range (cyclesOf s.history).length).map fun k => UInt16.ofNat (k + 1)
  nextCycle : s.leaderRound2NextRcanopusCycle = UInt16.ofNat ((cyclesOf s.history).length + 1)
  envoysRr : s.leaderEnvoysRr = envoysRrAt d.conf b (cyclesOf s.history).length
  issued : ∀ p ∈ issuedOf s.history, Planned d b p
  queued : ∀ p ∈ s.pLeaderRound2PendingPreprepareRaw,
    p.requestType = requestTypeLocalConnectivity ∧ p.numOfRound3Participants = 0
      ∧ .client p.cycle ∈ (issuedOf s.history).map entryOf ∧ p.Covers
  nodup : ((planOf s).map entryOf).Nodup
  grounded : Grounded Follows ((issuedOf s.history).map entryOf)

section Plan

variable {d : Deployment} {b : Nat} {s s' : RCanopus.ConnManager} {ω : RCanopus.Choice}
  {p q : MessageRound2Preprepare} {c : UInt16}

theorem planOk_init : PlanOk d b .init where
  cycles := rfl
  nextCycle := rfl
  envoysRr := rfl
  issued := fun _ hp => absurd hp List.not_mem_nil
  queued := fun _ hp => absurd hp List.not_mem_nil
  nodup := List.nodup_nil
  grounded := .nil

/-- Only four fields matter. -/
structure SamePlan (s s' : RCanopus.ConnManager) : Prop where
  issued : issuedOf s'.history = issuedOf s.history
  queue : s'.pLeaderRound2PendingPreprepareRaw = s.pLeaderRound2PendingPreprepareRaw
  nextCycle : s'.leaderRound2NextRcanopusCycle = s.leaderRound2NextRcanopusCycle
  envoysRr : s'.leaderEnvoysRr = s.leaderEnvoysRr

theorem SamePlan.planOf (h : SamePlan s s') : planOf s' = planOf s := by
  unfold Baseline.planOf
  rw [h.issued, h.queue]

theorem SamePlan.trans {s'' : RCanopus.ConnManager} (h : SamePlan s s') (h' : SamePlan s' s'') :
    SamePlan s s'' :=
  ⟨h'.issued.trans h.issued, h'.queue.trans h.queue, h'.nextCycle.trans h.nextCycle,
    h'.envoysRr.trans h.envoysRr⟩

theorem PlanOk.same (h : PlanOk d b s) (hs : SamePlan s s') : PlanOk d b s' := by
  have hcycles : cyclesOf s'.history = cyclesOf s.history := by
    unfold cyclesOf
    rw [hs.issued]
  refine ⟨?_, ?_, ?_, ?_, ?_, ?_, ?_⟩
  · rw [hcycles]
    exact h.cycles
  · rw [hcycles, hs.nextCycle]
    exact h.nextCycle
  · rw [hcycles, hs.envoysRr]
    exact h.envoysRr
  · rw [hs.issued]
    exact h.issued
  · rw [hs.issued, hs.queue]
    exact h.queued
  · rw [hs.planOf]
    exact h.nodup
  · rw [hs.issued]
    exact h.grounded

/-! ## Entries -/

theorem entryOf_of_localConnectivity (h : p.requestType = requestTypeLocalConnectivity) :
    entryOf p = .localConnectivity p.cycle := by
  unfold RCanopus.entryOf
  rw [h, if_neg (by decide), if_neg (by decide), if_pos rfl]

theorem Planned.numbered (h : Planned d b p) (hq : Numbered p q) : Planned d b q := by
  refine ⟨?_, fun ht => ?_, fun ht => hq.covers (h.news ?_)⟩
  rotate_left 2
  · rwa [← hq] at ht
  · rw [← hq]
    exact h.known
  rw [← hq] at ht ⊢
  obtain ⟨hnum, hne⟩ := h.client ht
  refine ⟨?_, hne⟩
  unfold Numbered at hnum ⊢
  rw [← hnum]
  rfl

/-! ## Queueing -/

/-- The local connectivity of a cycle is queued. -/
theorem PlanOk.push (h : PlanOk d b s) (hp : p.requestType = requestTypeLocalConnectivity)
    (hnum : p.numOfRound3Participants = 0)
    (hclient : .client p.cycle ∈ (issuedOf s.history).map entryOf) (hcovers : p.Covers)
    (hnew : .localConnectivity p.cycle ∉ (planOf s).map entryOf) :
    PlanOk d b (RCanopus.pushPreprepare p s) := by
  have hplan : (planOf (RCanopus.pushPreprepare p s)).map entryOf
      = (planOf s).map entryOf ++ [.localConnectivity p.cycle] := by
    unfold planOf RCanopus.pushPreprepare
    dsimp only
    rw [← List.append_assoc, List.map_append, List.map_singleton,
      entryOf_of_localConnectivity hp]
  refine ⟨h.cycles, h.nextCycle, h.envoysRr, h.issued, fun q hq => ?_, ?_, h.grounded⟩
  · rcases List.mem_append.mp hq with hq | hq
    · exact h.queued q hq
    · rw [List.mem_singleton.mp hq]
      exact ⟨hp, hnum, hclient, hcovers⟩
  · rw [hplan]
    refine List.Nodup.append h.nodup (List.nodup_singleton _) fun e he he' => ?_
    rw [List.mem_singleton.mp he'] at he
    exact hnew he

theorem mem_plan_push (hp : p.requestType = requestTypeLocalConnectivity) :
    .localConnectivity c ∈ (planOf (RCanopus.pushPreprepare p s)).map entryOf
      ↔ .localConnectivity c ∈ (planOf s).map entryOf ∨ c = p.cycle := by
  unfold planOf RCanopus.pushPreprepare
  dsimp only
  rw [← List.append_assoc, List.map_append, List.mem_append, List.map_singleton,
    List.mem_singleton, entryOf_of_localConnectivity hp, Entry.localConnectivity.injEq]

/-! ## Issuing -/

theorem mem_cyclesOf {events : List RCanopus.Event} :
    c ∈ cyclesOf events ↔ .client c ∈ (issuedOf events).map entryOf := by
  unfold cyclesOf
  rw [List.mem_filterMap]
  constructor
  · rintro ⟨e, he, hc⟩
    cases e <;> simp [clientCycle] at hc
    subst hc
    exact he
  · exact fun h => ⟨_, h, rfl⟩

theorem length_cyclesOf {events : List RCanopus.Event} :
    (cyclesOf events).length ≤ (issuedOf events).length := by
  unfold cyclesOf
  refine (List.length_filterMap_le _ _).trans ?_
  rw [List.length_map]

/-- The cycle that is issued next is new, as long as the sequence numbers last. -/
theorem PlanOk.fresh (h : PlanOk d b s) (hshort : (cyclesOf s.history).length + 1 < 2 ^ 16) :
    .client (UInt16.ofNat ((cyclesOf s.history).length + 1))
      ∉ (issuedOf s.history).map entryOf := by
  rw [← mem_cyclesOf, h.cycles, List.mem_map]
  rintro ⟨i, hi, heq⟩
  rw [List.length_map, List.length_range] at heq
  have hi : i < (cyclesOf s.history).length := List.mem_range.mp hi
  have := congrArg UInt16.toNat heq
  rw [UInt16.toNat_ofNat', UInt16.toNat_ofNat', Nat.mod_eq_of_lt (by omega),
    Nat.mod_eq_of_lt hshort] at this
  omega

/-- The queue holds no results. -/
theorem PlanOk.client_iff (h : PlanOk d b s) :
    .client c ∈ (planOf s).map entryOf ↔ .client c ∈ (issuedOf s.history).map entryOf := by
  unfold planOf
  rw [List.map_append, List.mem_append]
  refine ⟨fun hc => hc.elim id fun hc => ?_, Or.inl⟩
  obtain ⟨p, hp, hentry⟩ := List.mem_map.mp hc
  rw [entryOf_of_localConnectivity (h.queued p hp).1] at hentry
  exact absurd hentry (by simp)

section Issue

variable {env : Env} {status : Option RCanopus.CycleStatus}

/-- An entry moves from the queue to what is issued. -/
theorem PlanOk.issue_pending (h : PlanOk d b s) (s' : RCanopus.ConnManager) {i : Nat}
    (hp : s.pLeaderRound2PendingPreprepareRaw[i]? = some p) (hq : Numbered p q)
    (hissued : issuedOf s'.history = issuedOf s.history ++ [q])
    (hqueue : s'.pLeaderRound2PendingPreprepareRaw
      = s.pLeaderRound2PendingPreprepareRaw.eraseIdx i)
    (hnext : s'.leaderRound2NextRcanopusCycle = s.leaderRound2NextRcanopusCycle)
    (hrr : s'.leaderEnvoysRr = s.leaderEnvoysRr) :
    PlanOk d b s' ∧ ((planOf s').map entryOf).Perm ((planOf s).map entryOf) := by
  obtain ⟨ht, -, hclient, hcovers⟩ := h.queued p (List.mem_of_getElem? hp)
  have hentry : entryOf q = .localConnectivity p.cycle := by
    rw [hq.entryOf, entryOf_of_localConnectivity ht]
  have hcycles : cyclesOf s'.history = cyclesOf s.history := by
    unfold cyclesOf
    rw [hissued, List.map_append, List.filterMap_append, List.map_singleton, hentry]
    exact List.append_nil _
  have hperm : ((planOf s').map entryOf).Perm ((planOf s).map entryOf) := by
    unfold planOf
    rw [hissued, hqueue, List.map_append, List.map_append, List.map_append, List.append_assoc,
      List.map_singleton, List.singleton_append, hq.entryOf]
    exact List.Perm.append_left _ (perm_eraseIdx entryOf hp)
  refine ⟨⟨?_, ?_, ?_, fun r hr => ?_, fun r hr => ?_, ?_, ?_⟩, hperm⟩
  · rw [hcycles]
    exact h.cycles
  · rw [hcycles, hnext]
    exact h.nextCycle
  · rw [hcycles, hrr]
    exact h.envoysRr
  · rw [hissued] at hr
    rcases List.mem_append.mp hr with hr | hr
    · exact h.issued r hr
    · rw [List.mem_singleton.mp hr]
      refine Planned.numbered ⟨Or.inr ht, fun hc => ?_, fun _ => hcovers⟩ hq
      rw [ht] at hc
      exact absurd hc (by decide)
  · rw [hqueue] at hr
    obtain ⟨ht, hnum, hmem, hcovers⟩ := h.queued r (List.mem_of_mem_eraseIdx hr)
    refine ⟨ht, hnum, ?_, hcovers⟩
    rw [hissued, List.map_append]
    exact List.mem_append_left _ hmem
  · exact hperm.nodup_iff.mpr h.nodup
  · rw [hissued, List.map_append, List.map_singleton, hentry]
    refine h.grounded.concat fun e' he' => ?_
    obtain ⟨c, hc, rfl⟩ := he'
    rw [← Entry.localConnectivity.inj hc]
    exact hclient

/-- The next client cycle is issued. -/
theorem PlanOk.issue_client (h : PlanOk d b s) (s' : RCanopus.ConnManager)
    (hshort : (cyclesOf s.history).length + 1 < 2 ^ 16)
    (hq : Numbered (clientPreprepare d.host (d.conf.ofSL b 0) s.leaderRound2NextRcanopusCycle
      s.leaderEnvoysRr) q)
    (hempty : s.pLeaderRound2PendingPreprepareRaw = [])
    (hissued : issuedOf s'.history = issuedOf s.history ++ [q])
    (hqueue : s'.pLeaderRound2PendingPreprepareRaw = [])
    (hnext : s'.leaderRound2NextRcanopusCycle = s.leaderRound2NextRcanopusCycle + 1)
    (hrr : s'.leaderEnvoysRr = (envoyRoundRobin (d.conf.numSL b)
      (round3ParticipantsNum (d.conf.ofSL b 0)).toNat s.leaderEnvoysRr).2) :
    PlanOk d b s' ∧ ∃ c, (planOf s').map entryOf = (planOf s).map entryOf ++ [.client c] := by
  have hfresh := h.fresh hshort
  have hnextCycle := h.nextCycle
  have henvoys := h.envoysRr
  generalize hk : (cyclesOf s.history).length = k at *
  have hc : (UInt16.ofNat (k + 1)).toNat = k + 1 := by
    rw [UInt16.toNat_ofNat', Nat.mod_eq_of_lt hshort]
  have hproposal : clientPreprepare d.host (d.conf.ofSL b 0) s.leaderRound2NextRcanopusCycle
      s.leaderEnvoysRr = d.clientProposal b (UInt16.ofNat (k + 1)) := by
    unfold Deployment.clientProposal
    rw [hnextCycle, henvoys, hc, Nat.add_sub_cancel]
  rw [hproposal] at hq
  have hcycle : q.cycle = UInt16.ofNat (k + 1) := by
    rw [← hq]
    rfl
  have hentry : entryOf q = .client (UInt16.ofNat (k + 1)) := by
    rw [hq.entryOf]
    rfl
  have htype : q.requestType = requestTypeFromClient := by
    rw [← hq]
    rfl
  have hcycles : cyclesOf s'.history = cyclesOf s.history ++ [UInt16.ofNat (k + 1)] := by
    unfold cyclesOf
    rw [hissued, List.map_append, List.filterMap_append, List.map_singleton, hentry]
    rfl
  have hplan : (planOf s').map entryOf
      = (planOf s).map entryOf ++ [.client (UInt16.ofNat (k + 1))] := by
    unfold planOf
    rw [hissued, hqueue, hempty, List.append_nil, List.append_nil, List.map_append,
      List.map_singleton, hentry]
  refine ⟨⟨?_, ?_, ?_, fun r hr => ?_, fun r hr => ?_, ?_, ?_⟩, _, hplan⟩
  · have hold := h.cycles
    rw [hk] at hold
    rw [hcycles, List.length_append, hk, List.length_singleton, List.range_succ, List.map_append,
      ← hold]
    rfl
  · rw [hcycles, List.length_append, hk, List.length_singleton, hnext, hnextCycle,
      UInt16.ofNat_add (k + 1) 1]
    rfl
  · rw [hcycles, List.length_append, hk, List.length_singleton, hrr, henvoys]
    rfl
  · rw [hissued] at hr
    rcases List.mem_append.mp hr with hr | hr
    · exact h.issued r hr
    · rw [List.mem_singleton.mp hr]
      refine ⟨Or.inl htype, fun _ => ⟨?_, ?_⟩, fun hne => absurd htype hne⟩
      · rw [hcycle]
        exact hq
      · rw [hcycle]
        intro h0
        rw [h0] at hc
        exact absurd hc (by simp)
  · rw [hqueue] at hr
    exact absurd hr List.not_mem_nil
  · rw [hplan]
    refine List.Nodup.append h.nodup (List.nodup_singleton _) fun e he he' => ?_
    rw [List.mem_singleton.mp he', h.client_iff] at he
    exact hfresh he
  · rw [hissued, List.map_append, List.map_singleton, hentry]
    refine h.grounded.concat fun e' he' => ?_
    obtain ⟨c, hc, -⟩ := he'
    exact absurd hc (by simp)

end Issue

/-- **Starting a round** keeps the plan, but for one more client cycle at its end. -/
theorem PlanOk.start (h : PlanOk d b s)
    (hshort : (issuedOf (startRound2IfPossible (d.env (b, 0)) ω s).state.history).length
      < 2 ^ 16) :
    PlanOk d b (startRound2IfPossible (d.env (b, 0)) ω s).state
      ∧ ∀ c, .localConnectivity c
          ∈ (planOf (startRound2IfPossible (d.env (b, 0)) ω s).state).map entryOf
        ↔ .localConnectivity c ∈ (planOf s).map entryOf := by
  have hleader : (d.env (b, 0)).conf.sLid = 0 := rfl
  have hsame : startRound2IfPossible (d.env (b, 0)) ω s = .ok s →
      PlanOk d b (startRound2IfPossible (d.env (b, 0)) ω s).state
        ∧ ∀ c, .localConnectivity c
            ∈ (planOf (startRound2IfPossible (d.env (b, 0)) ω s).state).map entryOf
          ↔ .localConnectivity c ∈ (planOf s).map entryOf := fun heq => by
    rw [heq]
    exact ⟨h, fun _ => Iff.rfl⟩
  cases hstatus : s.pRound2CurrentStatus with
  | some status => exact hsame (startRound2IfPossible_running hleader hstatus)
  | none =>
    by_cases hqueue : s.pLeaderRound2PendingPreprepareRaw = []
    · cases hvalue : canStartRound2Value (d.env (b, 0)) s with
      | false => exact hsame (startRound2IfPossible_idle hleader hvalue)
      | true =>
        have hstart := startRound2IfPossible_client (ω := ω) hleader hstatus hqueue hvalue
        unfold sendClientPreprepare at hstart
        rw [sendPreprepare_eq] at hstart
        rw [hstart] at hshort ⊢
        have hissued : ∀ p s, issuedOf (afterIssue (d.env (b, 0)) p s).history
            = issuedOf s.history ++ [commonParts s p] := fun p s => by
          unfold afterIssue
          rw [issuedOf_append]
          rfl
        rw [RCanopus.Outcome.state_ok, hissued, List.length_append, List.length_singleton] at hshort
        have hle : (cyclesOf s.history).length ≤ _ := length_cyclesOf
        obtain ⟨hok, c, hplan⟩ := h.issue_client (afterIssue (d.env (b, 0))
            (clientPreprepare d.host (d.conf.ofSL b 0) s.leaderRound2NextRcanopusCycle
              s.leaderEnvoysRr)
            { s with
              pRound2CurrentStatus := some .waitingForPreprepare
              leaderRound2NextRcanopusCycle := s.leaderRound2NextRcanopusCycle + 1
              leaderBatchProcessed := s.leaderBatchProcessed + 1
              leaderEnvoysRr := (envoyRoundRobin (d.conf.numSL b)
                (round3ParticipantsNum (d.conf.ofSL b 0)).toNat s.leaderEnvoysRr).2 })
          (Nat.lt_of_le_of_lt (Nat.add_le_add_right hle 1) hshort)
          (numbered_commonParts _) hqueue (hissued _ _) hqueue rfl rfl
        refine ⟨hok, fun c' => ?_⟩
        refine (Iff.of_eq (congrArg (Entry.localConnectivity c' ∈ ·) hplan)).trans ?_
        rw [List.mem_append, List.mem_singleton]
        simp
    · obtain ⟨p, hp, hstart⟩ := startRound2IfPossible_pending (ω := ω) hleader hstatus hqueue
        fun p hp => (h.queued p hp).2.1
      rw [sendPreprepare_eq] at hstart
      rw [hstart]
      obtain ⟨hok, hperm⟩ := h.issue_pending (afterIssue (d.env (b, 0)) p
        { s with
          pRound2CurrentStatus := some .waitingForPreprepare
          pLeaderRound2PendingPreprepareRaw := s.pLeaderRound2PendingPreprepareRaw.eraseIdx
            (topIndex ω s.pLeaderRound2PendingPreprepareRaw) }) hp (numbered_commonParts p)
        (by
          unfold afterIssue
          rw [issuedOf_append]
          rfl) rfl rfl rfl
      exact ⟨hok, fun c => hperm.mem_iff⟩

end Plan

end RCanopus.Baseline
