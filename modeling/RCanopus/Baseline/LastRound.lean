import RCanopus.Baseline.Certificate

/-!
# Messages of the last round that come too early

A leader throws away a cycle that it does not know, with an exception. The first leader goes by one
answer of each BG, and any SL of a BG gives it, so the last round can reach a leader that has not
committed the result of its own BG. This is the only way in which the exception is thrown.
-/

namespace RCanopus.Baseline

open Baseline.Cluster

variable {d : Deployment} {σ σ' : Cluster} {x y z : Peer} {e : QueueElement} {ω : Choice}
  {before : Node} {c : UInt16} {g : Progress} {status : CycleStatus} {l : Label}

/-! ## Steps of a run -/

/-- Every step of a run is in `P`. -/
def Throughout (d : Deployment) (P : Cluster → Label → Prop) (σ : Cluster) : List Label → Prop
  | [] => True
  | l :: rest => ∀ σ' ∈ step d σ l, P σ l ∧ Throughout d P σ' rest

/-- The steps of a run are checked one after the other. -/
def checkThroughout (d : Deployment) (check : Cluster → Label → Bool) (σ : Cluster) :
    List Label → Bool
  | [] => true
  | l :: rest =>
    match step d σ l with
    | none => true
    | some σ' => if check σ l then checkThroughout d check σ' rest else false

theorem throughout_of_check {P : Cluster → Label → Prop} {check : Cluster → Label → Bool}
    {labels : List Label} (hcheck : ∀ σ l, check σ l = true → P σ l)
    (h : checkThroughout d check σ labels = true) : Throughout d P σ labels := by
  induction labels generalizing σ with
  | nil => trivial
  | cons l rest ih =>
    intro σ' hσ'
    have hstep : step d σ l = some σ' := hσ'
    unfold checkThroughout at h
    rw [hstep] at h
    dsimp only at h
    split at h
    · next hl => exact ⟨hcheck σ l hl, ih h⟩
    · exact absurd h (by simp)

/-- Two properties that agree on all reachable steps agree on all runs. -/
theorem throughout_congr {P Q : Cluster → Label → Prop}
    (h : ∀ σ l σ', Reachable d σ → step d σ l = some σ' → (P σ l ↔ Q σ l))
    (hreach : Reachable d σ) (labels : List Label) :
    Throughout d P σ labels ↔ Throughout d Q σ labels := by
  induction labels generalizing σ with
  | nil => exact Iff.rfl
  | cons l rest ih =>
    refine forall₂_congr fun σ' hσ' => ?_
    have hstep : step d σ l = some σ' := hσ'
    exact and_congr (h σ l σ' hreach hstep) (ih (hreach.step ⟨l, hstep⟩))

theorem throughout_last {P : Cluster → Label → Prop} {labels : List Label} {τ : Cluster}
    (h : Throughout d P σ (labels ++ [l])) (hrun : run d σ labels = some τ)
    (hstep : step d τ l = some σ') : P τ l := by
  induction labels generalizing σ with
  | nil =>
    cases hrun
    exact (h σ' hstep).1
  | cons l' labels ih =>
    obtain ⟨σ₁, hl, hrest⟩ := Option.bind_eq_some_iff.mp hrun
    exact ih (h σ₁ hl).2 hrest

/-- A call of the dispatcher. -/
structure Call where
  sl : Peer
  message : Message
  outcome : Outcome

/-- The exception that a handler throws. -/
def Outcome.exception : Outcome → Option Exception
  | .ok _ => none
  | .thrown ex _ => some ex

/-- The call of the dispatcher in a step. -/
def call (d : Deployment) (σ : Cluster) : Label → Option Call
  | .receive x i ω => (σ x).inbox[i]?.map fun e =>
    { sl := x, message := e.pMessage, outcome := dispatcherRound2 (d.env x) ω e (σ x).sl }
  | .retry x ω => (σ x).sl.juggleQueue.head?.map fun e =>
    { sl := x
      message := e.pMessage
      outcome := dispatcherRound2 (d.env x) ω e
        { (σ x).sl with juggleQueue := (σ x).sl.juggleQueue.tail } }
  | _ => none

theorem dispatch_of_call {k : Call} (hstep : step d σ l = some σ') (hk : call d σ l = some k) :
    ∃ e ω before, Dispatch d σ σ' k.sl e ω before ∧ e.pMessage = k.message
      ∧ dispatcherRound2 (d.env k.sl) ω e before.sl = k.outcome := by
  cases l with
  | receive x i ω =>
    obtain ⟨e, before, hd, he, hsl, -⟩ := receive_dispatch hstep
    have hmap : (σ x).inbox[i]?.map _ = some k := hk
    rw [he, Option.map_some, Option.some.injEq] at hmap
    subst hmap
    exact ⟨e, ω, before, hd, rfl, by rw [hsl]⟩
  | retry x ω =>
    obtain ⟨e, before, hd, he, -⟩ := retry_dispatch hstep
    have hmap : (σ x).sl.juggleQueue.head?.map _ = some k := hk
    rw [he, List.head?_cons, Option.map_some, Option.some.injEq, List.tail_cons, ← hd.sl_eq]
      at hmap
    subst hmap
    exact ⟨e, ω, before, hd, rfl, rfl⟩
  | clientTick x content => exact absurd hk (by simp [call])
  | leaderTick bg => exact absurd hk (by simp [call])
  | pipeReadable bg => exact absurd hk (by simp [call])

/-! ## Cycles that are not in round 3 -/

/-- The cycle of a message that leaders send each other. -/
def Message.lastRoundCycle : Message → Option UInt16
  | .round3Preprepare m => some m.cycle
  | .round3PartialCommit m => some m.cycle
  | .round3FullCommit m => some m.cycle
  | .common _ => none

/-- The cycle of a Preprepare or a partial commit that leaders send each other. -/
def Message.openCycle : Message → Option UInt16
  | .round3Preprepare m => some m.cycle
  | .round3PartialCommit m => some m.cycle
  | _ => none

theorem Message.lastRoundCycle_eq_some {m : Message} : m.lastRoundCycle = some c
    ↔ m.openCycle = some c ∨ ∃ f, m = .round3FullCommit f ∧ f.cycle = c := by
  cases m <;> simp [Message.lastRoundCycle, Message.openCycle]

/-- The cycle of a message of the last round is in `mapRound3Status`, and nothing is thrown. -/
def CycleFound (d : Deployment) (σ : Cluster) (l : Label) : Prop :=
  ∀ k ∈ call d σ l, ∀ c ∈ k.message.lastRoundCycle,
    (σ k.sl).sl.mapRound3Status c ≠ none ∧ k.outcome.exception ≠ some .cycleNotInRound3

/--
A leader that dispatches a Preprepare or a partial commit of the last round has committed the
client Preprepare of its own BG for the cycle.
-/
def ResultCommitted (d : Deployment) (σ : Cluster) (l : Label) : Prop :=
  ∀ k ∈ call d σ l, ∀ c ∈ k.message.openCycle,
    .client c ∈ (committedOf (σ k.sl).sl.common.history).map entryOf

/-- `ResultCommitted` of one step, computed. -/
def checkCommitted (d : Deployment) (σ : Cluster) (l : Label) : Bool :=
  match call d σ l with
  | none => true
  | some k =>
    match k.message.openCycle with
    | none => true
    | some c => (committedOf (σ k.sl).sl.common.history).any fun p => entryOf p = .client c

theorem resultCommitted_of_check (h : checkCommitted d σ l = true) : ResultCommitted d σ l := by
  intro k hk c hc
  have hcall : call d σ l = some k := hk
  have hcycle : k.message.openCycle = some c := hc
  unfold checkCommitted at h
  rw [hcall] at h
  dsimp only at h
  rw [hcycle] at h
  obtain ⟨p, hp, hentry⟩ := List.any_eq_true.mp h
  exact List.mem_map.mpr ⟨p, hp, of_decide_eq_true hentry⟩

/-- No message of the last round waits at a leader that has ended the cycle. -/
theorem CycleOk.not_done (hg : CycleOk d σ c g) (hN : d.conf.numBG ≠ 1)
    (hd : Dispatch d σ σ' x e ω before) (hcycle : e.pMessage.lastRoundCycle = some c) :
    g.stage x ≠ .done := by
  have hcom : x.2 = 0 ∧ g.last.com x.1 = 0 := by
    have hx := hd.has.1
    have hacc := hg.ok.last.com_le_acc x.1 hx
    have hlen := hg.ok.len_le
    have hclosed := hg.ok.last.com_le_closed x.1 hx
    have hone := hg.ok.closed_le hx
    cases hm : e.pMessage with
    | common m =>
      rw [hm] at hcycle
      exact absurd hcycle (by simp [Message.lastRoundCycle])
    | round3Preprepare m =>
      rw [hm] at hcycle
      obtain ⟨h0, -, hlt⟩ : x.2 = 0 ∧ x.1 < d.conf.numBG ∧ g.last.acc x.1 < g.last.len :=
        hg.holds (k := .preprepare) hd.mem_pool (by rw [hm, ← Option.some.inj hcycle]; rfl)
      exact ⟨h0, by omega⟩
    | round3PartialCommit m =>
      rw [hm] at hcycle
      obtain ⟨hx0, hb, hlt, -⟩ : x = (g.collector, 0) ∧ m.sender.toNat < d.conf.numBG
          ∧ g.last.closed < g.last.acc m.sender.toNat
          ∧ m.sender.toNat ∉ g.last.votes g.last.closed :=
        hg.holds (k := .partialCommit m.sender.toNat) hd.mem_pool
          (by rw [hm, ← Option.some.inj hcycle]; rfl)
      have := hg.ok.acc_le hb
      exact ⟨by rw [hx0], by omega⟩
    | round3FullCommit m =>
      rw [hm] at hcycle
      obtain ⟨h0, -, hlt⟩ : x.2 = 0 ∧ x.1 < d.conf.numBG ∧ g.last.com x.1 < g.last.closed :=
        hg.holds (k := .fullCommit) hd.mem_pool (by rw [hm, ← Option.some.inj hcycle]; rfl)
      exact ⟨h0, by omega⟩
  intro hs
  have hpos := (hg.ok.com x.1 hd.has.1).mpr ⟨by
    rw [show (x.1, 0) = x from Prod.ext rfl hcom.1.symm]
    exact hs, hN⟩
  rw [hcom.2] at hpos
  exact absurd hpos (Nat.lt_irrefl 0)

/-- A cycle has a status where the result of the own BG is committed and the cycle is not done. -/
theorem CycleOk.status_ne_none (hg : CycleOk d σ c g) (hN : d.conf.numBG ≠ 1)
    (hd : Dispatch d σ σ' x e ω before) (hcycle : e.pMessage.lastRoundCycle = some c) :
    (σ x).sl.mapRound3Status c ≠ none
      ↔ .client c ∈ (committedOf (σ x).sl.common.history).map entryOf := by
  have hcommon : (σ x).sl.common = before.sl.common := by rw [hd.sl_eq]
  have hnotDone := hg.not_done hN hd hcycle
  have hstatus : (viewAt σ c x).status = none ↔ g.expected d.conf.numBG x = none := by
    rw [← (hg.sl x).status]
    exact Option.map_eq_none_iff.symm
  have hview : (viewAt σ c x).status = (σ x).sl.mapRound3Status c := rfl
  rw [hcommon, hg.mem_entries hd rfl, mem_entries_client, ← hview, ne_eq, hstatus,
    Progress.expected_eq_none]
  simp [hnotDone]

/-- The handlers of the last round throw nothing where the cycle has a status. -/
theorem CoreOk.exception_ne (h : CoreOk d σ) (hd : Dispatch d σ σ' x e ω before)
    (hcycle : e.pMessage.lastRoundCycle = some c)
    (hsome : (σ x).sl.mapRound3Status c ≠ none) :
    (dispatcherRound2 (d.env x) ω e before.sl).exception ≠ some .cycleNotInRound3 := by
  obtain ⟨g, hg⟩ := h.cycles c
  obtain ⟨status, hstatus⟩ := Option.ne_none_iff_exists'.mp hsome
  have hstatus : before.sl.mapRound3Status c = some status := by
    rw [hd.sl_eq]
    exact hstatus
  by_cases hversion : e.pMessage.header.version ≠ versionLatest
  · unfold dispatcherRound2
    rw [if_pos hversion]
    simp [Outcome.exception]
  have hout : dispatcherRound2 (d.env x) ω e before.sl = _ := if_neg hversion
  suffices ∃ s, dispatcherRound2 (d.env x) ω e before.sl = .ok s by
    obtain ⟨s, hs⟩ := this
    rw [hs]
    simp [Outcome.exception]
  cases hm : e.pMessage with
  | common m =>
    rw [hm] at hcycle
    exact absurd hcycle (by simp [Message.lastRoundCycle])
  | round3Preprepare m =>
    rw [hm] at hcycle hout
    obtain rfl : m.cycle = c := Option.some.inj hcycle
    rcases hg.preprepare3_cases hd hstatus with ⟨-, hs⟩ | ⟨-, hs⟩
    · exact ⟨_, hout.trans hs⟩
    · exact ⟨_, hout.trans hs⟩
  | round3PartialCommit m =>
    rw [hm] at hcycle hout
    obtain rfl : m.cycle = c := Option.some.inj hcycle
    rcases hg.partialCommit3_cases hd hm hstatus with ⟨-, hs⟩ | ⟨-, hs⟩
    · exact ⟨_, hout.trans hs⟩
    · exact ⟨_, hout.trans hs⟩
  | round3FullCommit m =>
    rw [hm] at hcycle hout
    obtain rfl : m.cycle = c := Option.some.inj hcycle
    obtain ⟨-, -, -, status, hstatus, hstate⟩ := hg.closing hd hm
    exact ⟨_, hout.trans (fullCommit3_committed hstatus hstate)⟩

/-- A full commit of the last round never comes too early. -/
theorem CycleOk.committed_of_fullCommit {m : MessageRound3FullCommitBaseline}
    (hg : CycleOk d σ m.cycle g) (hd : Dispatch d σ σ' x e ω before)
    (hm : e.pMessage = .round3FullCommit m) :
    .client m.cycle ∈ (committedOf (σ x).sl.common.history).map entryOf := by
  have hcommon : (σ x).sl.common = before.sl.common := by rw [hd.sl_eq]
  obtain ⟨-, -, hstage, -⟩ := hg.closing hd hm
  rw [hcommon, hg.mem_entries hd rfl, mem_entries_client, hstage]
  simp

/-- A step finds its cycle exactly when the result of the own BG is committed. -/
theorem cycleFound_iff (hfits : d.conf.Fits) (hN : 2 ≤ d.conf.numBG) (hreach : Reachable d σ)
    (hstep : step d σ l = some σ') : CycleFound d σ l ↔ ResultCommitted d σ l := by
  have hcore := coreOk_of_reachable hfits (Nat.lt_of_lt_of_le Nat.two_pos hN) hreach
  refine forall₂_congr fun k hk => ?_
  obtain ⟨e, ω, before, hd, hm, hout⟩ := dispatch_of_call hstep hk
  rw [← hm, ← hout]
  have hiff : ∀ c, e.pMessage.lastRoundCycle = some c →
      ((σ k.sl).sl.mapRound3Status c ≠ none
          ∧ (dispatcherRound2 (d.env k.sl) ω e before.sl).exception ≠ some .cycleNotInRound3
        ↔ .client c ∈ (committedOf (σ k.sl).sl.common.history).map entryOf) := fun c hc => by
    obtain ⟨g, hg⟩ := hcore.cycles c
    rw [← hg.status_ne_none (by omega) hd hc]
    exact and_iff_left_of_imp (hcore.exception_ne hd hc)
  constructor
  · intro h c hc
    have hc' := Message.lastRoundCycle_eq_some.mpr (Or.inl hc)
    exact (hiff c hc').mp (h c hc')
  · intro h c hc
    refine (hiff c hc).mpr ?_
    rcases Message.lastRoundCycle_eq_some.mp hc with hopen | ⟨f, hf, rfl⟩
    · exact h c hopen
    · obtain ⟨g, hg⟩ := hcore.cycles f.cycle
      exact hg.committed_of_fullCommit hd hf

/--
**A message of the last round finds its cycle** in a run exactly when no leader gets a Preprepare or
a partial commit of the last round before it has committed the result of its own BG.
-/
theorem cycleFound_run (hfits : d.conf.Fits) (hN : 2 ≤ d.conf.numBG) (labels : List Label) :
    Throughout d (CycleFound d) init labels ↔ Throughout d (ResultCommitted d) init labels :=
  throughout_congr (fun _ _ _ hreach hstep => cycleFound_iff hfits hN hreach hstep) .refl labels

/-! ## Two runs -/

theorem throughout_clientTick {P : Cluster → Label → Prop} {content : List UInt8}
    {labels : List Label} (h : content.length = requestBatchSize) :
    Throughout oneAndTwo P σ (.clientTick (1, 1) content :: labels)
      ↔ P σ (.clientTick (1, 1) content)
        ∧ Throughout oneAndTwo P (sendBatch content σ) labels := by
  have hstep : step oneAndTwo σ (.clientTick (1, 1) content) = some (sendBatch content σ) :=
    if_pos ⟨by decide, by decide, h⟩
  show (∀ σ' ∈ step oneAndTwo σ _, _) ↔ _
  rw [hstep]
  simp

/-- In the run of a cycle that is not too fast every message of the last round finds the cycle. -/
theorem oneAndTwo_cycleFound : Throughout oneAndTwo (CycleFound oneAndTwo) init
    (.clientTick (1, 1) zeroBatch :: cycleRun) := by
  have hcheck : checkThroughout oneAndTwo (checkCommitted oneAndTwo)
      (sendBatch zeroBatch init) cycleRun = true := by decide +kernel
  have hcycle : Throughout oneAndTwo (ResultCommitted oneAndTwo) (sendBatch zeroBatch init)
      cycleRun := throughout_of_check (fun _ _ => resultCommitted_of_check) hcheck
  refine (cycleFound_run valid_oneAndTwo.fits (by decide) _).mpr
    ((throughout_clientTick List.length_replicate).mpr ⟨?_, hcycle⟩)
  exact fun k hk => absurd hk (by simp [call])

/--
The second BG is at the full commit of its second cycle, which SL 1 has and the leader has not. SL 1
answers the first BG, whose leader opens the last round. The messages of a link arrive in their
order; what comes from SL 1 to the leader of the second BG is slow.
-/
def fastRun : List Label :=
  let single := turn (0, 0) 0 1
  let leader := turn (1, 0) 0 0
  let passing := turn (1, 0) 1 0
  let second := turn (1, 1) 0 0
  [.leaderTick 0, .leaderTick 0, .pipeReadable 0, .leaderTick 1, .leaderTick 1, .pipeReadable 1] ++
  repeated [(5, leader), (1, second), (3, leader), (5, second), (10, single), (4, second),
    (12, single), (2, passing), (1, .retry (1, 0) noDraw)]

/-- The Preprepare of the last round comes to the leader of the second BG before the full commit. -/
theorem fastRun_cycleNotFound : ¬ ∀ d : Deployment, d.conf.Valid → 2 ≤ d.conf.numBG →
    ∀ labels, Throughout d (CycleFound d) init labels := by
  intro h
  have hbatch : zeroBatch.length = requestBatchSize := List.length_replicate
  have hrun : ((run oneAndTwo (sendBatch zeroBatch (sendBatch zeroBatch init)) fastRun).bind
      fun σ => (step oneAndTwo σ (turn (1, 0) 1 0)).bind fun _ =>
        (call oneAndTwo σ (turn (1, 0) 1 0)).map fun k =>
          (k.message.lastRoundCycle, (σ k.sl).sl.mapRound3Status 2 |>.isNone, k.outcome.exception))
      = some (some 2, true, some .cycleNotInRound3) := by decide +kernel
  obtain ⟨σ, hσ, hlast⟩ := Option.bind_eq_some_iff.mp hrun
  obtain ⟨σ', hσ', hcall⟩ := Option.bind_eq_some_iff.mp hlast
  obtain ⟨k, hk, hresult⟩ := Option.map_eq_some_iff.mp hcall
  rw [Prod.mk.injEq, Prod.mk.injEq] at hresult
  have hall := h oneAndTwo valid_oneAndTwo (by decide) (.clientTick (1, 1) zeroBatch
    :: .clientTick (1, 1) zeroBatch :: (fastRun ++ [turn (1, 0) 1 0]))
  rw [throughout_clientTick hbatch, throughout_clientTick hbatch] at hall
  have hfound := throughout_last hall.2.2 hσ hσ' k hk 2 hresult.1
  exact hfound.1 (Option.isNone_iff_eq_none.mp hresult.2.1)

end RCanopus.Baseline
