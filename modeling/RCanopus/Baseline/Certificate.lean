import RCanopus.Baseline.Round3Run
import RCanopus.Results

/-!
# The certificate of a cycle

A leader ends a cycle after the leaders of all BGs have committed the local connectivity and have
sent a partial commit to the collector that the Preprepare names. For a cycle there is one
Preprepare and one full commit at most.
-/

namespace RCanopus.Baseline

open Baseline.Cluster

variable {d : Deployment} {σ σ' : Cluster} {x y z : Peer} {c : UInt16} {g g' : Progress}

/-! ## What was sent for a cycle -/

def Event.preprepareFor (c : UInt16) : Event → Option MessageRound3PreprepareBaseline
  | .sentPreprepare m => if m.cycle = c then some m else none
  | _ => none

/-- A partial commit with the BG of the leader that it was sent to. -/
def Event.partialCommitFor (c : UInt16) :
    Event → Option (Nat × MessageRound3PartialCommitBaseline)
  | .sentPartialCommit collector m => if m.cycle = c then some (collector, m) else none
  | _ => none

def Event.fullCommitFor (c : UInt16) : Event → Option MessageRound3FullCommitBaseline
  | .sentFullCommit m => if m.cycle = c then some m else none
  | _ => none

/-- A call of `round3_committed`. -/
def Event.commitOf (c : UInt16) : Event → Option UInt16
  | .round3Committed c' => if c' = c then some c' else none
  | _ => none

/-- The Preprepares for a cycle that an SL has sent. -/
def sentPreprepares (σ : Cluster) (c : UInt16) (y : Peer) : List MessageRound3PreprepareBaseline :=
  (σ y).sl.history.filterMap (Event.preprepareFor c)

def sentPartialCommits (σ : Cluster) (c : UInt16) (y : Peer) :
    List (Nat × MessageRound3PartialCommitBaseline) :=
  (σ y).sl.history.filterMap (Event.partialCommitFor c)

def sentFullCommits (σ : Cluster) (c : UInt16) (y : Peer) : List MessageRound3FullCommitBaseline :=
  (σ y).sl.history.filterMap (Event.fullCommitFor c)

/-- The calls of `round3_committed` for a cycle. -/
def round3Commits (σ : Cluster) (c : UInt16) (y : Peer) : List UInt16 :=
  (σ y).sl.history.filterMap (Event.commitOf c)

/-! ## What the marks tell -/

/-- What is filtered from the history is filtered from the marks of the cycle. -/
theorem map_filterMap_events {α β : Type} {f : Event → Option α} {h : α → β}
    {mark : Mark → Option β}
    (hf : ∀ ev : Event, (f ev).map h = if ev.cycle = some c then ev.mark.bind mark else none)
    (events : List Event) : (events.filterMap f).map h
      = (marks (events.filter fun ev => ev.cycle = some c)).filterMap mark := by
  unfold marks
  rw [List.map_filterMap, List.filterMap_filterMap, List.filterMap_filter]
  refine congrArg (List.filterMap · events) (funext fun ev => ?_)
  simp only [hf, decide_eq_true_eq]

namespace Mark

def collectorOfPreprepare : Mark → Option Nat
  | .proposed collector => some collector
  | _ => none

def collectorOfPartialCommit : Mark → Option Nat
  | .voted collector => some collector
  | _ => none

def fullCommit : Mark → Option Unit
  | .closed => some ()
  | _ => none

def commit : Mark → Option Unit
  | .committed => some ()
  | _ => none

end Mark

theorem filterMap_if {α β : Type} {p : Prop} [Decidable p] {a : α} (f : α → Option β) :
    (if p then [a] else []).filterMap f = if p then (f a).toList else [] := by
  split
  · cases h : f a <;> simp [h]
  · rfl

theorem Progress.filterMap_marks {β : Type} {numBG : Nat} (f : Mark → Option β) :
    (g.marks numBG y).filterMap f
      = (if (g.stage y).Connected numBG then (f .connected).toList else [])
        ++ (if y = (0, 0) ∧ 0 < g.last.len then (f (.proposed g.collector)).toList else [])
        ++ (if y.2 = 0 ∧ y.1 < numBG ∧ 0 < g.last.acc y.1 then (f (.voted g.collector)).toList
          else [])
        ++ (if y = (g.collector, 0) ∧ 0 < g.last.closed then (f .closed).toList else [])
        ++ if g.stage y = .done then (f .committed).toList else [] := by
  unfold Progress.marks
  simp only [List.filterMap_append, filterMap_if]

section Marks

variable (hg : CycleOk d σ c g)

include hg

/-- What is filtered from the history of an SL is filtered from its marks. -/
theorem CycleOk.map_filterMap {α β : Type} {f : Event → Option α} {h : α → β}
    (mark : Mark → Option β)
    (hf : ∀ ev : Event, (f ev).map h = if ev.cycle = some c then ev.mark.bind mark else none) :
    ((σ y).sl.history.filterMap f).map h = (g.marks d.conf.numBG y).filterMap mark :=
  (map_filterMap_events hf _).trans (congrArg _ (hg.sl y).marks)

theorem CycleOk.sentPreprepares_eq : (sentPreprepares σ c y).map (·.collectorBGid.toNat)
    = if y = (0, 0) ∧ 0 < g.last.len then [g.collector] else [] := by
  refine (hg.map_filterMap Mark.collectorOfPreprepare fun ev => ?_).trans ?_
  · cases ev <;> simp [Event.preprepareFor, Event.cycle, Event.mark, Mark.collectorOfPreprepare]
  · rw [Progress.filterMap_marks]
    simp [Mark.collectorOfPreprepare]

theorem CycleOk.sentPartialCommits_eq : (sentPartialCommits σ c y).map Prod.fst
    = if y.2 = 0 ∧ y.1 < d.conf.numBG ∧ 0 < g.last.acc y.1 then [g.collector] else [] := by
  refine (hg.map_filterMap Mark.collectorOfPartialCommit fun ev => ?_).trans ?_
  · cases ev <;> simp [Event.partialCommitFor, Event.cycle, Event.mark,
      Mark.collectorOfPartialCommit]
  · rw [Progress.filterMap_marks]
    simp [Mark.collectorOfPartialCommit]

theorem CycleOk.length_sentFullCommits : (sentFullCommits σ c y).length
    = if y = (g.collector, 0) ∧ 0 < g.last.closed then 1 else 0 := by
  have hmap : (sentFullCommits σ c y).map (fun _ => ()) = _ :=
    hg.map_filterMap Mark.fullCommit fun ev => by
      cases ev <;> simp [Event.fullCommitFor, Event.cycle, Event.mark, Mark.fullCommit]
  rw [← List.length_map, hmap, Progress.filterMap_marks]
  simp only [Mark.fullCommit, Option.toList_none, Option.toList_some, ite_self, List.nil_append,
    List.append_nil]
  split <;> rfl

theorem CycleOk.length_round3Commits : (round3Commits σ c y).length
    = if g.stage y = .done then 1 else 0 := by
  have hmap : (round3Commits σ c y).map (fun _ => ()) = _ :=
    hg.map_filterMap Mark.commit fun ev => by
      cases ev <;> simp [Event.commitOf, Event.cycle, Event.mark, Mark.commit]
  rw [← List.length_map, hmap, Progress.filterMap_marks]
  simp only [Mark.commit, Option.toList_none, Option.toList_some, ite_self, List.nil_append]
  split <;> rfl

theorem CycleOk.mem_committedConnectivity :
    .committedConnectivity c ∈ (σ y).sl.history ↔ (g.stage y).Connected d.conf.numBG := by
  have hmarks : marks (viewAt σ c y).events = _ := (hg.sl y).marks
  have hmem : .committedConnectivity c ∈ (σ y).sl.history
      ↔ Mark.connected ∈ marks (viewAt σ c y).events := by
    unfold marks
    rw [List.mem_filterMap]
    constructor
    · exact fun h => ⟨_, List.mem_filter.mpr ⟨h, decide_eq_true rfl⟩, rfl⟩
    · rintro ⟨ev, hev, hmark⟩
      obtain ⟨hev, hcycle⟩ := List.mem_filter.mp hev
      cases ev <;> simp [Event.mark] at hmark
      rwa [Option.some.inj (of_decide_eq_true hcycle)] at hev
  rw [hmem, hmarks]
  unfold Progress.marks
  by_cases h : (g.stage y).Connected d.conf.numBG
  · simp [h]
  · simp [h]

end Marks

/-! ## Certificates -/

/-- What the leaders have done for cycle `c` that was opened with the Preprepare `m`. -/
structure Certificate (d : Deployment) (σ : Cluster) (c : UInt16)
    (m : MessageRound3PreprepareBaseline) : Prop where
  proposed : sentPreprepares σ c (0, 0) = [m]
  collector : m.collectorBGid.toNat < d.conf.numBG
  connected : ∀ A < d.conf.numBG, .committedConnectivity c ∈ (σ (A, 0)).sl.history
  voted : ∀ A < d.conf.numBG, ∃ vote, sentPartialCommits σ c (A, 0)
    = [(m.collectorBGid.toNat, vote)]

/-- At most one SL has such a message, and has one. -/
def AtMostOne {α : Type} (l : Peer → List α) : Prop :=
  (∀ y, (l y).length ≤ 1) ∧ ∀ y z, l y ≠ [] → l z ≠ [] → y = z

theorem atMostOne_of_length {α : Type} {l : Peer → List α} {x : Peer} {p : Prop} [Decidable p]
    (h : ∀ y, (l y).length = if y = x ∧ p then 1 else 0) : AtMostOne l := by
  have hnil : ∀ y, l y ≠ [] → y = x := fun y hy => by
    by_contra hne
    have hlen := h y
    rw [if_neg fun hc => hne hc.1] at hlen
    exact hy (List.length_eq_zero_iff.mp hlen)
  refine ⟨fun y => ?_, fun y z hy hz => (hnil y hy).trans (hnil z hz).symm⟩
  rw [h]
  split <;> omega

/-- A cycle that is closed has its certificate. -/
theorem CycleOk.certificate (hg : CycleOk d σ c g) (hn : 0 < d.conf.numBG)
    (hclosed : 0 < g.last.closed) : ∃ m, Certificate d σ c m := by
  have hacc : ∀ A < d.conf.numBG, 0 < g.last.acc A := fun A hA =>
    Nat.lt_of_lt_of_le hclosed (hg.ok.last.closed_le_acc A hA)
  have hlen : 0 < g.last.len := Nat.lt_of_lt_of_le (hacc 0 hn) (hg.ok.last.acc_le_len 0 hn)
  have hproposed : (sentPreprepares σ c (0, 0)).map (·.collectorBGid.toNat) = [g.collector] := by
    rw [hg.sentPreprepares_eq, if_pos ⟨rfl, hlen⟩]
  obtain ⟨m, hm, hcollector⟩ := List.map_eq_singleton_iff.mp hproposed
  refine ⟨m, hm, ?_, fun A hA => ?_, fun A hA => ?_⟩
  · rw [hcollector]
    exact hg.ok.collector hlen
  · exact hg.mem_committedConnectivity.mpr (hg.ok.acc A hA (hacc A hA))
  · have hvoted := hg.sentPartialCommits_eq (y := (A, 0))
    rw [if_pos ⟨rfl, hA, hacc A hA⟩] at hvoted
    obtain ⟨⟨collector, vote⟩, hvote, rfl⟩ := List.map_eq_singleton_iff.mp hvoted
    exact ⟨vote, by rw [hvote, hcollector]⟩

/-- With several BGs a leader ends a cycle only after it was closed. -/
theorem Progress.Next.closed_of_done {numBG b : Nat} (h : Progress.Next numBG x g g')
    (hN : numBG ≠ 1) (hs : g.stage (b, 0) ≠ .done) (hs' : g'.stage (b, 0) = .done) :
    0 < g.last.closed := by
  cases h with
  | stay => exact absurd hs' hs
  | setToken y A t => exact absurd hs' hs
  | accept => exact absurd hs' hs
  | count => exact absurd hs' hs
  | start =>
    rw [Progress.start_stage, if_neg hN] at hs'
    split at hs'
    · exact absurd hs' (by simp)
    · exact absurd hs' hs
  | take =>
    rw [Progress.take_stage] at hs'
    split at hs'
    · exact absurd hs' (by simp)
    · exact absurd hs' hs
  | connect =>
    rw [Progress.connect_stage] at hs'
    split at hs'
    · next hx =>
      rw [← hx] at hs'
      exact absurd hs' (by simp)
    · exact absurd hs' hs
  | finish _ _ hc => exact Nat.zero_lt_of_lt hc

/--
**The certificate of a cycle.** Over all runs with at least two BGs: when a leader calls
`round3_committed` for a cycle, the leaders of all BGs have committed the local connectivity and
each has sent one partial commit, to the collector of the one Preprepare. There are never two
Preprepares or two full commits for a cycle, and nobody ends a cycle twice.
-/
theorem commit_certified (hfits : d.conf.Fits) (hN : 2 ≤ d.conf.numBG) (hreach : Reachable d σ) :
    (∀ σ', Step d σ σ' → ∀ b < d.conf.numBG, ∀ c,
        (round3Commits σ c (b, 0)).length < (round3Commits σ' c (b, 0)).length →
        ∃ m, Certificate d σ c m)
      ∧ ∀ c, AtMostOne (sentPreprepares σ c) ∧ AtMostOne (sentFullCommits σ c)
        ∧ ∀ y, (round3Commits σ c y).length ≤ 1 := by
  have hn : 0 < d.conf.numBG := Nat.lt_of_lt_of_le Nat.two_pos hN
  have hcore := coreOk_of_reachable hfits hn hreach
  refine ⟨fun σ' hs b hb c hmore => ?_, fun c => ?_⟩
  · obtain ⟨x, hnext⟩ := cyclesNext_step hfits hn hreach hs
    obtain ⟨g, hg⟩ := hcore.cycles c
    obtain ⟨g', hg', hmove⟩ := hnext c g hg
    rw [hg.length_round3Commits, hg'.length_round3Commits] at hmore
    have hdone : g.stage (b, 0) ≠ .done := fun hdone => by
      rw [if_pos hdone] at hmore
      split at hmore <;> omega
    have hdone' : g'.stage (b, 0) = .done := by
      by_contra hdone'
      rw [if_neg hdone'] at hmore
      omega
    exact hg.certificate hn (hmove.closed_of_done (by omega) hdone hdone')
  · obtain ⟨g, hg⟩ := hcore.cycles c
    refine ⟨atMostOne_of_length (x := (0, 0)) (p := 0 < g.last.len) fun y => ?_,
      atMostOne_of_length fun y => hg.length_sentFullCommits, fun y => ?_⟩
    · rw [← List.length_map (·.collectorBGid.toNat), hg.sentPreprepares_eq]
      split <;> rfl
    · rw [hg.length_round3Commits]
      split <;> omega

/-! ## A run of two BGs -/

/-- One SL and two. -/
def oneAndTwo : Deployment where
  conf :=
    { rgBGInfo :=
        [{ failure := 0, addr := [{ sinAddr := 0x7F000001, sinPort := 7000 }] },
         { failure := 1
           addr :=
            [{ sinAddr := 0x7F000001, sinPort := 7001 },
             { sinAddr := 0x7F000001, sinPort := 7002 }] }]
      bGid := 0
      sLid := 0
      globalFailures := 0 }
  host := .little
  debugFailfast := true

theorem valid_oneAndTwo : oneAndTwo.conf.Valid := by
  have hsl : ∀ b, oneAndTwo.conf.numSL b = if b = 0 then 1 else if b = 1 then 2 else 0
    | 0 => rfl
    | 1 => rfl
    | b + 2 => Config.numSL_eq_zero (Nat.le_add_left 2 b)
  refine ⟨by decide, fun b => ?_, ?_, ?_, by decide⟩
  · rw [hsl]
    split
    · decide
    · split <;> decide
  · decide
  · decide

/-- A batch from the client of SL 1 of the second BG. -/
def sendBatch (content : List UInt8) (σ : Cluster) : Cluster :=
  send (1, 1) [{ upPeers := [some (1, 0)],
                 pMessage := .common (.round2Request (mockClientRequest 1 content)) }] σ

theorem run_clientTick {content : List UInt8} {labels : List Label}
    (h : content.length = requestBatchSize) :
    run oneAndTwo σ (.clientTick (1, 1) content :: labels)
      = run oneAndTwo (sendBatch content σ) labels := by
  have hstep : step oneAndTwo σ (.clientTick (1, 1) content) = some (sendBatch content σ) :=
    if_pos ⟨by decide, by decide, h⟩
  unfold run
  rw [hstep, Option.bind_some]
  cases labels <;> rfl

/-- A message of the inbox of an SL is dispatched; the draw is for all other BGs. -/
def turn (x : Peer) (i draw : Nat) : Label :=
  .receive x i
    { engine := { draw := fun _ => draw, top := 0 }, collector := 0, memory := fun _ => 0 }

/-- What is drawn for a message that is tried again. -/
def noDraw : Choice :=
  { engine := { draw := fun _ => 0, top := 0 }, collector := 0, memory := fun _ => 0 }

/--
A cycle of two BGs up to the full commit of the last round, which the second leader gets last.
-/
def cycleRun : List Label :=
  let single := turn (0, 0) 0 0
  let passing := turn (0, 0) 1 0
  let leader := turn (1, 0) 0 0
  let other := turn (1, 0) 1 0
  let second := turn (1, 1) 0 0
  [.leaderTick 0, .pipeReadable 0, .leaderTick 1] ++
  [single, single, single, single, leader, other, second, other, other, other, second, single,
    leader, passing, leader, passing, passing, passing, leader, second, second, second, other,
    passing, leader, passing, passing, passing]

/-- The second leader ends the cycle with the last step, when all leaders have voted. -/
theorem oneAndTwo_certificate : ∃ σ σ', Reachable oneAndTwo σ ∧ Step oneAndTwo σ σ'
    ∧ (round3Commits σ 1 (1, 0)).length < (round3Commits σ' 1 (1, 0)).length
    ∧ ∃ m, Certificate oneAndTwo σ 1 m := by
  have hbatch : zeroBatch.length = requestBatchSize := List.length_replicate
  have hrun : ((run oneAndTwo (sendBatch zeroBatch init) cycleRun).bind fun σ =>
      (step oneAndTwo σ (turn (1, 0) 0 0)).map fun σ' =>
        ((round3Commits σ 1 (1, 0)).length, (round3Commits σ' 1 (1, 0)).length))
      = some (0, 1) := by decide +kernel
  obtain ⟨σ, hσ, hlast⟩ := Option.bind_eq_some_iff.mp hrun
  obtain ⟨σ', hσ', hlengths⟩ := Option.map_eq_some_iff.mp hlast
  have hreach : Reachable oneAndTwo σ := by
    have hlabels : run oneAndTwo init (.clientTick (1, 1) zeroBatch :: cycleRun) = some σ := by
      rw [run_clientTick hbatch, hσ]
    exact reachable_of_run .refl hlabels
  have hmore : (round3Commits σ 1 (1, 0)).length < (round3Commits σ' 1 (1, 0)).length := by
    rw [(Prod.mk.inj hlengths).1, (Prod.mk.inj hlengths).2]
    exact Nat.one_pos
  have hstep : Step oneAndTwo σ σ' := ⟨_, hσ'⟩
  exact ⟨σ, σ', hreach, hstep, hmore,
    (commit_certified valid_oneAndTwo.fits (by decide) hreach).1 σ' hstep 1 (by decide) 1 hmore⟩

end RCanopus.Baseline
