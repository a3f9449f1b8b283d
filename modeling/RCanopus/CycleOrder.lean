import RCanopus.CyclePhases

/-!
# The order in which cycles end

The client cycles of a BG enter round 3 in the order 1, 2, 3 and so on. They end in the order of the
log, which the answers of the other BGs decide: a later cycle may overtake an earlier one.
-/

namespace RCanopus

open Cluster Exchange

variable {d : Deployment} {σ : Cluster} {b i j : Nat} {c : UInt16} {x : Exchange}

/-! ## A later cycle overtakes -/

/-- Three SLs and one. -/
def threeAndOne : Deployment where
  conf :=
    { rgBGInfo :=
        [{ failure := 2
           addr :=
            [{ sinAddr := 0x7F000001, sinPort := 7000 },
             { sinAddr := 0x7F000001, sinPort := 7001 },
             { sinAddr := 0x7F000001, sinPort := 7002 }] },
         { failure := 0, addr := [{ sinAddr := 0x7F000001, sinPort := 7003 }] }]
      bGid := 0
      sLid := 0
      globalFailures := 0 }
  host := .little
  debugFailfast := true

theorem valid_threeAndOne : threeAndOne.conf.Valid := by
  have hsl : ∀ b, threeAndOne.conf.numSL b = if b = 0 then 3 else if b = 1 then 1 else 0
    | 0 => rfl
    | 1 => rfl
    | b + 2 => Config.numSL_eq_zero (Nat.le_add_left 2 b)
  refine ⟨by decide, fun b => ?_, ?_, ?_, by decide⟩
  · rw [hsl]
    split
    · decide
    · split <;> decide
  · decide
  · decide

/-- A batch of the client of an SL of the first BG. -/
def batchFrom (sl : Nat) (content : List UInt8) : QueueElement where
  upPeers := [some (0, 0)]
  pMessage := .round2Request (mockClientRequest sl content)

/-- Each SL of the first BG but the leader has sent two batches. -/
def fourBatches (content : List UInt8) : Cluster :=
  [1, 1, 2, 2].foldl (fun σ sl => send (0, sl) [batchFrom sl content] σ) init

theorem reachable_fourBatches {content : List UInt8} (h : content.length = requestBatchSize) :
    Reachable threeAndOne (fourBatches content) := by
  have hnext : ∀ (σ : Cluster) (sl : Nat), Reachable threeAndOne σ → sl < 3 ∧ sl ≠ 0 →
      Reachable threeAndOne (send (0, sl) [batchFrom sl content] σ) := fun σ sl hreach hsl =>
    hreach.step ⟨.clientTick (0, sl) content, if_pos ⟨⟨Nat.two_pos, hsl.1⟩, hsl.2, h⟩⟩
  exact hnext _ 2 (hnext _ 2 (hnext _ 1 (hnext _ 1 .refl (by decide)) (by decide)) (by decide))
    (by decide)

/--
The second BG draws SL 2 of the first one for cycle 1 and SL 0 for cycle 2, and the link to SL 2 is
slow. So the result of cycle 2 arrives first. The messages of a link arrive in their order.
-/
def slowLinkRun : List Label :=
  let leader := turn (0, 0) 0 0
  let second := turn (0, 1) 0 0
  -- the request for cycle 1 stays at the front
  let third := turn (0, 2) 1 0
  let single := turn (1, 0) 0 0
  let drawing := turn (1, 0) 0 2
  [.leaderTick 0, .leaderTick 0, .leaderTick 1, .leaderTick 1, .pipeReadable 0, .pipeReadable 1] ++
  repeated [(4, drawing), (3, single), (8, leader), (1, second), (1, leader), (1, third),
    (3, leader), (2, third), (6, second), (1, third), (1, leader), (9, single), (3, leader),
    (3, third), (2, second), (2, third), (1, second), (4, leader), (1, second), (1, leader),
    (1, third), (3, leader), (2, third), (6, second), (1, third), (2, leader), (3, third),
    (1, second), (2, third), (1, second), (1, leader), (6, single), (1, leader), (1, second),
    (3, leader), (1, second), (1, leader), (1, third), (2, leader), (1, third), (1, second),
    (5, single)]

/-- Cycle 2 may be the first to end, so the cycles do not end in the order of their numbers. -/
theorem cycles_overtake : ¬ ∀ (d : Deployment) (σ : Cluster) (y : Peer), d.conf.Valid →
    Reachable d σ → d.Has y →
    closedOf (σ y).sl.history = (List.range (closedOf (σ y).sl.history).length).map
      fun k => UInt16.ofNat (k + 1) := by
  intro h
  have hbatch : zeroBatch.length = requestBatchSize := List.length_replicate
  have hrun : (run threeAndOne (fourBatches zeroBatch) slowLinkRun).map
      (fun σ => closedOf (σ (1, 0)).sl.history) = some [2] := by decide +kernel
  obtain ⟨σ, hσ, hclosed⟩ := Option.map_eq_some_iff.mp hrun
  have hreach : Reachable threeAndOne σ := reachable_of_run (reachable_fourBatches hbatch) hσ
  have horder := h threeAndOne σ (1, 0) valid_threeAndOne hreach (by decide)
  rw [hclosed] at horder
  exact absurd horder (by decide)

/-! ## The order of the log -/

/-- The client cycles of a log in their order. -/
def enteredCycles (l : List Entry) : List UInt16 := l.filterMap clientCycle

/-- Different entries end different cycles. -/
theorem nodup_closed {numBG : Nat} {l : List Entry} (h : l.Nodup) :
    (l.filterMap (closedCycle numBG)).Nodup := by
  refine h.filterMap fun e e' c he he' => ?_
  rw [closedCycle_eq.mp (Option.mem_def.mp he), closedCycle_eq.mp (Option.mem_def.mp he')]

/-- A prefix of the numbers from 1 on. -/
theorem eq_range_of_prefix {l : List UInt16} {n : Nat}
    (h : l <+: (List.range n).map fun k => UInt16.ofNat (k + 1)) :
    l = (List.range l.length).map fun k => UInt16.ofNat (k + 1) := by
  have hle : l.length ≤ n := by
    have := h.length_le
    rwa [List.length_map, List.length_range] at this
  rw [List.prefix_iff_eq_take] at h
  rw [← List.map_take, List.take_range, Nat.min_eq_left hle] at h
  exact h

theorem mem_enteredCycles {l : List Entry} : c ∈ enteredCycles l ↔ .client c ∈ l := by
  unfold enteredCycles
  rw [List.mem_filterMap]
  constructor
  · rintro ⟨e, he, hc⟩
    cases e <;> simp [clientCycle] at hc
    exact hc ▸ he
  · exact fun h => ⟨_, h, rfl⟩

/-- What a single BG ends is what it enters. -/
theorem closed_single {l : List Entry} : l.filterMap (closedCycle 1) = enteredCycles l := by
  refine List.filterMap_congr fun e _ => ?_
  cases e <;> rfl

/-- What ends was entered. -/
theorem Exchange.Inv.entered_of_closed {numBG : Nat} (h : x.Inv d.layout)
    (hi : i < d.conf.numSL b)
    (hc : c ∈ (x.committed (b, i)).filterMap (closedCycle numBG)) :
    .client c ∈ x.committed (b, i) := by
  rw [mem_closed] at hc
  unfold closer at hc
  split at hc
  · exact hc
  · have hmember := h.needs_committed hi hc (.fullMembership c)
    have hconn := h.needs_committed hi hmember (.localMembership c)
    exact h.needs_committed hi hconn (.localConnectivity c)

/--
**The order of the cycles.** The cycles enter round 3 at an SL in the order of their numbers,
without a gap. Each is in round 3 until it is passed to `round3_committed`, once; the SLs of a BG
pass them in the same order; and if the BG is the only one, that is the order of the numbers.
-/
theorem cycle_order (hfits : d.conf.Fits) (hreach : Reachable d σ) (hy : d.Has (b, i)) :
    closedOf (σ (b, i)).sl.history = (σ (b, i)).sl.pStorage
      ∧ enteredCycles (entries σ (b, i))
        = (List.range (enteredCycles (entries σ (b, i))).length).map
          (fun k => UInt16.ofNat (k + 1))
      ∧ (∀ c, c ∈ enteredCycles (entries σ (b, i))
        ↔ c ∈ (σ (b, i)).sl.pStorage ∨ ((σ (b, i)).sl.mapRound3Status c).isSome = true)
      ∧ (σ (b, i)).sl.pStorage.Nodup
      ∧ (∀ j, d.Has (b, j) → (σ (b, i)).sl.pStorage <+: (σ (b, j)).sl.pStorage
        ∨ (σ (b, j)).sl.pStorage <+: (σ (b, i)).sl.pStorage)
      ∧ (d.conf.numBG = 1 → (σ (b, i)).sl.pStorage = enteredCycles (entries σ (b, i))) := by
  obtain ⟨token, h⟩ := (round3Ok_of_reachable hfits hreach).inv
  have hsl := h.sl (b, i)
  have hlog : entries σ (b, i) <+: (issued σ b).map entryOf := h.inv.committed_log b i hy.2
  have hnodup : (entries σ (b, i)).Nodup :=
    (List.nodup_append.mp (h.inv.nodup b)).1.sublist hlog.sublist
  have hstorage : (σ (b, i)).sl.pStorage
      = (entries σ (b, i)).filterMap (closedCycle d.conf.numBG) := hsl.storage
  refine ⟨hsl.closed, ?_, fun c => ?_, ?_, fun j hj => ?_, fun hN => ?_⟩
  · have hcycles := (h.clients b).cycles
    refine eq_range_of_prefix (n := (clientCycles σ b).length) ?_
    rw [← hcycles]
    exact hlog.filterMap clientCycle
  · rw [mem_enteredCycles]
    have hstatus := hsl.status c
    revert hstatus
    cases (σ (b, i)).sl.mapRound3Status c with
    | some status =>
      exact fun (hstatus : StatusOk d σ (exchange σ token) (b, i) c status) =>
        iff_of_true hstatus.client (Or.inr rfl)
    | none =>
      intro hstatus
      have hstatus : .client c ∉ entries σ (b, i)
        ∨ closer d.conf.numBG c ∈ entries σ (b, i) := hstatus
      rw [hstorage]
      constructor
      · exact fun hclient => Or.inl (mem_closed.mpr (hstatus.resolve_left (not_not.mpr hclient)))
      · exact fun hc => h.inv.entered_of_closed hy.2 (hc.resolve_right (by simp))
  · rw [hstorage]
    exact nodup_closed hnodup
  · rw [hstorage, (h.sl (b, j)).storage]
    have hreplicated : Replicated d σ b :=
      (round2Ok_of_reachable hreach).replicated (Nat.lt_of_le_of_lt (Nat.zero_le i) hy.2)
    have hcommitted := hreplicated.comparable i hy.2 j hj.2
    exact hcommitted.imp (fun hp => (hp.map entryOf).filterMap _)
      fun hp => (hp.map entryOf).filterMap _
  · rw [hstorage, hN]
    exact closed_single

/-- The single SL has entered two cycles, and only the later one has ended. -/
theorem twoBGs_cycle_order : ∃ σ, Reachable twoBGs σ ∧ (σ (1, 0)).sl.pStorage = [2]
    ∧ 1 ∈ enteredCycles (entries σ (1, 0)) := by
  obtain ⟨σ, hreach, hclosed, -⟩ := overtakingRun_result
  obtain ⟨hstored, hrange, hmem, -⟩ :=
    cycle_order (b := 1) (i := 0) valid_twoBGs.fits hreach (by decide)
  rw [hclosed] at hstored
  refine ⟨σ, hreach, hstored.symm, ?_⟩
  -- cycle 2 is there, so the list is longer than 1 and begins with cycle 1
  have htwo : (2 : UInt16) ∈ enteredCycles (entries σ (1, 0)) :=
    (hmem 2).mpr (Or.inl (by rw [← hstored]; exact .head _))
  rw [hrange] at htwo ⊢
  obtain ⟨k, hk, -⟩ := List.mem_map.mp htwo
  exact List.mem_map.mpr ⟨0, List.mem_range.mpr (by have := List.mem_range.mp hk; omega), rfl⟩

end RCanopus
