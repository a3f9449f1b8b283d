import RCanopus.Batches
import RCanopus.CycleOrder

/-!
# How long a log gets

The log of a BG has no other entries than those of the cycles that its leader has started, and each
of them at most once: the client Preprepare, the results of the other BGs, and the connectivity and
the membership of the cycle. So what a leader issues is bounded by what its clients sent.
-/

namespace RCanopus

open Cluster Exchange

/-- All entries that there can be for a cycle in the log of a BG. -/
def entriesOfCycle (numBG b : Nat) (c : UInt16) : List Entry :=
  [.client c, .localConnectivity c, .localMembership c, .fullMembership c]
    ++ ((List.range numBG).filter (· ≠ b)).map (.fetched c)

section

variable {d : Deployment} {σ : Cluster} {numBG b A : Nat} {c : UInt16} {e : Entry}

theorem length_entriesOfCycle (hb : b < numBG) : (entriesOfCycle numBG b c).length = numBG + 3 := by
  unfold entriesOfCycle
  rw [List.length_append, List.length_map, length_others hb]
  simp only [List.length_cons, List.length_nil]
  omega

/-- Each cycle of a log has a client entry and is good for `n` entries. -/
theorem length_le_of_cycles {l : List Entry} {n : Nat} {f : UInt16 → List Entry}
    (hnodup : l.Nodup) (hlen : ∀ c, (f c).length = n)
    (hclient : ∀ e ∈ l, .client e.cycle ∈ l) (hmem : ∀ e ∈ l, e ∈ f e.cycle) :
    l.length ≤ n * (l.filterMap clientCycle).length := by
  have hsub : l ⊆ (l.filterMap clientCycle).flatMap f := fun e he =>
    List.mem_flatMap.mpr ⟨e.cycle, List.mem_filterMap.mpr ⟨_, hclient e he, rfl⟩, hmem e he⟩
  refine (List.subperm_of_subset hnodup hsub).length_le.trans_eq ?_
  rw [List.length_flatMap, List.map_congr_left fun c _ => hlen c, List.map_const',
    List.sum_replicate_nat, Nat.mul_comm]

namespace Exchange.Inv

variable {L : Layout} {x : Exchange} (h : x.Inv L)

include h

/-- Every entry of a log belongs to a cycle whose client Preprepare is there. -/
theorem client_log (he : e ∈ x.log b) : .client e.cycle ∈ x.log b := by
  have hstep : ∀ {e e'}, e ∈ x.log b → Needs L.numBG b e e' → e' ∈ x.log b :=
    fun he hn => (h.grounded b).mem he hn
  cases e with
  | client c => exact he
  | fetched c A => exact hstep he (.fetched c A)
  | localConnectivity c => exact hstep he (.localConnectivity c)
  | localMembership c => exact hstep (hstep he (.localMembership c)) (.localConnectivity c)
  | fullMembership c =>
    exact hstep (hstep (hstep he (.fullMembership c)) (.localMembership c)) (.localConnectivity c)

theorem mem_entriesOfCycle (he : e ∈ x.log b) : e ∈ entriesOfCycle L.numBG b e.cycle := by
  unfold entriesOfCycle
  cases e with
  | fetched c A =>
    have hdone := (h.fetched b c A).mp (List.mem_append_left _ he)
    obtain ⟨-, hA, hne, -⟩ := (h.asked .result b A c).mp (by rw [hdone]; decide)
    refine List.mem_append_right _ (List.mem_map.mpr ⟨A, ?_, rfl⟩)
    exact List.mem_filter.mpr ⟨List.mem_range.mpr hA, by simpa using hne⟩
  | _ => exact List.mem_append_left _ (by simp [Entry.cycle])

/-- **The size of a log.** There are at most `numBG + 3` entries for each client Preprepare. -/
theorem length_log_le (hb : b < L.numBG) :
    (x.log b).length ≤ (L.numBG + 3) * ((x.log b).filterMap clientCycle).length :=
  length_le_of_cycles (f := entriesOfCycle L.numBG b) (List.nodup_append.mp (h.nodup b)).1
    (fun _ => length_entriesOfCycle hb) (fun _ he => h.client_log he)
    fun _ he => h.mem_entriesOfCycle he

end Exchange.Inv

/-! ## What a leader issues -/

section Issued

theorem clientCycle_entryOf (p : MessageRound2Preprepare) : clientCycle (entryOf p)
    = if p.requestType = requestTypeFromClient then some p.cycle else none := by
  split
  · next hp => rw [entryOf_client.mpr ⟨hp, rfl⟩, clientCycle]
  · next hp =>
    cases hentry : entryOf p with
    | client c => exact absurd (entryOf_client.mp hentry).1 hp
    | _ => rfl

theorem length_clientCycles (σ : Cluster) (b : Nat) :
    (clientCycles σ b).length = (σ (b, 0)).sl.clientsIssued := by
  unfold clientCycles issued issuedOf ConnManager.clientsIssued
  induction (σ (b, 0)).sl.history with
  | nil => rfl
  | cons ev events ih =>
    rw [List.countP_cons, ← ih]
    cases ev with
    | issued p =>
      simp only [List.filterMap_cons, List.map_cons, clientCycle_entryOf, Event.isClientIssue]
      by_cases hp : p.requestType = requestTypeFromClient <;> simp [hp]
    | _ => rfl

theorem length_issued_le (hfits : d.conf.Fits) (hreach : Reachable d σ) (hb : b < d.conf.numBG) :
    (issued σ b).length ≤ (d.conf.numBG + 3) * (σ (b, 0)).sl.clientsIssued := by
  obtain ⟨token, h⟩ := (round3Ok_of_reachable hfits hreach).inv
  have hle : ((issued σ b).map entryOf).length
      ≤ (d.conf.numBG + 3) * (clientCycles σ b).length := h.inv.length_log_le hb
  rwa [List.length_map, length_clientCycles] at hle

end Issued

/--
**What a leader issues is bounded by what its clients sent.** In every run the leader of a BG has
issued at most `numBG + 3` Preprepares for each client Preprepare, and at most as many client
Preprepares as its own client has sent batches.
-/
theorem log_bounded_by_batches (hfits : d.conf.Fits) {labels : List Label}
    (hrun : run d init labels = some σ) (hb : b < d.conf.numBG) :
    (issued σ b).length ≤ (d.conf.numBG + 3) * (σ (b, 0)).sl.clientsIssued
      ∧ (σ (b, 0)).sl.clientsIssued ≤ labels.countP (Label.isLeaderTick b) := by
  have hbatches : BatchesOk d b labels σ := (batchesOk_init d b).run hrun
  exact ⟨length_issued_le hfits (reachable_of_run .refl hrun) hb,
    hbatches.counters.issued.trans_le hbatches.counters.le_fromSelf⟩

/-- In the run of the two BGs the first leader has issued at most 10 Preprepares. -/
theorem twoBGs_log_bounded : ∃ σ, run twoBGs init overtakingLabels = some σ
    ∧ (issued σ 0).length ≤ 5 * (σ (0, 0)).sl.clientsIssued
    ∧ (σ (0, 0)).sl.clientsIssued ≤ 2 := by
  obtain ⟨σ, hrun, -⟩ := run_overtaking
  obtain ⟨hlen, hclients⟩ :=
    log_bounded_by_batches (b := 0) valid_twoBGs.fits hrun (by decide)
  have hticks : overtakingLabels.countP (Label.isLeaderTick 0) = 2 := rfl
  rw [hticks] at hclients
  exact ⟨σ, hrun, hlen, hclients⟩

end

end RCanopus
