import RCanopus.Liveness
import RCanopus.Hybrid.NoDeadlock
import RCanopus.Hybrid.Termination

/-!
# Every batch leads to a cycle that all SLs of the hybrid variant close

Without new batches the servers come to rest, and at rest the gate is open: nothing is in an inbox
or left of a pass. So every leader has turned all batches that it can into cycles, and every SL has
closed them all. For each of its cycles a leader has issued four Preprepares at most, since the
results are not replicated.
-/

namespace RCanopus.Hybrid

open Cluster Descent Gathering

variable {d : Deployment} {σ σ' : Cluster} {x y : Peer} {b : Nat} {c : UInt16} {e : QueueElement}
  {labels : List Label}

/-! ## The size of a log -/

/-- All entries that there can be for a cycle in a log. -/
def entriesOfCycle (c : UInt16) : List Entry :=
  [.client c, .localConnectivity c, .localMembership c, .fullMembership c]

section Log

variable {L : Layout} {x : Gathering} {e : Entry}

/-- An entry of a log is from a client or follows one that is there. -/
theorem Gathering.Inv.log_cases (h : x.Inv L) (he : e ∈ x.log b) :
    (∃ c, e = .client c)
      ∨ ∃ (k : FetchKind) (c : UInt16), e = k.follow c ∧ k.trigger c ∈ x.log b := by
  by_cases hclient : ∃ c, e = .client c
  · exact Or.inl hclient
  · obtain ⟨k, c, rfl⟩ := h.known b e (List.mem_append_left _ he) fun c hc => hclient ⟨c, hc⟩
    exact Or.inr ⟨k, c, rfl, (h.grounded b).mem he (.follow k c)⟩

theorem Gathering.Inv.mem_entriesOfCycle (h : x.Inv L) (he : e ∈ x.log b) :
    e ∈ entriesOfCycle e.cycle := by
  rcases h.log_cases he with ⟨c, rfl⟩ | ⟨k, c, rfl, -⟩
  · exact List.mem_cons_self
  · cases k <;> simp [entriesOfCycle, FetchKind.follow, Entry.cycle]

/-- Every entry of a log belongs to a cycle whose client Preprepare is there. -/
theorem Gathering.Inv.client_log (h : x.Inv L) (he : e ∈ x.log b) :
    .client e.cycle ∈ x.log b := by
  have hfollow : ∀ (k : FetchKind) (c : UInt16), k.follow c ∈ x.log b → k.trigger c ∈ x.log b :=
    fun k c hmem => (h.grounded b).mem hmem (.follow k c)
  rcases h.log_cases he with ⟨c, rfl⟩ | ⟨k, c, rfl, htrigger⟩
  · exact he
  · cases k with
    | result => exact htrigger
    | connectivity => exact hfollow .result c htrigger
    | membership => exact hfollow .result c (hfollow .connectivity c htrigger)

end Log

theorem length_issued_le (hfits : d.conf.Fits) (hreach : Reachable d σ) :
    (issued σ b).length ≤ 4 * (σ (b, 0)).sl.clientsIssued := by
  obtain ⟨token, h⟩ := (clusterOk_of_reachable hfits hreach).inv
  have hle : ((issued σ b).map entryOf).length ≤ 4 * (clientCycles σ b).length :=
    length_le_of_cycles (f := entriesOfCycle) (List.nodup_append.mp (h.inv.nodup b)).1
      (fun _ => rfl) (fun _ he => h.inv.client_log he) fun _ he => h.inv.mem_entriesOfCycle he
  rwa [List.length_map, length_clientCycles] at hle

/--
**What a leader issues is bounded by what its clients sent.** In every run the leader of a BG has
issued at most four Preprepares for each client Preprepare, however many BGs there are, and at most
as many client Preprepares as its own client has sent batches.
-/
theorem four_for_each_batch (hfits : d.conf.Fits) (hrun : run d init labels = some σ) :
    (issued σ b).length ≤ 4 * (σ (b, 0)).sl.clientsIssued
      ∧ (σ (b, 0)).sl.clientsIssued ≤ labels.countP (Label.isLeaderTick b) := by
  have hbatches : BatchesOk d b labels σ := batchesOk_run (batchesOk_init d b) hrun
  exact ⟨length_issued_le hfits (reachable_of_run .refl hrun),
    hbatches.counters.issued.trans_le hbatches.counters.le_fromSelf⟩

/-- In the run to the end the first leader has issued all four. -/
theorem twoBGs_four : ∃ σ, run twoBGs init (.clientTick (0, 1) zeroBatch :: closingRun) = some σ
    ∧ (issued σ 0).length = 4 ∧ (issued σ 0).length ≤ 4 * (σ (0, 0)).sl.clientsIssued := by
  obtain ⟨σ, hrun, -, hlen, -⟩ := closingRun_result
  have hrun := run_of_batch hrun
  exact ⟨σ, hrun, hlen, (four_for_each_batch valid_twoBGs.fits hrun).1⟩

/-! ## Passes -/

theorem passOk_step (hok : ClusterOk d σ) (hs : Step d σ σ')
    (h : ∀ y, (σ y).crashed = false → PassOk (σ y)) :
    ∀ y, (σ' y).crashed = false → PassOk (σ' y) := by
  intro y hy
  obtain ⟨l, hl⟩ := hs
  cases l with
  | receive x i ω =>
    obtain ⟨e, before, hd, -, -, hleft, -⟩ := receive_dispatch hl
    refine passOk_dispatch hd h (fun s ho => ?_) hy
    rw [hleft, ho]
    exact Nat.le_refl _
  | retry x ω =>
    obtain ⟨e, before, hd, hj, hleft, -⟩ := retry_dispatch hl
    refine passOk_dispatch hd h (fun s ho => ?_) hy
    obtain ⟨l, hjuggled, -⟩ := hok.juggled hd ho
    exact passLeft_le (h x hd.alive) hj hleft hjuggled
  | clientTick x content => exact passOk_tick (clientTick_tick hl) (clientTick_passLeft hl) h hy
  | leaderTick bg => exact passOk_tick (leaderTick_tick hl) (leaderTick_passLeft hl) h hy
  | pipeReadable bg => exact passOk_tick (pipeReadable_tick hl) (pipeReadable_passLeft hl) h hy

theorem passOk_of_reachable (hfits : d.conf.Fits) (hreach : Reachable d σ) :
    ∀ y, (σ y).crashed = false → PassOk (σ y) := by
  induction hreach with
  | refl => exact fun _ _ => Nat.le_refl 0
  | tail hrun hs ih => exact passOk_step (clusterOk_of_reachable hfits hrun) hs ih

/-! ## Listeners -/

theorem listenersOk_of_reachable (hreach : Reachable d σ) : ListenersOk d σ := by
  refine hreach.induct (P := ListenersOk d) (fun y hended => absurd rfl hended)
    fun σ σ' h hs => ?_
  obtain ⟨l, hl⟩ := hs
  cases l with
  | receive x i ω =>
    obtain ⟨e, before, hd, -, -, -, -, hpipe, hlistener⟩ := receive_dispatch hl
    exact h.dispatch (hd.listener hpipe hlistener)
  | retry x ω =>
    obtain ⟨e, before, hd, -, -, -, hpipe, hlistener⟩ := retry_dispatch hl
    exact h.dispatch (hd.listener hpipe (by rw [hlistener]))
  | clientTick x content => exact h.clientTick hl
  | leaderTick bg => exact h.leaderTick hl
  | pipeReadable bg => exact h.pipeReadable hl

theorem shortPipes_internal (h : ShortPipes d σ) (hs : Internal d σ σ') : ShortPipes d σ' := by
  obtain ⟨l, htick, hl⟩ := hs
  cases l with
  | receive x i ω =>
    obtain ⟨e, before, hd, -, -, -, -, hpipe, hlistener⟩ := receive_dispatch hl
    exact fun b hb => (hd.listener hpipe hlistener (b, 0)).1 ▸ h b hb
  | retry x ω =>
    obtain ⟨e, before, hd, -, -, -, hpipe, hlistener⟩ := retry_dispatch hl
    exact fun b hb => (hd.listener hpipe (by rw [hlistener]) (b, 0)).1 ▸ h b hb
  | clientTick x content => cases htick
  | leaderTick bg => cases htick
  | pipeReadable bg => exact h.pipeReadable hl

/-- Without ticks no listener ends, when none has got too many before. -/
theorem listening_of_shortPipes (hpipes : ShortPipes d σ) (hreach : Reachable d σ)
    (hrun : Relation.ReflTransGen (Internal d) σ σ') (y : Peer) : (σ' y).listenerEnded = none := by
  have hreach' : Reachable d σ' :=
    invariant_of_run (I := Reachable d) (fun h hs => h.internal hs) hreach hrun
  have hpipes' : ShortPipes d σ' :=
    invariant_of_run (I := ShortPipes d) (fun h hs => shortPipes_internal h hs) hpipes hrun
  exact (listenersOk_of_reachable hreach').listening hpipes' y

/-! ## Rest -/

theorem step_eq_none (hrest : Resting (Internal d) σ) {l : Label} (hl : l.isTick = false) :
    step d σ l = none :=
  Option.eq_none_iff_forall_ne_some.mpr fun σ' hs => hrest σ' ⟨l, hl, hs⟩

/-- At rest no pass is running. -/
theorem resting_passLeft (hpass : PassOk (σ y)) (hrest : Resting (Internal d) σ) (hy : d.Has y)
    (halive : (σ y).crashed = false) : (σ y).passLeft = 0 := by
  let ω : Choice := { draw := fun _ => 0, top := 0 }
  by_contra hne
  obtain ⟨e, rest, hj⟩ := hpass.exists_front hne
  have hnone : retry d y ω σ = none := step_eq_none (l := .retry y ω) hrest rfl
  unfold retry at hnone
  dsimp only at hnone
  rw [hj] at hnone
  dsimp only at hnone
  rw [if_pos ⟨hy, halive, Nat.pos_of_ne_zero hne⟩] at hnone
  cases hnone

/-- A server that runs and listens has nothing left in its inbox at rest. -/
theorem resting_node (hpass : PassOk (σ y)) (hrest : Resting (Internal d) σ) (hy : d.Has y)
    (halive : (σ y).crashed = false) (hlistens : (σ y).listenerEnded = none) :
    (σ y).inbox = [] ∧ (σ y).passLeft = 0 := by
  let ω : Choice := { draw := fun _ => 0, top := 0 }
  have hleft := resting_passLeft hpass hrest hy halive
  refine ⟨?_, hleft⟩
  cases hinbox : (σ y).inbox with
  | nil => rfl
  | cons e rest =>
    have hnone : receive d y 0 ω σ = none := step_eq_none (l := .receive y 0 ω) hrest rfl
    unfold receive at hnone
    dsimp only at hnone
    rw [hinbox, List.getElem?_cons_zero] at hnone
    dsimp only at hnone
    rw [if_pos ⟨hy, halive, hleft, by unfold Node.receivable; rw [hlistens]⟩] at hnone
    cases hnone

theorem resting_pipe (hrest : Resting (Internal d) σ) (hy : d.Has (b, 0))
    (hlistens : (σ (b, 0)).listenerEnded = none) : (σ (b, 0)).pipe = 0 :=
  pipe_eq_zero (step_eq_none (l := .pipeReadable b) hrest rfl) hy hlistens

/-- At rest no server has anything left to do. -/
theorem resting_quiescent (hvalid : d.conf.Valid) (hreach : Reachable d σ)
    (hrest : Resting (Internal d) σ) (hlistens : ∀ y, (σ y).listenerEnded = none) :
    Quiescent d σ := fun y hy =>
  have halive := crashed_eq_false hvalid hreach hy.1
  resting_node (passOk_of_reachable hvalid.fits hreach y halive) hrest hy halive (hlistens y)

/--
**Without the clients the servers come to rest**, also with the gate: from any reachable state there
is no infinite run without batches of the clients, and some run ends in a state with no step left.
In every such state no server is in a pass, and if all listeners run, no server has anything in its
inbox or in its pipe. They all run, unless the ticks before have filled the buffer of one.
-/
theorem hybrid_comes_to_rest (hvalid : d.conf.Valid) (hreach : Reachable d σ) :
    (∀ states : Nat → Cluster, states 0 = σ → ¬ ∀ n, Internal d (states n) (states (n + 1)))
      ∧ (∃ σ', Relation.ReflTransGen (Internal d) σ σ' ∧ Resting (Internal d) σ')
      ∧ ∀ σ', Relation.ReflTransGen (Internal d) σ σ' → Resting (Internal d) σ' →
        (∀ y, d.Has y → (σ' y).passLeft = 0)
          ∧ ((∀ y, (σ' y).listenerEnded = none) →
            (∀ y, d.Has y → (σ' y).inbox = []) ∧ ∀ b, d.Has (b, 0) → (σ' (b, 0)).pipe = 0)
          ∧ (ShortPipes d σ → ∀ y, (σ' y).listenerEnded = none) := by
  have hterminates := servers_terminate hvalid.fits hreach
  refine ⟨hterminates.not_infinite, hterminates.exists_resting, fun σ' hrun hrest => ?_⟩
  have hreach' : Reachable d σ' :=
    invariant_of_run (I := Reachable d) (fun h hs => h.internal hs) hreach hrun
  refine ⟨fun y hy => ?_, fun hlistens => ⟨?_, ?_⟩,
    fun hpipes => listening_of_shortPipes hpipes hreach hrun⟩
  · have halive := crashed_eq_false hvalid hreach' hy.1
    exact resting_passLeft (passOk_of_reachable hvalid.fits hreach' y halive) hrest hy halive
  · exact fun y hy => (resting_quiescent hvalid hreach' hrest hlistens y hy).1
  · exact fun b hb => resting_pipe hrest hb (hlistens (b, 0))

/-- The two BGs come to rest after the Preprepare has waited at the gate. -/
theorem twoBGs_hybrid_rest : ∃ σ, Reachable twoBGs σ ∧ closedOf (σ (1, 0)).sl.history = [1]
    ∧ ∃ σ', Relation.ReflTransGen (Internal twoBGs) σ σ' ∧ Resting (Internal twoBGs) σ' := by
  obtain ⟨σ, hrun, -, -, -, -, -, hclosed⟩ := closingRun_result
  have hreach : Reachable twoBGs σ := reachable_of_batch hrun
  exact ⟨σ, hreach, hclosed, (hybrid_comes_to_rest valid_twoBGs hreach).2.1⟩

/-! ## Batches -/

/-- A run of the servers has no ticks. -/
theorem exists_labels (h : Relation.ReflTransGen (Internal d) σ σ') :
    ∃ rest : List Label, (∀ l ∈ rest, l.isTick = false) ∧ run d σ rest = some σ' := by
  induction h using Relation.ReflTransGen.head_induction_on with
  | refl => exact ⟨[], fun l hl => absurd hl List.not_mem_nil, rfl⟩
  | head hs _ ih =>
    obtain ⟨l, htick, hl⟩ := hs
    obtain ⟨rest, hrest, hrun⟩ := ih
    refine ⟨l :: rest, List.forall_mem_cons.mpr ⟨htick, hrest⟩, ?_⟩
    unfold run
    rw [hl, Option.bind_some, hrun]

theorem batchesOk_internal (h : BatchesOk d b labels σ)
    (hrun : Relation.ReflTransGen (Internal d) σ σ') : BatchesOk d b labels σ' := by
  obtain ⟨rest, htick, hrun⟩ := exists_labels hrun
  exact (batchesOk_run h hrun).of_append htick

/--
**Every batch leads to a cycle that all SLs close.** Take any run of a valid configuration in which
the clients have sent at least `k` batches at every SL of every BG, too few for a sequence counter
to wrap, and in no pipe enough of them wait to fill the buffer of the listener. Without further
batches the servers come to rest, in whatever order they go on, and at rest every SL of every BG has
passed the cycles 1 to `k` to `round3_committed`.
-/
theorem hybrid_closes_cycles (hvalid : d.conf.Valid) (hrun : run d init labels = some σ)
    (hpipes : ShortPipes d σ) {k : Nat} (hticked : ∀ b < d.conf.numBG, Ticked d b k labels)
    (hshort : ∀ b < d.conf.numBG, 4 * labels.countP (Label.isLeaderTick b) + 1 < 2 ^ 16) :
    Terminates (Internal d) σ
      ∧ ∀ σ', Relation.ReflTransGen (Internal d) σ σ' → Resting (Internal d) σ' →
        ∀ c : UInt16, c.toNat ∈ Set.Icc 1 k → ∀ y, d.Has y → c ∈ closedOf (σ' y).sl.history := by
  have hreach : Reachable d σ := reachable_of_run .refl hrun
  refine ⟨servers_terminate hvalid.fits hreach, fun σ' hinternal hrest c hc y hy => ?_⟩
  have hreach' : Reachable d σ' :=
    invariant_of_run (I := Reachable d) (fun h hs => h.internal hs) hreach hinternal
  have hlistens := listening_of_shortPipes hpipes hreach hinternal
  have hq := resting_quiescent hvalid hreach' hrest hlistens
  have hbatches := fun b => batchesOk_internal (batchesOk_run (batchesOk_init d b) hrun) hinternal
  have hwrap : ∀ b < d.conf.numBG, ¬ Wrapped σ' b := fun b hb => by
    have hlen := length_issued_le (b := b) hvalid.fits hreach'
    have hclients : (σ' (b, 0)).sl.clientsIssued ≤ labels.countP (Label.isLeaderTick b) :=
      (hbatches b).counters.issued.trans_le (hbatches b).counters.le_fromSelf
    have := hshort b hb
    unfold Wrapped
    omega
  obtain ⟨token, h⟩ := (clusterOk_of_reachable hvalid.fits hreach').inv
  refine closed_of_quiescent hvalid hreach' hq hwrap (fun A hA => mem_clientCycles.mp ?_) hy
  refine mem_clientCycles_of_le (h.clients A) ?_ hc
  rw [length_clientCycles]
  have hhas : d.Has (A, 0) := ⟨hA, (hvalid.quorum A hA).1⟩
  exact (hbatches A).clientsIssued_ge (hvalid.numSL A) (crashed_eq_false hvalid hreach' hA)
    (hq _ hhas).1 (resting_pipe hrest hhas (hlistens _))
    (ended_of_quiescent hvalid hreach' hq hA (hwrap A hA))
    (hticked A hA)

theorem twoBGs_hybrid_closes : ∃ σ σ', run twoBGs init oneBatchEach = some σ
    ∧ Relation.ReflTransGen (Internal twoBGs) σ σ' ∧ Resting (Internal twoBGs) σ'
    ∧ ∀ y, twoBGs.Has y → 1 ∈ closedOf (σ' y).sl.history := by
  have hrun : (run twoBGs (sendBatch zeroBatch init) [.leaderTick 0, .leaderTick 1]).map
      (fun σ => ((σ (0, 0)).pipe, (σ (1, 0)).pipe)) = some (2, 2) := by decide +kernel
  obtain ⟨σ, hσ, hpipe⟩ := Option.map_eq_some_iff.mp hrun
  obtain ⟨h₀, h₁⟩ := Prod.mk.inj hpipe
  have hall : run twoBGs init oneBatchEach = some σ := run_of_batch hσ
  have hmain := hybrid_closes_cycles (k := 1) valid_twoBGs hall (oneBatchEach_short h₀ h₁)
    oneBatchEach_ticked fun b hb => by
      rw [oneBatchEach_ticks b hb]
      decide
  obtain ⟨σ', hinternal, hrest⟩ := hmain.1.exists_resting
  exact ⟨σ, σ', hall, hinternal, hrest, hmain.2 σ' hinternal hrest 1 (by decide)⟩

end RCanopus.Hybrid
