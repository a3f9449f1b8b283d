import RCanopus.NoDeadlock
import RCanopus.Replicated
import RCanopus.Hybrid.Round3Run

/-!
# What the gate is for

An SL accepts the Preprepare for the connectivity of a cycle when it has the results of all BGs, and
the BG commits it when all its SLs have accepted it. So no result is asked for too late, none comes
for a cycle that is over, and no check fails.
-/

namespace RCanopus.Hybrid

open Cluster Gathering

variable {d : Deployment} {σ : Cluster} {b i j A : Nat} {c : UInt16} {y : Peer}
  {e : QueueElement} {status : CycleStatus}
  {token : FetchKind → Peer → Nat → UInt16 → Token} {p q : MessageRound2Preprepare}

/-! ## A run of two BGs

SL 1 of the first BG is slow. The Preprepare for the connectivity reaches it before the result of
the second BG, and waits at the gate.
-/

theorem run_clientTick {content : List UInt8} {labels : List Label}
    (h : content.length = requestBatchSize) :
    run twoBGs σ (.clientTick (0, 1) content :: labels)
      = run twoBGs (sendBatch content σ) labels := by
  have hstep : step twoBGs σ (.clientTick (0, 1) content) = some (sendBatch content σ) :=
    if_pos ⟨by decide, by decide, h⟩
  unfold run
  rw [hstep, Option.bind_some]
  cases labels <;> rfl

/-- Some turns of the pass of SL 1 of the first BG over what is juggled. -/
def again (n : Nat) : List Label :=
  List.replicate n (.retry (0, 1) { draw := fun _ => 0, top := 0 })

/-- The Preprepare and a partial commit are juggled, and the result is in the inbox. -/
def gateRun : List Label :=
  let first := turns (0, 0)
  let other := turns (0, 1)
  let single := turns (1, 0)
  [.leaderTick 0, .leaderTick 1, .pipeReadable 0, .pipeReadable 1] ++
  first 4 ++ single 4 ++ first 1 ++ other 1 ++ first 2 ++ single 2 ++ first 2 ++ single 3 ++
  first 1 ++ other 1 ++ single 1 ++ other 1 ++ again 1 ++ other 1 ++ again 2

/-- The leader of the first BG commits the connectivity. -/
def certifyingRun : List Label :=
  gateRun ++ turns (0, 1) 1 ++ again 2 ++ turns (0, 1) 1 ++ turns (0, 0) 1

/-- A run from the start, with a batch of the client of SL 1. -/
theorem run_of_batch {labels : List Label}
    (h : run twoBGs (sendBatch zeroBatch init) labels = some σ) :
    run twoBGs init (.clientTick (0, 1) zeroBatch :: labels) = some σ := by
  have hbatch : zeroBatch.length = requestBatchSize := List.length_replicate
  rw [run_clientTick hbatch, h]

theorem reachable_of_batch {labels : List Label}
    (h : run twoBGs (sendBatch zeroBatch init) labels = some σ) : Reachable twoBGs σ :=
  reachable_of_run .refl (run_of_batch h)

/-! ## Results -/

/-- A leader issues one Preprepare for each entry. -/
theorem Round3Inv.issued_unique (h : Round3Inv d σ token) (hp : p ∈ Cluster.issued σ b)
    (hq : q ∈ Cluster.issued σ b) (heq : entryOf p = entryOf q) : p = q :=
  List.inj_on_of_nodup_map (List.nodup_append.mp (h.inv.nodup b)).1 hp hq heq

/-- A BG of which an SL has the result has committed it. -/
theorem Round3Inv.client_of_complete (h : Round3Inv d σ token)
    (hcomplete : Complete d (gathering σ token) y .result c) (hy : d.Has y)
    (hclient : .client c ∈ entries σ y) (hA : A < d.conf.numBG) :
    ∃ j < d.conf.numSL A, .client c ∈ entries σ (A, j) := by
  by_cases hne : A = y.1
  · subst hne
    exact ⟨y.2, hy.2, hclient⟩
  · exact h.inv.served .result y A c (Or.inr (hcomplete.2 A hA hne))

/-- A slot with what a BG has issued has what its SLs commit. -/
theorem Round3Inv.trueResult (h : Round3Inv d σ token) (h2 : Round2Ok d σ)
    (hA : A < d.conf.numBG) (hclient : ∃ j < d.conf.numSL A, .client c ∈ entries σ (A, j))
    (hslot : ∃ r, status.rgMsgRound3FetchResponse A = some r
      ∧ ∃ q ∈ Cluster.issued σ A, entryOf q = .client c
        ∧ r.entirePreprepareMsg = q.sentBytes d.host) :
    ∃ bytes, TrueResult d σ c status A bytes := by
  obtain ⟨r, hr, q, hq, hentry, hbytes⟩ := hslot
  obtain ⟨j, hj, hmem⟩ := hclient
  obtain ⟨p, hp, hpc⟩ := List.mem_map.mp hmem
  refine ⟨q.sentBytes d.host, ?_, ⟨j, hj, ?_⟩, fun j' hj' p' hp' => ?_⟩
  · rw [hr]
    exact congrArg some hbytes
  · exact List.ne_nil_of_mem (mem_clientPreprepares.mpr ⟨hp, hpc⟩)
  · obtain ⟨hp', hentry'⟩ := mem_clientPreprepares.mp hp'
    obtain ⟨q', hq', rfl⟩ := h2.exists_issued (y := (A, j')) ⟨hA, hj'⟩ hp'
    rw [entryOf_copy] at hentry'
    rw [h.issued_unique hq hq' (hentry.trans hentry'.symm)]
    exact q'.sentBytes_copy d.host

/-! ## The gate -/

section Gate

variable (h : Round3Inv d σ token)

include h

/-- What an SL knows of a cycle that it has entered. -/
theorem Round3Inv.status_or_closed (hclient : .client c ∈ entries σ y) :
    (∃ status, (σ y).sl.mapRound3Status c = some status
        ∧ StatusOk d σ (gathering σ token) y c status)
      ∨ closer d.conf.numBG c ∈ entries σ y
        ∧ ∃ status, .round3Committed c status ∈ (σ y).sl.history := by
  have hstatus := (h.sl y).status c
  revert hstatus
  cases hs : (σ y).sl.mapRound3Status c with
  | some status => exact fun hstatus => Or.inl ⟨status, rfl, hstatus⟩
  | none =>
    intro hstatus
    have hclosed := hstatus.resolve_left fun hno => hno hclient
    refine Or.inr ⟨hclosed, exists_of_mem_closedOf ?_⟩
    rw [(h.sl y).closed, (h.sl y).storage]
    exact mem_closed.mpr hclosed

/-- The connectivity is committed before the membership. -/
theorem Round3Inv.connectivity_not_last {l : List Entry}
    (hl : entries σ (b, i) = l ++ [.localConnectivity c]) (hi : i < d.conf.numSL b) :
    .localMembership c ∉ entries σ (b, i) := by
  have hprefix : entries σ (b, i) <+: (gathering σ token).log b := h.inv.committed_log b i hi
  have hnodup := (List.nodup_append.mp (h.inv.nodup b)).1.sublist hprefix.sublist
  rw [hl] at hprefix hnodup ⊢
  intro hmem
  have hmem : .localMembership c ∈ l := by simpa using hmem
  have hl : l <+: (gathering σ token).log b := (List.prefix_append _ _).trans hprefix
  have hconn : .localConnectivity c ∈ l :=
    ((h.inv.grounded b).of_isPrefix hl).mem hmem (.follow .connectivity c)
  exact (List.nodup_append.mp hnodup).2.2 _ hconn _ (List.mem_singleton_self _) rfl

end Gate

/--
**The connectivity is certified when everyone has every result.** When an SL has committed the local
connectivity of a cycle, every SL of its BG has accepted it and has the result of every BG, as the
SLs there have committed it: in the status of the cycle, or, when the SL has gone on since then, in
what it has passed to `round3_committed`.
-/
theorem connectivity_has_all_results (hvalid : d.conf.Valid) (hreach : Reachable d σ)
    (hi : d.Has (b, i)) (hp : p ∈ committed σ (b, i))
    (ht : p.requestType = requestTypeLocalConnectivity) (hj : j < d.conf.numSL b) :
    p ∈ accepted σ (b, j)
      ∧ ∃ status, (∀ A < d.conf.numBG, ∃ bytes, TrueResult d σ p.cycle status A bytes)
        ∧ ((σ (b, j)).sl.mapRound3Status p.cycle = some status
          ∨ (committed σ (b, i)).getLast? ≠ some p
            ∧ .round3Committed p.cycle status ∈ (σ (b, j)).sl.history) := by
  obtain ⟨h2, ⟨token, h⟩, -, -⟩ := clusterOk_of_reachable hvalid.fits hreach
  have hentry := entryOf_of_localConnectivity ht
  have hmem : .localConnectivity p.cycle ∈ entries σ (b, i) :=
    hentry ▸ List.mem_map_of_mem hp
  have hcomplete : Complete d (gathering σ token) (b, j) .result p.cycle :=
    h.inv.all_results hi.2 hmem hj
  have hclient : .client p.cycle ∈ entries σ (b, j) :=
    h.inv.client_behind (k := .connectivity) hi.2 (by simp) hmem hj
  have hall : ∀ A < d.conf.numBG, ∃ j < d.conf.numSL A, .client p.cycle ∈ entries σ (A, j) :=
    fun A hA => h.client_of_complete hcomplete ⟨hi.1, hj⟩ hclient hA
  refine ⟨(h2.replicated (Nat.zero_lt_of_lt hj)).acceptedByAll i hi.2 p hp j hj, ?_⟩
  rcases h.status_or_closed hclient with ⟨status, hs, hstatus⟩ | ⟨hclosed, status, hs⟩
  · exact ⟨status, fun A hA => h.trueResult h2 hA (hall A hA) (hstatus.slots hcomplete A hA),
      Or.inl hs⟩
  · obtain ⟨-, hslots⟩ := (h.sl (b, j)).events _ hs
    refine ⟨status, fun A hA => h.trueResult h2 hA (hall A hA) (hslots A hA),
      Or.inr ⟨fun hlast => ?_, hs⟩⟩
    -- the end of the cycle needs the membership, which the others have committed too
    rw [closer_of_two (show 2 ≤ d.conf.numBG from hcomplete.1)] at hclosed
    have hmember : .localMembership p.cycle ∈ entries σ (b, i) :=
      h.inv.needs_behind hj hclosed (.follow .membership p.cycle) hi.2
    obtain ⟨l, hl⟩ := List.getLast?_eq_some_iff.mp hlast
    refine h.connectivity_not_last (l := l.map entryOf) ?_ hi.2 hmember
    unfold entries
    rw [hl, List.map_append, List.map_singleton, hentry]

/-- In the run above the leader has just committed the connectivity of cycle 1. -/
theorem twoBGs_connectivity : ∃ σ status, Reachable twoBGs σ
    ∧ entries σ (0, 0) = [.client 1, .localConnectivity 1] ∧ (committed σ (0, 1)).length = 1
    ∧ (σ (0, 1)).sl.mapRound3Status 1 = some status
    ∧ ∃ bytes, TrueResult twoBGs σ 1 status 1 bytes := by
  have hrun : (run twoBGs (sendBatch zeroBatch init) certifyingRun).map
      (fun σ => (entries σ (0, 0), (committed σ (0, 1)).length))
        = some ([.client 1, .localConnectivity 1], 1) := by decide +kernel
  obtain ⟨σ, hσ, hresult⟩ := Option.map_eq_some_iff.mp hrun
  rw [Prod.mk.injEq] at hresult
  obtain ⟨hentries, hlength⟩ := hresult
  have hreach := reachable_of_batch hσ
  obtain ⟨q, l, hcommitted, -, hl⟩ := List.map_eq_cons_iff.mp hentries
  obtain ⟨p, l, rfl, hp, hnil⟩ := List.map_eq_cons_iff.mp hl
  obtain rfl := List.map_eq_nil_iff.mp hnil
  obtain ⟨ht, hcycle⟩ := entryOf_localConnectivity hp
  obtain ⟨-, status, hall, hstatus⟩ := connectivity_has_all_results (j := 1) valid_twoBGs hreach
    (b := 0) (i := 0) (p := p) (by decide) (by rw [hcommitted]; simp) ht (by decide)
  rw [hcycle] at hall hstatus
  refine ⟨σ, status, hreach, hentries, hlength, ?_, hall 1 (by decide)⟩
  exact hstatus.resolve_right fun h => h.1 (by rw [hcommitted]; rfl)

/-! ## Logs -/

/--
**The SLs of a BG agree**, although each of them passes the gate when it is ready: in every
reachable state they have committed beginnings of the log of their leader, none is more than one
entry behind, and what was committed was certified and accepted by all.
-/
theorem hybrid_bgs_replicate (hfits : d.conf.Fits) (hreach : Reachable d σ)
    (hn : 0 < d.conf.numSL b) : Replicated d σ b :=
  (clusterOk_of_reachable hfits hreach).round2.replicated hn

/-- In the run above the leader is ahead of the slow SL. -/
theorem twoBGs_hybrid_replicated : ∃ σ, Reachable twoBGs σ ∧ (committed σ (0, 0)).length = 2
    ∧ (committed σ (0, 1)).length = 1 ∧ Replicated twoBGs σ 0 := by
  have hrun : (run twoBGs (sendBatch zeroBatch init) certifyingRun).map
      (fun σ => ((committed σ (0, 0)).length, (committed σ (0, 1)).length)) = some (2, 1) := by
    decide +kernel
  obtain ⟨σ, hσ, hresult⟩ := Option.map_eq_some_iff.mp hrun
  rw [Prod.mk.injEq] at hresult
  have hreach := reachable_of_batch hσ
  exact ⟨σ, hreach, hresult.1, hresult.2,
    hybrid_bgs_replicate valid_twoBGs.fits hreach (by decide)⟩

/-! ## Checks -/

/-- Every SL of a valid configuration runs on. -/
theorem crashed_eq_false (hvalid : d.conf.Valid) (hreach : Reachable d σ)
    (hy : y.1 < d.conf.numBG) : (σ y).crashed = false := by
  rw [Bool.eq_false_iff]
  intro hcrashed
  obtain ⟨c, hc⟩ := (clusterOk_of_reachable hvalid.fits hreach).crashed y hcrashed
  exact hvalid.envoy_ne_none hy hc

/--
A message comes in time: a request for a result before the SL is through with the cycle, and a
result while its slot is empty.
-/
def Timely (s : ConnManager) : Message → Prop
  | .round3FetchRequest m => m.cycle ∉ s.pStorage
  | .round3FetchResponse m => ∃ status, s.mapRound3Status m.cycle = some status
    ∧ status.rgMsgRound3FetchResponse m.senderBGid.toNat = none
  | _ => True

section Timely

variable (h : Round3Inv d σ token) (hy : d.Has y) (he : e ∈ pool σ y)

include h hy he

/-- Nobody asks a BG for a result after it has closed the cycle. -/
theorem Round3Inv.request_timely {m : MessageRound3FetchRequest}
    (hm : e.pMessage = .round3FetchRequest m) :
    m.cycle ∉ (σ y).sl.pStorage := by
  rw [(h.sl y).storage]
  intro hclosed
  have htoken : token .result (m.senderBGid.toNat, m.senderSLid.toNat) y.1 m.cycle = .asked y.2 :=
    h.asked_of_mem (z := (m.senderBGid.toNat, m.senderSLid.toNat)) he
      (requestFrom_eq.mpr ⟨by rw [hm]; rfl, by rw [hm]; rfl⟩)
  have hidle : (gathering σ token).token .result (m.senderBGid.toNat, m.senderSLid.toNat) y.1
      m.cycle ≠ .idle := fun hidle => by simp [gathering, htoken] at hidle
  have hfull := mem_closed.mp hclosed
  rw [closer_of_two (show 2 ≤ d.conf.numBG from h.inv.two_of_token hidle)] at hfull
  refine h.inv.not_closed (by simp) hidle (fun hdone => ?_) (h.inv.mem_all hy.2 hfull)
  simp [gathering, htoken] at hdone

/-- A result comes while the cycle is open, and once. -/
theorem Round3Inv.response_timely {m : MessageRound3FetchResponse}
    (hm : e.pMessage = .round3FetchResponse m) :
    ∃ status, (σ y).sl.mapRound3Status m.cycle = some status
      ∧ status.rgMsgRound3FetchResponse m.senderBGid.toNat = none := by
  have htoken : token .result y m.senderBGid.toNat m.cycle = .answered y.2 :=
    h.answered_of_mem (k := .result) he (by rw [hm]; rfl)
  have hidle : (gathering σ token).token .result y m.senderBGid.toNat m.cycle ≠ .idle :=
    fun hidle => by simp [gathering, htoken] at hidle
  have hdone : (gathering σ token).token .result y m.senderBGid.toNat m.cycle ≠ .done :=
    fun hdone => by simp [gathering, htoken] at hdone
  obtain ⟨-, -, -, hne, -⟩ := (h.inv.asked _ _ _ _).mp hidle
  obtain ⟨hclient, hopen⟩ := h.inv.home_open hidle hdone hy.2 holder_result
  rcases h.status_or_closed hclient with ⟨status, hs, hstatus⟩ | ⟨hclosed, -⟩
  · refine ⟨status, hs, Option.not_isSome_iff_eq_none.mp fun hsome => hdone ?_⟩
    exact ((hstatus.filled .result _ hne).mp hsome).2
  · rw [closer_of_two (show 2 ≤ d.conf.numBG from h.inv.two_of_token hidle)] at hclosed
    exact absurd (h.inv.mem_all hy.2 hclosed) hopen

end Timely

/--
**Nothing comes too late.** In every reachable state of a valid configuration no exception has left
the main loop of an SL, no check of a macro has failed, and every message that waits at an SL is in
time.
-/
theorem nothing_comes_late (hvalid : d.conf.Valid) (hreach : Reachable d σ) (hy : d.Has y) :
    (σ y).crashed = false ∧ .guardFailed ∉ (σ y).sl.history
      ∧ ∀ e ∈ pool σ y, Timely (σ y).sl e.pMessage := by
  obtain ⟨token, h⟩ := (clusterOk_of_reachable hvalid.fits hreach).inv
  refine ⟨crashed_eq_false hvalid hreach hy.1, (h.sl y).events .guardFailed, fun e he => ?_⟩
  cases hm : e.pMessage with
  | round3FetchRequest m => exact h.request_timely hy he hm
  | round3FetchResponse m => exact h.response_timely hy he hm
  | _ => trivial

/-- While the Preprepare waits at the gate, all that waits is in time. -/
theorem twoBGs_nothing_comes_late : ∃ σ, Reachable twoBGs σ
    ∧ (σ (0, 1)).sl.juggleQueue.length = 2 ∧ (σ (0, 1)).inbox.length = 1
    ∧ ∀ e ∈ pool σ (0, 1), Timely (σ (0, 1)).sl e.pMessage := by
  have hrun : (run twoBGs (sendBatch zeroBatch init) gateRun).map
      (fun σ => ((σ (0, 1)).sl.juggleQueue.length, (σ (0, 1)).inbox.length)) = some (2, 1) := by
    decide +kernel
  obtain ⟨σ, hσ, hresult⟩ := Option.map_eq_some_iff.mp hrun
  rw [Prod.mk.injEq] at hresult
  exact ⟨σ, reachable_of_batch hσ, hresult.1, hresult.2,
    (nothing_comes_late valid_twoBGs (reachable_of_batch hσ) (by decide)).2.2⟩

end RCanopus.Hybrid
