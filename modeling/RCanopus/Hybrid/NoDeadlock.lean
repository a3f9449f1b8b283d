import RCanopus.Hybrid.JuggleQueue
import RCanopus.Hybrid.Service

/-!
# The gate cannot deadlock

A Preprepare that waits at the gate stops round 2 of its BG, and it waits for the round 2 of others.
But its leader has proposed it after it had all results itself, so every other BG has committed its
client Preprepare for the cycle, and nothing but a full commit can be missing there. A full commit
never waits. So in a quiescent state the gate is open, and round 2 and round 3 come to an end as in
`ConnManager.cpp`.
-/

namespace RCanopus.Hybrid

open Cluster Gathering

variable {d : Deployment} {σ : Cluster} {b i A j : Nat} {y z : Peer} {c : UInt16} {e : QueueElement}
  {a : LockStep.State} {log : List MessageRound2Preprepare} {k : FetchKind}
  {token : FetchKind → Peer → Nat → UInt16 → Token}

/-- What is left in a quiescent state waits. -/
theorem waits_of_quiescent (hq : Quiescent d σ) (hjuggle : JuggleOk σ) (hy : d.Has y)
    (halive : (σ y).crashed = false) (he : e ∈ pool σ y) : Waits (σ y).sl e.pMessage := by
  obtain ⟨hinbox, hleft⟩ := hq y hy
  have hmem : e ∈ (σ y).sl.juggleQueue := by
    unfold pool at he
    rw [hinbox] at he
    simpa using he
  refine (hjuggle y halive).waits hinbox e ?_
  rwa [hleft]

/-! ## What never waits -/

section Rest

variable (hwaits : ∀ y, d.Has y → ∀ e ∈ pool σ y, Waits (σ y).sl e.pMessage)

include hwaits

/-- No full commit is on its way. -/
theorem com_eq_closed (hinv : Round2Inv d σ b a log) (hb : b < d.conf.numBG)
    (hi : i < d.conf.numSL b) : a.com i = a.closed := by
  refine Nat.le_antisymm (hinv.lock.com_le_closed i hi) (Nat.not_lt.mp fun hlt => ?_)
  have hflight := (hinv.flight i hi).fullCommit
  rw [if_pos hlt] at hflight
  have hmem : fullCommitAt b i (a.com i) (collectorOf log (a.com i))
      ∈ ofType .round2FullCommit (pool σ (b, i)) := by
    rw [hflight]
    exact Multiset.mem_singleton_self _
  exact (hwaits (b, i) ⟨hb, hi⟩ _ (mem_ofType.mp hmem).1).canWait

/-- All SLs of a BG are at the same place. -/
theorem entries_eq (h2 : Round2Ok d σ) (hb : b < d.conf.numBG) (hi : i < d.conf.numSL b)
    (hj : j < d.conf.numSL b) : entries σ (b, i) = entries σ (b, j) := by
  obtain ⟨a, log, hinv⟩ := h2 b (Nat.lt_of_le_of_lt (Nat.zero_le i) hi)
  unfold entries
  rw [committed_eq hinv hi, committed_eq hinv hj, com_eq_closed hwaits hinv hb hi,
    com_eq_closed hwaits hinv hb hj]

variable (h : Round3Inv d σ token)

include h

/-- No request for a result is on its way. -/
theorem result_not_asked (hA : A < d.conf.numBG) (hj : j < d.conf.numSL A) :
    token .result z A c ≠ .asked j := by
  intro htoken
  have hcount := h.requests (A, j) .result z c
  rw [if_pos htoken] at hcount
  obtain ⟨e, he, hkey⟩ := Multiset.countP_pos.mp (hcount.trans_gt Nat.one_pos)
  have hwait := (hwaits (A, j) ⟨hA, hj⟩ e he).canWait
  obtain ⟨-, hkey⟩ := requestFrom_eq.mp hkey
  cases hm : e.pMessage with
  | round3FetchRequest m =>
    rw [hm] at hwait
    exact hwait
  | round3GeneralFetch m =>
    rw [hm] at hkey
    have hkind := (Prod.mk.inj (Option.some.inj hkey)).1
    split at hkind <;> exact absurd hkind (by simp)
  | _ =>
    rw [hm] at hkey
    exact absurd hkey (by simp [Message.requestKey])

/-- No result is on its way. -/
theorem result_not_answered (hy : d.Has y) : token .result y A c ≠ .answered y.2 := by
  intro htoken
  have hcount := h.responses y .result A c
  rw [if_pos (show held d.layout token .result y A c = .answered y.2 from htoken)] at hcount
  obtain ⟨e, he, hkey⟩ := Multiset.countP_pos.mp (hcount.trans_gt Nat.one_pos)
  have hwait := (hwaits y hy e he).canWait
  cases hm : e.pMessage with
  | round3FetchResponse m =>
    rw [hm] at hwait
    exact hwait
  | _ =>
    rw [hm] at hkey
    exact absurd hkey (by simp [Message.responseKey])

/-! ## The gate -/

/-- An SL whose leader has proposed the connectivity of a cycle has all results. -/
theorem complete_of_proposed (h2 : Round2Ok d σ) (hy : d.Has y)
    (hpos : ∀ A < d.conf.numBG, 0 < d.conf.numSL A) (hclient : .client c ∈ entries σ y)
    (hconn : .localConnectivity c ∈ (gathering σ token).log y.1) :
    Complete d (gathering σ token) y .result c := by
  obtain ⟨hN, hleader⟩ := (h.inv.followed .result y.1 c).mp (List.mem_append_left _ hconn)
  refine ⟨hN, fun A hA hne => ?_⟩
  show token .result y A c = .done
  have hasked : token .result y A c ≠ .idle :=
    (h.inv.asked .result y A c).mpr ⟨hy.1, hy.2, hA, hne, rfl, hclient⟩
  cases htoken : token .result y A c with
  | idle => exact absurd htoken hasked
  | done => rfl
  | asked j =>
    have hj := h.inv.asked_lt .result y A c j htoken (hpos A hA)
    exact absurd htoken (result_not_asked hwaits h hA hj)
  | answered i =>
    -- the answers for an SL go to this SL
    obtain ⟨-, hholder⟩ := h.inv.answered_lt .result y A c i htoken
    have hi : i = y.2 := congrArg Prod.snd (Option.some.inj hholder)
    exact absurd (hi ▸ htoken) (result_not_answered hwaits h hy)
  | pending j =>
    -- the leader has the result, so some SL there has committed, and then this one has too
    obtain ⟨hj, hnot⟩ := h.inv.pending .result y A c j htoken
    obtain ⟨j', hj', hmem⟩ := h.inv.served .result (y.1, 0) A c (Or.inr (hleader A hA hne))
    have heq := entries_eq hwaits h2 hA hj' hj
    exact absurd (show _ ∈ entries σ (A, j) from heq ▸ hmem) hnot

omit hwaits in
/-- A Preprepare that waits at an SL was issued and is not committed there. -/
theorem preprepare_of_mem (h2 : Round2Ok d σ) {p : MessageRound2Preprepare} (hy : d.Has y)
    (he : e ∈ pool σ y) (hm : e.pMessage = .round2Preprepare p) :
    entryOf p ∈ (gathering σ token).log y.1 ∧ entryOf p ∉ entries σ y := by
  obtain ⟨b, i⟩ := y
  have hn := Nat.lt_of_le_of_lt (Nat.zero_le i) hy.2
  obtain ⟨a, log, hinv⟩ := h2 b hn
  have hi : i < d.conf.numSL b := hy.2
  have hlog := issued_eq hinv hn
  have hmem : e ∈ ofType .round2Preprepare (pool σ (b, i)) :=
    mem_ofType.mpr ⟨he, by rw [hm]; rfl⟩
  rw [(hinv.flight i hi).preprepare, Multiset.mem_coe] at hmem
  obtain ⟨q, hq, rfl⟩ := List.mem_map.mp hmem
  have hp : p = q.copy := (Message.round2Preprepare.inj hm).symm
  have hentry : entryOf p = entryOf q := by rw [hp, entryOf_copy]
  rw [hentry]
  have hgathering : (gathering σ token).log b = log.map entryOf := by
    show (Cluster.issued σ b).map entryOf = _
    rw [hlog]
  refine ⟨hgathering ▸ List.mem_map_of_mem (List.mem_of_mem_drop hq), fun hcommitted => ?_⟩
  -- what waits comes later in the log than what is committed
  have hnodup := (List.nodup_append.mp (h.inv.nodup b)).1
  rw [hgathering, ← List.take_append_drop (a.acc i) log, List.map_append] at hnodup
  unfold entries at hcommitted
  rw [committed_eq hinv hi, List.map_map] at hcommitted
  obtain ⟨q', hq', heq⟩ := List.mem_map.mp hcommitted
  have heq : entryOf q' = entryOf q := (entryOf_copy q').symm.trans heq
  have hq' := (List.take_prefix_take_left (hinv.lock.com_le_acc i hi)).subset hq'
  exact (List.nodup_append.mp hnodup).2.2 _ (List.mem_map_of_mem hq') _
    (List.mem_map_of_mem hq) heq

/-- **The gate is open** in a quiescent state. -/
theorem not_atGate (h2 : Round2Ok d σ) (hpos : ∀ A < d.conf.numBG, 0 < d.conf.numSL A)
    (hy : d.Has y) (he : e ∈ pool σ y) : ¬ AtGate (σ y).sl e.pMessage := by
  intro hgate
  cases hm : e.pMessage with
  | round2Preprepare p =>
    rw [hm] at hgate
    obtain ⟨ht, status, hget, hstate⟩ := hgate
    obtain ⟨hconn, hnot⟩ := preprepare_of_mem h h2 hy he hm
    rw [entryOf_of_localConnectivity ht] at hconn hnot
    have hstatus := (h.sl y).status p.cycle
    rw [hget] at hstatus
    have hcomplete := complete_of_proposed hwaits h h2 hy hpos hstatus.client hconn
    exact hstate (hstatus.collected hcomplete hnot).1
  | _ =>
    rw [hm] at hgate
    exact hgate

end Rest

/-! ## Round 3 -/

namespace Gathering

/-- Everything issued is committed, and no request whose answer is there is under way. -/
structure Drained (L : Layout) (x : Gathering) : Prop where
  committed : ∀ b < L.numBG, ∀ i < L.numSL b, x.committed (b, i) = x.log b
  queue : ∀ b < L.numBG, x.queue b = []
  envoys : ∀ b < L.numBG, ∀ c, ∃ i < L.numSL b, L.envoy b c = some i
  tokens : ∀ k y A c, y.1 < L.numBG → y.2 < L.numSL y.1 → A < L.numBG →
    k.trigger c ∈ x.log A → x.token k y A c = .idle ∨ x.token k y A c = .done

variable {L : Layout} {x : Gathering}

/-- A trigger that all BGs have committed leads to answers of all. -/
theorem Drained.all_done (hd : Drained L x) (h : x.Inv L) (hN : 2 ≤ L.numBG)
    (htrigger : ∀ A < L.numBG, k.trigger c ∈ x.log A) (hb : b < L.numBG) :
    L.AllOthers b fun A => held L x.token k (b, 0) A c = .done := by
  refine ⟨hN, fun A hA hne => ?_⟩
  obtain ⟨i, hi, henvoy⟩ := hd.envoys b hb c
  -- the SL that asks for the kind
  obtain ⟨y, hy, hself, hlt⟩ : ∃ y, holder L k (b, 0) c = some y ∧ holder L k y c = some y
      ∧ y.2 < L.numSL y.1 := by
    by_cases hk : k = .result
    · subst hk
      exact ⟨(b, 0), rfl, rfl, Nat.lt_of_le_of_lt (Nat.zero_le i) hi⟩
    · have hholder : holder L k (b, 0) c = some (b, i) := by
        unfold holder
        rw [if_neg hk, henvoy]
        rfl
      have hsame : holder L k (b, i) c = holder L k (b, 0) c := holder_congr hk rfl
      exact ⟨(b, i), hholder, hsame.trans hholder, hi⟩
  rw [held_eq hy]
  have hbg : y.1 = b := holder_bg hy
  subst hbg
  refine (hd.tokens k y A c hb hlt hA (htrigger A hA)).resolve_left ?_
  refine (h.asked k y A c).mpr ⟨hb, hlt, hA, hne, hself, ?_⟩
  rw [hd.committed y.1 hb y.2 hlt]
  exact htrigger y.1 hb

/-- **Every cycle that all BGs have entered is closed by all.** -/
theorem Drained.closed (hd : Drained L x) (h : x.Inv L)
    (hclient : ∀ A < L.numBG, .client c ∈ x.log A) (hb : b < L.numBG) :
    closer L.numBG c ∈ x.log b := by
  by_cases hone : L.numBG = 1
  · unfold closer
    rw [if_pos hone]
    exact hclient b hb
  have hN : 2 ≤ L.numBG := by omega
  rw [closer_of_two hN]
  -- what all have committed is followed up by all
  have hfollow : ∀ k : FetchKind, (∀ A < L.numBG, k.trigger c ∈ x.log A) →
      ∀ A < L.numBG, k.follow c ∈ x.log A := by
    intro k htrigger A hA
    have hmem := (h.followed k A c).mpr (hd.all_done h hN htrigger hA)
    rwa [hd.queue A hA, List.append_nil] at hmem
  exact hfollow .membership (hfollow .connectivity (hfollow .result hclient)) b hb

end Gathering

section Round3

variable (h : Round3Inv d σ token)
  (hwaits : ∀ y, d.Has y → ∀ e ∈ pool σ y, RCanopus.Waits (σ y).sl e.pMessage)

include h hwaits

/-- A request waits only for its cycle to start. -/
theorem not_asked (hA : A < d.conf.numBG) (hj : j < d.conf.numSL A)
    (htrigger : k.trigger c ∈ entries σ (A, j)) : token k z A c ≠ .asked j := by
  intro htoken
  have hcount := h.requests (A, j) k z c
  rw [if_pos htoken] at hcount
  obtain ⟨e, he, hkey⟩ := Multiset.countP_pos.mp (hcount.trans_gt Nat.one_pos)
  have hwait := hwaits (A, j) ⟨hA, hj⟩ e he
  obtain ⟨-, hkey⟩ := requestFrom_eq.mp hkey
  cases hm : e.pMessage with
  | round3FetchRequest m =>
    rw [hm] at hwait
    exact hwait
  | round3GeneralFetch m =>
    rw [hm] at hwait hkey
    obtain ⟨hdemanded, hnone⟩ := hwait
    have hkey : (FetchKind.connectivity, m.senderBGid.toNat, m.cycle) = (k, z.1, c) := by
      rw [← Option.some.inj hkey, if_pos hdemanded]
    simp only [Prod.mk.injEq] at hkey
    obtain ⟨rfl, -, rfl⟩ := hkey
    have hidle : (gathering σ token).token .connectivity z A m.cycle ≠ .idle := fun hidle => by
      simp [gathering, htoken] at hidle
    have hclient : .client m.cycle ∈ entries σ (A, j) :=
      h.inv.needs_committed hj htrigger (.follow .result m.cycle)
    rcases h.status_or_closed hclient with ⟨status, hget, -⟩ | ⟨hclosed, -⟩
    · rw [hnone] at hget
      exact absurd hget (by simp)
    · rw [closer_of_two (show 2 ≤ d.conf.numBG from h.inv.two_of_token hidle)] at hclosed
      refine h.inv.not_closed (by simp) hidle (fun hdone => ?_) (h.inv.mem_all hj hclosed)
      simp [gathering, htoken] at hdone
  | _ =>
    rw [hm] at hkey
    exact absurd hkey (by simp [Message.requestKey])

/-- A response waits only for the phase that needs it. -/
theorem not_answered (hcommitted : ∀ i < d.conf.numSL y.1,
      entries σ (y.1, i) = (Cluster.issued σ y.1).map entryOf) (hy : d.Has y) :
    held d.layout token k y A c ≠ .answered y.2 := by
  intro htoken
  have hcount := h.responses y k A c
  rw [if_pos htoken] at hcount
  obtain ⟨e, he, hkey⟩ := Multiset.countP_pos.mp (hcount.trans_gt Nat.one_pos)
  have hwait := hwaits y hy e he
  -- the request was sent from here or from the envoy, which has committed the same
  have hheld : held d.layout token k y A c ≠ .idle := by
    rw [htoken]
    simp
  obtain ⟨w, hholder, hbg, heq⟩ := exists_holder hheld
  have hw : (gathering σ token).token k w A c = .answered y.2 := heq.symm.trans htoken
  have hidle : (gathering σ token).token k w A c ≠ .idle := by rw [hw]; simp
  have hdone : (gathering σ token).token k w A c ≠ .done := by rw [hw]; simp
  obtain ⟨-, hlt, hA, hne, -, hmem⟩ := (h.inv.asked k w A c).mp hidle
  have htrigger : k.trigger c ∈ entries σ y := by
    have hsame : entries σ w = entries σ y := by
      rw [show w = (y.1, w.2) from Prod.ext hbg rfl, hcommitted w.2 (hbg ▸ hlt),
        ← hcommitted y.2 hy.2]
    exact hsame ▸ hmem
  have hopen : ∃ status, (σ y).sl.mapRound3Status c = some status
      ∧ StatusOk d σ (gathering σ token) y c status := by
    have hself : (w.1, y.2) = y := Prod.ext hbg rfl
    obtain ⟨hclient, hfull⟩ := h.inv.home_open (j := y.2) hidle hdone (hbg ▸ hy.2)
      (hself ▸ hholder)
    rw [hself] at hclient
    refine (h.status_or_closed hclient).resolve_right fun ⟨hclosed, _⟩ => ?_
    rw [closer_of_two (show 2 ≤ d.conf.numBG from h.inv.two_of_token hidle)] at hclosed
    exact hfull (hbg ▸ h.inv.mem_all hy.2 hclosed)
  obtain ⟨status, hget, hstatus⟩ := hopen
  cases hm : e.pMessage with
  | round3FetchResponse m =>
    rw [hm] at hwait
    exact hwait
  | round3ConnectivityResponse m =>
    rw [hm] at hwait hkey
    have hkey : (FetchKind.connectivity, m.senderBGid.toNat, m.cycle) = (k, A, c) :=
      Option.some.inj hkey
    simp only [Prod.mk.injEq] at hkey
    obtain ⟨rfl, rfl, rfl⟩ := hkey
    refine hwait status hget (hstatus.connecting htrigger fun hmember => ?_).2.1
    have hheld := (h.inv.token_localMembership (h.inv.mem_all hy.2 hmember) hA (hbg ▸ hne)).1
    exact hdone (heq.symm.trans ((held_congr (by simp) rfl).trans hheld))
  | round3MembershipResponse m =>
    rw [hm] at hwait hkey
    have hkey : (FetchKind.membership, m.senderBGid.toNat, m.cycle) = (k, A, c) :=
      Option.some.inj hkey
    simp only [Prod.mk.injEq] at hkey
    obtain ⟨rfl, rfl, rfl⟩ := hkey
    exact hwait status hget (hstatus.joining htrigger).1
  | _ =>
    rw [hm] at hkey
    exact absurd hkey (by simp [Message.responseKey])

end Round3

/-! ## Quiescent states -/

section Quiescent

variable (hvalid : d.conf.Valid) (hreach : Reachable d σ) (hq : Quiescent d σ)

include hvalid hreach hq

/-- Nothing waits at the gate, so all that waits would wait in the other program. -/
theorem mainWaits_of_quiescent (hy : d.Has y) (he : e ∈ pool σ y) :
    RCanopus.Waits (σ y).sl e.pMessage := by
  have hok := clusterOk_of_reachable hvalid.fits hreach
  obtain ⟨token, h⟩ := hok.inv
  have hpos : ∀ b < d.conf.numBG, 0 < d.conf.numSL b := fun b hb => (hvalid.quorum b hb).1
  have hrest : ∀ y, d.Has y → ∀ e ∈ pool σ y, Waits (σ y).sl e.pMessage := fun y hy e he =>
    waits_of_quiescent hq (juggleOk_of_reachable hvalid.fits hreach) hy
      (crashed_eq_false hvalid hreach hy.1) he
  exact (hrest y hy e he).resolve_right (not_atGate hrest h hok.round2 hpos hy he)

theorem ended_of_quiescent (hb : b < d.conf.numBG) (hwrap : ¬ Wrapped σ b) : Ended d σ b := by
  have hok := clusterOk_of_reachable hvalid.fits hreach
  have hpos : 0 < d.conf.numSL b := (hvalid.quorum b hb).1
  have halive : ∀ i < d.conf.numSL b, (σ (b, i)).crashed = false := fun i hi =>
    crashed_eq_false hvalid hreach hb
  obtain ⟨a, log, hinv⟩ := hok.round2 b hpos
  exact ended_of_waits hinv hpos
    (fun i hi e he => mainWaits_of_quiescent hvalid hreach hq ⟨hb, hi⟩ he) halive
    (fun i hi => hok.unstuck _ (halive i hi)) hwrap

/-- Every cycle that all leaders have started is closed by all SLs. -/
theorem closed_of_quiescent (hwrap : ∀ b < d.conf.numBG, ¬ Wrapped σ b)
    (hclient : ∀ A < d.conf.numBG, .client c ∈ (issued σ A).map entryOf) (hy : d.Has y) :
    c ∈ closedOf (σ y).sl.history := by
  obtain ⟨token, h⟩ := (clusterOk_of_reachable hvalid.fits hreach).inv
  have hwaits := fun y hy e he => mainWaits_of_quiescent (y := y) (e := e) hvalid hreach hq hy he
  have hended := fun b hb => ended_of_quiescent hvalid hreach hq hb (hwrap b hb)
  have hdrained : Drained d.layout (gathering σ token) := by
    refine ⟨fun b hb => (hended b hb).committed, fun b hb => ?_,
      fun b hb c => hvalid.exists_envoy hb c, fun k z A c hz hlt hA htrigger => ?_⟩
    · exact List.map_eq_nil_iff.mpr (hended b hb).queue
    · have htrigger : ∀ j < d.conf.numSL A, k.trigger c ∈ entries σ (A, j) := fun j hj => by
        rw [(hended A hA).committed j hj]
        exact htrigger
      -- a token that is under way would leave a message that does not wait
      cases htoken : token k z A c with
      | idle => exact Or.inl htoken
      | done => exact Or.inr htoken
      | asked j =>
        have hj := h.inv.asked_lt k z A c j htoken (hvalid.quorum A hA).1
        exact absurd htoken (not_asked h hwaits hA hj (htrigger j hj))
      | pending j =>
        obtain ⟨hj, hnot⟩ := h.inv.pending k z A c j htoken
        exact absurd (htrigger j hj) hnot
      | answered i =>
        obtain ⟨hi, hholder⟩ := h.inv.answered_lt k z A c i htoken
        refine absurd ((held_eq hholder).trans htoken) ?_
        exact not_answered (y := (z.1, i)) h hwaits (hended z.1 hz).committed ⟨hz, hi⟩
  have hlog : closer d.conf.numBG c ∈ (issued σ y.1).map entryOf :=
    hdrained.closed h.inv hclient hy.1
  rw [← (hended y.1 hy.1).committed y.2 hy.2] at hlog
  rw [(h.sl y).closed, (h.sl y).storage]
  exact mem_closed.mpr hlog

end Quiescent

/--
**The gate cannot deadlock.** In a quiescent state in which no sequence counter has wrapped, no SL
has a Preprepare left, every SL has passed every client cycle to `round3_committed` that the leaders
of all BGs have issued, and no leader has anything left to propose.
-/
theorem gate_cannot_deadlock (hvalid : d.conf.Valid) (hreach : Reachable d σ)
    (hq : Quiescent d σ) (hwrap : ∀ b < d.conf.numBG, ¬ Wrapped σ b) :
    (∀ y, d.Has y → ∀ e ∈ pool σ y, e.pMessage.msgType ≠ .round2Preprepare)
      ∧ (∀ c, (∀ A < d.conf.numBG, ∃ p ∈ issued σ A, p.requestType = requestTypeFromClient
          ∧ p.cycle = c) → ∀ y, d.Has y → c ∈ closedOf (σ y).sl.history)
      ∧ ∀ b < d.conf.numBG, (σ (b, 0)).sl.pLeaderRound2PendingPreprepareRaw = [] := by
  have hended := fun b hb => ended_of_quiescent hvalid hreach hq hb (hwrap b hb)
  refine ⟨fun y hy => (hended y.1 hy.1).preprepares y.2 hy.2, fun c hclient y hy => ?_,
    fun b hb => (hended b hb).queue⟩
  refine closed_of_quiescent hvalid hreach hq hwrap (fun A hA => ?_) hy
  obtain ⟨p, hp, htype, hcycle⟩ := hclient A hA
  exact List.mem_map.mpr ⟨p, hp, entryOf_client.mpr ⟨htype, hcycle⟩⟩

/-- At the end of the run in which a Preprepare waits at the gate all SLs have closed the cycle. -/
theorem twoBGs_gate_opens : ∃ σ, Reachable twoBGs σ ∧ Quiescent twoBGs σ
    ∧ ∀ y, twoBGs.Has y → 1 ∈ closedOf (σ y).sl.history := by
  obtain ⟨σ, hrun, hq, hlen, hlen', hfirst, hsecond, -⟩ := closingRun_result
  have hreach : Reachable twoBGs σ := reachable_of_batch hrun
  have hwrap : ∀ b < 2, ¬ Wrapped σ b := fun b hb => by
    unfold Wrapped
    rcases Nat.le_one_iff_eq_zero_or_eq_one.mp (Nat.le_of_lt_succ hb) with rfl | rfl
    · omega
    · omega
  refine ⟨σ, hreach, hq,
    (gate_cannot_deadlock valid_twoBGs hreach hq hwrap).2.1 1 fun A hA => ?_⟩
  have hA : A < 2 := hA
  rcases Nat.le_one_iff_eq_zero_or_eq_one.mp (Nat.le_of_lt_succ hA) with rfl | rfl
  · exact exists_of_clientsOf hfirst
  · exact exists_of_clientsOf hsecond

end RCanopus.Hybrid
