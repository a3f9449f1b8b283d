import RCanopus.Baseline.Juggled
import RCanopus.Baseline.LateAnswers
import Mathlib.Data.List.Rotate

/-!
# Messages that are left behind

The main loop retries what is juggled once after each new message, front to back. So a message is
left behind when a later one in the queue makes it acceptable. That can happen in one way: a full
commit that lacks results is put back behind the Preprepare of the next round.

In a run in which it does not happen nothing is left behind: once an SL has nothing more to
receive, the dispatcher would put back all that is juggled.
-/

namespace RCanopus.Baseline

open Baseline.Cluster

/-! ## What is stranded -/

def Message.isRound2Preprepare : Message → Bool
  | .common (.round2Preprepare _) => true
  | _ => false

def Message.isRound2FullCommit : Message → Bool
  | .common (.round2FullCommit _) => true
  | _ => false

/--
Between two iterations of its main loop an SL to which nothing is on the way has no juggled message
that the dispatcher would take.
-/
def NoneStranded (d : Deployment) (σ : Cluster) : Prop :=
  ∀ x, d.Has x → (σ x).crashed = false → (σ x).passLeft = 0 → (σ x).inbox = [] →
    ∀ e ∈ (σ x).sl.juggleQueue, ∀ ω, ∃ t,
      dispatcherRound2 (d.env x) ω e
          { (σ x).sl with juggleQueue := (σ x).sl.juggleQueue.erase e } = .ok t
        ∧ t.juggleQueue = (σ x).sl.juggleQueue.erase e ++ [e]

/-- No Preprepare waits at an SL that gets a full commit for which it lacks results. -/
def NotOvertaken (σ : Cluster) : Label → Prop
  | .receive x i _ => ∀ e ∈ (σ x).inbox[i]?, e.pMessage.isRound2FullCommit = true →
      LacksResults (σ x).sl → ∀ e' ∈ (σ x).sl.juggleQueue, e'.pMessage.isRound2Preprepare = false
  | _ => True

theorem Message.isRound2FullCommit_iff {m : Message} :
    m.isRound2FullCommit = true ↔ ∃ m', m = .common (.round2FullCommit m') := by
  constructor
  · intro h
    unfold isRound2FullCommit at h
    split at h
    · next m' => exact ⟨m', rfl⟩
    · exact absurd h Bool.false_ne_true
  · rintro ⟨m', rfl⟩
    rfl

/-! ## What is taken leaves the others waiting -/

section Taken

variable {d : Deployment} {σ σ' : Cluster} {x : Peer} {e e' : QueueElement} {ω : Choice}
  {before : Node} {s t : ConnManager}

/-- What an SL sends to itself is on its way to it. -/
theorem Cluster.Dispatch.inbox_ne_nil (hd : Dispatch d σ σ' x e ω before)
    (ht : dispatcherRound2 (d.env x) ω e before.sl = .ok t) {q : QueueElement}
    (hq : q ∈ t.sendQueue) (hself : none ∈ q.upPeers) : (σ' x).inbox ≠ [] := by
  intro hnil
  rw [hd.result, install_inbox_self, ht] at hnil
  have hnone := List.flatMap_eq_nil_iff.mp (List.append_eq_nil_iff.mp hnil).2 q hq
  unfold deliveries at hnone
  rw [if_pos ⟨rfl, List.contains_iff_mem.mpr hself⟩] at hnone
  exact absurd (List.append_eq_nil_iff.mp hnone).1 (by simp)

/-- A juggled message waits at the SL. -/
theorem Cluster.Dispatch.mem_pool_juggled (hd : Dispatch d σ σ' x e ω before)
    (he : e' ∈ before.sl.juggleQueue) : e' ∈ pool σ x := by
  rw [hd.taken]
  exact Multiset.mem_cons_of_mem (Multiset.mem_add.mpr (Or.inr (Multiset.mem_coe.mpr he)))

section Round2

variable {b i : Nat} {a : LockStep.State} {log : List MessageRound2Preprepare}
  (hinv : Round2Inv d σ.erase b a log) (hi : i < d.conf.numSL b)

include hinv hi

/-- Partial commits wait at the collector of the open entry only. -/
theorem Round2Inv.collector_of_mem {m : MessageRound2PartialCommit} (he : e ∈ pool σ (b, i))
    (hm : e.pMessage = .common (.round2PartialCommit m)) : collectorOf log a.closed = i := by
  have hmem : e.erase ∈ RCanopus.Cluster.ofType .round2PartialCommit _ := mem_ofType_erase he hm
  rw [(hinv.flight i hi).partialCommit] at hmem
  by_contra hne
  rw [if_neg hne] at hmem
  exact absurd hmem (Multiset.notMem_zero _)

/-- Full commits wait for entries that are not committed yet. -/
theorem Round2Inv.com_lt_of_mem {m : MessageRound2FullCommit} (he : e ∈ pool σ (b, i))
    (hm : e.pMessage = .common (.round2FullCommit m)) : a.com i < a.closed := by
  have hmem : e.erase ∈ RCanopus.Cluster.ofType .round2FullCommit _ := mem_ofType_erase he hm
  rw [(hinv.flight i hi).fullCommit] at hmem
  by_contra hge
  rw [if_neg hge] at hmem
  exact absurd hmem (Multiset.notMem_zero _)

end Round2

/-! ### One kind of message at a time -/

/-- When a Preprepare is taken, and nothing is on the way to the SL. -/
theorem Cluster.Dispatch.waits_preprepare {b i : Nat} {a : LockStep.State}
    {log : List MessageRound2Preprepare} {m : MessageRound2Preprepare}
    (hd : Dispatch d σ σ' (b, i) e ω before) (hinv : Round2Inv d σ.erase b a log)
    (hlog : log[a.acc i]?.map MessageRound2Preprepare.copy = some m) (hacc : a.acc i = a.com i)
    (hs : dispatcherRound2 (d.env (b, i)) ω e before.sl
      = .ok (before.sl.absorb (afterAccept (d.env (b, i)) m before.sl.round2)))
    (hinbox : (σ' (b, i)).inbox = []) (he' : e' ∈ before.sl.juggleQueue)
    (hw : Waits before.sl e'.pMessage) :
    Waits (before.sl.absorb (afterAccept (d.env (b, i)) m before.sl.round2)) e'.pMessage := by
  have hi : i < d.conf.numSL b := hd.has.2
  have hclosed : a.acc i = a.closed := by
    have := hinv.lock.com_le_closed i hi
    have := hinv.lock.closed_le_acc i hi
    omega
  -- the collector would have its own vote on the way
  have hcollector : m.collectorSLid.toNat ≠ i := fun heq => by
    refine hd.inbox_ne_nil hs (q := .common (partialCommitElement (d.env (b, i)).conf m)) ?_ ?_
      hinbox
    · exact List.mem_append_right _ (List.mem_map_of_mem List.mem_cons_self)
    · have hpeer : collectorPeer (d.env (b, i)).conf m = none := if_pos heq
      show none ∈ [collectorPeer (d.env (b, i)).conf m]
      rw [hpeer]
      exact List.mem_cons_self
  have hround : roundOf (before.sl.absorb (afterAccept (d.env (b, i)) m before.sl.round2))
      = .waitingForFullcommit m := by
    unfold roundOf
    show Option.getD (some (if m.collectorSLid.toNat = i then _ else _)) _ = _
    rw [if_neg hcollector, Option.getD_some]
  have hpool := hd.mem_pool_juggled he'
  cases hm : e'.pMessage with
  | common m' =>
    cases m' with
    | round2Preprepare m' =>
      refine Or.inl ?_
      rw [hround]
      simp [CycleStatus.waitingForFullcommit, CycleStatus.active]
    | round2PartialCommit m' =>
      obtain ⟨p, hp, hcopy⟩ := Option.map_eq_some_iff.mp hlog
      have hcol := Round2Inv.collector_of_mem hinv hi hpool hm
      rw [← hclosed, collectorOf_eq hp] at hcol
      rw [← hcopy] at hcollector
      exact absurd hcol hcollector
    | round2FullCommit m' =>
      have := Round2Inv.com_lt_of_mem hinv hi hpool hm
      omega
    | _ =>
      rw [hm] at hw
      exact hw.elim
  | round3FullCommit m' =>
    rw [hm] at hw
    exact hw.elim
  | _ =>
    rw [hm] at hw
    exact hw

/-- When a partial commit is taken, and nothing is on the way to the SL. -/
theorem Cluster.Dispatch.waits_partialCommit {b i : Nat} {m : MessageRound2PartialCommit}
    {p : MessageRound2Preprepare} {counter : Nat} {el : RCanopus.QueueElement}
    (hd : Dispatch d σ σ' (b, i) e ω before)
    (hstatus : before.sl.common.pRound2CurrentStatus
      = some (.collecting (d.conf.numSL b) p counter))
    (hs : dispatcherRound2 (d.env (b, i)) ω e before.sl = .ok (before.sl.absorb
      (afterCount (d.env (b, i)) p counter el m before.sl.round2)))
    (hinbox : (σ' (b, i)).inbox = []) (hw : Waits before.sl e'.pMessage) :
    Waits (before.sl.absorb (afterCount (d.env (b, i)) p counter el m before.sl.round2))
      e'.pMessage := by
  by_cases hlast : counter + 1 = (d.env (b, i)).conf.numSL (d.env (b, i)).conf.bGid
  · refine absurd hinbox (hd.inbox_ne_nil hs (q := .common
      (fullCommitElement (d.env (b, i)).conf p)) ?_ List.mem_cons_self)
    refine List.mem_append_right _ (List.mem_map_of_mem ?_)
    unfold afterCount
    rw [if_pos hlast]
    exact List.mem_append_right _ List.mem_cons_self
  · have hround : roundOf before.sl = .collecting (d.conf.numSL b) p counter :=
      congrArg (Option.getD · _) hstatus
    refine SameGate.waits (s := before.sl) ?_ |>.mpr hw
    unfold afterCount
    rw [if_neg hlast]
    refine ⟨?_, ?_, ?_, ?_, rfl, rfl, rfl, rfl⟩ <;> rw [hround] <;> rfl

/-- When a full commit is taken at an SL that does not lead, all messages of round 2 wait. -/
theorem waits_fullCommit {env : Env} (hleader : env.conf.isRound2Leader = false)
    (hnone : s.common.pRound2CurrentStatus = none) (ht : spawnRound2 env ω s = .ok t)
    (hm : e.pMessage.isRound2Preprepare = false) {x : Peer} (hx : x.2 ≠ 0)
    (hj : Juggles x e.pMessage) : Waits t e.pMessage := by
  have hspawn : spawnRound2 env ω s = .ok (s.absorb s.round2) := by
    refine shared_ok ?_
    unfold RCanopus.spawnRound2
    rw [hleader, if_neg Bool.false_ne_true]
  obtain rfl : s.absorb s.round2 = t := Outcome.ok.inj (hspawn.symm.trans ht)
  have hround : (roundOf (s.absorb s.round2)).state = .round2WaitingForPreprepare := by
    have hof : roundOf (s.absorb s.round2) = s.common.pRound2CurrentStatus.getD _ := rfl
    rw [hof, hnone]
    rfl
  -- between two rounds only a Preprepare is taken
  cases hm' : e.pMessage with
  | common m =>
    rw [hm'] at hj
    cases m with
    | round2Preprepare m =>
      rw [hm'] at hm
      exact absurd hm (by simp [Message.isRound2Preprepare])
    | round2PartialCommit m => exact Or.inl hround
    | round2FullCommit m => exact Or.inl hround
    | _ => exact hj.elim
  | round3FullCommit m =>
    rw [hm'] at hj
    exact hj.elim
  | _ =>
    rw [hm'] at hj
    exact absurd hj hx

/-- When the status of a cycle changes at a leader, and the messages that wait for it still do. -/
theorem waits_setStatus {c : UInt16} {status : CycleStatus} (hcommon : t.common = s.common)
    (hmap : t.mapRound3Status = (s.setStatus c status).mapRound3Status)
    (hstate : ∀ state, state = .round3WaitingForPreprepareBaseline
      ∨ state = .round3CollectorWaitingForPartialcommitsBaseline → NotIn s c state →
        status.state ≠ state)
    {x : Peer} (hx : x.2 = 0) (hj : Juggles x e.pMessage) (hw : Waits s e.pMessage) :
    Waits t e.pMessage := by
  have hround : roundOf t = roundOf s := by
    unfold roundOf
    rw [hcommon]
  have hnotIn : ∀ c' state, state = .round3WaitingForPreprepareBaseline
      ∨ state = .round3CollectorWaitingForPartialcommitsBaseline → NotIn s c' state →
      NotIn t c' state := fun c' state hs h => by
    unfold NotIn
    rw [hmap]
    unfold ConnManager.setStatus
    dsimp only
    by_cases hc : c' = c
    · subst hc
      rw [Function.update_self]
      exact ⟨status, rfl, hstate state hs h⟩
    · rw [Function.update_of_ne hc]
      exact h
  cases hm : e.pMessage with
  | common m =>
    rw [hm] at hj hw
    cases m with
    | round2Preprepare m =>
      unfold Waits at hw ⊢
      rwa [hround, hcommon]
    | round2PartialCommit m =>
      unfold Waits at hw ⊢
      rwa [hround]
    | round2FullCommit m => exact absurd hx hj
    | _ => exact hw.elim
  | round3Preprepare m =>
    rw [hm] at hw
    exact hnotIn m.cycle _ (Or.inl rfl) hw
  | round3PartialCommit m =>
    rw [hm] at hw
    exact hnotIn m.cycle _ (Or.inr rfl) hw
  | round3FullCommit m =>
    rw [hm] at hw
    exact hw.elim

/-- When a leader accepts a Preprepare of the last round, and nothing is on the way to it. -/
theorem Cluster.Dispatch.waits_preprepare3 {m : MessageRound3PreprepareBaseline}
    {status : CycleStatus} (hd : Dispatch d σ σ' x e ω before)
    (hs : dispatcherRound2 (d.env x) ω e before.sl
      = .ok (afterPreprepare3 (d.env x) m status before.sl))
    (hinbox : (σ' x).inbox = []) (hx : x.2 = 0) (hj : Juggles x e'.pMessage)
    (hw : Waits before.sl e'.pMessage) :
    Waits (afterPreprepare3 (d.env x) m status before.sl) e'.pMessage := by
  have hcollector : m.collectorBGid.toNat ≠ (d.env x).conf.bGid := fun heq => by
    refine hd.inbox_ne_nil hs (List.mem_append_right _ List.mem_cons_self) ?_ hinbox
    show none ∈ [collector3Peer (d.env x) m]
    unfold collector3Peer
    rw [if_pos heq]
    exact List.mem_cons_self
  have hset : (afterPreprepare3 (d.env x) m status before.sl).mapRound3Status
      = (before.sl.setStatus m.cycle (status.enter .round3WaitingForFullcommitBaseline
        .round3FullCommitBaseline 1)).mapRound3Status := by
    unfold afterPreprepare3
    rw [if_neg hcollector]
    rfl
  refine waits_setStatus (s := before.sl) rfl hset ?_ hx hj hw
  rintro state (rfl | rfl) -
  · simp [CycleStatus.enter]
  · simp [CycleStatus.enter]

/-- When a collector counts a partial commit of the last round, and nothing is on the way to it. -/
theorem Cluster.Dispatch.waits_partialCommit3 {m : MessageRound3PartialCommitBaseline}
    {status : CycleStatus} (hd : Dispatch d σ σ' x e ω before)
    (hstatus : before.sl.mapRound3Status m.cycle = some status)
    (hs : dispatcherRound2 (d.env x) ω e before.sl
      = .ok (afterPartialCommit3 (d.env x) m status before.sl))
    (hinbox : (σ' x).inbox = []) (hx : x.2 = 0) (hj : Juggles x e'.pMessage)
    (hw : Waits before.sl e'.pMessage) :
    Waits (afterPartialCommit3 (d.env x) m status before.sl) e'.pMessage := by
  by_cases hlast : status.messageReceivedCounter + 1 = status.messageRequired
  · refine absurd hinbox (hd.inbox_ne_nil hs (q := fullCommit3Element (d.env x) m.cycle) ?_
      List.mem_cons_self)
    unfold afterPartialCommit3
    dsimp only
    rw [if_pos hlast]
    exact List.mem_append_right _ List.mem_cons_self
  · have hsame : afterPartialCommit3 (d.env x) m status before.sl
        = (before.sl.note (.countedPartialCommit m)).setStatus m.cycle
          { status with messageReceivedCounter := status.messageReceivedCounter + 1 } :=
      if_neg hlast
    rw [hsame]
    refine waits_setStatus (s := before.sl) rfl rfl (fun state _ h => ?_) hx hj hw
    obtain ⟨status', hstatus', hne⟩ := h
    rwa [← Option.some.inj (hstatus.symm.trans hstatus')] at hne

/-- **What is taken leaves the others waiting**, unless something is on the way to the SL. -/
theorem CoreOk.waits_taken (h : CoreOk d σ) (hfits : d.conf.Fits) (h1 : Round2Ok d σ.erase)
    (hd : Dispatch d σ σ' x e ω before) (hversion : e.pMessage.header.version = versionLatest)
    (ht : dispatcherRound2 (d.env x) ω e before.sl = .ok t) (hnot : ¬ Waits before.sl e.pMessage)
    (hj : Juggles x e.pMessage) (he' : e' ∈ before.sl.juggleQueue) (hj' : Juggles x e'.pMessage)
    (horder : e'.pMessage.isRound2Preprepare = true → e.pMessage.isRound2FullCommit = false)
    (hinbox : (σ' x).inbox = []) (hw : Waits before.sl e'.pMessage) : Waits t e'.pMessage := by
  obtain ⟨b, i⟩ := x
  obtain ⟨a, log, hinv⟩ := h1 b (Nat.lt_of_le_of_lt (Nat.zero_le _) hd.has.2)
  cases hm : e.pMessage with
  | common m =>
    cases m with
    | round2Preprepare m =>
      rcases hd.preprepare_cases hinv hm with ⟨hwaits, -⟩ | ⟨-, hlog, hacc, hs⟩
      · exact absurd hwaits hnot
      · rw [← Outcome.ok.inj (hs.symm.trans ht)]
        exact hd.waits_preprepare hinv hlog hacc hs hinbox he' hw
    | round2PartialCommit m =>
      rcases hd.partialCommit_cases hinv hm with ⟨hwaits, -⟩ | ⟨-, p, counter, hstatus, hs⟩
      · exact absurd hwaits hnot
      · rw [← Outcome.ok.inj (hs.symm.trans ht)]
        exact hd.waits_partialCommit hstatus hs hinbox hw
    | round2FullCommit m =>
      rcases h.fullCommit_cases hfits h1 hd hm with ⟨-, hwaits, -⟩ | ⟨-, s, -, hnone, hs⟩
      · exact absurd hwaits hnot
      · rw [hm] at hj horder
        have hi : i ≠ 0 := hj
        -- here a Preprepare would become acceptable, so none may be among the others
        refine waits_fullCommit (beq_eq_false_iff_ne.mpr hi) hnone (hs.symm.trans ht) ?_ hi hj'
        refine Bool.eq_false_iff.mpr fun hp => ?_
        exact absurd (horder hp) (by simp [Message.isRound2FullCommit])
    | _ =>
      rw [hm] at hj
      exact hj.elim
  | round3Preprepare m =>
    rcases h.preprepare3_cases hd hm hversion with ⟨hwaits, -⟩ | ⟨-, hs⟩
    · exact absurd hwaits hnot
    · obtain ⟨status, rfl⟩ := hs t ht
      rw [hm] at hj
      exact hd.waits_preprepare3 ht hinbox hj hj' hw
  | round3PartialCommit m =>
    rcases h.partialCommit3_cases hd hm hversion with ⟨hwaits, -⟩ | ⟨-, hs⟩
    · exact absurd hwaits hnot
    · obtain ⟨status, hstatus, rfl⟩ := hs t ht
      rw [hm] at hj
      exact hd.waits_partialCommit3 hstatus ht hinbox hj hj' hw
  | round3FullCommit m =>
    rw [hm] at hj
    exact hj.elim

end Taken

/-! ## One pass -/

/-- No Preprepare stands before a full commit. -/
def Ordered (l : List QueueElement) : Prop :=
  l.Pairwise fun e e' => e.pMessage.isRound2Preprepare = true →
    e'.pMessage.isRound2FullCommit = false

/--
The juggle queue of an SL in the middle of a pass: `passLeft` elements are to be tried, and those
behind them have been put back. Rotated, they are in the order in which they came.
-/
structure PassOk (σ : Cluster) (x : Peer) : Prop where
  left : (σ x).passLeft ≤ (σ x).sl.juggleQueue.length
  juggled : ∀ e ∈ (σ x).sl.juggleQueue,
    e.pMessage.header.version = versionLatest ∧ Juggles x e.pMessage
  order : Ordered ((σ x).sl.juggleQueue.rotate (σ x).passLeft)
  tried : (σ x).inbox = [] →
    ∀ e ∈ (σ x).sl.juggleQueue.drop (σ x).passLeft, Waits (σ x).sl e.pMessage

/-- All SLs that run. -/
def PassesOk (d : Deployment) (σ : Cluster) : Prop :=
  ∀ x, d.Has x → (σ x).crashed = false → PassOk σ x

section Pass

variable {d : Deployment} {σ σ' : Cluster} {x : Peer} {e : QueueElement} {ω : Choice}
  {before : Node} {t : ConnManager} {l : Label}

theorem passesOk_init : PassesOk d init := fun _ _ _ =>
  ⟨Nat.zero_le _, fun _ he => absurd he List.not_mem_nil, List.Pairwise.nil,
    fun _ _ he => absurd he List.not_mem_nil⟩

/-- What the others do can only put more on the way to an SL. -/
theorem PassOk.frame (h : PassOk σ x) (hgate : SameGate (σ x).sl (σ' x).sl)
    (hqueue : (σ' x).sl.juggleQueue = (σ x).sl.juggleQueue)
    (hleft : (σ' x).passLeft = (σ x).passLeft)
    (hinbox : (σ' x).inbox = [] → (σ x).inbox = []) : PassOk σ' x := by
  refine ⟨?_, ?_, ?_, fun hnil e he => ?_⟩
  · rw [hqueue, hleft]
    exact h.left
  · rw [hqueue]
    exact h.juggled
  · rw [hqueue, hleft]
    exact h.order
  · rw [hqueue, hleft] at he
    exact hgate.waits.mpr (h.tried (hinbox hnil) e he)

theorem PassesOk.tick (h : PassesOk d σ) (ht : Tick d σ σ') : PassesOk d σ' := by
  intro x hx halive
  rw [ht.crashed_eq] at halive
  obtain ⟨k, hk⟩ := ht.sl_eq x
  obtain ⟨l, hl, -⟩ := ht.inbox_eq x
  refine (h x hx halive).frame ?_ ?_ (ht.passLeft_eq x) fun hnil => ?_
  · rw [hk]
    exact ⟨rfl, rfl, rfl, rfl, rfl, rfl, rfl, rfl⟩
  · rw [hk]
  · rw [hl] at hnil
    exact (List.append_eq_nil_iff.mp hnil).1

/-- A dispatch concerns the pass of one SL. -/
theorem PassesOk.dispatch (h : PassesOk d σ) (hd : Dispatch d σ σ' x e ω before)
    (hself : ∀ t, dispatcherRound2 (d.env x) ω e before.sl = .ok t → PassOk σ' x) :
    PassesOk d σ' := by
  intro y hy halive
  by_cases hyx : y = x
  · subst hyx
    cases ho : dispatcherRound2 (d.env y) ω e before.sl with
    | ok t => exact hself t ho
    | thrown ex t =>
      rw [hd.result, ho, install_thrown_crashed] at halive
      exact absurd halive (by simp)
  · have hsl : (σ' y).sl = (σ y).sl := by rw [hd.result, install_sl_of_ne hyx]
    rw [hd.result, install_crashed_of_ne hyx] at halive
    refine (h y hy halive).frame ?_ ?_ ?_ fun hnil => ?_
    · rw [hsl]
      exact .refl _
    · rw [hsl]
    · rw [hd.result, install_passLeft_of_ne hyx]
    · rw [hd.result, install_inbox_of_ne hyx] at hnil
      exact (List.append_eq_nil_iff.mp hnil).1

/-- What a dispatch that ends makes of the SL. -/
theorem Cluster.Dispatch.self_eq (hd : Dispatch d σ σ' x e ω before)
    (ht : dispatcherRound2 (d.env x) ω e before.sl = .ok t) :
    SameGate t (σ' x).sl ∧ (σ' x).sl.juggleQueue = t.juggleQueue
      ∧ (σ' x).passLeft = before.passLeft ∧ ((σ' x).inbox = [] → before.inbox = []) := by
  rw [hd.result, ht]
  refine ⟨?_, ?_, install_passLeft_self, fun hnil => ?_⟩
  · rw [install_sl_self]
    exact ⟨rfl, rfl, rfl, rfl, rfl, rfl, rfl, rfl⟩
  · rw [install_sl_self]
    rfl
  · rw [install_inbox_self] at hnil
    exact (List.append_eq_nil_iff.mp hnil).1

/-- Only messages of the right version do not end the SL. -/
theorem version_of_ok {env : Env} {s : ConnManager} (ht : dispatcherRound2 env ω e s = .ok t) :
    e.pMessage.header.version = versionLatest := by
  by_contra hne
  unfold dispatcherRound2 at ht
  rw [if_pos hne] at ht
  exact absurd ht (by simp)

/-- A pass starts with everything to be tried. -/
theorem passOk_start (hleft : (σ' x).passLeft = (σ' x).sl.juggleQueue.length)
    (hjuggled : ∀ e ∈ (σ' x).sl.juggleQueue,
      e.pMessage.header.version = versionLatest ∧ Juggles x e.pMessage)
    (horder : Ordered (σ' x).sl.juggleQueue) : PassOk σ' x := by
  refine ⟨hleft.le, hjuggled, ?_, fun _ e he => ?_⟩
  · rw [hleft, List.rotate_length]
    exact horder
  · rw [hleft, List.drop_length] at he
    exact absurd he List.not_mem_nil

section Run

variable (hfits : d.conf.Fits) (hreach : Reachable d σ) (h : PassesOk d σ)

include hfits hreach h

/-- **A new message** that is put back stands behind no Preprepare if it is a full commit. -/
theorem PassesOk.receive {i : Nat} (hnot : NotOvertaken σ (.receive x i ω))
    (hs : receive d x i ω σ = some σ') : PassesOk d σ' := by
  obtain ⟨e, before, hd, he, hsl, hleft, hpass, -⟩ := receive_dispatch hs
  have hcore := coreOk_of_reachable hfits (Nat.lt_of_le_of_lt (Nat.zero_le _) hd.has.1) hreach
  refine h.dispatch hd fun t ht => ?_
  obtain ⟨-, hqueue, hpassLeft, -⟩ := hd.self_eq ht
  obtain ⟨-, hjuggled, horder, -⟩ := h x hd.has hd.alive
  rw [hleft, List.rotate_zero] at horder
  have hversion := version_of_ok ht
  rw [ht] at hpass
  have hstart : (σ' x).passLeft = (σ' x).sl.juggleQueue.length := by
    rw [hqueue, hpassLeft, hpass]
    rfl
  rcases hcore.dispatch_cases hfits (round2Ok_of_reachable hreach) hd hversion with
    ⟨-, hj, hmissing, t', ht', -, hback⟩ | ⟨-, htakes⟩
  · have hafter : (σ' x).sl.juggleQueue = (σ x).sl.juggleQueue ++ [e] := by
      rw [hqueue, Outcome.ok.inj (ht.symm.trans ht'), hback, hsl]
    refine passOk_start hstart ?_ ?_
    · rw [hafter]
      intro e' he'
      rcases List.mem_append.mp he' with he' | he'
      · exact hjuggled e' he'
      · rw [List.mem_singleton.mp he']
        exact ⟨hversion, hj⟩
    · rw [hafter]
      refine List.pairwise_append.mpr
        ⟨horder, List.pairwise_singleton _ _, fun e₁ h₁ e₂ h₂ hp => ?_⟩
      rw [List.mem_singleton.mp h₂]
      refine Bool.eq_false_iff.mpr fun hfull => ?_
      -- a full commit is put back when it lacks results, and then no Preprepare may be there
      obtain ⟨m, hm⟩ := Message.isRound2FullCommit_iff.mp hfull
      have hfalse := hnot e he hfull (hsl ▸ hmissing m hm) e₁ h₁
      exact absurd (hp.symm.trans hfalse) (by simp)
  · have hafter : (σ' x).sl.juggleQueue = (σ x).sl.juggleQueue := by
      rw [hqueue, htakes t ht, hsl]
    refine passOk_start hstart ?_ ?_
    · rw [hafter]
      exact hjuggled
    · rw [hafter]
      exact horder

/-- **A retry** puts the message behind those that were tried, or takes it and leaves them there. -/
theorem PassesOk.retry (hs : retry d x ω σ = some σ') : PassesOk d σ' := by
  obtain ⟨e, before, hd, hqueue, hleft, hinbox⟩ := retry_dispatch hs
  have hcore := coreOk_of_reachable hfits (Nat.lt_of_le_of_lt (Nat.zero_le _) hd.has.1) hreach
  refine h.dispatch hd fun t ht => ?_
  obtain ⟨hgate', hqueue', hpassLeft, hnil⟩ := hd.self_eq ht
  rw [hinbox] at hnil
  obtain ⟨hlen, hjuggled, horder, htried⟩ := h x hd.has hd.alive
  have hgate : SameGate (σ x).sl before.sl := by
    rw [hd.sl_eq]
    exact ⟨rfl, rfl, rfl, rfl, rfl, rfl, rfl, rfl⟩
  rw [hqueue, hleft, List.length_cons] at hlen
  have hlen : before.passLeft ≤ before.sl.juggleQueue.length := by omega
  rw [hqueue] at hjuggled
  rw [hqueue, hleft, List.rotate_cons_succ] at horder
  rw [hqueue, hleft, List.drop_succ_cons] at htried
  obtain ⟨hversion, hj⟩ := hjuggled e List.mem_cons_self
  -- in the order of arrival `e` stands between those tried in vain and those still to be tried
  have hrotate : (before.sl.juggleQueue ++ [e]).rotate before.passLeft
      = (before.sl.juggleQueue.drop before.passLeft ++ [e])
        ++ before.sl.juggleQueue.take before.passLeft := by
    rw [List.rotate_eq_drop_append_take (by rw [List.length_append]; omega),
      List.drop_append_of_le_length hlen, List.take_append_of_le_length hlen]
  rcases hcore.dispatch_cases hfits (round2Ok_of_reachable hreach) hd hversion with
    ⟨hw, -, -, t', ht', hsame, hback⟩ | ⟨hnot, htakes⟩
  · obtain rfl := Outcome.ok.inj (ht.symm.trans ht')
    refine ⟨?_, ?_, ?_, fun hempty e' he' => hgate'.waits.mpr (hsame.waits.mpr ?_)⟩
    · rw [hqueue', hpassLeft, hback, List.length_append]
      omega
    · rw [hqueue', hback]
      intro e' he'
      refine hjuggled e' ?_
      rcases List.mem_append.mp he' with he' | he'
      · exact List.mem_cons_of_mem _ he'
      · rw [List.mem_singleton.mp he']
        exact List.mem_cons_self
    · rw [hqueue', hpassLeft, hback]
      exact horder
    · rw [hqueue', hpassLeft, hback, List.drop_append_of_le_length hlen] at he'
      rcases List.mem_append.mp he' with he' | he'
      · exact hgate.waits.mpr (htried (hnil hempty) e' he')
      · rwa [List.mem_singleton.mp he']
  · have htaken := htakes t ht
    rw [hrotate] at horder
    refine ⟨?_, ?_, ?_, fun hempty e' he' => hgate'.waits.mpr ?_⟩
    · rw [hqueue', hpassLeft, htaken]
      exact hlen
    · rw [hqueue', htaken]
      exact fun e' he' => hjuggled e' (List.mem_cons_of_mem _ he')
    · rw [hqueue', hpassLeft, htaken, List.rotate_eq_drop_append_take hlen]
      exact List.Pairwise.sublist ((List.sublist_append_left _ _).append_right _) horder
    · rw [hqueue', hpassLeft, htaken] at he'
      have hmem := List.mem_of_mem_drop he'
      refine hcore.waits_taken hfits (round2Ok_of_reachable hreach) hd hversion ht hnot hj hmem
        (hjuggled e' (List.mem_cons_of_mem _ hmem)).2 ?_ hempty
        (hgate.waits.mpr (htried (hnil hempty) e' he'))
      have hbefore := (List.pairwise_append.mp (List.pairwise_append.mp horder).1).2.2
      exact hbefore e' he' e List.mem_cons_self

/-- A step keeps all passes. -/
theorem passesOk_step (hnot : NotOvertaken σ l) (hs : step d σ l = some σ') : PassesOk d σ' := by
  cases l with
  | receive x i ω => exact h.receive hfits hreach hnot hs
  | retry x ω => exact h.retry hfits hreach hs
  | clientTick x content => exact h.tick (clientTick_tick hs)
  | leaderTick bg => exact h.tick (leaderTick_tick hs)
  | pipeReadable bg => exact h.tick (pipeReadable_tick hs)

/-- A run keeps all passes. -/
theorem passesOk_run {labels : List Label} (hnot : Throughout d NotOvertaken σ labels)
    (hrun : run d σ labels = some σ') : PassesOk d σ' := by
  induction labels generalizing σ with
  | nil =>
    cases hrun
    exact h
  | cons l rest ih =>
    obtain ⟨τ, hl, hrest⟩ := Option.bind_eq_some_iff.mp hrun
    obtain ⟨hfirst, hlater⟩ := hnot τ hl
    exact ih (hreach.step ⟨l, hl⟩) (passesOk_step hfits hreach h hfirst hl) hlater hrest

/-- What was tried in vain would be put back again. -/
theorem PassesOk.noneStranded : NoneStranded d σ := by
  intro x hx halive hleft hnil e he ω
  obtain ⟨-, hjuggled, -, htried⟩ := h x hx halive
  have hcore := coreOk_of_reachable hfits (Nat.lt_of_le_of_lt (Nat.zero_le _) hx.1) hreach
  rw [hleft, List.drop_zero] at htried
  let before : Node :=
    { σ x with sl := { (σ x).sl with juggleQueue := (σ x).sl.juggleQueue.erase e } }
  have hd : Dispatch d σ (install x before (dispatcherRound2 (d.env x) ω e before.sl) σ) x e ω
      before := by
    refine ⟨hx, halive, ?_, rfl, rfl⟩
    unfold pool
    rw [Multiset.coe_eq_coe.mpr (List.perm_cons_erase he), ← Multiset.cons_coe, Multiset.add_cons]
  have hgate : SameGate (σ x).sl before.sl := ⟨rfl, rfl, rfl, rfl, rfl, rfl, rfl, rfl⟩
  rcases hcore.dispatch_cases hfits (round2Ok_of_reachable hreach) hd (hjuggled e he).1 with
    ⟨-, -, -, t, ht, -, hback⟩ | ⟨hnot, -⟩
  · exact ⟨t, ht, hback⟩
  · exact absurd (hgate.waits.mpr (htried hnil e he)) hnot

end Run

end Pass

/--
**Nothing is left behind** in a run in which no full commit that lacks results comes to an SL where
a Preprepare waits.
-/
theorem noneStranded_run {d : Deployment} {σ : Cluster} {labels : List Label}
    (hfits : d.conf.Fits) (hnot : Throughout d NotOvertaken init labels)
    (hrun : run d init labels = some σ) : NoneStranded d σ :=
  (passesOk_run hfits .refl passesOk_init hnot hrun).noneStranded hfits
    (reachable_of_run .refl hrun)

/-! ## Two runs -/

/-- SL 1 of the second BG gets the full commit before the answer of the first BG. -/
def waitingRun : List Label := cycleRun ++ [turn (1, 1) 0 0]

/-- What is checked of a step: where a full commit is received no Preprepare is juggled. -/
def checkNotOvertaken (σ : Cluster) : Label → Bool
  | .receive x i _ =>
    !((σ x).inbox[i]?.any fun e => e.pMessage.isRound2FullCommit)
      || (σ x).sl.juggleQueue.all fun e => !e.pMessage.isRound2Preprepare
  | _ => true

theorem notOvertaken_of_check {σ : Cluster} {l : Label} (h : checkNotOvertaken σ l = true) :
    NotOvertaken σ l := by
  cases l with
  | receive x i ω =>
    intro e he hfull _ e' he'
    simp only [checkNotOvertaken, Bool.or_eq_true, Bool.not_eq_true', List.all_eq_true] at h
    rcases h with h | h
    · rw [Option.mem_def.mp he, Option.any_some, hfull] at h
      exact absurd h (by simp)
    · exact h e' he'
  | _ => trivial

/-- SL 1 of the second BG has a full commit and waits for the answer of the first BG. -/
theorem waitingRun_noneStranded : ∃ σ, run oneAndTwo init
      (.clientTick (1, 1) zeroBatch :: waitingRun) = some σ
    ∧ (σ (1, 1)).inbox = [] ∧ (σ (1, 1)).sl.juggleQueue ≠ [] ∧ NoneStranded oneAndTwo σ := by
  have hbatch : zeroBatch.length = requestBatchSize := List.length_replicate
  have hrun : ((run oneAndTwo (sendBatch zeroBatch init) waitingRun).map fun σ =>
      ((σ (1, 1)).inbox.length, (σ (1, 1)).sl.juggleQueue.length)) = some (0, 1) := by
    decide +kernel
  have hcheck : checkThroughout oneAndTwo checkNotOvertaken (sendBatch zeroBatch init) waitingRun
      = true := by decide +kernel
  obtain ⟨σ, hσ, hlengths⟩ := Option.map_eq_some_iff.mp hrun
  obtain ⟨hinbox, hjuggled⟩ := Prod.mk.inj hlengths
  have hlabels : run oneAndTwo init (.clientTick (1, 1) zeroBatch :: waitingRun) = some σ := by
    rw [run_clientTick hbatch, hσ]
  refine ⟨σ, hlabels, List.length_eq_zero_iff.mp hinbox, fun hnil => ?_,
    noneStranded_run valid_oneAndTwo.fits ((throughout_clientTick hbatch).mpr
      ⟨trivial, throughout_of_check (fun _ _ => notOvertaken_of_check) hcheck⟩) hlabels⟩
  rw [hnil] at hjuggled
  exact absurd hjuggled (by simp)

/-- One SL and four. -/
def oneAndFour : Deployment where
  conf :=
    { rgBGInfo :=
        [{ failure := 0, addr := [{ sinAddr := 0x7F000001, sinPort := 7000 }] },
         { failure := 1
           addr :=
            [{ sinAddr := 0x7F000001, sinPort := 7001 },
             { sinAddr := 0x7F000001, sinPort := 7002 },
             { sinAddr := 0x7F000001, sinPort := 7003 },
             { sinAddr := 0x7F000001, sinPort := 7004 }] }]
      bGid := 0
      sLid := 0
      globalFailures := 0 }
  host := .little
  debugFailfast := true

theorem valid_oneAndFour : oneAndFour.conf.Valid := by
  have hsl : ∀ b, oneAndFour.conf.numSL b = if b = 0 then 1 else if b = 1 then 4 else 0
    | 0 => rfl
    | 1 => rfl
    | b + 2 => Config.numSL_eq_zero (Nat.le_add_left 2 b)
  refine ⟨by decide, fun b => ?_, ?_, ?_, by decide⟩
  · rw [hsl]
    split
    · decide
    · split <;> decide
  · decide
  · decide

/-- Batches from the clients of some SLs. -/
def sendBatches (content : List UInt8) (clients : List Peer) (σ : Cluster) : Cluster :=
  clients.foldl (fun σ x => send x
    [{ upPeers := [some (x.1, 0)]
       pMessage := .common (.round2Request (mockClientRequest x.2 content)) }] σ) σ

theorem run_clientTicks {d : Deployment} {content : List UInt8} {clients : List Peer}
    {labels : List Label} (h : content.length = requestBatchSize)
    (hclients : ∀ x ∈ clients, d.Has x ∧ x.2 ≠ 0) (σ : Cluster) :
    run d σ (clients.map (.clientTick · content) ++ labels)
      = run d (sendBatches content clients σ) labels := by
  induction clients generalizing σ with
  | nil => rfl
  | cons x rest ih =>
    obtain ⟨hhas, hne⟩ := hclients x List.mem_cons_self
    have hstep : step d σ (.clientTick x content) = some (sendBatches content [x] σ) :=
      if_pos ⟨hhas, hne, h⟩
    show (step d σ (.clientTick x content)).bind _ = _
    rw [hstep, Option.bind_some]
    exact ih (fun y hy => hclients y (List.mem_cons_of_mem _ hy)) _

/-- Each of the SLs but the leader has two batches. -/
def clients : List Peer := [(1, 1), (1, 2), (1, 3), (1, 1), (1, 2), (1, 3)]

/-- The next messages that are on the way to an SL are dispatched. -/
def turns (n : Nat) (x : Peer) : List Label := List.replicate n (turn x 0 0)

/--
SL 3 of the second BG misses the answer of the first BG when the full commit of the local
connectivity is on the way to it. By then the others go on to the next client entry, and its
Preprepare is there first.
-/
def strandedRun : List Label :=
  let again := Label.retry (1, 3) noDraw
  [.leaderTick 0, .pipeReadable 0, .leaderTick 1] ++
  turns 6 (1, 0) ++ turns 4 (0, 0) ++ turns 2 (1, 0) ++ turns 1 (1, 1) ++ turns 1 (1, 2) ++
  turns 1 (1, 3) ++ turns 5 (1, 0) ++ turns 1 (1, 1) ++ turns 1 (1, 2) ++ turns 1 (1, 3) ++
  turns 9 (0, 0) ++ [turn (1, 0) 0 0, turn (1, 0) 1 0] ++ turns 2 (1, 1) ++ turns 2 (1, 2) ++
  [turn (1, 3) 1 0] ++ turns 5 (1, 1) ++ turns 1 (1, 2) ++
  [.leaderTick 1, turn (1, 0) 1 0] ++ turns 2 (1, 0) ++ turns 1 (1, 1) ++ turns 4 (1, 2) ++
  [turn (1, 3) 2 0, again, turn (1, 3) 1 0, again, again, turn (1, 3) 0 0, again, again]

/-- Nothing is on the way to SL 3 any more, and it would take the Preprepare that it has juggled. -/
theorem strandedRun_not_noneStranded : ¬ ∀ d : Deployment, d.conf.Valid → ∀ σ, Reachable d σ →
    NoneStranded d σ := by
  intro h
  have hbatch : zeroBatch.length = requestBatchSize := List.length_replicate
  have hrun : ((run oneAndFour (sendBatches zeroBatch clients init) strandedRun).map fun σ =>
      ((σ (1, 3)).crashed, (σ (1, 3)).passLeft, (σ (1, 3)).inbox.length,
        (σ (1, 3)).sl.juggleQueue.map fun e =>
          (dispatcherRound2 (oneAndFour.env (1, 3)) noDraw e
            { (σ (1, 3)).sl with juggleQueue := [] }).state.juggleQueue.length))
      = some (false, 0, 0, [0]) := by decide +kernel
  obtain ⟨σ, hσ, hend⟩ := Option.map_eq_some_iff.mp hrun
  simp only [Prod.mk.injEq] at hend
  obtain ⟨halive, hleft, hinbox, hjuggled⟩ := hend
  obtain ⟨e, hqueue, htaken⟩ := List.map_eq_singleton_iff.mp hjuggled
  have hreach : Reachable oneAndFour σ := by
    have hlabels : run oneAndFour init (clients.map (.clientTick · zeroBatch) ++ strandedRun)
        = some σ := by
      rw [run_clientTicks hbatch (by decide), hσ]
    exact reachable_of_run .refl hlabels
  obtain ⟨t, ht, hback⟩ := h oneAndFour valid_oneAndFour σ hreach (1, 3) (by decide) halive hleft
    (List.length_eq_zero_iff.mp hinbox) e (hqueue ▸ List.mem_singleton_self e) noDraw
  rw [hqueue, List.erase_cons_head] at ht hback
  rw [ht, Outcome.state_ok, hback] at htaken
  exact absurd htaken (by simp)

end RCanopus.Baseline
