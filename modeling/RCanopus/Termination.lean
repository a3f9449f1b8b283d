import RCanopus.Batches
import RCanopus.Lib.Descent
import RCanopus.Settling
import Mathlib.Algebra.BigOperators.Group.Finset.Piecewise
import Mathlib.Algebra.Order.BigOperators.Group.Finset

/-!
# Without the clients the servers come to rest

A step that is no batch of a client brings round 2 of some SL further, and that is possible only so
often, or what waits can cause less than before, or a main loop comes closer to the end of a pass
over messages that it puts back. `work` is a measure of all this, and every such step lowers it.
-/

namespace RCanopus

open Cluster Descent

namespace Cluster

/-! ## Steps of the servers -/

/-- A client sends a batch. -/
def Label.isTick : Label → Bool
  | .clientTick _ _ => true
  | .leaderTick _ => true
  | _ => false

/-- A step that is no batch of a client. -/
def Internal (d : Deployment) (σ σ' : Cluster) : Prop :=
  ∃ l : Label, l.isTick = false ∧ step d σ l = some σ'

variable {d : Deployment} {σ σ' : Cluster} {x y : Peer} {e : QueueElement} {ω : Choice}
  {before : Node} {o : Outcome}

theorem Internal.step (h : Internal d σ σ') : Step d σ σ' := by
  obtain ⟨l, -, hl⟩ := h
  exact ⟨l, hl⟩

theorem Reachable.internal (h : Reachable d σ) (hs : Internal d σ σ') : Reachable d σ' :=
  h.step hs.step

end Cluster

/-- A batch of a client is dispatched by a leader. -/
theorem BatchesOk.leader_or {d : Deployment} {σ σ' : Cluster} {bg : Nat} {labels : List Label}
    {x : Peer} {e : QueueElement} {before : Node} {o : Outcome} (h : BatchesOk d bg labels σ)
    (hd : DispatchTo d σ σ' x e before o) :
    (d.env x).conf.sLid = 0 ∨ e.pMessage.msgType ≠ .round2Request := by
  by_cases hbatch : e.pMessage.batchOf = none
  · refine Or.inr fun htype => ?_
    cases hm : e.pMessage with
    | round2Request m =>
      rw [hm] at hbatch
      cases hbatch
    | _ =>
      rw [hm] at htype
      exact nomatch htype
  · have he : e ∈ pool σ x := by
      rw [hd.taken]
      exact Multiset.mem_cons_self e _
    exact Or.inl (h.countable x e he hbatch).1

theorem batchesOk_of_reachable {d : Deployment} {σ : Cluster} (h : Reachable d σ) (bg : Nat) :
    ∃ labels, BatchesOk d bg labels σ := by
  refine h.induct (P := fun σ => ∃ labels, BatchesOk d bg labels σ)
    ⟨[], batchesOk_init d bg⟩ fun σ σ' hok hs => ?_
  obtain ⟨labels, hok⟩ := hok
  obtain ⟨l, hl⟩ := hs
  exact ⟨labels ++ [l], hok.step hl⟩

/-! ## The servers -/

/-- All servers of the configuration file. -/
def Deployment.servers (d : Deployment) : Finset Peer :=
  (Finset.range d.conf.numBG).biUnion fun b => (Finset.range (d.conf.numSL b)).image (Prod.mk b)

theorem Deployment.mem_servers {d : Deployment} {x : Peer} : x ∈ d.servers ↔ d.Has x := by
  unfold Deployment.servers Deployment.Has
  simp only [Finset.mem_biUnion, Finset.mem_image, Finset.mem_range]
  constructor
  · rintro ⟨b, hb, i, hi, rfl⟩
    exact ⟨hb, hi⟩
  · exact fun h => ⟨x.1, h.1, x.2, h.2, rfl⟩

section

variable {d : Deployment} {σ σ' : Cluster} {x y : Peer} {e : QueueElement} {ω : Choice}
  {before : Node} {o : Outcome}

/-! ## How far round 2 can get -/

/-- More steps of round 2 than any SL can take: the leader numbers its Preprepares with 16 bits. -/
def maxProgress : Nat := 4 * 2 ^ 16

theorem progress_eq (s : ConnManager) : s.progress
    = (issuedOf s.history).length + (acceptedOf s.history).length
      + (sentFullCommitOf s.history).length + (committedOf s.history).length := by
  unfold ConnManager.progress issuedOf acceptedOf sentFullCommitOf committedOf
  induction s.history with
  | nil => rfl
  | cons ev events ih =>
    rw [List.countP_cons, ih]
    cases ev <;> simp only [List.filterMap_cons, List.length_cons, Event.isProgress] <;> grind

/-- No SL takes that many steps of round 2. -/
theorem progress_lt {b i : Nat} {a : LockStep.State} {log : List MessageRound2Preprepare}
    (hinv : Round2Inv d σ b a log) (hi : i < d.conf.numSL b) :
    (σ (b, i)).sl.progress < maxProgress := by
  have htrace : NodeTrace b (d.conf.numSL b) i a log
      ((σ (b, i)).sl.history.filter Event.isRound2) := hinv.trace i hi
  have hlog : log.length ≤ a.closed + 1 := hinv.len ▸ hinv.lock.len_le_closed
  have hclosed : a.closed < 65535 :=
    Nat.lt_of_le_of_lt (hinv.lock.closed_le_acc 0 (Nat.lt_of_le_of_lt (Nat.zero_le i) hi))
      hinv.short
  have hissued : (issuedOf (σ (b, i)).sl.history).length ≤ log.length := by
    rw [← issuedOf_round2, htrace.issued]
    split
    · exact Nat.le_refl _
    · exact Nat.zero_le _
  have haccepted : (acceptedOf (σ (b, i)).sl.history).length ≤ log.length := by
    rw [← acceptedOf_round2, htrace.accepted, List.length_map]
    exact List.length_take_le' ..
  have hcommitted : (committedOf (σ (b, i)).sl.history).length ≤ log.length := by
    rw [← committedOf_round2, htrace.committed, List.length_map]
    exact List.length_take_le' ..
  have hsent : (sentFullCommitOf (σ (b, i)).sl.history).length ≤ a.closed := by
    rw [← sentFullCommitOf_round2, htrace.sent, List.length_map]
    exact (List.length_filter_le ..).trans_eq List.length_range
  rw [progress_eq]
  unfold maxProgress
  omega

/-! ## The measure -/

/-- How much round 2 can still get further at an SL that runs. -/
def ahead (node : Node) : Nat :=
  if node.crashed then 0 else 1 + (maxProgress - node.sl.progress)

/-- What some messages at an SL can cause. -/
def rankOf (x : Peer) (l : Multiset QueueElement) : Nat :=
  (l.map fun e => e.pMessage.rank (x.2 == 0)).sum

@[simp] theorem rankOf_zero : rankOf x 0 = 0 := rfl

@[simp] theorem rankOf_add (l l' : Multiset QueueElement) :
    rankOf x (l + l') = rankOf x l + rankOf x l' := by
  unfold rankOf
  rw [Multiset.map_add, Multiset.sum_add]

@[simp] theorem rankOf_cons (l : Multiset QueueElement) :
    rankOf x (e ::ₘ l) = e.pMessage.rank (x.2 == 0) + rankOf x l := by
  unfold rankOf
  rw [Multiset.map_cons, Multiset.sum_cons]

/-- The listener will find the pipe readable. -/
def pipeDue (node : Node) : Bool := decide (0 < node.pipe) && node.listenerEnded.isNone

/-- What waits at an SL can cause this much. What is in the pipe becomes one empty message. -/
def load (σ : Cluster) (x : Peer) : Nat :=
  rankOf x (pool σ x) + if pipeDue (σ x) then 2 else 0

/-- The measure that every step of the servers lowers. -/
def work (d : Deployment) (σ : Cluster) : ℕ ×ₗ ℕ ×ₗ ℕ ×ₗ ℕ :=
  toLex (∑ y ∈ d.servers, ahead (σ y), toLex (∑ y ∈ d.servers, load σ y,
    toLex (∑ y ∈ d.servers, (σ y).inbox.length, ∑ y ∈ d.servers, (σ y).passLeft)))

/-- A sum in which one server has less and no other has more. -/
theorem sum_servers_lt {f g : Peer → Nat} (hx : d.Has x) (hlt : f x < g x)
    (hle : ∀ y ≠ x, f y ≤ g y) : ∑ y ∈ d.servers, f y < ∑ y ∈ d.servers, g y := by
  refine Finset.sum_lt_sum (fun y _ => ?_) ⟨x, Deployment.mem_servers.mpr hx, hlt⟩
  by_cases hy : y = x
  · subst hy
    exact hlt.le
  · exact hle y hy

/-! ## Dispatches -/

theorem pipeDue_congr {node node' : Node} (hpipe : node.pipe = node'.pipe)
    (hlistener : node.listenerEnded.isNone = node'.listenerEnded.isNone) :
    pipeDue node = pipeDue node' := by
  unfold pipeDue
  rw [hpipe, hlistener]

theorem pipeDue_install_self : pipeDue (install x before o σ x) = pipeDue before :=
  pipeDue_congr install_pipe_self (by rw [install_listenerEnded_self])

theorem pipeDue_install_of_ne (hy : y ≠ x) : pipeDue (install x before o σ y) = pipeDue (σ y) :=
  pipeDue_congr (install_pipe_of_ne hy) (by rw [install_listenerEnded_of_ne hy])

/-- The copies of an element that goes to one SL. -/
theorem sent_one (x y z : Peer) (m : Message) :
    sent x [{ upPeers := [some z], pMessage := m }] y
      = if y = z then {{ upPeers := [some x], pMessage := m.copy }} else 0 := by
  rw [sent_singleton]
  unfold deliveries
  have hself : ¬ (y = x ∧ none ∈ [some z]) := by simp
  rw [if_neg hself, List.nil_append]
  by_cases hy : y = z
  · subst hy
    rw [List.filter_cons_of_pos (by simp), if_pos rfl]
    rfl
  · rw [List.filter_cons_of_neg (by simpa using Ne.symm hy), if_neg hy]
    rfl

/-- An element that goes to one SL arrives at one server, if at any. -/
theorem sum_rankOf_sent (d : Deployment) (x z : Peer) (m : Message) :
    ∑ y ∈ d.servers, rankOf y (sent x [{ upPeers := [some z], pMessage := m }] y)
      ≤ m.rank (z.2 == 0) := by
  have heach : ∀ y, rankOf y (sent x [{ upPeers := [some z], pMessage := m }] y)
      = if y = z then m.rank (z.2 == 0) else 0 := by
    intro y
    rw [sent_one]
    split
    · next hy =>
      subst hy
      exact Eq.trans (rankOf_cons 0) (m.rank_copy _)
    · rfl
  rw [Finset.sum_congr rfl fun y _ => heach y, Finset.sum_ite_eq' d.servers z]
  split
  · exact Nat.le_refl _
  · exact Nat.zero_le _

section Dispatch

variable {s : ConnManager} (hd : DispatchTo d σ σ' x e before o)

include hd

theorem Cluster.DispatchTo.progress_before : before.sl.progress = (σ x).sl.progress := by
  rw [hd.sl_eq]
  rfl

/-- No other SL gets further. -/
theorem Cluster.DispatchTo.ahead_of_ne (hy : y ≠ x) : ahead (σ' y) = ahead (σ y) := by
  rw [hd.result]
  unfold ahead
  rw [install_crashed_of_ne hy, install_sl_of_ne hy]

theorem Cluster.DispatchTo.ahead_before :
    ahead (σ x) = 1 + (maxProgress - before.sl.progress) := by
  unfold ahead
  rw [hd.alive, hd.progress_before]
  rfl

omit hd in
theorem Cluster.DispatchTo.ahead_after (hd : DispatchTo d σ σ' x e before (.ok s)) :
    ahead (σ' x) = 1 + (maxProgress - s.progress) := by
  rw [hd.result]
  unfold ahead
  rw [install_ok_crashed, install_sl_self]
  rfl

/-- A crash, or a step of round 2. -/
theorem Cluster.DispatchTo.ahead_lt (hmax : (σ x).sl.progress < maxProgress)
    (h : ∀ s, o = .ok s → before.sl.progress < s.progress) : ahead (σ' x) < ahead (σ x) := by
  rw [hd.ahead_before]
  cases o with
  | thrown ex s =>
    rw [hd.result]
    unfold ahead
    rw [install_thrown_crashed, if_pos rfl]
    exact Nat.add_pos_left Nat.one_pos _
  | ok s =>
    have hlt := h s rfl
    rw [← hd.progress_before] at hmax
    rw [hd.ahead_after]
    omega

omit hd in
/-- The sum of what can be caused, when nothing is put back. -/
theorem Cluster.DispatchTo.sum_load (hd : DispatchTo d σ σ' x e before (.ok s))
    (hjuggled : s.juggleQueue = before.sl.juggleQueue) (hpipe : pipeDue before = pipeDue (σ x)) :
    ∑ y ∈ d.servers, load σ' y + e.pMessage.rank (x.2 == 0)
      = ∑ y ∈ d.servers, load σ y + ∑ y ∈ d.servers, rankOf y (sent x s.sendQueue y) := by
  have heach : ∀ y, load σ' y + (if y = x then e.pMessage.rank (x.2 == 0) else 0)
      = load σ y + rankOf y (sent x s.sendQueue y) := by
    intro y
    rw [hd.result]
    unfold load
    by_cases hy : y = x
    · subst hy
      rw [pool_install_self, pipeDue_install_self, hd.taken, hpipe, if_pos rfl]
      simp only [Outcome.state_ok, hjuggled, rankOf_add, rankOf_cons]
      omega
    · rw [pool_install_of_ne hy, pipeDue_install_of_ne hy, if_neg hy]
      simp only [Outcome.state_ok, rankOf_add]
      omega
  have hsum := Finset.sum_congr (rfl : d.servers = d.servers) fun y _ => heach y
  rw [Finset.sum_add_distrib, Finset.sum_add_distrib, Finset.sum_ite_eq' d.servers x,
    if_pos (Deployment.mem_servers.mpr hd.has)] at hsum
  exact hsum

omit hd in
/-- An element that is put back waits where it was. -/
theorem Cluster.DispatchTo.load_putBack (hd : DispatchTo d σ σ' x e before (.ok s))
    (hjuggled : s.juggleQueue = before.sl.juggleQueue ++ [e]) (hsent : s.sendQueue = [])
    (hpipe : pipeDue before = pipeDue (σ x)) (y : Peer) : load σ' y = load σ y := by
  rw [hd.result]
  unfold load
  by_cases hy : y = x
  · subst hy
    rw [pool_install_self, pipeDue_install_self, hd.taken, hpipe]
    simp only [Outcome.state_ok, hjuggled, hsent, sent_nil, add_zero]
    rw [← Multiset.coe_add, ← add_assoc, Multiset.coe_singleton, rankOf_cons, rankOf_add,
      Nat.add_comm (rankOf y _)]
    rfl
  · rw [pool_install_of_ne hy, pipeDue_install_of_ne hy]
    simp only [Outcome.state_ok, hsent, sent_nil, add_zero]

/-- **Every dispatch that settles its element is work done**, if putting the element back is. -/
theorem Cluster.DispatchTo.work_lt (hsettles : o.Settles (d.env x) e before.sl)
    (hempty : before.sl.sendQueue = []) (hmax : (σ x).sl.progress < maxProgress)
    (hpipe : pipeDue before = pipeDue (σ x))
    (hback : before.inbox.length < (σ x).inbox.length
      ∨ before.inbox.length = (σ x).inbox.length ∧ before.passLeft < (σ x).passLeft) :
    work d σ' < work d σ := by
  cases o with
  | thrown ex s =>
    refine toLex_lt_of_lt (sum_servers_lt hd.has ?_ fun y hy => (hd.ahead_of_ne hy).le)
    exact hd.ahead_lt hmax fun s' hs' => by cases hs'
  | ok s =>
    have hstill : s.progress = before.sl.progress →
        ∑ y ∈ d.servers, ahead (σ' y) ≤ ∑ y ∈ d.servers, ahead (σ y) := fun hprogress => by
      refine Finset.sum_le_sum fun y _ => ?_
      by_cases hy : y = x
      · subst hy
        rw [hd.ahead_after, hd.ahead_before, hprogress]
      · exact (hd.ahead_of_ne hy).le
    cases hsettles with
    | progress hlt =>
      refine toLex_lt_of_lt (sum_servers_lt hd.has ?_ fun y hy => (hd.ahead_of_ne hy).le)
      exact hd.ahead_lt hmax fun s' hs' => Outcome.ok.inj hs' ▸ hlt
    | dropped h =>
      refine toLex_lt_of_le (hstill h.progress) (toLex_lt_of_lt ?_)
      have hsum := hd.sum_load h.juggled hpipe
      rw [h.sent, hempty] at hsum
      have hnothing : ∑ y ∈ d.servers, rankOf y (sent x [] y) = 0 := Finset.sum_eq_zero
        fun y _ => (congrArg (rankOf y) (sent_nil ..)).trans rankOf_zero
      rw [hnothing] at hsum
      have := e.pMessage.rank_pos (x.2 == 0)
      omega
    | replaced z m hjuggled hsent hprogress hrank =>
      refine toLex_lt_of_le (hstill hprogress) (toLex_lt_of_lt ?_)
      have hsum := hd.sum_load hjuggled hpipe
      rw [hsent, hempty, List.nil_append] at hsum
      have hone := sum_rankOf_sent d x z m
      have hrank : m.rank (z.2 == 0) < e.pMessage.rank (x.2 == 0) := hrank
      omega
    | putBack hjuggled hsent hprogress =>
      refine toLex_lt_of_le (hstill hprogress) ?_
      have hload := hd.load_putBack hjuggled (hsent.trans hempty) hpipe
      refine toLex_lt_of_le (Finset.sum_le_sum fun y _ => (hload y).le) ?_
      have hself : (σ' x).inbox = before.inbox ∧ (σ' x).passLeft = before.passLeft := by
        rw [hd.result, install_inbox_self, install_passLeft_self]
        simp only [Outcome.state_ok, hsent.trans hempty, List.flatMap_nil, List.append_nil,
          true_and]
      have hothers : ∀ y ≠ x,
          (σ' y).inbox = (σ y).inbox ∧ (σ' y).passLeft = (σ y).passLeft := fun y hy => by
        rw [hd.result, install_inbox_of_ne hy, install_passLeft_of_ne hy]
        simp only [Outcome.state_ok, hsent.trans hempty, List.flatMap_nil, List.append_nil,
          true_and]
      rcases hback with hinbox | ⟨hinbox, hpass⟩
      · refine toLex_lt_of_lt (sum_servers_lt hd.has ?_ fun y hy => ?_)
        · rwa [hself.1]
        · rw [(hothers y hy).1]
      · refine toLex_lt_of_le (Finset.sum_le_sum fun y _ => ?_)
          (sum_servers_lt hd.has ?_ fun y hy => ?_)
        · by_cases hy : y = x
          · subst hy
            rw [hself.1, hinbox]
          · rw [(hothers y hy).1]
        · rwa [hself.2]
        · rw [(hothers y hy).2]

end Dispatch

section Reachable

variable (hreach : Reachable d σ) (hd : Dispatch d σ σ' x e ω before)

include hreach hd

/-- A batch of a client reaches leaders only. -/
theorem Cluster.Dispatch.settles :
    (dispatcherRound2 (d.env x) ω e before.sl).Settles (d.env x) e before.sl := by
  obtain ⟨labels, hok⟩ := batchesOk_of_reachable hreach x.1
  exact dispatcherRound2_settles (hok.leader_or hd.to)

theorem Cluster.Dispatch.work_lt (hpipe : pipeDue before = pipeDue (σ x))
    (hback : before.inbox.length < (σ x).inbox.length
      ∨ before.inbox.length = (σ x).inbox.length ∧ before.passLeft < (σ x).passLeft) :
    work d σ' < work d σ := by
  obtain ⟨b, i⟩ := x
  obtain ⟨a, log, hinv⟩ := round2Inv_of_reachable hreach hd.has
  refine hd.to.work_lt (hd.settles hreach) ?_ (progress_lt hinv hd.has.2) hpipe hback
  rw [hd.sl_eq]
  exact hinv.sendQueue i hd.has.2

end Reachable

/-! ## Runs -/

/-- The listener turns what is in the pipe into an empty message, or it ends. -/
theorem pipeReadable_work_lt {bg : Nat} (hl : pipeReadable d bg σ = some σ') :
    work d σ' < work d σ := by
  obtain ⟨hhas, hpos, hruns, hcases⟩ := pipeReadable_cases hl
  have hdue : pipeDue (σ (bg, 0)) = true := by
    unfold pipeDue
    rw [hruns, decide_eq_true hpos]
    rfl
  have hothers : ∀ y ≠ (bg, 0), σ' y = σ y := fun y hy => pipeReadable_of_ne hl hy
  refine toLex_lt_of_le (Finset.sum_le_sum fun y _ => ?_)
    (toLex_lt_of_lt (sum_servers_lt hhas ?_ fun y hy => ?_))
  · by_cases hy : y = (bg, 0)
    · subst hy
      rcases hcases with ⟨-, rfl⟩ | ⟨-, rfl⟩ <;> rw [Function.update_self] <;> exact Nat.le_refl _
    · rw [hothers y hy]
  · unfold load pool
    rw [hdue, if_pos rfl]
    rcases hcases with ⟨-, rfl⟩ | ⟨-, rfl⟩
    · rw [Function.update_self, ← Multiset.coe_add]
      have hempty : rankOf (bg, 0) ↑[({ upPeers := [none], pMessage := .empty emptyMessage } :
          QueueElement)] = 1 := rfl
      have hdrained : pipeDue { σ (bg, 0) with
          inbox := (σ (bg, 0)).inbox ++ [{ upPeers := [none], pMessage := .empty emptyMessage }]
          pipe := 0 } = false := rfl
      rw [hdrained]
      simp only [rankOf_add, hempty, Bool.false_eq_true, if_false]
      omega
    · rw [Function.update_self]
      have hended : pipeDue { σ (bg, 0) with
          listenerEnded := some (σ (bg, 0)).inbox.length } = false := Bool.and_false _
      rw [hended]
      simp only [Bool.false_eq_true, if_false]
      omega
  · unfold load pool
    rw [hothers y hy]

/-- **Every step of the servers lowers the measure.** -/
theorem Cluster.Internal.work_lt (hreach : Reachable d σ) (hs : Internal d σ σ') :
    work d σ' < work d σ := by
  obtain ⟨l, htick, hl⟩ := hs
  cases l with
  | receive x i ω =>
    obtain ⟨e, before, hd, he, -, -, hinbox, hpipe, hlistener⟩ := receive_dispatch hl
    refine hd.work_lt hreach (pipeDue_congr hpipe hlistener) (Or.inl ?_)
    rw [hinbox]
    obtain ⟨hi, -⟩ := List.getElem?_eq_some_iff.mp he
    rw [List.length_eraseIdx_of_lt hi]
    omega
  | retry x ω =>
    obtain ⟨e, before, hd, -, hleft, hinbox, hpipe, hlistener⟩ := retry_dispatch hl
    refine hd.work_lt hreach (pipeDue_congr hpipe (by rw [hlistener]))
      (Or.inr ⟨congrArg _ hinbox, ?_⟩)
    rw [hleft]
    exact Nat.lt_succ_self _
  | clientTick x content => cases htick
  | leaderTick bg => cases htick
  | pipeReadable bg => exact pipeReadable_work_lt hl

/--
**Without the clients the servers come to rest.** From any reachable state there is no infinite run
without ticks of the clients, whatever the order of the steps is and whatever the SLs draw.
-/
theorem servers_terminate (hreach : Reachable d σ) : Terminates (Internal d) σ :=
  terminates_of_measure (work d) (fun h hs => h.internal hs)
    (fun h hs => hs.work_lt h) hreach

end

end RCanopus
