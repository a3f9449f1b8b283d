import RCanopus.Baseline.CycleView
import RCanopus.Baseline.Plan
import RCanopus.Baseline.Progress

/-!
# The invariant of one cycle

`CycleOk` relates what all SLs hold and have done for one cycle, and the messages about it, to a
`Progress`. A dispatch shows in the view of the cycle at one SL and in the messages that are sent:
that is a `Turn`, and `CycleOk.turn` says what a turn has to bring along to keep the invariant.
-/

namespace RCanopus.Baseline

open Baseline.Cluster

/-! ## Messages and events -/

/-- What a message of round 3 is, for its cycle. -/
inductive Key where
  | request (x : Peer)
  | response (bg : Nat)
  | preprepare
  | partialCommit (bg : Nat)
  | fullCommit
  deriving DecidableEq, Repr

def Message.key : Message → Option (UInt16 × Key)
  | .common (.round3FetchRequest m) =>
    some (m.cycle, .request (m.senderBGid.toNat, m.senderSLid.toNat))
  | .common (.round3FetchResponse m) => some (m.cycle, .response m.senderBGid.toNat)
  | .common _ => none
  | .round3Preprepare m => some (m.cycle, .preprepare)
  | .round3PartialCommit m => some (m.cycle, .partialCommit m.sender.toNat)
  | .round3FullCommit m => some (m.cycle, .fullCommit)

@[simp] theorem Message.key_copy (m : Message) : m.copy.key = m.key := by
  cases m with
  | common m => cases m <;> rfl
  | _ => rfl

theorem Message.round3Cycle_eq (m : Message) : m.round3Cycle = m.key.map Prod.fst := by
  cases m with
  | common m => cases m <;> rfl
  | _ => rfl

theorem Message.round3Cycle_of_key {m : Message} {c : UInt16} {k : Key} (h : m.key = some (c, k)) :
    m.round3Cycle = some c := by
  rw [m.round3Cycle_eq, h]
  rfl

/-- What an SL has done for a cycle after it had all results. -/
inductive Mark where
  | connected
  | proposed (collector : Nat)
  | voted (collector : Nat)
  | closed
  | committed
  deriving DecidableEq, Repr

def Event.mark : Event → Option Mark
  | .committedConnectivity _ => some .connected
  | .sentPreprepare m => some (.proposed m.collectorBGid.toNat)
  | .sentPartialCommit k _ => some (.voted k)
  | .sentFullCommit _ => some .closed
  | .round3Committed _ => some .committed
  | _ => none

def marks (events : List Event) : List Mark := events.filterMap Event.mark

theorem marks_append (events l : List Event) : marks (events ++ l) = marks events ++ marks l :=
  List.filterMap_append ..

/-! ## What a progress says -/

/-- What an SL has committed for a cycle. -/
def Stage.entries (numBG : Nat) (c : UInt16) (s : Stage) : List Entry :=
  (if s = .idle then [] else [.client c])
    ++ if s.Connected numBG then [.localConnectivity c] else []

/-- The four fields of a status that always move together. -/
def CycleStatus.summary (status : CycleStatus) : CycleState × MessageType × Nat × Nat :=
  (status.state, status.awaitingMessageType, status.messageReceivedCounter,
    status.messageRequired)

namespace Progress

variable (numBG : Nat) (g : Progress) (y : Peer)

/-- The status of the cycle at an SL. -/
def expected : Option (CycleState × MessageType × Nat × Nat) :=
  match g.stage y with
  | .idle => none
  | .fetching => some (.common .round3WaitingForReplicatedResults, .common .round3FetchResponse, 0,
      numBG - 1)
  | .connecting => some (.common .round3WaitingForLocalConnectivity, .common .round2FullCommit, 0,
      1)
  | .leading => some
      (if g.last.acc y.1 = 0 then
        (.round3WaitingForPreprepareBaseline, .round3PreprepareBaseline, 0, 1)
      else if g.collector = y.1 ∧ g.last.closed = 0 then
        (.round3CollectorWaitingForPartialcommitsBaseline, .round3PartialCommitBaseline,
          (g.last.votes 0).length, numBG)
      else (.round3WaitingForFullcommitBaseline, .round3FullCommitBaseline, 0, 1))
  | .done => none

/-- What an SL has done, in this order. -/
def marks : List Mark :=
  (if (g.stage y).Connected numBG then [.connected] else [])
    ++ (if y = (0, 0) ∧ 0 < g.last.len then [.proposed g.collector] else [])
    ++ (if y.2 = 0 ∧ y.1 < numBG ∧ 0 < g.last.acc y.1 then [.voted g.collector] else [])
    ++ (if y = (g.collector, 0) ∧ 0 < g.last.closed then [.closed] else [])
    ++ if g.stage y = .done then [.committed] else []

variable {numBG g y} in
/-- The marks when only the stage has changed. -/
theorem marks_congr {g' : Progress} (hlast : g'.last = g.last)
    (hcollector : g'.collector = g.collector)
    (hconnected : (g'.stage y).Connected numBG ↔ (g.stage y).Connected numBG)
    (hdone : g'.stage y = .done ↔ g.stage y = .done) : g'.marks numBG y = g.marks numBG y := by
  unfold marks
  rw [hlast, hcollector, if_congr hconnected rfl rfl, if_congr hdone rfl rfl]

/-- A message waits at an SL. -/
def Holds : Key → Prop
  | .request z => g.token z y.1 = .asked y.2
  | .response A => g.token y A = .answered
  | .preprepare => y.2 = 0 ∧ y.1 < numBG ∧ g.last.acc y.1 < g.last.len
  | .partialCommit b => y = (g.collector, 0) ∧ b < numBG ∧ g.last.closed < g.last.acc b
      ∧ b ∉ g.last.votes g.last.closed
  | .fullCommit => y.2 = 0 ∧ y.1 < numBG ∧ g.last.com y.1 < g.last.closed

instance (k : Key) : Decidable (g.Holds numBG y k) := by
  cases k <;> unfold Holds <;> infer_instance

/-- The SLs that have a status for the cycle. -/
theorem expected_eq_none : g.expected numBG y = none ↔ g.stage y = .idle ∨ g.stage y = .done := by
  unfold expected
  cases g.stage y <;> simp

variable {numBG g y} in
/-- An SL that is not connected has at most ended the cycle. -/
theorem Ok.marks_of_not_connected (h : g.Ok numBG) (hy : y.1 < numBG)
    (hs : ¬ (g.stage y).Connected numBG) :
    g.marks numBG y = if g.stage y = .done then [.committed] else [] := by
  have hleader : y.2 = 0 → g.last.acc y.1 = 0 := fun h0 => by
    by_contra hacc
    have hconnected := h.acc y.1 hy (Nat.pos_of_ne_zero hacc)
    rw [show (y.1, 0) = y from Prod.ext rfl h0.symm] at hconnected
    exact hs hconnected
  have hproposed : ¬(y = (0, 0) ∧ 0 < g.last.len) := by
    rintro ⟨rfl, hlen⟩
    rw [h.len, if_neg hs] at hlen
    exact absurd hlen (Nat.lt_irrefl 0)
  have hvoted : ¬(y.2 = 0 ∧ y.1 < numBG ∧ 0 < g.last.acc y.1) := by
    rintro ⟨h0, -, hacc⟩
    have := hleader h0
    omega
  have hclosed : ¬(y = (g.collector, 0) ∧ 0 < g.last.closed) := by
    rintro ⟨hcollector, hclosed⟩
    have hacc := hleader (by rw [hcollector])
    have := h.last.closed_le_acc y.1 hy
    omega
  unfold marks
  rw [if_neg hs, if_neg hproposed, if_neg hvoted, if_neg hclosed]
  rfl

end Progress

/-! ## The invariant -/

/-- How many messages of a kind wait. -/
def keyCount (c : UInt16) (k : Key) (l : Multiset QueueElement) : Nat :=
  l.countP fun e => e.pMessage.key = some (c, k)

/-- One SL and one cycle. -/
structure SlCycle (d : Deployment) (c : UInt16) (g : Progress) (y : Peer) (v : CycleView) :
    Prop where
  committed : v.committed.map entryOf = (g.stage y).entries d.conf.numBG c
  stored : v.stored = decide (g.stage y = .done)
  status : v.status.map CycleStatus.summary = g.expected d.conf.numBG y
  own : ∀ status, v.status = some status → ∃ p ∈ v.committed, entryOf p = .client c
    ∧ p.bGid = UInt16.ofNat y.1
    ∧ ∃ m, status.rgMsgRound3FetchResponse y.1 = some (ownResult (d.env y) m p)
  slots : ∀ status, v.status = some status → ∀ A < d.conf.numBG, A ≠ y.1 →
    ((status.rgMsgRound3FetchResponse A).isSome = true ↔ g.token y A = .done)
  nodup : (requesters v.pending).Nodup
  pending : ∀ z, z ∈ requesters v.pending ↔ g.token z y.1 = .pending y.2
  marks : marks v.events = g.marks d.conf.numBG y

/-- The cycle as an SL sees it. -/
def viewAt (σ : Cluster) (c : UInt16) (y : Peer) : CycleView := (σ y).sl.cycleView c

/-- An SL of BG `A` has sent this answer. -/
def Answered (σ : Cluster) (c : UInt16) (A : Nat) (r : MessageRound3FetchResponse) : Prop :=
  ∃ j source z, .answered source c z r ∈ (viewAt σ c (A, j)).events

def GoodMessage (σ : Cluster) (c : UInt16) (g : Progress) : Message → Prop
  | .common (.round3FetchResponse m) => Answered σ c m.senderBGid.toNat m
  | .round3Preprepare m => m.collectorBGid.toNat = g.collector
  | _ => True

/-- The result that an SL answers with comes from what it has committed. -/
def OwnAnswer (d : Deployment) (σ : Cluster) (c : UInt16) (y : Peer)
    (r : MessageRound3FetchResponse) : Prop :=
  ∃ p ∈ (viewAt σ c y).committed, entryOf p = .client c ∧ ∃ m, r = ownResult (d.env y) m p

/-- A late answer has the sender, the cycle and the size of the result. -/
structure LateAnswer (d : Deployment) (c : UInt16) (y : Peer) (r : MessageRound3FetchResponse) :
    Prop where
  cycle : r.cycle = c
  sender : r.senderBGid = UInt16.ofNat y.1
  size : r.entirePreprepareMsg.length = sizeofMessageHeader + clientPayloadSize (d.env y).conf

def EventOk (d : Deployment) (σ : Cluster) (c : UInt16) (y : Peer) : Event → Prop
  | .answered source _ _ m => (source ≠ .template → ∃ r, OwnAnswer d σ c y r ∧ m = r.copy)
    ∧ (source = .template → LateAnswer d c y m)
  | .fetched _ status =>
    (∃ r, status.rgMsgRound3FetchResponse y.1 = some r ∧ OwnAnswer d σ c y r)
      ∧ ∀ A < d.conf.numBG, A ≠ y.1 → ∃ r, status.rgMsgRound3FetchResponse A = some r
        ∧ Answered σ c A r
  | _ => True

/-- The leader has queued or issued the local connectivity of the cycle. -/
def Plans (s : ConnManager) (c : UInt16) : Prop :=
  .localConnectivity c ∈ (planOf s.common).map entryOf

/-- **The invariant of one cycle.** -/
structure CycleOk (d : Deployment) (σ : Cluster) (c : UInt16) (g : Progress) : Prop where
  ok : g.Ok d.conf.numBG
  sl : ∀ y, SlCycle d c g y (viewAt σ c y)
  flight : ∀ y k, keyCount c k (pool σ y) ≤ if g.Holds d.conf.numBG y k then 1 else 0
  good : ∀ y, ∀ e ∈ pool σ y, e.pMessage.round3Cycle = some c → GoodMessage σ c g e.pMessage
  slots : ∀ y status, (viewAt σ c y).status = some status → ∀ A ≠ y.1, ∀ r,
    status.rgMsgRound3FetchResponse A = some r → Answered σ c A r
  events : ∀ y, ∀ ev ∈ (viewAt σ c y).events, EventOk d σ c y ev
  planned : ∀ b < d.conf.numBG, Plans (σ (b, 0)).sl c
    ↔ g.stage (b, 0) = .connecting ∨ (g.stage (b, 0)).Connected d.conf.numBG

/-- Every cycle makes a move, or none. -/
def CyclesNext (d : Deployment) (σ σ' : Cluster) (x : Peer) : Prop :=
  ∀ c g, CycleOk d σ c g → ∃ g', CycleOk d σ' c g' ∧ Progress.Next d.conf.numBG x g g'

/-! ## Counting -/

section Counting

variable {c : UInt16} {k : Key} {x y : Peer}

theorem keyCount_add (l l' : Multiset QueueElement) :
    keyCount c k (l + l') = keyCount c k l + keyCount c k l' := Multiset.countP_add ..

theorem keyCount_singleton (e : QueueElement) :
    keyCount c k {e} = if e.pMessage.key = some (c, k) then 1 else 0 := by
  unfold keyCount
  rw [← Multiset.cons_zero, Multiset.countP_cons, Multiset.countP_zero, Nat.zero_add]

/-- Only messages about the cycle count. -/
theorem keyCount_filter (l : List QueueElement) :
    keyCount c k ↑(l.filter fun e => e.pMessage.round3Cycle = some c) = keyCount c k ↑l := by
  unfold keyCount
  rw [Multiset.coe_countP, Multiset.coe_countP, List.countP_filter]
  refine List.countP_congr fun e _ => ?_
  simp only [decide_eq_true_eq, Bool.and_eq_true]
  exact ⟨fun h => h.1, fun h => ⟨h, Message.round3Cycle_of_key h⟩⟩

theorem filter_deliveries (e : QueueElement) :
    (deliveries x e y).filter (fun e => e.pMessage.round3Cycle = some c)
      = if e.pMessage.round3Cycle = some c then deliveries x e y else [] := by
  split
  · next h =>
    refine List.filter_eq_self.mpr fun e' he' => ?_
    rw [(mem_deliveries he').1, Message.round3Cycle_copy]
    exact decide_eq_true h
  · next h =>
    refine List.filter_eq_nil_iff.mpr fun e' he' => ?_
    rw [(mem_deliveries he').1, Message.round3Cycle_copy]
    simpa using h

theorem filter_sent (l : List QueueElement) :
    (l.flatMap fun e => deliveries x e y).filter (fun e => e.pMessage.round3Cycle = some c)
      = (l.filter fun e => e.pMessage.round3Cycle = some c).flatMap fun e => deliveries x e y := by
  induction l with
  | nil => rfl
  | cons e l ih =>
    rw [List.flatMap_cons, List.filter_append, ih, filter_deliveries]
    by_cases h : e.pMessage.round3Cycle = some c
    · rw [if_pos h, List.filter_cons_of_pos (by simpa using h), List.flatMap_cons]
    · rw [if_neg h, List.filter_cons_of_neg (by simpa using h), List.nil_append]

theorem keyCount_sent (l : List QueueElement) :
    keyCount c k (sent x (l.filter fun e => e.pMessage.round3Cycle = some c) y)
      = keyCount c k (sent x l y) := by
  unfold sent
  rw [← filter_sent, keyCount_filter]

theorem keyCount_pos {l : Multiset QueueElement} {e : QueueElement} (he : e ∈ l)
    (hk : e.pMessage.key = some (c, k)) : 0 < keyCount c k l :=
  Multiset.countP_pos.mpr ⟨e, he, hk⟩

theorem CycleOk.holds {d : Deployment} {σ : Cluster} {g : Progress} {e : QueueElement}
    (h : CycleOk d σ c g) (he : e ∈ pool σ y) (hk : e.pMessage.key = some (c, k)) :
    g.Holds d.conf.numBG y k := by
  by_contra hn
  have hle := h.flight y k
  rw [if_neg hn] at hle
  exact absurd (keyCount_pos he hk) (by omega)

end Counting

/-! ## Turns -/

/-- The view of the cycle at one SL becomes `v`, and it may keep the element or not. -/
structure Turn (σ σ' : Cluster) (x : Peer) (e : QueueElement) (c : UInt16) (v : CycleView)
    (gone : Bool) : Prop where
  self : viewAt σ' c x = { v with sends := [] }
  others : ∀ y ≠ x, viewAt σ' c y = viewAt σ c y
  count : ∀ y k, keyCount c k (pool σ' y)
      + (if gone = true ∧ y = x ∧ e.pMessage.key = some (c, k) then 1 else 0)
    = keyCount c k (pool σ y) + keyCount c k (sent x v.sends y)
  mem : ∀ y, ∀ e' ∈ pool σ' y, e'.pMessage.round3Cycle = some c →
    e' ∈ pool σ y ∨ e' ∈ sent x v.sends y

section Turn

variable {d : Deployment} {σ σ' : Cluster} {x : Peer} {e : QueueElement} {ω : Choice}
  {before : Node} {c : UInt16} {s : ConnManager} {gone : Bool}

/-- A dispatch is a turn for every cycle. -/
theorem Cluster.Dispatch.turn (hd : Dispatch d σ σ' x e ω before) (gone : Bool)
    (hs : (dispatcherRound2 (d.env x) ω e before.sl).state = s)
    (hjuggled : (s.cycleView c).juggled
      = (before.sl.cycleView c).juggled ++ if gone then [] else [e]) :
    Turn σ σ' x e c (s.cycleView c) gone := by
  have hcount : ∀ k, keyCount c k ↑s.juggleQueue = keyCount c k ↑before.sl.juggleQueue
      + if gone = false ∧ e.pMessage.key = some (c, k) then 1 else 0 := by
    intro k
    rw [← keyCount_filter s.juggleQueue, ← keyCount_filter before.sl.juggleQueue]
    refine (congrArg (fun l : List QueueElement => keyCount c k ↑l) hjuggled).trans ?_
    rw [← Multiset.coe_add, keyCount_add]
    congr 1
    cases gone with
    | true => simp [keyCount]
    | false =>
      rw [if_neg (by simp), Multiset.coe_singleton, keyCount_singleton]
      simp
  refine ⟨?_, fun y hy => ?_, fun y k => ?_, fun y e' he' hc => ?_⟩
  · unfold viewAt
    rw [hd.result, install_sl_self, hs]
    rfl
  · unfold viewAt
    rw [hd.result, install_sl_of_ne hy]
  · have hsent : keyCount c k (sent x (s.cycleView c).sends y)
        = keyCount c k (sent x s.sendQueue y) := keyCount_sent s.sendQueue
    rw [hsent, hd.result]
    by_cases hy : y = x
    · subst hy
      rw [pool_install_self, hs, keyCount_add, keyCount_add, hcount, hd.taken,
        ← Multiset.singleton_add, keyCount_add, keyCount_add, keyCount_singleton]
      cases gone <;> simp <;> omega
    · rw [pool_install_of_ne hy, hs, keyCount_add, if_neg (by simp [hy]), add_zero]
  · rw [hd.result] at he'
    have hsent : e' ∈ sent x s.sendQueue y → e' ∈ sent x (s.cycleView c).sends y := fun hmem => by
      unfold sent at hmem ⊢
      refine Multiset.mem_coe.mpr ?_
      show e' ∈ (s.sendQueue.filter _).flatMap _
      rw [← filter_sent]
      exact List.mem_filter.mpr ⟨Multiset.mem_coe.mp hmem, decide_eq_true hc⟩
    by_cases hy : y = x
    · subst hy
      rw [pool_install_self, hs, add_assoc] at he'
      rcases Multiset.mem_add.mp he' with he' | he'
      · refine Or.inl ?_
        rw [hd.taken]
        exact Multiset.mem_cons_of_mem (Multiset.mem_add.mpr (Or.inl he'))
      · rcases Multiset.mem_add.mp he' with he' | he'
        · have hmem : e' ∈ (s.cycleView c).juggled :=
            List.mem_filter.mpr ⟨Multiset.mem_coe.mp he', decide_eq_true hc⟩
          rw [hjuggled] at hmem
          refine Or.inl ?_
          rw [hd.taken]
          rcases List.mem_append.mp hmem with hmem | hmem
          · have hold := (List.mem_filter.mp hmem).1
            exact Multiset.mem_cons_of_mem
              (Multiset.mem_add.mpr (Or.inr (Multiset.mem_coe.mpr hold)))
          · cases gone with
            | true => exact absurd hmem List.not_mem_nil
            | false =>
              have heq : e' = e := by simpa using hmem
              rw [heq]
              exact Multiset.mem_cons_self _ _
        · exact Or.inr (hsent he')
    · rw [pool_install_of_ne hy, hs] at he'
      exact (Multiset.mem_add.mp he').imp id hsent

/-- Nothing has changed for an SL. -/
structure Progress.Same (numBG : Nat) (g g' : Progress) (y : Peer) : Prop where
  stage : g'.stage y = g.stage y
  expected : g'.expected numBG y = g.expected numBG y
  done : ∀ A < numBG, A ≠ y.1 → (g'.token y A = .done ↔ g.token y A = .done)
  pending : ∀ z, g'.token z y.1 = .pending y.2 ↔ g.token z y.1 = .pending y.2
  marks : g'.marks numBG y = g.marks numBG y

theorem SlCycle.same {g g' : Progress} {y : Peer} {v : CycleView} (h : SlCycle d c g y v)
    (hsame : g.Same d.conf.numBG g' y) : SlCycle d c g' y v where
  committed := hsame.stage ▸ h.committed
  stored := hsame.stage ▸ h.stored
  status := h.status.trans hsame.expected.symm
  own := h.own
  slots := fun status hs A hA hne => (h.slots status hs A hA hne).trans (hsame.done A hA hne).symm
  nodup := h.nodup
  pending := fun z => (h.pending z).trans (hsame.pending z).symm
  marks := h.marks.trans hsame.marks.symm

variable {g g' : Progress} {v : CycleView} {evs : List Event} {ps : List MessageRound2Preprepare}
  (ht : Turn σ σ' x e c v gone)

section Grow

variable (hevs : v.events = (viewAt σ c x).events ++ evs)

include ht hevs

theorem Turn.events_subset (y : Peer) : (viewAt σ c y).events ⊆ (viewAt σ' c y).events := by
  by_cases hy : y = x
  · subst hy
    rw [ht.self]
    show _ ⊆ v.events
    rw [hevs]
    exact List.subset_append_left _ _
  · rw [ht.others y hy]
    exact List.Subset.refl _

theorem Turn.answered {A : Nat} {r : MessageRound3FetchResponse} (h : Answered σ c A r) :
    Answered σ' c A r := by
  obtain ⟨j, source, z, hmem⟩ := h
  exact ⟨j, source, z, ht.events_subset hevs _ hmem⟩

theorem Turn.ownAnswer (hps : v.committed = (viewAt σ c x).committed ++ ps) {y : Peer}
    {r : MessageRound3FetchResponse} (h : OwnAnswer d σ c y r) : OwnAnswer d σ' c y r := by
  obtain ⟨p, hp, hrest⟩ := h
  refine ⟨p, ?_, hrest⟩
  by_cases hy : y = x
  · subst hy
    rw [ht.self]
    show _ ∈ v.committed
    rw [hps]
    exact List.mem_append_left _ hp
  · rw [ht.others y hy]
    exact hp

theorem Turn.eventOk (hps : v.committed = (viewAt σ c x).committed ++ ps) {y : Peer} {ev : Event}
    (h : EventOk d σ c y ev) : EventOk d σ' c y ev := by
  cases ev with
  | answered source cycle z m =>
    refine ⟨fun hsource => ?_, h.2⟩
    obtain ⟨r, hr, hm⟩ := h.1 hsource
    exact ⟨r, ht.ownAnswer hevs hps hr, hm⟩
  | fetched cycle status =>
    obtain ⟨⟨r, hr, hown⟩, hslots⟩ := h
    refine ⟨⟨r, hr, ht.ownAnswer hevs hps hown⟩, fun A hA hne => ?_⟩
    obtain ⟨r, hr, hanswered⟩ := hslots A hA hne
    exact ⟨r, hr, ht.answered hevs hanswered⟩
  | _ => trivial

end Grow

/-- What a turn brings along to keep the invariant. -/
theorem CycleOk.turn (h : CycleOk d σ c g) (ht : Turn σ σ' x e c v gone)
    (hevs : v.events = (viewAt σ c x).events ++ evs)
    (hps : v.committed = (viewAt σ c x).committed ++ ps)
    (hok : g'.Ok d.conf.numBG)
    (hself : SlCycle d c g' x v)
    (hothers : ∀ y ≠ x, g.Same d.conf.numBG g' y)
    (hkeep : ∀ y k, g.Holds d.conf.numBG y k → g'.Holds d.conf.numBG y k
      ∨ gone = true ∧ y = x ∧ e.pMessage.key = some (c, k))
    (hnew : ∀ y k, 0 < keyCount c k (sent x v.sends y) → keyCount c k (sent x v.sends y) ≤ 1
      ∧ ¬ g.Holds d.conf.numBG y k ∧ g'.Holds d.conf.numBG y k)
    (hcollector : 0 < g.last.len → g'.collector = g.collector)
    (hgood : ∀ el ∈ v.sends, el.upPeers ≠ [] → GoodMessage σ' c g' el.pMessage.copy)
    (hslots : ∀ status, v.status = some status → ∀ A ≠ x.1, ∀ r,
      status.rgMsgRound3FetchResponse A = some r → Answered σ' c A r)
    (hevents : ∀ ev ∈ evs, EventOk d σ' c x ev)
    (hplanned : ∀ b < d.conf.numBG, Plans (σ' (b, 0)).sl c
      ↔ g'.stage (b, 0) = .connecting ∨ (g'.stage (b, 0)).Connected d.conf.numBG) :
    CycleOk d σ' c g' where
  ok := hok
  sl := fun y => by
    by_cases hy : y = x
    · subst hy
      rw [ht.self]
      exact ⟨hself.committed, hself.stored, hself.status, hself.own, hself.slots, hself.nodup,
        hself.pending, hself.marks⟩
    · rw [ht.others y hy]
      exact (h.sl y).same (hothers y hy)
  flight := fun y k => by
    have hcount := ht.count y k
    have hold := h.flight y k
    have hkeep := hkeep y k
    have hnew := hnew y k
    grind
  good := fun y e' he' hc => by
    rcases ht.mem y e' he' hc with he' | he'
    · have hgood := h.good y e' he' hc
      -- what waited was good, and a Preprepare names the same collector
      cases hm : e'.pMessage with
      | common m =>
        rw [hm] at hgood
        cases m with
        | round3FetchResponse m => exact ht.answered hevs hgood
        | _ => trivial
      | round3Preprepare m =>
        rw [hm] at hgood hc
        have hkey : e'.pMessage.key = some (c, .preprepare) := by
          rw [hm]
          exact congrArg (fun c => some (c, Key.preprepare)) (Option.some.inj hc)
        have hholds := h.holds he' hkey
        have hgood : m.collectorBGid.toNat = g.collector := hgood
        exact hgood.trans (hcollector (by
          have : g.last.acc y.1 < g.last.len := hholds.2.2
          omega)).symm
      | _ => trivial
    · obtain ⟨el, hel, hdel⟩ := mem_sent he'
      obtain ⟨hmessage, hpeer⟩ := mem_deliveries hdel
      have hpeers : el.upPeers ≠ [] := by
        rcases hpeer with ⟨-, hpeer, -⟩ | ⟨hpeer, -⟩
        · exact List.ne_nil_of_mem hpeer
        · exact List.ne_nil_of_mem hpeer
      rw [hmessage]
      exact hgood el hel hpeers
  slots := fun y status hs A hA r hr => by
    by_cases hy : y = x
    · subst hy
      rw [ht.self] at hs
      exact hslots status hs A hA r hr
    · rw [ht.others y hy] at hs
      exact ht.answered hevs (h.slots y status hs A hA r hr)
  events := fun y ev hev => by
    by_cases hy : y = x
    · subst hy
      rw [ht.self] at hev
      have hev : ev ∈ v.events := hev
      rw [hevs] at hev
      rcases List.mem_append.mp hev with hev | hev
      · exact ht.eventOk hevs hps (h.events y ev hev)
      · exact hevents ev hev
    · rw [ht.others y hy] at hev
      exact ht.eventOk hevs hps (h.events y ev hev)
  planned := hplanned

theorem Progress.Same.refl (numBG : Nat) (g : Progress) (y : Peer) : g.Same numBG g y :=
  ⟨rfl, rfl, fun _ _ _ => Iff.rfl, fun _ => Iff.rfl, rfl⟩

/-- A turn that changes nothing for the cycle, or that drops a message about it. -/
theorem CycleOk.turn_quiet (h : CycleOk d σ c g) (ht : Turn σ σ' x e c v gone)
    (hcommitted : v.committed = (viewAt σ c x).committed)
    (hstatus : v.status = (viewAt σ c x).status) (hpending : v.pending = (viewAt σ c x).pending)
    (hstored : v.stored = (viewAt σ c x).stored) (hevents : v.events = (viewAt σ c x).events)
    (hsends : v.sends = [])
    (hplanned : ∀ b < d.conf.numBG, Plans (σ' (b, 0)).sl c ↔ Plans (σ (b, 0)).sl c) :
    CycleOk d σ' c g := by
  have hsl := h.sl x
  have hevs : v.events = (viewAt σ c x).events ++ [] := by rw [hevents, List.append_nil]
  have hps : v.committed = (viewAt σ c x).committed ++ [] := by rw [hcommitted, List.append_nil]
  refine h.turn ht hevs hps h.ok ?_
    (fun y _ => .refl _ g y) (fun _ _ => Or.inl) (fun y k hk => ?_) (fun _ => rfl)
    (fun el hel _ => ?_)
    (fun status hs A hA r hr => ?_) (fun ev hev => absurd hev List.not_mem_nil)
    fun b hb => (hplanned b hb).trans (h.planned b hb)
  · exact {
      committed := hcommitted ▸ hsl.committed
      stored := hstored ▸ hsl.stored
      status := hstatus ▸ hsl.status
      own := by
        rw [hstatus, hcommitted]
        exact hsl.own
      slots := hstatus ▸ hsl.slots
      nodup := hpending ▸ hsl.nodup
      pending := hpending ▸ hsl.pending
      marks := hevents ▸ hsl.marks }
  · rw [hsends, sent_nil] at hk
    exact absurd hk (Nat.lt_irrefl 0)
  · rw [hsends] at hel
    exact absurd hel List.not_mem_nil
  · exact ht.answered hevs (h.slots x status (hstatus ▸ hs) A hA r hr)

end Turn

end RCanopus.Baseline
