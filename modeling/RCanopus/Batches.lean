import RCanopus.Round3Frame
import RCanopus.LeaderSpec
import RCanopus.Results

/-!
# The batches of the clients

What the leader counts, and when it wakes up.

* `Batches`: the leader has issued as many client Preprepares as it has counted, and not more than
  batches came from any SL.
* `Asleep`: there is nothing that could be started. A handler that returns leaves the leader asleep,
  so only the tick of a client can make a start possible.
* `leader_batches`: both in every run.
-/

namespace RCanopus

open Cluster

/-! ## Counters -/

def Event.isClientIssue : Event → Bool
  | .issued p => p.requestType == requestTypeFromClient
  | _ => false

/-- How many client Preprepares an SL has issued. -/
def ConnManager.clientsIssued (s : ConnManager) : Nat := s.history.countP Event.isClientIssue

/-- The counters of the leader, when this many batches came from the others and from itself. -/
structure Batches (env : Env) (received : Nat → Nat) (fromSelf : Nat) (s : ConnManager) :
    Prop where
  received_eq : s.rgLeaderBatchReceivedFrom = received
  fromSelf_eq : s.leaderBatchReceivedFromSelf = fromSelf
  issued : s.clientsIssued = s.leaderBatchProcessed
  le_fromSelf : s.leaderBatchProcessed ≤ fromSelf
  le_received : ∀ i, 1 ≤ i → i < env.conf.numSL env.conf.bGid →
    s.leaderBatchProcessed ≤ received i
  /-- What waits in the priority queue is not from a client. -/
  pending : ∀ p ∈ s.pLeaderRound2PendingPreprepareRaw, p.requestType ≠ requestTypeFromClient

section Counters

variable {env : Env} {ω : Choice} {received : Nat → Nat} {fromSelf : Nat} {s : ConnManager}

theorem clientsIssued_notes {events : List Event}
    (h : ∀ ev ∈ events, ev.isClientIssue = false) :
    ({ s with history := s.history ++ events } : ConnManager).clientsIssued
      = s.clientsIssued := by
  unfold ConnManager.clientsIssued
  have : events.countP Event.isClientIssue = 0 := by
    rw [List.countP_eq_zero]
    intro ev hev
    simp [h ev hev]
  rw [List.countP_append, this, Nat.add_zero]

theorem Batches.notes (hs : Batches env received fromSelf s) {events : List Event}
    (h : ∀ ev ∈ events, ev.isClientIssue = false) :
    Batches env received fromSelf { s with history := s.history ++ events } where
  received_eq := hs.received_eq
  fromSelf_eq := hs.fromSelf_eq
  issued := (clientsIssued_notes h).trans hs.issued
  le_fromSelf := hs.le_fromSelf
  le_received := hs.le_received
  pending := hs.pending

theorem Batches.note (hs : Batches env received fromSelf s) {ev : Event}
    (h : ev.isClientIssue = false) : Batches env received fromSelf (s.note ev) := by
  refine hs.notes fun ev' hev => ?_
  rw [List.mem_singleton.mp hev, h]

theorem Batches.push (hs : Batches env received fromSelf s) {p : MessageRound2Preprepare}
    (hp : p.requestType ≠ requestTypeFromClient) :
    Batches env received fromSelf (pushPreprepare p s) where
  received_eq := hs.received_eq
  fromSelf_eq := hs.fromSelf_eq
  issued := hs.issued
  le_fromSelf := hs.le_fromSelf
  le_received := hs.le_received
  pending q hq := by
    rcases List.mem_append.mp hq with hq | hq
    · exact hs.pending q hq
    · rw [List.mem_singleton.mp hq]
      exact hp

/-- The counters do not look at anything else. -/
theorem Batches.congr {s' : ConnManager} (hs : Batches env received fromSelf s)
    (hreceived : s'.rgLeaderBatchReceivedFrom = s.rgLeaderBatchReceivedFrom)
    (hself : s'.leaderBatchReceivedFromSelf = s.leaderBatchReceivedFromSelf)
    (hprocessed : s'.leaderBatchProcessed = s.leaderBatchProcessed)
    (hqueue : s'.pLeaderRound2PendingPreprepareRaw = s.pLeaderRound2PendingPreprepareRaw)
    (hhistory : s'.history = s.history) : Batches env received fromSelf s' where
  received_eq := hreceived.trans hs.received_eq
  fromSelf_eq := hself.trans hs.fromSelf_eq
  issued := by
    unfold ConnManager.clientsIssued
    rw [hhistory, hprocessed]
    exact hs.issued
  le_fromSelf := hprocessed ▸ hs.le_fromSelf
  le_received := hprocessed ▸ hs.le_received
  pending := hqueue ▸ hs.pending

theorem batches_frame (env : Env) (received : Nat → Nat) (fromSelf : Nat) :
    Round3Frame (Batches env received fromSelf) where
  notes hs hev := hs.notes fun ev h => by
    have := hev ev h
    cases ev with
    | issued p => exact absurd this (by simp [Event.isRound2])
    | _ => rfl
  enqueue hs _ := hs.congr rfl rfl rfl rfl rfl
  juggle hs _ := hs.congr rfl rfl rfl rfl rfl
  setStatus _ _ hs := hs.congr rfl rfl rfl rfl rfl
  setPending _ _ _ hs := hs.congr rfl rfl rfl rfl rfl
  erase _ hs := hs.congr rfl rfl rfl rfl rfl

theorem batches_dispatchFrame (env : Env) (received : Nat → Nat) (fromSelf : Nat) :
    DispatchFrame (Batches env received fromSelf) (Batches env received fromSelf) where
  before := batches_frame env received fromSelf
  after := batches_frame env received fromSelf
  running _ hs := hs.congr rfl rfl rfl rfl rfl
  store _ hs := hs.congr rfl rfl rfl rfl rfl
  drop hs := hs.congr rfl rfl rfl rfl rfl
  clear hs := hs.congr rfl rfl rfl rfl rfl
  push hs hp := hs.push hp
  accept _ _ _ hs := hs.congr rfl rfl rfl rfl rfl
  record hs hev := hs.note (by
    rename_i s ev
    cases ev with
    | issued p => exact absurd rfl (hev p)
    | _ => rfl)
  send hs _ := hs.congr rfl rfl rfl rfl rfl
  delay hs _ := hs.congr rfl rfl rfl rfl rfl

/-- A Preprepare of the priority queue counts for nothing. -/
theorem Batches.sendPreprepare (hs : Batches env received fromSelf s)
    {p : MessageRound2Preprepare} (hp : p.requestType ≠ requestTypeFromClient) :
    Batches env received fromSelf (sendPreprepare env p s).state := by
  unfold RCanopus.sendPreprepare
  refine Batches.note ?_ (by simpa [Event.isClientIssue, commonParts] using hp)
  exact hs.congr rfl rfl rfl rfl rfl

/-- A client Preprepare takes one batch from everyone. -/
theorem Batches.sendClientPreprepare (hs : Batches env received fromSelf s)
    (hself : s.leaderBatchProcessed < fromSelf)
    (hothers : ∀ i, 1 ≤ i → i < env.conf.numSL env.conf.bGid →
      s.leaderBatchProcessed < received i) :
    Batches env received fromSelf (sendClientPreprepare env s).state where
  received_eq := hs.received_eq
  fromSelf_eq := hs.fromSelf_eq
  issued := by
    have hone : ([Event.issued (commonParts s (clientPreprepare env.host env.conf
        s.leaderRound2NextRcanopusCycle s.leaderEnvoysRr))]).countP Event.isClientIssue = 1 := rfl
    show (s.history ++ [_]).countP Event.isClientIssue = s.leaderBatchProcessed + 1
    rw [List.countP_append, ← hs.issued]
    exact congrArg _ hone
  le_fromSelf := hself
  le_received := hothers
  pending := hs.pending

/-- `canStartRound2` when nothing waits in the priority queue. -/
theorem lt_of_canStart (hnone : s.pRound2CurrentStatus = none)
    (hqueue : s.pLeaderRound2PendingPreprepareRaw = [])
    (hvalue : canStartRound2Value env s = true) :
    s.leaderBatchProcessed < s.leaderBatchReceivedFromSelf
      ∧ ∀ i, 1 ≤ i → i < env.conf.numSL env.conf.bGid →
        s.leaderBatchProcessed < s.rgLeaderBatchReceivedFrom i := by
  unfold canStartRound2Value at hvalue
  rw [hnone, hqueue] at hvalue
  simp only [List.isEmpty_nil, Bool.not_true, Bool.false_eq_true, if_false, Bool.and_eq_true,
    List.all_eq_true, List.mem_filter, List.mem_range, decide_eq_true_eq] at hvalue
  exact ⟨hvalue.2, fun i hi hlt => hvalue.1 i ⟨hlt, hi⟩⟩

theorem Batches.startRound2IfPossible (hleader : env.conf.sLid = 0)
    (hs : Batches env received fromSelf s) :
    Batches env received fromSelf (startRound2IfPossible env ω s).state := by
  cases hvalue : canStartRound2Value env s with
  | false =>
    rw [startRound2IfPossible_idle hleader hvalue]
    exact hs
  | true =>
    cases hstatus : s.pRound2CurrentStatus with
    | some status =>
      rw [startRound2IfPossible_running hleader hstatus]
      exact hs
    | none =>
      rw [startRound2IfPossible_start hleader hvalue hstatus]
      unfold issueNext
      dsimp only
      have hset := (batches_dispatchFrame env received fromSelf).running
        CycleStatus.waitingForPreprepare hs
      split
      · next p hp =>
        refine (batches_frame env received fromSelf).debugThrow
          (Q := fun o => Batches env received fromSelf o.state) hset (fun _ _ h => h)
          fun s' hs' => ?_
        refine Batches.sendPreprepare ?_ (hs.pending p (List.mem_of_getElem? hp))
        refine ⟨hs'.received_eq, hs'.fromSelf_eq, hs'.issued, hs'.le_fromSelf, hs'.le_received,
          fun q hq => hs'.pending q (List.mem_of_mem_eraseIdx hq)⟩
      · next hp =>
        have hqueue : s.pLeaderRound2PendingPreprepareRaw = [] := by
          by_contra hne
          rw [List.getElem?_eq_getElem (topIndex_lt ω hne)] at hp
          exact absurd hp (by simp)
        obtain ⟨hself, hothers⟩ := lt_of_canStart hstatus hqueue hvalue
        rw [hs.fromSelf_eq] at hself
        rw [hs.received_eq] at hothers
        exact hset.sendClientPreprepare hself hothers

/-- More batches change nothing but the counters of the batches. -/
theorem Batches.mono (hs : Batches env received fromSelf s) {received' : Nat → Nat}
    (h : ∀ i, received i ≤ received' i) :
    Batches env received' fromSelf { s with rgLeaderBatchReceivedFrom := received' } where
  received_eq := rfl
  fromSelf_eq := hs.fromSelf_eq
  issued := hs.issued
  le_fromSelf := hs.le_fromSelf
  le_received i hi hlt := (hs.le_received i hi hlt).trans (h i)
  pending := hs.pending

/-- The leader counts a batch and may start a round. -/
theorem Batches.dispatcherRound2Request (hleader : env.conf.sLid = 0)
    (hs : Batches env received fromSelf s) {e : QueueElement} {m : MessageRound2Request}
    (hm : m.sender.toNat < env.conf.numSL env.conf.bGid) :
    Batches env (Function.update received m.sender.toNat (received m.sender.toNat + 1)) fromSelf
      (dispatcherRound2Request env ω e m s).state := by
  have hisLeader : env.conf.isRound2Leader = true := by
    unfold Config.isRound2Leader
    rw [hleader, beq_self_eq_true]
  unfold RCanopus.dispatcherRound2Request
  rw [hisLeader, Bool.not_true, if_neg Bool.false_ne_true, decide_eq_true hm,
    debugThrowElseReturnVoid_true, hs.received_eq]
  refine Batches.startRound2IfPossible hleader (hs.mono fun i => ?_)
  by_cases hi : i = m.sender.toNat
  · subst hi
    rw [Function.update_self]
    omega
  · rw [Function.update_of_ne hi]

end Counters

/-- The SL whose batch a message is. -/
def Message.batchOf : Message → Option UInt16
  | .round2Request m => some m.sender
  | _ => none

/-- The counters of the leader after a message was dispatched. -/
def receivedAfter (received : Nat → Nat) : Option UInt16 → Nat → Nat
  | none => received
  | some k => Function.update received k.toNat (received k.toNat + 1)

theorem receivedAfter_toNat (received : Nat → Nat) (sender : Option UInt16) (k : UInt16) :
    receivedAfter received sender k.toNat = received k.toNat + sender.toList.count k := by
  cases sender with
  | none => rfl
  | some j =>
    have : receivedAfter received (some j)
        = Function.update received j.toNat (received j.toNat + 1) := rfl
    rw [this, Option.toList_some, List.count_singleton]
    by_cases hj : j = k
    · subst hj
      rw [Function.update_self, beq_self_eq_true, if_pos rfl]
    · have hne : k.toNat ≠ j.toNat := fun h => hj (UInt16.toNat_inj.mp h).symm
      rw [Function.update_of_ne hne, if_neg (by simpa using hj), Nat.add_zero]

/-- A batch that the leader of the BG can count. -/
def Message.Countable (env : Env) (m : Message) : Prop :=
  ∀ r, m = .round2Request r →
    r.header.version = versionLatest ∧ r.sender.toNat < env.conf.numSL env.conf.bGid

section Dispatch

variable {env : Env} {ω : Choice} {received : Nat → Nat} {fromSelf : Nat} {s : ConnManager}
  {e : QueueElement}

theorem Batches.spawnRound2 (hleader : env.conf.sLid = 0)
    (hs : Batches env received fromSelf s) :
    Batches env received fromSelf (spawnRound2 env ω s).state := by
  unfold RCanopus.spawnRound2
  split
  · exact hs.startRound2IfPossible hleader
  · exact hs

/-- Every dispatch keeps the counters. -/
theorem Batches.dispatcherRound2 (hleader : env.conf.sLid = 0)
    (hs : Batches env received fromSelf s) (he : e.pMessage.Countable env) :
    Batches env (receivedAfter received e.pMessage.batchOf) fromSelf
      (dispatcherRound2 env ω e s).state := by
  have hframe := batches_dispatchFrame env received fromSelf
  cases hm : e.pMessage with
  | round2Request m =>
    obtain ⟨hversion, hsender⟩ := he m hm
    unfold RCanopus.dispatcherRound2
    rw [hm, if_neg fun h => h hversion]
    exact hs.dispatcherRound2Request hleader hsender
  | _ =>
    refine hframe.dispatcherRound2 (Q := fun o => Batches env received fromSelf o.state) hs
      (fun _ _ h => h) (fun _ h => h) (fun _ _ h => h) (fun _ h => h.spawnRound2 hleader)
      (fun _ h => h.startRound2IfPossible hleader)
      (fun _ _ h hp => (h.push hp).startRound2IfPossible hleader) fun m h => ?_
    rw [hm] at h
    cases h

end Dispatch

/-! ## Wake-ups -/

/-- There is nothing that the leader could start. -/
def Asleep (env : Env) (s : ConnManager) : Prop := canStartRound2Value env s = false

/-- An SL that returned is asleep. -/
def Outcome.FallsAsleep (env : Env) : Outcome → Prop
  | .ok s => Asleep env s
  | .thrown _ _ => True

section WakeUps

variable {env : Env} {ω : Choice} {s : ConnManager} {e : QueueElement}

theorem asleep_of_running {status : CycleStatus} (h : s.pRound2CurrentStatus = some status) :
    Asleep env s := by
  unfold Asleep canStartRound2Value
  rw [h]

theorem startRound2IfPossible_asleep (hleader : env.conf.sLid = 0) :
    (startRound2IfPossible env ω s).FallsAsleep env := by
  cases hvalue : canStartRound2Value env s with
  | false =>
    rw [startRound2IfPossible_idle hleader hvalue]
    exact hvalue
  | true =>
    cases hstatus : s.pRound2CurrentStatus with
    | some status =>
      rw [startRound2IfPossible_running hleader hstatus]
      exact asleep_of_running hstatus
    | none =>
      rw [startRound2IfPossible_start hleader hvalue hstatus]
      unfold issueNext
      dsimp only
      split
      · unfold debugThrow
        split
        · exact asleep_of_running rfl
        · split
          · trivial
          · exact asleep_of_running rfl
      · exact asleep_of_running rfl

theorem asleep_frame (env : Env) : Round3Frame (Asleep env) where
  notes hs _ := hs
  enqueue hs _ := hs
  juggle hs _ := hs
  setStatus _ _ hs := hs
  setPending _ _ _ hs := hs
  erase _ hs := hs

/-- Only the end of a round wakes the leader up. -/
theorem asleep_dispatchFrame (env : Env) : DispatchFrame (Asleep env) fun _ => True where
  before := asleep_frame env
  after := round3Frame_true
  running _ _ := asleep_of_running rfl
  store _ hs := hs
  drop _ := trivial
  clear _ := trivial
  push _ _ := trivial
  accept _ _ _ _ := asleep_of_running rfl
  record hs _ := hs
  send hs _ := hs
  delay hs _ := hs

theorem spawnRound2_asleep (hleader : env.conf.sLid = 0) :
    (spawnRound2 env ω s).FallsAsleep env := by
  have hisLeader : env.conf.isRound2Leader = true := by
    unfold Config.isRound2Leader
    rw [hleader, beq_self_eq_true]
  unfold spawnRound2
  rw [hisLeader, if_pos rfl]
  exact startRound2IfPossible_asleep hleader

theorem Asleep.dispatcherRound2Request (hleader : env.conf.sLid = 0) (hs : Asleep env s)
    {m : MessageRound2Request} : (dispatcherRound2Request env ω e m s).FallsAsleep env := by
  have hisLeader : env.conf.isRound2Leader = true := by
    unfold Config.isRound2Leader
    rw [hleader, beq_self_eq_true]
  unfold RCanopus.dispatcherRound2Request
  rw [hisLeader, Bool.not_true, if_neg Bool.false_ne_true]
  exact (asleep_frame env).debugThrowElseReturnVoid hs (fun _ _ _ => trivial) (fun _ h => h)
    fun s' _ => startRound2IfPossible_asleep hleader

/-- **A leader that was asleep falls asleep again**, whatever it dispatches. -/
theorem Asleep.dispatcherRound2 (hleader : env.conf.sLid = 0) (hs : Asleep env s) :
    (dispatcherRound2 env ω e s).FallsAsleep env :=
  (asleep_dispatchFrame env).dispatcherRound2 hs (fun _ _ _ => trivial) (fun _ h => h)
    (fun _ _ _ => trivial) (fun _ _ => spawnRound2_asleep hleader)
    (fun _ _ => startRound2IfPossible_asleep hleader)
    (fun _ _ _ _ => startRound2IfPossible_asleep hleader)
    fun _ _ => hs.dispatcherRound2Request hleader

/-- An empty message puts the leader to sleep. -/
theorem dispatcherRound2_empty_asleep (hleader : env.conf.sLid = 0) {m : MessageEmpty}
    (he : e.pMessage = .empty m) : (dispatcherRound2 env ω e s).FallsAsleep env := by
  unfold dispatcherRound2
  rw [he]
  split
  · trivial
  · refine round3Frame_true.debugThrow trivial (fun _ _ _ => trivial) fun s' _ => ?_
    exact startRound2IfPossible_asleep hleader

end WakeUps

/-! ## Where batches go -/

/-- No batch is on its way from an SL, and none is put back. -/
structure NoBatches (s : ConnManager) : Prop where
  sent : ∀ e ∈ s.sendQueue, e.pMessage.batchOf = none
  juggled : ∀ e ∈ s.juggleQueue, e.pMessage.batchOf = none

section Batchless

variable {env : Env} {ω : Choice} {s : ConnManager} {e : QueueElement}

theorem NoBatches.congr {s' : ConnManager} (hs : NoBatches s) (hsend : s'.sendQueue = s.sendQueue)
    (hjuggle : s'.juggleQueue = s.juggleQueue) : NoBatches s' :=
  ⟨hsend ▸ hs.sent, hjuggle ▸ hs.juggled⟩

theorem NoBatches.enqueue (hs : NoBatches s) (he : e.pMessage.batchOf = none) :
    NoBatches (s.enqueue e) := by
  refine ⟨fun e' h => ?_, hs.juggled⟩
  rcases List.mem_append.mp h with h | h
  · exact hs.sent e' h
  · rw [List.mem_singleton.mp h]
    exact he

theorem NoBatches.juggle (hs : NoBatches s) (he : e.pMessage.batchOf = none) :
    NoBatches (s.juggle e) := by
  refine ⟨hs.sent, fun e' h => ?_⟩
  rcases List.mem_append.mp h with h | h
  · exact hs.juggled e' h
  · rw [List.mem_singleton.mp h]
    exact he

theorem batchOf_of_round3 {m : Message} (h : m.isRound3 = true) : m.batchOf = none := by
  cases m <;> first | rfl | exact absurd h Bool.false_ne_true

theorem batchOf_of_round2 {m : Message} (h : m.isRound2 = true) : m.batchOf = none := by
  cases m <;> first | rfl | exact absurd h Bool.false_ne_true

theorem noBatches_frame : Round3Frame NoBatches where
  notes hs _ := hs.congr rfl rfl
  enqueue hs he := hs.enqueue (batchOf_of_round3 he)
  juggle hs he := hs.juggle (batchOf_of_round3 he)
  setStatus _ _ hs := hs.congr rfl rfl
  setPending _ _ _ hs := hs.congr rfl rfl
  erase _ hs := hs.congr rfl rfl

theorem noBatches_dispatchFrame : DispatchFrame NoBatches NoBatches where
  before := noBatches_frame
  after := noBatches_frame
  running _ hs := hs.congr rfl rfl
  store _ hs := hs.congr rfl rfl
  drop hs := hs.congr rfl rfl
  clear hs := hs.congr rfl rfl
  push hs _ := hs.congr rfl rfl
  accept _ _ _ hs := hs.congr rfl rfl
  record hs _ := hs.congr rfl rfl
  send hs he := hs.enqueue (batchOf_of_round2 he)
  delay hs he := hs.juggle (batchOf_of_round2 he)

theorem NoBatches.sendPreprepare (hs : NoBatches s) {p : MessageRound2Preprepare} :
    NoBatches (sendPreprepare env p s).state := by
  have hsent := hs.enqueue (e := { upPeers := broadcastPeers env.conf
                                   pMessage := .round2Preprepare (commonParts s p) }) rfl
  exact ⟨hsent.sent, hsent.juggled⟩

theorem NoBatches.startRound2IfPossible (hs : NoBatches s) :
    NoBatches (startRound2IfPossible env ω s).state := by
  have hframe := noBatches_frame
  have hkept : ∀ (ex : Exception) (s : ConnManager), NoBatches s →
      NoBatches (Outcome.thrown ex s).state := fun _ _ h => h
  unfold RCanopus.startRound2IfPossible canStartRound2
  refine hframe.debugThrow (Q := fun o => NoBatches o.state) hs hkept fun s₁ hs₁ => ?_
  dsimp only
  split
  · exact hs₁
  split
  · unfold leaderRound2SendPreprepare canStartRound2
    refine hframe.debugThrow (Q := fun o => NoBatches o.state) hs₁ hkept fun s₂ hs₂ => ?_
    refine hframe.debugThrow (Q := fun o => NoBatches o.state) hs₂ hkept fun s₃ hs₃ => ?_
    split
    · exact hs₃
    refine hframe.debugThrow (Q := fun o => NoBatches o.state) hs₃ hkept fun s₄ hs₄ => ?_
    split
    · exact hs₄
    · dsimp only
      have hset := noBatches_dispatchFrame.running CycleStatus.waitingForPreprepare hs₄
      split
      · refine hframe.debugThrow (Q := fun o => NoBatches o.state) hset hkept fun s₅ hs₅ => ?_
        refine NoBatches.sendPreprepare ?_
        exact hs₅.congr rfl rfl
      · refine NoBatches.sendPreprepare ?_
        exact hset.congr rfl rfl
  · exact hs₁

theorem NoBatches.spawnRound2 (hs : NoBatches s) : NoBatches (spawnRound2 env ω s).state := by
  unfold RCanopus.spawnRound2
  split
  · exact hs.startRound2IfPossible
  · exact hs

theorem NoBatches.dispatcherRound2Request (hs : NoBatches s) (hleader : env.conf.sLid = 0)
    {m : MessageRound2Request} : NoBatches (dispatcherRound2Request env ω e m s).state := by
  unfold RCanopus.dispatcherRound2Request Config.isRound2Leader
  rw [hleader, beq_self_eq_true, Bool.not_true, if_neg Bool.false_ne_true]
  refine noBatches_frame.debugThrowElseReturnVoid (Q := fun o => NoBatches o.state) hs
    (fun _ _ h => h) (fun _ h => h) fun s' hs' => ?_
  exact NoBatches.startRound2IfPossible (hs'.congr rfl rfl)

/-- A dispatch sends no batch, unless an SL that is not the leader forwards one. -/
theorem NoBatches.dispatcherRound2 (hs : NoBatches s)
    (he : env.conf.sLid = 0 ∨ e.pMessage.batchOf = none) :
    NoBatches (dispatcherRound2 env ω e s).state := by
  refine noBatches_dispatchFrame.dispatcherRound2 (Q := fun o => NoBatches o.state) hs
    (fun _ _ h => h) (fun _ h => h) (fun _ _ h => h) (fun _ h => h.spawnRound2)
    (fun _ h => h.startRound2IfPossible)
    (fun _ _ h _ => NoBatches.startRound2IfPossible (h.congr rfl rfl)) fun m hm => ?_
  rcases he with hleader | he
  · exact hs.dispatcherRound2Request hleader
  · rw [hm] at he
    cases he

end Batchless

/-- What a call of the dispatcher does with the batches. -/
structure Deals (env : Env) (e : QueueElement) (s : ConnManager) (o : Outcome) : Prop where
  noBatches : NoBatches s → env.conf.sLid = 0 ∨ e.pMessage.batchOf = none → NoBatches o.state
  counters : env.conf.sLid = 0 → ∀ {received : Nat → Nat} {fromSelf : Nat},
    Batches env received fromSelf s → e.pMessage.Countable env →
    Batches env (receivedAfter received e.pMessage.batchOf) fromSelf o.state
  asleep : env.conf.sLid = 0 → Asleep env s ∨ e.pMessage.msgType = .empty → o.FallsAsleep env

theorem dispatcherRound2_deals (env : Env) (ω : Choice) (e : QueueElement) (s : ConnManager) :
    Deals env e s (dispatcherRound2 env ω e s) where
  noBatches hs he := hs.dispatcherRound2 he
  counters hleader _ _ hs he := hs.dispatcherRound2 hleader he
  asleep hleader hs := by
    rcases hs with hasleep | hempty
    · exact hasleep.dispatcherRound2 hleader
    · cases hm : e.pMessage with
      | empty m => exact dispatcherRound2_empty_asleep hleader hm
      | _ =>
        rw [hm] at hempty
        cases hempty

/-! ## Runs -/

namespace Cluster

/-- This tick sends a batch from the SL with this id to the leader of the BG. -/
def Label.isBatchFrom (bg : Nat) (sender : UInt16) : Label → Bool
  | .clientTick x _ => x.1 == bg && UInt16.ofNat x.2 == sender
  | _ => false

def Label.isLeaderTick (bg : Nat) : Label → Bool
  | .leaderTick b => b == bg
  | _ => false

/-- The batches of a sender that wait at the leader of the BG. -/
def waitingBatches (σ : Cluster) (bg : Nat) (sender : UInt16) : Nat :=
  (pool σ (bg, 0)).countP fun e => e.pMessage.batchOf = some sender

end Cluster

/-- The batches of one BG after a run with these ticks. -/
structure BatchesOk (d : Deployment) (bg : Nat) (labels : List Label) (σ : Cluster) : Prop where
  counters : Batches (d.env (bg, 0)) (σ (bg, 0)).sl.rgLeaderBatchReceivedFrom
    (labels.countP (Label.isLeaderTick bg)) (σ (bg, 0)).sl
  /-- A batch that was sent is counted or waits. -/
  sent : ∀ sender : UInt16, sender.toNat < d.conf.numSL bg →
    (σ (bg, 0)).sl.rgLeaderBatchReceivedFrom sender.toNat + waitingBatches σ bg sender
      = labels.countP (Label.isBatchFrom bg sender)
  /-- All batches wait at leaders, who can count them. -/
  countable : ∀ y, ∀ e ∈ pool σ y, e.pMessage.batchOf ≠ none →
    y.2 = 0 ∧ e.pMessage.Countable (d.env y)
  noBatches : ∀ y, NoBatches (σ y).sl
  awake : (σ (bg, 0)).crashed = false → Asleep (d.env (bg, 0)) (σ (bg, 0)).sl
    ∨ 0 < (σ (bg, 0)).pipe ∨ ∃ e ∈ (σ (bg, 0)).inbox, e.pMessage.msgType = .empty

section Run

variable {d : Deployment} {bg : Nat} {labels : List Label} {σ σ' : Cluster} {x y : Peer}
  {e : QueueElement} {ω : Choice} {before : Node}

theorem batchesOk_init (d : Deployment) (bg : Nat) : BatchesOk d bg [] Cluster.init where
  counters :=
    { received_eq := rfl
      fromSelf_eq := rfl
      issued := rfl
      le_fromSelf := Nat.le_refl 0
      le_received := fun _ _ _ => Nat.le_refl 0
      pending := fun p hp => absurd hp List.not_mem_nil }
  sent _ _ := rfl
  countable y e he := absurd he (Multiset.notMem_zero e)
  noBatches y := ⟨fun e he => absurd he List.not_mem_nil, fun e he => absurd he List.not_mem_nil⟩
  awake _ := by
    left
    unfold Asleep canStartRound2Value
    simp [Cluster.init, ConnManager.init]

theorem batchOf_copy (m : Message) : m.copy.batchOf = m.batchOf := by
  cases m <;> rfl

/-- What an SL sends is no batch. -/
theorem batchOf_sent {elements : List QueueElement}
    (h : ∀ e ∈ elements, e.pMessage.batchOf = none) :
    ∀ e ∈ Cluster.sent x elements y, e.pMessage.batchOf = none := by
  intro e he
  unfold Cluster.sent at he
  obtain ⟨e', he', hmem⟩ := List.mem_flatMap.mp (Multiset.mem_coe.mp he)
  rw [(mem_deliveries hmem).1, batchOf_copy]
  exact h e' he'

theorem countP_batchOf_eq_zero {l : Multiset QueueElement}
    (h : ∀ e ∈ l, e.pMessage.batchOf = none) (sender : UInt16) :
    l.countP (fun e => e.pMessage.batchOf = some sender) = 0 := by
  rw [Multiset.countP_eq_zero]
  intro e he
  rw [h e he]
  exact (Option.some_ne_none sender).symm

theorem count_batchOf (m : Message) (sender : UInt16) :
    m.batchOf.toList.count sender = if m.batchOf = some sender then 1 else 0 := by
  cases m.batchOf with
  | none => rfl
  | some k =>
    rw [Option.toList_some, List.count_singleton]
    simp only [beq_iff_eq, Option.some.injEq]

/-- A dispatch at any SL. -/
theorem BatchesOk.dispatchTo {o : Outcome} (h : BatchesOk d bg labels σ)
    (hd : DispatchTo d σ σ' x e before o) (hdeals : Deals (d.env x) e before.sl o)
    (hjuggle : before.sl.juggleQueue ⊆ (σ x).sl.juggleQueue)
    (hinbox : ∀ e' ∈ (σ x).inbox, e' = e ∨ e' ∈ before.inbox)
    (hpipe : before.pipe = (σ x).pipe) : BatchesOk d bg labels σ' := by
  obtain ⟨hhas, halive, htaken, hsl, rfl⟩ := hd
  have hmem : e ∈ pool σ x := htaken ▸ Multiset.mem_cons_self e _
  have hbefore : NoBatches before.sl := by
    refine ⟨?_, fun e' he' => (h.noBatches x).juggled e' (hjuggle he')⟩
    rw [hsl]
    exact (h.noBatches x).sent
  have hafter : NoBatches o.state := by
    refine hdeals.noBatches hbefore ?_
    by_cases hbatch : e.pMessage.batchOf = none
    · exact Or.inr hbatch
    · exact Or.inl (h.countable x e hmem hbatch).1
  have hsent := fun y => batchOf_sent (x := x) (y := y) hafter.sent
  -- Elsewhere only messages that are no batches arrive.
  have hother : ∀ y, y ≠ x → ∀ sender,
      (pool (install x before o σ) y).countP (fun e => e.pMessage.batchOf = some sender)
        = (pool σ y).countP fun e => e.pMessage.batchOf = some sender := by
    intro y hy sender
    rw [pool_install_of_ne hy, Multiset.countP_add, countP_batchOf_eq_zero (hsent y),
      Nat.add_zero]
  -- At `x` the message is gone, and nothing else that is a batch.
  have hself : ∀ sender,
      (pool (install x before o σ) x).countP (fun e => e.pMessage.batchOf = some sender)
          + e.pMessage.batchOf.toList.count sender
        = (pool σ x).countP fun e => e.pMessage.batchOf = some sender := by
    intro sender
    rw [pool_install_self, htaken, Multiset.countP_cons, Multiset.countP_add,
      Multiset.countP_add, Multiset.countP_add, countP_batchOf_eq_zero (hsent x),
      countP_batchOf_eq_zero (l := ↑before.sl.juggleQueue) hbefore.juggled,
      countP_batchOf_eq_zero (l := ↑o.state.juggleQueue) hafter.juggled, count_batchOf]
  have hcountable : ∀ y, ∀ e' ∈ pool (install x before o σ) y, e'.pMessage.batchOf ≠ none →
      y.2 = 0 ∧ e'.pMessage.Countable (d.env y) := by
    intro y e' he' hbatch
    refine h.countable y e' ?_ hbatch
    by_cases hy : y = x
    · subst hy
      rw [pool_install_self, Multiset.mem_add, Multiset.mem_add] at he'
      rw [htaken]
      rcases he' with (he' | he') | he'
      · exact Multiset.mem_cons_of_mem (Multiset.mem_add.mpr (Or.inl he'))
      · exact absurd (hafter.juggled e' he') hbatch
      · exact absurd (hsent y e' he') hbatch
    · rw [pool_install_of_ne hy, Multiset.mem_add] at he'
      rcases he' with he' | he'
      · exact he'
      · exact absurd (hsent y e' he') hbatch
  have hnoBatches : ∀ y, NoBatches (install x before o σ y).sl := by
    intro y
    by_cases hy : y = x
    · subst hy
      rw [install_sl_self]
      exact ⟨fun e' he' => absurd he' List.not_mem_nil, hafter.juggled⟩
    · rw [install_sl_of_ne hy]
      exact h.noBatches y
  by_cases hx : (bg, 0) = x
  · subst hx
    have hcounters := h.counters
    have hstart : Batches (d.env (bg, 0)) (σ (bg, 0)).sl.rgLeaderBatchReceivedFrom
        (labels.countP (Label.isLeaderTick bg)) before.sl := by
      rw [hsl]
      exact hcounters.congr rfl rfl rfl rfl rfl
    have hcount : e.pMessage.Countable (d.env (bg, 0)) := by
      intro m hm
      exact (h.countable (bg, 0) e hmem (by rw [hm]; simp [Message.batchOf])).2 m hm
    have hdone := hdeals.counters rfl hstart hcount
    have hreceived := hdone.received_eq
    refine ⟨?_, ?_, hcountable, hnoBatches, ?_⟩
    · rw [install_sl_self]
      exact (hreceived ▸ hdone).congr rfl rfl rfl rfl rfl
    · intro sender hsender
      rw [install_sl_self]
      show o.state.rgLeaderBatchReceivedFrom sender.toNat + _ = _
      rw [hreceived, receivedAfter_toNat, ← h.sent sender hsender]
      have := hself sender
      unfold waitingBatches
      omega
    · intro hcrashed
      have hasleep : Asleep (d.env (bg, 0)) before.sl ∨ e.pMessage.msgType = .empty →
          Asleep (d.env (bg, 0)) (install (bg, 0) before o σ (bg, 0)).sl := by
        intro hcase
        have hfell := hdeals.asleep rfl hcase
        revert hfell hcrashed
        cases o with
        | ok s =>
          intro _ hfell
          rw [install_sl_self]
          exact hfell
        | thrown ex s =>
          rw [install_thrown_crashed]
          intro hcrashed
          cases hcrashed
      by_cases hempty : e.pMessage.msgType = .empty
      · exact Or.inl (hasleep (Or.inr hempty))
      · rcases h.awake halive with hbefore | hwake | ⟨e', he', hempty'⟩
        · left
          refine hasleep (Or.inl ?_)
          rw [hsl]
          exact hbefore
        · right
          left
          rw [install_pipe_self, hpipe]
          exact hwake
        · right
          right
          refine ⟨e', ?_, hempty'⟩
          rw [install_inbox_self]
          rcases hinbox e' he' with rfl | hkept
          · exact absurd hempty' hempty
          · exact List.mem_append_left _ hkept
  · refine ⟨?_, ?_, hcountable, hnoBatches, ?_⟩
    · rw [install_sl_of_ne hx]
      exact h.counters
    · intro sender hsender
      rw [install_sl_of_ne hx]
      unfold waitingBatches
      rw [hother _ hx]
      exact h.sent sender hsender
    · rw [install_sl_of_ne hx, install_crashed_of_ne hx, install_pipe_of_ne hx,
        install_inbox_of_ne hx]
      intro hcrashed
      rcases h.awake hcrashed with hasleep | hpipe | ⟨e', he', hempty⟩
      · exact Or.inl hasleep
      · exact Or.inr (Or.inl hpipe)
      · exact Or.inr (Or.inr ⟨e', List.mem_append_left _ he', hempty⟩)

theorem BatchesOk.dispatch (h : BatchesOk d bg labels σ) (hd : Dispatch d σ σ' x e ω before)
    (hjuggle : before.sl.juggleQueue ⊆ (σ x).sl.juggleQueue)
    (hinbox : ∀ e' ∈ (σ x).inbox, e' = e ∨ e' ∈ before.inbox)
    (hpipe : before.pipe = (σ x).pipe) : BatchesOk d bg labels σ' :=
  h.dispatchTo hd.to (dispatcherRound2_deals (d.env x) ω e before.sl) hjuggle hinbox hpipe

/-- A step that is no tick. -/
theorem BatchesOk.snoc (h : BatchesOk d bg labels σ) {l : Label}
    (htick : l.isLeaderTick bg = false) (hbatch : ∀ sender, l.isBatchFrom bg sender = false) :
    BatchesOk d bg (labels ++ [l]) σ := by
  refine ⟨?_, fun sender hsender => ?_, h.countable, h.noBatches, h.awake⟩
  · rw [List.countP_append, List.countP_singleton, htick]
    exact h.counters
  · rw [List.countP_append, List.countP_singleton, hbatch]
    exact h.sent sender hsender

/-- The element in which a batch reaches the leader. -/
def batchElement (x : Peer) (content : List UInt8) : QueueElement where
  upPeers := [some x]
  pMessage := (Message.round2Request (mockClientRequest x.2 content)).copy

/-- An SL that is not the leader sends a batch to it, and nothing else happens. -/
theorem clientTick_eq {content : List UInt8} (hl : clientTick d x content σ = some σ') :
    d.Has x ∧ ∀ y, σ' y = { σ y with
      inbox := (σ y).inbox ++ if y = (x.1, 0) then [batchElement x content] else [] } := by
  unfold Cluster.clientTick at hl
  split at hl
  · next hc =>
    rw [Option.some.injEq] at hl
    subst hl
    refine ⟨hc.1, fun y => ?_⟩
    unfold send deliveries batchElement
    rw [List.flatMap_singleton]
    by_cases hy : y = (x.1, 0)
    · simp [hy]
    · simp [hy, Ne.symm hy]
  · cases hl

/-- A batch is sent. -/
theorem BatchesOk.clientTick (h : BatchesOk d bg labels σ) {content : List UInt8}
    (hl : clientTick d x content σ = some σ') :
    BatchesOk d bg (labels ++ [.clientTick x content]) σ' := by
  obtain ⟨hhas, heq⟩ := clientTick_eq hl
  have hpool : ∀ y, pool σ' y
      = pool σ y + ↑(if y = (x.1, 0) then [batchElement x content] else []) := by
    intro y
    unfold pool
    rw [heq y, ← Multiset.coe_add, add_right_comm]
  refine ⟨?_, fun sender hsender => ?_, fun y e he hbatch => ?_, fun y => ?_, fun hcrashed => ?_⟩
  · rw [List.countP_append, List.countP_singleton, heq]
    exact h.counters
  · rw [List.countP_append, List.countP_singleton, ← h.sent sender hsender, heq, Nat.add_assoc]
    unfold waitingBatches
    rw [hpool, Multiset.countP_add]
    congr 2
    by_cases hx : (bg, 0) = (x.1, 0)
    · have hbg : x.1 = bg := (Prod.mk.inj hx).1.symm
      have hbatch : (batchElement x content).pMessage.batchOf = some (UInt16.ofNat x.2) := rfl
      rw [if_pos hx, Multiset.coe_singleton, ← Multiset.cons_zero, Multiset.countP_cons,
        Multiset.countP_zero, hbatch]
      simp [Label.isBatchFrom, hbg]
    · have hbg : x.1 ≠ bg := fun h => hx (by rw [h])
      rw [if_neg hx]
      simp [Label.isBatchFrom, hbg]
  · rw [hpool, Multiset.mem_add] at he
    rcases he with he | he
    · exact h.countable y e he hbatch
    · split at he
      · next hy =>
        subst hy
        rw [Multiset.mem_coe, List.mem_singleton] at he
        subst he
        refine ⟨rfl, fun m hm => ?_⟩
        cases hm
        refine ⟨rfl, lt_of_le_of_lt ?_ hhas.2⟩
        show (UInt16.ofNat x.2).toNat ≤ x.2
        rw [UInt16.toNat_ofNat']
        exact Nat.mod_le _ _
      · exact absurd he (Multiset.notMem_zero e)
  · rw [heq]
    exact h.noBatches y
  · rw [heq] at hcrashed ⊢
    rcases h.awake hcrashed with hasleep | hpipe | ⟨e, he, hempty⟩
    · exact Or.inl hasleep
    · exact Or.inr (Or.inl hpipe)
    · exact Or.inr (Or.inr ⟨e, List.mem_append_left _ he, hempty⟩)

/-- The leader's own client sends a batch, and the pipe will wake the leader up. -/
theorem BatchesOk.leaderTick {b : Nat} (h : BatchesOk d bg labels σ)
    (hl : leaderTick d b σ = some σ') : BatchesOk d bg (labels ++ [.leaderTick b]) σ' := by
  unfold Cluster.leaderTick at hl
  split at hl
  · rw [Option.some.injEq] at hl
    subst hl
    have hpool : ∀ y, pool (Function.update σ (b, 0)
        { σ (b, 0) with
          sl := { (σ (b, 0)).sl with
            leaderBatchReceivedFromSelf := (σ (b, 0)).sl.leaderBatchReceivedFromSelf + 1 }
          pipe := (σ (b, 0)).pipe + 2 }) y = pool σ y := by
      intro y
      unfold pool
      by_cases hy : y = (b, 0)
      · subst hy
        rw [Function.update_self]
      · rw [Function.update_of_ne hy]
    refine ⟨?_, fun sender hsender => ?_, fun y e he hbatch => ?_, fun y => ?_,
      fun hcrashed => ?_⟩
    · rw [List.countP_append, List.countP_singleton]
      by_cases hb : (bg, 0) = (b, 0)
      · have hb' : b = bg := (Prod.mk.inj hb).1.symm
        subst hb'
        have hcounters := h.counters
        rw [Function.update_self, show Label.isLeaderTick b (.leaderTick b) = true from
          beq_self_eq_true b, if_pos rfl]
        refine ⟨rfl, ?_, hcounters.issued, ?_, hcounters.le_received, hcounters.pending⟩
        · exact congrArg (· + 1) hcounters.fromSelf_eq
        · exact Nat.le_succ_of_le hcounters.le_fromSelf
      · have hb' : ¬ b = bg := fun h => hb (by rw [h])
        rw [Function.update_of_ne hb, show Label.isLeaderTick bg (.leaderTick b) = false from
          beq_false_of_ne hb']
        exact h.counters
    · have hsame : (Function.update σ (b, 0) { σ (b, 0) with
          sl := { (σ (b, 0)).sl with
            leaderBatchReceivedFromSelf := (σ (b, 0)).sl.leaderBatchReceivedFromSelf + 1 }
          pipe := (σ (b, 0)).pipe + 2 } (bg, 0)).sl.rgLeaderBatchReceivedFrom
          = (σ (bg, 0)).sl.rgLeaderBatchReceivedFrom := by
        by_cases hb : (bg, 0) = (b, 0)
        · rw [← hb, Function.update_self]
        · rw [Function.update_of_ne hb]
      rw [List.countP_append, hsame]
      unfold waitingBatches
      rw [hpool]
      exact h.sent sender hsender
    · rw [hpool] at he
      exact h.countable y e he hbatch
    · by_cases hy : y = (b, 0)
      · subst hy
        rw [Function.update_self]
        exact (h.noBatches _).congr rfl rfl
      · rw [Function.update_of_ne hy]
        exact h.noBatches y
    · by_cases hb : (bg, 0) = (b, 0)
      · rw [hb, Function.update_self]
        exact Or.inr (Or.inl (Nat.succ_pos _))
      · rw [Function.update_of_ne hb] at hcrashed ⊢
        exact h.awake hcrashed
  · cases hl

/-- The account does not depend on who listens. -/
theorem BatchesOk.congr (h : BatchesOk d bg labels σ)
    (hsame : ∀ y, (σ' y).sl = (σ y).sl ∧ (σ' y).inbox = (σ y).inbox
      ∧ (σ' y).crashed = (σ y).crashed ∧ (σ' y).pipe = (σ y).pipe) :
    BatchesOk d bg labels σ' := by
  have hsl : ∀ y, (σ' y).sl = (σ y).sl := fun y => (hsame y).1
  have hpool : ∀ y, pool σ' y = pool σ y := fun y => by
    unfold pool
    rw [hsl, (hsame y).2.1]
  refine ⟨?_, fun sender hsender => ?_, fun y e he => ?_, fun y => ?_, fun hcrashed => ?_⟩
  · rw [hsl]
    exact h.counters
  · rw [hsl]
    unfold waitingBatches
    rw [hpool]
    exact h.sent sender hsender
  · rw [hpool] at he
    exact h.countable y e he
  · rw [hsl]
    exact h.noBatches y
  · obtain ⟨-, hinbox, hcrashed', hpipe⟩ := hsame (bg, 0)
    rw [hsl, hinbox, hpipe]
    exact h.awake (hcrashed' ▸ hcrashed)

/-- The listener turns what is in the pipe into an empty message, or it ends. -/
theorem BatchesOk.pipeReadable {b : Nat} (h : BatchesOk d bg labels σ)
    (hl : pipeReadable d b σ = some σ') : BatchesOk d bg labels σ' := by
  obtain ⟨-, -, -, ⟨-, rfl⟩ | ⟨-, rfl⟩⟩ := pipeReadable_cases hl
  · generalize hwake : ({ upPeers := [none], pMessage := Message.empty emptyMessage }
      : QueueElement) = wake
    have hempty : wake.pMessage = .empty emptyMessage := by rw [← hwake]
    have hsl : ∀ y, (Function.update σ (b, 0)
        { σ (b, 0) with inbox := (σ (b, 0)).inbox ++ [wake], pipe := 0 } y).sl = (σ y).sl := by
      intro y
      by_cases hy : y = (b, 0)
      · subst hy
        rw [Function.update_self]
      · rw [Function.update_of_ne hy]
    have hpool : ∀ y, pool (Function.update σ (b, 0)
        { σ (b, 0) with inbox := (σ (b, 0)).inbox ++ [wake], pipe := 0 }) y
        = pool σ y + if y = (b, 0) then {wake} else 0 := by
      intro y
      unfold pool
      by_cases hy : y = (b, 0)
      · subst hy
        rw [Function.update_self, if_pos rfl, ← Multiset.coe_add, add_right_comm]
        rfl
      · rw [Function.update_of_ne hy, if_neg hy, add_zero]
    have hbatch : ∀ y, ∀ e ∈ (if y = (b, 0) then ({wake} : Multiset QueueElement) else 0),
        e.pMessage.batchOf = none := by
      intro y e he
      split at he
      · rw [Multiset.mem_singleton.mp he, hempty]
        rfl
      · exact absurd he (Multiset.notMem_zero e)
    refine ⟨?_, fun sender hsender => ?_, fun y e he hne => ?_, fun y => ?_, fun hcrashed => ?_⟩
    · rw [hsl]
      exact h.counters
    · rw [hsl]
      unfold waitingBatches
      rw [hpool, Multiset.countP_add, countP_batchOf_eq_zero (hbatch _), Nat.add_zero]
      exact h.sent sender hsender
    · rw [hpool, Multiset.mem_add] at he
      rcases he with he | he
      · exact h.countable y e he hne
      · exact absurd (hbatch y e he) hne
    · rw [hsl]
      exact h.noBatches y
    · by_cases hb : (bg, 0) = (b, 0)
      · right
        right
        refine ⟨wake, ?_, by rw [hempty]; rfl⟩
        rw [hb, Function.update_self]
        exact List.mem_append_right _ (List.mem_singleton_self wake)
      · rw [hsl]
        rw [Function.update_of_ne hb] at hcrashed ⊢
        exact h.awake hcrashed
  · -- what the listener has lost is still due
    refine h.congr fun y => ?_
    by_cases hy : y = (b, 0)
    · subst hy
      rw [Function.update_self]
      exact ⟨rfl, rfl, rfl, rfl⟩
    · rw [Function.update_of_ne hy]
      exact ⟨rfl, rfl, rfl, rfl⟩

/-- Every step keeps the account of the batches. -/
theorem BatchesOk.step {l : Label} (h : BatchesOk d bg labels σ) (hl : step d σ l = some σ') :
    BatchesOk d bg (labels ++ [l]) σ' := by
  cases l with
  | receive x i ω =>
    obtain ⟨e, before, hd, hget, hbefore, -, hinbox, hpipe, -⟩ := receive_dispatch hl
    refine BatchesOk.snoc (h.dispatch hd ?_ ?_ hpipe) rfl fun _ => rfl
    · rw [hbefore]
      exact fun _ he => he
    · intro e' he'
      obtain ⟨hi, he⟩ := List.getElem?_eq_some_iff.mp hget
      have hperm := (List.getElem_cons_eraseIdx_perm hi).mem_iff.mpr he'
      rw [he, ← hinbox] at hperm
      exact List.mem_cons.mp hperm
  | retry x ω =>
    obtain ⟨e, before, hd, hj, -, hinbox, hpipe, -⟩ := retry_dispatch hl
    refine BatchesOk.snoc (h.dispatch hd ?_ ?_ hpipe) rfl fun _ => rfl
    · rw [hj]
      exact fun _ he => List.mem_cons_of_mem _ he
    · intro e' he'
      rw [hinbox]
      exact Or.inr he'
  | clientTick x content => exact h.clientTick hl
  | leaderTick b => exact h.leaderTick hl
  | pipeReadable b => exact (h.pipeReadable hl).snoc rfl fun _ => rfl

theorem BatchesOk.run {rest : List Label} (h : BatchesOk d bg labels σ)
    (hrun : run d σ rest = some σ') : BatchesOk d bg (labels ++ rest) σ' := by
  induction rest generalizing labels σ with
  | nil =>
    cases hrun
    rw [List.append_nil]
    exact h
  | cons l rest ih =>
    obtain ⟨τ, hl, hrest⟩ := Option.bind_eq_some_iff.mp hrun
    have := ih (h.step hl) hrest
    rwa [List.append_assoc] at this

/--
**Batches are accounted for and no wake-up is lost.** In every run the leader has issued as many
client Preprepares as it has counted, no more than its own client has sent and no more than it has
counted from any other SL; and of each of them it has counted what was sent and does not wait. While
it has not stopped, it could start a round only if a wake-up is on its way: a byte in the pipe, or
an empty message.
-/
theorem leader_batches (hrun : run d init labels = some σ) :
    (σ (bg, 0)).sl.clientsIssued = (σ (bg, 0)).sl.leaderBatchProcessed
    ∧ (σ (bg, 0)).sl.leaderBatchProcessed ≤ (σ (bg, 0)).sl.leaderBatchReceivedFromSelf
    ∧ (σ (bg, 0)).sl.leaderBatchReceivedFromSelf = labels.countP (Label.isLeaderTick bg)
    ∧ (∀ i, 1 ≤ i → i < d.conf.numSL bg →
      (σ (bg, 0)).sl.leaderBatchProcessed ≤ (σ (bg, 0)).sl.rgLeaderBatchReceivedFrom i)
    ∧ (∀ sender : UInt16, sender.toNat < d.conf.numSL bg →
      (σ (bg, 0)).sl.rgLeaderBatchReceivedFrom sender.toNat + waitingBatches σ bg sender
        = labels.countP (Label.isBatchFrom bg sender))
    ∧ ((σ (bg, 0)).crashed = false →
      canStartRound2Value (d.env (bg, 0)) (σ (bg, 0)).sl = true →
      0 < (σ (bg, 0)).pipe ∨ ∃ e ∈ (σ (bg, 0)).inbox, e.pMessage.msgType = .empty) := by
  have h : BatchesOk d bg labels σ := (batchesOk_init d bg).run hrun
  have hself := h.counters.fromSelf_eq
  refine ⟨h.counters.issued, hself ▸ h.counters.le_fromSelf, hself, h.counters.le_received, h.sent,
    fun hcrashed hstart => ?_⟩
  rcases h.awake hcrashed with hasleep | hwake
  · rw [hasleep] at hstart
    cases hstart
  · exact hwake

/-- The first BG has closed a round when the client of its leader sends the second batch. -/
def secondTick : List Label :=
  let first := turn (0, 0) 0 0
  [.leaderTick 0, .pipeReadable 0, first, first, first, first, first, turn (0, 1) 0 0, first, first,
    .leaderTick 0]

/-- Of two batches of SL 1 one is issued, and the leader will be woken up for the other one. -/
theorem twoBGs_leader_batches : ∃ σ,
    run twoBGs init (.clientTick (0, 1) zeroBatch :: .clientTick (0, 1) zeroBatch :: secondTick)
      = some σ
    ∧ (σ (0, 0)).sl.clientsIssued = 1
    ∧ (σ (0, 0)).sl.leaderBatchProcessed = 1
    ∧ (σ (0, 0)).sl.rgLeaderBatchReceivedFrom 1 = 2
    ∧ waitingBatches σ 0 1 = 0
    ∧ canStartRound2Value (twoBGs.env (0, 0)) (σ (0, 0)).sl = true
    ∧ (0 < (σ (0, 0)).pipe ∨ ∃ e ∈ (σ (0, 0)).inbox, e.pMessage.msgType = .empty) := by
  have hbatch : zeroBatch.length = requestBatchSize := List.length_replicate
  have hrun : (run twoBGs (sendBatch zeroBatch (sendBatch zeroBatch init)) secondTick).map
        (fun σ => ((σ (0, 0)).sl.clientsIssued, (σ (0, 0)).sl.rgLeaderBatchReceivedFrom 1,
          (σ (0, 0)).crashed, canStartRound2Value (twoBGs.env (0, 0)) (σ (0, 0)).sl))
      = some (1, 2, false, true) := by decide +kernel
  obtain ⟨σ, hσ, hresult⟩ := Option.map_eq_some_iff.mp hrun
  simp only [Prod.mk.injEq] at hresult
  obtain ⟨hclients, hreceived, hcrashed, hstart⟩ := hresult
  have hall : run twoBGs init
      (.clientTick (0, 1) zeroBatch :: .clientTick (0, 1) zeroBatch :: secondTick) = some σ := by
    rw [run_clientTick hbatch, run_clientTick hbatch, hσ]
  obtain ⟨hissued, -, -, -, hsent, hawake⟩ := @leader_batches _ 0 _ _ hall
  have hsent : (σ (0, 0)).sl.rgLeaderBatchReceivedFrom 1 + waitingBatches σ 0 1 = 2 :=
    hsent 1 (by decide)
  exact ⟨σ, hall, hclients, hissued.symm.trans hclients, hreceived, by omega, hstart,
    hawake hcrashed hstart⟩

end Run

end RCanopus
