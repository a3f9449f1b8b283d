import RCanopus.BGAgreement

/-!
# The sequence counter of the leader

The leader counts on when it issues a Preprepare, and every other SL when it accepts one. The own
copy of the leader therefore carries the number before the leader's counter, which is no obstacle
until the 16 bits wrap: then the copy looks like a later one and is juggled forever.
-/

namespace RCanopus

open Cluster

variable {d : Deployment} {σ σ' : Cluster} {b : Nat} {e : QueueElement} {ω : Choice}
  {before : Node} {a : LockStep.State} {log : List MessageRound2Preprepare}

/-- The SL returns with the Preprepare stored and answered, and it juggled nothing. -/
structure Accepts (env : Env) (s : ConnManager) (p : MessageRound2Preprepare) (o : Outcome) :
    Prop where
  returned : ∃ s', o = .ok s'
  stored : o.state.pTemporaryStorageOfPreprepare = some p
  answered : o.state.sendQueue = s.sendQueue ++ [partialCommitElement env.conf p]
  notJuggled : o.state.juggleQueue = s.juggleQueue

/-- What the dispatcher does with a Preprepare of the waiting leader. -/
theorem own_preprepare_cases (hd : Dispatch d σ σ' (b, 0) e ω before)
    (hinv : Round2Inv d σ b a log) {p : MessageRound2Preprepare}
    (hm : e.pMessage = .round2Preprepare p)
    (hstatus : (σ (b, 0)).sl.pRound2CurrentStatus.map CycleStatus.state
      = some .round2WaitingForPreprepare) :
    (p.seq ≠ 65535
        ∧ dispatcherRound2 (d.env (b, 0)) ω e before.sl
          = .ok (afterAccept (d.env (b, 0)) p before.sl))
      ∨ (p.seq = 65535
        ∧ dispatcherRound2 (d.env (b, 0)) ω e before.sl = .ok (before.sl.juggle e)) := by
  obtain ⟨q, hq, rfl⟩ := hd.to.preprepare_eq hinv (by rw [hm]; rfl)
  obtain rfl : q.copy = p := Message.round2Preprepare.inj hm
  have hn : 0 < d.conf.numSL b := hd.has.2
  have hs := hd.to.at_before hinv
  have hentry := hinv.entries _ _ hq
  have hversion : q.copy.header.version = versionLatest := hentry.version
  have hlive := (hinv.start hd.to).live_self
  have hview : q.copy.view = before.sl.round2View.nextView := hentry.view.trans hlive.nextView.symm
  have hseq : q.copy.seq = seqOf (a.acc 0) := hentry.seq
  have hnext := hlive.nextSeq
  rw [if_pos rfl] at hnext
  have hlt := (List.getElem?_eq_some_iff.mp hq).1
  have hle := length_le hinv.toLogOk hn
  have hacc : a.acc 0 + 1 = log.length := by
    have h1 := hinv.lock.len_le_com
    have h2 := hinv.lock.com_le_acc 0 hn
    have h3 := hinv.len
    omega
  have hst : before.sl.round2View.status.map CycleStatus.state
      = some .round2WaitingForPreprepare := by
    rw [hd.sl_eq]
    exact hstatus
  cases hlive.phase with
  | stuck r k hk hr hidle h =>
    rw [h] at hst
    exact absurd hst (by simp [CycleStatus.committed, CycleStatus.active])
  | active r hr hidle hstored hcollector h =>
    rw [h] at hst
    split at hst
    · exact absurd hst (by simp [CycleStatus.collecting, CycleStatus.active])
    · exact absurd hst (by simp [CycleStatus.waitingForFullcommit, CycleStatus.active])
  | ready hidle hstored h hleader =>
    have hwaiting : before.sl.round2View.status = some .waitingForPreprepare := by
      refine h.resolve_left fun hnone => ?_
      rw [hnone] at hst
      exact absurd hst (by simp)
    by_cases hwrap : log.length = 65535
    · refine Or.inr ⟨?_, ?_⟩
      · rw [hseq, show a.acc 0 = 65534 by omega]
        rfl
      · refine preprepare_early hm hversion hs hwaiting ?_
        rw [preprepareTooEarly_at hs hview, hnext, hseq, hwrap, show a.acc 0 = 65534 by omega]
        rfl
    · refine Or.inl ⟨?_, ?_⟩
      · rw [hseq]
        have hlt' := seqOf_lt (j := a.acc 0) (k := 65534) (by omega) (by omega)
        exact UInt16.ne_of_lt hlt'
      · refine preprepare_accepted hm hversion hs (ready_of_status hs h) ?_ hview (Or.inl rfl)
          hstored
        rw [preprepareTooEarly_at hs hview, hnext, hseq, decide_eq_false_iff_not]
        exact UInt16.not_lt.mpr (UInt16.le_of_lt (seqOf_lt (by omega) (by omega)))

/--
**The leader accepts its own copy unless the counter has wrapped.** In every reachable state, when
the leader waits for a Preprepare and one is dispatched, the copy has all its fixed fields, and it
is accepted exactly when its sequence number is not the greatest one.
-/
theorem own_preprepare_accepted_iff (hfits : d.conf.Fits) (hreach : Reachable d σ)
    (hd : Dispatch d σ σ' (b, 0) e ω before) {p : MessageRound2Preprepare}
    (hm : e.pMessage = .round2Preprepare p)
    (hstatus : (σ (b, 0)).sl.pRound2CurrentStatus.map CycleStatus.state
      = some .round2WaitingForPreprepare) :
    p.Covers
      ∧ (Accepts (d.env (b, 0)) before.sl p (dispatcherRound2 (d.env (b, 0)) ω e before.sl)
        ↔ p.seq ≠ 65535) := by
  obtain ⟨a, log, hinv⟩ := round2Inv_of_reachable hreach hd.has
  have hn : 0 < d.conf.numSL b := hd.has.2
  have hcovers : p.Covers := by
    obtain ⟨q, hq, rfl⟩ := hd.to.preprepare_eq hinv (by rw [hm]; rfl)
    obtain rfl : q.copy = p := Message.round2Preprepare.inj hm
    have hissued : q ∈ issued σ b := issued_eq hinv hn ▸ List.mem_of_getElem? hq
    have hcovers : q.Covers := covers_of_issued hfits hreach hn hissued
    exact hcovers
  refine ⟨hcovers, ?_⟩
  rcases own_preprepare_cases hd hinv hm hstatus with ⟨hseq, ho⟩ | ⟨hseq, ho⟩
  · rw [ho]
    exact iff_of_true ⟨⟨_, rfl⟩, rfl, rfl, rfl⟩ hseq
  · rw [ho]
    refine iff_of_false (fun h => ?_) (fun h => h hseq)
    have hlen : (before.sl.juggleQueue ++ [e]).length = before.sl.juggleQueue.length :=
      congrArg List.length h.notJuggled
    rw [List.length_append, List.length_singleton] at hlen
    omega

/-! ## A run that wraps -/

namespace Solo

/-- One BG of one SL, which is its own leader and collector. -/
def solo : Deployment where
  conf :=
    { rgBGInfo := [{ failure := 0, addr := [{ sinAddr := 0x7F000001, sinPort := 7000 }] }]
      bGid := 0
      sLid := 0
      globalFailures := 0 }
  host := .little
  debugFailfast := true

theorem valid_solo : solo.conf.Valid := by
  have hsl : ∀ b, solo.conf.numSL b = if b = 0 then 1 else 0
    | 0 => rfl
    | b + 1 => Config.numSL_eq_zero (Nat.le_add_left 1 b)
  refine ⟨by decide, fun b => ?_, ?_, ?_, by decide⟩
  · rw [hsl]
    split <;> decide
  · decide
  · decide

abbrev env : Env := solo.env (0, 0)

/-- Nothing is left to be chosen. -/
def choice : Choice where
  draw := fun _ => 0
  top := 0

/-- The SL between two rounds, after `k` of them. -/
structure Rest (k : Nat) (s : ConnManager) : Prop where
  juggleQueue : s.juggleQueue = []
  sendQueue : s.sendQueue = []
  mapRound3Status : s.mapRound3Status = fun _ => none
  mapRound3PendingRequests : s.mapRound3PendingRequests = fun _ _ => none
  received : s.leaderBatchReceivedFromSelf = k
  processed : s.leaderBatchProcessed = k
  nextView : s.round2NextView = 1
  nextSeq : s.round2NextSeq = seqOf k
  status : s.pRound2CurrentStatus = none
  stored : s.pTemporaryStorageOfPreprepare = none
  queue : s.pLeaderRound2PendingPreprepareRaw = []
  collectorRr : s.leaderCollectorRr = 0

/-- The SL when it has issued its Preprepare `p` of round `k + 1`. -/
structure Issued (k : Nat) (p : MessageRound2Preprepare) (s : ConnManager) : Prop where
  juggleQueue : s.juggleQueue = []
  sendQueue : s.sendQueue = []
  mapRound3Status : s.mapRound3Status = fun _ => none
  mapRound3PendingRequests : s.mapRound3PendingRequests = fun _ _ => none
  received : s.leaderBatchReceivedFromSelf = k + 1
  processed : s.leaderBatchProcessed = k + 1
  nextView : s.round2NextView = 1
  nextSeq : s.round2NextSeq = seqOf (k + 1)
  status : s.pRound2CurrentStatus = some .waitingForPreprepare
  stored : s.pTemporaryStorageOfPreprepare = none
  queue : s.pLeaderRound2PendingPreprepareRaw = []
  collectorRr : s.leaderCollectorRr = 0
  version : p.header.version = versionLatest
  view : p.view = 1
  seq : p.seq = seqOf k
  fromClient : p.requestType = requestTypeFromClient
  cycle : p.lastcycle + 1 = p.cycle
  collector : p.collectorSLid.toNat = env.conf.sLid

/-- A node that waits for one message, or for none. -/
def node (s : ConnManager) (inbox : List QueueElement) : Node where
  sl := s
  inbox := inbox
  passLeft := 0
  crashed := false
  pipe := 0
  listenerEnded := none

/-- The element that a message to oneself arrives as. -/
def toSelf (m : Message) : QueueElement where
  upPeers := [none]
  pMessage := m

theorem deliveries_toSelf (m : Message) :
    deliveries (0, 0) (toSelf m) (0, 0) = [toSelf m.copy] := by
  unfold deliveries toSelf
  simp

/-- The only element of the inbox is dispatched, and the SL sends to itself only. -/
theorem receive_step {σ : Cluster} {s s' : ConnManager} {e : QueueElement} {l : List Message}
    (hσ : σ (0, 0) = node s [e]) (ho : dispatcherRound2 env choice e s = .ok s')
    (hjuggle : s'.juggleQueue = []) (hsend : s'.sendQueue = l.map toSelf) :
    ∃ σ', Step solo σ σ' ∧ σ' (0, 0)
      = node { s' with sendQueue := [] } (l.map fun m => toSelf m.copy) := by
  have hstep : receive solo (0, 0) 0 choice σ
      = some (install (0, 0) (node s []) (.ok s') σ) := by
    unfold receive
    rw [hσ]
    dsimp only [node]
    rw [List.getElem?_cons_zero]
    dsimp only
    rw [if_pos ⟨by decide, rfl, rfl, rfl⟩, ho, Outcome.state_ok, hjuggle]
    rfl
  refine ⟨_, ⟨.receive (0, 0) 0 choice, hstep⟩, ?_⟩
  unfold install send node
  rw [Function.update_self, Outcome.state_ok, hsend, List.flatMap_map]
  have hlist : (l.flatMap fun m => deliveries (0, 0) (toSelf m) (0, 0))
      = l.map fun m => toSelf m.copy := by
    simp only [deliveries_toSelf]
    exact List.flatMap_pure_eq_map _ _
  rw [hlist]
  rfl

/-- The batch of the next round has arrived. -/
def ticked (s : ConnManager) : ConnManager :=
  { s with leaderBatchReceivedFromSelf := s.leaderBatchReceivedFromSelf + 1 }

/-- A round starts. -/
theorem propose_run {k : Nat} {s : ConnManager} {σ : Cluster} (h : Rest k s)
    (hreach : Reachable solo σ) (hσ : σ (0, 0) = node s []) :
    ∃ σ' s' p, Reachable solo σ' ∧ Issued k p s'
      ∧ σ' (0, 0) = node s' [toSelf (.round2Preprepare p)] := by
  have htick : leaderTick solo 0 σ
      = some (Function.update σ (0, 0) { node (ticked s) [] with pipe := 2 }) := by
    unfold leaderTick
    rw [if_pos (by decide), hσ]
    rfl
  have hpipe : pipeReadable solo 0
      (Function.update σ (0, 0) { node (ticked s) [] with pipe := 2 })
      = some (Function.update σ (0, 0) (node (ticked s) [toSelf (.empty emptyMessage)])) := by
    unfold pipeReadable
    rw [Function.update_self]
    dsimp only [node]
    rw [if_pos ⟨by decide, by decide, rfl⟩, if_pos (by decide), Function.update_idem]
    rfl
  have hvalue : canStartRound2Value env (ticked s) = true := by
    have hn : env.conf.numSL env.conf.bGid = 1 := rfl
    unfold canStartRound2Value ticked
    dsimp only
    rw [h.status, h.queue, h.received, h.processed, hn]
    simp
  have ho : dispatcherRound2 env choice (toSelf (.empty emptyMessage)) (ticked s)
      = .ok (sendClientPreprepare env
        { ticked s with pRound2CurrentStatus := some .waitingForPreprepare }).state :=
    startRound2IfPossible_client rfl h.status h.queue hvalue
  have hsend : (sendClientPreprepare env
      { ticked s with pRound2CurrentStatus := some .waitingForPreprepare }).state.sendQueue
      = [Message.round2Preprepare (commonParts s (clientPreprepare env.host env.conf
          s.leaderRound2NextRcanopusCycle s.leaderEnvoysRr))].map toSelf := by
    show s.sendQueue ++ [_] = _
    rw [h.sendQueue]
    rfl
  obtain ⟨σ', hs, hσ'⟩ := receive_step (Function.update_self ..) ho h.juggleQueue hsend
  refine ⟨σ', _, _, ((hreach.step ⟨.leaderTick 0, htick⟩).step ⟨.pipeReadable 0, hpipe⟩).step hs,
    ?_, hσ'⟩
  exact {
    juggleQueue := h.juggleQueue
    sendQueue := rfl
    mapRound3Status := h.mapRound3Status
    mapRound3PendingRequests := h.mapRound3PendingRequests
    received := congrArg (· + 1) h.received
    processed := congrArg (· + 1) h.processed
    nextView := h.nextView
    nextSeq := by
      show s.round2NextSeq + 1 = _
      rw [h.nextSeq, seqOf_succ]
    status := rfl
    stored := h.stored
    queue := h.queue
    collectorRr := by
      show nextRoundRobin 1 s.leaderCollectorRr = 0
      rw [h.collectorRr]
      rfl
    version := rfl
    view := h.nextView
    seq := h.nextSeq
    fromClient := rfl
    cycle := UInt16.sub_add_cancel _ _
    collector := congrArg UInt16.toNat h.collectorRr }

/-- The SL with an empty `sendQueue`, as the sender leaves it. -/
def flushed (s : ConnManager) : ConnManager := { s with sendQueue := [] }

/-- The vote of the SL. -/
def ownVote (p : MessageRound2Preprepare) : MessageRound2PartialCommit :=
  partialCommitMessage 0 p.view p.seq

/-- The full commit of the SL. -/
def ownFullCommit (p : MessageRound2Preprepare) : MessageRound2FullCommit :=
  fullCommitMessage 0 p.view p.seq

section Round

variable {k : Nat} {p : MessageRound2Preprepare} {s : ConnManager} (h : Issued k p s)

include h

theorem at_issued : s.At s.round2View := by
  refine ⟨rfl, fun q hq => ?_⟩
  rw [h.queue] at hq
  exact absurd hq List.not_mem_nil

/-- The own copy is accepted. -/
theorem accept_eq (hk : k + 1 < 65535) :
    dispatcherRound2 env choice (toSelf (.round2Preprepare p)) s = .ok (afterAccept env p s) := by
  refine preprepare_accepted rfl h.version (at_issued h) (Or.inr h.status) ?_
    (h.view.trans h.nextView.symm) (Or.inl rfl) h.stored
  rw [preprepareTooEarly_at (at_issued h) (h.view.trans h.nextView.symm),
    decide_eq_false_iff_not]
  show ¬ s.round2NextSeq < p.seq
  rw [h.nextSeq, h.seq]
  exact UInt16.not_lt.mpr (UInt16.le_of_lt (seqOf_lt (Nat.lt_succ_self k) hk))

/-- The copy with the greatest number is juggled. -/
theorem juggle_eq (hk : k + 1 = 65535) :
    dispatcherRound2 env choice (toSelf (.round2Preprepare p)) s
      = .ok (s.juggle (toSelf (.round2Preprepare p))) := by
  refine preprepare_early rfl h.version (at_issued h) h.status ?_
  rw [preprepareTooEarly_at (at_issued h) (h.view.trans h.nextView.symm)]
  show decide (s.round2NextSeq < p.seq) = true
  rw [h.nextSeq, h.seq, hk, show k = 65534 by omega]
  rfl

theorem accept_sendQueue : (afterAccept env p s).sendQueue
    = [Message.round2PartialCommit (ownVote p)].map toSelf := by
  show s.sendQueue ++ [partialCommitElement env.conf p] = _
  unfold partialCommitElement collectorPeer
  rw [h.sendQueue, if_pos h.collector]
  rfl

/-- The own vote is the only one. -/
theorem count_eq :
    dispatcherRound2 env choice (toSelf (.round2PartialCommit (ownVote p)))
        (flushed (afterAccept env p s))
      = .ok (afterCount env p 0 (toSelf (.round2PartialCommit (ownVote p))) (ownVote p)
        (flushed (afterAccept env p s))) := by
  have hs : (flushed (afterAccept env p s)).At (flushed (afterAccept env p s)).round2View :=
    ⟨rfl, (at_issued h).2⟩
  refine partialCommit_counted rfl rfl hs ?_ ?_ rfl rfl rfl rfl rfl
  · exact congrArg some (if_pos h.collector)
  · show (p.collectorSLid.toNat == env.conf.sLid) = true
    rw [h.collector, beq_self_eq_true]

omit h in
theorem count_sendQueue {e : QueueElement} :
    (afterCount env p 0 e (ownVote p) (flushed s)).sendQueue
      = [Message.round2FullCommit (ownFullCommit p)].map toSelf := rfl

/-- The SL when the commit starts. -/
def beforeCommit (p : MessageRound2Preprepare) (s : ConnManager) : ConnManager :=
  flushed (afterCount env p 0 (toSelf (.round2PartialCommit (ownVote p))) (ownVote p)
    (flushed (afterAccept env p s)))

/-- The SL after the commit. -/
def afterCommit (p : MessageRound2Preprepare) (s : ConnManager) : ConnManager :=
  commitCycle p.cycle
    ((clientStatus env (ownFullCommit p) p (.committed p)).enter .round3Committed .invalid 0)
    (enterRound3 env (ownFullCommit p) p (.committed p) (beforeBranch p (beforeCommit p s)))

theorem commit_eq :
    dispatcherRound2 env choice (toSelf (.round2FullCommit (ownFullCommit p))) (beforeCommit p s)
      = .ok (afterCommit p s) := by
  have hs : (beforeCommit p s).At (beforeCommit p s).round2View := ⟨rfl, (at_issued h).2⟩
  have hnew : (beforeBranch p (beforeCommit p s)).mapRound3Status p.cycle = none := by
    show s.mapRound3Status p.cycle = none
    rw [h.mapRound3Status]
  have hpending : (enterRound3 env (ownFullCommit p) p (.committed p)
      (beforeBranch p (beforeCommit p s))).mapRound3PendingRequests .result p.cycle = none := by
    show s.mapRound3PendingRequests .result p.cycle = none
    rw [h.mapRound3PendingRequests]
  rw [fullCommit_committed (p := p) rfl rfl hs rfl rfl rfl rfl,
    fullCommitBranch_fromClient h.fromClient, fullCommitFromClient_eq h.cycle rfl rfl hnew,
    respondToPending_none hpending, Outcome.andThen_ok,
    envoyRound3SendFetchRequest_single rfl (Function.update_self ..) rfl, Outcome.andThen_ok]
  have hqueue : (afterCommit p s).pLeaderRound2PendingPreprepareRaw = [] := h.queue
  have hreceived : (afterCommit p s).leaderBatchReceivedFromSelf = k + 1 := h.received
  have hprocessed : (afterCommit p s).leaderBatchProcessed = k + 1 := h.processed
  have hvalue : canStartRound2Value env (afterCommit p s) = false := by
    unfold canStartRound2Value
    rw [show (afterCommit p s).pRound2CurrentStatus = none from rfl, hqueue, hreceived,
      hprocessed]
    simp
  exact startRound2IfPossible_idle (show env.conf.sLid = 0 from rfl) hvalue

/-- The SL is between two rounds again. -/
theorem rest_afterCommit : Rest (k + 1) (flushed (afterCommit p s)) where
  juggleQueue := h.juggleQueue
  sendQueue := rfl
  mapRound3Status := by
    show Function.update (Function.update s.mapRound3Status p.cycle _) p.cycle none = _
    rw [Function.update_idem, h.mapRound3Status]
    exact Function.update_eq_self p.cycle _
  mapRound3PendingRequests := h.mapRound3PendingRequests
  received := h.received
  processed := h.processed
  nextView := h.nextView
  nextSeq := h.nextSeq
  status := rfl
  stored := rfl
  queue := h.queue
  collectorRr := h.collectorRr

end Round

/-- A whole round, as long as the counter does not wrap. -/
theorem round_run {k : Nat} {s : ConnManager} {σ : Cluster} (h : Rest k s) (hk : k + 1 < 65535)
    (hreach : Reachable solo σ) (hσ : σ (0, 0) = node s []) :
    ∃ σ' s', Reachable solo σ' ∧ Rest (k + 1) s' ∧ σ' (0, 0) = node s' [] := by
  obtain ⟨σ₁, s₁, p, hreach₁, hissued, hσ₁⟩ := propose_run h hreach hσ
  obtain ⟨σ₂, hs₂, hσ₂⟩ :=
    receive_step hσ₁ (accept_eq hissued hk) hissued.juggleQueue (accept_sendQueue hissued)
  obtain ⟨σ₃, hs₃, hσ₃⟩ :=
    receive_step hσ₂ (count_eq hissued) hissued.juggleQueue count_sendQueue
  obtain ⟨σ₄, hs₄, hσ₄⟩ :=
    receive_step (l := []) hσ₃ (commit_eq hissued) hissued.juggleQueue rfl
  exact ⟨σ₄, _, ((hreach₁.step hs₂).step hs₃).step hs₄, rest_afterCommit hissued, hσ₄⟩

theorem rest_init : Rest 0 .init where
  juggleQueue := rfl
  sendQueue := rfl
  mapRound3Status := rfl
  mapRound3PendingRequests := rfl
  received := rfl
  processed := rfl
  nextView := rfl
  nextSeq := rfl
  status := rfl
  stored := rfl
  queue := rfl
  collectorRr := rfl

/-- Rounds follow one another until the counter wraps. -/
theorem rounds_run {k : Nat} (hk : k < 65535) :
    ∃ σ s, Reachable solo σ ∧ Rest k s ∧ σ (0, 0) = node s [] := by
  induction k with
  | zero => exact ⟨init, _, .refl, rest_init, rfl⟩
  | succ k ih =>
    obtain ⟨σ, s, hreach, h, hσ⟩ := ih (by omega)
    exact round_run h hk hreach hσ

theorem dispatch_of_node {σ : Cluster} {s : ConnManager} {e : QueueElement}
    (hσ : σ (0, 0) = node s [e]) :
    Dispatch solo σ (install (0, 0) (node s []) (dispatcherRound2 env choice e s) σ) (0, 0) e
      choice (node s []) where
  has := by decide
  alive := by
    rw [hσ]
    rfl
  taken := by
    unfold pool
    rw [hσ]
    rfl
  sl_eq := by
    rw [hσ]
    rfl
  result := rfl

end Solo

open Solo in
/-- The first copy of a single server is accepted, as its number is 1. -/
theorem solo_first_preprepare_accepted :
    ∃ σ σ' before e p, Reachable solo σ ∧ Dispatch solo σ σ' (0, 0) e choice before
      ∧ e.pMessage = .round2Preprepare p ∧ p.seq = 1
      ∧ Accepts env before.sl p (dispatcherRound2 env choice e before.sl) := by
  obtain ⟨σ, s, p, hreach, h, hσ⟩ := propose_run rest_init .refl rfl
  have hd := dispatch_of_node hσ
  have hstatus : (σ (0, 0)).sl.pRound2CurrentStatus.map CycleStatus.state
      = some .round2WaitingForPreprepare := by
    rw [hσ]
    show s.pRound2CurrentStatus.map CycleStatus.state = _
    rw [h.status]
    rfl
  refine ⟨σ, _, _, _, p, hreach, hd, rfl, h.seq, ?_⟩
  refine (own_preprepare_accepted_iff valid_solo.fits hreach hd rfl hstatus).2.mpr ?_
  rw [h.seq]
  decide

open Solo in
/--
After 65534 rounds a single server issues its Preprepare number 65535. Its own copy is dispatched
while it waits for a Preprepare, and goes back to the juggle queue.
-/
theorem solo_last_preprepare_juggled :
    ∃ σ σ' before e p, Reachable solo σ ∧ Dispatch solo σ σ' (0, 0) e choice before
      ∧ e.pMessage = .round2Preprepare p ∧ p.seq = 65535
      ∧ (σ (0, 0)).sl.pRound2CurrentStatus.map CycleStatus.state
        = some .round2WaitingForPreprepare
      ∧ dispatcherRound2 env choice e before.sl = .ok (before.sl.juggle e)
      ∧ ¬ Accepts env before.sl p (dispatcherRound2 env choice e before.sl) := by
  obtain ⟨σ₀, s₀, hreach₀, hrest, hσ₀⟩ := rounds_run (k := 65534) (by decide)
  obtain ⟨σ, s, p, hreach, h, hσ⟩ := propose_run hrest hreach₀ hσ₀
  have ho := juggle_eq h rfl
  refine ⟨σ, _, _, _, p, hreach, dispatch_of_node hσ, rfl, h.seq, ?_, ho, fun hacc => ?_⟩
  · rw [hσ]
    show s.pRound2CurrentStatus.map CycleStatus.state = _
    rw [h.status]
    rfl
  · have hstored := hacc.stored
    have ho' : dispatcherRound2 env choice (toSelf (.round2Preprepare p)) (node s []).sl = _ := ho
    rw [ho'] at hstored
    have hstored : s.pTemporaryStorageOfPreprepare = some p := hstored
    rw [h.stored] at hstored
    exact absurd hstored (by simp)

end RCanopus
