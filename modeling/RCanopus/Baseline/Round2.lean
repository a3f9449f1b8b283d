import RCanopus.Baseline.Erasure

/-!
# Round 2 of the baseline variant

Round 3 leaves the erased state to round 2 as it is. A full commit ends a round as in
`ConnManager.cpp`, or it goes back to the queue and the round stays open. So the invariant of
round 2 holds of the erased state in every run.
-/

namespace RCanopus.Baseline

open Baseline.Cluster

/-! ## The view -/

/-- What round 2 sees of the state is `v`. -/
def ConnManager.At (s : ConnManager) (v : Round2View) : Prop := s.erase.At v

def Outcome.Keeps (v : Round2View) (o : Outcome) : Prop := o.erase.Keeps v

variable {env : Env} {ω : Choice} {v : Round2View} {s : ConnManager} {e : QueueElement}
  {Q : Outcome → Prop}

theorem ConnManager.At.trace (h : s.At v) : s.erase.round2View.trace = v.trace :=
  RCanopus.ConnManager.At.trace h

theorem ConnManager.At.enqueue (h : s.At v) (he : e.pMessage.erase.isRound2 = false) :
    (s.enqueue e).At v := by
  unfold ConnManager.At
  rw [s.erase_enqueue]
  exact RCanopus.ConnManager.At.enqueue h he

theorem ConnManager.At.juggle (h : s.At v) (he : e.pMessage.erase.isRound2 = false) :
    (s.juggle e).At v := by
  unfold ConnManager.At
  rw [s.erase_juggle]
  exact RCanopus.ConnManager.At.juggle h he

theorem ConnManager.At.answerRequests (h : s.At v) (source : ReplySource) (cycle : UInt16)
    {m : MessageRound3FetchResponse} {requests : List (UInt16 × UInt16)} :
    (answerRequests source cycle m requests s).At v :=
  ConnManager.At.enqueue (s := s) h rfl

theorem ConnManager.At.pushPreprepare (h : s.At v) {p : MessageRound2Preprepare}
    (hp : p.header.version = versionLatest) : (pushPreprepare p s).At v :=
  RCanopus.ConnManager.At.pushPreprepare h hp

theorem ConnManager.At.clearRound2 (h : s.At v) : (clearRound2 s).At v.clear :=
  RCanopus.at_clearRound2 h

theorem Outcome.Keeps.andThen {o : Outcome} {k : ConnManager → Outcome} (ho : o.Keeps v)
    (hthrow : ∀ ex s, s.erase.round2View.trace = v.trace → Q (.thrown ex s))
    (hk : ∀ s, s.At v → Q (k s)) : Q (o.andThen k) := by
  cases o with
  | ok s => exact hk s ho
  | thrown ex s => exact hthrow ex s ho

theorem Outcome.Keeps.spawned {o : Outcome} (h : o.Keeps v) : Spawned env v o.erase :=
  RCanopus.Outcome.Keeps.spawned h

theorem debugThrow_view {flag : Bool} {k : ConnManager → Outcome} (hs : s.At v)
    (hthrow : ∀ ex s, s.erase.round2View.trace = v.trace → Q (.thrown ex s))
    (hk : ∀ s, s.At v → Q (k s)) : Q (debugThrow env flag s k) := by
  unfold debugThrow
  split
  · exact hk s hs
  · split
    · exact hthrow _ _ hs.trace
    · exact hk _ hs

theorem debugThrowElseReturnVoid_view {flag : Bool} {k : ConnManager → Outcome} (hs : s.At v)
    (hthrow : ∀ ex s, s.erase.round2View.trace = v.trace → Q (.thrown ex s))
    (hreturn : ∀ s, s.At v → Q (.ok s))
    (hk : ∀ s, s.At v → Q (k s)) : Q (debugThrowElseReturnVoid env flag s k) := by
  unfold debugThrowElseReturnVoid
  split
  · exact hk s hs
  · split
    · exact hthrow _ _ hs.trace
    · exact hreturn _ hs

/-! ## Round 3 -/

theorem round3RespondToPendingFetchRequests_keeps {cycle : UInt16} (hs : s.At v) :
    (round3RespondToPendingFetchRequests env cycle s).Keeps v := by
  have htrace := hs.trace
  unfold round3RespondToPendingFetchRequests
  split
  · exact htrace
  · split
    · exact htrace
    · split
      · exact hs
      · split
        · exact htrace
        · exact ConnManager.At.answerRequests hs .pending cycle

theorem round3Committed_keeps {cycle : UInt16} (hs : s.At v) :
    (round3Committed cycle s).Keeps v := by
  have htrace := hs.trace
  unfold round3Committed
  split
  · exact htrace
  · split
    · exact htrace
    · exact hs

theorem envoyRound3SendFetchRequest_keeps {cycle : UInt16} (hs : s.At v) :
    (envoyRound3SendFetchRequest env ω cycle s).Keeps v := by
  have htrace := hs.trace
  unfold envoyRound3SendFetchRequest
  split
  · exact htrace
  · split
    · exact htrace
    · split
      · exact round3Committed_keeps hs
      · dsimp only
        split
        · exact htrace
        · refine debugThrow_view (Q := Outcome.Keeps v) hs (fun _ _ h => h) fun s' hs' => ?_
          exact ConnManager.At.enqueue hs' rfl

theorem dispatcherRound3FetchRequest_keeps {m : MessageRound3FetchRequest} (hs : s.At v) :
    (dispatcherRound3FetchRequest env m s).Keeps v := by
  have htrace := hs.trace
  unfold dispatcherRound3FetchRequest
  dsimp only
  split
  · split
    · split
      · exact htrace
      · exact hs.answerRequests .template m.cycle
    · exact hs
  · split
    · exact htrace
    · exact hs.answerRequests .status m.cycle

theorem spawnRound2_spawned (hs : s.At v) : Spawned env v (spawnRound2 env ω s).erase := by
  rw [erase_spawnRound2]
  unfold RCanopus.spawnRound2
  split
  · next hleader =>
    exact startRound2IfPossible_spawned (by simpa [Config.isRound2Leader] using hleader) hs
  · exact Spawned.kept _ hs

theorem dispatcherRound3FetchResponse_spawned {m : MessageRound3FetchResponse} (hs : s.At v) :
    Spawned env v (dispatcherRound3FetchResponse env ω m s).erase := by
  unfold dispatcherRound3FetchResponse
  dsimp only
  split
  · exact Spawned.thrown _ _ hs.trace
  · refine debugThrow_view (Q := fun o => Spawned env v o.erase) hs
      (fun ex s h => Spawned.thrown ex _ h) fun s₁ hs₁ => ?_
    split
    · refine spawnRound2_spawned ?_
      split
      · exact ConnManager.At.pushPreprepare (v := v) hs₁ rfl
      · exact hs₁
    · exact spawnRound2_spawned hs₁

theorem dispatcherRound3Preprepare_keeps {m : MessageRound3PreprepareBaseline} (hs : s.At v)
    (he : e.pMessage.erase.isRound2 = false) :
    (dispatcherRound3Preprepare env e m s).Keeps v := by
  have hthrow : ∀ ex s, s.erase.round2View.trace = v.trace → (Outcome.thrown ex s).Keeps v :=
    fun _ _ h => h
  unfold dispatcherRound3Preprepare
  dsimp only
  split
  · exact hthrow _ _ hs.trace
  · split
    · exact ConnManager.At.juggle hs he
    · refine debugThrowElseReturnVoid_view hs hthrow (fun _ h => h) fun s₁ hs₁ => ?_
      refine debugThrowElseReturnVoid_view hs₁ hthrow (fun _ h => h) fun s₂ hs₂ => ?_
      exact ConnManager.At.enqueue (s := s₂.setStatus _ _) hs₂ rfl

theorem dispatcherRound3PartialCommit_keeps {m : MessageRound3PartialCommitBaseline}
    (hs : s.At v) (he : e.pMessage.erase.isRound2 = false) :
    (dispatcherRound3PartialCommit env e m s).Keeps v := by
  have hthrow : ∀ ex s, s.erase.round2View.trace = v.trace → (Outcome.thrown ex s).Keeps v :=
    fun _ _ h => h
  unfold dispatcherRound3PartialCommit
  refine debugThrowElseReturnVoid_view hs hthrow (fun _ h => h) fun s₁ hs₁ => ?_
  dsimp only
  split
  · exact hthrow _ _ hs₁.trace
  · split
    · exact ConnManager.At.juggle hs₁ he
    · refine debugThrowElseReturnVoid_view hs₁ hthrow (fun _ h => h) fun s₂ hs₂ => ?_
      split
      · exact ConnManager.At.enqueue (s := (s₂.note _).setStatus _ _) hs₂ rfl
      · exact hs₂

theorem dispatcherRound3FullCommit_keeps {m : MessageRound3FullCommitBaseline} (hs : s.At v)
    (he : e.pMessage.erase.isRound2 = false) : (dispatcherRound3FullCommit e m s).Keeps v := by
  unfold dispatcherRound3FullCommit
  dsimp only
  split
  · exact hs.trace
  · split
    · exact ConnManager.At.juggle hs he
    · exact round3Committed_keeps (s := s.setStatus _ _) hs

/-- Messages that are not of round 2 leave round 2 alone, but the leader may start a round. -/
theorem dispatcherRound2_spawned (he : e.pMessage.erase.isRound2 = false) (hs : s.At v) :
    Spawned env v (dispatcherRound2 env ω e s).erase := by
  have hround2 : ∀ {m : Message}, e.pMessage = m → m.erase.isRound2 = true → False := by
    intro m hm hm2
    rw [hm, hm2] at he
    exact Bool.noConfusion he
  unfold dispatcherRound2
  split
  · exact Spawned.thrown _ _ hs.trace
  · split
    · next m hm => exact (hround2 hm rfl).elim
    · rw [erase_shared fun _ _ _ => dispatcherRound2Request_prepend]
      exact dispatcherRound2Request_spawned rfl hs
    · next m hm => exact (hround2 hm rfl).elim
    · next m hm => exact (hround2 hm rfl).elim
    · next m hm => exact (hround2 hm rfl).elim
    · exact (dispatcherRound3FetchRequest_keeps hs).spawned
    · exact dispatcherRound3FetchResponse_spawned hs
    · exact (dispatcherRound3Preprepare_keeps hs he).spawned
    · exact (dispatcherRound3PartialCommit_keeps hs he).spawned
    · exact (dispatcherRound3FullCommit_keeps hs he).spawned
    · exact Spawned.thrown _ _ hs.trace

/-! ## What both variants share -/

/-- A message that both variants handle alike. -/
def SharedMessage : RCanopus.Message → Prop
  | .empty _ => True
  | .round2Request _ => True
  | .round2Preprepare _ => True
  | .round2PartialCommit _ => True
  | _ => False

/-- **Round 2 up to the full commits is that of `ConnManager.cpp`.** -/
theorem erase_dispatcherRound2 {m : RCanopus.Message} (hm : e.pMessage = .common m)
    (hshared : SharedMessage m) :
    (dispatcherRound2 env ω e s).erase
      = RCanopus.dispatcherRound2 env ω.engine e.erase s.erase := by
  have herase : e.erase.pMessage = m := congrArg Message.erase hm
  unfold dispatcherRound2 RCanopus.dispatcherRound2
  rw [hm, herase]
  split
  · next hversion => exact (if_pos hversion).symm
  · next hversion =>
    refine Eq.trans ?_ (if_neg hversion).symm
    have hpeers : ∀ m', ({ upPeers := e.upPeers, pMessage := m' } : RCanopus.QueueElement)
        = { e.erase with pMessage := m' } := fun _ => rfl
    have heta : ({ e.erase with pMessage := m } : RCanopus.QueueElement) = e.erase := by
      rw [← herase]
    cases m with
    | empty m =>
      exact erase_shared (fun _ _ _ =>
        debugThrow_prepend fun _ => startRound2IfPossible_prepend) s
    | round2Request m =>
      dsimp only
      rw [hpeers, heta]
      exact erase_shared (fun _ _ _ => dispatcherRound2Request_prepend) s
    | round2Preprepare m =>
      dsimp only
      rw [hpeers, heta]
      exact erase_shared (fun _ _ _ => dispatcherRound2Preprepare_prepend) s
    | round2PartialCommit m =>
      dsimp only
      rw [hpeers, heta]
      exact erase_shared (fun _ _ _ => dispatcherRound2PartialCommit_prepend) s
    | _ => exact absurd hshared id

/-! ## Full commits -/

/-- The state in which a commit starts. -/
def beforeBranch (p : MessageRound2Preprepare) (s : ConnManager) : ConnManager :=
  setRound2Status (some (.committed p)) s

theorem at_beforeBranch {p : MessageRound2Preprepare} (hs : s.At v) :
    (noteCommitted p (beforeBranch p s)).At (v.commit p) := RCanopus.at_beforeBranch hs

/-- What a full commit leads to, once its checks have passed. -/
def commitBranch (env : Env) (ω : Choice) (e : QueueElement) (m : MessageRound2FullCommit)
    (p : MessageRound2Preprepare) (s : ConnManager) : Outcome :=
  if p.requestType = requestTypeFromClient then
    fullCommitFromClient env ω m p (.committed p) (noteCommitted p (beforeBranch p s))
      (spawnRound2 env ω)
  else if p.requestType = requestTypeLocalConnectivity then
    fullCommitLocalConnectivity env ω e p (.committed p) (beforeBranch p s) (spawnRound2 env ω)
  else .thrown .messageInvalidRequestType (noteCommitted p (beforeBranch p s))

/-- The full commit for the running round takes its branch. -/
theorem fullCommit_branch {m : MessageRound2FullCommit} {p : MessageRound2Preprepare}
    (hm : e.pMessage = .common (.round2FullCommit m)) (hversion : m.header.version = versionLatest)
    (hstatus : s.common.pRound2CurrentStatus = some (.waitingForFullcommit p))
    (hstored : s.common.pTemporaryStorageOfPreprepare = some p)
    (hview : m.view = p.view) (hseq : m.seq = p.seq) :
    dispatcherRound2 env ω e s = commitBranch env ω e m p s := by
  unfold dispatcherRound2
  rw [hm]
  refine (if_neg fun h => h hversion).trans ?_
  dsimp only
  unfold dispatcherRound2FullCommit
  rw [hstatus]
  dsimp only
  rw [if_neg (by simp [CycleStatus.waitingForFullcommit, CycleStatus.active]),
    show ((CycleStatus.waitingForFullcommit p).state == .round2WaitingForFullcommit) = true
      from rfl,
    debugThrowElseReturnVoid_true,
    show (m.view == (CycleStatus.waitingForFullcommit p).round2View) = true from by
      rw [hview]; exact beq_self_eq_true _,
    debugThrowElseReturnVoid_true,
    show (m.seq == (CycleStatus.waitingForFullcommit p).round2Sequence) = true from by
      rw [hseq]; exact beq_self_eq_true _,
    debugThrowElseReturnVoid_true, hstored]
  rfl

/--
How a commit ends for round 2: the round is cleared or the handler has left early, as in
`ConnManager.cpp`, or the full commit was put back.
-/
inductive Committed (env : Env) (e : QueueElement) (p : MessageRound2Preprepare)
    (v : Round2View) (o : Outcome) : Prop where
  | finished (h : Finished env (v.commit p) o.erase)
  | putBack (s : ConnManager) (ho : o = .ok s) (h : s.At (v.juggle e.erase))

theorem skipCycles_keeps {m : MessageRound2FullCommit} {p : MessageRound2Preprepare}
    {status : RCanopus.CycleStatus} {n : Nat} {cycle : UInt16} (hs : s.At v) :
    (skipCycles env ω m p status n cycle s).Keeps v := by
  induction n generalizing cycle s with
  | zero => exact hs
  | succ n ih =>
    unfold skipCycles
    refine debugThrow_view (Q := Outcome.Keeps v) hs (fun _ _ h => h) fun s₁ hs₁ => ?_
    refine debugThrow_view (Q := Outcome.Keeps v) hs₁ (fun _ _ h => h) fun s₂ hs₂ => ?_
    have hset : (s₂.setStatus cycle
        (.ofRound2 (skippedStatus env m p status cycle))).At v := hs₂
    refine (round3RespondToPendingFetchRequests_keeps hset).andThen (fun _ _ h => h)
      fun s₃ hs₃ => ?_
    exact (envoyRound3SendFetchRequest_keeps hs₃).andThen (fun _ _ h => h) fun s₄ hs₄ => ih hs₄

theorem spawnRound2_finished (hs : s.At v.clear) :
    Finished env v (spawnRound2 env ω s).erase := .cleared _ (spawnRound2_spawned hs)

theorem at_prepareFakeResponse {p : MessageRound2Preprepare} (hs : s.At v) :
    (prepareFakeResponse env ω p s).At v := by
  unfold prepareFakeResponse
  split
  · exact hs
  · exact hs

theorem at_proposeRound3 {cycle : UInt16} (hs : s.At v) : (proposeRound3 env ω cycle s).At v := by
  unfold proposeRound3
  split
  · exact ConnManager.At.enqueue hs rfl
  · exact hs

theorem fullCommitFromClient_finished {m : MessageRound2FullCommit} {p : MessageRound2Preprepare}
    {status : RCanopus.CycleStatus} (hs : s.At v) :
    Finished env v (fullCommitFromClient env ω m p status s (spawnRound2 env ω)).erase := by
  unfold fullCommitFromClient
  refine (skipCycles_keeps (at_prepareFakeResponse hs)).andThen
    (Q := fun o => Finished env v o.erase) (fun ex s h => Finished.thrown ex _ h) fun s₁ hs₁ => ?_
  dsimp only
  refine debugThrowElseReturnVoid_view (Q := fun o => Finished env v o.erase) hs₁
    (fun ex s h => Finished.thrown ex _ h) (fun s h => Finished.returned _ h) fun s₂ hs₂ => ?_
  generalize resultStatus env m p status = status'
  have hstored : ConnManager.At
      { s₂ with common := { s₂.common with
        pTemporaryStorageOfPreprepare := none, pRound2CurrentStatus := some status' } }
      { v with stored := none, status := some status' } := by
    refine ⟨?_, hs₂.2⟩
    rw [← hs₂.1]
    rfl
  refine debugThrow_view (Q := fun o => Finished env v o.erase) hstored
    (fun ex s h => Finished.thrown ex _ h) fun s₃ hs₃ => ?_
  have hclear : (setRound2Status none (s₃.setStatus p.cycle (.ofRound2 status'))).At v.clear := by
    refine ⟨?_, hs₃.2⟩
    have hview : (setRound2Status none (s₃.setStatus p.cycle (.ofRound2 status'))).erase.round2View
        = { s₃.erase.round2View with status := none } := rfl
    rw [hview, hs₃.1]
    rfl
  refine (round3RespondToPendingFetchRequests_keeps hclear).andThen
    (Q := fun o => Finished env v o.erase) (fun ex s h => Finished.thrown ex _ h) fun s₄ hs₄ => ?_
  exact (envoyRound3SendFetchRequest_keeps hs₄).andThen
    (Q := fun o => Finished env v o.erase) (fun ex s h => Finished.thrown ex _ h)
    fun s₅ hs₅ => spawnRound2_finished hs₅

theorem fullCommitLocalConnectivity_committed {p : MessageRound2Preprepare} (hs : s.At v)
    (he : e.pMessage.erase.isRound2 = true)
    (hstatus : v.status = some (.waitingForFullcommit p)) :
    Committed env e p v (fullCommitLocalConnectivity env ω e p (.committed p)
      (beforeBranch p s) (spawnRound2 env ω)) := by
  have hcommit := at_beforeBranch (p := p) hs
  unfold fullCommitLocalConnectivity
  dsimp only
  split
  · exact .finished (Finished.thrown _ _ hcommit.trace)
  · split
    · refine .putBack _ rfl ?_
      have hback : ConnManager.At (setRound2Status (some { CycleStatus.committed p with
          state := .round2WaitingForFullcommit }) (beforeBranch p s)) v := by
        refine ⟨?_, hs.2⟩
        have hview : ({ v with status := some (CycleStatus.waitingForFullcommit p) }
            : Round2View) = v := by rw [← hstatus]
        rw [← hview, ← hs.1]
        rfl
      unfold ConnManager.At
      rw [ConnManager.erase_juggle]
      exact at_juggle_round2 hback he
    · refine .finished ?_
      have hpropose : (proposeRound3 env ω p.cycle ((noteCommitted p (beforeBranch p s)).note
          (.committedConnectivity p.cycle))).At (v.commit p) := at_proposeRound3 hcommit
      split
      · exact spawnRound2_finished hpropose.clearRound2
      · refine (round3Committed_keeps (s := (clearRound2 _).setStatus _ _)
          hpropose.clearRound2).andThen
          (Q := fun o => Finished env (v.commit p) o.erase)
          (fun ex s h => Finished.thrown ex _ h) fun s₁ hs₁ => spawnRound2_finished hs₁

/-- **A full commit** ends the round, or it is put back. -/
theorem commitBranch_committed {m : MessageRound2FullCommit} {p : MessageRound2Preprepare}
    (hs : s.At v) (he : e.pMessage.erase.isRound2 = true)
    (hstatus : v.status = some (.waitingForFullcommit p)) :
    Committed env e p v (commitBranch env ω e m p s) := by
  unfold commitBranch
  split
  · exact .finished (fullCommitFromClient_finished (at_beforeBranch hs))
  · split
    · exact fullCommitLocalConnectivity_committed hs he hstatus
    · exact .finished (Finished.thrown _ _ (at_beforeBranch hs).trace)

/-! ## All runs -/

section Dispatch

variable {d : Deployment} {σ σ' : Cluster} {b i : Nat} {before : Node} {a : LockStep.State}
  {log : List MessageRound2Preprepare} (hd : Dispatch d σ σ' (b, i) e ω before)

include hd

/-- A message that both variants handle alike is dispatched as in `ConnManager.cpp`. -/
theorem Cluster.Dispatch.shared {m : RCanopus.Message} (hm : e.pMessage = .common m)
    (hshared : SharedMessage m) : RCanopus.Cluster.Dispatch d σ.erase σ'.erase (b, i) e.erase
      ω.engine before.erase := by
  have h := hd.erase
  refine ⟨h.has, h.alive, h.taken, h.sl_eq, ?_⟩
  rw [h.result, erase_dispatcherRound2 hm hshared]
  rfl

/--
What is known when SL `i` dispatches a full commit: it is for the next entry to commit, and it takes
its branch.
-/
structure FullCommitAt (d : Deployment) (b i : Nat) (e : QueueElement) (ω : Choice)
    (before : Node) (a : LockStep.State) (log : List MessageRound2Preprepare)
    (m : MessageRound2FullCommit) (p : MessageRound2Preprepare) : Prop where
  entry : log[a.com i]? = some p
  lt : a.com i < a.closed
  element : e.erase = fullCommitAt b i (a.com i) (collectorOf log (a.com i))
  message : m = fullCommitMessage (collectorOf log (a.com i)) 1 (seqOf (a.com i))
  status : before.sl.common.pRound2CurrentStatus = some (.waitingForFullcommit p.copy)
  stored : before.sl.common.pTemporaryStorageOfPreprepare = some p.copy
  branch : dispatcherRound2 (d.env (b, i)) ω e before.sl
    = commitBranch (d.env (b, i)) ω e m p.copy before.sl

variable (hinv : Round2Inv d σ.erase b a log)

include hinv

theorem Cluster.Dispatch.at_before : before.sl.At before.sl.erase.round2View :=
  hd.erase.at_before hinv

theorem Cluster.Dispatch.fullCommitAt {m : MessageRound2FullCommit}
    (hm : e.pMessage = .common (.round2FullCommit m)) :
    ∃ p, FullCommitAt d b i e ω before a log m p := by
  have hi : i < d.conf.numSL b := hd.has.2
  have herase : e.erase.pMessage = .round2FullCommit m := congrArg Message.erase hm
  obtain ⟨hlt, he⟩ := hd.erase.fullCommit_eq hinv (by rw [herase]; rfl)
  have hmessage : m = fullCommitMessage (collectorOf log (a.com i)) 1 (seqOf (a.com i)) := by
    rw [he] at herase
    exact (RCanopus.Message.round2FullCommit.inj herase).symm
  obtain ⟨hacc, hclosed⟩ := hinv.lock.closed_of_lt hi hlt
  have hst := hinv.start hd.erase
  cases hst.live_self.phase with
  | ready hidle => omega
  | stuck q k hk hq hidle => omega
  | active p hp hidle hstored hcol hstatus =>
    have hentry := hinv.entries _ _ hp
    rw [if_neg fun h => Nat.ne_of_lt hlt h.2] at hstatus
    refine ⟨p, hp, hlt, he, hmessage, hstatus, hstored, ?_⟩
    subst hmessage
    exact fullCommit_branch hm rfl hstatus hstored
      (show (1 : UInt16) = p.view from hentry.view.symm)
      (show seqOf (a.com i) = p.seq from hentry.seq.symm)

theorem Round2Inv.dispatch_fullCommit_erase {m : MessageRound2FullCommit}
    (hm : e.pMessage = .common (.round2FullCommit m)) :
    ∃ a' log', Round2Next d σ.erase σ'.erase b a' log' := by
  obtain ⟨p, hat⟩ := hd.fullCommitAt hinv hm
  have hi : i < d.conf.numSL b := hd.has.2
  have hst := hinv.start hd.erase
  have hround2 : e.pMessage.erase.isRound2 = true := by rw [hm]; rfl
  have hstatus : before.sl.erase.round2View.status = some (.waitingForFullcommit p.copy) :=
    hat.status
  have hto := hd.erase
  rw [hat.branch] at hto
  have hcommitted : Committed (d.env (b, i)) e p.copy before.sl.erase.round2View
      (commitBranch (d.env (b, i)) ω e m p.copy before.sl) :=
    commitBranch_committed (hd.at_before hinv) hround2 hstatus
  cases hcommitted with
  | putBack s ho hs =>
    rw [ho] at hto
    exact ⟨a, log, hst.juggle.close hto hinv hs⟩
  | finished hfinished =>
    revert hto hfinished
    generalize (commitBranch (d.env (b, i)) ω e m p.copy before.sl).erase = o
    intro hto hfinished
    rw [hat.element] at hst hto
    cases hfinished with
    | returned s hs =>
      exact ⟨_, _, (hst.commit hi hat.lt hat.entry).close hto hinv hs⟩
    | cleared o h =>
      exact (hst.commit_clear hi hat.lt hat.entry).close_spawned hto hinv h

/-- A dispatch keeps the invariant of round 2. -/
theorem Round2Inv.dispatch_erase :
    ∃ a' log', Round2Next d σ.erase σ'.erase b a' log' := by
  have hquiet : e.pMessage.erase.isRound2 = false →
      ∃ a' log', Round2Next d σ.erase σ'.erase b a' log' := fun he =>
    ((hinv.start hd.erase).drop he).close_spawned hd.erase hinv
      (dispatcherRound2_spawned he (hd.at_before hinv))
  cases hm : e.pMessage with
  | common m =>
    cases m with
    | round2FullCommit m => exact Round2Inv.dispatch_fullCommit_erase hd hinv hm
    | empty m => exact hinv.dispatch (hd.shared hm trivial)
    | round2Preprepare m => exact hinv.dispatch (hd.shared hm trivial)
    | round2PartialCommit m => exact hinv.dispatch (hd.shared hm trivial)
    | _ => exact hquiet (by rw [hm]; rfl)
  | _ => exact hquiet (by rw [hm]; rfl)

end Dispatch

variable {d : Deployment} {σ σ' : Cluster}

theorem round2Ok_step (h : Round2Ok d σ.erase) (hs : Step d σ σ') : Round2Ok d σ'.erase := by
  intro b hn
  rcases step_cases hs with ⟨⟨b', i⟩, e, ω, before, hd⟩ | ht
  · obtain ⟨a, log, hinv⟩ := h b' (Nat.lt_of_le_of_lt (Nat.zero_le i) hd.has.2)
    obtain ⟨a', log', hnext⟩ := Round2Inv.dispatch_erase hd hinv
    by_cases hb : b = b'
    · subst hb
      exact ⟨a', log', hnext.own⟩
    · obtain ⟨a₀, log₀, hinv₀⟩ := h b hn
      exact ⟨a₀, log₀, hnext.others b hb a₀ log₀ hinv₀⟩
  · obtain ⟨a, log, hinv⟩ := h b hn
    exact ⟨a, log, hinv.tick ht.erase⟩

/-- **Round 2 of the baseline variant** keeps the invariant of round 2 in every run. -/
theorem round2Ok_of_reachable (h : Reachable d σ) : Round2Ok d σ.erase :=
  h.induct (RCanopus.round2Ok_init (d := d)) fun _ _ _ h hs => round2Ok_step h hs

end RCanopus.Baseline
