import RCanopus.Baseline.Round3Run
import RCanopus.JugglePass

/-!
# What the dispatcher puts back

A message that comes too early goes to the end of the juggle queue. `Waits` is what the dispatcher
looks at before it does so. At an SL in a run it puts back exactly the messages that wait, and it
takes all the others without a change of the queue.
-/

namespace RCanopus.Baseline

open Baseline.Cluster

/-! ## What a message waits for -/

/-- The status of round 2, which a Preprepare makes when there is none. -/
def roundOf (s : ConnManager) : RCanopus.CycleStatus :=
  s.common.pRound2CurrentStatus.getD .waitingForPreprepare

/-- The Preprepare that is to be committed is a local connectivity, and results are missing. -/
def LacksResults (s : ConnManager) : Prop :=
  ∃ p ∈ s.common.pTemporaryStorageOfPreprepare, p.requestType = requestTypeLocalConnectivity
    ∧ ∃ status ∈ s.mapRound3Status p.cycle,
      status.state ≠ .common .round3WaitingForLocalConnectivity

/-- The cycle is in round 3, in another state. -/
def NotIn (s : ConnManager) (cycle : UInt16) (state : CycleState) : Prop :=
  ∃ status ∈ s.mapRound3Status cycle, status.state ≠ state

/-- The dispatcher puts the message back. -/
def Waits (s : ConnManager) : Message → Prop
  | .common (.round2Preprepare m) =>
    (roundOf s).awaitingMessageType ≠ .round2Preprepare ∨ preprepareTooEarly s.common m = true
  | .common (.round2PartialCommit m) =>
    (roundOf s).state = .round2WaitingForPreprepare
      ∨ (roundOf s).round2View < m.view ∨ (roundOf s).round2Sequence < m.seq
  | .common (.round2FullCommit _) =>
    (roundOf s).state = .round2WaitingForPreprepare ∨ LacksResults s
  | .round3Preprepare m => NotIn s m.cycle .round3WaitingForPreprepareBaseline
  | .round3PartialCommit m => NotIn s m.cycle .round3CollectorWaitingForPartialcommitsBaseline
  | _ => False

/-- What decides whether a message waits is the same. -/
structure SameGate (s s' : ConnManager) : Prop where
  state : (roundOf s').state = (roundOf s).state
  awaiting : (roundOf s').awaitingMessageType = (roundOf s).awaitingMessageType
  view : (roundOf s').round2View = (roundOf s).round2View
  seq : (roundOf s').round2Sequence = (roundOf s).round2Sequence
  stored : s'.common.pTemporaryStorageOfPreprepare = s.common.pTemporaryStorageOfPreprepare
  nextView : s'.common.round2NextView = s.common.round2NextView
  nextSeq : s'.common.round2NextSeq = s.common.round2NextSeq
  cycles : s'.mapRound3Status = s.mapRound3Status

/-- The messages that can be put back at an SL. -/
def Juggles (x : Peer) : Message → Prop
  | .common (.round2Preprepare _) => True
  | .common (.round2PartialCommit _) => True
  | .common (.round2FullCommit _) => x.2 ≠ 0
  | .round3Preprepare _ => x.2 = 0
  | .round3PartialCommit _ => x.2 = 0
  | _ => False

/-- The handler puts the element back and leaves alone what messages wait for. -/
def PutsBack (s : ConnManager) (e : QueueElement) (o : Outcome) : Prop :=
  ∃ t, o = .ok t ∧ SameGate s t ∧ t.juggleQueue = s.juggleQueue ++ [e]

/-- The handler takes the element, unless it throws. -/
def Takes (s : ConnManager) (o : Outcome) : Prop := ∀ t, o = .ok t → t.juggleQueue = s.juggleQueue

section Gate

variable {s s' : ConnManager} {m : Message}

/-- Between two rounds the status is missing or made by a Preprepare that came too early. -/
theorem roundOf_of_ready (h : s.round2.Ready) :
    roundOf s = .waitingForPreprepare := by
  rcases h with h | h
  · exact congrArg (Option.getD · _) h
  · exact congrArg (Option.getD · _) h

theorem not_notIn {c : UInt16} {state : CycleState}
    (h : ∀ status, s.mapRound3Status c = some status → status.state = state) :
    ¬ NotIn s c state := by
  rintro ⟨status, hmem, hne⟩
  exact hne (h status hmem)

theorem SameGate.refl (s : ConnManager) : SameGate s s :=
  ⟨rfl, rfl, rfl, rfl, rfl, rfl, rfl, rfl⟩

theorem SameGate.juggle (s : ConnManager) (e : QueueElement) : SameGate s (s.juggle e) :=
  ⟨rfl, rfl, rfl, rfl, rfl, rfl, rfl, rfl⟩

theorem SameGate.waits (h : SameGate s s') : Waits s' m ↔ Waits s m := by
  have hlacks : LacksResults s' ↔ LacksResults s := by
    unfold LacksResults
    rw [h.stored, h.cycles]
  have hnotIn : ∀ c state, NotIn s' c state ↔ NotIn s c state := fun c state => by
    unfold NotIn
    rw [h.cycles]
  have hearly : ∀ p, preprepareTooEarly s'.common p = preprepareTooEarly s.common p := fun p => by
    unfold preprepareTooEarly
    rw [h.nextView, h.nextSeq]
  cases m with
  | common m =>
    cases m <;>
      simp only [Waits, h.state, h.awaiting, h.view, h.seq, hlacks, hearly]
  | _ => simp only [Waits, hnotIn]

end Gate

/-! ## Handlers that keep the queue -/

section Takes

variable {env : Env} {ω : Choice} {s s₀ : ConnManager} {o : Outcome} {e : QueueElement}

theorem takes_ok (h : s.juggleQueue = s₀.juggleQueue) : Takes s₀ (.ok s) := by
  rintro t ⟨⟩
  exact h

theorem takes_thrown (ex : Exception) : Takes s₀ (.thrown ex s) := fun t ht => absurd ht (by simp)

/-- A function that both files share, when it puts nothing back. -/
theorem takes_shared {f : RCanopus.ConnManager → RCanopus.Outcome}
    (hf : ∀ c, f s.round2 = .ok c → c.juggleQueue = [])
    (h : s.juggleQueue = s₀.juggleQueue) : Takes s₀ (shared f s) := by
  unfold shared
  cases hc : f s.round2 with
  | thrown ex c => exact takes_thrown ex
  | ok c =>
    refine takes_ok ?_
    show s.juggleQueue ++ c.juggleQueue.map _ = _
    rw [hf c hc, List.map_nil, List.append_nil, h]

theorem juggleQueue_of_uses {t : RCanopus.MessageType} {b c : RCanopus.ConnManager}
    {f : RCanopus.Outcome} (h : f.Uses t b) (hf : f = .ok c) :
    c.juggleQueue = b.juggleQueue := by
  rw [hf] at h
  exact h.juggleQueue

theorem takes_spawnRound2 (h : s.juggleQueue = s₀.juggleQueue) :
    Takes s₀ (spawnRound2 env ω s) := by
  refine takes_shared (fun c hc => ?_) h
  refine juggleQueue_of_uses (t := .empty) (b := s.round2) ?_ hc
  unfold RCanopus.spawnRound2
  split
  · exact uses_startRound2IfPossible (.refl _) (by simp)
  · exact Uses.refl _

theorem takes_debugThrow {flag : Bool} {k : ConnManager → Outcome}
    (h : s.juggleQueue = s₀.juggleQueue)
    (hk : ∀ s, s.juggleQueue = s₀.juggleQueue → Takes s₀ (k s)) :
    Takes s₀ (debugThrow env flag s k) := by
  unfold debugThrow
  split
  · exact hk s h
  · split
    · exact takes_thrown _
    · exact hk _ h

theorem takes_empty : Takes s (shared (fun c =>
    RCanopus.debugThrow env env.conf.isRound2Leader c (startRound2IfPossible env ω.engine)) s) := by
  refine takes_shared (fun c hc => ?_) rfl
  refine juggleQueue_of_uses (t := .empty) (b := s.round2) ?_ hc
  exact uses_debugThrow (.refl _) fun c₁ hc₁ => uses_startRound2IfPossible hc₁ (by simp)

theorem takes_round2Request {e' : RCanopus.QueueElement} {m : MessageRound2Request}
    (he : e'.pMessage = .round2Request m) :
    Takes s (shared (dispatcherRound2Request env ω.engine e' m) s) := by
  refine takes_shared (fun c hc => ?_) rfl
  refine juggleQueue_of_uses (t := .empty) (b := s.round2) ?_ hc
  unfold dispatcherRound2Request
  split
  · refine uses_debugThrow (.refl _) fun c₁ hc₁ => ?_
    exact Uses.send hc₁ rfl rfl (by simp [he, RCanopus.Message.msgType])
  · refine uses_debugThrowElseReturnVoid (.refl _) ?_
    exact uses_startRound2IfPossible ((Uses.refl _).of_eq rfl rfl) (by simp)

theorem takes_fetchRequest {m : MessageRound3FetchRequest} :
    Takes s (dispatcherRound3FetchRequest env m s) := by
  unfold dispatcherRound3FetchRequest
  dsimp only
  split
  · split
    · split
      · exact takes_thrown _
      · exact takes_ok rfl
    · exact takes_ok rfl
  · split
    · exact takes_thrown _
    · exact takes_ok rfl

theorem takes_fetchResponse {m : MessageRound3FetchResponse} :
    Takes s (dispatcherRound3FetchResponse env ω m s) := by
  unfold dispatcherRound3FetchResponse
  dsimp only
  split
  · exact takes_thrown _
  · refine takes_debugThrow rfl fun s₁ hs₁ => ?_
    split
    · refine takes_spawnRound2 ?_
      split
      · exact hs₁
      · exact hs₁
    · exact takes_spawnRound2 hs₁

end Takes

/-! ## Messages of round 2 that wait -/

section PutsBack

variable {env : Env} {ω : Choice} {s : ConnManager} {e : QueueElement}

theorem shared_ok {f : RCanopus.ConnManager → RCanopus.Outcome} {c : RCanopus.ConnManager}
    (h : f s.round2 = .ok c) : shared f s = .ok (s.absorb c) := by
  unfold shared
  rw [h]

/-- A shared function puts its element back. -/
theorem putsBack_shared {f : RCanopus.ConnManager → RCanopus.Outcome} {m : RCanopus.Message}
    {r : Option RCanopus.CycleStatus} (hm : e.pMessage = .common m)
    (hround : r.getD .waitingForPreprepare = roundOf s)
    (h : f s.round2 = .ok (RCanopus.ConnManager.juggle
      { s.round2 with pRound2CurrentStatus := r } { upPeers := e.upPeers, pMessage := m })) :
    PutsBack s e (shared f s) := by
  have hof : roundOf (s.absorb (RCanopus.ConnManager.juggle
      { s.round2 with pRound2CurrentStatus := r } { upPeers := e.upPeers, pMessage := m }))
      = roundOf s := hround
  refine ⟨_, shared_ok h, ⟨by rw [hof], by rw [hof], by rw [hof], by rw [hof], rfl, rfl, rfl, rfl⟩,
    ?_⟩
  have he : QueueElement.common { upPeers := e.upPeers, pMessage := m } = e := by
    unfold QueueElement.common
    rw [← hm]
  show s.juggleQueue ++ [QueueElement.common _] = _
  rw [he]

theorem preprepare_shared {m : MessageRound2Preprepare}
    (hm : e.pMessage = .common (.round2Preprepare m))
    (hversion : m.header.version = versionLatest) :
    dispatcherRound2 env ω e s = shared (dispatcherRound2Preprepare env
      { upPeers := e.upPeers, pMessage := .round2Preprepare m } m) s := by
  unfold dispatcherRound2
  rw [hm]
  exact if_neg fun h => h hversion

theorem partialCommit_shared {m : MessageRound2PartialCommit}
    (hm : e.pMessage = .common (.round2PartialCommit m))
    (hversion : m.header.version = versionLatest) :
    dispatcherRound2 env ω e s = shared (dispatcherRound2PartialCommit env
      { upPeers := e.upPeers, pMessage := .round2PartialCommit m } m) s := by
  unfold dispatcherRound2
  rw [hm]
  exact if_neg fun h => h hversion

/-- A Preprepare waits for the end of the round, or for those before it. -/
theorem preprepare_putsBack {m : MessageRound2Preprepare}
    (hm : e.pMessage = .common (.round2Preprepare m)) (hversion : m.header.version = versionLatest)
    (hround : roundOf s = .waitingForPreprepare
      ∨ (roundOf s).awaitingMessageType ≠ .round2Preprepare)
    (hw : Waits s e.pMessage) : PutsBack s e (dispatcherRound2 env ω e s) := by
  rw [hm] at hw
  rw [preprepare_shared hm hversion]
  refine putsBack_shared (r := some (roundOf s)) hm rfl ?_
  have hget : s.round2.pRound2CurrentStatus.getD .waitingForPreprepare = roundOf s := rfl
  unfold dispatcherRound2Preprepare
  rw [hget]
  dsimp only
  by_cases hawaiting : (roundOf s).awaitingMessageType = .round2Preprepare
  · have hwaiting := hround.resolve_right fun h => h hawaiting
    have hearly : preprepareTooEarly { s.round2 with pRound2CurrentStatus := some (roundOf s) } m
        = true := hw.resolve_left fun h => h hawaiting
    rw [if_neg fun h => h hawaiting,
      show ((roundOf s).messageReceivedCounter == 0) = true from by rw [hwaiting]; rfl,
      RCanopus.debugThrow_true,
      show ((roundOf s).messageRequired == 1) = true from by rw [hwaiting]; rfl,
      RCanopus.debugThrow_true, if_pos hearly]
  · exact if_pos hawaiting

/-- A partial commit waits for its Preprepare. -/
theorem partialCommit_putsBack {m : MessageRound2PartialCommit}
    (hm : e.pMessage = .common (.round2PartialCommit m))
    (hversion : m.header.version = versionLatest) (hw : Waits s e.pMessage) :
    PutsBack s e (dispatcherRound2 env ω e s) := by
  rw [hm] at hw
  rw [partialCommit_shared hm hversion]
  refine putsBack_shared (r := s.common.pRound2CurrentStatus) hm rfl ?_
  have hsame : ({ s.round2 with pRound2CurrentStatus := s.common.pRound2CurrentStatus }
      : RCanopus.ConnManager) = s.round2 := rfl
  rw [hsame]
  unfold dispatcherRound2PartialCommit
  have hstatus : s.round2.pRound2CurrentStatus = s.common.pRound2CurrentStatus := rfl
  rw [hstatus]
  cases hround : s.common.pRound2CurrentStatus with
  | none => rfl
  | some status =>
    have hof : roundOf s = status := by
      unfold roundOf
      rw [hround]
      rfl
    unfold Waits at hw
    rw [hof] at hw
    dsimp only
    split
    · rfl
    · next hne => exact if_pos (hw.resolve_left hne)

end PutsBack

/-! ## What happens to a message -/

section Dispatch

variable {d : Deployment} {σ σ' : Cluster} {b i : Nat} {e : QueueElement} {ω : Choice}
  {before : Node} {a : LockStep.State} {log : List MessageRound2Preprepare}
  (hd : Dispatch d σ σ' (b, i) e ω before) (hinv : Round2Inv d σ.erase b a log)

include hd hinv

theorem Cluster.Dispatch.at_round2 : before.sl.round2.At before.sl.round2.round2View :=
  ⟨rfl, (hd.erase.at_before hinv).2⟩

/-- A Preprepare is put back, or it is the next one and the SL is ready for it. -/
theorem Cluster.Dispatch.preprepare_cases {m : MessageRound2Preprepare}
    (hm : e.pMessage = .common (.round2Preprepare m)) :
    Waits before.sl e.pMessage
        ∧ PutsBack before.sl e (dispatcherRound2 (d.env (b, i)) ω e before.sl)
      ∨ ¬ Waits before.sl e.pMessage
        ∧ log[a.acc i]?.map MessageRound2Preprepare.copy = some m ∧ a.acc i = a.com i
        ∧ dispatcherRound2 (d.env (b, i)) ω e before.sl
          = .ok (before.sl.absorb (afterAccept (d.env (b, i)) m before.sl.round2)) := by
  have herase : e.erase.pMessage = .round2Preprepare m := congrArg Message.erase hm
  obtain ⟨p, hp, he⟩ := hd.erase.preprepare_eq hinv (by rw [herase]; rfl)
  have hcopy : m = p.copy := by
    rw [he] at herase
    exact (RCanopus.Message.round2Preprepare.inj herase).symm
  have hentry := hinv.entries _ _ hp
  have hversion : m.header.version = versionLatest := by
    rw [hcopy]
    exact hentry.version
  have hlive := (hinv.start hd.erase).live_self
  -- in the middle of a round every Preprepare waits
  have hrunning : ∀ status, before.sl.common.pRound2CurrentStatus = some status →
      status.awaitingMessageType ≠ .round2Preprepare →
      Waits before.sl e.pMessage
        ∧ PutsBack before.sl e (dispatcherRound2 (d.env (b, i)) ω e before.sl) :=
    fun status hstatus hne => by
      have hround : (roundOf before.sl).awaitingMessageType ≠ .round2Preprepare := by
        unfold roundOf
        rwa [hstatus]
      have hw : Waits before.sl e.pMessage := by
        rw [hm]
        exact Or.inl hround
      exact ⟨hw, preprepare_putsBack hm hversion (Or.inr hround) hw⟩
  cases hlive.phase with
  | active q hq hacc hstored hcollector hstatus =>
    refine Or.inl (hrunning _ hstatus ?_)
    split
    · simp [CycleStatus.collecting, CycleStatus.active]
    · simp [CycleStatus.waitingForFullcommit, CycleStatus.active]
  | stuck q k hk hq hacc hstatus =>
    exact Or.inl (hrunning _ hstatus (by simp [CycleStatus.committed, CycleStatus.active]))
  | ready hacc hstored hstatus hleader =>
    have hround := roundOf_of_ready hstatus
    by_cases hearly : preprepareTooEarly before.sl.common m = true
    · have hw : Waits before.sl e.pMessage := by
        rw [hm]
        exact Or.inr hearly
      exact Or.inl ⟨hw, preprepare_putsBack hm hversion (Or.inl hround) hw⟩
    · refine Or.inr ⟨?_, by rw [hp, hcopy]; rfl, hacc, ?_⟩
      · rw [hm]
        unfold Waits
        rw [hround]
        simp [CycleStatus.waitingForPreprepare, hearly]
      have hview : m.view = before.sl.round2.round2View.nextView := by
        rw [hcopy]
        exact hentry.view.trans hlive.nextView.symm
      have hseq : (d.env (b, i)).conf.sLid = 0 ∨ m.seq = before.sl.round2.round2View.nextSeq := by
        by_cases h0 : i = 0
        · exact Or.inl h0
        · refine Or.inr ?_
          have hnext := hlive.nextSeq
          rw [if_neg h0] at hnext
          rw [hcopy]
          exact hentry.seq.trans hnext.symm
      have hready : before.sl.round2.Ready := hstatus
      rw [preprepare_shared hm hversion]
      refine shared_ok ?_
      rw [← dispatcherRound2_preprepare (ω := ω.engine) rfl hversion]
      exact preprepare_accepted rfl hversion (hd.at_round2 hinv) hready
        (Bool.eq_false_iff.mpr hearly) hview hseq hstored

/-- A partial commit is put back, or it is for the round that the SL collects. -/
theorem Cluster.Dispatch.partialCommit_cases {m : MessageRound2PartialCommit}
    (hm : e.pMessage = .common (.round2PartialCommit m)) :
    Waits before.sl e.pMessage
        ∧ PutsBack before.sl e (dispatcherRound2 (d.env (b, i)) ω e before.sl)
      ∨ ¬ Waits before.sl e.pMessage
        ∧ ∃ p counter, before.sl.common.pRound2CurrentStatus
          = some (.collecting (d.conf.numSL b) p counter)
        ∧ dispatcherRound2 (d.env (b, i)) ω e before.sl
          = .ok (before.sl.absorb (afterCount (d.env (b, i)) p counter
            { upPeers := e.upPeers, pMessage := .round2PartialCommit m } m before.sl.round2)) := by
  have herase : e.erase.pMessage = .round2PartialCommit m := congrArg Message.erase hm
  obtain ⟨hcollector, j, hj, he⟩ := hd.erase.partialCommit_eq hinv (by rw [herase]; rfl)
  have hmessage : m = partialCommitMessage j 1 (seqOf a.closed) := by
    rw [he] at herase
    exact (RCanopus.Message.round2PartialCommit.inj herase).symm
  have hversion : m.header.version = versionLatest := by
    rw [hmessage]
    rfl
  have hi : i < d.conf.numSL b := hd.has.2
  have hlive := (hinv.start hd.erase).live_self
  have hclosed : a.closed < 65535 :=
    Nat.lt_of_le_of_lt (hinv.lock.closed_le_acc 0 (by omega)) hinv.short
  have hcom := hinv.lock.com_le_closed i hi
  have hwaits : Waits before.sl e.pMessage → Waits before.sl e.pMessage
      ∧ PutsBack before.sl e (dispatcherRound2 (d.env (b, i)) ω e before.sl) := fun hw =>
    ⟨hw, partialCommit_putsBack hm hversion hw⟩
  -- all partial commits in flight are for the open entry, so the collector may still be behind it
  have hlater : ∀ status, before.sl.common.pRound2CurrentStatus = some status →
      status.round2Sequence < seqOf a.closed → Waits before.sl e.pMessage := fun status hs hlt => by
    rw [hm, hmessage]
    refine Or.inr (Or.inr ?_)
    unfold roundOf
    rwa [hs]
  cases hlive.phase with
  | ready hacc hstored hstatus hleader =>
    refine Or.inl (hwaits ?_)
    rw [hm]
    refine Or.inl ?_
    have hround := roundOf_of_ready hstatus
    rw [hround]
    rfl
  | stuck q k hk hq hacc hstatus =>
    refine Or.inl (hwaits (hlater _ hstatus ?_))
    have hseq : q.seq = seqOf k := (hinv.entries _ _ hq).seq
    show q.seq < _
    rw [hseq]
    exact seqOf_lt (by omega) hclosed
  | active q hq hacc hstored hcol hstatus =>
    have hentry := hinv.entries _ _ hq
    rcases Nat.eq_or_lt_of_le hcom with heq | hlt
    · rw [heq] at hq
      have hqi : q.collectorSLid.toNat = i := by rw [← collectorOf_eq hq, hcollector]
      rw [if_pos ⟨hqi, heq⟩] at hstatus
      rw [hqi, beq_self_eq_true] at hcol
      have hview : m.view = q.copy.view := by
        rw [hmessage]
        exact hentry.view.symm
      have hseq : m.seq = q.copy.seq := by
        rw [hmessage, ← heq]
        exact hentry.seq.symm
      have hround : roundOf before.sl = _ := congrArg (Option.getD · _) hstatus
      refine Or.inr ⟨?_, q.copy, (a.votes a.closed).length, hstatus, ?_⟩
      · rw [hm]
        unfold Waits
        rw [hround]
        simp [CycleStatus.collecting, CycleStatus.active, hview, hseq]
      rw [partialCommit_shared hm hversion]
      refine shared_ok ?_
      rw [← dispatcherRound2_partialCommit (ω := ω.engine) rfl hversion]
      exact partialCommit_counted rfl hversion (hd.at_round2 hinv) hstatus hcol hstored rfl hview
        hseq (by rw [hmessage]; rfl)
    · rw [if_neg fun h => Nat.ne_of_lt hlt h.2] at hstatus
      refine Or.inl (hwaits (hlater _ hstatus ?_))
      show q.seq < _
      rw [hentry.seq]
      exact seqOf_lt hlt hclosed

end Dispatch

/-! ### Full commits -/

section FullCommit

variable {env : Env} {ω : Choice} {s : ConnManager} {m : MessageRound2FullCommit}
  {p : MessageRound2Preprepare} {status : CycleStatus}

theorem juggleQueue_answerPending :
    (answerPending env m p s).juggleQueue = s.juggleQueue := by
  unfold answerPending
  split
  · rfl
  · rfl

/-- After a commit of a result no round is running, and nothing was put back. -/
theorem afterClient_cleared : (afterClient env ω m p s).juggleQueue = s.juggleQueue
    ∧ (afterClient env ω m p s).common.pRound2CurrentStatus = none := by
  have hfake : (prepareFakeResponse env ω p s).juggleQueue = s.juggleQueue := by
    unfold prepareFakeResponse
    split
    · rfl
    · rfl
  have hqueue : (answerPending env m p (handOver env ω m p s)).juggleQueue = s.juggleQueue :=
    juggleQueue_answerPending.trans hfake
  have hnone : (answerPending env m p (handOver env ω m p s)).common.pRound2CurrentStatus
      = none := by
    rw [answerPending_common]
    rfl
  unfold afterClient
  split
  · exact ⟨hqueue, hnone⟩
  · exact ⟨hqueue, hnone⟩

/-- After a commit of a local connectivity no round is running, and nothing was put back. -/
theorem afterConnectivity_cleared :
    (afterConnectivity env ω p status s).juggleQueue = s.juggleQueue
      ∧ (afterConnectivity env ω p status s).common.pRound2CurrentStatus = none := by
  unfold afterConnectivity proposeRound3
  dsimp only
  split
  · split
    · exact ⟨rfl, rfl⟩
    · exact ⟨rfl, rfl⟩
  · split
    · exact ⟨rfl, rfl⟩
    · exact ⟨rfl, rfl⟩

end FullCommit

section Core

variable {d : Deployment} {σ σ' : Cluster} {x : Peer} {e : QueueElement} {ω : Choice}
  {before : Node} {p : MessageRound2Preprepare} {status : CycleStatus} (h : CoreOk d σ)

include h

/-- The leader has all results when it commits a local connectivity. -/
theorem CoreOk.leader_connectivity {m : MessageRound2FullCommit}
    (hc : Commits d σ σ' x e ω before m p) (ht : p.requestType = requestTypeLocalConnectivity)
    (hx : x.2 = 0) (hstatus : before.sl.mapRound3Status p.cycle = some status) :
    status.state = .common .round3WaitingForLocalConnectivity := by
  obtain ⟨g, hg⟩ := h.cycles p.cycle
  have hentry := entryOf_of_localConnectivity ht
  have hplanned := (hg.planned x.1 hc.has.1).mp (hc.plans hentry)
  rw [show (x.1, 0) = x from Prod.ext rfl hx.symm] at hplanned
  have hstage : g.stage x = .connecting := by
    rcases hg.stage_connectivity hc hentry with hs | hs
    · rw [hs] at hplanned
      simp [Stage.Connected] at hplanned
    · exact hs
  have hexpected := (hc.slCycle hg).status
  have hview : (before.sl.cycleView p.cycle).status = some status := hstatus
  unfold Progress.expected at hexpected
  rw [hview, hstage] at hexpected
  exact congrArg Prod.fst (Option.some.inj hexpected)

/--
A full commit is put back at an SL that lacks results, which is never the leader, or it ends the
round.
-/
theorem CoreOk.fullCommit_cases {m : MessageRound2FullCommit} (hfits : d.conf.Fits)
    (h1 : Round2Ok d σ.erase) (hd : Dispatch d σ σ' x e ω before)
    (hm : e.pMessage = .common (.round2FullCommit m)) :
    x.2 ≠ 0 ∧ Waits before.sl e.pMessage ∧ LacksResults before.sl
        ∧ PutsBack before.sl e (dispatcherRound2 (d.env x) ω e before.sl)
      ∨ ¬ Waits before.sl e.pMessage ∧ ∃ s, s.juggleQueue = before.sl.juggleQueue
        ∧ s.common.pRound2CurrentStatus = none
        ∧ dispatcherRound2 (d.env x) ω e before.sl = spawnRound2 (d.env x) ω s := by
  obtain ⟨b, i⟩ := x
  obtain ⟨a, log, hinv⟩ := h1 b (Nat.lt_of_le_of_lt (Nat.zero_le _) hd.has.2)
  obtain ⟨p, hat⟩ := hd.fullCommitAt hinv hm
  have hc := h.commits_at hd hinv hm hat
  have hround : roundOf before.sl = .waitingForFullcommit p.copy :=
    congrArg (Option.getD · _) hat.status
  have hwaits : Waits before.sl e.pMessage ↔ LacksResults before.sl := by
    rw [hm]
    unfold Waits
    rw [hround]
    simp [CycleStatus.waitingForFullcommit, CycleStatus.active]
  have hlacks : LacksResults before.sl ↔ p.copy.requestType = requestTypeLocalConnectivity
      ∧ NotIn before.sl p.copy.cycle (.common .round3WaitingForLocalConnectivity) := by
    unfold LacksResults NotIn
    rw [hat.stored]
    simp
  obtain ⟨q, hq, hcopy⟩ := hc.planned
  have ht : p.copy.requestType = q.requestType := by
    rw [hcopy]
    rfl
  rcases hq.known with hclient | hconnectivity
  · refine Or.inr ⟨?_, _, ?_, ?_, h.client_branch hfits hc (ht.trans hclient)⟩
    · rw [hwaits, hlacks, ht, hclient]
      exact fun hl => absurd hl.1 (by decide)
    · exact afterClient_cleared.1
    · exact afterClient_cleared.2
  · obtain ⟨status, hstatus, ⟨hstate, hout⟩ | ⟨hstate, hout⟩⟩ :=
      h.connectivity_cases hc (ht.trans hconnectivity)
    · have hmissing : LacksResults before.sl :=
        hlacks.mpr ⟨ht.trans hconnectivity, status, hstatus, hstate⟩
      have hleader : i ≠ 0 := fun hi =>
        hstate (h.leader_connectivity hc (ht.trans hconnectivity) hi hstatus)
      refine Or.inl ⟨hleader, hwaits.mpr hmissing, hmissing, _, hout, ?_, rfl⟩
      refine ⟨?_, ?_, ?_, ?_, rfl, rfl, rfl, rfl⟩ <;> rw [hround] <;> rfl
    · refine Or.inr ⟨?_, _, ?_, ?_, hout⟩
      · rw [hwaits, hlacks]
        refine fun hl => not_notIn (fun status' hs => ?_) hl.2
        rw [← Option.some.inj (hstatus.symm.trans hs), hstate]
      · exact afterConnectivity_cleared.1
      · exact afterConnectivity_cleared.2

/-- A Preprepare of round 3 is put back at a leader that does not wait for it, or it is accepted. -/
theorem CoreOk.preprepare3_cases {m : MessageRound3PreprepareBaseline}
    (hd : Dispatch d σ σ' x e ω before) (hm : e.pMessage = .round3Preprepare m)
    (hversion : e.pMessage.header.version = versionLatest) :
    Waits before.sl e.pMessage ∧ PutsBack before.sl e (dispatcherRound2 (d.env x) ω e before.sl)
      ∨ ¬ Waits before.sl e.pMessage ∧ ∀ t, dispatcherRound2 (d.env x) ω e before.sl = .ok t →
        ∃ status, t = afterPreprepare3 (d.env x) m status before.sl := by
  obtain ⟨g, hg⟩ := h.cycles m.cycle
  have hout : dispatcherRound2 (d.env x) ω e before.sl
      = dispatcherRound3Preprepare (d.env x) e m before.sl := by
    unfold dispatcherRound2
    rw [if_neg fun h => h hversion, hm]
  rw [hm, hout]
  cases hstatus : before.sl.mapRound3Status m.cycle with
  | none =>
    refine Or.inr ⟨not_notIn fun status hs => absurd (hstatus.symm.trans hs) (by simp),
      fun t ht => ?_⟩
    unfold dispatcherRound3Preprepare at ht
    dsimp only at ht
    rw [hstatus] at ht
    exact absurd ht (by simp)
  | some status =>
    rcases hg.preprepare3_cases hd hstatus with ⟨hstate, hs⟩ | ⟨hstate, hs⟩
    · refine Or.inr ⟨not_notIn fun status' hs' => ?_, fun t ht => ⟨status, ?_⟩⟩
      · rw [← Option.some.inj (hstatus.symm.trans hs'), hstate]
      · exact (Outcome.ok.inj (hs.symm.trans ht)).symm
    · exact Or.inl ⟨⟨status, hstatus, hstate⟩, _, hs, .juggle _ _, rfl⟩

/-- A partial commit of round 3 is put back at a leader that does not collect, or it is counted. -/
theorem CoreOk.partialCommit3_cases {m : MessageRound3PartialCommitBaseline}
    (hd : Dispatch d σ σ' x e ω before) (hm : e.pMessage = .round3PartialCommit m)
    (hversion : e.pMessage.header.version = versionLatest) :
    Waits before.sl e.pMessage ∧ PutsBack before.sl e (dispatcherRound2 (d.env x) ω e before.sl)
      ∨ ¬ Waits before.sl e.pMessage ∧ ∀ t, dispatcherRound2 (d.env x) ω e before.sl = .ok t →
        ∃ status, before.sl.mapRound3Status m.cycle = some status
          ∧ t = afterPartialCommit3 (d.env x) m status before.sl := by
  obtain ⟨g, hg⟩ := h.cycles m.cycle
  have hout : dispatcherRound2 (d.env x) ω e before.sl
      = dispatcherRound3PartialCommit (d.env x) e m before.sl := by
    unfold dispatcherRound2
    rw [if_neg fun h => h hversion, hm]
  rw [hm, hout]
  cases hstatus : before.sl.mapRound3Status m.cycle with
  | none =>
    refine Or.inr ⟨not_notIn fun status hs => absurd (hstatus.symm.trans hs) (by simp),
      fun t ht => ?_⟩
    unfold dispatcherRound3PartialCommit at ht
    rw [hg.leader_partialCommit3 hd hm, debugThrowElseReturnVoid_true] at ht
    dsimp only at ht
    rw [hstatus] at ht
    exact absurd ht (by simp)
  | some status =>
    rcases hg.partialCommit3_cases hd hm hstatus with ⟨hstate, hs⟩ | ⟨hstate, hs⟩
    · refine Or.inr ⟨not_notIn fun status' hs' => ?_, fun t ht => ⟨status, rfl, ?_⟩⟩
      · rw [← Option.some.inj (hstatus.symm.trans hs'), hstate]
      · exact (Outcome.ok.inj (hs.symm.trans ht)).symm
    · exact Or.inl ⟨⟨status, hstatus, hstate⟩, _, hs, .juggle _ _, rfl⟩

/-- **The fate of a message**: it is put back when it waits, and otherwise it is taken. -/
theorem CoreOk.dispatch_cases (hfits : d.conf.Fits) (h1 : Round2Ok d σ.erase)
    (hd : Dispatch d σ σ' x e ω before) (hversion : e.pMessage.header.version = versionLatest) :
    Waits before.sl e.pMessage ∧ Juggles x e.pMessage
        ∧ (∀ m, e.pMessage = .common (.round2FullCommit m) → LacksResults before.sl)
        ∧ PutsBack before.sl e (dispatcherRound2 (d.env x) ω e before.sl)
      ∨ ¬ Waits before.sl e.pMessage
        ∧ Takes before.sl (dispatcherRound2 (d.env x) ω e before.sl) := by
  obtain ⟨b, i⟩ := x
  obtain ⟨a, log, hinv⟩ := h1 b (Nat.lt_of_le_of_lt (Nat.zero_le _) hd.has.2)
  have hout : dispatcherRound2 (d.env (b, i)) ω e before.sl = _ :=
    if_neg fun h => h hversion
  cases hm : e.pMessage with
  | common m =>
    cases m with
    | round2Preprepare m =>
      rcases hd.preprepare_cases hinv hm with ⟨hw, hback⟩ | ⟨hw, -, -, hs⟩
      · exact Or.inl ⟨hm ▸ hw, trivial, fun m' hm' => absurd hm' (by simp), hback⟩
      · refine Or.inr ⟨hm ▸ hw, ?_⟩
        rw [hs]
        exact takes_ok (List.append_nil _)
    | round2PartialCommit m =>
      rcases hd.partialCommit_cases hinv hm with ⟨hw, hback⟩ | ⟨hw, p, counter, -, hs⟩
      · exact Or.inl ⟨hm ▸ hw, trivial, fun m' hm' => absurd hm' (by simp), hback⟩
      · refine Or.inr ⟨hm ▸ hw, ?_⟩
        rw [hs]
        refine takes_ok ?_
        unfold afterCount
        dsimp only
        split
        · exact List.append_nil _
        · exact List.append_nil _
    | round2FullCommit m =>
      rcases h.fullCommit_cases hfits h1 hd hm with ⟨hi, hw, hmissing, hback⟩ | ⟨hw, s, hs, -, hs'⟩
      · exact Or.inl ⟨hm ▸ hw, hi, fun _ _ => hmissing, hback⟩
      · refine Or.inr ⟨hm ▸ hw, ?_⟩
        rw [hs']
        exact takes_spawnRound2 hs
    | empty m =>
      rw [hm] at hout
      exact Or.inr ⟨id, hout ▸ takes_empty⟩
    | round2Request m =>
      rw [hm] at hout
      exact Or.inr ⟨id, hout ▸ takes_round2Request rfl⟩
    | round3FetchRequest m =>
      rw [hm] at hout
      exact Or.inr ⟨id, hout ▸ takes_fetchRequest⟩
    | round3FetchResponse m =>
      rw [hm] at hout
      exact Or.inr ⟨id, hout ▸ takes_fetchResponse⟩
    | _ =>
      rw [hm] at hout
      exact Or.inr ⟨id, hout ▸ takes_thrown _⟩
  | round3Preprepare m =>
    obtain ⟨g, hg⟩ := h.cycles m.cycle
    have hholds : g.Holds d.conf.numBG (b, i) .preprepare := hg.holds hd.mem_pool (by rw [hm]; rfl)
    rcases h.preprepare3_cases hd hm hversion with ⟨hw, hback⟩ | ⟨hw, hs⟩
    · exact Or.inl ⟨hm ▸ hw, hholds.1, fun m' hm' => absurd hm' (by simp), hback⟩
    · refine Or.inr ⟨hm ▸ hw, fun t ht => ?_⟩
      obtain ⟨status, rfl⟩ := hs t ht
      rfl
  | round3PartialCommit m =>
    obtain ⟨g, hg⟩ := h.cycles m.cycle
    have hholds : g.Holds d.conf.numBG (b, i) (.partialCommit m.sender.toNat) :=
      hg.holds hd.mem_pool (by rw [hm]; rfl)
    rcases h.partialCommit3_cases hd hm hversion with ⟨hw, hback⟩ | ⟨hw, hs⟩
    · exact Or.inl ⟨hm ▸ hw, congrArg Prod.snd hholds.1, fun m' hm' => absurd hm' (by simp), hback⟩
    · refine Or.inr ⟨hm ▸ hw, fun t ht => ?_⟩
      obtain ⟨status, -, rfl⟩ := hs t ht
      unfold afterPartialCommit3
      dsimp only
      split
      · rfl
      · rfl
  | round3FullCommit m =>
    obtain ⟨g, hg⟩ := h.cycles m.cycle
    -- the full commit of the last round always finds its cycle at the end
    obtain ⟨-, -, -, status, hstatus, hstate⟩ := hg.closing hd hm
    rw [hm] at hout
    refine Or.inr ⟨id, ?_⟩
    rw [hout]
    dsimp only
    rw [fullCommit3_committed hstatus hstate]
    exact takes_ok rfl

end Core

end RCanopus.Baseline
