import RCanopus.Results

/-!
# What waits in the juggle queue

The main loop dispatches each juggled element once after every fresh message. An element that it has
put back waits for something that only a fresh message can bring, so nothing is left behind that
could be handled: a step that makes a juggled message acceptable also sends a message to the SL
itself, and the next pass takes the juggled one.
-/

namespace RCanopus

open Cluster

/-- The SL is not ready for a message and would juggle it. -/
def Waits (s : ConnManager) : Message → Prop
  | .round2Preprepare p =>
    (s.pRound2CurrentStatus.getD .waitingForPreprepare).awaitingMessageType ≠ .round2Preprepare
      ∨ preprepareTooEarly s p = true
  | .round2PartialCommit m =>
    s.round2IsCollector = false
      ∨ ∀ status, s.pRound2CurrentStatus = some status →
        status.state = .round2WaitingForPreprepare
          ∨ status.round2View < m.view ∨ status.round2Sequence < m.seq
  | .round3GeneralFetch m =>
    m.msgTypeDemanded = MessageType.round3ConnectivityResponse.code
      ∧ s.mapRound3Status m.cycle = none
  | .round3ConnectivityResponse m => ∀ status, s.mapRound3Status m.cycle = some status →
    status.awaitingMessageType ≠ .round3ConnectivityResponse
  | .round3MembershipResponse m => ∀ status, s.mapRound3Status m.cycle = some status →
    status.state ≠ .round3WaitingForReplicatedMembership
  | _ => False

/-- From `s₀` to `s` nothing was juggled, and what waited still waits. -/
structure Steady (s₀ s : ConnManager) : Prop where
  waits : ∀ m, Waits s₀ m → Waits s m
  juggled : s.juggleQueue = s₀.juggleQueue

namespace Steady

variable {s₀ s s' : ConnManager}

theorem refl (s : ConnManager) : Steady s s := ⟨fun _ h => h, rfl⟩

theorem trans (h : Steady s₀ s) (h' : Steady s s') : Steady s₀ s' :=
  ⟨fun m hm => h'.waits m (h.waits m hm), h'.juggled.trans h.juggled⟩

/-- Only a few fields matter. -/
theorem of_eq (hstatus : s.pRound2CurrentStatus = s₀.pRound2CurrentStatus)
    (hcollector : s.round2IsCollector = s₀.round2IsCollector)
    (hview : s.round2NextView = s₀.round2NextView) (hseq : s.round2NextSeq = s₀.round2NextSeq)
    (hmap : s.mapRound3Status = s₀.mapRound3Status) (hjuggled : s.juggleQueue = s₀.juggleQueue) :
    Steady s₀ s := by
  refine ⟨fun m hm => ?_, hjuggled⟩
  have hearly : ∀ p, preprepareTooEarly s p = preprepareTooEarly s₀ p := fun p => by
    unfold preprepareTooEarly
    rw [hview, hseq]
  cases m <;> simp only [Waits, hstatus, hcollector, hmap, hearly] at hm ⊢ <;> exact hm

theorem note (h : Steady s₀ s) (ev : Event) : Steady s₀ (s.note ev) :=
  h.trans (.of_eq rfl rfl rfl rfl rfl rfl)

end Steady

namespace Outcome

/--
What a handler may do that is no commit: it may put messages back that wait, and what waited still
waits, unless the SL sends something to itself.
-/
def Calm (s₀ : ConnManager) : Outcome → Prop
  | .ok s => (∃ l, s.juggleQueue = s₀.juggleQueue ++ l ∧ ∀ e ∈ l, Waits s e.pMessage)
    ∧ ((∃ e ∈ s.sendQueue, none ∈ e.upPeers) ∨ ∀ m, Waits s₀ m → Waits s m)
  | .thrown _ _ => True

end Outcome

variable {env : Env} {ω : Choice} {s₀ s : ConnManager} {e : QueueElement} {status : CycleStatus}

theorem Steady.calm (h : Steady s₀ s) : (Outcome.ok s).Calm s₀ :=
  ⟨⟨[], by rw [h.juggled, List.append_nil], fun _ he => absurd he List.not_mem_nil⟩, Or.inr h.waits⟩

/-- The SL sends something to itself. -/
theorem calm_self (hjuggled : s.juggleQueue = s₀.juggleQueue)
    (hsend : ∃ e ∈ s.sendQueue, none ∈ e.upPeers) : (Outcome.ok s).Calm s₀ :=
  ⟨⟨[], by rw [hjuggled, List.append_nil], fun _ he => absurd he List.not_mem_nil⟩, Or.inl hsend⟩

theorem Steady.calm_juggle (h : Steady s₀ s) (he : Waits s e.pMessage) :
    (Outcome.ok (s.juggle e)).Calm s₀ := by
  have hwaits : ∀ m, Waits s m → Waits (s.juggle e) m := fun m hm => by
    cases m <;> exact hm
  refine ⟨⟨[e], ?_, fun e' he' => ?_⟩, Or.inr fun m hm => hwaits m (h.waits m hm)⟩
  · rw [← h.juggled]
    rfl
  · rw [List.mem_singleton.mp he']
    exact hwaits _ he

theorem debugThrow_calm {flag : Bool} {k : ConnManager → Outcome} (hs : Steady s₀ s)
    (hk : ∀ s, Steady s₀ s → (k s).Calm s₀) : (debugThrow env flag s k).Calm s₀ := by
  unfold debugThrow
  split
  · exact hk s hs
  · split
    · trivial
    · exact hk _ (hs.note _)

theorem debugThrowElseReturnVoid_calm {flag : Bool} {k : ConnManager → Outcome}
    (hs : Steady s₀ s) (hk : (k s).Calm s₀) :
    (debugThrowElseReturnVoid env flag s k).Calm s₀ := by
  unfold debugThrowElseReturnVoid
  split
  · exact hk
  · split
    · trivial
    · exact (hs.note _).calm

/-! ## The leader -/

/-- A leader that starts a round sends the Preprepare to itself. -/
theorem sendPreprepare_calm {p : MessageRound2Preprepare}
    (hjuggled : s.juggleQueue = s₀.juggleQueue) : (sendPreprepare env p s).Calm s₀ := by
  refine calm_self hjuggled ?_
  exact ⟨_, List.mem_append_right _ (List.mem_singleton_self _), List.mem_cons_self⟩

theorem startRound2IfPossible_calm (hs : Steady s₀ s) :
    (startRound2IfPossible env ω s).Calm s₀ := by
  unfold startRound2IfPossible canStartRound2
  refine debugThrow_calm hs fun s₁ hs₁ => ?_
  dsimp only
  split
  · trivial
  split
  · unfold leaderRound2SendPreprepare canStartRound2
    refine debugThrow_calm hs₁ fun s₂ hs₂ => ?_
    refine debugThrow_calm hs₂ fun s₃ hs₃ => ?_
    split
    · trivial
    refine debugThrow_calm hs₃ fun s₄ hs₄ => ?_
    split
    · trivial
    · dsimp only
      split
      · unfold debugThrow
        split
        · exact sendPreprepare_calm hs₄.juggled
        · split
          · trivial
          · exact sendPreprepare_calm hs₄.juggled
      · exact sendPreprepare_calm hs₄.juggled
  · exact hs₁.calm

/-! ## Round 3 -/

theorem steady_answerRequests (hs : Steady s₀ s) {kind : FetchKind} {cycle : UInt16} {m : Message}
    {requests : List (UInt16 × UInt16)} :
    Steady s₀ (answerRequests kind cycle m requests s) :=
  hs.trans (.of_eq rfl rfl rfl rfl rfl rfl)

theorem steady_pushPending (hs : Steady s₀ s) {kind : FetchKind} {cycle : UInt16}
    {request : UInt16 × UInt16} : Steady s₀ (pushPending kind cycle request s) :=
  hs.trans (.of_eq rfl rfl rfl rfl rfl rfl)

theorem dispatcherRound3FetchRequest_calm {m : MessageRound3FetchRequest} :
    (dispatcherRound3FetchRequest env m s).Calm s := by
  unfold dispatcherRound3FetchRequest
  dsimp only
  split
  · split
    · exact debugThrowElseReturnVoid_calm (.refl s) (Steady.refl s).calm
    · exact (steady_pushPending (.refl s)).calm
  · split
    · trivial
    · exact (steady_answerRequests (.refl s)).calm

theorem steady_answerOrPush {kind : FetchKind} {m : MessageRound3GeneralFetch} :
    Steady s (answerOrPush kind env m status s) := by
  unfold answerOrPush
  split
  · exact steady_pushPending (.refl s)
  · exact steady_answerRequests (.refl s)

theorem dispatcherRound3GeneralFetchRequest_calm {m : MessageRound3GeneralFetch}
    (he : e.pMessage = .round3GeneralFetch m) :
    (dispatcherRound3GeneralFetchRequest env e m s).Calm s := by
  unfold dispatcherRound3GeneralFetchRequest
  split
  · next hdemanded =>
    unfold dispatcherRound3FetchConnectivityRequest
    split
    · next hnone =>
      refine (Steady.refl s).calm_juggle ?_
      rw [he]
      exact ⟨hdemanded, hnone⟩
    · exact steady_answerOrPush.calm
  · split
    · unfold dispatcherRound3FetchMembershipRequest
      dsimp only
      split
      · exact debugThrow_calm (.refl s) fun s' hs' => (steady_answerRequests hs').calm
      · exact steady_answerOrPush.calm
    · trivial

theorem dispatcherRound3FetchResponse_calm {m : MessageRound3FetchResponse} :
    (dispatcherRound3FetchResponse env ω e m s).Calm s := by
  unfold dispatcherRound3FetchResponse
  split
  · exact Steady.calm (.of_eq rfl rfl rfl rfl rfl rfl)
  · exact startRound2IfPossible_calm (.of_eq rfl rfl rfl rfl rfl rfl)

/-- A leader that takes a response stays in its phase. -/
theorem steady_setStatus {cycle : UInt16} {status' : CycleStatus} (hs : Steady s₀ s)
    (hget : s₀.mapRound3Status cycle = some status) (hstate : status'.state = status.state)
    (hawaiting : status'.awaitingMessageType = status.awaitingMessageType) :
    Steady s₀ (s.setStatus cycle status') := by
  have hmap : ∀ c, (s.setStatus cycle status').mapRound3Status c
      = if c = cycle then some status' else s.mapRound3Status c := fun c =>
    Function.update_apply ..
  refine ⟨fun m hm => ?_, hs.juggled⟩
  have hwait := hs.waits m hm
  cases m with
  | round3GeneralFetch m =>
    have hne : m.cycle ≠ cycle := fun hc => by
      have hnone := hm.2
      rw [hc, hget] at hnone
      exact absurd hnone (by simp)
    refine ⟨hwait.1, ?_⟩
    rw [hmap, if_neg hne]
    exact hwait.2
  | round3ConnectivityResponse m =>
    intro st hst
    rw [hmap] at hst
    split at hst
    · next hc =>
      rw [Option.some.injEq] at hst
      rw [← hst, hawaiting]
      exact hm status (hc ▸ hget)
    · exact hwait st hst
  | round3MembershipResponse m =>
    intro st hst
    rw [hmap] at hst
    split at hst
    · next hc =>
      rw [Option.some.injEq] at hst
      rw [← hst, hstate]
      exact hm status (hc ▸ hget)
    · exact hwait st hst
  | _ => exact hwait

theorem steady_pushPreprepare (hs : Steady s₀ s) {p : MessageRound2Preprepare} :
    Steady s₀ (pushPreprepare p s) := hs.trans (.of_eq rfl rfl rfl rfl rfl rfl)

theorem dispatcherRound3FetchConnectivityResponse_calm {m : MessageRound3FetchResponse}
    (he : e.pMessage = .round3ConnectivityResponse m) :
    (dispatcherRound3FetchConnectivityResponse env ω e m s).Calm s := by
  unfold dispatcherRound3FetchConnectivityResponse
  split
  · exact Steady.calm (.of_eq rfl rfl rfl rfl rfl rfl)
  · split
    · trivial
    · next status hget =>
      split
      · next hawaiting =>
        refine (Steady.refl s).calm_juggle ?_
        rw [he]
        intro st hst
        rw [hget, Option.some.injEq] at hst
        exact hst ▸ hawaiting
      · dsimp only
        refine startRound2IfPossible_calm ?_
        have hset : Steady s (s.setStatus m.cycle (status.fillConnectivity m)) :=
          steady_setStatus (.refl s) hget rfl rfl
        split
        · exact steady_pushPreprepare hset
        · exact hset

theorem dispatcherRound3FetchMembershipResponse_calm {m : MessageRound3FullMembership}
    (he : e.pMessage = .round3MembershipResponse m) :
    (dispatcherRound3FetchMembershipResponse env ω e m s).Calm s := by
  unfold dispatcherRound3FetchMembershipResponse
  split
  · exact Steady.calm (.of_eq rfl rfl rfl rfl rfl rfl)
  · dsimp only
    split
    · trivial
    · next status hget =>
      split
      · next hstate =>
        refine (Steady.refl s).calm_juggle ?_
        rw [he]
        intro st hst
        rw [hget, Option.some.injEq] at hst
        exact hst ▸ hstate
      · refine debugThrowElseReturnVoid_calm (.refl s) ?_
        refine debugThrow_calm (.refl s) fun s₂ hs₂ => ?_
        have hset : Steady s (s₂.setStatus m.cycle (status.fillMembership m)) :=
          steady_setStatus hs₂ hget rfl rfl
        split
        · exact startRound2IfPossible_calm (steady_pushPreprepare hset)
        · exact hset.calm

/-! ## Round 2 -/

theorem dispatcherRound2Request_calm {m : MessageRound2Request} :
    (dispatcherRound2Request env ω e m s).Calm s := by
  unfold dispatcherRound2Request
  split
  · exact debugThrow_calm (.refl s) fun s' hs' =>
      Steady.calm (hs'.trans (.of_eq rfl rfl rfl rfl rfl rfl))
  · exact debugThrowElseReturnVoid_calm (.refl s)
      (startRound2IfPossible_calm (.of_eq rfl rfl rfl rfl rfl rfl))

/-- Creating the status of the next round changes nothing for what waits. -/
theorem steady_waitingForPreprepare : Steady s
    { s with
      pRound2CurrentStatus :=
        some (s.pRound2CurrentStatus.getD .waitingForPreprepare) } := by
  refine ⟨fun m hm => ?_, rfl⟩
  cases m with
  | round2PartialCommit m =>
    rcases hm with hm | hm
    · exact Or.inl hm
    · refine Or.inr fun status hstatus => ?_
      rw [Option.some.injEq] at hstatus
      cases hs : s.pRound2CurrentStatus with
      | none =>
        rw [hs, Option.getD_none] at hstatus
        subst hstatus
        exact Or.inl rfl
      | some st =>
        rw [hs, Option.getD_some] at hstatus
        exact hm status (hstatus ▸ hs)
  | _ => exact hm

/-- A round has started at an SL, and if the SL is the collector it has woken itself. -/
structure Started (s s' : ConnManager) : Prop where
  juggled : s'.juggleQueue = s.juggleQueue
  map : s'.mapRound3Status = s.mapRound3Status
  status : ∃ st, s'.pRound2CurrentStatus = some st ∧ st.awaitingMessageType ≠ .round2Preprepare
  self : (∃ e ∈ s'.sendQueue, none ∈ e.upPeers) ∨ s'.round2IsCollector = false

/-- Only the collector can use what waits in the juggle queue. -/
theorem Started.calm {s' : ConnManager} (h : Started s s') (hs : Steady s₀ s) :
    (Outcome.ok s').Calm s₀ := by
  refine ⟨⟨[], ?_, fun _ he => absurd he List.not_mem_nil⟩, h.self.imp id fun hcol m hm => ?_⟩
  · rw [h.juggled, hs.juggled, List.append_nil]
  · have hwait := hs.waits m hm
    cases m with
    | round2Preprepare p =>
      obtain ⟨st, hst, hne⟩ := h.status
      refine Or.inl ?_
      rw [hst, Option.getD_some]
      exact hne
    | round2PartialCommit m => exact Or.inl hcol
    | round3GeneralFetch m => exact ⟨hwait.1, h.map ▸ hwait.2⟩
    | round3ConnectivityResponse m => exact fun st hst => hwait st (h.map ▸ hst)
    | round3MembershipResponse m => exact fun st hst => hwait st (h.map ▸ hst)
    | _ => exact hwait

theorem acceptPreprepare_calm {p : MessageRound2Preprepare} (hs : Steady s₀ s) :
    (acceptPreprepare env p status s).Calm s₀ := by
  unfold acceptPreprepare
  dsimp only
  have hend : ∀ s' : ConnManager, Started s s' → (debugThrow env
      s'.pTemporaryStorageOfPreprepare.isNone s' fun s =>
        .ok ({ s with pTemporaryStorageOfPreprepare := some p }.note (.accepted p))).Calm s₀ := by
    intro s' h
    unfold debugThrow
    split
    · exact Started.calm ⟨h.juggled, h.map, h.status, h.self⟩ hs
    · split
      · trivial
      · exact Started.calm ⟨h.juggled, h.map, h.status, h.self⟩ hs
  refine hend _ ⟨rfl, rfl, ⟨_, rfl, ?_⟩, ?_⟩
  · split <;> simp [CycleStatus.enter]
  · by_cases hc : (p.collectorSLid.toNat == env.conf.sLid) = true
    · refine Or.inl ⟨_, List.mem_append_right _ (List.mem_singleton_self _), ?_⟩
      rw [if_pos hc]
      exact List.mem_cons_self
    · exact Or.inr (Bool.eq_false_iff.mpr hc)

theorem dispatcherRound2Preprepare_calm {p : MessageRound2Preprepare}
    (he : e.pMessage = .round2Preprepare p) : (dispatcherRound2Preprepare env e p s).Calm s := by
  unfold dispatcherRound2Preprepare
  dsimp only
  have hstart := steady_waitingForPreprepare (s := s)
  split
  · next hawaiting =>
    refine hstart.calm_juggle ?_
    rw [he]
    exact Or.inl hawaiting
  · refine debugThrow_calm hstart fun s₁ hs₁ => ?_
    refine debugThrow_calm hs₁ fun s₂ hs₂ => ?_
    split
    · next hearly =>
      refine hs₂.calm_juggle ?_
      rw [he]
      exact Or.inr hearly
    · exact debugThrowElseReturnVoid_calm hs₂
        (debugThrow_calm hs₂ fun s₃ hs₃ => acceptPreprepare_calm hs₃)

/-- The last partial commit is answered with a message to all, the collector among them. -/
theorem countPartialCommit_calm {m : MessageRound2PartialCommit}
    (hget : s.pRound2CurrentStatus = some status) :
    (countPartialCommit env e m status s).Calm s := by
  unfold countPartialCommit
  dsimp only
  split
  · refine calm_self rfl ?_
    exact ⟨_, List.mem_append_right _ (List.mem_singleton_self _), List.mem_cons_self⟩
  · refine Steady.calm ⟨fun m' hm' => ?_, rfl⟩
    cases m' with
    | round2Preprepare p =>
      rcases hm' with hm' | hm'
      · rw [hget] at hm'
        exact Or.inl hm'
      · exact Or.inr hm'
    | round2PartialCommit m' =>
      refine hm'.imp id fun hm' st hst => ?_
      rw [← Option.some.inj hst]
      exact hm' status hget
    | _ => exact hm'

theorem dispatcherRound2PartialCommit_calm {m : MessageRound2PartialCommit}
    (he : e.pMessage = .round2PartialCommit m) :
    (dispatcherRound2PartialCommit env e m s).Calm s := by
  have hjuggle : (∀ status, s.pRound2CurrentStatus = some status →
      status.state = .round2WaitingForPreprepare
        ∨ status.round2View < m.view ∨ status.round2Sequence < m.seq) →
      (Outcome.ok (s.juggle e)).Calm s := fun hm =>
    (Steady.refl s).calm_juggle (by rw [he]; exact Or.inr hm)
  unfold dispatcherRound2PartialCommit
  split
  · next hnone =>
    refine hjuggle fun st hst => ?_
    rw [hnone] at hst
    exact absurd hst (by simp)
  · next status hget =>
    split
    · next hstate =>
      refine hjuggle fun st hst => Or.inl ?_
      rw [hget, Option.some.injEq] at hst
      exact hst ▸ hstate
    · split
      · next hlater =>
        refine hjuggle fun st hst => Or.inr ?_
        rw [hget, Option.some.injEq] at hst
        exact hst ▸ hlater
      · refine debugThrowElseReturnVoid_calm (.refl s) ?_
        refine debugThrowElseReturnVoid_calm (.refl s) ?_
        refine debugThrowElseReturnVoid_calm (.refl s) ?_
        refine debugThrowElseReturnVoid_calm (.refl s) ?_
        split
        · trivial
        · split
          · trivial
          · exact debugThrowElseReturnVoid_calm (.refl s) (countPartialCommit_calm hget)

/-- **Every dispatch but a commit** leaves what waits alone, or the SL wakes itself. -/
theorem dispatcherRound2_calm (he : ∀ m, e.pMessage ≠ .round2FullCommit m) :
    (dispatcherRound2 env ω e s).Calm s := by
  unfold dispatcherRound2
  split
  · trivial
  · cases hm : e.pMessage with
    | hello m => trivial
    | empty m => exact debugThrow_calm (.refl s) fun s' hs' => startRound2IfPossible_calm hs'
    | round2Request m => exact dispatcherRound2Request_calm
    | round2Preprepare m => exact dispatcherRound2Preprepare_calm hm
    | round2PartialCommit m => exact dispatcherRound2PartialCommit_calm hm
    | round2FullCommit m => exact absurd hm (he m)
    | round3FetchRequest m => exact dispatcherRound3FetchRequest_calm
    | round3FetchResponse m => exact dispatcherRound3FetchResponse_calm
    | round3GeneralFetch m => exact dispatcherRound3GeneralFetchRequest_calm hm
    | round3ConnectivityResponse m => exact dispatcherRound3FetchConnectivityResponse_calm hm
    | round3MembershipResponse m => exact dispatcherRound3FetchMembershipResponse_calm hm


/-! ## Full commits are never juggled -/

variable {d : Deployment} {σ σ' : Cluster} {b i : Nat} {y : Peer} {before : Node}
  {a : LockStep.State} {log : List MessageRound2Preprepare} {v : Round2View}

def NoFullCommit (l : List QueueElement) : Prop :=
  ∀ e ∈ l, ∀ m, e.pMessage ≠ .round2FullCommit m

theorem noFullCommit_filter {l : List QueueElement} :
    NoFullCommit (l.filter fun e => e.pMessage.isRound2) ↔ NoFullCommit l := by
  refine ⟨fun h e he m hm => h e (List.mem_filter.mpr ⟨he, ?_⟩) m hm, fun h e he => ?_⟩
  · rw [hm]
    rfl
  · exact h e (List.mem_filter.mp he).1

/-- A new round does not juggle anything of round 2. -/
theorem Spawned.juggled {o : Outcome} (h : Spawned env v o) :
    o.state.round2View.trace.juggled = v.trace.juggled := by
  cases h with
  | kept s hs => exact congrArg Round2Trace.juggled hs.trace
  | thrown ex s hs => exact congrArg Round2Trace.juggled hs
  | issued p s hleader hidle hversion hs =>
    obtain ⟨s', ho, hs'⟩ : ∃ s', sendPreprepare env p s = .ok s' ∧ s'.At _ := sendPreprepare_at hs
    rw [ho]
    show s'.round2View.trace.juggled = _
    rw [hs'.trace]
    rfl

theorem Finished.juggled {o : Outcome} (h : Finished env v o) :
    o.state.round2View.trace.juggled = v.trace.juggled := by
  cases h with
  | returned s hs => exact congrArg Round2Trace.juggled hs.trace
  | cleared o hs => exact hs.juggled

theorem Round2Inv.noFullCommit (hinv : Round2Inv d σ b a log)
    (hd : Dispatch d σ σ' (b, i) e ω before) (hold : NoFullCommit before.sl.juggleQueue)
    {s' : ConnManager} (ho : dispatcherRound2 (d.env (b, i)) ω e before.sl = .ok s') :
    NoFullCommit s'.juggleQueue := by
  by_cases he : e.pMessage.msgType = .round2FullCommit
  · obtain ⟨p, hp, hbranch⟩ := hinv.fullCommit_branch hd he
    have hfinished : Finished (d.env (b, i)) _ (dispatcherRound2 (d.env (b, i)) ω e before.sl) :=
      hbranch ▸ fullCommitBranch_finished (fun _ h => spawnRound2_finished h)
        (at_beforeBranch (hd.to.at_before hinv))
    rw [ho] at hfinished
    refine noFullCommit_filter.mp ?_
    rw [show s'.juggleQueue.filter (fun e => e.pMessage.isRound2) = _ from hfinished.juggled]
    exact noFullCommit_filter.mpr hold
  · have hcalm : (dispatcherRound2 (d.env (b, i)) ω e before.sl).Calm before.sl :=
      dispatcherRound2_calm fun m hm => he (by rw [hm]; rfl)
    rw [ho] at hcalm
    obtain ⟨⟨l, hl, hwaits⟩, -⟩ := hcalm
    intro e' he' m hm
    rw [hl] at he'
    rcases List.mem_append.mp he' with he' | he'
    · exact hold e' he' m hm
    · have hwait := hwaits e' he'
      rw [hm] at hwait
      exact hwait

/-! ## Runs -/

/-- What an SL has put back waits, as long as nothing new is in its inbox. -/
structure Settled (node : Node) : Prop where
  noFullCommit : NoFullCommit node.sl.juggleQueue
  waits : node.inbox = [] →
    ∀ e ∈ node.sl.juggleQueue.drop node.passLeft, Waits node.sl e.pMessage

def JuggleOk (σ : Cluster) : Prop := ∀ y, (σ y).crashed = false → Settled (σ y)

theorem juggleOk_init : JuggleOk init := fun _ _ =>
  ⟨fun _ he => absurd he List.not_mem_nil, fun _ _ he => absurd he List.not_mem_nil⟩

/-- Nothing but new messages. -/
theorem Settled.congr {node node' : Node} (h : Settled node)
    (hjuggled : node'.sl.juggleQueue = node.sl.juggleQueue)
    (hwaits : ∀ m, Waits node.sl m → Waits node'.sl m) (hleft : node'.passLeft = node.passLeft)
    (hinbox : node'.inbox = [] → node.inbox = []) : Settled node' := by
  refine ⟨hjuggled ▸ h.noFullCommit, fun hempty e he => hwaits _ (h.waits (hinbox hempty) e ?_)⟩
  rwa [← hjuggled, ← hleft]

theorem waits_sendQueue {s : ConnManager} {l : List QueueElement} {m : Message}
    (h : Waits s m) : Waits { s with sendQueue := l } m := by
  cases m <;> exact h

theorem waits_juggleQueue {s : ConnManager} {l : List QueueElement} {m : Message}
    (h : Waits s m) : Waits { s with juggleQueue := l } m := by
  cases m <;> exact h

/-- The pass puts an element back only if it waits, and what it has put back still waits. -/
theorem settled_retry (hcalm : (dispatcherRound2 (d.env y) ω e before.sl).Calm before.sl)
    {s' : ConnManager} (ho : dispatcherRound2 (d.env y) ω e before.sl = .ok s')
    (hj : (σ y).sl.juggleQueue = e :: before.sl.juggleQueue)
    (hleft : (σ y).passLeft = before.passLeft + 1) (hinbox : before.inbox = (σ y).inbox)
    (hsl : before.sl = { (σ y).sl with juggleQueue := before.sl.juggleQueue })
    (h : Settled (σ y)) (hnone : NoFullCommit s'.juggleQueue) :
    Settled (install y before (.ok s') σ y) := by
  rw [ho] at hcalm
  obtain ⟨⟨l, hl, hnew⟩, hself⟩ := hcalm
  refine ⟨?_, fun hempty e' he' => ?_⟩
  · rw [install_sl_self]
    exact hnone
  · rw [install_inbox_self, List.append_eq_nil_iff, hinbox] at hempty
    rw [install_sl_self, install_passLeft_self] at he'
    rw [install_sl_self]
    refine waits_sendQueue ?_
    have he' : e' ∈ s'.juggleQueue.drop before.passLeft := he'
    rw [hl, List.drop_append] at he'
    rcases List.mem_append.mp he' with he' | he'
    · have hold : Waits before.sl e'.pMessage := by
        rw [hsl]
        refine waits_juggleQueue (h.waits hempty.1 e' ?_)
        rw [hj, hleft, List.drop_succ_cons]
        exact he'
      rcases hself with ⟨e₀, he₀, hnull⟩ | hkept
      · -- a message to itself would be in the inbox
        have hdelivered := List.flatMap_eq_nil_iff.mp hempty.2 e₀ he₀
        unfold deliveries at hdelivered
        rw [if_pos ⟨rfl, hnull⟩] at hdelivered
        exact absurd hdelivered (by simp)
      · exact hkept _ hold
    · exact hnew e' (List.mem_of_mem_drop he')

/-- A step of a client adds messages to inboxes at most. -/
theorem settled_tick (ht : Tick d σ σ')
    (hleft : (σ' y).passLeft = (σ y).passLeft) (h : Settled (σ y)) : Settled (σ' y) := by
  obtain ⟨k, hk⟩ := ht.sl_eq y
  obtain ⟨new, hnew, -⟩ := ht.pool_eq y
  refine h.congr (by rw [hk]) (fun m hm => ?_) hleft fun hempty => ?_
  · rw [hk]
    cases m <;> exact hm
  · unfold pool at hnew
    rw [hk, add_right_comm, hempty] at hnew
    have hnew := (add_right_cancel hnew).symm
    rw [Multiset.coe_nil, Multiset.coe_add, Multiset.coe_eq_zero,
      List.append_eq_nil_iff] at hnew
    exact hnew.1

/-- Every step keeps it. -/
theorem JuggleOk.step (h : JuggleOk σ) (h2 : Round2Ok d σ) (hs : Step d σ σ') : JuggleOk σ' := by
  intro y hy
  obtain ⟨l, hl⟩ := hs
  have hother : ∀ {x e ω before}, Dispatch d σ σ' x e ω before → y ≠ x → Settled (σ' y) := by
    intro x e ω before hd hne
    rw [hd.result] at hy ⊢
    rw [install_crashed_of_ne hne] at hy
    refine (h y hy).congr (by rw [install_sl_of_ne hne]) (fun m hm => ?_)
      (install_passLeft_of_ne hne) fun hempty => ?_
    · rw [install_sl_of_ne hne]
      exact hm
    · rw [install_inbox_of_ne hne, List.append_eq_nil_iff] at hempty
      exact hempty.1
  have htick : Tick d σ σ' → (σ' y).passLeft = (σ y).passLeft → Settled (σ' y) := fun ht hleft =>
    settled_tick ht hleft (h y (ht.crashed_eq y ▸ hy))
  cases l with
  | receive x i ω =>
    obtain ⟨e, before, hd, -, hbefore, hleft, -⟩ := receive_dispatch hl
    by_cases hyx : y = x
    · subst hyx
      obtain ⟨a, log, hinv⟩ := h2 y.1 (Nat.lt_of_le_of_lt (Nat.zero_le _) hd.has.2)
      have hold : NoFullCommit before.sl.juggleQueue := by
        rw [hbefore]
        exact (h y hd.alive).noFullCommit
      rw [hd.result] at hy ⊢
      revert hleft hy
      cases ho : dispatcherRound2 (d.env y) ω e before.sl with
      | thrown ex s' =>
        intro hy
        rw [install_thrown_crashed] at hy
        exact absurd hy (by simp)
      | ok s' =>
        intro _ hleft
        have hnone : NoFullCommit s'.juggleQueue :=
          Round2Inv.noFullCommit (b := y.1) (i := y.2) hinv hd hold ho
        refine ⟨?_, fun _ e' he' => ?_⟩
        · rw [install_sl_self]
          exact hnone
        · -- the pass has only begun
          rw [install_sl_self, install_passLeft_self, hleft] at he'
          have he' : e' ∈ s'.juggleQueue.drop s'.juggleQueue.length := he'
          rw [List.drop_length] at he'
          exact absurd he' List.not_mem_nil
    · exact hother hd hyx
  | retry x ω =>
    obtain ⟨e, before, hd, hj, hleft, hinbox, -⟩ := retry_dispatch hl
    by_cases hyx : y = x
    · subst hyx
      obtain ⟨a, log, hinv⟩ := h2 y.1 (Nat.lt_of_le_of_lt (Nat.zero_le _) hd.has.2)
      have hsettled := h y hd.alive
      have hfront : ∀ m, e.pMessage ≠ .round2FullCommit m :=
        hsettled.noFullCommit e (by rw [hj]; exact List.mem_cons_self)
      have hold : NoFullCommit before.sl.juggleQueue := fun e' he' =>
        hsettled.noFullCommit e' (by rw [hj]; exact List.mem_cons_of_mem _ he')
      rw [hd.result] at hy ⊢
      cases ho : dispatcherRound2 (d.env y) ω e before.sl with
      | thrown ex s' =>
        rw [ho, install_thrown_crashed] at hy
        exact absurd hy (by simp)
      | ok s' =>
        exact settled_retry (dispatcherRound2_calm hfront) ho hj hleft hinbox hd.sl_eq hsettled
          (Round2Inv.noFullCommit (b := y.1) (i := y.2) hinv hd hold ho)
    · exact hother hd hyx
  | clientTick x content => exact htick (clientTick_tick hl) (clientTick_passLeft hl)
  | leaderTick bg => exact htick (leaderTick_tick hl) (leaderTick_passLeft hl)
  | pipeReadable bg => exact htick (pipeReadable_tick hl) (pipeReadable_passLeft hl)

theorem juggleOk_of_reachable (h : Reachable d σ) : JuggleOk σ := by
  have hboth : Round2Ok d σ ∧ JuggleOk σ :=
    h.induct (P := fun σ => Round2Ok d σ ∧ JuggleOk σ) ⟨round2Ok_init, juggleOk_init⟩
      fun _ _ h hs => ⟨h.1.step hs, h.2.step h.1 hs⟩
  exact hboth.2

end RCanopus
