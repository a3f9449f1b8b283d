import RCanopus.Round3Frame

/-!
# What a message can still cause

A call of the dispatcher brings round 2 further, or it does little: it puts its element back, it
drops it, or it sends a single message instead that can cause less. A request is worth more than
its answer, and an answer is worth more at an SL that forwards it than at the leader.

* `Settles`: what a handler did with its element.
* `dispatcherRound2_settles`: every call of the dispatcher does one of these.
-/

namespace RCanopus

/-! ## Steps of round 2 -/

/-- A step of round 2 that is taken once for each entry of the log. -/
def Event.isProgress : Event → Bool
  | .issued _ => true
  | .accepted _ => true
  | .sentFullCommit _ _ => true
  | .committed _ => true
  | _ => false

/-- How many steps of round 2 an SL has taken. -/
def ConnManager.progress (s : ConnManager) : Nat := s.history.countP Event.isProgress

/-- Neither queue has changed, and round 2 is where it was. -/
structure Still (s₀ s : ConnManager) : Prop where
  juggled : s.juggleQueue = s₀.juggleQueue
  sent : s.sendQueue = s₀.sendQueue
  progress : s.progress = s₀.progress

section Still

variable {s₀ s s' : ConnManager}

theorem Still.refl (s : ConnManager) : Still s s := ⟨rfl, rfl, rfl⟩

theorem Still.trans (h : Still s₀ s) (h' : Still s s') : Still s₀ s' :=
  ⟨h'.juggled.trans h.juggled, h'.sent.trans h.sent, h'.progress.trans h.progress⟩

theorem progress_notes {events : List Event} (h : ∀ ev ∈ events, ev.isProgress = false) :
    ({ s with history := s.history ++ events } : ConnManager).progress = s.progress := by
  unfold ConnManager.progress
  rw [List.countP_append, List.countP_eq_zero (l := events).mpr fun ev hev => ?_, Nat.add_zero]
  rw [h ev hev]
  decide

/-- Only the queues and the history matter. -/
theorem Still.of_eq (hjuggled : s.juggleQueue = s₀.juggleQueue) (hsent : s.sendQueue = s₀.sendQueue)
    (hhistory : s.history = s₀.history) : Still s₀ s :=
  ⟨hjuggled, hsent, congrArg (List.countP Event.isProgress) hhistory⟩

theorem Still.note (h : Still s₀ s) {ev : Event} (hev : ev.isProgress = false) :
    Still s₀ (s.note ev) := by
  refine h.trans ⟨rfl, rfl, progress_notes fun ev' hev' => ?_⟩
  rw [List.mem_singleton.mp hev', hev]

theorem Still.guardFailed (h : Still s₀ s) : Still s₀ (s.note .guardFailed) := h.note rfl

theorem progress_note {ev : Event} (hev : ev.isProgress = true) :
    (s.note ev).progress = s.progress + 1 := by
  unfold ConnManager.progress ConnManager.note
  rw [List.countP_append, List.countP_singleton, if_pos hev]

end Still

theorem isProgress_of_not_round2 {ev : Event} (h : ev.isRound2 = false) :
    ev.isProgress = false := by
  cases ev <;> first | rfl | exact nomatch h

/-- The code of round 3 takes no step back. -/
theorem progress_frame (k : Nat) : Round3Frame fun s => k < s.progress where
  notes hs hev := by
    rw [progress_notes fun ev h => isProgress_of_not_round2 (hev ev h)]
    exact hs
  enqueue hs _ := hs
  juggle hs _ := hs
  setStatus _ _ hs := hs
  setPending _ _ _ hs := hs
  erase _ hs := hs

theorem progress_commitFrame (k : Nat) :
    CommitFrame (fun s => k < s.progress) fun s => k < s.progress where
  before := progress_frame k
  after := progress_frame k
  running _ hs := hs
  store _ hs := hs
  drop hs := hs
  clear hs := hs
  push hs _ := hs

/-! ## What a handler does with its element -/

/-- The most that a message can cause at an SL without a step of round 2. -/
def Message.rank (leader : Bool) : Message → Nat
  | .round3FetchRequest _ => 3
  | .round3GeneralFetch _ => 3
  | .round3FetchResponse _ => if leader then 1 else 2
  | .round3ConnectivityResponse _ => if leader then 1 else 2
  | .round3MembershipResponse _ => if leader then 1 else 2
  | _ => 1

@[simp] theorem Message.rank_copy (leader : Bool) (m : Message) :
    m.copy.rank leader = m.rank leader := by
  cases m <;> rfl

theorem Message.rank_pos (leader : Bool) (m : Message) : 0 < m.rank leader := by
  cases m <;> cases leader <;> exact Nat.zero_lt_succ _

/-- What a handler did with `e` between `s₀` and `s`. -/
inductive Settles (env : Env) (e : QueueElement) (s₀ s : ConnManager) : Prop where
  /-- Round 2 got further, whatever else happened. -/
  | progress (h : s₀.progress < s.progress)
  | putBack (hjuggled : s.juggleQueue = s₀.juggleQueue ++ [e]) (hsent : s.sendQueue = s₀.sendQueue)
    (hprogress : s.progress = s₀.progress)
  | dropped (h : Still s₀ s)
  /-- One message is sent to one SL, and it can cause less. -/
  | replaced (z : Peer) (m : Message) (hjuggled : s.juggleQueue = s₀.juggleQueue)
    (hsent : s.sendQueue = s₀.sendQueue ++ [{ upPeers := [some z], pMessage := m }])
    (hprogress : s.progress = s₀.progress)
    (hrank : m.rank (z.2 == 0) < e.pMessage.rank (env.conf.sLid == 0))

namespace Outcome

/-- Nothing was done, or a round was started. -/
def Starts (s₀ : ConnManager) : Outcome → Prop
  | .ok s => Still s₀ s ∨ s₀.progress < s.progress
  | .thrown _ _ => True

def Settles (env : Env) (e : QueueElement) (s₀ : ConnManager) : Outcome → Prop
  | .ok s => RCanopus.Settles env e s₀ s
  | .thrown _ _ => True

end Outcome

section Handlers

variable {env : Env} {ω : Choice} {s₀ s : ConnManager} {e : QueueElement} {cycle : UInt16}
  {status : CycleStatus} {Q : Outcome → Prop}

theorem Outcome.Starts.settles {o : Outcome} (h : o.Starts s₀) : o.Settles env e s₀ := by
  cases o with
  | thrown ex s => trivial
  | ok s =>
    rcases h with h | h
    · exact .dropped h
    · exact .progress h

theorem debugThrow_still {flag : Bool} {k : ConnManager → Outcome} (hs : Still s₀ s)
    (hthrow : ∀ ex s, Q (.thrown ex s)) (hk : ∀ s, Still s₀ s → Q (k s)) :
    Q (debugThrow env flag s k) := by
  unfold debugThrow
  split
  · exact hk s hs
  · split
    · exact hthrow _ _
    · exact hk _ hs.guardFailed

theorem debugThrowElseReturnVoid_still {flag : Bool} {k : ConnManager → Outcome}
    (hs : Still s₀ s) (hthrow : ∀ ex s, Q (.thrown ex s)) (hreturn : ∀ s, Still s₀ s → Q (.ok s))
    (hk : Q (k s)) : Q (debugThrowElseReturnVoid env flag s k) := by
  unfold debugThrowElseReturnVoid
  split
  · exact hk
  · split
    · exact hthrow _ _
    · exact hreturn _ hs.guardFailed

/-- A failed check drops the element. -/
theorem settles_debugThrowElseReturnVoid {flag : Bool} {k : ConnManager → Outcome}
    (hs : Still s₀ s) (hk : (k s).Settles env e s₀) :
    (debugThrowElseReturnVoid env flag s k).Settles env e s₀ :=
  debugThrowElseReturnVoid_still hs (fun _ _ => trivial) (fun _ hs => .dropped hs) hk

theorem settles_juggle (hs : Still s₀ s) : (Outcome.ok (s.juggle e)).Settles env e s₀ :=
  .putBack (congrArg (· ++ [e]) hs.juggled) hs.sent hs.progress

/-! ### Starting a round -/

theorem starts_sendPreprepare {p : MessageRound2Preprepare} (hs : Still s₀ s) :
    (sendPreprepare env p s).Starts s₀ := by
  refine Or.inr ?_
  rw [progress_note rfl, ← hs.progress]
  exact Nat.lt_succ_self _

theorem starts_leaderRound2SendPreprepare (hs : Still s₀ s) :
    (leaderRound2SendPreprepare env ω s).Starts s₀ := by
  unfold leaderRound2SendPreprepare canStartRound2
  refine debugThrow_still hs (fun _ _ => trivial) fun s hs => ?_
  refine debugThrow_still hs (fun _ _ => trivial) fun s hs => ?_
  split
  · trivial
  refine debugThrow_still hs (fun _ _ => trivial) fun s hs => ?_
  split
  · trivial
  · dsimp only
    split
    · refine debugThrow_still (hs.trans (.of_eq rfl rfl rfl)) (fun _ _ => trivial) fun s hs => ?_
      exact starts_sendPreprepare (hs.trans (.of_eq rfl rfl rfl))
    · exact starts_sendPreprepare (hs.trans (.of_eq rfl rfl rfl))

theorem starts_startRound2IfPossible (env : Env) (ω : Choice) (hs : Still s₀ s) :
    (startRound2IfPossible env ω s).Starts s₀ := by
  unfold startRound2IfPossible canStartRound2
  refine debugThrow_still hs (fun _ _ => trivial) fun s hs => ?_
  dsimp only
  split
  · trivial
  split
  · exact starts_leaderRound2SendPreprepare hs
  · exact Or.inl hs

theorem settles_start (hs : Still s₀ s) :
    (startRound2IfPossible env ω s).Settles env e s₀ :=
  (starts_startRound2IfPossible env ω hs).settles

/-! ### Round 3 -/

/-- A request is answered. -/
theorem settles_answer {kind : FetchKind} {m : Message} {request : UInt16 × UInt16}
    (hs : Still s₀ s) (hm : ∀ leader, m.rank leader < e.pMessage.rank (env.conf.sLid == 0)) :
    (Outcome.ok (answerRequests kind cycle m [request] s)).Settles env e s₀ := by
  refine .replaced (request.1.toNat, request.2.toNat) m hs.juggled ?_ ?_ (hm _)
  · exact congrArg (· ++ [_]) hs.sent
  · refine Eq.trans (progress_notes fun ev hev => ?_) hs.progress
    obtain ⟨r, -, rfl⟩ := List.mem_map.mp hev
    rfl

theorem rank_ownResponse {conf : Config} {kind : FetchKind} {m : Message} (leader : Bool)
    (h : ownResponse conf kind status = some m) : m.copy.rank leader < 3 := by
  cases kind <;> obtain ⟨r, -, rfl⟩ := Option.map_eq_some_iff.mp h <;> cases leader <;>
    exact Nat.lt_of_sub_eq_succ rfl

theorem still_pushPending {kind : FetchKind} {request : UInt16 × UInt16} (hs : Still s₀ s) :
    Still s₀ (pushPending kind cycle request s) := hs.trans (.of_eq rfl rfl rfl)

theorem settles_fetchRequest {m : MessageRound3FetchRequest}
    (he : e.pMessage = .round3FetchRequest m) :
    (dispatcherRound3FetchRequest env m s).Settles env e s := by
  have hrank : e.pMessage.rank (env.conf.sLid == 0) = 3 := by rw [he]; rfl
  unfold dispatcherRound3FetchRequest
  dsimp only
  split
  · split
    · exact settles_debugThrowElseReturnVoid (.refl s) (.dropped (.refl s))
    · exact .dropped (still_pushPending (.refl s))
  · split
    · trivial
    · next response hresponse =>
      refine settles_answer (.refl s) fun leader => ?_
      rw [hrank]
      exact rank_ownResponse leader hresponse

theorem settles_answerOrPush {kind : FetchKind} {m : MessageRound3GeneralFetch}
    (he : e.pMessage = .round3GeneralFetch m) :
    (Outcome.ok (answerOrPush kind env m status s)).Settles env e s := by
  have hrank : e.pMessage.rank (env.conf.sLid == 0) = 3 := by rw [he]; rfl
  unfold answerOrPush
  split
  · exact .dropped (still_pushPending (.refl s))
  · next response hresponse =>
    refine settles_answer (.refl s) fun leader => ?_
    rw [hrank]
    exact rank_ownResponse leader hresponse

theorem settles_generalFetch {m : MessageRound3GeneralFetch}
    (he : e.pMessage = .round3GeneralFetch m) :
    (dispatcherRound3GeneralFetchRequest env e m s).Settles env e s := by
  have hrank : e.pMessage.rank (env.conf.sLid == 0) = 3 := by rw [he]; rfl
  unfold dispatcherRound3GeneralFetchRequest dispatcherRound3FetchConnectivityRequest
    dispatcherRound3FetchMembershipRequest
  dsimp only
  split
  · split
    · exact settles_juggle (.refl s)
    · exact settles_answerOrPush he
  · split
    · split
      · refine debugThrow_still (.refl s) (fun _ _ => trivial) fun s hs => ?_
        refine settles_answer hs fun leader => ?_
        rw [hrank]
        cases leader <;> exact Nat.lt_of_sub_eq_succ rfl
      · exact settles_answerOrPush he
    · trivial

/-- An answer goes on to the leader of the BG, where it can cause less. -/
theorem settles_forwardToLeader (hleader : env.conf.isRound2Leader = false)
    (he : e.pMessage.rank true < e.pMessage.rank false) :
    (forwardToLeader env e s).Settles env e s := by
  have hsl : (env.conf.sLid == 0) = false := hleader
  refine .replaced (env.conf.bGid, 0) e.pMessage rfl rfl rfl ?_
  rw [hsl]
  exact he

theorem settles_fetchResponse {m : MessageRound3FetchResponse}
    (he : e.pMessage = .round3FetchResponse m) :
    (dispatcherRound3FetchResponse env ω e m s).Settles env e s := by
  unfold dispatcherRound3FetchResponse
  split
  · next hleader =>
    refine settles_forwardToLeader (by simpa using hleader) ?_
    rw [he]
    exact Nat.lt_succ_self 1
  · exact settles_start (.of_eq rfl rfl rfl)

theorem settles_connectivityResponse {m : MessageRound3FetchResponse}
    (he : e.pMessage = .round3ConnectivityResponse m) :
    (dispatcherRound3FetchConnectivityResponse env ω e m s).Settles env e s := by
  unfold dispatcherRound3FetchConnectivityResponse
  split
  · next hleader =>
    refine settles_forwardToLeader (by simpa using hleader) ?_
    rw [he]
    exact Nat.lt_succ_self 1
  · split
    · trivial
    · split
      · exact settles_juggle (.refl s)
      · dsimp only
        split
        · exact settles_start (.of_eq rfl rfl rfl)
        · exact settles_start (.of_eq rfl rfl rfl)

theorem settles_membershipResponse {m : MessageRound3FullMembership}
    (he : e.pMessage = .round3MembershipResponse m) :
    (dispatcherRound3FetchMembershipResponse env ω e m s).Settles env e s := by
  unfold dispatcherRound3FetchMembershipResponse
  split
  · next hleader =>
    refine settles_forwardToLeader (by simpa using hleader) ?_
    rw [he]
    exact Nat.lt_succ_self 1
  · dsimp only
    split
    · trivial
    · split
      · exact settles_juggle (.refl s)
      · refine settles_debugThrowElseReturnVoid (.refl s) ?_
        refine debugThrow_still (.refl s) (fun _ _ => trivial) fun s hs => ?_
        split
        · refine settles_start (hs.trans ?_)
          exact .of_eq rfl rfl rfl
        · exact .dropped (hs.trans (.of_eq rfl rfl rfl))

/-! ### Round 2 -/

/-- Only the leader counts batches. -/
theorem settles_request (hleader : env.conf.sLid = 0) {m : MessageRound2Request} :
    (dispatcherRound2Request env ω e m s).Settles env e s := by
  have hisLeader : env.conf.isRound2Leader = true := by
    unfold Config.isRound2Leader
    rw [hleader]
    rfl
  unfold dispatcherRound2Request
  rw [hisLeader, Bool.not_true, if_neg Bool.false_ne_true]
  refine settles_debugThrowElseReturnVoid (.refl s) ?_
  exact settles_start (.of_eq rfl rfl rfl)

theorem settles_acceptPreprepare {p : MessageRound2Preprepare} (hs : s.progress = s₀.progress) :
    (acceptPreprepare env p status s).Settles env e s₀ := by
  unfold acceptPreprepare
  refine debugThrow_still (.refl _) (fun _ _ => trivial) fun s' hs' => .progress ?_
  have hprogress : s'.progress = s.progress := hs'.progress
  rw [progress_note rfl, ← hs, ← hprogress]
  exact Nat.lt_succ_self s'.progress

theorem settles_preprepare {p : MessageRound2Preprepare} :
    (dispatcherRound2Preprepare env e p s).Settles env e s := by
  unfold dispatcherRound2Preprepare
  dsimp only
  have hs : Still s { s with
      pRound2CurrentStatus := some (s.pRound2CurrentStatus.getD .waitingForPreprepare) } :=
    .of_eq rfl rfl rfl
  split
  · exact settles_juggle hs
  · refine debugThrow_still hs (fun _ _ => trivial) fun s hs => ?_
    refine debugThrow_still hs (fun _ _ => trivial) fun s hs => ?_
    split
    · exact settles_juggle hs
    · refine settles_debugThrowElseReturnVoid hs ?_
      refine debugThrow_still hs (fun _ _ => trivial) fun s hs => ?_
      exact settles_acceptPreprepare hs.progress

theorem settles_countPartialCommit {m : MessageRound2PartialCommit} (hs : Still s₀ s) :
    (countPartialCommit env e m status s).Settles env e s₀ := by
  have hcounted : Still s₀ (s.note (.counted (e.upPeers.head?.getD none) m status.round2View
      status.round2Sequence)) := hs.note rfl
  unfold countPartialCommit
  dsimp only
  split
  · refine .progress ?_
    rw [progress_note rfl, ← hcounted.progress]
    exact Nat.lt_succ_self _
  · exact .dropped (hcounted.trans (.of_eq rfl rfl rfl))

theorem settles_partialCommit {m : MessageRound2PartialCommit} :
    (dispatcherRound2PartialCommit env e m s).Settles env e s := by
  unfold dispatcherRound2PartialCommit
  split
  · exact settles_juggle (.refl s)
  · split
    · exact settles_juggle (.refl s)
    · split
      · exact settles_juggle (.refl s)
      · refine settles_debugThrowElseReturnVoid (.refl s) ?_
        refine settles_debugThrowElseReturnVoid (.refl s) ?_
        refine settles_debugThrowElseReturnVoid (.refl s) ?_
        refine settles_debugThrowElseReturnVoid (.refl s) ?_
        split
        · trivial
        · split
          · trivial
          · refine settles_debugThrowElseReturnVoid (.refl s) ?_
            exact settles_countPartialCommit (.refl s)

theorem settles_spawnRound2 (hs : s₀.progress < s.progress) :
    (spawnRound2 env ω s).Settles env e s₀ := by
  unfold spawnRound2
  split
  · have hstarts := starts_startRound2IfPossible env ω (Still.refl s)
    revert hstarts
    cases startRound2IfPossible env ω s with
    | thrown ex s' => exact fun _ => trivial
    | ok s' =>
      rintro (h | h)
      · exact .progress (h.progress.symm ▸ hs)
      · exact .progress (hs.trans h)
  · exact .progress hs

/-- A full commit takes its round to the end, or it is dropped or put back. -/
theorem settles_fullCommit {m : MessageRound2FullCommit} :
    (dispatcherRound2FullCommit env ω e m s).Settles env e s := by
  unfold dispatcherRound2FullCommit
  split
  · exact settles_juggle (.refl s)
  · split
    · exact settles_juggle (.refl s)
    · refine settles_debugThrowElseReturnVoid (.refl s) ?_
      refine settles_debugThrowElseReturnVoid (.refl s) ?_
      refine settles_debugThrowElseReturnVoid (.refl s) ?_
      split
      · trivial
      · dsimp only
        refine (progress_commitFrame s.progress).fullCommitBranch ?_ (fun _ _ _ => trivial)
          (fun _ hs => .progress hs) (fun _ _ _ => trivial) fun _ hs => settles_spawnRound2 hs
        rw [progress_note rfl]
        exact Nat.lt_succ_self _

/-- **Every call of the dispatcher brings round 2 further, or it does little.** -/
theorem dispatcherRound2_settles
    (hbatch : env.conf.sLid = 0 ∨ e.pMessage.msgType ≠ .round2Request) :
    (dispatcherRound2 env ω e s).Settles env e s := by
  unfold dispatcherRound2
  split
  · trivial
  · split
    · refine debugThrow_still (.refl s) (fun _ _ => trivial) fun s hs => ?_
      exact settles_start hs
    · next m he =>
      refine settles_request (hbatch.resolve_right fun hne => hne ?_)
      rw [he]
      rfl
    · exact settles_preprepare
    · exact settles_partialCommit
    · exact settles_fullCommit
    · next m he => exact settles_fetchRequest he
    · next m he => exact settles_fetchResponse he
    · next m he => exact settles_generalFetch he
    · next m he => exact settles_connectivityResponse he
    · next m he => exact settles_membershipResponse he
    · trivial

end Handlers

end RCanopus
