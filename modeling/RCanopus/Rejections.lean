import RCanopus.Membership
import RCanopus.Round3Frame
import RCanopus.SequenceWrap

/-!
# Rejected full commits

In the release build `dispatcher_round2_fullCommit` returns when a `DebugThrowElseReturnVoid` of it
fails. The first three come before it changes anything. The others come after the status was set to
`ROUND2_COMMITTED`, and the SL never leaves that state again.

* `rejected_intact_iff`: which rejected full commits leave the state alone.
* `rejected_stuck`: what the others leave behind.
-/

namespace RCanopus

/-! ## The checks -/

/-- The checks of `dispatcher_round2_fullCommit` that return, in the order of the source. -/
inductive FullCommitCheck where
  | state
  | view
  | seq
  /-- Of `REQUEST_TYPE_FROM_CLIENT`: the result of the own BG is not there yet. -/
  | ownResult
  | fetchedResult
  | localConnectivity
  | remoteConnectivity
  | localMembership
  deriving DecidableEq, Repr

/-- A check of the entry for a cycle. Without an entry the dispatcher throws before. -/
def checkEntry (check : FullCommitCheck) (s : ConnManager) (cycle : UInt16)
    (isNull : CycleStatus → Bool) : Option FullCommitCheck :=
  match s.mapRound3Status cycle with
  | none => none
  | some status => if isNull status then none else some check

/-- The check in the branch for the request type that returns, if one does. -/
def rejectedInBranch (env : Env) (ω : Choice) (pFullC : MessageRound2FullCommit)
    (pPreprepare : MessageRound2Preprepare) (status : CycleStatus) (s : ConnManager) :
    Option FullCommitCheck :=
  if pPreprepare.requestType = requestTypeFromClient then
    -- the skipped cycles come first, and what is done for them may throw
    match skipCycles env ω pFullC pPreprepare status
      (pPreprepare.cycle.toNat - (pPreprepare.lastcycle + 1).toNat) (pPreprepare.lastcycle + 1)
      s with
    | .thrown _ _ => none
    | .ok _ =>
      if (status.rgMsgRound3FetchResponse env.conf.bGid).isNone then none else some .ownResult
  else if pPreprepare.requestType = requestTypeFetchedResult then
    checkEntry .fetchedResult s pPreprepare.cycle fun status =>
      (status.rgMsgRound3FetchResponse pPreprepare.bGid.toNat).isNone
  else if pPreprepare.requestType = requestTypeLocalConnectivity then
    checkEntry .localConnectivity s pPreprepare.cycle fun status =>
      (status.rgMsgRound3ConnectivityResponse env.conf.bGid).isNone
  else if pPreprepare.requestType = requestTypeRemoteConnectivity then
    checkEntry .remoteConnectivity s pPreprepare.cycle fun status =>
      (status.rgMsgRound3FetchResponse pPreprepare.bGid.toNat).isNone
  else if pPreprepare.requestType = requestTypeLocalMembership then
    checkEntry .localMembership s pPreprepare.cycle fun status =>
      (status.rgMsgRound3MembershipResponse env.conf.bGid).isNone
  else none

/-- The state in which the branches of `dispatcher_round2_fullCommit` start. -/
def enterBranch (pPreprepare : MessageRound2Preprepare) (status : CycleStatus)
    (s : ConnManager) : ConnManager :=
  { s with pRound2CurrentStatus := some { status with state := .round2Committed } }.note
    (.committed pPreprepare)

/-- The check through which `dispatcher_round2_fullCommit` returns, if it does. -/
def rejectedBy (env : Env) (ω : Choice) (pFullC : MessageRound2FullCommit) (s : ConnManager) :
    Option FullCommitCheck :=
  match s.pRound2CurrentStatus with
  | none => none
  | some status =>
    if status.state = .round2WaitingForPreprepare then none
    else if status.state ≠ .round2WaitingForFullcommit then some .state
    else if pFullC.view ≠ status.round2View then some .view
    else if pFullC.seq ≠ status.round2Sequence then some .seq
    else
      match s.pTemporaryStorageOfPreprepare with
      | none => none
      | some pPreprepare =>
        rejectedInBranch env ω pFullC pPreprepare { status with state := .round2Committed }
          (enterBranch pPreprepare status s)

/-- The full commit is for the round that the SL waits to commit. -/
def Matches (pFullC : MessageRound2FullCommit) (status : CycleStatus) : Prop :=
  status.state = .round2WaitingForFullcommit ∧ pFullC.view = status.round2View
    ∧ pFullC.seq = status.round2Sequence

/--
The round, the cycles and the queues are as before, and what the SL would have accepted before it
still accepts.
-/
structure Intact (env : Env) (s s' : ConnManager) : Prop where
  status : s'.pRound2CurrentStatus = s.pRound2CurrentStatus
  stored : s'.pTemporaryStorageOfPreprepare = s.pTemporaryStorageOfPreprepare
  round3 : s'.mapRound3Status = s.mapRound3Status
  sendQueue : s'.sendQueue = s.sendQueue
  juggleQueue : s'.juggleQueue = s.juggleQueue
  pending : s'.pLeaderRound2PendingPreprepareRaw = s.pLeaderRound2PendingPreprepareRaw
  accepts : ∀ e p, Accepts env s p (dispatcherRound2Preprepare env e p s) →
    Accepts env s' p (dispatcherRound2Preprepare env e p s')

section

variable {env : Env} {ω : Choice} {pFullC : MessageRound2FullCommit} {e : QueueElement}
  {p : MessageRound2Preprepare} {status : CycleStatus} {s : ConnManager}
  {check : FullCommitCheck} {common : ConnManager → Outcome}

/-- A failed check in the release build. -/
theorem debugThrowElseReturnVoid_false (hrelease : env.debugFailfast = false) (s : ConnManager)
    (k : ConnManager → Outcome) :
    debugThrowElseReturnVoid env false s k = .ok (s.note .guardFailed) := by
  unfold debugThrowElseReturnVoid
  rw [hrelease]
  rfl

theorem checkEntry_some {cycle : UInt16} {isNull : CycleStatus → Bool} {check' : FullCommitCheck}
    (h : checkEntry check s cycle isNull = some check') :
    ∃ status, s.mapRound3Status cycle = some status ∧ isNull status = false := by
  unfold checkEntry at h
  split at h
  next => exact absurd h (by simp)
  next status hstatus =>
    split at h
    next => exact absurd h (by simp)
    next hnull => exact ⟨status, hstatus, Bool.not_eq_true _ ▸ hnull⟩

/-- What all the branches keep when they return. -/
def KeepsRound (s s' : ConnManager) : Prop :=
  s'.pRound2CurrentStatus = s.pRound2CurrentStatus
    ∧ s'.pTemporaryStorageOfPreprepare = s.pTemporaryStorageOfPreprepare

theorem keepsRound_frame (s : ConnManager) : Round3Frame (KeepsRound s) where
  notes h _ := h
  enqueue h _ := h
  juggle h _ := h
  setStatus _ _ h := h
  setPending _ _ _ h := h
  erase _ h := h

section Branches

variable (hrelease : env.debugFailfast = false)

include hrelease

theorem fullCommitFromClient_rejected (h : rejectedInBranch env ω pFullC p status s = some check)
    (hclient : p.requestType = requestTypeFromClient) :
    ∃ s', fullCommitFromClient env ω pFullC p status s common = .ok (s'.note .guardFailed)
      ∧ KeepsRound s s' := by
  have hkept : KeepsRound s (skipCycles env ω pFullC p status
      (p.cycle.toNat - (p.lastcycle + 1).toNat) (p.lastcycle + 1) s).state :=
    (keepsRound_frame s).skipCycles ⟨rfl, rfl⟩
  unfold rejectedInBranch at h
  rw [if_pos hclient] at h
  unfold fullCommitFromClient
  revert h hkept
  cases skipCycles env ω pFullC p status (p.cycle.toNat - (p.lastcycle + 1).toNat)
      (p.lastcycle + 1) s with
  | thrown ex s' => exact fun h _ => absurd h (by simp)
  | ok s' =>
    intro h hkept
    refine ⟨s', ?_, hkept⟩
    rw [Outcome.andThen_ok]
    dsimp only at h ⊢
    cases hnull : (status.rgMsgRound3FetchResponse env.conf.bGid).isNone with
    | true =>
      rw [hnull] at h
      exact absurd h (by simp)
    | false => exact debugThrowElseReturnVoid_false hrelease s' _

variable {entry : CycleStatus} (hentry : s.mapRound3Status p.cycle = some entry)

include hentry

theorem fullCommitFetchedResult_rejected
    (hnull : (entry.rgMsgRound3FetchResponse p.bGid.toNat).isNone = false) :
    fullCommitFetchedResult env p s common = .ok (s.note .guardFailed) := by
  unfold fullCommitFetchedResult
  dsimp only
  rw [hentry]
  dsimp only
  rw [hnull]
  exact debugThrowElseReturnVoid_false hrelease s _

theorem fullCommitLocalConnectivity_rejected
    (hnull : (entry.rgMsgRound3ConnectivityResponse env.conf.bGid).isNone = false) :
    fullCommitLocalConnectivity env ω pFullC p s common = .ok (s.note .guardFailed) := by
  unfold fullCommitLocalConnectivity
  dsimp only
  rw [hentry]
  dsimp only
  rw [hnull]
  exact debugThrowElseReturnVoid_false hrelease s _

/-- Before this check comes one that always fails. -/
theorem fullCommitRemoteConnectivity_rejected
    (hnull : (entry.rgMsgRound3FetchResponse p.bGid.toNat).isNone = false) :
    fullCommitRemoteConnectivity env p s common
      = .ok ((s.note .guardFailed).note .guardFailed) := by
  have hentry' : (s.note .guardFailed).mapRound3Status p.cycle = some entry := hentry
  unfold fullCommitRemoteConnectivity debugThrow
  rw [if_neg Bool.false_ne_true, hrelease, if_neg Bool.false_ne_true]
  dsimp only
  rw [hentry']
  dsimp only
  rw [hnull]
  exact debugThrowElseReturnVoid_false hrelease _ _

theorem fullCommitLocalMembership_rejected
    (hnull : (entry.rgMsgRound3MembershipResponse env.conf.bGid).isNone = false) :
    fullCommitLocalMembership env ω p s common = .ok (s.note .guardFailed) := by
  unfold fullCommitLocalMembership
  dsimp only
  rw [hentry]
  dsimp only
  rw [hnull]
  exact debugThrowElseReturnVoid_false hrelease s _

omit hentry

/-- A rejection in a branch leaves the round as the branch found it. -/
theorem fullCommitBranch_rejected (h : rejectedInBranch env ω pFullC p status s = some check) :
    ∃ s', fullCommitBranch env ω pFullC p status s common = .ok (s'.note .guardFailed)
      ∧ KeepsRound s s' := by
  by_cases hclient : p.requestType = requestTypeFromClient
  · unfold fullCommitBranch
    rw [if_pos hclient]
    exact fullCommitFromClient_rejected hrelease h hclient
  · unfold rejectedInBranch at h
    unfold fullCommitBranch
    rw [if_neg hclient] at h ⊢
    split at h
    next hresult =>
      rw [if_pos hresult]
      obtain ⟨entry, hentry, hnull⟩ := checkEntry_some h
      exact ⟨s, fullCommitFetchedResult_rejected hrelease hentry hnull, rfl, rfl⟩
    next hresult =>
      rw [if_neg hresult]
      split at h
      next hlocal =>
        rw [if_pos hlocal]
        obtain ⟨entry, hentry, hnull⟩ := checkEntry_some h
        exact ⟨s, fullCommitLocalConnectivity_rejected hrelease hentry hnull, rfl, rfl⟩
      next hlocal =>
        rw [if_neg hlocal]
        split at h
        next hremote =>
          rw [if_pos hremote]
          obtain ⟨entry, hentry, hnull⟩ := checkEntry_some h
          exact ⟨_, fullCommitRemoteConnectivity_rejected hrelease hentry hnull, rfl, rfl⟩
        next hremote =>
          rw [if_neg hremote]
          split at h
          next hmembership =>
            rw [if_pos hmembership]
            obtain ⟨entry, hentry, hnull⟩ := checkEntry_some h
            exact ⟨s, fullCommitLocalMembership_rejected hrelease hentry hnull, rfl, rfl⟩
          next => exact absurd h (by simp)

/--
A rejected full commit that does not match changes nothing, and one that matches leaves the status
committed and the Preprepare stored.
-/
theorem dispatcherRound2FullCommit_rejected (h : rejectedBy env ω pFullC s = some check) :
    ∃ status s', s.pRound2CurrentStatus = some status
      ∧ dispatcherRound2FullCommit env ω e pFullC s = .ok (s'.note .guardFailed)
      ∧ (¬ Matches pFullC status → s' = s)
      ∧ (Matches pFullC status →
        s'.pRound2CurrentStatus = some { status with state := .round2Committed }
          ∧ s'.pTemporaryStorageOfPreprepare = s.pTemporaryStorageOfPreprepare) := by
  unfold rejectedBy at h
  unfold dispatcherRound2FullCommit
  split at h
  next => exact absurd h (by simp)
  next status hstatus =>
    rw [hstatus]
    dsimp only
    split at h
    next => exact absurd h (by simp)
    next hwaiting =>
      rw [if_neg hwaiting]
      split at h
      next hstate =>
        refine ⟨status, s, rfl, ?_, fun _ => rfl, fun hmatches => absurd hmatches.1 hstate⟩
        rw [beq_false_of_ne hstate]
        exact debugThrowElseReturnVoid_false hrelease s _
      next hstate =>
        have hstate := of_not_not hstate
        rw [hstate, beq_self_eq_true, debugThrowElseReturnVoid_true]
        split at h
        next hview =>
          refine ⟨status, s, rfl, ?_, fun _ => rfl, fun hmatches => absurd hmatches.2.1 hview⟩
          rw [beq_false_of_ne hview]
          exact debugThrowElseReturnVoid_false hrelease s _
        next hview =>
          have hview := of_not_not hview
          rw [hview, beq_self_eq_true, debugThrowElseReturnVoid_true]
          split at h
          next hseq =>
            refine ⟨status, s, rfl, ?_, fun _ => rfl, fun hmatches => absurd hmatches.2.2 hseq⟩
            rw [beq_false_of_ne hseq]
            exact debugThrowElseReturnVoid_false hrelease s _
          next hseq =>
            have hseq := of_not_not hseq
            rw [hseq, beq_self_eq_true, debugThrowElseReturnVoid_true]
            split at h
            next => exact absurd h (by simp)
            next p hstored =>
              obtain ⟨s', hbranch, hkept⟩ :
                  ∃ s', fullCommitBranch env ω pFullC p { status with state := .round2Committed }
                        (enterBranch p status s) (spawnRound2 env ω) = .ok (s'.note .guardFailed)
                    ∧ KeepsRound (enterBranch p status s) s' := fullCommitBranch_rejected hrelease h
              refine ⟨status, s', rfl, ?_, fun hno => absurd ⟨hstate, hview, hseq⟩ hno,
                fun _ => hkept⟩
              unfold enterBranch at hbranch
              rw [hstored] at hbranch ⊢
              exact hbranch

end Branches

/-! ## The history is not read -/

/-- Two states that differ in the history only. -/
def AgreeBut (s s' : ConnManager) : Prop := ∃ history, s' = { s with history := history }

/-- Two calls that end alike. -/
def Outcome.Agree : Outcome → Outcome → Prop
  | .ok s, .ok s' => AgreeBut s s'
  | .thrown ex s, .thrown ex' s' => ex = ex' ∧ AgreeBut s s'
  | _, _ => False

theorem AgreeBut.note {s s' : ConnManager} (h : AgreeBut s s') (ev : Event) :
    AgreeBut (s.note ev) (s'.note ev) := by
  obtain ⟨history, rfl⟩ := h
  exact ⟨history ++ [ev], rfl⟩

section Agree

variable {s' : ConnManager} {flag : Bool} {k k' : ConnManager → Outcome} (h : AgreeBut s s')
  (hk : ∀ {s s'}, AgreeBut s s' → (k s).Agree (k' s'))

include h hk

theorem debugThrow_agree : (debugThrow env flag s k).Agree (debugThrow env flag s' k') := by
  unfold debugThrow
  split
  · exact hk h
  · split
    · exact ⟨rfl, h.note _⟩
    · exact hk (h.note _)

theorem debugThrowElseReturnVoid_agree :
    (debugThrowElseReturnVoid env flag s k).Agree (debugThrowElseReturnVoid env flag s' k') := by
  unfold debugThrowElseReturnVoid
  split
  · exact hk h
  · split
    · exact ⟨rfl, h.note _⟩
    · exact h.note _

end Agree

/-- What comes of a Preprepare does not depend on the history. -/
theorem dispatcherRound2Preprepare_agree {s' : ConnManager} (h : AgreeBut s s') :
    (dispatcherRound2Preprepare env e p s).Agree (dispatcherRound2Preprepare env e p s') := by
  obtain ⟨history, rfl⟩ := h
  unfold dispatcherRound2Preprepare
  dsimp only
  split
  · exact ⟨history, rfl⟩
  · refine debugThrow_agree ⟨history, rfl⟩ fun h₁ => debugThrow_agree h₁ fun {s₂ s₂'} h₂ => ?_
    obtain ⟨history₂, rfl⟩ := h₂
    have hearly : preprepareTooEarly { s₂ with history := history₂ } p
        = preprepareTooEarly s₂ p := rfl
    rw [hearly]
    split
    · exact ⟨history₂, rfl⟩
    · refine debugThrowElseReturnVoid_agree ⟨history₂, rfl⟩ fun {s₃ s₃'} h₃ => ?_
      obtain ⟨history₃, rfl⟩ := h₃
      refine debugThrow_agree ⟨history₃, rfl⟩ fun {s₄ s₄'} h₄ => ?_
      obtain ⟨history₄, rfl⟩ := h₄
      unfold acceptPreprepare
      refine debugThrow_agree ⟨history₄, rfl⟩ fun h₅ => ?_
      obtain ⟨history₅, rfl⟩ := h₅
      exact ⟨history₅ ++ [.accepted p], rfl⟩

theorem Accepts.of_agree {s' : ConnManager} {o o' : Outcome} (h : Accepts env s p o)
    (hs : AgreeBut s s') (ho : o.Agree o') : Accepts env s' p o' := by
  obtain ⟨history, rfl⟩ := hs
  obtain ⟨s₁, rfl⟩ := h.returned
  cases o' with
  | ok s₂ =>
    obtain ⟨history', rfl⟩ := ho
    exact ⟨⟨_, rfl⟩, h.stored, h.answered, h.notJuggled⟩
  | thrown ex s₂ => exact ho.elim

/--
**A rejected full commit** leaves the state alone exactly when it is not for the round that the SL
waits to commit.
-/
theorem rejected_intact_iff (hrelease : env.debugFailfast = false)
    (h : rejectedBy env ω pFullC s = some check) :
    Intact env s (dispatcherRound2FullCommit env ω e pFullC s).state
      ↔ ∀ status, s.pRound2CurrentStatus = some status → ¬ Matches pFullC status := by
  obtain ⟨status, s', hstatus, hreturn, hno, hmatches⟩ :=
    dispatcherRound2FullCommit_rejected (e := e) hrelease h
  rw [hreturn, Outcome.state_ok]
  constructor
  · intro hintact status' hstatus' hmatch
    obtain rfl : status = status' := Option.some.inj (hstatus.symm.trans hstatus')
    -- the status was waiting, and now it is committed
    have hcommitted := hintact.status.symm.trans (hmatches hmatch).1
    have hstate : status.state = .round2Committed :=
      congrArg CycleStatus.state (Option.some.inj (hstatus.symm.trans hcommitted))
    rw [hmatch.1] at hstate
    exact absurd hstate (by decide)
  · intro hnone
    obtain rfl := hno (hnone status hstatus)
    have hagree : AgreeBut s' (s'.note .guardFailed) := ⟨_, rfl⟩
    exact ⟨rfl, rfl, rfl, rfl, rfl, rfl, fun e p haccepts =>
      haccepts.of_agree hagree (dispatcherRound2Preprepare_agree hagree)⟩

/--
After the rejection of a full commit that matches, the SL juggles every Preprepare and rejects
every full commit.
-/
theorem rejected_stuck (hrelease : env.debugFailfast = false)
    (h : rejectedBy env ω pFullC s = some check) (hstatus : s.pRound2CurrentStatus = some status)
    (hmatches : Matches pFullC status) (hawaiting : status.awaitingMessageType = .round2FullCommit)
    {s' : ConnManager} (hs' : dispatcherRound2FullCommit env ω e pFullC s = .ok s') :
    (∀ e p, dispatcherRound2Preprepare env e p s' = .ok (s'.juggle e))
      ∧ ∀ ω pFullC, rejectedBy env ω pFullC s' = some .state := by
  obtain ⟨status', s₁, hstatus', hreturn, -, hleft⟩ :=
    dispatcherRound2FullCommit_rejected (e := e) hrelease h
  obtain rfl : status = status' := Option.some.inj (hstatus.symm.trans hstatus')
  obtain rfl : s₁.note .guardFailed = s' := Outcome.ok.inj (hreturn.symm.trans hs')
  have hcommitted : (s₁.note .guardFailed).pRound2CurrentStatus
      = some { status with state := .round2Committed } := (hleft hmatches).1
  constructor
  · intro e p
    unfold dispatcherRound2Preprepare
    rw [hcommitted, Option.getD_some]
    dsimp only
    rw [if_pos (by rw [hawaiting]; decide), ← hcommitted]
  · intro ω pFullC
    unfold rejectedBy
    rw [hcommitted]
    rfl

end

/-! ## A duplicate result -/

/-- The leader of the first of two BGs, in the release build. -/
def lenient : Env where
  conf := twoServers
  host := .little
  debugFailfast := false
  round2Verifier := some fakeVerifier

/-- Nothing is left to be chosen. -/
def noChoice : Choice where
  draw := fun _ => 0
  top := 0

/-- The result of cycle 1 in the second BG. -/
def secondResult : MessageRound3FetchResponse where
  header := { version := versionLatest, payloadLen := 38 }
  senderBGid := 1
  senderSLid := 0
  cycle := 1
  combinedSignature := zeroSignature
  entirePreprepareMsg := []

/-- The Preprepare for that result, with sequence 3. -/
def secondResultPreprepare : MessageRound2Preprepare :=
  { fetchedResultPreprepare 0 secondResult with view := 1, seq := 3 }

/-- The SL waits to commit the result, which it already has. -/
def duplicateResult : ConnManager :=
  { ConnManager.init with
    round2NextSeq := 4
    pRound2CurrentStatus := some (.waitingForFullcommit secondResultPreprepare)
    pTemporaryStorageOfPreprepare := some secondResultPreprepare
    mapRound3Status := fun cycle =>
      if cycle = 1 then
        some { CycleStatus.new.enter .round3WaitingForLocalConnectivity .round2FullCommit 1 with
          rgMsgRound3FetchResponse := fun _ => some secondResult }
      else none }

/-- A full commit of view 1. -/
def fullCommitOf (seq : UInt16) : QueueElement where
  upPeers := [none]
  pMessage := .round2FullCommit (fullCommitMessage 0 1 seq)

/-- What it leaves behind. -/
def afterFullCommit (seq : UInt16) : ConnManager :=
  (dispatcherRound2FullCommit lenient noChoice (fullCommitOf seq) (fullCommitMessage 0 1 seq)
    duplicateResult).state

theorem rejected_intact_otherSeq :
    rejectedBy lenient noChoice (fullCommitMessage 0 1 2) duplicateResult = some .seq
      ∧ Intact lenient duplicateResult (afterFullCommit 2) := by
  have hrejected : rejectedBy lenient noChoice (fullCommitMessage 0 1 2) duplicateResult
      = some .seq := rfl
  refine ⟨hrejected, (rejected_intact_iff rfl hrejected).mpr ?_⟩
  intro status hstatus hmatches
  obtain rfl := Option.some.inj hstatus
  exact absurd hmatches.2.2 (by decide)

/-- The full commit of the duplicate is rejected, and from then on every Preprepare is juggled. -/
theorem duplicateResult_notIntact :
    rejectedBy lenient noChoice (fullCommitMessage 0 1 3) duplicateResult = some .fetchedResult
      ∧ ¬ Intact lenient duplicateResult (afterFullCommit 3)
      ∧ ∀ e p, dispatcherRound2Preprepare lenient e p (afterFullCommit 3)
        = .ok ((afterFullCommit 3).juggle e) := by
  have hrejected : rejectedBy lenient noChoice (fullCommitMessage 0 1 3) duplicateResult
      = some .fetchedResult := rfl
  refine ⟨hrejected, fun hintact => ?_, ?_⟩
  · have hstate := congrArg (Option.map CycleStatus.state) hintact.status
    exact absurd hstate (by decide)
  · have hmatches : Matches (fullCommitMessage 0 1 3)
        (.waitingForFullcommit secondResultPreprepare) := ⟨rfl, rfl, rfl⟩
    exact (rejected_stuck (e := fullCommitOf 3) rfl hrejected rfl hmatches rfl rfl).1

end RCanopus
