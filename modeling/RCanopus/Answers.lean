import RCanopus.CyclePhases

/-!
# Every request is answered once

An SL keeps accounts of the requests that it has taken from its inbox: each was answered, or it
waits in one of the pending maps, or it is juggled. Every handler keeps the accounts, however it
ends, as long as no check has failed.
-/

namespace RCanopus

open Cluster

/-! ## Requests -/

/-- The kind of a request, its cycle and the ids of the SL that asks. -/
abbrev Request := FetchKind × UInt16 × (UInt16 × UInt16)

/-- The request that a message is. -/
def Message.request : Message → Option Request
  | .round3FetchRequest m => some (.result, m.cycle, (m.senderBGid, m.senderSLid))
  | .round3GeneralFetch m =>
    if m.msgTypeDemanded = MessageType.round3ConnectivityResponse.code then
      some (.connectivity, m.cycle, (m.senderBGid, m.senderSLid))
    else if m.msgTypeDemanded = MessageType.round3MembershipResponse.code then
      some (.membership, m.cycle, (m.senderBGid, m.senderSLid))
    else none
  | _ => none

/-- The requests that were answered, one for each answer. -/
def answeredOf (events : List Event) : List Request :=
  events.filterMap fun
    | .answered kind cycle recipient _ => some (kind, cycle, recipient)
    | _ => none

namespace ConnManager

/-- The senders of the pending requests of a kind for a cycle. -/
def pendingOf (s : ConnManager) (kind : FetchKind) (cycle : UInt16) : List (UInt16 × UInt16) :=
  (s.mapRound3PendingRequests kind cycle).getD []

def juggledRequests (s : ConnManager) : List Request :=
  s.juggleQueue.filterMap fun e => e.pMessage.request

/-- How often a request is in the accounts. -/
def tally (s : ConnManager) (r : Request) : Nat :=
  (answeredOf s.history).count r + (s.pendingOf r.1 r.2.1).count r.2.2
    + s.juggledRequests.count r

/-- The accounts have `n` entries for `r`, unless a check has failed. -/
def Balanced (r : Request) (n : Nat) (s : ConnManager) : Prop :=
  .guardFailed ∉ s.history → s.tally r = n

variable {r : Request} {n : Nat} {s : ConnManager}

theorem balanced_tally (s : ConnManager) (r : Request) : s.Balanced r (s.tally r) := fun _ => rfl

theorem Balanced.note (h : s.Balanced r n) {ev : Event} (hev : answeredOf [ev] = []) :
    (s.note ev).Balanced r n := by
  intro hg
  have hold : .guardFailed ∉ s.history := fun hmem => hg (List.mem_append_left _ hmem)
  rw [← h hold]
  unfold tally ConnManager.note
  rw [show answeredOf (s.history ++ [ev]) = answeredOf s.history by
    unfold answeredOf at hev ⊢
    rw [List.filterMap_append, hev, List.append_nil]]
  rfl

theorem balanced_guardFailed (r : Request) (n : Nat) (s : ConnManager) :
    (s.note .guardFailed).Balanced r n :=
  fun hg => absurd (List.mem_append_right _ (List.mem_singleton_self _)) hg

/-- A juggled element adds the request that it is. -/
theorem Balanced.juggle (h : s.Balanced r n) (e : QueueElement) :
    (s.juggle e).Balanced r (n + e.pMessage.request.toList.count r) := by
  intro hg
  rw [← h hg]
  unfold tally juggledRequests ConnManager.juggle
  rw [List.filterMap_append, List.count_append, List.filterMap_cons, List.filterMap_nil]
  cases e.pMessage.request <;> simp [Nat.add_assoc] <;> rfl

theorem Balanced.juggle_other (h : s.Balanced r n) {e : QueueElement}
    (he : e.pMessage.request = none) : (s.juggle e).Balanced r n := by
  have hj := h.juggle e
  rwa [he] at hj

end ConnManager

/-! ## Answers -/

theorem count_map_request (kind : FetchKind) (cycle : UInt16) (l : List (UInt16 × UInt16))
    (r : Request) : (l.map fun q => (kind, cycle, q)).count r
      = if r.1 = kind ∧ r.2.1 = cycle then l.count r.2.2 else 0 := by
  obtain ⟨k, c, q⟩ := r
  dsimp only
  split
  · next h =>
    obtain ⟨rfl, rfl⟩ := h
    exact List.count_map_of_injective l (fun q' => (k, c, q')) (fun a b hab => by simpa using hab) q
  · next h =>
    refine List.count_eq_zero.mpr fun hmem => h ?_
    obtain ⟨q', -, hq⟩ := List.mem_map.mp hmem
    simp only [Prod.mk.injEq] at hq
    exact ⟨hq.1.symm, hq.2.1.symm⟩

namespace ConnManager

variable {r : Request} {n : Nat} {s : ConnManager} {kind : FetchKind} {cycle : UInt16}
  {requests : List (UInt16 × UInt16)} {m : Message}

theorem pendingOf_setPending (k : FetchKind) (c : UInt16) :
    (s.setPending kind cycle requests).pendingOf k c
      = if k = kind ∧ c = cycle then requests else s.pendingOf k c := by
  unfold pendingOf setPending
  dsimp only
  by_cases hk : k = kind
  · subst hk
    rw [Function.update_self]
    by_cases hc : c = cycle
    · subst hc
      simp
    · simp [hc]
  · simp [hk]

theorem answeredOf_answerRequests :
    answeredOf (answerRequests kind cycle m requests s).history
      = answeredOf s.history ++ requests.map fun q => (kind, cycle, q) := by
  unfold answeredOf answerRequests
  rw [List.filterMap_append]
  congr 1
  induction requests with
  | nil => rfl
  | cons q requests ih =>
    rw [List.map_cons, List.map_cons, ← ih]
    rfl

theorem guardFailed_answerRequests :
    .guardFailed ∈ (answerRequests kind cycle m requests s).history
      ↔ .guardFailed ∈ s.history := by
  unfold answerRequests
  rw [List.mem_append]
  exact or_iff_left fun h => by simp at h

/-- Every answer is a new entry. -/
theorem Balanced.answer (h : s.Balanced r n) : (answerRequests kind cycle m requests s).Balanced r
    (n + (requests.map fun q => (kind, cycle, q)).count r) := by
  intro hg
  rw [guardFailed_answerRequests] at hg
  rw [← h hg]
  unfold tally
  rw [answeredOf_answerRequests, List.count_append]
  show _ + (s.pendingOf r.1 r.2.1).count r.2.2 + s.juggledRequests.count r = _
  omega

/-- A request that has to wait is a new entry. -/
theorem Balanced.pushPending (h : s.Balanced r n) (request : UInt16 × UInt16) :
    (pushPending kind cycle request s).Balanced r (n + [(kind, cycle, request)].count r) := by
  intro hg
  rw [← h hg]
  have hcount : [(kind, cycle, request)].count r
      = if r.1 = kind ∧ r.2.1 = cycle then [request].count r.2.2 else 0 :=
    count_map_request kind cycle [request] r
  have hpending : ((RCanopus.pushPending kind cycle request s).pendingOf r.1 r.2.1).count r.2.2
      = (s.pendingOf r.1 r.2.1).count r.2.2 + [(kind, cycle, request)].count r := by
    unfold RCanopus.pushPending
    rw [pendingOf_setPending, hcount]
    split
    · next hr =>
      obtain ⟨rfl, rfl⟩ := hr
      exact List.count_append
    · rfl
  unfold tally
  rw [hpending]
  show (answeredOf s.history).count r + _ + s.juggledRequests.count r = _
  omega

/-- What was pending is answered. -/
theorem Balanced.answerPending (h : s.Balanced r n)
    (hrequests : s.mapRound3PendingRequests kind cycle = some requests) :
    ((answerRequests kind cycle m requests s).setPending kind cycle []).Balanced r n := by
  intro hg
  have hg : .guardFailed ∉ s.history := guardFailed_answerRequests.not.mp hg
  have hanswered : (answeredOf ((answerRequests kind cycle m requests s).setPending kind cycle
      []).history).count r = (answeredOf s.history).count r
        + if r.1 = kind ∧ r.2.1 = cycle then requests.count r.2.2 else 0 := by
    show (answeredOf (answerRequests kind cycle m requests s).history).count r = _
    rw [answeredOf_answerRequests, List.count_append, count_map_request]
  rw [← h hg]
  unfold tally
  rw [hanswered, pendingOf_setPending]
  show _ + _ + s.juggledRequests.count r = _
  split
  · next hr =>
    obtain ⟨hk, hc⟩ := hr
    have hold : s.pendingOf r.1 r.2.1 = requests := by
      unfold pendingOf
      rw [hk, hc, hrequests, Option.getD_some]
    rw [hold, List.count_nil]
    omega
  · rfl

end ConnManager

/-! ## Outcomes -/

namespace Outcome

/-- The accounts after a handler. An SL that has no envoy to ask stops with its accounts kept. -/
def Balances (r : Request) (n : Nat) : Outcome → Prop
  | .ok s => s.Balanced r n
  | .thrown .noEnvoySelected s => s.Balanced r n
  | .thrown _ _ => True

variable {r : Request} {n : Nat}

theorem Balances.andThen {o : Outcome} {k : ConnManager → Outcome} (ho : o.Balances r n)
    (hk : ∀ s, s.Balanced r n → (k s).Balances r n) : (o.andThen k).Balances r n := by
  cases o with
  | ok s => exact hk s ho
  | thrown ex s => exact ho

end Outcome

section Handlers

variable {env : Env} {ω : Choice} {r : Request} {n : Nat} {s : ConnManager} {cycle : UInt16}
  {status : CycleStatus} {e : QueueElement}

theorem debugThrow_balances {flag : Bool} {k : ConnManager → Outcome} (hs : s.Balanced r n)
    (hk : ∀ s, s.Balanced r n → (k s).Balances r n) :
    (debugThrow env flag s k).Balances r n := by
  unfold debugThrow
  split
  · exact hk s hs
  · split
    · trivial
    · exact hk _ (ConnManager.balanced_guardFailed r n s)

theorem debugThrowElseReturnVoid_balances {flag : Bool} {k : ConnManager → Outcome}
    (hs : s.Balanced r n) (hk : ∀ s, s.Balanced r n → (k s).Balances r n) :
    (debugThrowElseReturnVoid env flag s k).Balances r n := by
  unfold debugThrowElseReturnVoid
  split
  · exact hk s hs
  · split
    · trivial
    · exact ConnManager.balanced_guardFailed r n s

/-! ## Round 3 -/

theorem ifPrimaryEnvoy_balances {send : ConnManager → Outcome} (hs : s.Balanced r n)
    (hsend : (send s).Balances r n) : (ifPrimaryEnvoy env cycle s send).Balances r n := by
  unfold ifPrimaryEnvoy isPrimaryEnvoyRound3
  split
  · trivial
  · split
    · trivial
    · dsimp only
      split
      · exact hs
      · split
        · exact hsend
        · unfold isBackupEnvoyRound3
          split
          · trivial
          · split
            · trivial
            · dsimp only
              split
              · exact hs
              · exact hs

theorem round3Committed_balances (hs : s.Balanced r n) :
    (round3Committed cycle s).Balances r n := by
  unfold round3Committed
  split
  · trivial
  · split
    · trivial
    · exact ConnManager.Balanced.note (r := r) (n := n) hs rfl

theorem envoyRound3SendFetchRequest_balances (hs : s.Balanced r n) :
    (envoyRound3SendFetchRequest env ω cycle s).Balances r n := by
  unfold envoyRound3SendFetchRequest
  split
  · trivial
  · split
    · trivial
    · split
      · exact round3Committed_balances hs
      · dsimp only
        refine ifPrimaryEnvoy_balances hs ?_
        split
        · trivial
        · exact debugThrow_balances hs fun s' hs' => hs'

theorem envoyRound3SendGeneralFetch_balances {demanded : MessageType} (hs : s.Balanced r n) :
    (envoyRound3SendGeneralFetch demanded env ω cycle s).Balances r n := by
  unfold envoyRound3SendGeneralFetch
  split
  · trivial
  · exact debugThrow_balances hs fun s' hs' => ifPrimaryEnvoy_balances hs' hs'

theorem respondToPending_balances {kind : FetchKind} (hs : s.Balanced r n) :
    (respondToPending kind env cycle status s).Balances r n := by
  unfold respondToPending
  split
  · exact hs
  · next requests hrequests =>
    split
    · trivial
    · exact hs.answerPending hrequests

theorem round3RespondToPendingFetchRequests_balances (hs : s.Balanced r n) :
    (round3RespondToPendingFetchRequests env cycle s).Balances r n := by
  unfold round3RespondToPendingFetchRequests
  split
  · trivial
  · split
    · trivial
    · exact respondToPending_balances hs

theorem round3RespondToPendingFetchConnectivityRequests_balances (hs : s.Balanced r n) :
    (round3RespondToPendingFetchConnectivityRequests env cycle s).Balances r n := by
  unfold round3RespondToPendingFetchConnectivityRequests
  split
  · trivial
  · exact respondToPending_balances hs

theorem round3RespondToPendingFetchMembershipRequests_balances (hs : s.Balanced r n) :
    (round3RespondToPendingFetchMembershipRequests env cycle s).Balances r n := by
  unfold round3RespondToPendingFetchMembershipRequests
  split
  · trivial
  · exact respondToPending_balances hs

/-! ### Requests -/

theorem dispatcherRound3FetchRequest_balances {m : MessageRound3FetchRequest}
    (hs : s.Balanced r n) : (dispatcherRound3FetchRequest env m s).Balances r
      (n + [(FetchKind.result, m.cycle, (m.senderBGid, m.senderSLid))].count r) := by
  unfold dispatcherRound3FetchRequest
  dsimp only
  split
  · split
    · -- the request for an erased cycle is dropped, but its check fails
      unfold debugThrowElseReturnVoid
      rw [if_neg Bool.false_ne_true]
      split
      · trivial
      · exact ConnManager.balanced_guardFailed _ _ _
    · exact hs.pushPending _
  · split
    · trivial
    · exact hs.answer

theorem answerOrPush_balanced {kind : FetchKind} {m : MessageRound3GeneralFetch}
    (hs : s.Balanced r n) : (answerOrPush kind env m status s).Balanced r
      (n + [(kind, m.cycle, (m.senderBGid, m.senderSLid))].count r) := by
  unfold answerOrPush
  split
  · exact hs.pushPending _
  · exact hs.answer

theorem dispatcherRound3GeneralFetchRequest_balances {m : MessageRound3GeneralFetch}
    (he : e.pMessage = .round3GeneralFetch m) (hs : s.Balanced r n) :
    (dispatcherRound3GeneralFetchRequest env e m s).Balances r
      (n + e.pMessage.request.toList.count r) := by
  unfold dispatcherRound3GeneralFetchRequest
  split
  · next hc =>
    have hr : e.pMessage.request
        = some (.connectivity, m.cycle, (m.senderBGid, m.senderSLid)) := by
      rw [he]
      exact if_pos hc
    unfold dispatcherRound3FetchConnectivityRequest
    split
    · exact hs.juggle e
    · rw [hr]
      exact answerOrPush_balanced hs
  · next hc =>
    split
    · next hc' =>
      have hr : e.pMessage.request
          = some (.membership, m.cycle, (m.senderBGid, m.senderSLid)) := by
        rw [he]
        exact (if_neg hc).trans (if_pos hc')
      rw [hr]
      unfold dispatcherRound3FetchMembershipRequest
      dsimp only
      split
      · unfold debugThrow
        split
        · exact hs.answer
        · split
          · trivial
          · exact (ConnManager.balanced_guardFailed r n s).answer
      · exact answerOrPush_balanced hs
    · trivial

/-! ## The leader -/

theorem startRound2IfPossible_balances (hs : s.Balanced r n) :
    (startRound2IfPossible env ω s).Balances r n := by
  unfold startRound2IfPossible canStartRound2
  refine debugThrow_balances hs fun s₁ hs₁ => ?_
  dsimp only
  split
  · trivial
  split
  · unfold leaderRound2SendPreprepare canStartRound2
    refine debugThrow_balances hs₁ fun s₂ hs₂ => ?_
    refine debugThrow_balances hs₂ fun s₃ hs₃ => ?_
    split
    · trivial
    refine debugThrow_balances hs₃ fun s₄ hs₄ => ?_
    split
    · trivial
    · dsimp only
      split
      · refine debugThrow_balances (r := r) (n := n) hs₄ fun s₅ hs₅ => ?_
        exact ConnManager.Balanced.note (r := r) (n := n) hs₅ rfl
      · exact ConnManager.Balanced.note (r := r) (n := n) hs₄ rfl
  · exact hs₁

theorem spawnRound2_balances (hs : s.Balanced r n) : (spawnRound2 env ω s).Balances r n := by
  unfold spawnRound2
  split
  · exact startRound2IfPossible_balances hs
  · exact hs

theorem dispatcherRound2Request_balances {m : MessageRound2Request} (hs : s.Balanced r n) :
    (dispatcherRound2Request env ω e m s).Balances r n := by
  unfold dispatcherRound2Request
  split
  · exact debugThrow_balances hs fun s₁ hs₁ => hs₁
  · refine debugThrowElseReturnVoid_balances hs fun s₁ hs₁ => ?_
    refine startRound2IfPossible_balances ?_
    exact hs₁

/-! ### Responses -/

theorem dispatcherRound3FetchResponse_balances {m : MessageRound3FetchResponse}
    (hs : s.Balanced r n) : (dispatcherRound3FetchResponse env ω e m s).Balances r n := by
  unfold dispatcherRound3FetchResponse
  split
  · exact hs
  · exact startRound2IfPossible_balances hs

section Other

variable (he : e.pMessage.request = none)

include he

theorem dispatcherRound3FetchConnectivityResponse_balances {m : MessageRound3FetchResponse}
    (hs : s.Balanced r n) :
    (dispatcherRound3FetchConnectivityResponse env ω e m s).Balances r n := by
  unfold dispatcherRound3FetchConnectivityResponse
  split
  · exact hs
  · split
    · trivial
    · split
      · exact hs.juggle_other he
      · dsimp only
        refine startRound2IfPossible_balances ?_
        split
        · exact hs
        · exact hs

theorem dispatcherRound3FetchMembershipResponse_balances {m : MessageRound3FullMembership}
    (hs : s.Balanced r n) :
    (dispatcherRound3FetchMembershipResponse env ω e m s).Balances r n := by
  unfold dispatcherRound3FetchMembershipResponse
  split
  · exact hs
  · dsimp only
    split
    · trivial
    · split
      · exact hs.juggle_other he
      · refine debugThrowElseReturnVoid_balances hs fun s₁ hs₁ => ?_
        refine debugThrow_balances hs₁ fun s₂ hs₂ => ?_
        split
        · refine startRound2IfPossible_balances ?_
          exact hs₂
        · exact hs₂

/-! ## Round 2 -/

theorem dispatcherRound2Preprepare_balances {p : MessageRound2Preprepare} (hs : s.Balanced r n) :
    (dispatcherRound2Preprepare env e p s).Balances r n := by
  unfold dispatcherRound2Preprepare
  dsimp only
  split
  · exact ConnManager.Balanced.juggle_other (r := r) (n := n) hs he
  · refine debugThrow_balances (r := r) (n := n) hs fun s₁ hs₁ => ?_
    refine debugThrow_balances hs₁ fun s₂ hs₂ => ?_
    split
    · exact hs₂.juggle_other he
    · refine debugThrowElseReturnVoid_balances hs₂ fun s₃ hs₃ => ?_
      refine debugThrow_balances hs₃ fun s₄ hs₄ => ?_
      unfold acceptPreprepare
      dsimp only
      refine debugThrow_balances (r := r) (n := n) hs₄ fun s₅ hs₅ => ?_
      exact ConnManager.Balanced.note (r := r) (n := n) hs₅ rfl

theorem dispatcherRound2PartialCommit_balances {m : MessageRound2PartialCommit}
    (hs : s.Balanced r n) : (dispatcherRound2PartialCommit env e m s).Balances r n := by
  unfold dispatcherRound2PartialCommit
  split
  · exact hs.juggle_other he
  · next status hstatus =>
    split
    · exact hs.juggle_other he
    · split
      · exact hs.juggle_other he
      · refine debugThrowElseReturnVoid_balances hs fun s₁ hs₁ => ?_
        refine debugThrowElseReturnVoid_balances hs₁ fun s₂ hs₂ => ?_
        refine debugThrowElseReturnVoid_balances hs₂ fun s₃ hs₃ => ?_
        refine debugThrowElseReturnVoid_balances hs₃ fun s₄ hs₄ => ?_
        split
        · trivial
        · split
          · trivial
          · refine debugThrowElseReturnVoid_balances hs₄ fun s₅ hs₅ => ?_
            unfold countPartialCommit
            dsimp only
            have hcounted : (s₅.note (.counted (e.upPeers.head?.getD none) m status.round2View
                status.round2Sequence)).Balanced r n := hs₅.note rfl
            split
            · exact ConnManager.Balanced.note (r := r) (n := n) hcounted rfl
            · exact hcounted

end Other

/-! ### Commits -/

theorem skipCycles_balances {m : MessageRound2FullCommit} {p : MessageRound2Preprepare} {k : Nat}
    (hs : s.Balanced r n) : (skipCycles env ω m p status k cycle s).Balances r n := by
  induction k generalizing cycle s with
  | zero => exact hs
  | succ k ih =>
    unfold skipCycles
    refine debugThrow_balances hs fun s₁ hs₁ => ?_
    refine debugThrow_balances hs₁ fun s₂ hs₂ => ?_
    refine Outcome.Balances.andThen (r := r) (n := n) ?_ fun s₃ hs₃ => ?_
    · exact round3RespondToPendingFetchRequests_balances hs₂
    · exact (envoyRound3SendFetchRequest_balances hs₃).andThen fun s₄ hs₄ => ih hs₄

section Common

variable {common : ConnManager → Outcome} {m : MessageRound2FullCommit}
  {p : MessageRound2Preprepare}
  (hcommon : ∀ s, s.Balanced r n → (common s).Balances r n)

include hcommon

theorem fullCommitFromClient_balances (hs : s.Balanced r n) :
    (fullCommitFromClient env ω m p status s common).Balances r n := by
  unfold fullCommitFromClient
  refine (skipCycles_balances hs).andThen fun s₁ hs₁ => ?_
  dsimp only
  refine debugThrowElseReturnVoid_balances hs₁ fun s₂ hs₂ => ?_
  refine debugThrow_balances (r := r) (n := n) hs₂ fun s₃ hs₃ => ?_
  refine Outcome.Balances.andThen (r := r) (n := n) ?_ fun s₄ hs₄ => ?_
  · exact round3RespondToPendingFetchRequests_balances hs₃
  · exact (envoyRound3SendFetchRequest_balances hs₄).andThen hcommon

theorem fullCommitFetchedResult_balances (hs : s.Balanced r n) :
    (fullCommitFetchedResult env p s common).Balances r n := by
  unfold fullCommitFetchedResult
  dsimp only
  split
  · trivial
  · refine debugThrowElseReturnVoid_balances hs fun s₁ hs₁ => ?_
    refine debugThrow_balances (r := r) (n := n) hs₁ fun s₂ hs₂ => ?_
    split
    · refine hcommon _ ?_
      split
      · exact hs₂
      · exact hs₂
    · exact hcommon _ hs₂

theorem fullCommitLocalConnectivity_balances (hs : s.Balanced r n) :
    (fullCommitLocalConnectivity env ω m p s common).Balances r n := by
  unfold fullCommitLocalConnectivity
  dsimp only
  split
  · trivial
  · refine debugThrowElseReturnVoid_balances hs fun s₁ hs₁ => ?_
    refine Outcome.Balances.andThen (r := r) (n := n) ?_ fun s₂ hs₂ => ?_
    · exact round3RespondToPendingFetchConnectivityRequests_balances hs₁
    · exact (envoyRound3SendGeneralFetch_balances hs₂).andThen hcommon

theorem fullCommitRemoteConnectivity_balances (hs : s.Balanced r n) :
    (fullCommitRemoteConnectivity env p s common).Balances r n := by
  unfold fullCommitRemoteConnectivity
  refine debugThrow_balances hs fun s₁ hs₁ => ?_
  dsimp only
  split
  · trivial
  · refine debugThrowElseReturnVoid_balances hs₁ fun s₂ hs₂ => ?_
    refine debugThrow_balances (r := r) (n := n) hs₂ fun s₃ hs₃ => ?_
    refine debugThrow_balances hs₃ fun s₄ hs₄ => ?_
    exact hcommon _ hs₄

theorem fullCommitLocalMembership_balances (hs : s.Balanced r n) :
    (fullCommitLocalMembership env ω p s common).Balances r n := by
  unfold fullCommitLocalMembership
  dsimp only
  split
  · trivial
  · refine debugThrowElseReturnVoid_balances hs fun s₁ hs₁ => ?_
    refine Outcome.Balances.andThen (r := r) (n := n) ?_ fun s₂ hs₂ => ?_
    · exact round3RespondToPendingFetchMembershipRequests_balances hs₁
    · exact (envoyRound3SendGeneralFetch_balances hs₂).andThen hcommon

theorem fullCommitFullMembership_balances (hs : s.Balanced r n) :
    (fullCommitFullMembership env p s common).Balances r n := by
  unfold fullCommitFullMembership
  dsimp only
  split
  · trivial
  · refine debugThrow_balances (r := r) (n := n) hs fun s₁ hs₁ => ?_
    refine debugThrow_balances hs₁ fun s₂ hs₂ => ?_
    refine Outcome.Balances.andThen (r := r) (n := n) ?_ hcommon
    exact round3Committed_balances hs₂

theorem fullCommitBranch_balances (hs : s.Balanced r n) :
    (fullCommitBranch env ω m p status s common).Balances r n := by
  unfold fullCommitBranch
  split
  · exact fullCommitFromClient_balances hcommon hs
  · split
    · exact fullCommitFetchedResult_balances hcommon hs
    · split
      · exact fullCommitLocalConnectivity_balances hcommon hs
      · split
        · exact fullCommitRemoteConnectivity_balances hcommon hs
        · split
          · exact fullCommitLocalMembership_balances hcommon hs
          · split
            · exact fullCommitFullMembership_balances hcommon hs
            · trivial

end Common

theorem dispatcherRound2FullCommit_balances {m : MessageRound2FullCommit}
    (he : e.pMessage.request = none) (hs : s.Balanced r n) :
    (dispatcherRound2FullCommit env ω e m s).Balances r n := by
  unfold dispatcherRound2FullCommit
  split
  · exact hs.juggle_other he
  · split
    · exact hs.juggle_other he
    · refine debugThrowElseReturnVoid_balances hs fun s₁ hs₁ => ?_
      refine debugThrowElseReturnVoid_balances hs₁ fun s₂ hs₂ => ?_
      refine debugThrowElseReturnVoid_balances hs₂ fun s₃ hs₃ => ?_
      split
      · trivial
      · refine fullCommitBranch_balances (fun _ h => spawnRound2_balances h) ?_
        exact ConnManager.Balanced.note (r := r) (n := n) hs₃ rfl

/-- **Every dispatch keeps the accounts**, and adds the request that it takes. -/
theorem dispatcherRound2_balances (hs : s.Balanced r n) :
    (dispatcherRound2 env ω e s).Balances r (n + e.pMessage.request.toList.count r) := by
  unfold dispatcherRound2
  split
  · trivial
  · cases he : e.pMessage with
    | hello m => trivial
    | empty m => exact debugThrow_balances hs fun s₁ hs₁ => startRound2IfPossible_balances hs₁
    | round2Request m => exact dispatcherRound2Request_balances hs
    | round2Preprepare m => exact dispatcherRound2Preprepare_balances (by rw [he]; rfl) hs
    | round2PartialCommit m => exact dispatcherRound2PartialCommit_balances (by rw [he]; rfl) hs
    | round2FullCommit m => exact dispatcherRound2FullCommit_balances (by rw [he]; rfl) hs
    | round3FetchRequest m => exact dispatcherRound3FetchRequest_balances hs
    | round3FetchResponse m => exact dispatcherRound3FetchResponse_balances hs
    | round3GeneralFetch m =>
      have hgeneral : (dispatcherRound3GeneralFetchRequest env e m s).Balances r _ :=
        dispatcherRound3GeneralFetchRequest_balances he hs
      rwa [he] at hgeneral
    | round3ConnectivityResponse m =>
      exact dispatcherRound3FetchConnectivityResponse_balances (by rw [he]; rfl) hs
    | round3MembershipResponse m =>
      exact dispatcherRound3FetchMembershipResponse_balances (by rw [he]; rfl) hs

end Handlers

/-! ## Runs -/

variable {d : Deployment} {σ σ' : Cluster} {y : Peer} {e : QueueElement} {ω : Choice}
  {before : Node} {r : Request} {l : Label} {labels : List Label}

/-- The request that a step takes from the inbox of `y`. -/
def takenIn (y : Peer) (σ : Cluster) : Label → List Request
  | .receive x i _ =>
    if x = y then ((σ y).inbox[i]?.bind fun e => e.pMessage.request).toList else []
  | _ => []

/-- The requests that `y` has taken from its inbox in a run, and dispatched. -/
def requestsTaken (d : Deployment) (y : Peer) (σ : Cluster) : List Label → List Request
  | [] => []
  | l :: rest =>
    takenIn y σ l ++ match step d σ l with
      | none => []
      | some σ' => requestsTaken d y σ' rest

theorem takenIn_receive {x : Peer} {i : Nat} : takenIn y σ (.receive x i ω)
    = if x = y then ((σ y).inbox[i]?.bind fun e => e.pMessage.request).toList else [] := rfl

theorem requestsTaken_cons (hl : step d σ l = some σ') : requestsTaken d y σ (l :: labels)
    = takenIn y σ l ++ requestsTaken d y σ' labels := by
  unfold requestsTaken
  rw [hl]
  cases labels <;> rfl

/-- A dispatch adds the request that it takes to the accounts. -/
theorem Round3Ok.tally_dispatch (h : Round3Ok d σ) (h2 : Round2Ok d σ) (hfits : d.conf.Fits)
    (hs : Step d σ σ') (hd : Dispatch d σ σ' y e ω before) : (σ' y).sl.tally r
      = before.sl.tally r + e.pMessage.request.toList.count r := by
  have hends := (h.dispatch h2 hfits hs hd).ends
  have hbalances : (dispatcherRound2 (d.env y) ω e before.sl).Balances r _ :=
    dispatcherRound2_balances (before.sl.balanced_tally r)
  obtain ⟨token, hinv⟩ := (h.step h2 hfits hs).inv
  have hchecks : .guardFailed ∉ (σ' y).sl.history := (hinv.sl y).events .guardFailed
  have hsl : (σ' y).sl
      = { (dispatcherRound2 (d.env y) ω e before.sl).state with sendQueue := [] } := by
    rw [hd.result, install_sl_self]
  rw [hsl] at hchecks ⊢
  revert hends hbalances hchecks
  generalize dispatcherRound2 (d.env y) ω e before.sl = o
  intro hends hbalances hchecks
  cases hends with
  | returns s hs => exact hbalances hchecks
  | noEnvoy s c hc => exact hbalances hchecks

theorem tally_juggled {s s' : ConnManager} (hj : s.juggleQueue = e :: s'.juggleQueue)
    (hs : s' = { s with juggleQueue := s'.juggleQueue }) :
    s.tally r = s'.tally r + e.pMessage.request.toList.count r := by
  have hhistory : s'.history = s.history := by rw [hs]
  have hpending : s'.mapRound3PendingRequests = s.mapRound3PendingRequests := by rw [hs]
  unfold ConnManager.tally ConnManager.pendingOf ConnManager.juggledRequests
  rw [hhistory, hpending, hj, List.filterMap_cons]
  cases e.pMessage.request with
  | none => rfl
  | some q =>
    rw [Option.toList_some, List.count_cons, List.count_singleton]
    simp only [beq_iff_eq]
    omega

/-- **Every step keeps the accounts** of every SL. -/
theorem tally_step (hfits : d.conf.Fits) (hreach : Reachable d σ) (hl : step d σ l = some σ') :
    (σ' y).sl.tally r = (σ y).sl.tally r + (takenIn y σ l).count r := by
  have h := round3Ok_of_reachable hfits hreach
  have h2 := round2Ok_of_reachable hreach
  have hother : ∀ {x e ω before}, Dispatch d σ σ' x e ω before → y ≠ x →
      (σ' y).sl.tally r = (σ y).sl.tally r := fun hd hne => by
    rw [hd.result, install_sl_of_ne hne]
  have htick : Tick d σ σ' → (σ' y).sl.tally r = (σ y).sl.tally r := fun ht => by
    obtain ⟨k, hk⟩ := ht.sl_eq y
    rw [hk]
    rfl
  cases l with
  | receive x i ω =>
    obtain ⟨e, before, hd, hget, hbefore, -⟩ := receive_dispatch hl
    rw [takenIn_receive]
    by_cases hx : x = y
    · subst hx
      rw [h.tally_dispatch h2 hfits ⟨_, hl⟩ hd, hbefore, hget, if_pos rfl, Option.bind_some]
    · rw [if_neg hx]
      exact hother hd (Ne.symm hx)
  | retry x ω =>
    obtain ⟨e, before, hd, hj, -⟩ := retry_dispatch hl
    by_cases hy : y = x
    · subst hy
      rw [h.tally_dispatch h2 hfits ⟨_, hl⟩ hd, tally_juggled hj hd.sl_eq]
      rfl
    · exact hother hd hy
  | clientTick x content => exact htick (clientTick_tick hl)
  | leaderTick bg => exact htick (leaderTick_tick hl)
  | pipeReadable bg => exact htick (pipeReadable_tick hl)

theorem tally_run (hfits : d.conf.Fits) (hreach : Reachable d σ)
    (hrun : run d σ labels = some σ') :
    (σ' y).sl.tally r = (σ y).sl.tally r + (requestsTaken d y σ labels).count r := by
  induction labels generalizing σ with
  | nil =>
    cases hrun
    rfl
  | cons l labels ih =>
    obtain ⟨τ, hl, hrest⟩ := Option.bind_eq_some_iff.mp hrun
    rw [ih (hreach.step ⟨l, hl⟩) hrest, tally_step hfits hreach hl, Nat.add_assoc]
    rw [requestsTaken_cons hl, List.count_append]

/-- What an SL does with a request that it has taken. -/
structure Accounted (d : Deployment) (y : Peer) (taken : List Request) (s : ConnManager) :
    Prop where
  /-- It was answered, or it is pending, or it is juggled, and only one of these. -/
  partitioned : ∀ r, taken.count r = (answeredOf s.history).count r
    + (s.pendingOf r.1 r.2.1).count r.2.2 + s.juggledRequests.count r
  /-- The answer to a pending request is not ready. -/
  waiting : ∀ k c, s.pendingOf k c ≠ [] → c ∉ s.pStorage
    ∧ ∀ status, s.mapRound3Status c = some status → ownResponse (d.env y).conf k status = none
  /-- All answers of a kind for a cycle are the same. -/
  same : ∀ k c q q' m m', .answered k c q m ∈ s.history → .answered k c q' m' ∈ s.history → m = m'

/-- A request that waits is for a cycle that is open, and whose answer is not ready. -/
theorem SlOk.waiting {x : Exchange} {s : ConnManager} (h : SlOk d σ x y s)
    (hinv : x.Inv d.layout) (hy : d.Has y) {k : FetchKind} {c : UInt16}
    (hwait : s.pendingOf k c ≠ []) : c ∉ s.pStorage
      ∧ ∀ status, s.mapRound3Status c = some status →
        ownResponse (d.env y).conf k status = none := by
  obtain ⟨q, hq⟩ := List.exists_mem_of_ne_nil _ hwait
  have hmem : (q.1.toNat, q.2.toNat) ∈ requesters (s.mapRound3PendingRequests k c) :=
    List.mem_map_of_mem hq
  obtain ⟨htoken, -⟩ := ((h.pending k c).mem _).mp hmem
  have htrigger : k.trigger c ∉ x.committed y := (hinv.pending k _ y.1 c y.2 htoken).2
  obtain ⟨hb, hA, hne, -⟩ := (hinv.asked k _ y.1 c).mp (by rw [htoken]; simp)
  refine ⟨fun hc => htrigger ?_, fun status hget => ?_⟩
  · -- a closed cycle has gone through all triggers
    rw [h.storage, mem_closed] at hc
    unfold closer at hc
    rw [if_neg (by have : y.1 < d.conf.numBG := hA; have : _ < d.conf.numBG := hb; omega)] at hc
    have hmember := hinv.needs_committed hy.2 hc (.fullMembership c)
    have hconn := hinv.needs_committed hy.2 hmember (.localMembership c)
    cases k with
    | result => exact hinv.needs_committed hy.2 hconn (.localConnectivity c)
    | connectivity => exact hconn
    | membership => exact hmember
  · have hstatus := h.status c
    rw [hget] at hstatus
    exact StatusOk.missing hstatus k htrigger

/--
**Every request is answered once**, and the answer does not depend on the moment. The requests that
an SL has taken in a run are those that it answered, those that wait for their cycle and those that
it juggles; and it sends the same message to all who ask for one kind and one cycle.
-/
theorem requests_partitioned (hfits : d.conf.Fits) (hrun : run d init labels = some σ)
    (hy : d.Has y) : Accounted d y (requestsTaken d y init labels) (σ y).sl := by
  have hreach : Reachable d σ := reachable_of_run .refl hrun
  obtain ⟨token, h⟩ := (round3Ok_of_reachable hfits hreach).inv
  refine ⟨fun r => ?_, fun k c hwait => (h.sl y).waiting h.inv hy hwait,
    fun k c q q' m m' hm hm' => ?_⟩
  · have htally : (σ y).sl.tally r = (init y).sl.tally r + _ := tally_run hfits .refl hrun
    rw [show (init y).sl.tally r = 0 from rfl, Nat.zero_add] at htally
    exact htally.symm
  · obtain ⟨p, hp, hentry, rfl⟩ := (h.sl y).events _ hm
    obtain ⟨p', hp', hentry', rfl⟩ := (h.sl y).events _ hm'
    rw [h.committed_unique hreach hy hp hp' (hentry.trans hentry'.symm)]

/-- In the run above the single SL has finished a cycle, and it keeps its accounts. -/
theorem twoBGs_requests : ∃ σ, run twoBGs init overtakingLabels = some σ
    ∧ closedOf (σ (1, 0)).sl.history = [2]
    ∧ Accounted twoBGs (1, 0) (requestsTaken twoBGs (1, 0) init overtakingLabels)
      (σ (1, 0)).sl := by
  obtain ⟨σ, hrun, hclosed, -⟩ := run_overtaking
  exact ⟨σ, hrun, hclosed, requests_partitioned valid_twoBGs.fits hrun (by decide)⟩

end RCanopus
