import RCanopus.Round2
import Mathlib.Algebra.Order.Group.Multiset

/-!
# One iteration of the main loop

`start()` takes a message out of `recvQueue`, dispatches it, and then dispatches each element of
the juggle queue once. The handlers put elements back at the end of the queue that is being drained.

* `Treated`: what one call of the dispatcher can do with its element.
* `juggle_pass`: what an iteration does with the new message and with all juggled ones.
-/

namespace RCanopus

/-- The loop of `start()` over the juggle queue. `none` is a call of `front` on an empty queue. -/
def juggleLoop (env : Env) : Nat → (Nat → Choice) → ConnManager → Option Outcome
  | 0, _, s => some (.ok s)
  | n + 1, ω, s =>
    match s.juggleQueue with
    | [] => none
    | pJuggleElement :: rest =>
      match dispatcherRound2 env (ω 0) pJuggleElement { s with juggleQueue := rest } with
      | .ok s => juggleLoop env n (fun i => ω (i + 1)) s
      | .thrown ex s => some (.thrown ex s)

/-- An iteration of the loop of `start()` that got a message. `ω` has the choices of each call. -/
def startIteration (env : Env) (ω : Nat → Choice) (pElement : QueueElement) (s : ConnManager) :
    Option Outcome :=
  match dispatcherRound2 env (ω 0) pElement s with
  | .ok s => juggleLoop env s.juggleQueue.length (fun i => ω (i + 1)) s
  | .thrown ex s => some (.thrown ex s)

/-! ## One call of the dispatcher -/

/-- What can happen to an element that is dispatched. -/
inductive Fate where
  | putBack
  | forwarded
  | consumed
  deriving DecidableEq, Repr

/-- From `s₀` to `s` nothing was put back, and no message of type `t` was sent. -/
structure Uses (t : MessageType) (s₀ s : ConnManager) : Prop where
  juggleQueue : s.juggleQueue = s₀.juggleQueue
  sent : ∃ l, s.sendQueue = s₀.sendQueue ++ l ∧ ∀ e ∈ l, e.pMessage.msgType ≠ t

/--
What a handler did with `e` between `s₀` and `s`. A consumed message is gone: what is sent instead
is of another type.
-/
def Treated (e : QueueElement) (s₀ s : ConnManager) : Fate → Prop
  | .putBack => s.juggleQueue = s₀.juggleQueue ++ [e] ∧ s.sendQueue = s₀.sendQueue
  | .forwarded => s.juggleQueue = s₀.juggleQueue
    ∧ ∃ upPeers, s.sendQueue = s₀.sendQueue ++ [{ upPeers := upPeers, pMessage := e.pMessage }]
  | .consumed => Uses e.pMessage.msgType s₀ s

/-- The one thing that happened to `e`. -/
def Meets (e : QueueElement) (s₀ s : ConnManager) (fate : Fate) : Prop :=
  ∀ fate', Treated e s₀ s fate' ↔ fate' = fate

/-- The messages that an SL hands over to its leader. -/
def Message.isForLeader : Message → Bool
  | .round2Request _ => true
  | .round3FetchResponse _ => true
  | .round3ConnectivityResponse _ => true
  | .round3MembershipResponse _ => true
  | _ => false

/-- The SL is no leader, and the message is for the leader. -/
def HandsOver (env : Env) (m : Message) : Prop :=
  env.conf.isRound2Leader = false ∧ m.isForLeader = true

section

variable {env : Env} {ω : Choice} {t : MessageType} {s₀ s s' : ConnManager} {e : QueueElement}
  {cycle : UInt16} {status : CycleStatus}

theorem Treated.unique {f f' : Fate} (h : Treated e s₀ s f) (h' : Treated e s₀ s f') : f = f' := by
  have hback : ∀ {l : List QueueElement}, s.juggleQueue = s₀.juggleQueue ++ [e] →
      s.juggleQueue = s₀.juggleQueue → l = [] := fun h1 h2 => by
    have hlen := congrArg List.length (h1.symm.trans h2)
    rw [List.length_append, List.length_singleton] at hlen
    omega
  have hsent : (∃ upPeers, s.sendQueue = s₀.sendQueue
      ++ [{ upPeers := upPeers, pMessage := e.pMessage }]) →
      ¬ ∃ l, s.sendQueue = s₀.sendQueue ++ l
        ∧ ∀ q ∈ l, q.pMessage.msgType ≠ e.pMessage.msgType := by
    rintro ⟨upPeers, h1⟩ ⟨l, h2, hne⟩
    have hl := List.append_cancel_left (h1.symm.trans h2)
    exact hne { upPeers := upPeers, pMessage := e.pMessage }
      (hl ▸ List.mem_singleton_self _) rfl
  have hno : ∀ {P : Prop}, s.juggleQueue = s₀.juggleQueue ++ [e] →
      s.juggleQueue = s₀.juggleQueue → P := fun h1 h2 =>
    absurd (@hback [e] h1 h2) (by simp)
  cases f <;> cases f'
  · rfl
  · exact hno h.1 h'.1
  · exact hno h.1 h'.juggleQueue
  · exact hno h'.1 h.1
  · rfl
  · exact absurd h'.sent (hsent h.2)
  · exact hno h'.1 h.juggleQueue
  · exact absurd h.sent (hsent h'.2)
  · rfl

namespace Uses

theorem refl (s : ConnManager) : Uses t s s :=
  ⟨rfl, [], (List.append_nil _).symm, fun _ he => absurd he List.not_mem_nil⟩

theorem trans (h : Uses t s₀ s) (h' : Uses t s s') : Uses t s₀ s' := by
  obtain ⟨l, hl, hne⟩ := h.sent
  obtain ⟨l', hl', hne'⟩ := h'.sent
  refine ⟨h'.juggleQueue.trans h.juggleQueue, l ++ l', ?_, fun e he => ?_⟩
  · rw [hl', hl, List.append_assoc]
  · exact (List.mem_append.mp he).elim (hne e) (hne' e)

/-- Only the two queues matter. -/
theorem of_eq (h : Uses t s₀ s) (hjuggle : s'.juggleQueue = s.juggleQueue)
    (hsend : s'.sendQueue = s.sendQueue) : Uses t s₀ s' :=
  ⟨hjuggle.trans h.juggleQueue, hsend ▸ h.sent⟩

/-- One element is queued for sending. -/
theorem send (h : Uses t s₀ s) (hjuggle : s'.juggleQueue = s.juggleQueue)
    (hsend : s'.sendQueue = s.sendQueue ++ [e]) (he : e.pMessage.msgType ≠ t) : Uses t s₀ s' :=
  h.trans ⟨hjuggle, [e], hsend, fun e' he' => by rwa [List.mem_singleton.mp he']⟩

end Uses

/-- The handler does not put anything back, and nothing of type `t` is sent. -/
def Outcome.Uses (t : MessageType) (s₀ : ConnManager) : Outcome → Prop
  | .ok s => RCanopus.Uses t s₀ s
  | .thrown _ _ => True

/-- How a handler that ends has treated its element. Only what is for the leader is forwarded. -/
def Outcome.Treats (env : Env) (e : QueueElement) (s₀ : ConnManager) : Outcome → Prop
  | .ok s => ∃ fate, Treated e s₀ s fate ∧ (fate = .forwarded ↔ HandsOver env e.pMessage)
  | .thrown _ _ => True

theorem Outcome.Uses.andThen {o : Outcome} {k : ConnManager → Outcome} (ho : o.Uses t s₀)
    (hk : ∀ s, RCanopus.Uses t s₀ s → (k s).Uses t s₀) : (o.andThen k).Uses t s₀ := by
  cases o with
  | ok s => exact hk s ho
  | thrown ex s => trivial

theorem Outcome.Uses.treats {o : Outcome} (h : o.Uses e.pMessage.msgType s₀)
    (hkeep : ¬ HandsOver env e.pMessage) :
    o.Treats env e s₀ := by
  cases o with
  | ok s => exact ⟨.consumed, h, iff_of_false (by simp) hkeep⟩
  | thrown ex s => trivial

/-- An element is put back. -/
theorem treats_juggle (hjuggle : s.juggleQueue = s₀.juggleQueue)
    (hsend : s.sendQueue = s₀.sendQueue) (hkeep : ¬ HandsOver env e.pMessage) :
    (Outcome.ok (s.juggle e)).Treats env e s₀ := by
  refine ⟨.putBack, ⟨?_, hsend⟩, iff_of_false (by simp) hkeep⟩
  rw [← hjuggle]
  rfl

theorem uses_debugThrow {flag : Bool} {k : ConnManager → Outcome} (hs : Uses t s₀ s)
    (hk : ∀ s, Uses t s₀ s → (k s).Uses t s₀) : (debugThrow env flag s k).Uses t s₀ := by
  unfold debugThrow
  split
  · exact hk s hs
  · split
    · trivial
    · exact hk _ (hs.of_eq rfl rfl)

theorem uses_debugThrowElseReturnVoid {flag : Bool} {k : ConnManager → Outcome}
    (hs : Uses t s₀ s) (hk : (k s).Uses t s₀) :
    (debugThrowElseReturnVoid env flag s k).Uses t s₀ := by
  unfold debugThrowElseReturnVoid
  split
  · exact hk
  · split
    · trivial
    · exact hs.of_eq rfl rfl

/-! ### Starting a round -/

theorem uses_sendPreprepare {p : MessageRound2Preprepare} (hs : Uses t s₀ s)
    (ht : t ≠ .round2Preprepare) : (sendPreprepare env p s).Uses t s₀ :=
  Uses.send hs rfl rfl ht.symm

theorem uses_startRound2IfPossible (hs : Uses t s₀ s) (ht : t ≠ .round2Preprepare) :
    (startRound2IfPossible env ω s).Uses t s₀ := by
  unfold startRound2IfPossible canStartRound2
  refine uses_debugThrow hs fun s₁ hs₁ => ?_
  dsimp only
  split
  · trivial
  split
  · unfold leaderRound2SendPreprepare canStartRound2
    refine uses_debugThrow hs₁ fun s₂ hs₂ => ?_
    refine uses_debugThrow hs₂ fun s₃ hs₃ => ?_
    split
    · trivial
    refine uses_debugThrow hs₃ fun s₄ hs₄ => ?_
    split
    · trivial
    · dsimp only
      split
      · refine uses_debugThrow (hs₄.of_eq rfl rfl) fun s₅ hs₅ => ?_
        exact uses_sendPreprepare (hs₅.of_eq rfl rfl) ht
      · exact uses_sendPreprepare (hs₄.of_eq rfl rfl) ht
  · exact hs₁

/-! ### Round 3 -/

theorem uses_answerRequests {kind : FetchKind} {m : Message} {requests : List (UInt16 × UInt16)}
    (hs : Uses t s₀ s) (hm : m.msgType ≠ t) : Uses t s₀ (answerRequests kind cycle m requests s) :=
  hs.send rfl rfl hm

theorem uses_pushPending {kind : FetchKind} {request : UInt16 × UInt16} (hs : Uses t s₀ s) :
    Uses t s₀ (pushPending kind cycle request s) := hs.of_eq rfl rfl

theorem uses_round3Committed (hs : Uses t s₀ s) : (round3Committed cycle s).Uses t s₀ := by
  unfold round3Committed
  split
  · trivial
  · split
    · trivial
    · exact hs.of_eq rfl rfl

theorem uses_ifPrimaryEnvoy {send : ConnManager → Outcome} (hs : Uses t s₀ s)
    (hsend : (send s).Uses t s₀) : (ifPrimaryEnvoy env cycle s send).Uses t s₀ := by
  unfold ifPrimaryEnvoy isPrimaryEnvoyRound3
  split
  · trivial
  · split
    · trivial
    · dsimp only
      split
      · trivial
      · split
        · exact hsend
        · unfold isBackupEnvoyRound3
          split
          · trivial
          · split
            · trivial
            · dsimp only
              split
              · trivial
              · exact hs

/-- An own answer is a response. -/
theorem msgType_ownResponse {conf : Config} {kind : FetchKind} {m : Message}
    (h : ownResponse conf kind status = some m) : m.copy.msgType = .round3FetchResponse
      ∨ m.copy.msgType = .round3ConnectivityResponse
      ∨ m.copy.msgType = .round3MembershipResponse := by
  cases kind <;> obtain ⟨r, -, rfl⟩ := Option.map_eq_some_iff.mp h
  · exact Or.inl rfl
  · exact Or.inr (Or.inl rfl)
  · exact Or.inr (Or.inr rfl)

/-! ### What a commit does -/

/-- What a commit sends is of any type but that of the full commit. -/
abbrev Outcome.Commits : ConnManager → Outcome → Prop := Outcome.Uses .round2FullCommit

theorem commits_envoyRound3SendFetchRequest (hs : Uses .round2FullCommit s₀ s) :
    (envoyRound3SendFetchRequest env ω cycle s).Commits s₀ := by
  unfold envoyRound3SendFetchRequest
  split
  · trivial
  · split
    · trivial
    · split
      · exact uses_round3Committed (hs.of_eq rfl rfl)
      · dsimp only
        refine uses_ifPrimaryEnvoy (hs.of_eq rfl rfl) ?_
        split
        · trivial
        · refine uses_debugThrow (hs.of_eq rfl rfl) fun s₁ hs₁ => ?_
          exact Uses.send hs₁ rfl rfl (by simp [Message.msgType])

theorem commits_envoyRound3SendGeneralFetch {demanded : MessageType}
    (hs : Uses .round2FullCommit s₀ s) :
    (envoyRound3SendGeneralFetch demanded env ω cycle s).Commits s₀ := by
  unfold envoyRound3SendGeneralFetch
  split
  · trivial
  · refine uses_debugThrow hs fun s₁ hs₁ => ?_
    exact uses_ifPrimaryEnvoy hs₁ (Uses.send hs₁ rfl rfl (by simp [Message.msgType]))

theorem commits_respondToPending {kind : FetchKind} (hs : Uses .round2FullCommit s₀ s) :
    (respondToPending kind env cycle status s).Commits s₀ := by
  unfold respondToPending
  split
  · exact hs
  · split
    · trivial
    · next response hresponse =>
      refine hs.send rfl rfl ?_
      rcases msgType_ownResponse hresponse with h | h | h <;> simp [h]

theorem commits_round3RespondToPendingFetchRequests (hs : Uses .round2FullCommit s₀ s) :
    (round3RespondToPendingFetchRequests env cycle s).Commits s₀ := by
  unfold round3RespondToPendingFetchRequests
  split
  · trivial
  · split
    · trivial
    · exact commits_respondToPending hs

theorem commits_skipCycles {pFullC : MessageRound2FullCommit}
    {pPreprepare : MessageRound2Preprepare} {n : Nat} (hs : Uses .round2FullCommit s₀ s) :
    (skipCycles env ω pFullC pPreprepare status n cycle s).Commits s₀ := by
  induction n generalizing cycle s with
  | zero => exact hs
  | succ n ih =>
    unfold skipCycles
    refine uses_debugThrow hs fun s₁ hs₁ => ?_
    refine uses_debugThrow hs₁ fun s₂ hs₂ => ?_
    refine Outcome.Uses.andThen ?_ fun s₃ hs₃ => ?_
    · exact commits_round3RespondToPendingFetchRequests (hs₂.of_eq rfl rfl)
    · exact (commits_envoyRound3SendFetchRequest hs₃).andThen fun s₄ hs₄ => ih hs₄

section Branches

variable {common : ConnManager → Outcome} {pFullC : MessageRound2FullCommit}
  {pPreprepare : MessageRound2Preprepare} (hs : Uses .round2FullCommit s₀ s)
  (hcommon : ∀ s, Uses .round2FullCommit s₀ s → (common s).Commits s₀)

include hs hcommon

theorem commits_fullCommitFromClient :
    (fullCommitFromClient env ω pFullC pPreprepare status s common).Commits s₀ := by
  unfold fullCommitFromClient
  refine (commits_skipCycles hs).andThen fun s₁ hs₁ => ?_
  refine uses_debugThrowElseReturnVoid hs₁ ?_
  refine uses_debugThrow (hs₁.of_eq rfl rfl) fun s₂ hs₂ => ?_
  refine Outcome.Uses.andThen ?_ fun s₃ hs₃ => ?_
  · exact commits_round3RespondToPendingFetchRequests (hs₂.of_eq rfl rfl)
  · exact (commits_envoyRound3SendFetchRequest hs₃).andThen hcommon

theorem commits_fullCommitFetchedResult :
    (fullCommitFetchedResult env pPreprepare s common).Commits s₀ := by
  unfold fullCommitFetchedResult
  dsimp only
  split
  · trivial
  · refine uses_debugThrowElseReturnVoid hs ?_
    refine uses_debugThrow (hs.of_eq rfl rfl) fun s₁ hs₁ => ?_
    split
    · refine hcommon _ ?_
      split
      · exact hs₁.of_eq rfl rfl
      · exact hs₁.of_eq rfl rfl
    · exact hcommon _ (hs₁.of_eq rfl rfl)

theorem commits_fullCommitLocalConnectivity :
    (fullCommitLocalConnectivity env ω pFullC pPreprepare s common).Commits s₀ := by
  unfold fullCommitLocalConnectivity round3RespondToPendingFetchConnectivityRequests
  dsimp only
  split
  · trivial
  · refine uses_debugThrowElseReturnVoid hs (Outcome.Uses.andThen ?_ fun s₁ hs₁ => ?_)
    · split
      · trivial
      · exact commits_respondToPending (hs.of_eq rfl rfl)
    · exact (commits_envoyRound3SendGeneralFetch hs₁).andThen hcommon

theorem commits_fullCommitRemoteConnectivity :
    (fullCommitRemoteConnectivity env pPreprepare s common).Commits s₀ := by
  unfold fullCommitRemoteConnectivity
  refine uses_debugThrow hs fun s₁ hs₁ => ?_
  dsimp only
  split
  · trivial
  · refine uses_debugThrowElseReturnVoid hs₁ ?_
    refine uses_debugThrow (hs₁.of_eq rfl rfl) fun s₂ hs₂ => ?_
    refine uses_debugThrow hs₂ fun s₃ hs₃ => ?_
    exact hcommon _ (hs₃.of_eq rfl rfl)

theorem commits_fullCommitLocalMembership :
    (fullCommitLocalMembership env ω pPreprepare s common).Commits s₀ := by
  unfold fullCommitLocalMembership round3RespondToPendingFetchMembershipRequests
  dsimp only
  split
  · trivial
  · refine uses_debugThrowElseReturnVoid hs (Outcome.Uses.andThen ?_ fun s₁ hs₁ => ?_)
    · split
      · trivial
      · exact commits_respondToPending (hs.of_eq rfl rfl)
    · exact (commits_envoyRound3SendGeneralFetch hs₁).andThen hcommon

theorem commits_fullCommitFullMembership :
    (fullCommitFullMembership env pPreprepare s common).Commits s₀ := by
  unfold fullCommitFullMembership
  dsimp only
  split
  · trivial
  · refine uses_debugThrow (hs.of_eq rfl rfl) fun s₁ hs₁ => ?_
    refine uses_debugThrow hs₁ fun s₂ hs₂ => ?_
    exact (uses_round3Committed (s := clearRound2 s₂) (hs₂.of_eq rfl rfl)).andThen hcommon

theorem commits_fullCommitBranch :
    (fullCommitBranch env ω pFullC pPreprepare status s common).Commits s₀ := by
  unfold fullCommitBranch
  split
  · exact commits_fullCommitFromClient hs hcommon
  · split
    · exact commits_fullCommitFetchedResult hs hcommon
    · split
      · exact commits_fullCommitLocalConnectivity hs hcommon
      · split
        · exact commits_fullCommitRemoteConnectivity hs hcommon
        · split
          · exact commits_fullCommitLocalMembership hs hcommon
          · split
            · exact commits_fullCommitFullMembership hs hcommon
            · trivial

end Branches

/-! ### The dispatcher -/

/-- A message that is for the leader goes on to some SL. -/
theorem treats_forwarded (hleader : env.conf.isRound2Leader = false)
    (hfor : e.pMessage.isForLeader = true) {upPeers : List (Option Peer)}
    (hjuggle : s.juggleQueue = s₀.juggleQueue)
    (hsend : s.sendQueue
      = s₀.sendQueue ++ [{ upPeers := upPeers, pMessage := e.pMessage }]) :
    (Outcome.ok s).Treats env e s₀ :=
  ⟨.forwarded, ⟨hjuggle, upPeers, hsend⟩, iff_of_true rfl ⟨hleader, hfor⟩⟩

theorem treats_debugThrow {flag : Bool} {k : ConnManager → Outcome}
    (hjuggle : s.juggleQueue = s₀.juggleQueue) (hsend : s.sendQueue = s₀.sendQueue)
    (hk : ∀ s : ConnManager, s.juggleQueue = s₀.juggleQueue → s.sendQueue = s₀.sendQueue →
      (k s).Treats env e s₀) : (debugThrow env flag s k).Treats env e s₀ := by
  unfold debugThrow
  split
  · exact hk s hjuggle hsend
  · split
    · trivial
    · exact hk _ hjuggle hsend

/-- A failed check drops the element. -/
theorem treats_debugThrowElseReturnVoid {flag : Bool} {k : ConnManager → Outcome}
    (hjuggle : s.juggleQueue = s₀.juggleQueue) (hsend : s.sendQueue = s₀.sendQueue)
    (hkeep : ¬ HandsOver env e.pMessage)
    (hk : (k s).Treats env e s₀) : (debugThrowElseReturnVoid env flag s k).Treats env e s₀ := by
  unfold debugThrowElseReturnVoid
  split
  · exact hk
  · split
    · trivial
    · exact Outcome.Uses.treats (o := .ok _) ((Uses.refl s₀).of_eq hjuggle hsend) hkeep

theorem treats_round2Request {m : MessageRound2Request} (he : e.pMessage = .round2Request m) :
    (dispatcherRound2Request env ω e m s).Treats env e s := by
  unfold dispatcherRound2Request
  cases hleader : env.conf.isRound2Leader with
  | false =>
    rw [if_pos (by rfl)]
    refine treats_debugThrow rfl rfl fun s₁ hjuggle hsend => ?_
    refine @treats_forwarded _ _ _ _ hleader (by rw [he]; rfl) e.upPeers hjuggle ?_
    rw [← hsend]
    rfl
  | true =>
    have hkeep : ¬ HandsOver env e.pMessage := by
      simp [HandsOver, hleader]
    rw [if_neg (by simp)]
    refine treats_debugThrowElseReturnVoid rfl rfl hkeep (Outcome.Uses.treats ?_ hkeep)
    rw [he]
    exact uses_startRound2IfPossible ((Uses.refl s).of_eq rfl rfl) (by simp [Message.msgType])

theorem treats_round2Preprepare {m : MessageRound2Preprepare}
    (he : e.pMessage = .round2Preprepare m) :
    (dispatcherRound2Preprepare env e m s).Treats env e s := by
  have hkeep : ¬ HandsOver env e.pMessage := by
    simp [HandsOver, he, Message.isForLeader]
  have hsent : Message.msgType (.round2PartialCommit (partialCommitMessage env.conf.sLid 0 0))
      ≠ e.pMessage.msgType := by
    rw [he]
    simp [Message.msgType]
  unfold dispatcherRound2Preprepare
  dsimp only
  split
  · exact treats_juggle rfl rfl hkeep
  · refine treats_debugThrow rfl rfl fun s₁ hj₁ hs₁ => ?_
    refine treats_debugThrow hj₁ hs₁ fun s₂ hj₂ hs₂ => ?_
    split
    · exact treats_juggle hj₂ hs₂ hkeep
    · refine treats_debugThrowElseReturnVoid hj₂ hs₂ hkeep ?_
      refine treats_debugThrow hj₂ hs₂ fun s₃ hj₃ hs₃ => Outcome.Uses.treats ?_ hkeep
      unfold acceptPreprepare
      dsimp only
      refine uses_debugThrow (Uses.send ((Uses.refl s).of_eq hj₃ hs₃) rfl rfl hsent)
        fun s₄ hs₄ => ?_
      exact hs₄.of_eq rfl rfl

theorem treats_round2PartialCommit {m : MessageRound2PartialCommit}
    (he : e.pMessage = .round2PartialCommit m) :
    (dispatcherRound2PartialCommit env e m s).Treats env e s := by
  have hkeep : ¬ HandsOver env e.pMessage := by
    simp [HandsOver, he, Message.isForLeader]
  unfold dispatcherRound2PartialCommit
  split
  · exact treats_juggle rfl rfl hkeep
  · split
    · exact treats_juggle rfl rfl hkeep
    · split
      · exact treats_juggle rfl rfl hkeep
      · refine Outcome.Uses.treats ?_ hkeep
        refine uses_debugThrowElseReturnVoid (.refl s) ?_
        refine uses_debugThrowElseReturnVoid (.refl s) ?_
        refine uses_debugThrowElseReturnVoid (.refl s) ?_
        refine uses_debugThrowElseReturnVoid (.refl s) ?_
        split
        · trivial
        · split
          · trivial
          · refine uses_debugThrowElseReturnVoid (.refl s) ?_
            unfold countPartialCommit
            dsimp only
            split
            · exact (Uses.refl s).send rfl rfl (by rw [he]; simp [Message.msgType])
            · exact (Uses.refl s).of_eq rfl rfl

theorem treats_round2FullCommit {m : MessageRound2FullCommit}
    (he : e.pMessage = .round2FullCommit m) :
    (dispatcherRound2FullCommit env ω e m s).Treats env e s := by
  have hkeep : ¬ HandsOver env e.pMessage := by
    simp [HandsOver, he, Message.isForLeader]
  have htype : e.pMessage.msgType = .round2FullCommit := by
    rw [he]
    rfl
  unfold dispatcherRound2FullCommit
  split
  · exact treats_juggle rfl rfl hkeep
  · split
    · exact treats_juggle rfl rfl hkeep
    · refine Outcome.Uses.treats ?_ hkeep
      rw [htype]
      refine uses_debugThrowElseReturnVoid (.refl s) ?_
      refine uses_debugThrowElseReturnVoid (.refl s) ?_
      refine uses_debugThrowElseReturnVoid (.refl s) ?_
      split
      · trivial
      · refine commits_fullCommitBranch ((Uses.refl s).of_eq rfl rfl) fun s₁ hs₁ => ?_
        unfold spawnRound2
        split
        · exact uses_startRound2IfPossible hs₁ (by simp)
        · exact hs₁

theorem treats_round3FetchRequest {m : MessageRound3FetchRequest}
    (he : e.pMessage = .round3FetchRequest m) :
    (dispatcherRound3FetchRequest env m s).Treats env e s := by
  have hkeep : ¬ HandsOver env e.pMessage := by
    simp [HandsOver, he, Message.isForLeader]
  have htype : e.pMessage.msgType = .round3FetchRequest := by
    rw [he]
    rfl
  refine Outcome.Uses.treats ?_ hkeep
  rw [htype]
  unfold dispatcherRound3FetchRequest
  dsimp only
  split
  · split
    · exact uses_debugThrowElseReturnVoid (.refl s) (Uses.refl s)
    · exact uses_pushPending (.refl s)
  · split
    · trivial
    · next response hresponse =>
      refine uses_answerRequests (.refl s) ?_
      rcases msgType_ownResponse hresponse with h | h | h <;> simp [h]

theorem uses_answerOrPush {kind : FetchKind} {m : MessageRound3GeneralFetch} :
    Uses .round3GeneralFetch s (answerOrPush kind env m status s) := by
  unfold answerOrPush
  split
  · exact uses_pushPending (.refl s)
  · next response hresponse =>
    refine uses_answerRequests (.refl s) ?_
    rcases msgType_ownResponse hresponse with h | h | h <;> simp [h]

theorem treats_round3GeneralFetch {m : MessageRound3GeneralFetch}
    (he : e.pMessage = .round3GeneralFetch m) :
    (dispatcherRound3GeneralFetchRequest env e m s).Treats env e s := by
  have hkeep : ¬ HandsOver env e.pMessage := by
    simp [HandsOver, he, Message.isForLeader]
  have htype : e.pMessage.msgType = .round3GeneralFetch := by
    rw [he]
    rfl
  unfold dispatcherRound3GeneralFetchRequest
  split
  · unfold dispatcherRound3FetchConnectivityRequest
    split
    · exact treats_juggle rfl rfl hkeep
    · refine Outcome.Uses.treats (o := .ok _) ?_ hkeep
      rw [htype]
      exact uses_answerOrPush
  · refine Outcome.Uses.treats ?_ hkeep
    rw [htype]
    split
    · unfold dispatcherRound3FetchMembershipRequest
      dsimp only
      split
      · refine uses_debugThrow (.refl s) fun s₁ hs₁ => ?_
        exact uses_answerRequests hs₁ (by simp [Message.msgType])
      · exact uses_answerOrPush
    · trivial

theorem treats_forwardToLeader (hleader : ¬ env.conf.isRound2Leader = true)
    (hfor : e.pMessage.isForLeader = true) : (forwardToLeader env e s).Treats env e s :=
  treats_forwarded (Bool.eq_false_iff.mpr hleader) hfor rfl rfl

theorem treats_round3FetchResponse {m : MessageRound3FetchResponse}
    (he : e.pMessage = .round3FetchResponse m) :
    (dispatcherRound3FetchResponse env ω e m s).Treats env e s := by
  unfold dispatcherRound3FetchResponse
  by_cases hleader : env.conf.isRound2Leader = true
  · rw [if_neg (by simp [hleader])]
    refine Outcome.Uses.treats ?_ (by simp [HandsOver, hleader])
    rw [he]
    exact uses_startRound2IfPossible ((Uses.refl s).of_eq rfl rfl) (by simp [Message.msgType])
  · rw [if_pos (by simp [hleader])]
    exact treats_forwardToLeader hleader (by rw [he]; rfl)

theorem treats_round3ConnectivityResponse {m : MessageRound3FetchResponse}
    (he : e.pMessage = .round3ConnectivityResponse m) :
    (dispatcherRound3FetchConnectivityResponse env ω e m s).Treats env e s := by
  unfold dispatcherRound3FetchConnectivityResponse
  by_cases hleader : env.conf.isRound2Leader = true
  · have hkeep : ¬ HandsOver env e.pMessage := by simp [HandsOver, hleader]
    rw [if_neg (by simp [hleader])]
    split
    · trivial
    · split
      · exact treats_juggle rfl rfl hkeep
      · refine Outcome.Uses.treats ?_ hkeep
        rw [he]
        refine uses_startRound2IfPossible ?_ (by simp [Message.msgType])
        dsimp only
        split
        · exact (Uses.refl s).of_eq rfl rfl
        · exact (Uses.refl s).of_eq rfl rfl
  · rw [if_pos (by simp [hleader])]
    exact treats_forwardToLeader hleader (by rw [he]; rfl)

theorem treats_round3MembershipResponse {m : MessageRound3FullMembership}
    (he : e.pMessage = .round3MembershipResponse m) :
    (dispatcherRound3FetchMembershipResponse env ω e m s).Treats env e s := by
  unfold dispatcherRound3FetchMembershipResponse
  by_cases hleader : env.conf.isRound2Leader = true
  · have hkeep : ¬ HandsOver env e.pMessage := by simp [HandsOver, hleader]
    rw [if_neg (by simp [hleader])]
    dsimp only
    split
    · trivial
    · split
      · exact treats_juggle rfl rfl hkeep
      · refine Outcome.Uses.treats ?_ hkeep
        rw [he]
        refine uses_debugThrowElseReturnVoid (.refl s) ?_
        refine uses_debugThrow (.refl s) fun s₁ hs₁ => ?_
        split
        · exact uses_startRound2IfPossible (hs₁.of_eq rfl rfl) (by simp [Message.msgType])
        · exact hs₁.of_eq rfl rfl
  · rw [if_pos (by simp [hleader])]
    exact treats_forwardToLeader hleader (by rw [he]; rfl)

/-- **Every message meets one fate**: it is put back, forwarded or consumed. -/
theorem dispatcherRound2_treats : (dispatcherRound2 env ω e s).Treats env e s := by
  unfold dispatcherRound2
  split
  · trivial
  · cases hm : e.pMessage with
    | hello m => trivial
    | empty m =>
      have hkeep : ¬ HandsOver env e.pMessage := by
        simp [HandsOver, hm, Message.isForLeader]
      have htype : e.pMessage.msgType = .empty := by
        rw [hm]
        rfl
      refine Outcome.Uses.treats (uses_debugThrow (.refl s) fun s₁ hs₁ => ?_) hkeep
      exact uses_startRound2IfPossible hs₁ (by simp [htype])
    | round2Request m => exact treats_round2Request hm
    | round2Preprepare m => exact treats_round2Preprepare hm
    | round2PartialCommit m => exact treats_round2PartialCommit hm
    | round2FullCommit m => exact treats_round2FullCommit hm
    | round3FetchRequest m => exact treats_round3FetchRequest hm
    | round3FetchResponse m => exact treats_round3FetchResponse hm
    | round3GeneralFetch m => exact treats_round3GeneralFetch hm
    | round3ConnectivityResponse m => exact treats_round3ConnectivityResponse hm
    | round3MembershipResponse m => exact treats_round3MembershipResponse hm

/-! ## The pass -/

/-- Calls of the dispatcher on the front of the queue: what was dispatched and what it came to. -/
inductive Drains (env : Env) :
    ConnManager → List (QueueElement × Fate) → ConnManager → Prop where
  | done {s : ConnManager} : Drains env s [] s
  | front {s s₁ s' : ConnManager} {e : QueueElement} {rest : List QueueElement} {ω : Choice}
      {fate : Fate} {log : List (QueueElement × Fate)} :
    s.juggleQueue = e :: rest →
    dispatcherRound2 env ω e { s with juggleQueue := rest } = .ok s₁ →
    Meets e { s with juggleQueue := rest } s₁ fate →
    Drains env s₁ log s' →
    Drains env s ((e, fate) :: log) s'

/-- The elements of a log that were put back. -/
def putBacks (log : List (QueueElement × Fate)) : List QueueElement :=
  (log.filter fun entry => entry.2 = .putBack).map Prod.fst

theorem putBacks_sublist (log : List (QueueElement × Fate)) :
    (putBacks log).Sublist (log.map Prod.fst) := List.filter_sublist.map _

/-- What a call does to the queue. -/
theorem Treated.juggleQueue {fate : Fate} (h : Treated e s₀ s fate) :
    s.juggleQueue = s₀.juggleQueue ++ putBacks [(e, fate)] := by
  cases fate with
  | putBack => exact h.1
  | forwarded => exact h.1.trans (List.append_nil _).symm
  | consumed => exact Uses.juggleQueue h |>.trans (List.append_nil _).symm

theorem exists_treated (h : dispatcherRound2 env ω e s = .ok s') :
    ∃ fate, Treated e s s' fate ∧ Meets e s s' fate := by
  have htreats : (dispatcherRound2 env ω e s).Treats env e s := dispatcherRound2_treats
  rw [h] at htreats
  obtain ⟨fate, hfate, -⟩ := htreats
  exact ⟨fate, hfate, fun fate' => ⟨fun h' => h'.unique hfate, fun heq => heq ▸ hfate⟩⟩

/--
The loop has `l` ahead of it and has put back `back`. It takes one element of `l` after the other,
and `back` grows at its end.
-/
theorem juggleLoop_drains {l back : List QueueElement} {ω : Nat → Choice}
    (hqueue : s.juggleQueue = l ++ back) :
    (∃ o, juggleLoop env l.length ω s = some o)
      ∧ ∀ s', juggleLoop env l.length ω s = some (.ok s') →
        ∃ log, Drains env s log s' ∧ log.map Prod.fst = l
          ∧ s'.juggleQueue = back ++ putBacks log := by
  -- `l` is still to be tried, `back` was put back in this pass
  induction l generalizing s back ω with
  | nil =>
    refine ⟨⟨_, rfl⟩, fun s' hs' => ⟨[], ?_, rfl, ?_⟩⟩
    · rw [Outcome.ok.inj (Option.some.inj hs')]
      exact .done
    · rw [← Outcome.ok.inj (Option.some.inj hs'), hqueue]
      exact (List.append_nil _).symm
  | cons e l ih =>
    rw [List.cons_append] at hqueue
    rw [List.length_cons]
    unfold juggleLoop
    rw [hqueue]
    dsimp only
    cases ho : dispatcherRound2 env (ω 0) e { s with juggleQueue := l ++ back } with
    | thrown ex s₁ => exact ⟨⟨_, rfl⟩, fun s' hs' => absurd hs' (by simp)⟩
    | ok s₁ =>
      obtain ⟨fate, hfate, hmeets⟩ := exists_treated ho
      have hqueue₁ : s₁.juggleQueue = l ++ (back ++ putBacks [(e, fate)]) := by
        rw [hfate.juggleQueue, List.append_assoc]
      obtain ⟨hends, hlog⟩ := ih (ω := fun i => ω (i + 1)) hqueue₁
      refine ⟨hends, fun s' hs' => ?_⟩
      obtain ⟨log, hdrains, helements, hback⟩ := hlog s' hs'
      refine ⟨(e, fate) :: log, .front hqueue ho hmeets hdrains, ?_, ?_⟩
      · rw [List.map_cons, helements]
      · rw [hback, List.append_assoc]
        congr 1
        unfold putBacks
        rw [← List.map_append, ← List.filter_append, List.singleton_append]

/--
**The juggle pass conserves messages.** An iteration always ends. If no handler throws, the new
message was dispatched once and then each element of the queue once, each of them has exactly one
fate, and the queue holds those that were put back, in their old order.
-/
theorem juggle_pass (env : Env) (ω : Nat → Choice) (e : QueueElement) (s : ConnManager) :
    (∃ o, startIteration env ω e s = some o)
      ∧ ∀ s', startIteration env ω e s = some (.ok s') →
        ∃ s₁ fate log, dispatcherRound2 env (ω 0) e s = .ok s₁ ∧ Meets e s s₁ fate
          ∧ s₁.juggleQueue = s.juggleQueue ++ putBacks [(e, fate)]
          ∧ Drains env s₁ log s' ∧ log.map Prod.fst = s₁.juggleQueue
          ∧ s'.juggleQueue = putBacks log
          ∧ s'.juggleQueue.Sublist (s.juggleQueue ++ [e])
          ∧ (s'.juggleQueue : Multiset QueueElement) ≤ ↑s.juggleQueue + {e} := by
  unfold startIteration
  cases ho : dispatcherRound2 env (ω 0) e s with
  | thrown ex s₁ => exact ⟨⟨_, rfl⟩, fun s' hs' => absurd hs' (by simp)⟩
  | ok s₁ =>
    obtain ⟨hends, hlog⟩ := @juggleLoop_drains env s₁ s₁.juggleQueue [] (fun i => ω (i + 1))
      (List.append_nil s₁.juggleQueue).symm
    refine ⟨hends, fun s' hs' => ?_⟩
    obtain ⟨fate, hfate, hmeets⟩ := exists_treated ho
    obtain ⟨log, hdrains, helements, hback⟩ := hlog s' hs'
    rw [List.nil_append] at hback
    have hsub : s'.juggleQueue.Sublist (s.juggleQueue ++ [e]) := by
      rw [hback]
      refine (putBacks_sublist log).trans ?_
      rw [helements, hfate.juggleQueue]
      exact (putBacks_sublist [(e, fate)]).append_left _
    refine ⟨s₁, fate, log, rfl, hmeets, hfate.juggleQueue, hdrains, helements, hback, hsub, ?_⟩
    rw [← Multiset.coe_singleton, Multiset.coe_add, Multiset.coe_le]
    exact hsub.subperm

end

/-! ### A pass with every fate -/

/-- The second SL of the first of two BGs. -/
def secondServer : Env where
  conf :=
    { rgBGInfo :=
        [{ failure := 0
           addr := [{ sinAddr := 0x7F000001, sinPort := 7000 },
             { sinAddr := 0x7F000001, sinPort := 7001 }] },
         { failure := 0
           addr := [{ sinAddr := 0x7F000001, sinPort := 7002 }] }]
      bGid := 0
      sLid := 1
      globalFailures := 0 }
  host := .little
  debugFailfast := false
  round2Verifier := some fakeVerifier

def fromPeer (x : Peer) (m : Message) : QueueElement := { upPeers := [some x], pMessage := m }

/-- A full commit that overtook its Preprepare. -/
def earlyFullCommit : QueueElement :=
  fromPeer (0, 0) (.round2FullCommit (fullCommitMessage 0 1 1))

/-- A request of the other BG for a cycle that has not come yet. -/
def earlyFetch : QueueElement :=
  fromPeer (1, 0) (.round3GeneralFetch (generalFetchMessage (secondServer.conf.ofSL 1 0) 1
    .round3ConnectivityResponse))

/-- An answer to a request of this SL. -/
def answer : QueueElement :=
  fromPeer (1, 0) (.round3MembershipResponse (membershipResponse (secondServer.conf.ofSL 1 0) 1))

/-- A request for a result that is to come. -/
def resultRequest : QueueElement :=
  fromPeer (1, 0) (.round3FetchRequest
    { header := { version := versionLatest, payloadLen := 76 }
      senderBGid := 1
      senderSLid := 0
      cycle := 1
      hash := { bGid := 1, cycle := 1, lastcycle := 0, hash := Vector.replicate sbftHashSize 0 }
      combinedSignature := zeroSignature })

/-- The answer goes on to the leader, the request is noted, and the other two wait. -/
theorem juggle_pass_secondServer :
    ∃ s', startIteration secondServer (fun _ => { draw := fun _ => 0, top := 0 }) resultRequest
        { ConnManager.init with juggleQueue := [earlyFullCommit, answer, earlyFetch] }
          = some (.ok s')
      ∧ s'.sendQueue = [{ answer with upPeers := [some (0, 0)] }]
      ∧ s'.juggleQueue = [earlyFullCommit, earlyFetch]
      ∧ (s'.juggleQueue : Multiset QueueElement)
        ≤ ↑[earlyFullCommit, answer, earlyFetch] + {resultRequest} := by
  obtain ⟨-, hpass⟩ := juggle_pass secondServer (fun _ => { draw := fun _ => 0, top := 0 })
    resultRequest
    { ConnManager.init with juggleQueue := [earlyFullCommit, answer, earlyFetch] }
  refine ⟨_, rfl, rfl, rfl, ?_⟩
  obtain ⟨-, -, -, -, -, -, -, -, -, -, hconserved⟩ := hpass _ rfl
  exact hconserved

end RCanopus
