import RCanopus.Round2Spec
import RCanopus.Round3Frame
import Mathlib.Data.List.Chain
import Mathlib.Data.List.Nodup

/-!
# Which Preprepares an SL answers

A Preprepare of an earlier sequence than the next one gets to a `DebugThrow`, which is nothing in
the release build. An SL that is not the leader then stores it and sends a partial commit for it.

* `onlyNext_iff`: the Preprepares for which an SL answers only the next one.
* `dispatcherRound2_keepsNext`: what an SL does between two Preprepares keeps `round2_next_view` and
  `round2_next_seq`.
-/

namespace RCanopus

/-! ## One Preprepare -/

/-- A Preprepare is not stored, not counted and not answered. -/
structure Ignores (s s' : ConnManager) : Prop where
  stored : s'.pTemporaryStorageOfPreprepare = s.pTemporaryStorageOfPreprepare
  nextSeq : s'.round2NextSeq = s.round2NextSeq
  sent : s'.sendQueue = s.sendQueue

/-- A Preprepare is counted, and a partial commit for it is sent. -/
structure Answers (env : Env) (p : MessageRound2Preprepare) (s s' : ConnManager) : Prop where
  nextSeq : s'.round2NextSeq = s.round2NextSeq + 1
  sent : s'.sendQueue = s.sendQueue ++ [partialCommitElement env.conf p]

/--
In the release build the SL waits for a Preprepare and gets one of the right view, but of an
earlier sequence than the next one.
-/
def Stale (env : Env) (s : ConnManager) (p : MessageRound2Preprepare) : Prop :=
  env.debugFailfast = false
    ∧ (s.pRound2CurrentStatus.getD .waitingForPreprepare).awaitingMessageType = .round2Preprepare
    ∧ p.view = s.round2NextView ∧ p.seq < s.round2NextSeq

instance (env : Env) (s : ConnManager) (p : MessageRound2Preprepare) :
    Decidable (Stale env s p) := inferInstanceAs (Decidable (_ ∧ _ ∧ _ ∧ _))

/-- The states that differ in the history and the status at most. -/
def Noted (s s' : ConnManager) : Prop :=
  ∃ status history,
    s' = { s with pRound2CurrentStatus := some status, history := history }

section

variable {env : Env} {s s₁ : ConnManager} {p : MessageRound2Preprepare} {e : QueueElement}
  {status : CycleStatus} {flag : Bool} {k : ConnManager → Outcome} {Q : Outcome → Prop}

theorem Noted.note (h : Noted s s₁) (ev : Event) : Noted s (s₁.note ev) := by
  obtain ⟨status, history, rfl⟩ := h
  exact ⟨status, history ++ [ev], rfl⟩

/-- A check goes on when it holds, and in the release build. -/
theorem Noted.debugThrow (h : Noted s s₁) (hthrow : ∀ ex s₂, Noted s s₂ → Q (.thrown ex s₂))
    (hk : flag = true ∨ env.debugFailfast = false → ∀ s₂, Noted s s₂ → Q (k s₂)) :
    Q (debugThrow env flag s₁ k) := by
  unfold RCanopus.debugThrow
  split
  next hflag => exact hk (Or.inl hflag) s₁ h
  next =>
    split
    next => exact hthrow _ _ (h.note _)
    next hrelease => exact hk (Or.inr (Bool.not_eq_true _ ▸ hrelease)) _ (h.note _)

/-- What `acceptPreprepare` does, however it ends. -/
theorem acceptPreprepare_answers (hleader : env.conf.isRound2Leader = false) (h : Noted s s₁) :
    Answers env p s (acceptPreprepare env p status s₁).state
      ∧ (acceptPreprepare env p status s₁).state.round2NextView = s.round2NextView := by
  obtain ⟨status', history, rfl⟩ := h
  unfold acceptPreprepare
  dsimp only
  rw [hleader, if_neg Bool.false_ne_true]
  generalize hs₂ : ConnManager.enqueue _ _ = s₂
  have hnext : s₂.round2NextSeq = s.round2NextSeq + 1 := by
    rw [← hs₂]
    rfl
  have hview : s₂.round2NextView = s.round2NextView := by
    rw [← hs₂]
    rfl
  have hsent : s₂.sendQueue = s.sendQueue ++ [partialCommitElement env.conf p] := by
    rw [← hs₂]
    unfold partialCommitElement collectorPeer
    by_cases hcollector : p.collectorSLid.toNat = env.conf.sLid <;>
      simp [hcollector, ConnManager.enqueue, CycleStatus.enter]
  unfold debugThrow
  split
  · exact ⟨⟨hnext, hsent⟩, hview⟩
  · split
    · exact ⟨⟨hnext, hsent⟩, hview⟩
    · exact ⟨⟨hnext, hsent⟩, hview⟩

/-- Nothing comes of the Preprepare, or it is answered, being the next one or a stale one. -/
def Handled (env : Env) (s : ConnManager) (p : MessageRound2Preprepare) (o : Outcome) : Prop :=
  o.state.round2NextView = s.round2NextView
    ∧ (Ignores s o.state
      ∨ Answers env p s o.state ∧ p.view = s.round2NextView
        ∧ (p.seq = s.round2NextSeq ∨ Stale env s p))

theorem Noted.handled (h : Noted s s₁) {o : Outcome} (ho : o.state = s₁ ∨ o.state = s₁.juggle e) :
    Handled env s p o := by
  obtain ⟨status, history, rfl⟩ := h
  unfold Handled
  rcases ho with ho | ho <;> rw [ho]
  · exact ⟨rfl, Or.inl ⟨rfl, rfl, rfl⟩⟩
  · exact ⟨rfl, Or.inl ⟨rfl, rfl, rfl⟩⟩

/-- What an SL that is not the leader does with a Preprepare. -/
theorem dispatcherRound2Preprepare_handled (hleader : env.conf.isRound2Leader = false) :
    Handled env s p (dispatcherRound2Preprepare env e p s) := by
  unfold dispatcherRound2Preprepare
  dsimp only
  have hset : Noted s { s with
      pRound2CurrentStatus := some (s.pRound2CurrentStatus.getD .waitingForPreprepare) } :=
    ⟨_, _, rfl⟩
  have hthrow : ∀ (ex : Exception) (s₁ : ConnManager), Noted s s₁ →
      Handled env s p (.thrown ex s₁) := fun ex s₁ hs₁ => hs₁.handled (e := e) (Or.inl rfl)
  split
  next => exact hset.handled (Or.inr rfl)
  next hawaiting =>
    refine hset.debugThrow hthrow fun _ s₁ hs₁ => ?_
    refine hs₁.debugThrow hthrow fun _ s₂ hs₂ => ?_
    split
    next => exact hs₂.handled (Or.inr rfl)
    next hearly =>
      unfold debugThrowElseReturnVoid
      split
      next hview =>
        refine hs₂.debugThrow hthrow fun hseq s₃ hs₃ => ?_
        obtain ⟨hanswers, hkept⟩ := acceptPreprepare_answers (p := p) hleader hs₃
        obtain ⟨status, history, rfl⟩ := hs₂
        rw [beq_iff_eq] at hview
        refine ⟨hkept, Or.inr ⟨hanswers, hview, ?_⟩⟩
        by_cases hnext : p.seq = s.round2NextSeq
        · exact Or.inl hnext
        · -- only the release build gets here, with a sequence that is not later either
          have hrelease : env.debugFailfast = false := by
            refine hseq.resolve_left fun hchecked => ?_
            rw [hleader, Bool.false_or, beq_iff_eq] at hchecked
            exact hnext hchecked
          have hle : ¬ s.round2NextSeq < p.seq := fun hlater =>
            hearly (decide_eq_true (Or.inr ⟨hview, hlater⟩))
          refine Or.inr ⟨hrelease, of_not_not hawaiting, hview, ?_⟩
          exact UInt16.lt_of_le_of_ne (UInt16.not_lt.mp hle) hnext
      next =>
        split
        next => exact hthrow _ _ (hs₂.note _)
        next => exact (hs₂.note _).handled (e := e) (Or.inl rfl)

/-- A stale Preprepare is answered. -/
theorem Stale.answers (hleader : env.conf.isRound2Leader = false) (h : Stale env s p) :
    Answers env p s (dispatcherRound2Preprepare env e p s).state := by
  obtain ⟨hrelease, hawaiting, hview, hseq⟩ := h
  have hgo : ∀ {flag : Bool} {s₁ : ConnManager} {k : ConnManager → Outcome}, Noted s s₁ →
      (∀ s₂, Noted s s₂ → Answers env p s (k s₂).state) →
      Answers env p s (debugThrow env flag s₁ k).state := by
    intro flag s₁ k hs₁ hk
    unfold debugThrow
    rw [hrelease]
    split
    · exact hk _ hs₁
    · exact hk _ (hs₁.note _)
  unfold dispatcherRound2Preprepare
  dsimp only
  rw [if_neg (not_not_intro hawaiting)]
  refine hgo ⟨_, _, rfl⟩ fun s₁ hs₁ => hgo hs₁ fun s₂ hs₂ => ?_
  obtain ⟨status, history, rfl⟩ := hs₂
  have hearly : ¬ preprepareTooEarly { s with
      pRound2CurrentStatus := some status, history := history } p = true := by
    unfold preprepareTooEarly
    rw [decide_eq_true_iff]
    rintro (hlater | ⟨-, hlater⟩)
    · rw [hview] at hlater
      exact UInt16.lt_irrefl _ hlater
    · exact UInt16.lt_asymm hseq hlater
  rw [if_neg hearly]
  unfold debugThrowElseReturnVoid
  rw [if_pos (beq_iff_eq.mpr hview)]
  exact hgo ⟨_, _, rfl⟩ fun s₃ hs₃ => (acceptPreprepare_answers hleader hs₃).1

/-! ## What the rest of the dispatcher leaves alone -/

/-- The element is a partial commit. -/
def QueueElement.isPartialCommit (e : QueueElement) : Bool :=
  match e.pMessage with
  | .round2PartialCommit _ => true
  | _ => false

/-- The next view and sequence are the same, and no partial commit was sent. -/
structure KeepsNext (s s' : ConnManager) : Prop where
  nextView : s'.round2NextView = s.round2NextView
  nextSeq : s'.round2NextSeq = s.round2NextSeq
  partialCommits :
    s'.sendQueue.filter QueueElement.isPartialCommit
      = s.sendQueue.filter QueueElement.isPartialCommit

theorem KeepsNext.refl (s : ConnManager) : KeepsNext s s := ⟨rfl, rfl, rfl⟩

theorem KeepsNext.note (h : KeepsNext s s₁) (ev : Event) : KeepsNext s (s₁.note ev) :=
  ⟨h.nextView, h.nextSeq, h.partialCommits⟩

theorem KeepsNext.enqueue (h : KeepsNext s s₁) (he : e.isPartialCommit = false) :
    KeepsNext s (s₁.enqueue e) := by
  refine ⟨h.nextView, h.nextSeq, ?_⟩
  show (s₁.sendQueue ++ [e]).filter QueueElement.isPartialCommit = _
  rw [List.filter_append, List.filter_singleton, he, h.partialCommits]
  simp

theorem isPartialCommit_of_round3 (he : e.pMessage.isRound3 = true) :
    e.isPartialCommit = false := by
  unfold QueueElement.isPartialCommit
  split
  next hm =>
    rw [hm] at he
    exact absurd he (by simp [Message.isRound3])
  next => rfl

/-- The updates of round 3 and of a commit. -/
theorem keepsNext_frame (s : ConnManager) : Round3Frame (KeepsNext s) where
  notes h _ := ⟨h.nextView, h.nextSeq, h.partialCommits⟩
  enqueue h he := h.enqueue (isPartialCommit_of_round3 he)
  juggle h _ := ⟨h.nextView, h.nextSeq, h.partialCommits⟩
  setStatus _ _ h := ⟨h.nextView, h.nextSeq, h.partialCommits⟩
  setPending _ _ _ h := ⟨h.nextView, h.nextSeq, h.partialCommits⟩
  erase _ h := ⟨h.nextView, h.nextSeq, h.partialCommits⟩

theorem keepsNext_commitFrame (s : ConnManager) : CommitFrame (KeepsNext s) (KeepsNext s) where
  before := keepsNext_frame s
  after := keepsNext_frame s
  running _ h := ⟨h.nextView, h.nextSeq, h.partialCommits⟩
  store _ h := ⟨h.nextView, h.nextSeq, h.partialCommits⟩
  drop h := ⟨h.nextView, h.nextSeq, h.partialCommits⟩
  clear h := ⟨h.nextView, h.nextSeq, h.partialCommits⟩
  push h _ := ⟨h.nextView, h.nextSeq, h.partialCommits⟩

section Rest

variable {ω : Choice} (hleader : env.conf.isRound2Leader = false)

theorem keepsNext_check (h : KeepsNext s s₁)
    (hk : ∀ s₂, KeepsNext s s₂ → KeepsNext s (k s₂).state) :
    KeepsNext s (debugThrowElseReturnVoid env flag s₁ k).state :=
  (keepsNext_frame s).debugThrowElseReturnVoid (Q := fun o => KeepsNext s o.state) h
    (fun _ _ h => h) (fun _ h => h) hk

theorem keepsNext_partialCommit {m : MessageRound2PartialCommit} :
    KeepsNext s (dispatcherRound2PartialCommit env e m s).state := by
  have hjuggle : KeepsNext s (s.juggle e) := ⟨rfl, rfl, rfl⟩
  unfold dispatcherRound2PartialCommit
  split
  · exact hjuggle
  · split
    · exact hjuggle
    · split
      · exact hjuggle
      · refine keepsNext_check (KeepsNext.refl s) fun s₁ h₁ => ?_
        refine keepsNext_check h₁ fun s₂ h₂ => ?_
        refine keepsNext_check h₂ fun s₃ h₃ => ?_
        refine keepsNext_check h₃ fun s₄ h₄ => ?_
        split
        · exact h₄
        · split
          · exact h₄
          · refine keepsNext_check h₄ fun s₅ h₅ => ?_
            unfold countPartialCommit
            dsimp only
            split
            · exact (((keepsNext_commitFrame s).running _ (h₅.note _)).enqueue rfl).note _
            · exact (keepsNext_commitFrame s).running _ (h₅.note _)

include hleader

theorem keepsNext_fullCommit {m : MessageRound2FullCommit} :
    KeepsNext s (dispatcherRound2FullCommit env ω e m s).state := by
  unfold dispatcherRound2FullCommit
  split
  · exact ⟨rfl, rfl, rfl⟩
  · split
    · exact ⟨rfl, rfl, rfl⟩
    · refine keepsNext_check (KeepsNext.refl s) fun s₁ h₁ => ?_
      refine keepsNext_check h₁ fun s₂ h₂ => ?_
      refine keepsNext_check h₂ fun s₃ h₃ => ?_
      split
      · exact h₃
      · refine (keepsNext_commitFrame s).fullCommitBranch (Q := fun o => KeepsNext s o.state)
          (((keepsNext_commitFrame s).running _ h₃).note _) (fun _ _ h => h) (fun _ h => h)
          (fun _ _ h => h) fun s₄ h₄ => ?_
        unfold spawnRound2
        rw [hleader, if_neg Bool.false_ne_true]
        exact h₄

/--
An SL that is not the leader counts sequences and sends partial commits for Preprepares only.
`MESSAGE_EMPTY` comes from the pipe of the leader.
-/
theorem dispatcherRound2_keepsNext (hempty : ∀ m, e.pMessage ≠ .empty m)
    (hpreprepare : ∀ p, e.pMessage ≠ .round2Preprepare p) :
    KeepsNext s (dispatcherRound2 env ω e s).state := by
  have hforward : e.pMessage.isRound3 = true → KeepsNext s (forwardToLeader env e s).state :=
    fun he => (keepsNext_frame s).forwardToLeader (Q := fun o => KeepsNext s o.state) he
      (KeepsNext.refl s) fun _ h => h
  unfold dispatcherRound2
  split
  · exact KeepsNext.refl s
  · split
    next m hm => exact absurd hm (hempty m)
    next m hm =>
      unfold dispatcherRound2Request
      rw [hleader, Bool.not_false, if_pos rfl]
      refine (keepsNext_frame s).debugThrow (Q := fun o => KeepsNext s o.state) (KeepsNext.refl s)
        (fun _ _ h => h) fun s₁ h₁ => h₁.enqueue ?_
      unfold QueueElement.isPartialCommit
      rw [hm]
    next m hm => exact absurd hm (hpreprepare m)
    next => exact keepsNext_partialCommit
    next => exact keepsNext_fullCommit hleader
    next => exact (keepsNext_frame s).dispatcherRound3FetchRequest (KeepsNext.refl s)
    next m hm =>
      unfold dispatcherRound3FetchResponse
      rw [hleader, Bool.not_false, if_pos rfl]
      exact hforward (by rw [hm]; rfl)
    next m hm =>
      exact (keepsNext_frame s).dispatcherRound3GeneralFetchRequest (by rw [hm]; rfl)
        (KeepsNext.refl s)
    next m hm =>
      unfold dispatcherRound3FetchConnectivityResponse
      rw [hleader, Bool.not_false, if_pos rfl]
      exact hforward (by rw [hm]; rfl)
    next m hm =>
      unfold dispatcherRound3FetchMembershipResponse
      rw [hleader, Bool.not_false, if_pos rfl]
      exact hforward (by rw [hm]; rfl)
    next => exact KeepsNext.refl s

end Rest

end

/-! ## A sequence of Preprepares -/

/-- A call of `dispatcher_round2_preprepare`. -/
structure PreprepareCall where
  before : ConnManager
  pElement : QueueElement
  pPreprepare : MessageRound2Preprepare

namespace PreprepareCall

/-- The state in which the call leaves the SL. -/
def after (env : Env) (c : PreprepareCall) : ConnManager :=
  (dispatcherRound2Preprepare env c.pElement c.pPreprepare c.before).state

/-- Between two calls the SL does anything that keeps the next view and sequence. -/
def Follows (env : Env) (c c' : PreprepareCall) : Prop :=
  c'.before.round2NextView = (c.after env).round2NextView
    ∧ c'.before.round2NextSeq = (c.after env).round2NextSeq

/-- The Preprepare is ignored unless it is the next one. -/
def OnlyNext (env : Env) (c : PreprepareCall) : Prop :=
  Ignores c.before (c.after env)
    ∨ c.pPreprepare.view = c.before.round2NextView ∧ c.pPreprepare.seq = c.before.round2NextSeq

/-- The call sends a partial commit. -/
def Answered (env : Env) (c : PreprepareCall) : Prop :=
  (c.after env).sendQueue ≠ c.before.sendQueue

instance (env : Env) (c : PreprepareCall) : Decidable (c.Answered env) :=
  inferInstanceAs (Decidable (_ ≠ _))

end PreprepareCall

/--
Two partial commits of the SL for the same view and sequence are for Preprepares with the same
contents.
-/
def NoEquivocation (env : Env) (calls : List PreprepareCall) : Prop :=
  calls.Pairwise fun c c' => c.Answered env → c'.Answered env →
    c.pPreprepare.view = c'.pPreprepare.view → c.pPreprepare.seq = c'.pPreprepare.seq →
    c.pPreprepare = c'.pPreprepare

section

variable {env : Env} {c : PreprepareCall} {calls : List PreprepareCall}
  (hleader : env.conf.isRound2Leader = false)

include hleader

theorem PreprepareCall.onlyNext_iff :
    c.OnlyNext env ↔ ¬ Stale env c.before c.pPreprepare := by
  constructor
  · rintro (hignores | ⟨-, hseq⟩) hstale
    · have hlen := congrArg List.length ((hstale.answers (e := c.pElement) hleader).sent.symm.trans
        hignores.sent)
      rw [List.length_append, List.length_singleton] at hlen
      omega
    · obtain ⟨-, -, -, hlt⟩ := hstale
      rw [hseq] at hlt
      exact UInt16.lt_irrefl _ hlt
  · intro hfresh
    obtain ⟨-, hignores | ⟨-, hview, hseq⟩⟩ :=
      dispatcherRound2Preprepare_handled (s := c.before) (p := c.pPreprepare) (e := c.pElement)
        hleader
    · exact Or.inl hignores
    · exact Or.inr ⟨hview, hseq.resolve_right hfresh⟩

/-- Without a stale Preprepare the counter moves on with every answer, which is for its value. -/
theorem PreprepareCall.counts (hfresh : ¬ Stale env c.before c.pPreprepare) :
    (c.Answered env → c.pPreprepare.seq = c.before.round2NextSeq
        ∧ (c.after env).round2NextSeq = c.before.round2NextSeq + 1)
      ∧ (¬ c.Answered env → (c.after env).round2NextSeq = c.before.round2NextSeq) := by
  obtain ⟨-, hignores | ⟨hanswers, -, hseq⟩⟩ :=
    dispatcherRound2Preprepare_handled (s := c.before) (p := c.pPreprepare) (e := c.pElement)
      hleader
  · exact ⟨fun hanswered => absurd hignores.sent hanswered, fun _ => hignores.nextSeq⟩
  · refine ⟨fun _ => ⟨hseq.resolve_right hfresh, hanswers.nextSeq⟩, fun hunanswered => ?_⟩
    refine absurd hanswers.sent fun hsent => hunanswered fun hsame => ?_
    have hlen := congrArg List.length (hsent.symm.trans hsame)
    rw [List.length_append, List.length_singleton] at hlen
    omega

/-- The sequences that are answered are consecutive. -/
theorem answered_seqs (q : UInt16) (hstart : ∀ c ∈ calls.head?, c.before.round2NextSeq = q)
    (hrun : calls.IsChain (PreprepareCall.Follows env))
    (hfresh : ∀ c ∈ calls, ¬ Stale env c.before c.pPreprepare) :
    (calls.filter fun c => c.Answered env).map (fun c => c.pPreprepare.seq)
      = (List.range (calls.countP fun c => c.Answered env)).map fun k => q + UInt16.ofNat k := by
  induction calls generalizing q with
  | nil => rfl
  | cons c calls ih =>
    obtain ⟨hnext, hrun⟩ := List.isChain_cons.mp hrun
    have hq : c.before.round2NextSeq = q := hstart c rfl
    have hrest := ih (c.after env).round2NextSeq (fun c' hc' => (hnext c' hc').2) hrun
      fun c' hc' => hfresh c' (List.mem_cons_of_mem c hc')
    obtain ⟨hanswered, hignored⟩ := PreprepareCall.counts hleader (hfresh c List.mem_cons_self)
    by_cases hc : c.Answered env
    · obtain ⟨hseq, hafter⟩ := hanswered hc
      rw [List.filter_cons, if_pos (decide_eq_true hc), List.countP_cons,
        if_pos (decide_eq_true hc), List.map_cons, hrest, List.range_succ_eq_map, List.map_cons,
        List.map_map, hseq, hafter, hq]
      refine congrArg₂ List.cons (UInt16.add_zero q).symm (List.map_congr_left fun k _ => ?_)
      show q + 1 + UInt16.ofNat k = q + UInt16.ofNat (k + 1)
      rw [UInt16.ofNat_add, UInt16.add_assoc, UInt16.add_comm 1]
      rfl
    · have hneg : ¬ decide (c.Answered env) = true := fun h => hc (of_decide_eq_true h)
      rw [List.filter_cons, if_neg hneg, List.countP_cons, if_neg hneg, Nat.add_zero, hrest,
        hignored hc, hq]

/-- Up to the wrap of the counter no sequence is answered twice. -/
theorem answered_nodup (hrun : calls.IsChain (PreprepareCall.Follows env))
    (hfresh : ∀ c ∈ calls, ¬ Stale env c.before c.pPreprepare)
    (hcount : (calls.countP fun c => c.Answered env) ≤ 65536) :
    calls.Pairwise fun c c' => c.Answered env → c'.Answered env →
      c.pPreprepare.seq ≠ c'.pPreprepare.seq := by
  obtain ⟨q, hq⟩ : ∃ q, ∀ c ∈ calls.head?, c.before.round2NextSeq = q := by
    cases calls with
    | nil => exact ⟨0, fun c hc => absurd hc (by simp)⟩
    | cons c calls => exact ⟨_, fun c' hc' => by rw [← Option.some.inj hc']⟩
  have hseqs := answered_seqs hleader q hq hrun hfresh
  have hnodup : ((calls.filter fun c => c.Answered env).map fun c => c.pPreprepare.seq).Nodup := by
    rw [hseqs]
    refine List.Nodup.map_on ?_ List.nodup_range
    intro j hj k hk hjk
    rw [List.mem_range] at hj hk
    have hsame : UInt16.ofNat j = UInt16.ofNat k := (UInt16.add_right_inj q).mp hjk
    have hnat := congrArg UInt16.toNat hsame
    rw [UInt16.toNat_ofNat', UInt16.toNat_ofNat', Nat.mod_eq_of_lt (by omega),
      Nat.mod_eq_of_lt (by omega)] at hnat
    exact hnat
  have hpairs := List.pairwise_filter.mp (List.pairwise_map.mp hnodup)
  refine hpairs.imp fun hdiff hc hc' => hdiff (decide_eq_true hc) (decide_eq_true hc')

/--
**Only the next Preprepare is answered** in a sequence of calls exactly when no Preprepare of it is
stale. Up to the wrap of the counter the SL then never sends two partial commits for one view and
sequence, let alone for different contents.
-/
theorem onlyNext_run (hrun : calls.IsChain (PreprepareCall.Follows env)) :
    ((∀ c ∈ calls, c.OnlyNext env) ↔ ∀ c ∈ calls, ¬ Stale env c.before c.pPreprepare)
      ∧ ((∀ c ∈ calls, ¬ Stale env c.before c.pPreprepare) →
        (calls.countP fun c => c.Answered env) ≤ 65536 → NoEquivocation env calls) := by
  refine ⟨forall₂_congr fun c _ => PreprepareCall.onlyNext_iff hleader, fun hfresh hcount => ?_⟩
  refine (answered_nodup hleader hrun hfresh hcount).imp ?_
  intro c c' hdiff hc hc' hview hseq
  exact absurd hseq (hdiff hc hc')

end

/-! ## Two SLs -/

/-- SL 1 of a BG of two SLs. -/
def follower (debugFailfast : Bool) : Env where
  conf :=
    { rgBGInfo :=
        [{ failure := 0
           addr := [{ sinAddr := 0x7F000001, sinPort := 7000 },
             { sinAddr := 0x7F000001, sinPort := 7001 }] }]
      bGid := 0
      sLid := 1
      globalFailures := 0 }
  host := .little
  debugFailfast := debugFailfast
  round2Verifier := some fakeVerifier

/-- A Preprepare of view 1 for the collector 0. -/
def numbered (seq cycle : UInt16) : MessageRound2Preprepare :=
  { clientPreprepare .little (follower false).conf cycle 0 with view := 1, seq := seq }

/-- A call for a Preprepare of the leader. -/
def callFor (before : ConnManager) (p : MessageRound2Preprepare) : PreprepareCall where
  before := before
  pElement := { upPeers := [some (0, 0)], pMessage := .round2Preprepare p }
  pPreprepare := p

/-- What is left of a round after its commit. -/
def committedRound (s : ConnManager) : ConnManager := { clearRound2 s with sendQueue := [] }

/-- The next Preprepare, and then another one. -/
def twoCalls (debugFailfast : Bool) (seq : UInt16) : List PreprepareCall :=
  let c := callFor .init (numbered 1 1)
  [c, callFor (committedRound (c.after (follower debugFailfast))) (numbered seq 2)]

/-- Nothing happens to the counters between the two calls. -/
theorem twoCalls_isChain (debugFailfast : Bool) (seq : UInt16) :
    (twoCalls debugFailfast seq).IsChain
      (PreprepareCall.Follows (follower debugFailfast)) := by
  refine List.isChain_cons.mpr ⟨?_, List.isChain_singleton _⟩
  intro c hc
  rw [← Option.some.inj hc]
  exact ⟨rfl, rfl⟩

theorem onlyNext_run_inOrder :
    (∀ c ∈ twoCalls false 2, c.OnlyNext (follower false))
      ∧ NoEquivocation (follower false) (twoCalls false 2) := by
  have hfresh : ∀ c ∈ twoCalls false 2, ¬ Stale (follower false) c.before c.pPreprepare := by
    decide
  have hboth := @onlyNext_run (follower false) _ rfl (twoCalls_isChain false 2)
  exact ⟨hboth.1.mpr hfresh, hboth.2 hfresh (by decide)⟩

/-- In the release build a second Preprepare for sequence 1 is answered like the first. -/
theorem twoCalls_equivocate :
    (twoCalls false 1).IsChain (PreprepareCall.Follows (follower false))
      ∧ ¬ (∀ c ∈ twoCalls false 1, c.OnlyNext (follower false))
      ∧ ¬ NoEquivocation (follower false) (twoCalls false 1) := by
  refine ⟨twoCalls_isChain false 1, fun hall => ?_, fun hsame => ?_⟩
  · have hlast := hall _ (List.mem_cons_of_mem _ List.mem_cons_self)
    refine (@PreprepareCall.onlyNext_iff (follower false) _ rfl).mp hlast ?_
    decide
  · have hpair := (List.pairwise_cons.mp hsame).1 _ List.mem_cons_self
    have hequal := hpair (by decide) (by decide) rfl rfl
    exact absurd (congrArg MessageRound2Preprepare.cycle hequal) (by decide)

end RCanopus
