import RCanopus.HandOver
import RCanopus.JugglePass
import RCanopus.Hybrid.Results

/-!
# What waits in the juggle queue of the hybrid variant

Here a Preprepare may also wait at the gate. What opens the gate is the last result, which is never
juggled: it comes fresh, and the pass that follows takes the Preprepare.
-/

namespace RCanopus.Hybrid

open Cluster

/-- A Preprepare that the gate holds back. -/
def AtGate (s : ConnManager) : Message → Prop
  | .round2Preprepare p => p.requestType = requestTypeLocalConnectivity
    ∧ ∃ status, s.mapRound3Status p.cycle = some status
      ∧ status.state ≠ .round3WaitingForLocalConnectivity
  | _ => False

/-- The SL is not ready for a message and would juggle it. -/
def Waits (s : ConnManager) (m : Message) : Prop := RCanopus.Waits s m ∨ AtGate s m

/-- The messages that an SL may put back. -/
def CanWait : Message → Prop
  | .round2Preprepare _ => True
  | .round2PartialCommit _ => True
  | .round3GeneralFetch _ => True
  | .round3ConnectivityResponse _ => True
  | .round3MembershipResponse _ => True
  | _ => False

variable {d : Deployment} {σ σ' : Cluster} {env : Env} {ω : Choice} {s₀ s s' : ConnManager}
  {y : Peer} {e : QueueElement} {before : Node} {o : Outcome} {m : Message} {c : UInt16}
  {status : CycleStatus} {p : MessageRound2Preprepare}

theorem canWait_of_waits (h : RCanopus.Waits s m) : CanWait m := by
  cases m <;> trivial

theorem Waits.canWait (h : Waits s m) : CanWait m := by
  rcases h with h | h
  · exact canWait_of_waits h
  · cases m <;> trivial

/-! ## Phases -/

/-- Every cycle is in the phase in which it was. -/
def SamePhases (s s' : ConnManager) : Prop :=
  ∀ c, (s'.mapRound3Status c).map (·.state) = (s.mapRound3Status c).map (·.state)

theorem samePhases_of_eq (h : s'.mapRound3Status = s.mapRound3Status) : SamePhases s s' :=
  fun c => by rw [h]

theorem AtGate.congr (h : AtGate s m) (hphases : SamePhases s s') : AtGate s' m := by
  cases m with
  | round2Preprepare p =>
    obtain ⟨ht, status, hget, hstate⟩ := h
    have hphase := hphases p.cycle
    rw [hget, Option.map_some] at hphase
    obtain ⟨status', hget', heq⟩ := Option.map_eq_some_iff.mp hphase
    exact ⟨ht, status', hget', heq ▸ hstate⟩
  | _ => exact h

theorem Waits.congr (h : Waits s m) (hphases : SamePhases s s')
    (hmain : RCanopus.Waits s m → RCanopus.Waits s' m) : Waits s' m :=
  h.imp hmain fun hgate => hgate.congr hphases

/-- A leader that takes an answer stays in its phase. -/
theorem samePhases_setStatus {status' : CycleStatus} (hget : s.mapRound3Status c = some status)
    (hstate : status'.state = status.state)
    (hmap : s'.mapRound3Status = (s.setStatus c status').mapRound3Status) : SamePhases s s' := by
  intro c'
  rw [hmap]
  show (Function.update s.mapRound3Status c (some status') c').map _ = _
  by_cases hc : c' = c
  · subst hc
    rw [Function.update_self, hget, Option.map_some, Option.map_some, hstate]
  · rw [Function.update_of_ne hc]

theorem phases_generalFetch {r : MessageRound3GeneralFetch} :
    SamePhases s (dispatcherRound3GeneralFetchRequest env e r s).state := by
  have hanswer : ∀ (kind : FetchKind) (status : CycleStatus),
      (answerOrPush kind env r status s).mapRound3Status = s.mapRound3Status := by
    intro kind status
    unfold answerOrPush
    split <;> rfl
  refine samePhases_of_eq ?_
  unfold dispatcherRound3GeneralFetchRequest
  split
  · unfold dispatcherRound3FetchConnectivityRequest
    split
    · rfl
    · exact hanswer _ _
  · split
    · unfold dispatcherRound3FetchMembershipRequest
      dsimp only
      split
      · unfold debugThrow
        split
        · rfl
        · split <;> rfl
      · exact hanswer _ _
    · rfl

theorem sLid_of_leader (h : ¬ (!env.conf.isRound2Leader) = true) : env.conf.sLid = 0 := by
  simpa [Config.isRound2Leader] using h

theorem phases_connectivityResponse {r : MessageRound3FetchResponse}
    (h : dispatcherRound3FetchConnectivityResponse env ω e r s = .ok s') : SamePhases s s' := by
  unfold dispatcherRound3FetchConnectivityResponse at h
  split at h
  · rw [← Outcome.ok.inj h]
    exact samePhases_of_eq rfl
  · next hleader =>
    split at h
    · exact absurd h (by simp)
    · next status hget =>
      split at h
      · rw [← Outcome.ok.inj h]
        exact samePhases_of_eq rfl
      · dsimp only at h
        have hmap := (startRound2IfPossible_gains (sLid_of_leader hleader) h).2.1
        have hset : s'.mapRound3Status
            = (s.setStatus r.cycle (status.fillConnectivity r)).mapRound3Status := by
          refine hmap.trans ?_
          split <;> rfl
        have hstate : (status.fillConnectivity r).state = status.state := rfl
        exact samePhases_setStatus hget hstate hset

theorem debugThrowElseReturnVoid_cases {flag : Bool} {k : ConnManager → Outcome}
    (h : debugThrowElseReturnVoid env flag s k = .ok s') :
    k s = .ok s' ∨ s' = s.note .guardFailed := by
  unfold debugThrowElseReturnVoid at h
  split at h
  · exact Or.inl h
  · split at h
    · exact absurd h (by simp)
    · exact Or.inr (Outcome.ok.inj h).symm

theorem phases_membershipResponse {r : MessageRound3FullMembership}
    (h : dispatcherRound3FetchMembershipResponse env ω e r s = .ok s') : SamePhases s s' := by
  unfold dispatcherRound3FetchMembershipResponse at h
  split at h
  · rw [← Outcome.ok.inj h]
    exact samePhases_of_eq rfl
  · next hleader =>
    dsimp only at h
    split at h
    · exact absurd h (by simp)
    · next status hget =>
      split at h
      · rw [← Outcome.ok.inj h]
        exact samePhases_of_eq rfl
      · rcases debugThrowElseReturnVoid_cases h with h | rfl
        · obtain ⟨history, h⟩ := debugThrow_ok h
          have hset : s'.mapRound3Status
              = (s.setStatus r.cycle (status.fillMembership r)).mapRound3Status := by
            split at h
            · exact (startRound2IfPossible_gains (sLid_of_leader hleader) h).2.1
            · rw [← Outcome.ok.inj h]
              rfl
          have hstate : (status.fillMembership r).state = status.state := rfl
          exact samePhases_setStatus hget hstate hset
        · exact samePhases_of_eq rfl

/-! ## Dispatches -/

/--
What a handler may do that is no commit and takes no result: it may put messages back that wait, and
what waited still waits, unless the SL sends something to itself.
-/
def Calm (s₀ : ConnManager) : Outcome → Prop
  | .ok s => (∃ l, s.juggleQueue = s₀.juggleQueue ++ l ∧ ∀ e ∈ l, Waits s e.pMessage)
    ∧ ((∃ e ∈ s.sendQueue, none ∈ e.upPeers) ∨ ∀ m, Waits s₀ m → Waits s m)
  | .thrown _ _ => True

theorem Calm.of_main (h : o.Calm s₀) (hphases : ∀ s, o = .ok s → SamePhases s₀ s) : Calm s₀ o := by
  cases o with
  | thrown ex s => trivial
  | ok s =>
    obtain ⟨⟨l, hl, hwaits⟩, hkept⟩ := h
    exact ⟨⟨l, hl, fun e he => Or.inl (hwaits e he)⟩,
      hkept.imp id fun hkept m hm => hm.congr (hphases s rfl) (hkept m)⟩

/-- What stays as it is, but for what is put back. -/
theorem calm_of_kept {s : ConnManager} {l : List QueueElement} (hs : SamePhases s₀ s)
    (hkept : ∀ m, RCanopus.Waits s₀ m → RCanopus.Waits s m)
    (hl : s.juggleQueue = s₀.juggleQueue ++ l) (hnew : ∀ e ∈ l, Waits s e.pMessage) :
    Calm s₀ (.ok s) :=
  ⟨⟨l, hl, hnew⟩, Or.inr fun m hm => hm.congr hs (hkept m)⟩

theorem waits_juggle (h : Waits s m) : Waits (s.juggle e) m := by
  rcases h with h | h
  · cases m <;> exact Or.inl h
  · exact Or.inr (h.congr (samePhases_of_eq rfl))

/-- A Preprepare that does not pass the gate is put back, or nothing happens. -/
theorem preprepare_calm (hm : e.pMessage = .round2Preprepare p) (hpass : ¬ Passes s p) :
    Calm s (dispatcherRound2Preprepare env e p s) := by
  have hstart := steady_waitingForPreprepare (s := s)
  have hjuggle : ∀ s' : ConnManager, Steady s s' → SamePhases s s' → Waits s' e.pMessage →
      Calm s (.ok (s'.juggle e)) := by
    intro s' hs' hphases hwait
    refine calm_of_kept (l := [e]) hphases (fun m hm => ?_) ?_ fun e' he' => ?_
    · cases m <;> exact hs'.waits _ hm
    · rw [← hs'.juggled]
      rfl
    · rw [List.mem_singleton.mp he']
      exact waits_juggle hwait
  have hcheck : ∀ (flag : Bool) (s' : ConnManager) (k : ConnManager → Outcome),
      (∀ s'', Steady s s'' ∧ s''.mapRound3Status = s.mapRound3Status → Calm s (k s'')) →
      Steady s s' ∧ s'.mapRound3Status = s.mapRound3Status →
      Calm s (debugThrow env flag s' k) := by
    intro flag s' k hk hs'
    unfold debugThrow
    split
    · exact hk _ hs'
    · split
      · trivial
      · exact hk _ ⟨hs'.1.note _, hs'.2⟩
  unfold dispatcherRound2Preprepare
  dsimp only
  split
  · next hawaiting =>
    refine hjuggle _ hstart (samePhases_of_eq rfl) ?_
    rw [hm]
    exact Or.inl (Or.inl hawaiting)
  · refine hcheck _ _ _ (fun s₁ hs₁ => hcheck _ _ _ (fun s₂ hs₂ => ?_) hs₁) ⟨hstart, rfl⟩
    split
    · next hearly =>
      refine hjuggle _ hs₂.1 (samePhases_of_eq hs₂.2) ?_
      rw [hm]
      exact Or.inl (Or.inr hearly)
    · have ht : p.requestType = requestTypeLocalConnectivity :=
        Decidable.byContradiction fun ht => hpass fun h => absurd h ht
      rw [if_pos ht]
      split
      · -- no such cycle: the check fails
        unfold debugThrowElseReturnVoid
        split
        · exact calm_of_kept (l := []) (samePhases_of_eq hs₂.2) hs₂.1.waits
            (by rw [hs₂.1.juggled, List.append_nil]) (by simp)
        · split
          · trivial
          · exact calm_of_kept (l := []) (samePhases_of_eq hs₂.2) (hs₂.1.note _).waits
              (by rw [(hs₂.1.note _).juggled, List.append_nil]) (by simp)
      · next status hget =>
        split
        · next hstate =>
          refine hjuggle _ hs₂.1 (samePhases_of_eq hs₂.2) ?_
          rw [hm]
          exact Or.inr ⟨ht, status, hget, hstate⟩
        · next hstate =>
          rw [hs₂.2] at hget
          exact absurd (fun _ => ⟨status, hget, not_not.mp hstate⟩) hpass

/-! ### Commits and results juggle nothing -/

section Uses

variable {t : MessageType} {mc : MessageRound2FullCommit} {cycle : UInt16}
  {common : ConnManager → Outcome}

theorem uses_spawnRound2 (hs : Uses t s₀ s) (ht : t ≠ .round2Preprepare) :
    (spawnRound2 env ω s).Uses t s₀ := by
  unfold spawnRound2
  split
  · exact uses_startRound2IfPossible hs ht
  · exact hs

theorem uses_fetchResponse {r : MessageRound3FetchResponse} :
    (dispatcherRound3FetchResponse env ω r s).Uses .round3FetchResponse s := by
  unfold dispatcherRound3FetchResponse
  dsimp only
  split
  · trivial
  · refine uses_debugThrow (.refl s) fun s₁ hs₁ => ?_
    split
    · refine uses_spawnRound2 ?_ (by simp)
      split
      · exact hs₁.of_eq rfl rfl
      · exact hs₁.of_eq rfl rfl
    · exact uses_spawnRound2 (hs₁.of_eq rfl rfl) (by simp)

theorem commits_sendFetchRequest (hs : Uses .round2FullCommit s₀ s) :
    (envoyRound3SendFetchRequest env ω cycle s).Commits s₀ := by
  unfold envoyRound3SendFetchRequest
  split
  · trivial
  · split
    · trivial
    · split
      · exact uses_round3Committed (hs.of_eq rfl rfl)
      · dsimp only
        split
        · trivial
        · refine uses_debugThrow (hs.of_eq rfl rfl) fun s₁ hs₁ => ?_
          exact Uses.send hs₁ rfl rfl (by simp [Message.msgType])

theorem commits_skipCycles {n : Nat} (hs : Uses .round2FullCommit s₀ s) :
    (skipCycles env ω mc p status n cycle s).Commits s₀ := by
  induction n generalizing cycle s with
  | zero => exact hs
  | succ n ih =>
    unfold skipCycles
    refine uses_debugThrow hs fun s₁ hs₁ => ?_
    refine uses_debugThrow hs₁ fun s₂ hs₂ => ?_
    refine Outcome.Uses.andThen ?_ fun s₃ hs₃ => ?_
    · exact commits_round3RespondToPendingFetchRequests (hs₂.of_eq rfl rfl)
    · exact (commits_sendFetchRequest hs₃).andThen fun s₄ hs₄ => ih hs₄

section Branches

variable (hs : Uses .round2FullCommit s₀ s)
  (hcommon : ∀ s, Uses .round2FullCommit s₀ s → (common s).Commits s₀)

include hs hcommon

theorem commits_fromClient :
    (fullCommitFromClient env ω mc p status s common).Commits s₀ := by
  unfold fullCommitFromClient
  refine (commits_skipCycles hs).andThen fun s₁ hs₁ => ?_
  refine uses_debugThrowElseReturnVoid hs₁ ?_
  refine uses_debugThrow (hs₁.of_eq rfl rfl) fun s₂ hs₂ => ?_
  refine Outcome.Uses.andThen ?_ fun s₃ hs₃ => ?_
  · exact commits_round3RespondToPendingFetchRequests (hs₂.of_eq rfl rfl)
  · exact (commits_sendFetchRequest hs₃).andThen hcommon

theorem commits_branch : (fullCommitBranch env ω mc p status s common).Commits s₀ := by
  unfold fullCommitBranch
  split
  · exact commits_fromClient hs hcommon
  · split
    · exact commits_fullCommitFetchedResult hs hcommon
    · split
      · unfold fullCommitLocalConnectivity
        split
        · trivial
        · exact uses_debugThrowElseReturnVoid hs (commits_fullCommitLocalConnectivity hs hcommon)
      · split
        · exact commits_fullCommitRemoteConnectivity hs hcommon
        · split
          · exact commits_fullCommitLocalMembership hs hcommon
          · split
            · exact commits_fullCommitFullMembership hs hcommon
            · trivial

end Branches

end Uses

/-! ### What may wait -/

/-- A dispatch within round 2 leaves the cycles alone. -/
theorem ClusterOk.quiet (h : ClusterOk d σ) (hd : Dispatch d σ σ' y e ω before)
    (he : e.pMessage.isRound2 = true) (hfull : e.pMessage.msgType ≠ .round2FullCommit)
    (hempty : e.pMessage.msgType ≠ .empty) :
    (dispatcherRound2 (d.env y) ω e before.sl).state.mapRound3Status
      = before.sl.mapRound3Status := by
  obtain ⟨token, hinv⟩ := h.inv
  obtain ⟨b, i⟩ := y
  obtain ⟨a, log, h2⟩ := h.round2 b (Nat.lt_of_le_of_lt (Nat.zero_le i) hd.has.2)
  have hcases := dispatch_cases hd h2 fun hacc p hp ht => hinv.open_at_gate hd h2 (hacc ▸ hp) ht
  revert hcases
  generalize dispatcherRound2 (d.env (b, i)) ω e before.sl = o
  intro hcases
  cases hcases with
  | quiet s' a' v' he' hs h3 => exact congrArg Round3View.status h3
  | commit p hp hlt he' => exact absurd (by rw [he']; rfl) hfull
  | other he' =>
    rcases he' with he' | ⟨m, he', -⟩
    · exact absurd (he.symm.trans he') (by simp)
    · exact absurd (by rw [he']; rfl) hempty

/-- **A dispatch of what may wait** leaves what waits alone, or the SL wakes itself. -/
theorem ClusterOk.calm (h : ClusterOk d σ) (hd : Dispatch d σ σ' y e ω before)
    (hwait : CanWait e.pMessage) :
    Calm before.sl (dispatcherRound2 (d.env y) ω e before.sl) := by
  by_cases hversion : e.pMessage.header.version = versionLatest
  swap
  · unfold dispatcherRound2
    rw [if_pos hversion]
    trivial
  have hmain : dispatcherRound2 (d.env y) ω e before.sl
        = RCanopus.dispatcherRound2 (d.env y) ω e before.sl →
      (∀ m, e.pMessage ≠ .round2FullCommit m) →
      (∀ s, dispatcherRound2 (d.env y) ω e before.sl = .ok s → SamePhases before.sl s) →
      Calm before.sl (dispatcherRound2 (d.env y) ω e before.sl) := by
    intro heq hfull hphases
    refine Calm.of_main ?_ hphases
    rw [heq]
    exact dispatcherRound2_calm hfull
  cases hm : e.pMessage with
  | round2Preprepare p =>
    rw [hm] at hversion
    by_cases hpass : Passes before.sl p
    · refine hmain (dispatcherRound2_passes hm hversion hpass) (by simp [hm]) fun s hs => ?_
      have hquiet := h.quiet hd (by rw [hm]; rfl) (by simp [hm, Message.msgType])
        (by simp [hm, Message.msgType])
      rw [hs] at hquiet
      exact samePhases_of_eq hquiet
    · rw [dispatcherRound2_preprepare hm hversion]
      exact preprepare_calm hm hpass
  | round2PartialCommit m =>
    refine hmain (dispatcherRound2_main (by simp [hm, Message.msgType])
      (by simp [hm, Message.msgType]) (by simp [hm, Message.msgType])) (by simp [hm])
      fun s hs => ?_
    have hquiet := h.quiet hd (by rw [hm]; rfl) (by simp [hm, Message.msgType])
      (by simp [hm, Message.msgType])
    rw [hs] at hquiet
    exact samePhases_of_eq hquiet
  | round3GeneralFetch r =>
    refine hmain (dispatcherRound2_main (by simp [hm, Message.msgType])
      (by simp [hm, Message.msgType]) (by simp [hm, Message.msgType])) (by simp [hm])
      fun s hs => ?_
    unfold dispatcherRound2 at hs
    rw [if_neg (not_not.mpr hversion), hm] at hs
    have hs : dispatcherRound3GeneralFetchRequest (d.env y) e r before.sl = .ok s := hs
    have hphases : SamePhases before.sl
        (dispatcherRound3GeneralFetchRequest (d.env y) e r before.sl).state := phases_generalFetch
    rwa [hs] at hphases
  | round3ConnectivityResponse r =>
    refine hmain (dispatcherRound2_main (by simp [hm, Message.msgType])
      (by simp [hm, Message.msgType]) (by simp [hm, Message.msgType])) (by simp [hm])
      fun s hs => ?_
    unfold dispatcherRound2 at hs
    rw [if_neg (not_not.mpr hversion), hm] at hs
    exact phases_connectivityResponse hs
  | round3MembershipResponse r =>
    refine hmain (dispatcherRound2_main (by simp [hm, Message.msgType])
      (by simp [hm, Message.msgType]) (by simp [hm, Message.msgType])) (by simp [hm])
      fun s hs => ?_
    unfold dispatcherRound2 at hs
    rw [if_neg (not_not.mpr hversion), hm] at hs
    exact phases_membershipResponse hs
  | _ =>
    rw [hm] at hwait
    exact hwait.elim

/-- An SL puts back only what may wait. -/
theorem ClusterOk.juggled (h : ClusterOk d σ) (hd : Dispatch d σ σ' y e ω before)
    (ho : dispatcherRound2 (d.env y) ω e before.sl = .ok s') :
    ∃ l, s'.juggleQueue = before.sl.juggleQueue ++ l ∧ ∀ e ∈ l, CanWait e.pMessage := by
  have hnone : s'.juggleQueue = before.sl.juggleQueue →
      ∃ l, s'.juggleQueue = before.sl.juggleQueue ++ l ∧ ∀ e ∈ l, CanWait e.pMessage := fun heq =>
    ⟨[], by rw [heq, List.append_nil], by simp⟩
  by_cases hversion : e.pMessage.header.version = versionLatest
  swap
  · unfold dispatcherRound2 at ho
    rw [if_pos hversion] at ho
    exact absurd ho (by simp)
  by_cases hwait : CanWait e.pMessage
  · have hcalm := h.calm hd hwait
    rw [ho] at hcalm
    obtain ⟨⟨l, hl, hnew⟩, -⟩ := hcalm
    exact ⟨l, hl, fun e' he' => (hnew e' he').canWait⟩
  by_cases hfull : e.pMessage.msgType = .round2FullCommit
  · obtain ⟨b, i⟩ := y
    obtain ⟨a, log, h2⟩ := h.round2 b (Nat.lt_of_le_of_lt (Nat.zero_le i) hd.has.2)
    obtain ⟨p, -, hbranch⟩ := fullCommit_branch hd h2 hfull
    have huses : (dispatcherRound2 (d.env (b, i)) ω e before.sl).Commits before.sl := by
      rw [hbranch]
      exact commits_branch ((Uses.refl before.sl).of_eq rfl rfl)
        fun s hs => uses_spawnRound2 hs (by simp)
    rw [ho] at huses
    exact hnone (Uses.juggleQueue huses)
  by_cases hresponse : e.pMessage.msgType = .round3FetchResponse
  · unfold dispatcherRound2 at ho
    rw [if_neg (not_not.mpr hversion)] at ho
    cases hm : e.pMessage with
    | round3FetchResponse r =>
      rw [hm] at ho
      have huses : (dispatcherRound3FetchResponse (d.env y) ω r before.sl).Uses _ before.sl :=
        uses_fetchResponse
      have ho : dispatcherRound3FetchResponse (d.env y) ω r before.sl = .ok s' := ho
      rw [ho] at huses
      exact hnone (Uses.juggleQueue huses)
    | _ =>
      rw [hm] at hresponse
      exact absurd hresponse (by simp [Message.msgType])
  · have hpreprepare : e.pMessage.msgType ≠ .round2Preprepare := fun ht => by
      cases hm : e.pMessage with
      | round2Preprepare p =>
        rw [hm] at hwait
        exact hwait trivial
      | _ =>
        rw [hm] at ht
        exact absurd ht (by simp [Message.msgType])
    rw [dispatcherRound2_main hpreprepare hfull hresponse] at ho
    have hcalm : (RCanopus.dispatcherRound2 (d.env y) ω e before.sl).Calm before.sl :=
      dispatcherRound2_calm fun m hm => hfull (by rw [hm]; rfl)
    rw [ho] at hcalm
    obtain ⟨⟨l, hl, hnew⟩, -⟩ := hcalm
    exact ⟨l, hl, fun e' he' => canWait_of_waits (hnew e' he')⟩

theorem ClusterOk.canWait (h : ClusterOk d σ) (hd : Dispatch d σ σ' y e ω before)
    (hold : ∀ e ∈ before.sl.juggleQueue, CanWait e.pMessage)
    (ho : dispatcherRound2 (d.env y) ω e before.sl = .ok s') :
    ∀ e ∈ s'.juggleQueue, CanWait e.pMessage := by
  obtain ⟨l, hl, hnew⟩ := h.juggled hd ho
  rw [hl]
  exact fun e' he' => (List.mem_append.mp he').elim (hold e') (hnew e')

/-! ## Runs -/

/-- What an SL has put back waits, as long as nothing new is in its inbox. -/
structure Settled (node : Node) : Prop where
  canWait : ∀ e ∈ node.sl.juggleQueue, CanWait e.pMessage
  waits : node.inbox = [] →
    ∀ e ∈ node.sl.juggleQueue.drop node.passLeft, Waits node.sl e.pMessage

def JuggleOk (σ : Cluster) : Prop := ∀ y, (σ y).crashed = false → Settled (σ y)

theorem juggleOk_init : JuggleOk init := fun _ _ =>
  ⟨fun _ he => absurd he List.not_mem_nil, fun _ _ he => absurd he List.not_mem_nil⟩

/-- Nothing but new messages. -/
theorem Settled.congr {node node' : Node} (h : Settled node)
    (hjuggled : node'.sl.juggleQueue = node.sl.juggleQueue)
    (hwaits : ∀ m, Waits node.sl m → Waits node'.sl m) (hleft : node'.passLeft = node.passLeft)
    (hinbox : node'.inbox = [] → node.inbox = []) : Settled node' := by
  refine ⟨hjuggled ▸ h.canWait, fun hempty e he => hwaits _ (h.waits (hinbox hempty) e ?_)⟩
  rwa [← hjuggled, ← hleft]

/-- Only a few fields matter. -/
theorem Waits.of_eq (h : Waits s m) (hmain : RCanopus.Waits s m → RCanopus.Waits s' m)
    (hmap : s'.mapRound3Status = s.mapRound3Status) : Waits s' m :=
  h.congr (samePhases_of_eq hmap) hmain

/-- A dispatch at another SL brings new messages at most. -/
theorem settled_other (hd : Dispatch d σ σ' y e ω before) {z : Peer} (hne : z ≠ y)
    (h : Settled (σ z)) : Settled (σ' z) := by
  rw [hd.result]
  refine h.congr (by rw [install_sl_of_ne hne]) (fun m hm => ?_)
    (install_passLeft_of_ne hne) fun hempty => ?_
  · rw [install_sl_of_ne hne]
    exact hm
  · rw [install_inbox_of_ne hne, List.append_eq_nil_iff] at hempty
    exact hempty.1

/-- After a fresh message the pass has only begun. -/
theorem settled_receive (ho : dispatcherRound2 (d.env y) ω e before.sl = .ok s')
    (hleft : before.passLeft = s'.juggleQueue.length)
    (hcan : ∀ e ∈ s'.juggleQueue, CanWait e.pMessage) :
    Settled (install y before (dispatcherRound2 (d.env y) ω e before.sl) σ y) := by
  rw [ho]
  refine ⟨?_, fun _ e' he' => ?_⟩
  · rw [install_sl_self]
    exact hcan
  · rw [install_sl_self, install_passLeft_self, hleft] at he'
    have he' : e' ∈ s'.juggleQueue.drop s'.juggleQueue.length := he'
    rw [List.drop_length] at he'
    exact absurd he' List.not_mem_nil

/-- The pass puts an element back only if it waits, and what it has put back still waits. -/
theorem settled_retry (hcalm : Calm before.sl (dispatcherRound2 (d.env y) ω e before.sl))
    (ho : dispatcherRound2 (d.env y) ω e before.sl = .ok s')
    (hj : (σ y).sl.juggleQueue = e :: before.sl.juggleQueue)
    (hleft : (σ y).passLeft = before.passLeft + 1) (hinbox : before.inbox = (σ y).inbox)
    (hsl : before.sl = { (σ y).sl with juggleQueue := before.sl.juggleQueue })
    (h : Settled (σ y)) (hcan : ∀ e ∈ s'.juggleQueue, CanWait e.pMessage) :
    Settled (install y before (dispatcherRound2 (d.env y) ω e before.sl) σ y) := by
  rw [ho] at hcalm ⊢
  obtain ⟨⟨l, hl, hnew⟩, hself⟩ := hcalm
  refine ⟨?_, fun hempty e' he' => ?_⟩
  · rw [install_sl_self]
    exact hcan
  · rw [install_inbox_self, List.append_eq_nil_iff, hinbox] at hempty
    rw [install_sl_self, install_passLeft_self] at he'
    rw [install_sl_self]
    refine Waits.of_eq (s := s') ?_ waits_sendQueue rfl
    have he' : e' ∈ s'.juggleQueue.drop before.passLeft := he'
    rw [hl, List.drop_append] at he'
    rcases List.mem_append.mp he' with he' | he'
    · have hold : Waits before.sl e'.pMessage := by
        rw [hsl]
        refine (h.waits hempty.1 e' ?_).of_eq waits_juggleQueue rfl
        rw [hj, hleft, List.drop_succ_cons]
        exact he'
      rcases hself with ⟨e₀, he₀, hnull⟩ | hkept
      · -- a message to itself would be in the inbox
        have hdelivered := List.flatMap_eq_nil_iff.mp hempty.2 e₀ he₀
        unfold deliveries at hdelivered
        rw [if_pos ⟨rfl, hnull⟩] at hdelivered
        exact absurd hdelivered (by simp)
      · exact hkept _ hold
    · exact hnew e' (List.mem_of_mem_drop he')

/-- The clients bring new messages at most. -/
theorem settled_tick (ht : Tick d σ σ') (hleft : (σ' y).passLeft = (σ y).passLeft)
    (h : Settled (σ y)) : Settled (σ' y) := by
  obtain ⟨k, hk⟩ := ht.sl_eq y
  obtain ⟨new, hnew, -⟩ := ht.pool_eq y
  refine h.congr (by rw [hk]) (fun m hm => ?_) hleft fun hempty => ?_
  · rw [hk]
    refine hm.of_eq (fun hm => ?_) rfl
    cases m <;> exact hm
  · unfold pool at hnew
    rw [hk, add_right_comm, hempty] at hnew
    have hnew := (add_right_cancel hnew).symm
    rw [Multiset.coe_nil, Multiset.coe_add, Multiset.coe_eq_zero,
      List.append_eq_nil_iff] at hnew
    exact hnew.1

/-- Every step keeps it. -/
theorem JuggleOk.step (h : JuggleOk σ) (hok : ClusterOk d σ) (hs : Step d σ σ') : JuggleOk σ' := by
  intro y hy
  obtain ⟨l, hl⟩ := hs
  have halive : ∀ {x e ω before}, Dispatch d σ σ' x e ω before → y ≠ x →
      (σ y).crashed = false := by
    intro x e ω before hd hne
    rw [hd.result, install_crashed_of_ne hne] at hy
    exact hy
  have htick : Tick d σ σ' → (σ' y).passLeft = (σ y).passLeft → Settled (σ' y) := fun ht hleft =>
    settled_tick ht hleft (h y (ht.crashed_eq y ▸ hy))
  cases l with
  | receive x i ω =>
    obtain ⟨e, before, hd, -, hbefore, hleft, -⟩ := receive_dispatch hl
    by_cases hyx : y = x
    · subst hyx
      rw [hd.result] at hy ⊢
      cases ho : dispatcherRound2 (d.env y) ω e before.sl with
      | thrown ex s' =>
        rw [ho, install_thrown_crashed] at hy
        exact absurd hy (by simp)
      | ok s' =>
        rw [ho] at hleft
        have hold : ∀ e ∈ before.sl.juggleQueue, CanWait e.pMessage := by
          rw [hbefore]
          exact (h y hd.alive).canWait
        exact ho ▸ settled_receive ho hleft (hok.canWait hd hold ho)
    · exact settled_other hd hyx (h y (halive hd hyx))
  | retry x ω =>
    obtain ⟨e, before, hd, hj, hleft, hinbox, -⟩ := retry_dispatch hl
    by_cases hyx : y = x
    · subst hyx
      have hsettled := h y hd.alive
      have hfront : CanWait e.pMessage := hsettled.canWait e (by rw [hj]; exact List.mem_cons_self)
      have hold : ∀ e ∈ before.sl.juggleQueue, CanWait e.pMessage := fun e' he' =>
        hsettled.canWait e' (by rw [hj]; exact List.mem_cons_of_mem _ he')
      rw [hd.result] at hy ⊢
      cases ho : dispatcherRound2 (d.env y) ω e before.sl with
      | thrown ex s' =>
        rw [ho, install_thrown_crashed] at hy
        exact absurd hy (by simp)
      | ok s' =>
        exact ho ▸ settled_retry (hok.calm hd hfront) ho hj hleft hinbox hd.sl_eq hsettled
          (hok.canWait hd hold ho)
    · exact settled_other hd hyx (h y (halive hd hyx))
  | clientTick x content => exact htick (clientTick_tick hl) (clientTick_passLeft hl)
  | leaderTick bg => exact htick (leaderTick_tick hl) (leaderTick_passLeft hl)
  | pipeReadable bg => exact htick (pipeReadable_tick hl) (pipeReadable_passLeft hl)

theorem juggleOk_of_reachable (hfits : d.conf.Fits) (h : Reachable d σ) : JuggleOk σ := by
  have hboth : ClusterOk d σ ∧ JuggleOk σ :=
    h.induct (P := fun σ => ClusterOk d σ ∧ JuggleOk σ) ⟨clusterOk_init, juggleOk_init⟩
      fun _ _ h hs => ⟨h.1.step hfits hs, h.2.step h.1 hs⟩
  exact hboth.2

end RCanopus.Hybrid
