import RCanopus.Termination
import RCanopus.Hybrid.Batches
import RCanopus.Hybrid.Round3Run

/-!
# Without the clients the servers of the hybrid variant come to rest

A Preprepare that the gate holds back is put back like any other message, and a result that an SL
keeps is gone. So every step lowers the measure that the steps of `ConnManager.cpp` lower.
-/

namespace RCanopus.Hybrid

open Cluster Descent

/-! ## What a message can still cause -/

section Handlers

variable {env : Env} {ω : Choice} {s₀ s : ConnManager} {e : QueueElement} {status : CycleStatus}

theorem settles_storePreprepare {p : MessageRound2Preprepare} (hs : Still s₀ s) :
    (storePreprepare env p status s).Settles env e s₀ := by
  unfold storePreprepare
  refine settles_debugThrowElseReturnVoid hs ?_
  refine debugThrow_still hs (fun _ _ => trivial) fun s hs => ?_
  exact settles_acceptPreprepare hs.progress

theorem settles_preprepare {p : MessageRound2Preprepare} :
    (dispatcherRound2Preprepare env e p s).Settles env e s := by
  unfold dispatcherRound2Preprepare
  dsimp only
  have hs : Still s { s with
      pRound2CurrentStatus := some (s.pRound2CurrentStatus.getD .waitingForPreprepare) } :=
    .of_eq rfl rfl rfl
  split
  · exact settles_juggle hs
  · refine debugThrow_still hs (fun _ _ => trivial) fun s hs => ?_
    refine debugThrow_still hs (fun _ _ => trivial) fun s hs => ?_
    split
    · exact settles_juggle hs
    · split
      · split
        · exact settles_debugThrowElseReturnVoid hs (.dropped hs)
        · split
          · exact settles_juggle hs
          · exact settles_storePreprepare hs
      · exact settles_storePreprepare hs

/-- A full commit takes its round to the end, or it is dropped or put back. -/
theorem settles_fullCommit {m : MessageRound2FullCommit} :
    (dispatcherRound2FullCommit env ω e m s).Settles env e s := by
  unfold dispatcherRound2FullCommit
  split
  · exact settles_juggle (.refl s)
  · split
    · exact settles_juggle (.refl s)
    · refine settles_debugThrowElseReturnVoid (.refl s) ?_
      refine settles_debugThrowElseReturnVoid (.refl s) ?_
      refine settles_debugThrowElseReturnVoid (.refl s) ?_
      split
      · trivial
      · dsimp only
        refine fullCommitBranch_frame (progress_commitFrame s.progress) ?_ (fun _ _ _ => trivial)
          (fun _ hs => .progress hs) (fun _ _ _ => trivial) fun _ hs => settles_spawnRound2 hs
        rw [progress_note rfl]
        exact Nat.lt_succ_self _

/-- An SL that keeps a result sends nothing, but the leader may start a round. -/
theorem settles_fetchResponse {r : MessageRound3FetchResponse} :
    (dispatcherRound3FetchResponse env ω r s).Settles env e s := by
  unfold dispatcherRound3FetchResponse spawnRound2
  dsimp only
  split
  · trivial
  · refine debugThrow_still (.refl s) (fun _ _ => trivial) fun s₁ hs => ?_
    split
    · split
      · exact settles_start (hs.trans (.of_eq rfl rfl rfl))
      · exact .dropped (hs.trans (.of_eq rfl rfl rfl))
    · split
      · exact settles_start (hs.trans (.of_eq rfl rfl rfl))
      · exact .dropped (hs.trans (.of_eq rfl rfl rfl))

theorem dispatcherRound2_settles
    (hbatch : env.conf.sLid = 0 ∨ e.pMessage.msgType ≠ .round2Request) :
    (dispatcherRound2 env ω e s).Settles env e s := by
  by_cases hsame : e.pMessage.msgType ≠ .round2Preprepare ∧ e.pMessage.msgType ≠ .round2FullCommit
    ∧ e.pMessage.msgType ≠ .round3FetchResponse
  · rw [dispatcherRound2_main hsame.1 hsame.2.1 hsame.2.2]
    exact RCanopus.dispatcherRound2_settles hbatch
  · unfold dispatcherRound2
    split
    · trivial
    · cases hm : e.pMessage with
      | round2Preprepare p => exact settles_preprepare
      | round2FullCommit m => exact settles_fullCommit
      | round3FetchResponse r => exact settles_fetchResponse
      | _ =>
        rw [hm] at hsame
        exact absurd ⟨by simp [Message.msgType], by simp [Message.msgType],
          by simp [Message.msgType]⟩ hsame

end Handlers

/-! ## Steps of the servers -/

/-- A step that is no batch of a client. -/
def Internal (d : Deployment) (σ σ' : Cluster) : Prop :=
  ∃ l : Label, l.isTick = false ∧ step d σ l = some σ'

variable {d : Deployment} {σ σ' : Cluster} {x : Peer} {e : QueueElement} {ω : Choice}
  {before : Node}

theorem Reachable.internal (h : Reachable d σ) (hs : Internal d σ σ') : Reachable d σ' := by
  obtain ⟨l, -, hl⟩ := hs
  exact h.step ⟨l, hl⟩

theorem batchesOk_of_reachable (h : Reachable d σ) (bg : Nat) :
    ∃ labels, BatchesOk d bg labels σ := by
  refine h.induct (P := fun σ => ∃ labels, BatchesOk d bg labels σ)
    ⟨[], batchesOk_init d bg⟩ fun σ σ' hok hs => ?_
  obtain ⟨labels, hok⟩ := hok
  obtain ⟨l, hl⟩ := hs
  exact ⟨labels ++ [l], batchesOk_step hok hl⟩

theorem work_lt_of_dispatch (hfits : d.conf.Fits) (hreach : Reachable d σ)
    (hd : Dispatch d σ σ' x e ω before) (hpipe : pipeDue before = pipeDue (σ x))
    (hback : before.inbox.length < (σ x).inbox.length
      ∨ before.inbox.length = (σ x).inbox.length ∧ before.passLeft < (σ x).passLeft) :
    work d σ' < work d σ := by
  obtain ⟨labels, hok⟩ := batchesOk_of_reachable hreach x.1
  obtain ⟨b, i⟩ := x
  have hpos : 0 < d.conf.numSL b := Nat.lt_of_le_of_lt (Nat.zero_le i) hd.has.2
  obtain ⟨a, log, hinv⟩ := (clusterOk_of_reachable hfits hreach).round2 b hpos
  refine hd.work_lt (dispatcherRound2_settles (hok.leader_or hd)) ?_ (progress_lt hinv hd.has.2)
    hpipe hback
  rw [hd.sl_eq]
  exact hinv.sendQueue i hd.has.2

/-- **Every step of the servers lowers the measure.** -/
theorem Internal.work_lt (hfits : d.conf.Fits) (hreach : Reachable d σ) (hs : Internal d σ σ') :
    work d σ' < work d σ := by
  obtain ⟨l, htick, hl⟩ := hs
  cases l with
  | receive x i ω =>
    obtain ⟨e, before, hd, he, -, -, hinbox, hpipe, hlistener⟩ := receive_dispatch hl
    refine work_lt_of_dispatch hfits hreach hd (pipeDue_congr hpipe hlistener) (Or.inl ?_)
    rw [hinbox]
    obtain ⟨hi, -⟩ := List.getElem?_eq_some_iff.mp he
    rw [List.length_eraseIdx_of_lt hi]
    omega
  | retry x ω =>
    obtain ⟨e, before, hd, -, hleft, hinbox, hpipe, hlistener⟩ := retry_dispatch hl
    refine work_lt_of_dispatch hfits hreach hd (pipeDue_congr hpipe (by rw [hlistener]))
      (Or.inr ⟨congrArg _ hinbox, ?_⟩)
    rw [hleft]
    exact Nat.lt_succ_self _
  | clientTick x content => cases htick
  | leaderTick bg => cases htick
  | pipeReadable bg => exact pipeReadable_work_lt hl

/--
**Without the clients the servers come to rest.** From any reachable state there is no infinite run
without ticks of the clients, whatever the order of the steps is and whatever the SLs draw.
-/
theorem servers_terminate (hfits : d.conf.Fits) (hreach : Reachable d σ) :
    Terminates (Internal d) σ :=
  terminates_of_measure (work d) (fun h hs => h.internal hs) (fun h hs => hs.work_lt hfits h) hreach

end RCanopus.Hybrid
