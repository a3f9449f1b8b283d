import RCanopus.Round3Commit
import RCanopus.Hybrid.Round3Inv

/-!
# The leader of the hybrid variant starts a round

Starting a round is the same in both programs. In the gathering it moves one entry from the queue to
the log, or it adds the next client cycle to the log.
-/

namespace RCanopus.Hybrid

open Cluster

variable {d : Deployment} {σ σ' : Cluster} {b : Nat} {y z : Peer} {e : QueueElement} {ω : Choice}
  {before : Node} {s s' : ConnManager} {token : FetchKind → Peer → Nat → UInt16 → Token}
  {p : MessageRound2Preprepare}

section Issue

variable (hs : Issues d b p s s')

include hs

theorem Issues.accepted (z : Peer) : Cluster.accepted (install (b, 0) before (.ok s') σ) z
    = Cluster.accepted (install (b, 0) before (.ok s) σ) z := by
  rw [accepted_install, accepted_install]
  split
  · show acceptedOf s'.history = acceptedOf s.history
    rw [hs.history, acceptedOf_append]
    exact List.append_nil _
  · rfl

theorem Issues.gathering_eq : gathering (install (b, 0) before (.ok s') σ) token
    = (gathering (install (b, 0) before (.ok s) σ) token).issue b (entryOf p)
      (s'.pLeaderRound2PendingPreprepareRaw.map entryOf) := by
  have h : exchange (install (b, 0) before (.ok s') σ) (fun _ _ _ _ => .idle) = _ := hs.exchange_eq
  have hlog := congrArg Exchange.log h
  have hqueue := congrArg Exchange.queue h
  have hcommitted := congrArg Exchange.committed h
  unfold gathering Gathering.issue
  simp only [Gathering.mk.injEq, and_true]
  refine ⟨hlog, hqueue, ?_, hcommitted⟩
  funext z
  rw [Issues.accepted hs]

/-- The invariant after a Preprepare was issued. -/
theorem Round3Inv.issue (h : Round3Inv d (install (b, 0) before (.ok s) σ) token)
    (hp : Proposal d (install (b, 0) before (.ok s) σ) b p)
    (hinv : (gathering (install (b, 0) before (.ok s') σ) token).Inv d.layout)
    (hclients : ClientsOk d (install (b, 0) before (.ok s') σ) b) :
    Round3Inv d (install (b, 0) before (.ok s') σ) token := by
  have hcommitted : ∀ z, Cluster.committed (install (b, 0) before (.ok s) σ) z
      ⊆ Cluster.committed (install (b, 0) before (.ok s') σ) z := by
    intro z
    rw [hs.committed]
    exact fun q hq => hq
  have huntouched : ∀ z, Untouched d.layout
      (gathering (install (b, 0) before (.ok s) σ) token)
      (gathering (install (b, 0) before (.ok s') σ) token) z := by
    intro z
    refine ⟨?_, fun _ _ _ _ => Iff.rfl, fun _ _ _ => Iff.rfl⟩
    show (Cluster.committed _ z).map entryOf = (Cluster.committed _ z).map entryOf
    rw [hs.committed]
  refine ⟨hinv, fun z => ?_, hs.proposals h.issued hp, fun b' => ?_, fun z k w c => ?_,
    fun z k A c => ?_, fun z e he => ?_⟩
  · by_cases hz : z = (b, 0)
    · subst hz
      have hsl := h.sl (b, 0)
      rw [install_sl_self] at hsl ⊢
      have hsl' := hsl.untouched (huntouched _) hs.issued_subset (hcommitted _)
      refine ⟨?_, ?_, ?_, ?_, ?_, ?_⟩
      · exact hs.status ▸ hsl'.status
      · exact hs.pending ▸ hsl'.pending
      · exact hs.storage ▸ hsl'.storage
      · exact hs.closedOf.trans (hsl'.closed.trans hs.storage.symm)
      · intro ev hev
        have hev : ev ∈ s'.history := hev
        rw [hs.history] at hev
        rcases List.mem_append.mp hev with hev | hev
        · exact hsl'.events ev hev
        · rw [List.mem_singleton] at hev
          subst hev
          trivial
      · exact fun q hq => hsl'.proposals q (hs.queue hq)
    · have hsl := h.sl z
      rw [install_sl_of_ne hz] at hsl ⊢
      exact hsl.untouched (huntouched z) hs.issued_subset (hcommitted z)
  · by_cases hb : b' = b
    · subst hb
      exact hclients
    · exact hs.clients_other hb (h.clients b')
  · rw [hs.countKey (by simp) fun _ => rfl]
    exact h.requests z k w c
  · rw [hs.countKey (by simp) fun _ => rfl]
    exact h.responses z k A c
  · rcases hs.mem_pool he with he | ⟨m, hm⟩
    · exact (h.good z e he).mono hs.issued_subset
    · rw [hm]
      trivial

end Issue

/-! ## Dispatches that end in this way -/

/-- The dispatcher keeps the invariant, for some tokens. -/
structure Keeps3 (d : Deployment) (σ : Cluster) (y : Peer) (before : Node) (o : Outcome) :
    Prop where
  ends : Ends d y o
  inv : ∃ token', Round3Inv d (install y before o σ) token'

section Round

variable (h : Round3Inv d (install (b, 0) before (.ok s) σ) token)

include h

theorem Round3Inv.canIssue : CanIssue d (install (b, 0) before (.ok s) σ) b s := by
  have hsl := h.sl (b, 0)
  rw [install_sl_self] at hsl
  refine ⟨h.clients b, hsl.proposals, fun p hp => ?_⟩
  refine (h.inv.queued b (entryOf p) ?_).1
  show _ ∈ (install (b, 0) before (.ok s) σ (b, 0)).sl.pLeaderRound2PendingPreprepareRaw.map entryOf
  rw [install_sl_self]
  exact List.mem_map_of_mem hp

theorem Round3Inv.started (hd : Dispatch d σ σ' (b, 0) e ω before) (h2 : Round2Ok d σ')
    (hout : dispatcherRound2 (d.env (b, 0)) ω e before.sl
      = startRound2IfPossible (d.env (b, 0)) ω s)
    (hrunning : ∀ status, s.pRound2CurrentStatus = some status → status.state ≠ .round2Committed) :
    Keeps3 d σ (b, 0) before (startRound2IfPossible (d.env (b, 0)) ω s) := by
  have hshort : ∀ s', startRound2IfPossible (d.env (b, 0)) ω s = .ok s' →
      (Cluster.issued (install (b, 0) before (.ok s') σ) b).length < 2 ^ 16 := fun s' ho => by
    obtain ⟨a, log, hlog⟩ := h2 b hd.has.2
    have hle := length_le hlog.toLogOk hd.has.2
    rw [← issued_eq hlog hd.has.2, hd.result, hout, ho] at hle
    omega
  obtain ⟨s', ho, hstarted, hunstuck⟩ := h.canIssue.start (ω := ω) hrunning hshort
  rw [ho]
  refine ⟨.returns s' hunstuck, token, ?_⟩
  have hqueue : (gathering (install (b, 0) before (.ok s) σ) token).queue b
      = s.pLeaderRound2PendingPreprepareRaw.map entryOf := by
    show ((install (b, 0) before (.ok s) σ (b, 0)).sl.pLeaderRound2PendingPreprepareRaw).map _ = _
    rw [install_sl_self]
    rfl
  cases hstarted with
  | kept => exact h
  | issued p s' hs hp hclients hfrom =>
    refine Round3Inv.issue hs h hp ?_ hclients
    rw [Issues.gathering_eq hs]
    cases hfrom with
    | queue hperm => exact h.inv.issue_queued (hqueue ▸ hperm)
    | clients c hentry hfresh hsame =>
      rw [hentry, hsame, ← hqueue]
      exact h.inv.issue_client hfresh

end Round

/-- **Spawning a new round** at the end of a handler. -/
theorem Round3Inv.spawned (h : Round3Inv d (install y before (.ok s) σ) token)
    (hd : Dispatch d σ σ' y e ω before) (h2 : Round2Ok d σ')
    (hout : dispatcherRound2 (d.env y) ω e before.sl = spawnRound2 (d.env y) ω s)
    (hrunning : ∀ status, s.pRound2CurrentStatus = some status → status.state ≠ .round2Committed) :
    Keeps3 d σ y before (spawnRound2 (d.env y) ω s) := by
  obtain ⟨b, i⟩ := y
  have hleader : (d.env (b, i)).conf.isRound2Leader = (i == 0) := rfl
  unfold spawnRound2 at hout ⊢
  rw [hleader] at hout ⊢
  by_cases hi : i = 0
  · subst hi
    rw [beq_self_eq_true, if_pos rfl] at hout ⊢
    exact h.started hd h2 hout hrunning
  · rw [beq_false_of_ne hi, if_neg Bool.false_ne_true]
    exact ⟨.returns s ⟨hrunning, fun h0 => absurd h0 hi⟩, token, h⟩

end RCanopus.Hybrid
