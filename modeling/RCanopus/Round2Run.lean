import RCanopus.Round2Steps

/-!
# Round 2 in all runs

Every step keeps the invariant of round 2 in every BG, so it holds in every reachable state.
-/

namespace RCanopus

open Cluster

variable {d : Deployment} {σ σ' : Cluster} {b i : Nat} {e : QueueElement} {ω : Choice}
  {before : Node} {a : LockStep.State} {log : List MessageRound2Preprepare} {v : Round2View}

/-! ## Dispatches -/

/-- BG `b` has the invariant after a step, and the step did not touch round 2 of other BGs. -/
structure Round2Next (d : Deployment) (σ σ' : Cluster) (b : Nat) (a : LockStep.State)
    (log : List MessageRound2Preprepare) : Prop where
  own : Round2Inv d σ' b a log
  others : ∀ b', b' ≠ b → ∀ a₀ log₀, Round2Inv d σ b' a₀ log₀ → Round2Inv d σ' b' a₀ log₀

section Close

variable {a₀ : LockStep.State} {log₀ : List MessageRound2Preprepare} {o : Outcome}
  (hd : DispatchTo d σ σ' (b, i) e before o) (hinv : Round2Inv d σ b a₀ log₀)
  (hst : Staged d σ b i ↑before.inbox a log v)

include hd hinv hst

theorem Staged.close (ho : o.Keeps v) : Round2Next d σ σ' b a log where
  own := hst.finish hd hinv ho
  others := fun _ hb _ _ h => hst.finish_other hd hb ho h

theorem Staged.close_spawned (ho : Spawned (d.env (b, i)) v o) :
    ∃ a' log', Round2Next d σ σ' b a' log' := by
  cases ho with
  | kept s hs => exact ⟨a, log, hst.close hd hinv hs⟩
  | thrown ex s hs => exact ⟨a, log, hst.close hd hinv hs⟩
  | issued p s hleader hidle hversion hs =>
    have hi : i = 0 := hleader
    subst hi
    obtain ⟨s', ho', hs'⟩ : ∃ s', sendPreprepare (d.env (b, 0)) p s = .ok s' ∧ s'.At _ :=
      sendPreprepare_at hs
    obtain ⟨-, hst'⟩ := hst.propose hd.has.2 hidle hversion
    refine ⟨_, _, hst'.close hd hinv ?_⟩
    rw [ho']
    exact hs'

end Close

/-- A dispatch keeps the invariant. -/
theorem Round2Inv.dispatch (hd : Dispatch d σ σ' (b, i) e ω before)
    (hinv : Round2Inv d σ b a log) : ∃ a' log', Round2Next d σ σ' b a' log' := by
  have hcases := hinv.dispatch_cases hd
  have hs := hd.to.at_before hinv
  revert hcases
  generalize hout : dispatcherRound2 (d.env (b, i)) ω e before.sl = o
  intro hcases
  cases hcases with
  | quiet s' a' v' he hs' h3 hcom hstatus hst =>
    exact ⟨a', log, hst.close hd.to hinv (by rw [hout]; exact hs')⟩
  | other he hst =>
    refine hst.close_spawned hd.to hinv ?_
    rcases he with he | ⟨m, hm, hi⟩
    · exact dispatcherRound2_spawned he hs
    · exact dispatcherRound2_empty hm hi hs
  | commit p hp hlt he hst hst' =>
    have hfinished : Finished (d.env (b, i)) (before.sl.round2View.commit p.copy)
        (dispatcherRound2 (d.env (b, i)) ω e before.sl) := by
      rw [hout]
      exact fullCommitBranch_finished (fun _ h => spawnRound2_finished h) (at_beforeBranch hs)
    revert hfinished
    generalize hout' : dispatcherRound2 (d.env (b, i)) ω e before.sl = o
    intro hfinished
    cases hfinished with
    | returned s hs => exact ⟨_, _, hst.close hd.to hinv (by rw [hout']; exact hs)⟩
    | cleared o h => exact hst'.close_spawned hd.to hinv (by rw [hout']; exact h)

/-! ## Ticks -/

theorem Round2Inv.tick (ht : Tick d σ σ') (hinv : Round2Inv d σ b a log) :
    Round2Inv d σ' b a log := by
  have hview : ∀ y, (σ' y).sl.round2View = (σ y).sl.round2View := fun y => by
    obtain ⟨k, hk⟩ := ht.sl_eq y
    rw [hk]
    rfl
  refine { hinv.toLogOk with
    trace := fun i hi => ?_
    live := fun i hi hcrashed => ?_
    versions := fun i hi hcrashed => ?_
    sendQueue := fun i hi => ?_
    flight := fun i hi => ?_ }
  · rw [hview]
    exact hinv.trace i hi
  · rw [hview]
    exact hinv.live i hi (ht.crashed_eq _ ▸ hcrashed)
  · obtain ⟨k, hk⟩ := ht.sl_eq (b, i)
    rw [hk]
    exact hinv.versions i hi (ht.crashed_eq _ ▸ hcrashed)
  · obtain ⟨k, hk⟩ := ht.sl_eq (b, i)
    rw [hk]
    exact hinv.sendQueue i hi
  · obtain ⟨l, hl, hnew⟩ := ht.pool_eq (b, i)
    have hflight := hinv.flight i hi
    have hzero : ∀ t : MessageType, t ≠ .empty → t.isRound2 = true →
        ofType t (pool σ' (b, i)) = ofType t (pool σ (b, i)) := fun t ht hr => by
      have hnone : ofType t (↑l : Multiset QueueElement) = 0 := ofType_eq_zero fun e he heq => by
        rw [← heq] at ht hr
        rcases (hnew e he).2 with hm | ⟨sl, content, -, hm⟩
        · rw [hm] at ht
          exact ht rfl
        · rw [hm] at hr
          exact absurd hr (by simp [Message.msgType, MessageType.isRound2])
      rw [hl, ofType_add, hnone, add_zero]
    exact {
      preprepare := (hzero _ (by decide) rfl).trans hflight.preprepare
      partialCommit := (hzero _ (by decide) rfl).trans hflight.partialCommit
      fullCommit := (hzero _ (by decide) rfl).trans hflight.fullCommit
      empty := fun e he => by
        rw [hl, ofType_add] at he
        rcases Multiset.mem_add.mp he with he | he
        · exact hflight.empty e he
        · obtain ⟨he, htype⟩ := mem_ofType.mp he
          obtain ⟨hi0, hm | ⟨sl, content, -, hm⟩⟩ := hnew e (Multiset.mem_coe.mp he)
          · exact ⟨hi0, hm⟩
          · rw [hm] at htype
            exact absurd htype (by simp [Message.msgType]) }

/-! ## Runs -/

/-- At the start no SL has done anything. -/
theorem round2Ok_init : Round2Ok d init := by
  intro b hn
  refine ⟨.init, [], ?_⟩
  exact {
    lock := LockStep.inv_init hn
    len := rfl
    short := by decide
    collected := fun h => absurd rfl h
    entries := fun k p hp => absurd hp (by simp)
    trace := fun i _ =>
      { issued := by split <;> rfl
        accepted := rfl
        committed := rfl
        counted := by
          show [] = countedAt b i .init [] 0 ++ []
          unfold countedAt
          split <;> rfl
        sent := rfl }
    live := fun i _ _ =>
      { nextView := rfl
        nextSeq := by
          show (1 : UInt16) = seqOf (if i = 0 then 0 else 0)
          rw [ite_self]
          rfl
        collectorRr := hn
        phase := .ready rfl rfl (Or.inl rfl) fun _ => ⟨fun _ => rfl, fun _ => rfl⟩ }
    versions := fun _ _ _ p hp => absurd hp List.not_mem_nil
    sendQueue := fun _ _ => rfl
    flight := fun i _ =>
      { preprepare := rfl
        partialCommit := by
          have hopen : openVotes (d.conf.numSL b) .init = ∅ :=
            Finset.filter_eq_empty_iff.mpr fun j _ h => absurd h.1 (Nat.lt_irrefl 0)
          rw [hopen]
          split <;> rfl
        fullCommit := rfl
        empty := fun e he => absurd he (Multiset.notMem_zero e) } }

/-- Every step keeps the invariant in every BG. -/
theorem Round2Ok.step (h : Round2Ok d σ) (hs : Step d σ σ') : Round2Ok d σ' := by
  intro b hn
  rcases step_cases hs with ⟨⟨b', i⟩, e, ω, before, hd⟩ | ht
  · obtain ⟨a, log, hinv⟩ := h b' (Nat.lt_of_le_of_lt (Nat.zero_le i) hd.has.2)
    obtain ⟨a', log', hnext⟩ := hinv.dispatch hd
    by_cases hb : b = b'
    · subst hb
      exact ⟨a', log', hnext.own⟩
    · obtain ⟨a₀, log₀, hinv₀⟩ := h b hn
      exact ⟨a₀, log₀, hnext.others b hb a₀ log₀ hinv₀⟩
  · obtain ⟨a, log, hinv⟩ := h b hn
    exact ⟨a, log, hinv.tick ht⟩

/-- **The invariant of round 2 holds in every reachable state.** -/
theorem round2Ok_of_reachable (h : Reachable d σ) : Round2Ok d σ :=
  h.induct round2Ok_init fun _ _ h hs => h.step hs

end RCanopus
