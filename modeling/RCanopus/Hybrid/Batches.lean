import RCanopus.Batches
import RCanopus.Hybrid.Round3Frame

/-!
# The batches of the clients in the hybrid variant

The leader counts batches and starts rounds as in `ConnManager.cpp`, so the account of the batches
is the same.
-/

namespace RCanopus.Hybrid

open Cluster

section Dispatch

variable {env : Env} {ω : Choice} {e : QueueElement} {s : ConnManager}

theorem noBatches_dispatch (hs : NoBatches s)
    (he : env.conf.sLid = 0 ∨ e.pMessage.batchOf = none) :
    NoBatches (dispatcherRound2 env ω e s).state := by
  refine dispatcherRound2_frame (Q := fun o => NoBatches o.state) noBatches_dispatchFrame hs
    (fun _ _ h => h) (fun _ h => h) (fun _ h => h.startRound2IfPossible)
    (fun _ _ h _ => NoBatches.startRound2IfPossible (h.congr rfl rfl)) (fun _ _ h => h)
    (fun _ h => h.spawnRound2) fun m hm => ?_
  rcases he with hleader | he
  · exact hs.dispatcherRound2Request hleader
  · rw [hm] at he
    cases he

theorem batches_dispatch {received : Nat → Nat} {fromSelf : Nat} (hleader : env.conf.sLid = 0)
    (hs : Batches env received fromSelf s) (he : e.pMessage.Countable env) :
    Batches env (receivedAfter received e.pMessage.batchOf) fromSelf
      (dispatcherRound2 env ω e s).state := by
  cases hm : e.pMessage with
  | round2Request m =>
    rw [dispatcherRound2_main (by simp [hm, Message.msgType]) (by simp [hm, Message.msgType])
      (by simp [hm, Message.msgType]), ← hm]
    exact hs.dispatcherRound2 hleader he
  | _ =>
    refine dispatcherRound2_frame (Q := fun o => Batches env received fromSelf o.state)
      (batches_dispatchFrame env received fromSelf) hs (fun _ _ h => h) (fun _ h => h)
      (fun _ h => h.startRound2IfPossible hleader)
      (fun _ _ h hp => (h.push hp).startRound2IfPossible hleader) (fun _ _ h => h)
      (fun _ h => h.spawnRound2 hleader) fun m h => ?_
    rw [hm] at h
    cases h

theorem asleep_dispatch (hleader : env.conf.sLid = 0) (hs : Asleep env s) :
    (dispatcherRound2 env ω e s).FallsAsleep env :=
  dispatcherRound2_frame (asleep_dispatchFrame env) hs (fun _ _ _ => trivial) (fun _ h => h)
    (fun _ _ => startRound2IfPossible_asleep hleader)
    (fun _ _ _ _ => startRound2IfPossible_asleep hleader) (fun _ _ _ => trivial)
    (fun _ _ => spawnRound2_asleep hleader) fun _ _ => hs.dispatcherRound2Request hleader

/-- Batches are dealt with as in the other program. -/
theorem dispatcherRound2_deals (env : Env) (ω : Choice) (e : QueueElement) (s : ConnManager) :
    Deals env e s (dispatcherRound2 env ω e s) where
  noBatches hs he := noBatches_dispatch hs he
  counters hleader _ _ hs he := batches_dispatch hleader hs he
  asleep hleader hs := by
    rcases hs with hasleep | hempty
    · exact asleep_dispatch hleader hasleep
    · rw [dispatcherRound2_main (by simp [hempty]) (by simp [hempty]) (by simp [hempty])]
      exact (RCanopus.dispatcherRound2_deals env ω e s).asleep hleader (Or.inr hempty)

end Dispatch

/-! ## Runs -/

variable {d : Deployment} {σ σ' : Cluster} {bg : Nat} {labels rest : List Label} {l : Label}

/-- Every step keeps the account of the batches. -/
theorem batchesOk_step (h : BatchesOk d bg labels σ) (hl : step d σ l = some σ') :
    BatchesOk d bg (labels ++ [l]) σ' := by
  cases l with
  | receive x i ω =>
    obtain ⟨e, before, hd, hget, hbefore, -, hinbox, hpipe, -⟩ := receive_dispatch hl
    refine BatchesOk.snoc ?_ rfl fun _ => rfl
    refine h.dispatchTo hd (dispatcherRound2_deals (d.env x) ω e before.sl) ?_ ?_ hpipe
    · rw [hbefore]
      exact fun _ he => he
    · intro e' he'
      obtain ⟨hi, he⟩ := List.getElem?_eq_some_iff.mp hget
      have hmem := (List.getElem_cons_eraseIdx_perm hi).mem_iff.mpr he'
      rw [he, ← hinbox] at hmem
      exact List.mem_cons.mp hmem
  | retry x ω =>
    obtain ⟨e, before, hd, hj, -, hinbox, hpipe, -⟩ := retry_dispatch hl
    refine BatchesOk.snoc ?_ rfl fun _ => rfl
    refine h.dispatchTo hd (dispatcherRound2_deals (d.env x) ω e before.sl) ?_ ?_ hpipe
    · rw [hj]
      exact fun _ he => List.mem_cons_of_mem _ he
    · intro e' he'
      rw [hinbox]
      exact Or.inr he'
  | clientTick x content => exact h.clientTick hl
  | leaderTick b => exact h.leaderTick hl
  | pipeReadable b => exact (h.pipeReadable hl).snoc rfl fun _ => rfl

theorem batchesOk_run (h : BatchesOk d bg labels σ) (hrun : run d σ rest = some σ') :
    BatchesOk d bg (labels ++ rest) σ' := by
  induction rest generalizing labels σ with
  | nil =>
    cases hrun
    rw [List.append_nil]
    exact h
  | cons l rest ih =>
    obtain ⟨τ, hl, hrest⟩ := Option.bind_eq_some_iff.mp hrun
    have hall := ih (batchesOk_step h hl) hrest
    rwa [List.append_assoc] at hall

end RCanopus.Hybrid
