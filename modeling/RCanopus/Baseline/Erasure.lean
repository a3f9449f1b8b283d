import RCanopus.Baseline.Network
import RCanopus.Round2Run

/-!
# Leaving round 3 out

Without the three messages and the fields of its round 3 the baseline variant looks like
`ConnManager.cpp` to round 2. `erase` makes a state of all SLs there from one here; the messages
that do not exist there become messages that mean nothing to round 2. So the invariant of round 2
can be stated for the erased state, and the steps that both variants share keep it.
-/

namespace RCanopus

/-! ## Queues that grow at the end -/

/-- More elements in front of both queues. -/
def ConnManager.prepend (juggled sends : List QueueElement) (s : ConnManager) : ConnManager :=
  { s with juggleQueue := juggled ++ s.juggleQueue, sendQueue := sends ++ s.sendQueue }

def Outcome.prepend (juggled sends : List QueueElement) : Outcome → Outcome
  | .ok s => .ok (s.prepend juggled sends)
  | .thrown ex s => .thrown ex (s.prepend juggled sends)

section Prepend

variable {env : Env} {ω : Choice} {j q : List QueueElement} {s : ConnManager} {e : QueueElement}

theorem ConnManager.prepend_enqueue :
    (s.enqueue e).prepend j q = (s.prepend j q).enqueue e := by
  unfold prepend enqueue
  simp only [List.append_assoc]

theorem ConnManager.prepend_juggle :
    (s.juggle e).prepend j q = (s.prepend j q).juggle e := by
  unfold prepend juggle
  simp only [List.append_assoc]

theorem debugThrow_prepend {flag : Bool} {k : ConnManager → Outcome}
    (hk : ∀ s, k (s.prepend j q) = (k s).prepend j q) :
    debugThrow env flag (s.prepend j q) k = (debugThrow env flag s k).prepend j q := by
  unfold debugThrow
  split
  · exact hk s
  · split
    · rfl
    · exact hk (s.note .guardFailed)

theorem debugThrowElseReturnVoid_prepend {flag : Bool} {k : ConnManager → Outcome}
    (hk : ∀ s, k (s.prepend j q) = (k s).prepend j q) :
    debugThrowElseReturnVoid env flag (s.prepend j q) k
      = (debugThrowElseReturnVoid env flag s k).prepend j q := by
  unfold debugThrowElseReturnVoid
  split
  · exact hk s
  · split
    · rfl
    · rfl

theorem canStartRound2_prepend {k : Bool → ConnManager → Outcome}
    (hk : ∀ flag s, k flag (s.prepend j q) = (k flag s).prepend j q) :
    canStartRound2 env (s.prepend j q) k = (canStartRound2 env s k).prepend j q := by
  unfold canStartRound2
  refine debugThrow_prepend fun s => ?_
  by_cases hnull : env.conf.sLid ≠ 0 ∧ s.pRound2CurrentStatus.isNone
  · have hprepend : env.conf.sLid ≠ 0 ∧ (s.prepend j q).pRound2CurrentStatus.isNone := hnull
    rw [if_pos hnull, if_pos hprepend]
    rfl
  · have hprepend : ¬(env.conf.sLid ≠ 0 ∧ (s.prepend j q).pRound2CurrentStatus.isNone) := hnull
    rw [if_neg hnull, if_neg hprepend]
    exact hk (canStartRound2Value env s) s

theorem sendPreprepare_prepend {p : MessageRound2Preprepare} :
    sendPreprepare env p (s.prepend j q) = (sendPreprepare env p s).prepend j q := by
  unfold sendPreprepare Outcome.prepend ConnManager.note ConnManager.enqueue ConnManager.prepend
  simp only [List.append_assoc]
  rfl

theorem sendClientPreprepare_prepend :
    sendClientPreprepare env (s.prepend j q) = (sendClientPreprepare env s).prepend j q :=
  sendPreprepare_prepend (s :=
    { s with
      leaderRound2NextRcanopusCycle := s.leaderRound2NextRcanopusCycle + 1
      leaderBatchProcessed := s.leaderBatchProcessed + 1
      leaderEnvoysRr := (envoyRoundRobin (env.conf.numSL env.conf.bGid)
        (round3ParticipantsNum env.conf).toNat s.leaderEnvoysRr).2 })

theorem leaderRound2SendPreprepare_prepend :
    leaderRound2SendPreprepare env ω (s.prepend j q)
      = (leaderRound2SendPreprepare env ω s).prepend j q := by
  unfold leaderRound2SendPreprepare
  refine debugThrow_prepend fun s => ?_
  refine canStartRound2_prepend fun flag s => ?_
  refine debugThrow_prepend fun s => ?_
  obtain hstatus | ⟨status, hstatus⟩ := Option.eq_none_or_eq_some s.pRound2CurrentStatus
  · have hprepend : (s.prepend j q).pRound2CurrentStatus = none := hstatus
    rw [hstatus, hprepend]
    dsimp only
    have hqueue : (s.prepend j q).pLeaderRound2PendingPreprepareRaw
        = s.pLeaderRound2PendingPreprepareRaw := rfl
    rw [hqueue]
    cases s.pLeaderRound2PendingPreprepareRaw[topIndex ω s.pLeaderRound2PendingPreprepareRaw]? with
    | none =>
      exact sendClientPreprepare_prepend (s :=
        { s with pRound2CurrentStatus := some .waitingForPreprepare })
    | some p =>
      exact debugThrow_prepend (s := { s with pRound2CurrentStatus := some .waitingForPreprepare })
        fun s => sendPreprepare_prepend (s :=
          { s with
            pLeaderRound2PendingPreprepareRaw := s.pLeaderRound2PendingPreprepareRaw.eraseIdx
              (topIndex ω s.pLeaderRound2PendingPreprepareRaw) })
  · have hprepend : (s.prepend j q).pRound2CurrentStatus = some status := hstatus
    rw [hstatus, hprepend]
    rfl

theorem startRound2IfPossible_prepend :
    startRound2IfPossible env ω (s.prepend j q) = (startRound2IfPossible env ω s).prepend j q := by
  refine canStartRound2_prepend fun flag s => ?_
  split
  · exact leaderRound2SendPreprepare_prepend
  · rfl

theorem spawnRound2_prepend :
    spawnRound2 env ω (s.prepend j q) = (spawnRound2 env ω s).prepend j q := by
  unfold spawnRound2
  split
  · exact startRound2IfPossible_prepend
  · rfl

theorem dispatcherRound2Request_prepend {m : MessageRound2Request} :
    dispatcherRound2Request env ω e m (s.prepend j q)
      = (dispatcherRound2Request env ω e m s).prepend j q := by
  unfold dispatcherRound2Request
  split
  · refine debugThrow_prepend fun s => ?_
    exact congrArg Outcome.ok ConnManager.prepend_enqueue.symm
  · exact debugThrowElseReturnVoid_prepend fun s => startRound2IfPossible_prepend (s :=
      { s with
        rgLeaderBatchReceivedFrom := Function.update s.rgLeaderBatchReceivedFrom
          m.sender.toNat (s.rgLeaderBatchReceivedFrom m.sender.toNat + 1) })

theorem acceptPreprepare_prepend {p : MessageRound2Preprepare} {status : CycleStatus} :
    acceptPreprepare env p status (s.prepend j q)
      = (acceptPreprepare env p status s).prepend j q := by
  unfold acceptPreprepare
  dsimp only
  rw [← debugThrow_prepend fun s => rfl]
  congr 1
  unfold ConnManager.enqueue ConnManager.prepend
  simp only [List.append_assoc]

theorem dispatcherRound2Preprepare_prepend {p : MessageRound2Preprepare} :
    dispatcherRound2Preprepare env e p (s.prepend j q)
      = (dispatcherRound2Preprepare env e p s).prepend j q := by
  have hstatus : (s.prepend j q).pRound2CurrentStatus = s.pRound2CurrentStatus := rfl
  unfold dispatcherRound2Preprepare
  rw [hstatus]
  dsimp only
  generalize s.pRound2CurrentStatus.getD .waitingForPreprepare = status
  split
  · exact congrArg Outcome.ok (ConnManager.prepend_juggle (s :=
      { s with pRound2CurrentStatus := some status })).symm
  · refine debugThrow_prepend (s := { s with pRound2CurrentStatus := some status }) fun s => ?_
    refine debugThrow_prepend fun s => ?_
    have hearly : preprepareTooEarly (s.prepend j q) p = preprepareTooEarly s p := rfl
    rw [hearly]
    split
    · exact congrArg Outcome.ok ConnManager.prepend_juggle.symm
    · refine debugThrowElseReturnVoid_prepend fun s => ?_
      exact debugThrow_prepend fun s => acceptPreprepare_prepend

theorem countPartialCommit_prepend {m : MessageRound2PartialCommit} {status : CycleStatus} :
    countPartialCommit env e m status (s.prepend j q)
      = (countPartialCommit env e m status s).prepend j q := by
  unfold countPartialCommit
  dsimp only
  split
  · unfold Outcome.prepend ConnManager.note ConnManager.enqueue ConnManager.prepend
    simp only [List.append_assoc]
  · rfl

theorem dispatcherRound2PartialCommit_prepend {m : MessageRound2PartialCommit} :
    dispatcherRound2PartialCommit env e m (s.prepend j q)
      = (dispatcherRound2PartialCommit env e m s).prepend j q := by
  have hstatus : (s.prepend j q).pRound2CurrentStatus = s.pRound2CurrentStatus := rfl
  unfold dispatcherRound2PartialCommit
  rw [hstatus]
  have hjuggle : Outcome.ok ((s.prepend j q).juggle e) = (Outcome.ok (s.juggle e)).prepend j q :=
    congrArg Outcome.ok ConnManager.prepend_juggle.symm
  cases s.pRound2CurrentStatus with
  | none => exact hjuggle
  | some status =>
    dsimp only
    split
    · exact hjuggle
    · split
      · exact hjuggle
      · refine debugThrowElseReturnVoid_prepend fun s => ?_
        refine debugThrowElseReturnVoid_prepend fun s => ?_
        refine debugThrowElseReturnVoid_prepend fun s => ?_
        refine debugThrowElseReturnVoid_prepend fun s => ?_
        cases env.round2Verifier with
        | none => rfl
        | some verifier =>
          have hstored : (s.prepend j q).pTemporaryStorageOfPreprepare
              = s.pTemporaryStorageOfPreprepare := rfl
          dsimp only
          rw [hstored]
          cases s.pTemporaryStorageOfPreprepare with
          | none => rfl
          | some p => exact debugThrowElseReturnVoid_prepend fun s => countPartialCommit_prepend

end Prepend

end RCanopus

namespace RCanopus.Baseline

/-! ## Erasure -/

/-- What stands for a message of the baseline round 3. -/
def Message.erase : Message → RCanopus.Message
  | .common m => m
  | _ => .hello { header := { version := versionLatest, payloadLen := 4 }, bGid := 0, sLid := 0 }

def QueueElement.erase (e : QueueElement) : RCanopus.QueueElement where
  upPeers := e.upPeers
  pMessage := e.pMessage.erase

def ConnManager.erase (s : ConnManager) : RCanopus.ConnManager :=
  { s.common with
    juggleQueue := s.juggleQueue.map QueueElement.erase
    sendQueue := s.sendQueue.map QueueElement.erase }

def Outcome.erase : Outcome → RCanopus.Outcome
  | .ok s => .ok s.erase
  | .thrown ex s => .thrown ex s.erase

def Node.erase (node : Node) : RCanopus.Node where
  sl := node.sl.erase
  inbox := node.inbox.map QueueElement.erase
  passLeft := node.passLeft
  crashed := node.crashed
  pipe := node.pipe
  listenerEnded := node.listenerEnded

def Cluster.erase (σ : Cluster) : RCanopus.Cluster := fun x => (σ x).erase

theorem Message.erase_copy (m : Message) : m.copy.erase = m.erase.copy := by
  cases m <;> rfl

theorem Outcome.state_erase (o : Outcome) : o.erase.state = o.state.erase := by
  cases o <;> rfl

/-! ## The code that both variants share -/

section Shared

variable {env : Env} {ω : Choice} {s : ConnManager} {f : RCanopus.ConnManager → RCanopus.Outcome}

theorem ConnManager.erase_eq_prepend (s : ConnManager) :
    s.erase = s.round2.prepend (s.juggleQueue.map QueueElement.erase)
      (s.sendQueue.map QueueElement.erase) := by
  unfold erase round2 RCanopus.ConnManager.prepend
  simp

theorem ConnManager.erase_absorb (s : ConnManager) (c : RCanopus.ConnManager) :
    (s.absorb c).erase = c.prepend (s.juggleQueue.map QueueElement.erase)
      (s.sendQueue.map QueueElement.erase) := by
  have hmap : ∀ l : List RCanopus.QueueElement,
      (l.map QueueElement.common).map QueueElement.erase = l := fun l => by
    rw [List.map_map]
    exact List.map_id' _
  unfold erase absorb RCanopus.ConnManager.prepend
  simp only [List.map_append, hmap]

/-- What is shared does the same to the erased state. -/
theorem erase_shared (hf : ∀ j q s, f (s.prepend j q) = (f s).prepend j q) (s : ConnManager) :
    (shared f s).erase = f s.erase := by
  rw [s.erase_eq_prepend, hf]
  unfold shared
  cases f s.round2 with
  | ok c => exact congrArg RCanopus.Outcome.ok (s.erase_absorb c)
  | thrown ex c => exact congrArg (RCanopus.Outcome.thrown ex) (s.erase_absorb c)

theorem erase_spawnRound2 :
    (spawnRound2 env ω s).erase = RCanopus.spawnRound2 env ω.engine s.erase :=
  erase_shared (fun _ _ _ => spawnRound2_prepend) s

theorem ConnManager.erase_juggle (s : ConnManager) (e : QueueElement) :
    (s.juggle e).erase = s.erase.juggle e.erase := by
  unfold erase juggle RCanopus.ConnManager.juggle
  simp

theorem ConnManager.erase_enqueue (s : ConnManager) (e : QueueElement) :
    (s.enqueue e).erase = s.erase.enqueue e.erase := by
  unfold erase enqueue RCanopus.ConnManager.enqueue
  simp

end Shared

/-! ## Steps -/

namespace Cluster

variable {d : Deployment} {σ σ' : Cluster} {x y : Peer} {e : QueueElement} {ω : Choice}
  {before : Node} {o : Outcome}

theorem map_erase_deliveries (x : Peer) (e : QueueElement) (y : Peer) :
    (deliveries x e y).map QueueElement.erase = RCanopus.Cluster.deliveries x e.erase y := by
  unfold deliveries RCanopus.Cluster.deliveries
  rw [List.map_append, List.map_map]
  congr 1
  · by_cases h : y = x ∧ none ∈ e.upPeers
    · rw [if_pos ⟨h.1, List.contains_iff_mem.mpr h.2⟩,
        if_pos (show y = x ∧ none ∈ e.erase.upPeers from h)]
      exact congrArg (fun m => [({ upPeers := [none], pMessage := m } : RCanopus.QueueElement)])
        e.pMessage.erase_copy
    · rw [if_neg fun hc => h ⟨hc.1, List.contains_iff_mem.mp hc.2⟩,
        if_neg (show ¬(y = x ∧ none ∈ e.erase.upPeers) from h)]
      rfl
  · refine List.map_congr_left fun p _ => ?_
    exact congrArg (fun m => ({ upPeers := [some x], pMessage := m } : RCanopus.QueueElement))
      e.pMessage.erase_copy

theorem map_erase_flatMap (x : Peer) (l : List QueueElement) (y : Peer) :
    (l.flatMap fun e => deliveries x e y).map QueueElement.erase
      = (l.map QueueElement.erase).flatMap fun e => RCanopus.Cluster.deliveries x e y := by
  rw [List.map_flatMap, List.flatMap_map]
  exact List.flatMap_congr fun e _ => map_erase_deliveries x e y

theorem erase_pool (σ : Cluster) (x : Peer) :
    RCanopus.Cluster.pool σ.erase x = (pool σ x).map QueueElement.erase := by
  unfold pool RCanopus.Cluster.pool
  rw [Multiset.map_add, Multiset.map_coe, Multiset.map_coe]
  rfl

/-- A message that both variants have waits in the erased state too. -/
theorem mem_ofType_erase {σ : Cluster} {m : RCanopus.Message} (he : e ∈ pool σ x)
    (hm : e.pMessage = .common m) :
    e.erase ∈ RCanopus.Cluster.ofType m.msgType (RCanopus.Cluster.pool σ.erase x) := by
  refine RCanopus.Cluster.mem_ofType.mpr ⟨?_, ?_⟩
  · rw [erase_pool]
    exact Multiset.mem_map_of_mem _ he
  · show e.pMessage.erase.msgType = _
    rw [hm]
    rfl

theorem erase_install (x : Peer) (node : Node) (o : Outcome) (σ : Cluster) :
    (install x node o σ).erase = RCanopus.Cluster.install x node.erase o.erase σ.erase := by
  funext y
  have hsent : ((o.state.sendQueue.flatMap fun e => deliveries x e y).map QueueElement.erase)
      = o.erase.state.sendQueue.flatMap fun e => RCanopus.Cluster.deliveries x e y := by
    rw [o.state_erase]
    exact map_erase_flatMap x _ y
  unfold Cluster.erase install RCanopus.Cluster.install send RCanopus.Cluster.send Node.erase
  dsimp only
  rw [List.map_append, hsent]
  by_cases hy : y = x
  · subst hy
    simp only [Function.update_self]
    cases o <;> rfl
  · simp only [Function.update_of_ne hy]

/-- A dispatch is one of the erased state, with another dispatcher. -/
theorem Dispatch.erase (h : Dispatch d σ σ' x e ω before) :
    RCanopus.Cluster.DispatchTo d σ.erase σ'.erase x e.erase before.erase
      (dispatcherRound2 (d.env x) ω e before.sl).erase where
  has := h.has
  alive := h.alive
  taken := by
    rw [erase_pool, h.taken, Multiset.map_cons, Multiset.map_add, Multiset.map_coe,
      Multiset.map_coe]
    rfl
  sl_eq := by
    have hsl := congrArg ConnManager.erase h.sl_eq
    exact hsl
  result := by
    rw [h.result, erase_install]

theorem Tick.erase (h : Tick d σ σ') : RCanopus.Cluster.Tick d σ.erase σ'.erase where
  sl_eq := fun y => by
    obtain ⟨k, hk⟩ := h.sl_eq y
    exact ⟨k, congrArg ConnManager.erase hk⟩
  crashed_eq := h.crashed_eq
  pool_eq := fun y => by
    obtain ⟨l, hl, hnew⟩ := h.pool_eq y
    refine ⟨l.map QueueElement.erase, ?_, fun e' he' => ?_⟩
    · rw [erase_pool, erase_pool, hl, Multiset.map_add, Multiset.map_coe]
    · obtain ⟨e, he, rfl⟩ := List.mem_map.mp he'
      obtain ⟨hy, hm | ⟨sl, content, hsl, hm⟩⟩ := hnew e he
      · exact ⟨hy, Or.inl (congrArg Message.erase hm)⟩
      · exact ⟨hy, Or.inr ⟨sl, content, hsl, congrArg Message.erase hm⟩⟩

end Cluster

end RCanopus.Baseline
