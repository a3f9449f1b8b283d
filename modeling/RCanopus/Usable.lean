import RCanopus.Batches
import RCanopus.EnvoyNames

/-!
# Configurations that can be used

The sizes of a configuration decide how many envoys a client Preprepare names, and whether its
header covers them. `usable_iff`: a configuration is usable exactly when its sizes are sound.
-/

namespace RCanopus

open Cluster

/-! ## Runs -/

section

variable {d : Deployment} {σ σ' : Cluster} {x : Peer} {e : QueueElement} {ω : Choice}
  {before : Node}

theorem Config.Sound.env (hsound : d.conf.Sound)
    (hn : ∀ b < d.conf.numBG, d.conf.numSL b ≤ 65535) (hx : d.Has x) : (d.env x).Sound := by
  have hfailure := hsound.failure x.1 hx.1
  have hparticipants : round3ParticipantsNum (d.env x).conf
      = (d.conf.numSL x.1 : Int) - d.conf.getF x.1 := rfl
  refine ⟨?_, ?_, hn x.1 hx.1, hsound.payload hn x.1 hx.1⟩
  · rw [hparticipants]
    omega
  · rw [hparticipants]
    show _ ≤ (d.conf.numSL x.1 : Int)
    omega

/-- Every SL keeps, and every message is, of client Preprepares that name envoys. -/
structure ClusterNames (d : Deployment) (σ : Cluster) : Prop where
  sl : ∀ y, d.Has y → EnvoysOk (d.env y) (σ y).sl
  waiting : ∀ y, ∀ e ∈ pool σ y, e.pMessage.Named

theorem named_sent {l : List QueueElement} {y : Peer} (hl : ∀ e ∈ l, e.pMessage.Named)
    {e : QueueElement} (he : e ∈ sent x l y) : e.pMessage.Named := by
  obtain ⟨e', he', hin⟩ := List.mem_flatMap.mp (Multiset.mem_coe.mp he)
  rw [(mem_deliveries hin).1]
  exact (hl e' he').copy

theorem ClusterNames.init (hsound : d.conf.Sound) : ClusterNames d init where
  sl := fun y hy => .init (by
    show 0 < d.conf.numSL y.1
    have := hsound.failure y.1 hy.1
    omega)
  waiting := fun _ _ he => absurd he (Multiset.notMem_zero _)

theorem Outcome.Names.state {env : Env} {o : Outcome} (h : o.Names env) :
    EnvoysOk env o.state := by
  cases o with
  | ok s => exact h
  | thrown ex s => exact h.1

/-- What a dispatch starts from. -/
theorem ClusterNames.taken (h : ClusterNames d σ) (hd : Dispatch d σ σ' x e ω before) :
    EnvoysOk (d.env x) before.sl ∧ e.pMessage.Named
      ∧ ∀ e' ∈ (before.inbox : Multiset QueueElement), e'.pMessage.Named := by
  have hpool : ∀ e', e' = e ∨ e' ∈ before.inbox ∨ e' ∈ before.sl.juggleQueue →
      e'.pMessage.Named := fun e' he' => h.waiting x e' (by
    rw [hd.taken]
    simpa using he')
  refine ⟨?_, hpool e (Or.inl rfl), fun e' he' => hpool e' (Or.inr (Or.inl (by simpa using he')))⟩
  rw [hd.sl_eq]
  exact { h.sl x hd.has with juggled := fun e' he' => hpool e' (Or.inr (Or.inr he')) }

theorem ClusterNames.dispatched (h : ClusterNames d σ) (hsound : d.conf.Sound)
    (hn : ∀ b < d.conf.numBG, d.conf.numSL b ≤ 65535) (hd : Dispatch d σ σ' x e ω before) :
    (dispatcherRound2 (d.env x) ω e before.sl).Names (d.env x) :=
  names_dispatcherRound2 (hsound.env hn hd.has) (h.taken hd).1 (h.taken hd).2.1

theorem ClusterNames.step (h : ClusterNames d σ) (hsound : d.conf.Sound)
    (hn : ∀ b < d.conf.numBG, d.conf.numSL b ≤ 65535) (hs : Step d σ σ') :
    ClusterNames d σ' := by
  rcases step_cases hs with ⟨x, e, ω, before, hd⟩ | ht
  · have hstate := (h.dispatched hsound hn hd).state
    rw [hd.result]
    refine ⟨fun y hy => ?_, fun y e' he' => ?_⟩
    · by_cases hyx : y = x
      · subst hyx
        rw [install_sl_self]
        exact { hstate with sent := fun e he => absurd he List.not_mem_nil }
      · rw [install_sl_of_ne hyx]
        exact h.sl y hy
    · by_cases hyx : y = x
      · subst hyx
        rw [pool_install_self] at he'
        rcases Multiset.mem_add.mp he' with he' | he'
        · rcases Multiset.mem_add.mp he' with he' | he'
          · exact (h.taken hd).2.2 e' he'
          · exact hstate.juggled e' (Multiset.mem_coe.mp he')
        · exact named_sent hstate.sent he'
      · rw [pool_install_of_ne hyx] at he'
        rcases Multiset.mem_add.mp he' with he' | he'
        · exact h.waiting y e' he'
        · exact named_sent hstate.sent he'
  · refine ⟨fun y hy => ?_, fun y e he => ?_⟩
    · obtain ⟨k, hk⟩ := ht.sl_eq y
      rw [hk]
      exact { h.sl y hy with }
    · obtain ⟨l, hpool, hl⟩ := ht.pool_eq y
      rw [hpool] at he
      rcases Multiset.mem_add.mp he with he | he
      · exact h.waiting y e he
      · rcases (hl e (Multiset.mem_coe.mp he)).2 with hm | ⟨sl, content, -, hm⟩
        · rw [hm]
          trivial
        · rw [hm]
          trivial

theorem clusterNames_of_reachable (hsound : d.conf.Sound)
    (hn : ∀ b < d.conf.numBG, d.conf.numSL b ≤ 65535) (h : Reachable d σ) : ClusterNames d σ :=
  h.induct (.init hsound) fun _ _ hσ hs => hσ.step hsound hn hs

end

/-! ## What a configuration is for -/

/-- One existing SL of each remote BG, drawn from a range that is not empty. -/
structure DrawsOnePerRemoteBG (conf : Config) (ω : Choice) : Prop where
  range : ∀ b < conf.numBG, b ≠ conf.bGid → 0 < conf.numSL b
  each : ∀ b < conf.numBG, b ≠ conf.bGid →
    ∃ sl < conf.numSL b, (getOneSLFromEveryRemoteBG conf ω).filter
      (fun peer => (peer.map Prod.fst) == some b) = [some (b, sl)]
  other : ∀ peer ∈ getOneSLFromEveryRemoteBG conf ω,
    ∃ b < conf.numBG, b ≠ conf.bGid ∧ peer.map Prod.fst = some b

/-- What runs rely on after `parseFromFile` has accepted a file. -/
structure Usable (conf : Config) : Prop where
  sizes : ∀ b < conf.numBG,
    1 ≤ conf.numSL b ∧ 0 ≤ conf.getF b ∧ conf.getF b < conf.numSL b
  named : (∀ b < conf.numBG, conf.numSL b ≤ 65535) → ∀ d : Deployment, d.conf = conf →
    ∀ σ, Reachable d σ → ∀ b < conf.numBG, ∀ p, .issued p ∈ (σ (b, 0)).sl.history →
      p.requestType = requestTypeFromClient → NamesEnvoys d.host (conf.numSL b) p
  envoySelected : (∀ b < conf.numBG, conf.numSL b ≤ 65535) → ∀ d : Deployment, d.conf = conf →
    ∀ σ, Reachable d σ → ∀ x e ω σ' before, Dispatch d σ σ' x e ω before →
      ∀ s, dispatcherRound2 (d.env x) ω e before.sl ≠ .thrown .noEnvoySelected s
  recipients : (∀ b < conf.numBG, conf.numSL b ≤ 65535) → ∀ b < conf.numBG,
    ∀ sl < conf.numSL b, ∀ ω, DrawsOnePerRemoteBG (conf.ofSL b sl) ω

section

variable {conf : Config}

theorem drawsOnePerRemoteBG {ω : Choice} (hpos : ∀ b < conf.numBG, 0 < conf.numSL b) :
    DrawsOnePerRemoteBG conf ω where
  range := fun b hb _ => hpos b hb
  each := fun b hb hne => by
    refine ⟨_, Nat.mod_lt (ω.draw b) (hpos b hb), ?_⟩
    have hmem : b ∈ (List.range conf.numBG).filter (· ≠ conf.bGid) := by
      simp [hb, hne]
    have hnodup : ((List.range conf.numBG).filter (· ≠ conf.bGid)).Nodup :=
      List.nodup_range.filter _
    unfold getOneSLFromEveryRemoteBG
    rw [List.filter_reverse, List.filter_map]
    have hfilter : ((List.range conf.numBG).filter (· ≠ conf.bGid)).filter
        ((fun peer : Option Peer => (peer.map Prod.fst) == some b)
          ∘ fun bg => some (bg, ω.draw bg % conf.numSL bg)) = [b] := by
      rw [show ((fun peer : Option Peer => (peer.map Prod.fst) == some b)
          ∘ fun bg => some (bg, ω.draw bg % conf.numSL bg)) = (· == b) from
        funext fun bg => by simp]
      rw [List.filter_beq, List.count_eq_one_of_mem hnodup hmem]
      rfl
    rw [hfilter]
    rfl
  other := fun peer hpeer => by
    obtain ⟨b, hb, rfl⟩ := List.mem_map.mp (List.mem_reverse.mp hpeer)
    obtain ⟨hlt, hne⟩ := List.mem_filter.mp hb
    exact ⟨b, List.mem_range.mp hlt, of_decide_eq_true hne, rfl⟩

/-- Sound sizes make a configuration usable. -/
theorem Config.Sound.usable (hsound : conf.Sound) : Usable conf where
  sizes := fun b hb => by
    have := hsound.failure b hb
    omega
  named := by
    rintro hn d rfl σ hσ b hb p hp ht
    have hpos : 0 < d.conf.numSL b := by
      have := hsound.failure b hb
      omega
    exact ((clusterNames_of_reachable hsound hn hσ).sl (b, 0) ⟨hb, hpos⟩).issued p hp ht
  envoySelected := by
    rintro hn d rfl σ hσ x e ω σ' before hd s hs
    have h := (clusterNames_of_reachable hsound hn hσ).dispatched hsound hn hd
    rw [hs] at h
    exact h.2 rfl
  recipients := fun hn b hb sl hsl ω => drawsOnePerRemoteBG fun b' hb' => by
    show 0 < conf.numSL b'
    have := hsound.failure b' hb'
    omega

end

/-! ## A run with a client Preprepare -/

/-- A leader that has got batches, and nothing else has happened there. -/
def fedLeader (received : Nat → Nat) : Node where
  sl := { ConnManager.init with rgLeaderBatchReceivedFrom := received }
  inbox := []
  passLeft := 0
  crashed := false
  pipe := 0
  listenerEnded := none

section

variable {d : Deployment} {σ : Cluster} {x : Peer} {e : QueueElement} {b : Nat}

/-- The main loop takes the only message of the inbox. -/
theorem step_receive (hx : d.Has x) (he : (σ x).inbox = [e]) (halive : (σ x).crashed = false)
    (hpass : (σ x).passLeft = 0) (hlistens : (σ x).listenerEnded = none) (ω : Choice) :
    Step d σ (install x
      { σ x with
        inbox := []
        passLeft := (dispatcherRound2 (d.env x) ω e (σ x).sl).state.juggleQueue.length
        listenerEnded := none }
      (dispatcherRound2 (d.env x) ω e (σ x).sl) σ) := by
  refine ⟨.receive x 0 ω, ?_⟩
  show receive d x 0 ω σ = _
  unfold receive
  dsimp only
  rw [he, List.getElem?_cons_zero]
  dsimp only
  rw [if_pos ⟨hx, halive, hpass, by unfold Node.receivable; rw [hlistens]⟩, hlistens]
  rfl

/-- A batch of another SL is counted. -/
theorem dispatcherRound2_batch {i : Nat} (hi : i < d.conf.numSL b) (hn : d.conf.numSL b ≤ 65535)
    (content : List UInt8) (received : Nat → Nat) (ω : Choice) :
    dispatcherRound2 (d.env (b, 0)) ω (batchElement (b, i) content) (fedLeader received).sl
      = .ok (fedLeader (Function.update received i (received i + 1))).sl := by
  have hsender : (UInt16.ofNat i).toNat = i := UInt16.toNat_ofNat_of_lt (by
    show i < 65536
    omega)
  show dispatcherRound2Request (d.env (b, 0)) ω (batchElement (b, i) content)
    (mockClientRequest i content) (fedLeader received).sl = _
  unfold dispatcherRound2Request
  have hleader : (d.env (b, 0)).conf.isRound2Leader = true := rfl
  have hsmall : (mockClientRequest i content).sender.toNat < d.conf.numSL b := by
    show (UInt16.ofNat i).toNat < _
    rw [hsender]
    exact hi
  rw [hleader, Bool.not_true, if_neg Bool.false_ne_true]
  rw [show decide ((mockClientRequest i content).sender.toNat
    < (d.env (b, 0)).conf.numSL (d.env (b, 0)).conf.bGid) = true from decide_eq_true hsmall]
  rw [debugThrowElseReturnVoid_true, startRound2IfPossible_idle rfl]
  · show Outcome.ok { ConnManager.init with
      rgLeaderBatchReceivedFrom := Function.update received (UInt16.ofNat i).toNat
        (received (UInt16.ofNat i).toNat + 1) } = _
    rw [hsender]
    rfl
  · unfold canStartRound2Value
    simp [fedLeader, ConnManager.init]

/-- The clients of the SLs up to `k` have each sent a batch. -/
theorem exists_fedLeader (hb : b < d.conf.numBG) (hn : d.conf.numSL b ≤ 65535) {k : Nat}
    (hk : k < d.conf.numSL b) :
    ∃ σ received, Reachable d σ ∧ σ (b, 0) = fedLeader received
      ∧ ∀ i, 1 ≤ i → i ≤ k → 0 < received i := by
  -- one SL after the other sends a batch, and the leader takes it at once
  induction k with
  | zero => exact ⟨init, fun _ => 0, .refl, rfl, fun i hi hle => by omega⟩
  | succ k ih =>
    obtain ⟨σ, received, hreach, hnode, hreceived⟩ := ih (by omega)
    obtain ⟨content, hcontent⟩ : ∃ content : List UInt8, content.length = requestBatchSize :=
      ⟨List.replicate _ 0, List.length_replicate⟩
    let ω : Choice := { draw := fun _ => 0, top := 0 }
    obtain ⟨σ', htick⟩ : ∃ σ', clientTick d (b, k + 1) content σ = some σ' :=
      ⟨_, if_pos ⟨⟨hb, hk⟩, Nat.succ_ne_zero k, hcontent⟩⟩
    have hnode' := (clientTick_eq htick).2 (b, 0)
    rw [if_pos rfl, hnode] at hnode'
    have hsl : (σ' (b, 0)).sl = (fedLeader received).sl := by rw [hnode']
    have hout := dispatcherRound2_batch hk hn content received ω
    rw [← hsl] at hout
    have hstep := step_receive (σ := σ') (x := (b, 0)) ⟨hb, Nat.zero_lt_of_lt hk⟩
      (by rw [hnode']; rfl) (by rw [hnode']; rfl) (by rw [hnode']; rfl) (by rw [hnode']; rfl) ω
    rw [hout] at hstep
    refine ⟨_, Function.update received (k + 1) (received (k + 1) + 1),
      (hreach.step ⟨.clientTick (b, k + 1) content, htick⟩).step hstep, ?_, fun i hi hle => ?_⟩
    · unfold install send
      rw [Function.update_self, hnode']
      rfl
    · rw [Function.update_apply]
      split
      · exact Nat.succ_pos _
      · exact hreceived i hi (by omega)

theorem issued_sendClientPreprepare (env : Env) (s : ConnManager) :
    ∃ s', .issued (commonParts s' (clientPreprepare env.host env.conf
        s.leaderRound2NextRcanopusCycle s.leaderEnvoysRr))
      ∈ (sendClientPreprepare env s).state.history :=
  ⟨_, List.mem_append_right _ List.mem_cons_self⟩

/-- Some run has the leader of a BG issue a client Preprepare. -/
theorem exists_clientIssued (hb : b < d.conf.numBG) (hn : d.conf.numSL b ≤ 65535)
    (hpos : 0 < d.conf.numSL b) :
    ∃ σ s, Reachable d σ ∧ .issued (commonParts s
      (clientPreprepare d.host (d.env (b, 0)).conf 1 0)) ∈ (σ (b, 0)).sl.history := by
  obtain ⟨σ, received, hreach, hnode, hreceived⟩ :=
    exists_fedLeader hb hn (k := d.conf.numSL b - 1) (by omega)
  have hx : d.Has (b, 0) := ⟨hb, hpos⟩
  let ω : Choice := { draw := fun _ => 0, top := 0 }
  -- the own batch of the leader is the last one, and `MESSAGE_EMPTY` wakes it up
  obtain ⟨σ₁, h₁⟩ : ∃ σ₁, leaderTick d b σ = some σ₁ := ⟨_, if_pos hx⟩
  have hnode₁ : σ₁ (b, 0) = { fedLeader received with
      sl := { (fedLeader received).sl with leaderBatchReceivedFromSelf := 1 }
      pipe := 2 } := by
    rw [leaderTick, if_pos hx, Option.some.injEq] at h₁
    rw [← h₁, Function.update_self, hnode]
    rfl
  obtain ⟨σ₂, h₂⟩ : ∃ σ₂, pipeReadable d b σ₁ = some σ₂ :=
    ⟨_, if_pos ⟨hx, by rw [hnode₁]; exact Nat.zero_lt_two, by rw [hnode₁]; rfl⟩⟩
  have hnode₂ : σ₂ (b, 0) = { fedLeader received with
      sl := { (fedLeader received).sl with leaderBatchReceivedFromSelf := 1 }
      inbox := [{ upPeers := [none], pMessage := .empty emptyMessage }] } := by
    obtain ⟨-, -, -, ⟨-, rfl⟩ | ⟨hfull, -⟩⟩ := pipeReadable_cases h₂
    · rw [Function.update_self, hnode₁]
      rfl
    · rw [hnode₁] at hfull
      exact absurd hfull (Nat.not_le.mpr (show 2 < pipeReadBuffer by decide))
  have hstep := step_receive (σ := σ₂) hx (by rw [hnode₂]) (by rw [hnode₂]; rfl)
    (by rw [hnode₂]; rfl) (by rw [hnode₂]; rfl) ω
  have hvalue : canStartRound2Value (d.env (b, 0)) (σ₂ (b, 0)).sl = true := by
    rw [hnode₂]
    unfold canStartRound2Value
    show (List.all _ _ && _) = true
    rw [Bool.and_eq_true, List.all_eq_true]
    refine ⟨fun i hi => ?_, rfl⟩
    obtain ⟨hlt, hle⟩ := List.mem_filter.mp hi
    have hlt : i < d.conf.numSL b := List.mem_range.mp hlt
    exact decide_eq_true (hreceived i (of_decide_eq_true hle) (by omega))
  have hout : dispatcherRound2 (d.env (b, 0)) ω
      { upPeers := [none], pMessage := .empty emptyMessage } (σ₂ (b, 0)).sl
        = sendClientPreprepare (d.env (b, 0)) { (σ₂ (b, 0)).sl with
            pRound2CurrentStatus := some .waitingForPreprepare } := by
    show debugThrow (d.env (b, 0)) true (σ₂ (b, 0)).sl
      (fun s => startRound2IfPossible (d.env (b, 0)) ω s) = _
    rw [debugThrow_true]
    exact startRound2IfPossible_client rfl (by rw [hnode₂]; rfl) (by rw [hnode₂]; rfl) hvalue
  rw [hout] at hstep
  obtain ⟨s, hissued⟩ := issued_sendClientPreprepare (d.env (b, 0)) { (σ₂ (b, 0)).sl with
    pRound2CurrentStatus := some .waitingForPreprepare }
  refine ⟨_, s, ((hreach.step ⟨.leaderTick b, h₁⟩).step ⟨.pipeReadable b, h₂⟩).step hstep, ?_⟩
  rw [install_sl_self]
  rw [hnode₂] at hissued ⊢
  exact hissued

end

/-! ## The sizes that are needed -/

theorem usable_iff {conf : Config} : Usable conf ↔ conf.Sound := by
  refine ⟨fun h => ⟨fun b hb => (h.sizes b hb).2, fun hn b hb => ?_⟩, Config.Sound.usable⟩
  obtain ⟨hpos, hlow, hlt⟩ := h.sizes b hb
  let d : Deployment := { conf := conf, host := .little, debugFailfast := false }
  obtain ⟨σ, s, hreach, hissued⟩ := exists_clientIssued (d := d) hb (hn b hb) hpos
  have hparticipants : round3ParticipantsNum (d.env (b, 0)).conf
      = (conf.numSL b : Int) - conf.getF b := rfl
  refine (@namesEnvoys_client_iff (d.env (b, 0)) s 1 0 ?_ ?_ (hn b hb) hpos).mp
    (h.named hn d rfl σ hreach b hb _ hissued rfl)
  · rw [hparticipants]
    omega
  · rw [hparticipants]
    show _ ≤ (conf.numSL b : Int)
    omega

end RCanopus
