import RCanopus.LeaderSpec
import RCanopus.Lib.Orbit
import RCanopus.Proposals

/-!
# Round robin envoys

Every client Preprepare lists the next `n - f` SLs of the BG as envoys, and the first of them does
the communication. So the primary envoys are the places of a walk around the BG in steps of
`n - f`.
-/

namespace RCanopus

section
variable {n : Nat}

/-! ## One client Preprepare -/

theorem toNat_nextRoundRobin (hn : n < 2 ^ 16) {rr : UInt16} (hrr : rr.toNat < n) :
    (nextRoundRobin n rr).toNat = (rr.toNat + 1) % n := by
  have hsucc : (rr + 1).toNat = rr.toNat + 1 := by
    rw [UInt16.toNat_add, UInt16.toNat_one]
    exact Nat.mod_eq_of_lt (by omega)
  unfold nextRoundRobin
  rw [hsucc]
  by_cases hlast : rr.toNat + 1 = n
  · rw [if_pos hlast, hlast, Nat.mod_self]
    rfl
  · rw [if_neg hlast, hsucc, Nat.mod_eq_of_lt (by omega)]

/-- The loop lists consecutive ids around the BG and leaves the counter behind them. -/
theorem envoyRoundRobin_eq (hn : n < 2 ^ 16) (k : Nat) {rr : UInt16} (hrr : rr.toNat < n) :
    (envoyRoundRobin n k rr).1.map UInt16.toNat = (List.range k).map (fun i => (rr.toNat + i) % n)
      ∧ (envoyRoundRobin n k rr).2.toNat = (rr.toNat + k) % n := by
  induction k generalizing rr with
  | zero => exact ⟨rfl, (Nat.mod_eq_of_lt hrr).symm⟩
  | succ k ih =>
    have hnext := toNat_nextRoundRobin hn hrr
    have hlt : (nextRoundRobin n rr).toNat < n := by
      rw [hnext]
      exact Nat.mod_lt _ (by omega)
    obtain ⟨hlist, hcounter⟩ := ih hlt
    unfold envoyRoundRobin
    constructor
    · rw [List.map_cons, hlist, List.range_succ_eq_map, List.map_cons, List.map_map, Nat.add_zero,
        Nat.mod_eq_of_lt hrr]
      refine congrArg _ (List.map_congr_left fun i _ => ?_)
      rw [hnext, Nat.mod_add_mod, Function.comp_apply, Nat.add_assoc, Nat.add_comm 1 i]
    · rw [hcounter, hnext, Nat.mod_add_mod, Nat.add_assoc, Nat.add_comm 1 k]

/-- Fewer consecutive ids than there are SLs are different. -/
theorem nodup_consecutive {k : Nat} (hk : k ≤ n) (r : Nat) :
    ((List.range k).map fun i => (r + i) % n).Nodup := by
  refine List.Nodup.map_on (fun i hi j hj hij => ?_) List.nodup_range
  rw [List.mem_range] at hi hj
  have hmod : i ≡ j [MOD n] := Nat.ModEq.add_left_cancel' r hij
  exact Nat.ModEq.eq_of_lt_of_lt hmod (by omega) (by omega)

/-- The participants are read back one by one. -/
theorem u16At_flatMap (h : Endian) (l : List UInt16) (rest : List UInt8) {i : Nat}
    (hi : i < l.length) : u16At h (l.flatMap (u16Bytes h) ++ rest) (2 * i) = l[i] := by
  have hlen : ∀ l : List UInt16, (l.flatMap (u16Bytes h)).length = 2 * l.length := fun l => by
    simp [List.length_flatMap, length_u16Bytes, Nat.mul_comm]
  have hpre : ((l.take i).flatMap (u16Bytes h)).length = 2 * i := by
    rw [hlen, List.length_take, Nat.min_eq_left (by omega)]
  have hsplit : l.flatMap (u16Bytes h) ++ rest = (l.take i).flatMap (u16Bytes h)
      ++ (u16Bytes h l[i] ++ ((l.drop (i + 1)).flatMap (u16Bytes h) ++ rest)) := by
    conv_lhs => rw [← List.take_append_drop i l, List.drop_eq_getElem_cons hi]
    rw [List.flatMap_append, List.flatMap_cons, List.append_assoc, List.append_assoc]
  rw [hsplit, ← hpre, u16At_append]

end

/-- The participants of a Preprepare, read one after the other. -/
def MessageRound2Preprepare.participants (h : Endian) (p : MessageRound2Preprepare) : List Nat :=
  (List.range p.numOfRound3Participants.toNat).map fun i =>
    (u16At h p.participantsAndContent (2 * i)).toNat

theorem participants_clientPreprepare (h : Endian) (conf : Config) (cycle rr : UInt16)
    (hn : conf.numSL conf.bGid < 2 ^ 16)
    (hlo : 1 ≤ round3ParticipantsNum conf)
    (hhi : round3ParticipantsNum conf ≤ conf.numSL conf.bGid)
    (hrr : rr.toNat < conf.numSL conf.bGid) :
    (clientPreprepare h conf cycle rr).participants h
      = (List.range (round3ParticipantsNum conf).toNat).map
          fun i => (rr.toNat + i) % conf.numSL conf.bGid := by
  have hcount : (clientPreprepare h conf cycle rr).numOfRound3Participants.toNat
      = (round3ParticipantsNum conf).toNat := by
    have hofInt : (UInt16.ofInt (round3ParticipantsNum conf)).toNat
        = (round3ParticipantsNum conf % 2 ^ 16).toNat % 2 ^ 16 := UInt16.toNat_ofNat'
    rw [Int.emod_eq_of_lt (by omega) (by omega), Nat.mod_eq_of_lt (by omega)] at hofInt
    exact hofInt
  rw [← (envoyRoundRobin_eq hn _ hrr).1]
  unfold MessageRound2Preprepare.participants
  rw [hcount]
  apply List.ext_getElem
  · rw [List.length_map, List.length_map, List.length_range, length_envoyRoundRobin]
  · intro i h1 h2
    rw [List.getElem_map, List.getElem_map, List.getElem_range]
    rw [List.length_map] at h2
    exact congrArg UInt16.toNat (u16At_flatMap h _ _ h2)


/-! ## The calls of one leader -/

section

variable {env : Env} {ω : Choice} {s s' : ConnManager}

/-- What a call that returns has issued. -/
theorem leaderRound2SendPreprepare_ok (h : leaderRound2SendPreprepare env ω s = .ok s') :
    s.pRound2CurrentStatus = none ∧ ∃ history, issueNext env ω
      { s with history, pRound2CurrentStatus := some .waitingForPreprepare } = .ok s' := by
  unfold leaderRound2SendPreprepare canStartRound2 at h
  obtain ⟨history₁, h⟩ := debugThrow_ok h
  obtain ⟨history₂, h⟩ := debugThrow_ok h
  split at h
  · exact absurd h (by simp)
  obtain ⟨history₃, h⟩ := debugThrow_ok h
  dsimp only at h
  split at h
  · exact absurd h (by simp)
  · next hnone => exact ⟨hnone, history₃, h⟩

/-- A call with an empty priority queue sends a client Preprepare. -/
theorem leaderRound2SendPreprepare_client (hqueue : s.pLeaderRound2PendingPreprepareRaw = [])
    (h : leaderRound2SendPreprepare env ω s = .ok s') :
    s'.leaderEnvoysRr = (envoyRoundRobin (env.conf.numSL env.conf.bGid)
        (round3ParticipantsNum env.conf).toNat s.leaderEnvoysRr).2
      ∧ s'.sendQueue = s.sendQueue ++ [{
          upPeers := broadcastPeers env.conf
          pMessage := .round2Preprepare (commonParts s (clientPreprepare env.host env.conf
            s.leaderRound2NextRcanopusCycle s.leaderEnvoysRr)) }] := by
  obtain ⟨-, history, hissue⟩ := leaderRound2SendPreprepare_ok h
  unfold issueNext at hissue
  dsimp only at hissue
  rw [hqueue] at hissue
  rw [← Outcome.ok.inj hissue]
  exact ⟨rfl, rfl⟩

/-- A call with a Preprepare in the priority queue leaves the envoys alone. -/
theorem leaderRound2SendPreprepare_pending (hqueue : s.pLeaderRound2PendingPreprepareRaw ≠ [])
    (h : leaderRound2SendPreprepare env ω s = .ok s') :
    s'.leaderEnvoysRr = s.leaderEnvoysRr := by
  obtain ⟨-, history, hissue⟩ := leaderRound2SendPreprepare_ok h
  unfold issueNext at hissue
  dsimp only at hissue
  rw [List.getElem?_eq_getElem (topIndex_lt ω hqueue)] at hissue
  obtain ⟨history, hsend⟩ := debugThrow_ok hissue
  rw [← Outcome.ok.inj hsend]
  rfl

end

/--
The calls of `leader_round2_sendPreprepare` that one leader makes, and the client Preprepares that
it has sent. Between two calls it may do anything that leaves `leader_envoys_rr` alone, such as
queueing a Preprepare or finishing the round.
-/
inductive LeaderRun (env : Env) : ConnManager → List MessageRound2Preprepare → Prop where
  | init : LeaderRun env .init []
  | between {s s' : ConnManager} {ps : List MessageRound2Preprepare} :
    LeaderRun env s ps → s'.leaderEnvoysRr = s.leaderEnvoysRr → LeaderRun env s' ps
  | pending {s s' : ConnManager} {ps : List MessageRound2Preprepare} {ω : Choice} :
    LeaderRun env s ps → s.pLeaderRound2PendingPreprepareRaw ≠ [] →
    leaderRound2SendPreprepare env ω s = .ok s' → LeaderRun env s' ps
  | client {s s' : ConnManager} {ps : List MessageRound2Preprepare} {ω : Choice}
      {p : MessageRound2Preprepare} :
    LeaderRun env s ps → s.pLeaderRound2PendingPreprepareRaw = [] →
    leaderRound2SendPreprepare env ω s = .ok s' →
    s'.sendQueue = s.sendQueue
      ++ [{ upPeers := broadcastPeers env.conf, pMessage := .round2Preprepare p }] →
    LeaderRun env s' (ps ++ [p])

section

variable {env : Env} {s : ConnManager} {ps : List MessageRound2Preprepare}

/-- The envoys of the client Preprepare that comes after `k` others. -/
def envoysAt (n m k : Nat) : List Nat := (List.range m).map fun i => (Orbit.place n m k + i) % n

theorem LeaderRun.envoys (hn : env.conf.numSL env.conf.bGid < 2 ^ 16)
    (hlo : 1 ≤ round3ParticipantsNum env.conf)
    (hhi : round3ParticipantsNum env.conf ≤ env.conf.numSL env.conf.bGid)
    (hrun : LeaderRun env s ps) :
    s.leaderEnvoysRr.toNat = Orbit.place (env.conf.numSL env.conf.bGid)
        (round3ParticipantsNum env.conf).toNat ps.length
      ∧ ps.map (MessageRound2Preprepare.participants env.host)
        = (List.range ps.length).map (envoysAt (env.conf.numSL env.conf.bGid)
            (round3ParticipantsNum env.conf).toNat) := by
  -- only a client Preprepare moves the cursor
  induction hrun with
  | init =>
    refine ⟨?_, rfl⟩
    show 0 = 0 * _ % _
    rw [Nat.zero_mul, Nat.zero_mod]
  | between _ heq ih =>
    rw [heq]
    exact ih
  | pending _ hqueue hcall ih =>
    rw [leaderRound2SendPreprepare_pending hqueue hcall]
    exact ih
  | @client s s' ps ω p _ hqueue hcall hsent ih =>
    obtain ⟨hrr, hps⟩ := ih
    obtain ⟨hnext, hqueued⟩ := leaderRound2SendPreprepare_client hqueue hcall
    have hlt : s.leaderEnvoysRr.toNat < env.conf.numSL env.conf.bGid := by
      rw [hrr]
      exact Orbit.place_lt (by omega) _
    have hp : p = commonParts s (clientPreprepare env.host env.conf
        s.leaderRound2NextRcanopusCycle s.leaderEnvoysRr) := by
      have hlast := List.append_cancel_left (hsent.symm.trans hqueued)
      have helement := (List.cons.inj hlast).1
      exact Message.round2Preprepare.inj (congrArg QueueElement.pMessage helement)
    have hparts : p.participants env.host = envoysAt (env.conf.numSL env.conf.bGid)
        (round3ParticipantsNum env.conf).toNat ps.length := by
      have hclient := participants_clientPreprepare env.host env.conf
        s.leaderRound2NextRcanopusCycle s.leaderEnvoysRr hn hlo hhi hlt
      rw [hrr] at hclient
      rw [hp]
      exact hclient
    constructor
    · rw [List.length_append, List.length_singleton, Orbit.place_succ, ← hrr, hnext]
      exact (envoyRoundRobin_eq hn _ hlt).2
    · rw [List.map_append, List.length_append, List.length_singleton, List.range_succ,
        List.map_append, hps, List.map_singleton, List.map_singleton, hparts]

/-- `participants[0]` is the first of the envoys. -/
theorem envoyOf_eq_head (h : Endian) (p : MessageRound2Preprepare) :
    envoyOf h p = (p.participants h).head? := by
  unfold envoyOf MessageRound2Preprepare.participants
  by_cases hzero : p.numOfRound3Participants = 0
  · rw [if_pos hzero, hzero]
    rfl
  · have hpos : p.numOfRound3Participants.toNat ≠ 0 := fun htoNat =>
      hzero (UInt16.toNat_inj.mp htoNat)
    obtain ⟨k, hk⟩ := Nat.exists_eq_succ_of_ne_zero hpos
    rw [if_neg hzero, hk, List.range_succ_eq_map, List.map_cons, List.head?_cons]

theorem head_envoysAt {n m k : Nat} (hm : 1 ≤ m) (hn : 0 < n) :
    (envoysAt n m k).head? = some (Orbit.place n m k) := by
  obtain ⟨l, rfl⟩ := Nat.exists_eq_add_of_le' hm
  unfold envoysAt
  rw [List.range_succ_eq_map, List.map_cons, List.head?_cons, Nat.add_zero,
    Nat.mod_eq_of_lt (Orbit.place_lt hn k)]

/-- The primary envoys of the client Preprepares are the places of a walk around the BG. -/
theorem LeaderRun.primaryEnvoys (hn : env.conf.numSL env.conf.bGid < 2 ^ 16)
    (hlo : 1 ≤ round3ParticipantsNum env.conf)
    (hhi : round3ParticipantsNum env.conf ≤ env.conf.numSL env.conf.bGid)
    (hrun : LeaderRun env s ps) :
    ps.map (envoyOf env.host) = (List.range ps.length).map fun k =>
      some (Orbit.place (env.conf.numSL env.conf.bGid) (round3ParticipantsNum env.conf).toNat
        k) := by
  have henvoys := congrArg (List.map List.head?) (hrun.envoys hn hlo hhi).2
  rw [List.map_map, List.map_map] at henvoys
  refine Eq.trans (List.map_congr_left fun p _ => envoyOf_eq_head env.host p) ?_
  refine henvoys.trans (List.map_congr_left fun k _ => ?_)
  exact head_envoysAt (by omega) (by omega)

/-- With `3f + 1` SLs the number of envoys has no divisor in common with that of the SLs. -/
theorem coprime_envoys (f : Nat) : Nat.Coprime (3 * f + 1) (2 * f + 1) := by
  have h1 : Nat.Coprime (2 * f + 1) f := by
    rw [Nat.coprime_mul_right_add_left]
    exact Nat.coprime_one_left f
  have h2 : 3 * f + 1 = f + (2 * f + 1) := by omega
  rw [h2, Nat.coprime_add_self_left]
  exact h1.symm

/--
**The round robin is fair** among `n / gcd n (n - f)` SLs: these are the only primary envoys, and
each of them is one exactly once in as many consecutive client cycles. With `n = 3f + 1` these are
all SLs of the BG.
-/
theorem envoys_fair (hn : env.conf.numSL env.conf.bGid ≤ 65535)
    (hlo : 1 ≤ round3ParticipantsNum env.conf)
    (hhi : round3ParticipantsNum env.conf ≤ env.conf.numSL env.conf.bGid)
    (hrun : LeaderRun env s ps) :
    let n := env.conf.numSL env.conf.bGid
    let m := (round3ParticipantsNum env.conf).toNat
    s.leaderEnvoysRr.toNat < n
      ∧ (∀ p ∈ ps, (p.participants env.host).length = m ∧ (p.participants env.host).Nodup
        ∧ ∀ x ∈ p.participants env.host, x < n)
      ∧ ((Orbit.places n m).Nodup ∧ (Orbit.places n m).length = n / Nat.gcd n m)
      ∧ (∀ p ∈ ps, ∃ x ∈ Orbit.places n m, envoyOf env.host p = some x)
      ∧ (∀ start, start + n / Nat.gcd n m ≤ ps.length →
        (((ps.drop start).take (n / Nat.gcd n m)).map (envoyOf env.host)).Perm
          ((Orbit.places n m).map some))
      ∧ ((n : Int) = 3 * env.conf.getF env.conf.bGid + 1 →
        n / Nat.gcd n m = n ∧ Orbit.places n m = List.range n) := by
  intro n m
  have hpos : 0 < n := by omega
  obtain ⟨hrr, hparts⟩ := hrun.envoys (by omega) hlo hhi
  have hprimary := hrun.primaryEnvoys (by omega) hlo hhi
  refine ⟨?_, ?_, ⟨Orbit.nodup_places hpos, Orbit.length_places⟩, ?_, ?_, ?_⟩
  · rw [hrr]
    exact Orbit.place_lt hpos _
  · intro p hp
    have hmem : p.participants env.host ∈ (List.range ps.length).map (envoysAt n m) := by
      rw [← hparts]
      exact List.mem_map_of_mem hp
    obtain ⟨k, -, hk⟩ := List.mem_map.mp hmem
    rw [← hk]
    unfold envoysAt
    refine ⟨by rw [List.length_map, List.length_range], nodup_consecutive (by omega) _, ?_⟩
    intro x hx
    obtain ⟨i, -, rfl⟩ := List.mem_map.mp hx
    exact Nat.mod_lt _ hpos
  · intro p hp
    have hmem := List.mem_map_of_mem (f := envoyOf env.host) hp
    rw [hprimary] at hmem
    obtain ⟨k, -, hk⟩ := List.mem_map.mp hmem
    exact ⟨_, Orbit.place_mem_places hpos k, hk.symm⟩
  · intro start hwindow
    rw [List.map_take, List.map_drop, hprimary]
    -- the window is a full period of the orbit, from another start
    have hslice : (((List.range ps.length).map fun k => some (Orbit.place n m k)).drop start).take
        (n / Nat.gcd n m)
        = ((List.range (Orbit.period n m)).map fun i => Orbit.place n m (start + i)).map some := by
      apply List.ext_getElem
      · simp [Orbit.period]
        omega
      · intro i h1 h2
        simp
    rw [hslice]
    exact (Orbit.window_perm hpos start).map some
  · intro hthree
    have hcoprime : Nat.Coprime n m := by
      obtain ⟨f, hf⟩ : ∃ f : Nat, env.conf.getF env.conf.bGid = f :=
        Int.eq_ofNat_of_zero_le (by omega)
      have hn3 : n = 3 * f + 1 := by omega
      have hm2 : m = 2 * f + 1 := by
        show (round3ParticipantsNum env.conf).toNat = _
        unfold round3ParticipantsNum
        omega
      rw [hn3, hm2]
      exact coprime_envoys f
    exact ⟨by rw [hcoprime, Nat.div_one], Orbit.places_of_coprime hcoprime⟩

end

/-! ### Runs of any length -/

/-- A leader that has a batch from every SL and no round running. -/
def ConnManager.readyForClient (s : ConnManager) : ConnManager :=
  { s with
    pRound2CurrentStatus := none
    pLeaderRound2PendingPreprepareRaw := []
    leaderBatchProcessed := 0
    rgLeaderBatchReceivedFrom := fun _ => 1
    leaderBatchReceivedFromSelf := 1 }

theorem leaderRound2SendPreprepare_ready {env : Env} {ω : Choice} (hleader : env.conf.sLid = 0)
    (s : ConnManager) : leaderRound2SendPreprepare env ω s.readyForClient
      = sendClientPreprepare env
          { s.readyForClient with pRound2CurrentStatus := some .waitingForPreprepare } := by
  have hvalue : canStartRound2Value env s.readyForClient = true := by
    unfold canStartRound2Value ConnManager.readyForClient
    simp
  unfold leaderRound2SendPreprepare
  rw [hleader, beq_self_eq_true, debugThrow_true, canStartRound2_eq hleader, hvalue,
    debugThrow_true]
  rfl

/-- A leader may send any number of client Preprepares. -/
theorem exists_leaderRun {env : Env} (hleader : env.conf.sLid = 0) (k : Nat) :
    ∃ s ps, LeaderRun env s ps ∧ ps.length = k := by
  induction k with
  | zero => exact ⟨_, _, .init, rfl⟩
  | succ k ih =>
    obtain ⟨s, ps, hrun, hlen⟩ := ih
    have hcall := leaderRound2SendPreprepare_ready (ω := { draw := fun _ => 0, top := 0 })
      hleader s
    have hready : LeaderRun env s.readyForClient ps := hrun.between rfl
    refine ⟨_, _, .client hready rfl hcall rfl, ?_⟩
    rw [List.length_append, hlen, List.length_singleton]

/-- The leader of a BG of four SLs that tolerates one failure. -/
def fourServers : Env where
  conf :=
    { rgBGInfo :=
        [{ failure := 1
           addr := (List.range 4).map fun i =>
            { sinAddr := 0x7F000001, sinPort := UInt16.ofNat (7000 + i) } }]
      bGid := 0
      sLid := 0
      globalFailures := 0 }
  host := .little
  debugFailfast := true
  round2Verifier := some fakeVerifier

/-- Its first four client Preprepares have all four SLs as primary envoys. -/
theorem envoys_fair_fourServers : ∃ s ps, LeaderRun fourServers s ps ∧ ps.length = 4
    ∧ (ps.map (envoyOf .little)).Perm [some 0, some 1, some 2, some 3] := by
  obtain ⟨s, ps, hrun, hlen⟩ := @exists_leaderRun fourServers rfl 4
  refine ⟨s, ps, hrun, hlen, ?_⟩
  obtain ⟨-, -, -, -, hwindow, -⟩ := envoys_fair (by decide) (by decide) (by decide) hrun
  have hfirst := hwindow 0 (by rw [hlen]; decide)
  rw [List.drop_zero, List.take_of_length_le (by rw [hlen]; decide)] at hfirst
  exact hfirst

end RCanopus
