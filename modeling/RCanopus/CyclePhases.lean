import RCanopus.Replicated
import RCanopus.Results

/-!
# The phases of a cycle

The state of a cycle at an SL is a function of the entries that the SL has committed, so the cycle
goes through its phases in the order of the log, and two SLs with the same log are in the same one.
-/

namespace RCanopus

open Cluster Exchange

variable {d : Deployment} {σ σ' : Cluster} {b i : Nat} {y z : Peer} {c : UInt16}
  {e : QueueElement} {ω : Choice} {before : Node} {x : Exchange} {s : ConnManager}
  {token : FetchKind → Nat → Nat → UInt16 → Token} {p q : MessageRound2Preprepare}
  {a : LockStep.State} {log : List MessageRound2Preprepare} {v : Round2View}

/-! ## Phases -/

/-- The phase of a cycle at an SL. A cycle that is in no map was not started, or it is stored. -/
def phaseAt (s : ConnManager) (c : UInt16) : CycleState :=
  match s.mapRound3Status c with
  | some status => status.state
  | none => if c ∈ s.pStorage then .round3Committed else .notStarted

/-- The phases of round 3 in their order. -/
def CycleState.phaseRank : CycleState → Nat
  | round3WaitingForReplicatedResults => 1
  | round3WaitingForLocalConnectivity => 2
  | round3WaitingForReplicatedConnectivity => 3
  | round3WaitingForReplicatedMembership => 4
  | round3Committed => 5
  | _ => 0

/-- How far a log has brought a cycle. -/
def phaseOf (numBG bg : Nat) (l : List Entry) (c : UInt16) : CycleState :=
  if .fullMembership c ∈ l then .round3Committed
  else if .localMembership c ∈ l then .round3WaitingForReplicatedMembership
  else if .localConnectivity c ∈ l then .round3WaitingForReplicatedConnectivity
  else if .client c ∈ l then
    if ∀ A < numBG, A ≠ bg → .fetched c A ∈ l then .round3WaitingForLocalConnectivity
    else .round3WaitingForReplicatedResults
  else .notStarted

/-- What a cycle waits for in a phase. -/
def CycleState.awaiting : CycleState → MessageType
  | round3WaitingForReplicatedResults => .round3FetchResponse
  | round3WaitingForLocalConnectivity => .round2FullCommit
  | round3WaitingForReplicatedConnectivity => .round3ConnectivityResponse
  | _ => .round3MembershipResponse

/-- How many messages a cycle waits for in a phase. -/
def CycleState.required (numBG : Nat) : CycleState → Nat
  | round3WaitingForLocalConnectivity => 1
  | _ => numBG - 1

/-! ### The next entry -/

section Append

variable {numBG : Nat} {l : List Entry} {e : Entry}

theorem phaseOf_of_ne (he : e.cycle ≠ c) : phaseOf numBG b (l ++ [e]) c = phaseOf numBG b l c := by
  have hmem : ∀ e' : Entry, e'.cycle = c → (e' ∈ l ++ [e] ↔ e' ∈ l) := fun e' he' => by
    rw [List.mem_append, List.mem_singleton]
    exact or_iff_left fun h => he (h ▸ he')
  have hfetched : (∀ A < numBG, A ≠ b → .fetched c A ∈ l ++ [e])
      ↔ ∀ A < numBG, A ≠ b → .fetched c A ∈ l :=
    forall₃_congr fun A _ _ => hmem (.fetched c A) rfl
  unfold phaseOf
  simp only [hmem (.fullMembership c) rfl, hmem (.localMembership c) rfl,
    hmem (.localConnectivity c) rfl, hmem (.client c) rfl, hfetched]

/-- **A log moves a cycle by one phase at most**, and never back. -/
theorem phaseRank_append (hN : 2 ≤ numBG) (hground : Grounded (Needs numBG b) (l ++ [e]))
    (hnew : e ∉ l) : (phaseOf numBG b (l ++ [e]) c).phaseRank = (phaseOf numBG b l c).phaseRank
      ∨ (phaseOf numBG b (l ++ [e]) c).phaseRank = (phaseOf numBG b l c).phaseRank + 1 := by
  have hbefore : ∀ {e₁ e₂}, e₁ ∈ l → Needs numBG b e₁ e₂ → e₂ ∈ l := fun h₁ hn =>
    (hground.of_isPrefix (List.prefix_append l [e])).mem h₁ hn
  have hneeds : ∀ {e'}, Needs numBG b e e' → e' ∈ l := fun hn => hground.mem_of_next rfl hn
  have hlast : ∀ e', e' ∈ l ++ [e] ↔ e' ∈ l ∨ e' = e := fun e' => by
    rw [List.mem_append, List.mem_singleton]
  have hchain : (.fullMembership c ∈ l → .localMembership c ∈ l)
      ∧ (.localMembership c ∈ l → .localConnectivity c ∈ l)
      ∧ (.localConnectivity c ∈ l → .client c ∈ l) :=
    ⟨fun h => hbefore h (.fullMembership c), fun h => hbefore h (.localMembership c),
      fun h => hbefore h (.localConnectivity c)⟩
  by_cases hc : e.cycle ≠ c
  · exact Or.inl (by rw [phaseOf_of_ne hc])
  rw [not_not] at hc
  subst hc
  cases e with
  | client c =>
    -- nothing of the cycle is there before, and no result is fetched yet
    have hconn : .localConnectivity c ∉ l := fun h => hnew (hchain.2.2 h)
    have hmember : .localMembership c ∉ l := fun h => hconn (hchain.2.1 h)
    have hfull : .fullMembership c ∉ l := fun h => hmember (hchain.1 h)
    have hfetched : ¬ ∀ A < numBG, A ≠ b → Entry.fetched c A ∈ l := fun h => by
      obtain ⟨A, hA, hne⟩ : ∃ A < numBG, A ≠ b :=
        if hb : b = 0 then ⟨1, hN, by omega⟩ else ⟨0, by omega, Ne.symm hb⟩
      exact hnew (hbefore (h A hA hne) (.fetched c A))
    refine Or.inr ?_
    simp only [Entry.cycle] at *
    simp [phaseOf, hlast, hconn, hmember, hfull, hnew, hfetched, CycleState.phaseRank]
  | fetched c A =>
    have hclient : .client c ∈ l := hneeds (.fetched c A)
    have himp : (∀ A < numBG, A ≠ b → Entry.fetched c A ∈ l) →
        ∀ B < numBG, B ≠ b → Entry.fetched c B ∈ l ∨ B = A := fun h B hB hne => Or.inl (h B hB hne)
    simp only [Entry.cycle] at *
    simp only [phaseOf, hlast, hclient, Entry.fetched.injEq, true_and, reduceCtorEq, or_false,
      if_true]
    split
    · exact Or.inl rfl
    · split
      · exact Or.inl rfl
      · split
        · exact Or.inl rfl
        · split
          · next h =>
            by_cases h' : ∀ A < numBG, A ≠ b → Entry.fetched c A ∈ l
            · exact Or.inl (by rw [if_pos h'])
            · exact Or.inr (by rw [if_neg h']; rfl)
          · next h => exact Or.inl (by rw [if_neg fun h' => h (himp h')])
  | localConnectivity c =>
    have hclient : .client c ∈ l := hneeds (.localConnectivity c)
    have hall : ∀ A < numBG, A ≠ b → Entry.fetched c A ∈ l := fun A hA hne =>
      hneeds (.results c A hA hne)
    have hmember : .localMembership c ∉ l := fun h => hnew (hchain.2.1 h)
    have hfull : .fullMembership c ∉ l := fun h => hmember (hchain.1 h)
    refine Or.inr ?_
    simp only [Entry.cycle] at *
    rw [show phaseOf numBG b l c = .round3WaitingForLocalConnectivity by
      simp only [phaseOf, hfull, hmember, hnew, hclient, if_false, if_true, if_pos hall]]
    simp [phaseOf, hlast, hmember, hfull, CycleState.phaseRank]
  | localMembership c =>
    have hconn : .localConnectivity c ∈ l := hneeds (.localMembership c)
    have hfull : .fullMembership c ∉ l := fun h => hnew (hchain.1 h)
    refine Or.inr ?_
    simp only [Entry.cycle] at *
    simp [phaseOf, hlast, hfull, hnew, hconn, CycleState.phaseRank]
  | fullMembership c =>
    have hmember : .localMembership c ∈ l := hneeds (.fullMembership c)
    refine Or.inr ?_
    simp only [Entry.cycle] at *
    simp [phaseOf, hlast, hnew, hmember, CycleState.phaseRank]

end Append

/-! ### The phase at an SL -/

section Status

variable {status : CycleStatus} (h : StatusOk d σ x y c status) (hy : d.Has y)

include h hy

/-- A cycle is in the maps only when there are other BGs. -/
theorem StatusOk.others : 2 ≤ d.conf.numBG ∧ .fullMembership c ∉ x.committed y := by
  have hpos : 0 < d.conf.numBG := Nat.lt_of_le_of_lt (Nat.zero_le _) hy.1
  have hstill := h.still
  unfold closer at hstill
  split at hstill
  · exact absurd h.client hstill
  · exact ⟨by omega, hstill⟩

/-- The four fields of a status are those of the phase, apart from the counter. -/
theorem StatusOk.phase : ∃ counter,
    status.In (phaseOf d.conf.numBG y.1 (x.committed y) c)
      (phaseOf d.conf.numBG y.1 (x.committed y) c).awaiting counter
      ((phaseOf d.conf.numBG y.1 (x.committed y) c).required d.conf.numBG) := by
  obtain ⟨hN, hfull⟩ := h.others hy
  have hall : d.layout.AllOthers y.1 (fun A => .fetched c A ∈ x.committed y)
      ↔ ∀ A < d.conf.numBG, A ≠ y.1 → .fetched c A ∈ x.committed y := and_iff_right hN
  unfold phaseOf
  rw [if_neg hfull]
  split
  · next hmember => exact ⟨_, h.joining hmember⟩
  · next hmember =>
    split
    · next hconn => exact ⟨_, h.connecting hconn hmember⟩
    · next hconn =>
      rw [if_pos h.client]
      split
      · next hfetched => exact ⟨_, h.collected (hall.mpr hfetched) hconn⟩
      · next hfetched => exact ⟨_, h.collecting (hall.not.mpr hfetched)⟩

end Status

/-- **The phase** of a cycle at an SL is a function of what the SL has committed. -/
theorem SlOk.phaseAt_eq (h : SlOk d σ x y s) (hinv : x.Inv d.layout) (hy : d.Has y)
    (hN : 2 ≤ d.conf.numBG) : phaseAt s c = phaseOf d.conf.numBG y.1 (x.committed y) c := by
  have hstatus := h.status c
  have hcloser : closer d.conf.numBG c = .fullMembership c := if_neg (by omega)
  have hstored : c ∈ s.pStorage ↔ .fullMembership c ∈ x.committed y := by
    rw [h.storage, mem_closed, hcloser]
  unfold phaseAt
  cases hs : s.mapRound3Status c with
  | some status =>
    rw [hs] at hstatus
    obtain ⟨counter, hstate, -⟩ := StatusOk.phase hstatus hy
    exact hstate
  | none =>
    rw [hs] at hstatus
    have hstatus : .client c ∉ x.committed y ∨ closer d.conf.numBG c ∈ x.committed y := hstatus
    dsimp only
    split
    · next hc => exact (if_pos (hstored.mp hc)).symm
    · next hc =>
      have hfull := hstored.not.mp hc
      have hclient := hstatus.resolve_right (hcloser ▸ hfull)
      have hconn : .localConnectivity c ∉ x.committed y := fun he =>
        hclient (hinv.needs_committed hy.2 he (.localConnectivity c))
      have hmember : .localMembership c ∉ x.committed y := fun he =>
        hconn (hinv.needs_committed hy.2 he (.localMembership c))
      unfold phaseOf
      rw [if_neg hfull, if_neg hmember, if_neg hconn, if_neg hclient]

/-! ## Steps -/

theorem committedOf_trace (s : ConnManager) :
    committedOf s.round2View.trace.events = committedOf s.history := committedOf_round2 s.history

/-- A new round does not commit anything. -/
theorem Spawned.committed {env : Env} {o : Outcome} (h : Spawned env v o) :
    committedOf o.state.history = committedOf v.trace.events := by
  cases h with
  | kept s hs => rw [Outcome.state_ok, ← committedOf_trace, hs.trace]
  | thrown ex s hs => rw [Outcome.state_thrown, ← committedOf_trace, hs]
  | issued p s hleader hidle hversion hs =>
    have hold : committedOf s.history = committedOf v.trace.events := by
      rw [← committedOf_trace, hs.trace]
    rw [sendPreprepare_eq, Outcome.state_ok, ← hold]
    show committedOf (s.history ++ [.issued _]) = _
    rw [committedOf_append]
    exact List.append_nil _

theorem Finished.committed {env : Env} {o : Outcome} (h : Finished env v o) :
    committedOf o.state.history = committedOf v.trace.events := by
  cases h with
  | returned s hs => rw [Outcome.state_ok, ← committedOf_trace, hs.trace]
  | cleared o hs => exact hs.committed

/-- A dispatch commits one Preprepare at most. -/
theorem Round2Inv.committed_dispatch (hinv : Round2Inv d σ b a log)
    (hd : Dispatch d σ σ' (b, i) e ω before) : committed σ' (b, i) = committed σ (b, i)
      ∨ ∃ p, committed σ' (b, i) = committed σ (b, i) ++ [p] := by
  have hs := hd.to.at_before hinv
  have hold : committedOf before.sl.round2View.trace.events = committed σ (b, i) := by
    rw [committedOf_trace, hd.sl_eq]
    rfl
  have hnew : committed σ' (b, i)
      = committedOf (dispatcherRound2 (d.env (b, i)) ω e before.sl).state.history := by
    rw [hd.result, committed_install, if_pos rfl]
  have hcases := hinv.dispatch_cases hd
  rw [hnew]
  revert hcases
  generalize hout : dispatcherRound2 (d.env (b, i)) ω e before.sl = o
  intro hcases
  cases hcases with
  | quiet s' a' v' he hs' h3 hcom hstatus hst =>
    refine Or.inl ?_
    have htaken := (hinv.trace i hd.has.2).committed
    rw [committedOf_trace] at htaken
    rw [Outcome.state_ok, ← committedOf_trace, hs'.trace, hst.trace_self.committed, hcom]
    exact htaken.symm
  | commit p hp hlt he hst hst' =>
    refine Or.inr ⟨p.copy, ?_⟩
    rw [(fullCommitBranch_finished (fun _ h => spawnRound2_finished h)
      (at_beforeBranch hs)).committed, ← hold]
    exact committedOf_append ..
  | other he hst =>
    refine Or.inl ?_
    rw [← hold]
    rcases he with he | ⟨m, hm, hi⟩
    · exact (dispatcherRound2_spawned he hs).committed
    · exact (dispatcherRound2_empty hm hi hs).committed

/-- **A step commits one Preprepare at most** at an SL. -/
theorem committed_step (h2 : Round2Ok d σ) (hs : Step d σ σ') (y : Peer) :
    committed σ' y = committed σ y ∨ ∃ p, committed σ' y = committed σ y ++ [p] := by
  rcases step_cases hs with ⟨⟨b, i⟩, e, ω, before, hd⟩ | ht
  · by_cases hy : y = (b, i)
    · subst hy
      obtain ⟨a, log, hinv⟩ := h2 b (Nat.lt_of_le_of_lt (Nat.zero_le i) hd.has.2)
      exact hinv.committed_dispatch hd
    · exact Or.inl (by rw [hd.result, committed_install, if_neg hy])
  · obtain ⟨k, hk⟩ := ht.sl_eq y
    refine Or.inl ?_
    unfold Cluster.committed
    rw [hk]

/-- The order of the phases. -/
inductive CycleState.Follows : CycleState → CycleState → Prop
  | start : Follows .notStarted .round3WaitingForReplicatedResults
  | results : Follows .round3WaitingForReplicatedResults .round3WaitingForLocalConnectivity
  | certify : Follows .round3WaitingForLocalConnectivity .round3WaitingForReplicatedConnectivity
  | connectivity :
    Follows .round3WaitingForReplicatedConnectivity .round3WaitingForReplicatedMembership
  | membership : Follows .round3WaitingForReplicatedMembership .round3Committed

theorem phaseOf_mem (numBG b : Nat) (l : List Entry) (c : UInt16) : phaseOf numBG b l c ∈
    [.notStarted, .round3WaitingForReplicatedResults, .round3WaitingForLocalConnectivity,
      .round3WaitingForReplicatedConnectivity, .round3WaitingForReplicatedMembership,
      CycleState.round3Committed] := by
  unfold phaseOf
  split_ifs <;> simp

/-- The rank tells the phases apart. -/
theorem phase_eq_of_rank {numBG numBG' b' : Nat} {l l' : List Entry}
    (h : (phaseOf numBG b l c).phaseRank = (phaseOf numBG' b' l' c).phaseRank) :
    phaseOf numBG b l c = phaseOf numBG' b' l' c := by
  have hfirst := phaseOf_mem numBG b l c
  have hsecond := phaseOf_mem numBG' b' l' c
  revert h hfirst hsecond
  generalize phaseOf numBG b l c = u
  generalize phaseOf numBG' b' l' c = w
  intro h hfirst hsecond
  simp only [List.mem_cons, List.not_mem_nil, or_false] at hfirst hsecond
  rcases hfirst with rfl | rfl | rfl | rfl | rfl | rfl <;>
    rcases hsecond with rfl | rfl | rfl | rfl | rfl | rfl <;>
      first | rfl | exact absurd h (by decide)

/-- A phase of the next rank follows. -/
theorem follows_of_rank {numBG : Nat} {l l' : List Entry}
    (h : (phaseOf numBG b l' c).phaseRank = (phaseOf numBG b l c).phaseRank + 1) :
    (phaseOf numBG b l c).Follows (phaseOf numBG b l' c) := by
  have hfirst := phaseOf_mem numBG b l c
  have hsecond := phaseOf_mem numBG b l' c
  revert h hfirst hsecond
  generalize phaseOf numBG b l c = u
  generalize phaseOf numBG b l' c = w
  intro h hfirst hsecond
  simp only [List.mem_cons, List.not_mem_nil, or_false] at hfirst hsecond
  rcases hfirst with rfl | rfl | rfl | rfl | rfl | rfl <;>
    rcases hsecond with rfl | rfl | rfl | rfl | rfl | rfl <;>
      first | constructor | exact absurd h (by decide)

section Steps

variable (hfits : d.conf.Fits) (hN : 2 ≤ d.conf.numBG) (hreach : Reachable d σ)

include hfits hN hreach

theorem phaseAt_eq (hy : d.Has y) :
    phaseAt (σ y).sl c = phaseOf d.conf.numBG y.1 (entries σ y) c := by
  obtain ⟨token, h⟩ := (round3Ok_of_reachable hfits hreach).inv
  exact (h.sl y).phaseAt_eq h.inv hy hN

/-- A cycle stays in its phase in a step, or it enters the next one. -/
theorem phase_step (hs : Step d σ σ') (hy : d.Has y) :
    phaseAt (σ' y).sl c = phaseAt (σ y).sl c
      ∨ (phaseAt (σ y).sl c).Follows (phaseAt (σ' y).sl c) := by
  rw [phaseAt_eq hfits hN hreach hy, phaseAt_eq hfits hN (hreach.step hs) hy]
  rcases committed_step (round2Ok_of_reachable hreach) hs y with hsame | ⟨p, hp⟩
  · refine Or.inl ?_
    unfold entries
    rw [hsame]
  · obtain ⟨token, h⟩ := (round3Ok_of_reachable hfits (hreach.step hs)).inv
    have happend : entries σ' y = entries σ y ++ [entryOf p] := by
      unfold entries
      rw [hp, List.map_append]
      rfl
    have hlog : entries σ' y <+: (issued σ' y.1).map entryOf := h.inv.committed_log y.1 y.2 hy.2
    have hground : Grounded (Needs d.conf.numBG y.1) (entries σ' y) :=
      (h.inv.grounded y.1).of_isPrefix hlog
    have hnodup : (entries σ' y).Nodup :=
      (List.nodup_append.mp (h.inv.nodup y.1)).1.sublist hlog.sublist
    rw [happend] at hground hnodup ⊢
    have hnew : entryOf p ∉ entries σ y := fun hmem =>
      (List.nodup_append.mp hnodup).2.2 _ hmem _ List.mem_cons_self rfl
    rcases phaseRank_append (c := c) hN hground hnew with hrank | hrank
    · exact Or.inl (phase_eq_of_rank hrank)
    · exact Or.inr (follows_of_rank hrank)

end Steps

theorem CycleState.Follows.rank {u w : CycleState} (h : u.Follows w) :
    w.phaseRank = u.phaseRank + 1 := by
  cases h <;> rfl

/-- A cycle never goes back to a phase. -/
theorem phase_run (hfits : d.conf.Fits) (hN : 2 ≤ d.conf.numBG) (hreach : Reachable d σ)
    (hrun : Relation.ReflTransGen (Step d) σ σ') (hy : d.Has y) :
    (phaseAt (σ y).sl c).phaseRank ≤ (phaseAt (σ' y).sl c).phaseRank := by
  induction hrun with
  | refl => exact Nat.le_refl _
  | tail hpath hs ih =>
    refine ih.trans ?_
    rcases phase_step (c := c) hfits hN (hreach.trans hpath) hs hy with hsame | hfollows
    · rw [hsame]
    · rw [hfollows.rank]
      exact Nat.le_succ _

/-! ## Proposals -/

/-- What a leader has issued and queued. -/
def proposed (σ : Cluster) (b : Nat) : List MessageRound2Preprepare :=
  issued σ b ++ (σ (b, 0)).sl.pLeaderRound2PendingPreprepareRaw

/-- A leader proposes each piece of news of a cycle once, and results of other BGs only. -/
structure ProposesOnce (d : Deployment) (σ : Cluster) (b : Nat) : Prop where
  fetched : ∀ c A, (proposed σ b).countP (fun p =>
    p.requestType = requestTypeFetchedResult ∧ p.cycle = c ∧ p.bGid.toNat = A) ≤ 1
  remote : ∀ p ∈ proposed σ b, p.requestType = requestTypeFetchedResult →
    p.bGid.toNat < d.conf.numBG ∧ p.bGid.toNat ≠ b
  others : ∀ t ∈ [requestTypeLocalConnectivity, requestTypeLocalMembership,
      requestTypeFullMembership], ∀ c,
    (proposed σ b).countP (fun p => p.requestType = t ∧ p.cycle = c) ≤ 1

theorem entryOf_of_fetched (ht : p.requestType = requestTypeFetchedResult) :
    entryOf p = .fetched p.cycle p.bGid.toNat := by
  unfold entryOf
  rw [if_neg (by rw [ht]; decide), if_pos ht]

/-- There is one proposal for each entry. -/
theorem countP_proposed (h : Round3Inv d σ token) {f : MessageRound2Preprepare → Bool} {e : Entry}
    (hf : ∀ p, f p = true → entryOf p = e) : (proposed σ b).countP f ≤ 1 := by
  have hnodup : ((proposed σ b).map entryOf).Nodup := by
    unfold proposed
    rw [List.map_append]
    exact h.inv.nodup b
  calc (proposed σ b).countP f
      ≤ (proposed σ b).countP (fun p => entryOf p == e) :=
        List.countP_mono_left fun p _ hp => beq_iff_eq.mpr (hf p hp)
    _ = ((proposed σ b).map entryOf).count e := by
        rw [List.count, List.countP_map]
        rfl
    _ ≤ 1 := List.nodup_iff_count_le_one.mp hnodup e

theorem Round3Inv.proposesOnce (h : Round3Inv d σ token) (b : Nat) : ProposesOnce d σ b where
  fetched := fun c A => by
    refine countP_proposed (e := .fetched c A) h fun p hp => ?_
    obtain ⟨ht, rfl, rfl⟩ := of_decide_eq_true hp
    exact entryOf_of_fetched ht
  remote := fun p hp ht => by
    have hmem : .fetched p.cycle p.bGid.toNat ∈ (exchange σ token).log b
        ++ (exchange σ token).queue b := by
      rw [← entryOf_of_fetched ht]
      show entryOf p ∈ (Cluster.issued σ b).map entryOf
        ++ (σ (b, 0)).sl.pLeaderRound2PendingPreprepareRaw.map entryOf
      rw [← List.map_append]
      exact List.mem_map_of_mem hp
    have hdone := (h.inv.fetched b p.cycle p.bGid.toNat).mp hmem
    obtain ⟨-, hA, hne, -⟩ := (h.inv.asked _ _ _ _).mp (by rw [hdone]; simp)
    exact ⟨hA, hne⟩
  others := fun t ht c => by
    simp only [List.mem_cons, List.not_mem_nil, or_false] at ht
    rcases ht with rfl | rfl | rfl
    · refine countP_proposed (e := .localConnectivity c) h fun p hp => ?_
      obtain ⟨ht, rfl⟩ := of_decide_eq_true hp
      unfold entryOf
      rw [ht, if_neg (by decide), if_neg (by decide), if_pos rfl]
    · refine countP_proposed (e := .localMembership c) h fun p hp => ?_
      obtain ⟨ht, rfl⟩ := of_decide_eq_true hp
      unfold entryOf
      rw [ht, if_neg (by decide), if_neg (by decide), if_neg (by decide), if_pos rfl]
    · refine countP_proposed (e := .fullMembership c) h fun p hp => ?_
      obtain ⟨ht, rfl⟩ := of_decide_eq_true hp
      unfold entryOf
      rw [ht, if_neg (by decide), if_neg (by decide), if_neg (by decide), if_neg (by decide)]

/-! ## Counters -/

/-- Whether the message of a phase is stored for a BG. -/
def storedFrom (status : CycleStatus) : FetchKind → Nat → Bool
  | .result, A => (status.rgMsgRound3FetchResponse A).isSome
  | .connectivity, A => (status.rgMsgRound3ConnectivityResponse A).isSome
  | .membership, A => (status.rgMsgRound3MembershipResponse A).isSome

/--
The status whose counter a handler compares with what is required, when the SL takes a message. The
handler has just stored the message and raised the counter.
-/
def comparedStatus (conf : Config) (s : ConnManager) : Message → Option (FetchKind × CycleStatus)
  | .round2FullCommit _ =>
    match s.pTemporaryStorageOfPreprepare with
    | none => none
    | some p =>
      if p.requestType = requestTypeFetchedResult then
        (s.mapRound3Status p.cycle).map fun status =>
          (.result, status.fillResult p.bGid.toNat (unwrapFetchedResult p))
      else none
  | .round3ConnectivityResponse m =>
    if conf.isRound2Leader then
      match s.mapRound3Status m.cycle with
      | none => none
      | some status =>
        if status.awaitingMessageType = .round3ConnectivityResponse then
          some (.connectivity, status.fillConnectivity m)
        else none
    else none
  | .round3MembershipResponse m =>
    if conf.isRound2Leader then
      match s.mapRound3Status m.cycle with
      | none => none
      | some status =>
        if status.state = .round3WaitingForReplicatedMembership then
          some (.membership, status.fillMembership m)
        else none
    else none
  | _ => none

theorem storedFrom_fillConnectivity {status : CycleStatus} {m : MessageRound3FetchResponse}
    {A : Nat} : storedFrom (status.fillConnectivity m) .connectivity A
      = if A = m.senderBGid.toNat then true else storedFrom status .connectivity A := by
  unfold storedFrom CycleStatus.fillConnectivity
  dsimp only
  rw [Function.update_apply]
  split <;> rfl

theorem storedFrom_fillMembership {status : CycleStatus} {m : MessageRound3FullMembership}
    {A : Nat} : storedFrom (status.fillMembership m) .membership A
      = if A = m.senderBGid.toNat then true else storedFrom status .membership A := by
  unfold storedFrom CycleStatus.fillMembership
  dsimp only
  rw [Function.update_apply]
  split <;> rfl

section Compared

variable (h : Round3Inv d σ token) (hd : Dispatch d σ σ' y e ω before) {status : CycleStatus}

include h hd

/-- The counter when a fetched result is committed. -/
theorem Round3Inv.compared_result (h2 : Round2Ok d σ) {m : MessageRound2FullCommit}
    (hm : e.pMessage = .round2FullCommit m)
    (hp : before.sl.pTemporaryStorageOfPreprepare = some p)
    (ht : p.requestType = requestTypeFetchedResult)
    (hget : before.sl.mapRound3Status p.cycle = some status) :
    status.messageReceivedCounter + 1 = countOthers d.conf.numBG y.1 fun A =>
      (Function.update status.rgMsgRound3FetchResponse p.bGid.toNat
        (some (unwrapFetchedResult p)) A).isSome := by
  obtain ⟨b, i⟩ := y
  obtain ⟨a, log, hinv⟩ := h2 b (Nat.lt_of_le_of_lt (Nat.zero_le i) hd.has.2)
  obtain ⟨hlt, -⟩ := hd.to.fullCommit_eq hinv (by rw [hm]; rfl)
  have hi : i < d.conf.numSL b := hd.has.2
  obtain ⟨hacc, -⟩ := hinv.lock.closed_of_lt hi hlt
  -- the stored Preprepare is the next entry of the log
  have hnext : (exchange σ token).Next d.layout (b, i) (.fetched p.cycle p.bGid.toNat) := by
    rw [← entryOf_of_fetched ht]
    cases (hinv.start hd.to).live_self.phase with
    | ready hidle => omega
    | stuck q k hk hq hidle => omega
    | active q hq hidle hstored hcol hstatus =>
      have hpq : some p = some q.copy := hp.symm.trans hstored
      rw [Option.some.inj hpq, entryOf_copy]
      exact hinv.next hd.has.2 hq hlt
  have hdone := (h.inv.fetched b p.cycle p.bGid.toNat).mp (List.mem_append_left _ hnext.mem_log)
  obtain ⟨-, hA, hne, -⟩ := (h.inv.asked _ _ _ _).mp (by rw [hdone]; simp)
  have hstatus := (SlOk.taken hd (h.sl (b, i))).status p.cycle
  rw [hget] at hstatus
  exact StatusOk.count_fetched hstatus h.inv hnext hA hne _

/-- The counter when a response of the two later kinds is stored. -/
theorem Round3Inv.compared_response {k : FetchKind} {A : Nat} (hk : k ≠ .result)
    (hkey : e.pMessage.responseKey = some (k, A, c))
    (hget : before.sl.mapRound3Status c = some status) :
    A < d.conf.numBG ∧ A ≠ y.1 ∧ StatusOk d σ (exchange σ token) y c status
      ∧ storedFrom status k A = false := by
  obtain ⟨htoken, -, hA, hne⟩ := h.asked_of_response hd hkey
  have hstatus := (SlOk.taken hd (h.sl y)).status c
  rw [hget] at hstatus
  have hstatus : StatusOk d σ (exchange σ token) y c status := hstatus
  refine ⟨hA, hne, hstatus, ?_⟩
  rw [Bool.eq_false_iff]
  cases k with
  | result => exact absurd rfl hk
  | connectivity =>
    intro hc
    rw [((hstatus.connectivity A hne).mp hc).2] at htoken
    exact absurd htoken (by simp)
  | membership =>
    intro hc
    rw [((hstatus.membership A hne).mp hc).2] at htoken
    exact absurd htoken (by simp)

/-- **The counters are exact** whenever they are compared. -/
theorem Round3Inv.compared (h2 : Round2Ok d σ) {k : FetchKind}
    (hcompared : comparedStatus (d.env y).conf before.sl e.pMessage = some (k, status)) :
    status.messageReceivedCounter
      = countOthers d.conf.numBG y.1 fun A => storedFrom status k A := by
  have hleader : (d.env y).conf.isRound2Leader = (y.2 == 0) := rfl
  unfold comparedStatus at hcompared
  split at hcompared
  · next m hm =>
    split at hcompared
    · exact absurd hcompared (by simp)
    · next p hp =>
      split at hcompared
      · next ht =>
        obtain ⟨old, hold, heq⟩ := Option.map_eq_some_iff.mp hcompared
        obtain ⟨rfl, rfl⟩ := Prod.mk.inj heq
        exact h.compared_result hd h2 hm hp ht hold
      · exact absurd hcompared (by simp)
  · next m hm =>
    rw [hleader] at hcompared
    split at hcompared
    · split at hcompared
      · exact absurd hcompared (by simp)
      · next old hold =>
        split at hcompared
        · next hawaiting =>
          obtain ⟨rfl, rfl⟩ := Prod.mk.inj (Option.some.inj hcompared)
          obtain ⟨hA, hne, hstatus, hslot⟩ := h.compared_response hd
            (k := .connectivity) (c := m.cycle) (A := m.senderBGid.toNat) (by simp)
            (by rw [hm]; rfl) hold
          obtain ⟨hconn, hmem⟩ := hstatus.of_awaiting hawaiting
          show old.messageReceivedCounter + 1 = _
          rw [(hstatus.connecting hconn hmem).2.2.1]
          refine (countOthers_fill hA hne hslot ?_ fun B hB => ?_).symm
          · rw [storedFrom_fillConnectivity, if_pos rfl]
          · rw [storedFrom_fillConnectivity, if_neg hB]
        · exact absurd hcompared (by simp)
    · exact absurd hcompared (by simp)
  · next m hm =>
    rw [hleader] at hcompared
    split at hcompared
    · split at hcompared
      · exact absurd hcompared (by simp)
      · next old hold =>
        split at hcompared
        · next hstate =>
          obtain ⟨rfl, rfl⟩ := Prod.mk.inj (Option.some.inj hcompared)
          obtain ⟨hA, hne, hstatus, hslot⟩ := h.compared_response hd
            (k := .membership) (c := m.cycle) (A := m.senderBGid.toNat) (by simp)
            (by rw [hm]; rfl) hold
          show old.messageReceivedCounter + 1 = _
          rw [(hstatus.joining (hstatus.of_state hstate)).2.2.1]
          refine (countOthers_fill hA hne hslot ?_ fun B hB => ?_).symm
          · rw [storedFrom_fillMembership, if_pos rfl]
          · rw [storedFrom_fillMembership, if_neg hB]
        · exact absurd hcompared (by simp)
    · exact absurd hcompared (by simp)
  · exact absurd hcompared (by simp)

end Compared

/--
**The phases of a cycle.** Over all runs with at least two BGs: a cycle goes through its phases in
their order and never back, a leader proposes each piece of news once, and a counter that is
compared is the number of other BGs whose message is stored.
-/
theorem cycle_phases (hfits : d.conf.Fits) (hN : 2 ≤ d.conf.numBG) (hreach : Reachable d σ) :
    (∀ y, d.Has y → ∀ c,
        (∀ σ', Step d σ σ' → phaseAt (σ' y).sl c = phaseAt (σ y).sl c
          ∨ (phaseAt (σ y).sl c).Follows (phaseAt (σ' y).sl c))
        ∧ ∀ σ', Relation.ReflTransGen (Step d) σ σ' →
          (phaseAt (σ y).sl c).phaseRank ≤ (phaseAt (σ' y).sl c).phaseRank)
      ∧ (∀ b, ProposesOnce d σ b)
      ∧ ∀ y e ω before σ', Dispatch d σ σ' y e ω before → ∀ k status,
        comparedStatus (d.env y).conf before.sl e.pMessage = some (k, status) →
        status.messageReceivedCounter
          = countOthers d.conf.numBG y.1 fun A => storedFrom status k A := by
  obtain ⟨token, h⟩ := (round3Ok_of_reachable hfits hreach).inv
  refine ⟨fun y hy c => ⟨fun σ' hs => ?_, fun σ' hrun => ?_⟩, h.proposesOnce, ?_⟩
  · exact phase_step hfits hN hreach hs hy
  · exact phase_run hfits hN hreach hrun hy
  · exact fun y e ω before σ' hd k status => h.compared hd (round2Ok_of_reachable hreach)

/-- The leader of the first BG has proposed the result of the other BG for cycle 1 once at most. -/
theorem twoBGs_phases : ∃ σ, Reachable twoBGs σ ∧ closedOf (σ (1, 0)).sl.history = [2]
    ∧ (proposed σ 0).countP (fun p =>
      p.requestType = requestTypeFetchedResult ∧ p.cycle = 1 ∧ p.bGid.toNat = 1) ≤ 1 := by
  obtain ⟨σ, hreach, hclosed, -⟩ := overtakingRun_result
  have h := cycle_phases valid_twoBGs.fits (by decide) hreach
  exact ⟨σ, hreach, hclosed, (h.2.1 0).fetched 1 1⟩

/-! ## Two SLs with the same log -/

/--
Two statuses agree in what the log determines. The own answer also names the SL that made it, which
is left out.
-/
structure SameStatus (bg : Nat) (status status' : CycleStatus) : Prop where
  state : status.state = status'.state
  awaiting : status.awaitingMessageType = status'.awaitingMessageType
  required : status.messageRequired = status'.messageRequired
  others : ∀ A ≠ bg, status.rgMsgRound3FetchResponse A = status'.rgMsgRound3FetchResponse A
  own : (status.rgMsgRound3FetchResponse bg).map (fun r => { r with senderSLid := 0 })
    = (status'.rgMsgRound3FetchResponse bg).map fun r => { r with senderSLid := 0 }

/-- An SL commits one Preprepare for each entry. -/
theorem Round3Inv.committed_unique (h : Round3Inv d σ token) (hreach : Reachable d σ)
    (hy : d.Has y) (hp : p ∈ Cluster.committed σ y) (hq : q ∈ Cluster.committed σ y)
    (heq : entryOf p = entryOf q) : p = q := by
  obtain ⟨p', hp', rfl⟩ := exists_issued hreach hy hp
  obtain ⟨q', hq', rfl⟩ := exists_issued hreach hy hq
  rw [entryOf_copy, entryOf_copy] at heq
  rw [h.issued_unique hp' hq' heq]

section SameLog

variable {j : Nat} {token' : FetchKind → Nat → Nat → UInt16 → Token}
  (h : Round3Inv d σ token) (h' : Round3Inv d σ' token') (hreach : Reachable d σ)
  (hy : d.Has (b, i)) (hz : d.Has (b, j))
  (hlog : Cluster.committed σ (b, i) = Cluster.committed σ' (b, j))

include h hreach hy hz hlog

/-- The statuses of a cycle at two SLs with the same log. -/
theorem Round3Inv.sameStatus {status status' : CycleStatus}
    (hstatus : StatusOk d σ (exchange σ token) (b, i) c status)
    (hstatus' : StatusOk d σ' (exchange σ' token') (b, j) c status') :
    SameStatus b status status' := by
  have hentries : (exchange σ token).committed (b, i) = (exchange σ' token').committed (b, j) :=
    congrArg (List.map entryOf) hlog
  obtain ⟨n, hstate, hawaiting, -, hrequired⟩ := hstatus.phase hy
  obtain ⟨n', hstate', hawaiting', -, hrequired'⟩ := hstatus'.phase hz
  rw [← hentries] at hstate' hawaiting' hrequired'
  refine ⟨hstate.trans hstate'.symm, hawaiting.trans hawaiting'.symm,
    hrequired.trans hrequired'.symm, fun A hA => ?_, ?_⟩
  · have hsome := hstatus.results A hA
    have hsome' := hstatus'.results A hA
    rw [← hentries, ← hsome] at hsome'
    cases hr : status.rgMsgRound3FetchResponse A with
    | none =>
      rw [hr] at hsome'
      cases hr' : status'.rgMsgRound3FetchResponse A with
      | none => rfl
      | some r' =>
        rw [hr'] at hsome'
        exact absurd (hsome'.mp rfl) (by simp)
    | some r =>
      rw [hr] at hsome'
      obtain ⟨r', hr'⟩ := Option.isSome_iff_exists.mp (hsome'.mpr rfl)
      obtain ⟨p, hp, hpe, rfl⟩ := hstatus.unwrapped A hA r hr
      obtain ⟨q, hq, hqe, rfl⟩ := hstatus'.unwrapped A hA r' hr'
      rw [← hlog] at hq
      rw [hr', h.committed_unique hreach hy hp hq (hpe.trans hqe.symm)]
  · obtain ⟨p, hp, hpe, hanswer⟩ := hstatus.ready .result hstatus.client
    obtain ⟨q, hq, hqe, hanswer'⟩ := hstatus'.ready .result hstatus'.client
    rw [← hlog] at hq
    obtain rfl := h.committed_unique hreach hy hp hq (hpe.trans hqe.symm)
    obtain ⟨r, hr, hrp⟩ := Option.map_eq_some_iff.mp hanswer
    obtain ⟨r', hr', hrp'⟩ := Option.map_eq_some_iff.mp hanswer'
    have hr : status.rgMsgRound3FetchResponse b = some r := hr
    have hr' : status'.rgMsgRound3FetchResponse b = some r' := hr'
    rw [hr, hr', Message.round3FetchResponse.inj hrp, Message.round3FetchResponse.inj hrp']
    rfl

include h'

theorem Round3Inv.sameStatusAt : Option.Rel (SameStatus b)
    ((σ (b, i)).sl.mapRound3Status c) ((σ' (b, j)).sl.mapRound3Status c) := by
  have hentries : (exchange σ token).committed (b, i) = (exchange σ' token').committed (b, j) :=
    congrArg (List.map entryOf) hlog
  have hstatus := (h.sl (b, i)).status c
  have hstatus' := (h'.sl (b, j)).status c
  revert hstatus hstatus'
  cases (σ (b, i)).sl.mapRound3Status c with
  | none =>
    cases (σ' (b, j)).sl.mapRound3Status c with
    | none => exact fun _ _ => .none
    | some status' =>
      intro hstatus (hstatus' : StatusOk d σ' (exchange σ' token') (b, j) c status')
      have hstatus : .client c ∉ (exchange σ token).committed (b, i)
        ∨ closer d.conf.numBG c ∈ (exchange σ token).committed (b, i) := hstatus
      rw [hentries] at hstatus
      exact (hstatus.elim (fun hc => hc hstatus'.client) hstatus'.still).elim
  | some status =>
    cases (σ' (b, j)).sl.mapRound3Status c with
    | none =>
      intro (hstatus : StatusOk d σ (exchange σ token) (b, i) c status) hstatus'
      have hstatus' : .client c ∉ (exchange σ' token').committed (b, j)
        ∨ closer d.conf.numBG c ∈ (exchange σ' token').committed (b, j) := hstatus'
      rw [← hentries] at hstatus'
      exact (hstatus'.elim (fun hc => hc hstatus.client) hstatus.still).elim
    | some status' => exact fun hs hs' => .some (h.sameStatus hreach hy hz hlog hs hs')

end SameLog

/--
**What is replicated depends only on the log.** Two SLs of a BG that have committed the same, in any
two reachable states, have the same cycles in round 3 and in storage, and the statuses of a cycle
agree.
-/
theorem replicated_state {j : Nat} (hfits : d.conf.Fits) (hreach : Reachable d σ)
    (hreach' : Reachable d σ') (hy : d.Has (b, i)) (hz : d.Has (b, j))
    (hlog : committed σ (b, i) = committed σ' (b, j)) :
    (∀ c, Option.Rel (SameStatus b) ((σ (b, i)).sl.mapRound3Status c)
        ((σ' (b, j)).sl.mapRound3Status c))
      ∧ (σ (b, i)).sl.pStorage = (σ' (b, j)).sl.pStorage := by
  obtain ⟨token, h⟩ := (round3Ok_of_reachable hfits hreach).inv
  obtain ⟨token', h'⟩ := (round3Ok_of_reachable hfits hreach').inv
  refine ⟨fun c => h.sameStatusAt h' hreach hy hz hlog, ?_⟩
  rw [(h.sl (b, i)).storage, (h'.sl (b, j)).storage]
  exact congrArg (fun l => (l.map entryOf).filterMap (closedCycle d.conf.numBG)) hlog

/-- The two SLs of the first BG, at the end of the run above. -/
theorem twoBGs_replicated_state : ∃ σ, Reachable twoBGs σ ∧ (committed σ (0, 0)).length = 8
    ∧ (∀ c, Option.Rel (SameStatus 0) ((σ (0, 0)).sl.mapRound3Status c)
        ((σ (0, 1)).sl.mapRound3Status c))
    ∧ (σ (0, 0)).sl.pStorage = (σ (0, 1)).sl.pStorage := by
  obtain ⟨σ, hreach, -, hfirst, hother⟩ := overtakingRun_result
  have hlog : committed σ (0, 0) = committed σ (0, 1) := by
    have hreplicated : Replicated twoBGs σ 0 :=
      (round2Ok_of_reachable hreach).replicated (by decide)
    rcases hreplicated.comparable 0 (by decide) 1 (by decide) with hinitial | hinitial
    · exact hinitial.eq_of_length (hfirst.trans hother.symm)
    · exact (hinitial.eq_of_length (hother.trans hfirst.symm)).symm
  exact ⟨σ, hreach, hfirst,
    replicated_state valid_twoBGs.fits hreach hreach (by decide) (by decide) hlog⟩

end RCanopus
