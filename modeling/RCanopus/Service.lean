import RCanopus.Lib.Rendezvous
import RCanopus.LogSize
import RCanopus.Round3Frame

/-!
# What the servers do for their clients

The BGs rendezvous: the leader of a BG proposes what its clients sent for one cycle after the other,
and an SL that passes a cycle to `round3_committed` has what all BGs have proposed for it. `service`
reads this off a state of all SLs, and every step refines steps of the rendezvous.
-/

namespace RCanopus

open Cluster Exchange

/-! ## The state of the rendezvous -/

/-- The client Preprepares that were issued, as they are sent. -/
def contentsOf (h : Endian) (events : List Event) : List (List UInt8) :=
  ((issuedOf events).filter fun p => p.requestType = requestTypeFromClient).map (·.sentBytes h)

/-- The cycles that were passed to `round3_committed`, from 0 on, and what was there of each BG. -/
def conclusionsOf (numBG : Nat) (events : List Event) :
    List (Nat × (Fin numBG → Option (List UInt8))) :=
  events.filterMap fun
    | .round3Committed c status =>
      some (c.toNat - 1,
        fun A => (status.rgMsgRound3FetchResponse A).map (·.entirePreprepareMsg))
    | _ => none

/-- A server of the configuration file. -/
abbrev Deployment.Server (d : Deployment) : Type := { y : Peer // d.Has y }

def service (d : Deployment) (σ : Cluster) :
    Rendezvous.State (Fin d.conf.numBG) d.Server (List UInt8) where
  proposed := fun A => contentsOf d.host (σ (A, 0)).sl.history
  concluded := fun y => conclusionsOf d.conf.numBG (σ y).sl.history

/-! ## Histories grow -/

section History

variable {env : Env} {ω : Choice} {s : ConnManager} {e : QueueElement} {events : List Event}

/-- The history of an SL begins with these events. -/
def Began (events : List Event) (s : ConnManager) : Prop := events <+: s.history

theorem Began.append (h : Began events s) (l : List Event) : events <+: s.history ++ l :=
  List.IsPrefix.trans h (List.prefix_append _ _)

theorem began_frame (events : List Event) : Round3Frame (Began events) where
  notes h _ := h.append _
  enqueue h _ := h
  juggle h _ := h
  setStatus _ _ h := h
  setPending _ _ _ h := h
  erase _ h := h

theorem began_dispatchFrame (events : List Event) :
    DispatchFrame (Began events) (Began events) where
  before := began_frame events
  after := began_frame events
  running _ h := h
  store _ h := h
  drop h := h
  clear h := h
  push h _ := h
  accept _ _ _ h := h
  record h _ := h.append _
  send h _ := h
  delay h _ := h

theorem began_startRound2IfPossible (hs : Began events s) :
    Began events (startRound2IfPossible env ω s).state := by
  have hframe := began_frame events
  unfold startRound2IfPossible canStartRound2 leaderRound2SendPreprepare canStartRound2
  refine hframe.debugThrow (Q := fun o => Began events o.state) hs (fun _ _ hs => hs)
    fun s hs => ?_
  dsimp only
  split
  · exact hs
  split
  · refine hframe.debugThrow (Q := fun o => Began events o.state) hs (fun _ _ hs => hs)
      fun s hs => ?_
    refine hframe.debugThrow (Q := fun o => Began events o.state) hs (fun _ _ hs => hs)
      fun s hs => ?_
    split
    · exact hs
    refine hframe.debugThrow (Q := fun o => Began events o.state) hs (fun _ _ hs => hs)
      fun s hs => ?_
    split
    · exact hs
    · split
      · refine hframe.debugThrow (P := Began events) (Q := fun o => Began events o.state) hs
          (fun _ _ hs => hs) fun s hs => ?_
        exact Began.append hs _
      · exact Began.append hs _
  · exact hs

theorem began_spawnRound2 (hs : Began events s) : Began events (spawnRound2 env ω s).state := by
  unfold spawnRound2
  split
  · exact began_startRound2IfPossible hs
  · exact hs

theorem began_dispatcherRound2Request {m : MessageRound2Request} (hs : Began events s) :
    Began events (dispatcherRound2Request env ω e m s).state := by
  have hframe := began_frame events
  unfold dispatcherRound2Request
  split
  · exact hframe.debugThrow (Q := fun o => Began events o.state) hs (fun _ _ hs => hs)
      fun _ hs => hs
  · exact hframe.debugThrowElseReturnVoid (Q := fun o => Began events o.state) hs
      (fun _ _ hs => hs) (fun _ hs => hs) fun s hs => began_startRound2IfPossible hs

/-- No call of the dispatcher takes anything out of the history. -/
theorem history_began (env : Env) (ω : Choice) (e : QueueElement) (s : ConnManager) :
    s.history <+: (dispatcherRound2 env ω e s).state.history :=
  (began_dispatchFrame s.history).dispatcherRound2 (Q := fun o => Began s.history o.state)
    List.prefix_rfl (fun _ _ hs => hs) (fun _ hs => hs) (fun _ _ hs => hs)
    (fun _ hs => began_spawnRound2 hs) (fun _ hs => began_startRound2IfPossible hs)
    (fun _ _ hs _ => began_startRound2IfPossible hs)
    fun _ _ => began_dispatcherRound2Request List.prefix_rfl

end History

variable {d : Deployment} {σ σ' : Cluster} {x y : Peer} {b : Nat} {c : UInt16}
  {e : QueueElement} {before : Node} {o : Outcome} {q : MessageRound2Preprepare}
  {token : FetchKind → Nat → Nat → UInt16 → Token}

/-! ## The invariant of the rendezvous -/

theorem map_cycle_clients (σ : Cluster) (b : Nat) :
    ((issued σ b).filter fun p => p.requestType = requestTypeFromClient).map (·.cycle)
      = clientCycles σ b := by
  unfold clientCycles
  induction issued σ b with
  | nil => rfl
  | cons p l ih =>
    simp only [List.map_cons, List.filterMap_cons, clientCycle_entryOf, List.filter_cons]
    by_cases hp : p.requestType = requestTypeFromClient <;> simp [hp, ih]

theorem mem_conclusionsOf {numBG : Nat} {events : List Event}
    {f : Nat × (Fin numBG → Option (List UInt8))} (hf : f ∈ conclusionsOf numBG events) :
    ∃ c status, .round3Committed c status ∈ events ∧ f = (c.toNat - 1,
      fun A => (status.rgMsgRound3FetchResponse A).map (·.entirePreprepareMsg)) := by
  obtain ⟨ev, hev, heq⟩ := List.mem_filterMap.mp hf
  cases ev <;> simp at heq
  exact ⟨_, _, hev, heq.symm⟩

theorem map_fst_conclusionsOf (numBG : Nat) (events : List Event) :
    (conclusionsOf numBG events).map Prod.fst = (closedOf events).map fun c => c.toNat - 1 := by
  unfold conclusionsOf closedOf
  rw [List.map_filterMap, List.map_filterMap]
  refine List.filterMap_congr fun ev _ => ?_
  cases ev <;> rfl

/-- What the rendezvous rests on: the logs of the leaders, and what the SLs have passed on. -/
structure Accounts (d : Deployment) (σ : Cluster) : Prop where
  issued : ∀ b, ∀ p ∈ issued σ b, Proposal d σ b p
  clients : ∀ b, ClientsOk d σ b
  nodup : ∀ b, ((Cluster.issued σ b).map entryOf).Nodup
  committed_log : ∀ y, d.Has y → entries σ y <+: (Cluster.issued σ y.1).map entryOf
  closed : ∀ y, closedOf (σ y).sl.history = (entries σ y).filterMap (closedCycle d.conf.numBG)
  events : ∀ y, ∀ ev ∈ (σ y).sl.history, EventOk d σ y ev

theorem Round3Inv.accounts (h : Round3Inv d σ token) : Accounts d σ where
  issued := h.issued
  clients := h.clients
  nodup b := (List.nodup_append.mp (h.inv.nodup b)).1
  committed_log y hy := h.inv.committed_log y.1 y.2 hy.2
  closed y := (h.sl y).closed.trans (h.sl y).storage
  events y := (h.sl y).events

section Contents

variable (h : Accounts d σ)

include h

/-- The cycles are numbered with 16 bits, and none of them has the number 0. -/
theorem length_clientCycles_lt : (clientCycles σ b).length < 2 ^ 16 := by
  by_contra hge
  rw [Nat.not_lt] at hge
  have hzero : (0 : UInt16) ∈ clientCycles σ b := by
    rw [(h.clients b).cycles]
    exact List.mem_map.mpr ⟨65535, List.mem_range.mpr (by omega), rfl⟩
  rw [← map_cycle_clients] at hzero
  obtain ⟨p, hp, hcycle⟩ := List.mem_map.mp hzero
  obtain ⟨hp, htype⟩ := List.mem_filter.mp hp
  exact ((h.issued b p hp).client (of_decide_eq_true htype)).2 hcycle

/-- The proposal of a BG for a cycle is the client Preprepare that its leader issued. -/
theorem getElem?_contentsOf (hq : q ∈ issued σ b) (hentry : entryOf q = .client c) :
    (contentsOf d.host (σ (b, 0)).sl.history)[c.toNat - 1]? = some (q.sentBytes d.host) := by
  obtain ⟨htype, hcycle⟩ := entryOf_client.mp hentry
  have hmem : q ∈ (issued σ b).filter fun p => p.requestType = requestTypeFromClient :=
    List.mem_filter.mpr ⟨hq, decide_eq_true htype⟩
  obtain ⟨k, hk⟩ := List.mem_iff_getElem?.mp hmem
  have hlt := (List.getElem?_eq_some_iff.mp hk).1
  -- entry `k` of the client Preprepares is for cycle `k + 1`
  have hnumber : c = UInt16.ofNat (k + 1) := by
    have hget : (clientCycles σ b)[k]? = some c := by
      rw [← map_cycle_clients, List.getElem?_map, hk, Option.map_some, hcycle]
    have hrange : k < (clientCycles σ b).length := by
      rw [← map_cycle_clients, List.length_map]
      exact hlt
    rw [(h.clients b).cycles, List.getElem?_map, List.getElem?_range hrange, Option.map_some,
      Option.some.injEq] at hget
    exact hget.symm
  have hsmall : k + 1 < 2 ^ 16 := by
    have := length_clientCycles_lt (b := b) h
    rw [← map_cycle_clients, List.length_map] at this
    omega
  have htoNat : c.toNat - 1 = k := by
    rw [hnumber, UInt16.toNat_ofNat', Nat.mod_eq_of_lt hsmall]
    rfl
  unfold contentsOf
  rw [htoNat, List.getElem?_map]
  exact congrArg (Option.map _) hk

/-- What an SL has of a BG when it passes a cycle to `round3_committed`. -/
theorem proposed_of_closed {status : CycleStatus} {A : Nat}
    (hc : .round3Committed c status ∈ (σ y).sl.history) (hA : A < d.conf.numBG) :
    c ≠ 0 ∧ ∃ bytes, (contentsOf d.host (σ (A, 0)).sl.history)[c.toNat - 1]? = some bytes
      ∧ (status.rgMsgRound3FetchResponse A).map (·.entirePreprepareMsg) = some bytes := by
  obtain ⟨-, hslots⟩ := h.events y _ hc
  obtain ⟨r, hr, q, hq, hentry, hbytes⟩ := hslots A hA
  obtain ⟨htype, hcycle⟩ := entryOf_client.mp hentry
  refine ⟨hcycle ▸ ((h.issued A q hq).client htype).2, q.sentBytes d.host,
    getElem?_contentsOf h hq hentry, ?_⟩
  rw [hr, Option.map_some, hbytes]

/-- The rendezvous has its invariant. -/
theorem service_inv : Rendezvous.Inv (service d σ) where
  nodup := by
    intro y
    have hnodup : (closedOf (σ y).sl.history).Nodup := by
      rw [h.closed y]
      exact nodup_closed ((h.nodup y.1.1).sublist (h.committed_log y.1 y.2).sublist)
    have hpos : ∀ c ∈ closedOf (σ y).sl.history, c.toNat ≠ 0 := fun c hc hzero => by
      obtain ⟨status, hc⟩ := exists_of_mem_closedOf hc
      exact (proposed_of_closed h hc y.2.1).1 (UInt16.toNat_inj.mp hzero)
    show ((conclusionsOf d.conf.numBG (σ y).sl.history).map Prod.fst).Nodup
    rw [map_fst_conclusionsOf]
    refine hnodup.map_on fun c hc c' hc' heq => ?_
    have := hpos c hc
    have := hpos c' hc'
    exact UInt16.toNat_inj.mp (by omega)
  proposed := by
    intro y f hf A
    obtain ⟨c, status, hc, rfl⟩ := mem_conclusionsOf hf
    obtain ⟨-, bytes, hbytes, -⟩ := proposed_of_closed h hc A.2
    exact (List.getElem?_eq_some_iff.mp hbytes).1
  results := by
    intro y f hf
    obtain ⟨c, status, hc, rfl⟩ := mem_conclusionsOf hf
    funext A
    obtain ⟨-, bytes, hbytes, hslot⟩ := proposed_of_closed h hc A.2
    exact hslot.trans hbytes.symm

end Contents

/-! ## The refinement -/

theorem contentsOf_append (h : Endian) (l l' : List Event) :
    contentsOf h (l ++ l') = contentsOf h l ++ contentsOf h l' := by
  unfold contentsOf
  rw [issuedOf_append, List.filter_append, List.map_append]

theorem conclusionsOf_append (numBG : Nat) (l l' : List Event) :
    conclusionsOf numBG (l ++ l') = conclusionsOf numBG l ++ conclusionsOf numBG l' :=
  List.filterMap_append ..

/-- The clients alone change nothing. -/
theorem service_tick (ht : Tick d σ σ') : service d σ' = service d σ := by
  unfold service
  have hhistory : ∀ y, (σ' y).sl.history = (σ y).sl.history := fun y => by
    obtain ⟨k, hk⟩ := ht.sl_eq y
    rw [hk]
  simp only [hhistory]

/-- A dispatch makes one BG propose and one SL conclude, if anything. -/
theorem service_dispatch (hd : DispatchTo d σ σ' x e before o)
    (hgrown : before.sl.history <+: o.state.history) (hinv : Rendezvous.Inv (service d σ')) :
    Relation.ReflTransGen Rendezvous.Step (service d σ) (service d σ') := by
  obtain ⟨events, hevents⟩ := hgrown
  have hself : (σ' x).sl.history = (σ x).sl.history ++ events := by
    rw [hd.result, install_sl_self]
    refine hevents.symm.trans ?_
    rw [hd.sl_eq]
  have hother : ∀ y ≠ x, (σ' y).sl.history = (σ y).sl.history := fun y hy => by
    rw [hd.result, install_sl_of_ne hy]
  refine Rendezvous.steps_of_growth (⟨x.1, hd.has.1⟩ : Fin d.conf.numBG)
    (if x.2 = 0 then contentsOf d.host events else []) (⟨x, hd.has⟩ : d.Server)
    (conclusionsOf d.conf.numBG events) ?_ ?_ hinv
  · funext A
    unfold service
    dsimp only
    by_cases hA : A = ⟨x.1, hd.has.1⟩
    · subst hA
      rw [Function.update_self]
      by_cases hx : x.2 = 0
      · have hx' : x = (x.1, 0) := Prod.ext rfl hx
        rw [if_pos hx, ← contentsOf_append, ← hx', hself]
      · have hne : ((x.1, 0) : Peer) ≠ x := fun heq => hx (congrArg Prod.snd heq).symm
        rw [if_neg hx, List.append_nil, hother _ hne]
    · have hne : ((A.1, 0) : Peer) ≠ x := fun heq => hA (Fin.ext (congrArg Prod.fst heq))
      rw [Function.update_of_ne hA, hother _ hne]
  · funext y
    unfold service
    dsimp only
    by_cases hy : y = ⟨x, hd.has⟩
    · subst hy
      rw [Function.update_self, ← conclusionsOf_append, hself]
    · have hne : y.1 ≠ x := fun heq => hy (Subtype.ext heq)
      rw [Function.update_of_ne hy, hother _ hne]

/-- Every step of the servers refines steps of the rendezvous. -/
theorem service_step (hfits : d.conf.Fits) (hreach : Reachable d σ) (hs : Step d σ σ') :
    Relation.ReflTransGen Rendezvous.Step (service d σ) (service d σ') := by
  rcases step_cases hs with ⟨x, e, ω, before, hd⟩ | ht
  · obtain ⟨token, h⟩ := (round3Ok_of_reachable hfits (hreach.step hs)).inv
    exact service_dispatch hd.to (history_began (d.env x) ω e before.sl) (service_inv h.accounts)
  · rw [service_tick ht]

/--
**The servers refine the rendezvous.** In every reachable state what the leaders have proposed and
what the SLs have concluded is a state that the rendezvous can reach, and every step of the servers
is some steps of the rendezvous, most often none: leaders propose the contents of the cycles one
after the other, and an SL concludes a cycle once, after all BGs have proposed for it, with what
they have proposed. So any two SLs that conclude the same cycle conclude it with the same contents.
-/
theorem cluster_refines_rendezvous (hfits : d.conf.Fits) (hreach : Reachable d σ) :
    Rendezvous.Reachable (service d σ)
      ∧ (∀ σ', Step d σ σ' →
        Relation.ReflTransGen Rendezvous.Step (service d σ) (service d σ'))
      ∧ ∀ y z r f g, (r, f) ∈ (service d σ).concluded y → (r, g) ∈ (service d σ).concluded z →
        f = g := by
  have hservice : Rendezvous.Reachable (service d σ) := by
    induction hreach with
    | refl => exact .refl
    | tail hrun hs ih => exact ih.trans (service_step hfits hrun hs)
  exact ⟨hservice, fun σ' hs => service_step hfits hreach hs,
    fun y z r f g hf hg => hservice.inv.agreement hf hg⟩

/-- The single SL has concluded the second round and not the first, with what both BGs proposed. -/
theorem twoBGs_refine_rendezvous : ∃ σ, Rendezvous.Reachable (service twoBGs σ)
    ∧ ((service twoBGs σ).concluded ⟨(1, 0), by decide⟩).map Prod.fst = [1] := by
  obtain ⟨σ, hreach, hclosed, -⟩ := overtakingRun_result
  refine ⟨σ, (cluster_refines_rendezvous valid_twoBGs.fits hreach).1, ?_⟩
  show (conclusionsOf 2 (σ (1, 0)).sl.history).map Prod.fst = [1]
  rw [map_fst_conclusionsOf, hclosed]
  rfl

end RCanopus
