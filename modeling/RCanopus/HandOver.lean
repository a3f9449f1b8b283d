import RCanopus.JugglePass
import RCanopus.Delivery
import RCanopus.LeaderSpec
import RCanopus.Network
import RCanopus.Round3Responses

/-!
# What an SL hands over to its leader

Four handlers pass a message on to the leader when the SL is none. Three of them write the leader
into the list of recipients; the one for client batches leaves the list as it is, and the batch goes
back to where it came from.

* `HandedOver`: the message is sent to the leader alone, arrives once and is used there.
* `handedOver_iff`: when that is so in the release build.
-/

namespace RCanopus

open Cluster

/-- A message that is for the leader, whole and of this version. -/
structure Message.Arrived (h : Endian) (m : Message) : Prop where
  isForLeader : m.isForLeader = true
  version : m.header.version = versionLatest
  framed : m.Framed h

/-- `x` dispatches a message, and another SL gets the same message from it. -/
def Hop (d : Deployment) (a b : Peer × QueueElement) : Prop :=
  ∃ ω s s', dispatcherRound2 (d.env a.1) ω a.2 s = .ok s'
    ∧ ∃ q ∈ s'.sendQueue.drop s.sendQueue.length, q.pMessage = a.2.pMessage
      ∧ b.2 ∈ deliveries a.1 q b.1

/-! ## At the leader -/

/-- The queue of the leader gets some Preprepares. The next one may be issued at once. -/
def QueueGains (s s' : ConnManager) (pushed : List MessageRound2Preprepare) : Prop :=
  ∃ issued : List MessageRound2Preprepare, issued.length ≤ 1
    ∧ (↑s'.pLeaderRound2PendingPreprepareRaw + ↑issued : Multiset MessageRound2Preprepare)
      = ↑s.pLeaderRound2PendingPreprepareRaw + ↑pushed

/-- What the leader does with a message that is for it. A response may have to wait. -/
def LeaderTakes (env : Env) (e : QueueElement) (s s' : ConnManager) : Prop :=
  match e.pMessage with
  | .round2Request m => m.sender.toNat < env.conf.numSL env.conf.bGid →
    s'.rgLeaderBatchReceivedFrom = Function.update s.rgLeaderBatchReceivedFrom m.sender.toNat
      (s.rgLeaderBatchReceivedFrom m.sender.toNat + 1)
  | .round3FetchResponse m => QueueGains s s' [fetchedResultPreprepare env.conf.sLid m]
  | .round3ConnectivityResponse m => s' = s.juggle e
    ∨ ∃ status, s.mapRound3Status m.cycle = some status
      ∧ s'.mapRound3Status
        = Function.update s.mapRound3Status m.cycle (some (status.fillConnectivity m))
      ∧ QueueGains s s'
        (if status.messageReceivedCounter + 1 = status.messageRequired then
          [localMembershipPreprepare env.conf m] else [])
  | .round3MembershipResponse m => s' = s.juggle e
    ∨ ∃ status, s.mapRound3Status m.cycle = some status
      ∧ ((status.rgMsgRound3MembershipResponse m.senderBGid.toNat).isSome = true
          ∧ s' = s.note .guardFailed
        ∨ s'.mapRound3Status
            = Function.update s.mapRound3Status m.cycle (some (status.fillMembership m))
          ∧ QueueGains s s'
            (if status.messageReceivedCounter + 1 = status.messageRequired then
              [fullMembershipPreprepare env.host env.conf m.cycle
                (membershipSlots env.conf (status.fillMembership m))] else []))
  | _ => False

section

variable {env : Env} {ω : Choice} {s s' : ConnManager} {e : QueueElement}

/-- Starting a round takes at most one Preprepare out of the queue. -/
theorem startRound2IfPossible_gains (hleader : env.conf.sLid = 0)
    (h : startRound2IfPossible env ω s = .ok s') :
    s'.rgLeaderBatchReceivedFrom = s.rgLeaderBatchReceivedFrom
      ∧ s'.mapRound3Status = s.mapRound3Status ∧ QueueGains s s' [] := by
  have hkept : QueueGains s s [] := ⟨[], Nat.zero_le 1, rfl⟩
  rcases startRound2IfPossible_cases hleader (ω := ω) (s := s) with hidle | ⟨-, hissue⟩
  · rw [hidle] at h
    rw [← Outcome.ok.inj h]
    exact ⟨rfl, rfl, hkept⟩
  · rw [hissue] at h
    unfold issueNext at h
    dsimp only at h
    split at h
    · next p hp =>
      obtain ⟨history, h⟩ := debugThrow_ok h
      rw [← Outcome.ok.inj h]
      refine ⟨rfl, rfl, [p], Nat.le_refl 1, ?_⟩
      obtain ⟨hlt, hget⟩ := List.getElem?_eq_some_iff.mp hp
      rw [Multiset.coe_nil, add_zero, Multiset.coe_add, Multiset.coe_eq_coe, ← hget]
      exact (List.perm_append_singleton _ _).trans (List.getElem_cons_eraseIdx_perm hlt)
    · rw [← Outcome.ok.inj h]
      exact ⟨rfl, rfl, hkept⟩

/-- What is pushed before a round may start is what the queue gains. -/
theorem pushPreprepare_gains {s₁ : ConnManager} {p : MessageRound2Preprepare}
    (hleader : env.conf.sLid = 0)
    (h : startRound2IfPossible env ω (pushPreprepare p s₁) = .ok s')
    (hqueue : s₁.pLeaderRound2PendingPreprepareRaw = s.pLeaderRound2PendingPreprepareRaw) :
    s'.mapRound3Status = s₁.mapRound3Status ∧ QueueGains s s' [p] := by
  obtain ⟨-, hmap, issued, hlen, hgains⟩ := startRound2IfPossible_gains hleader h
  refine ⟨hmap, issued, hlen, ?_⟩
  rw [hgains, ← hqueue, Multiset.coe_nil, add_zero, Multiset.coe_add]
  rfl

/-- **The leader uses every message that is for it**, or keeps a response for later. -/
theorem leaderTakes (hleader : env.conf.sLid = 0) (hrelease : env.debugFailfast = false)
    (hfor : e.pMessage.isForLeader = true) (h : dispatcherRound2 env ω e s = .ok s') :
    LeaderTakes env e s s' := by
  have hround2 : env.conf.isRound2Leader = true := by
    unfold Config.isRound2Leader
    rw [hleader]
    rfl
  unfold dispatcherRound2 at h
  split at h
  · exact absurd h (by simp)
  unfold LeaderTakes
  cases hm : e.pMessage with
  | round2Request m =>
    rw [hm] at h
    dsimp only at h
    intro hsender
    unfold dispatcherRound2Request at h
    rw [if_neg (by simp [hround2]), decide_eq_true hsender, debugThrowElseReturnVoid_true] at h
    exact (startRound2IfPossible_gains hleader h).1
  | round3FetchResponse m =>
    rw [hm] at h
    dsimp only at h
    unfold dispatcherRound3FetchResponse at h
    rw [if_neg (by simp [hround2])] at h
    exact (pushPreprepare_gains hleader h rfl).2
  | round3ConnectivityResponse m =>
    rw [hm] at h
    dsimp only at h ⊢
    unfold dispatcherRound3FetchConnectivityResponse at h
    rw [if_neg (by simp [hround2])] at h
    split at h
    · exact absurd h (by simp)
    · next status hstatus =>
      split at h
      · exact Or.inl (Outcome.ok.inj h).symm
      · refine Or.inr ⟨status, hstatus, ?_⟩
        dsimp only at h
        split at h
        · next hlast =>
          rw [if_pos hlast]
          exact pushPreprepare_gains hleader h rfl
        · next hmore =>
          rw [if_neg hmore]
          obtain ⟨-, hmap, hgains⟩ := startRound2IfPossible_gains hleader h
          exact ⟨hmap, hgains⟩
  | round3MembershipResponse m =>
    rw [hm] at h
    dsimp only at h ⊢
    unfold dispatcherRound3FetchMembershipResponse at h
    rw [if_neg (by simp [hround2])] at h
    dsimp only at h
    split at h
    · exact absurd h (by simp)
    · next status hstatus =>
      split at h
      · exact Or.inl (Outcome.ok.inj h).symm
      · refine Or.inr ⟨status, hstatus, ?_⟩
        cases hslot : status.rgMsgRound3MembershipResponse m.senderBGid.toNat with
        | some m' =>
          -- the check returns and drops the element
          refine Or.inl ⟨rfl, ?_⟩
          unfold debugThrowElseReturnVoid at h
          rw [hslot, if_neg (by simp), if_neg (by simp [hrelease])] at h
          exact (Outcome.ok.inj h).symm
        | none =>
          rw [hslot, Option.isNone_none, debugThrowElseReturnVoid_true] at h
          obtain ⟨history, h⟩ := debugThrow_ok h
          refine Or.inr ?_
          split at h
          · next hlast =>
            rw [if_pos hlast]
            exact pushPreprepare_gains hleader h rfl
          · next hmore =>
            rw [if_neg hmore]
            rw [← Outcome.ok.inj h]
            exact ⟨rfl, [], Nat.zero_le 1, rfl⟩
  | _ =>
    rw [hm] at hfor
    exact absurd hfor (by simp [Message.isForLeader])

end

/-! ## At the other SLs -/

/-- What an SL of the BG gets from `x`. -/
def received (x : Peer) (m : Message) : QueueElement := { upPeers := [some x], pMessage := m }

/--
`x` hands `e` over: it sends the message to the leader alone, the bytes that it had received itself
are what the leader receives, the message is once at the leader and nowhere else, the leader uses
it, and it does not go from SL to SL for ever.
-/
structure HandedOver (d : Deployment) (x : Peer) (e : QueueElement) : Prop where
  enqueued : ∀ ω s, ∃ history, dispatcherRound2 (d.env x) ω e s
    = .ok { s with
        history
        sendQueue := s.sendQueue ++ [{ upPeers := [some (x.1, 0)], pMessage := e.pMessage }] }
  wire : ∃ wire, (senderCalls d.host
      { upPeers := [some (x.1, 0)], pMessage := e.pMessage.bytes d.host }).sends
        = [((x.1, 0), wire)]
    ∧ ∀ rest, recvMessage d.host (wire ++ rest) = some (e.pMessage.bytes d.host, rest)
  arrives : ∀ {σ σ' ω before}, Dispatch d σ σ' x e ω before → before.sl.sendQueue = [] →
    pool σ x = e ::ₘ pool σ' x
      ∧ pool σ' (x.1, 0) = received x e.pMessage ::ₘ pool σ (x.1, 0)
      ∧ ∀ y ≠ x, y ≠ (x.1, 0) → pool σ' y = pool σ y
  taken : ∀ ω s s', dispatcherRound2 (d.env (x.1, 0)) ω (received x e.pMessage) s = .ok s' →
    LeaderTakes (d.env (x.1, 0)) (received x e.pMessage) s s'
  ends : ¬ ∃ path : Nat → Peer × QueueElement, path 0 = (x, e)
    ∧ ∀ n, Hop d (path n) (path (n + 1))

section

variable {d : Deployment} {x : Peer} {e : QueueElement}

/-- Whole messages for the leader are well formed. -/
theorem Message.Arrived.wellFormed {h : Endian} {m : Message} (hm : m.Arrived h) :
    ∃ t, m.WellFormed h t := by
  have hframed := hm.framed
  unfold Message.Framed at hframed
  have hsize := hframed
  rw [Message.length_bytes] at hsize
  have hfor := hm.isForLeader
  cases m with
  | round2Request m =>
    refine ⟨.round2Request, hframed.le, WireFormat.ofMsgType_code _, ?_⟩
    exact hsize.symm ▸ Nat.le_add_right _ _
  | round3FetchResponse m | round3ConnectivityResponse m =>
    refine ⟨.round3FetchResponse, hframed.le, WireFormat.ofMsgType_code _, ?_⟩
    exact hsize.symm ▸ Nat.le_add_right _ _
  | round3MembershipResponse m =>
    refine ⟨.round3FullMembership, hframed.le, WireFormat.ofMsgType_code _, ?_⟩
    exact hsize.symm ▸ Nat.le_add_right _ _
  | _ => exact absurd hfor (by simp [Message.isForLeader])

/-- What goes to one peer is on one socket, and that peer receives the same bytes. -/
theorem Message.Arrived.sent {h : Endian} {m : Message} (hm : m.Arrived h) (y : Peer) :
    ∃ wire, (senderCalls h { upPeers := [some y], pMessage := m.bytes h }).sends = [(y, wire)]
      ∧ ∀ rest, recvMessage h (wire ++ rest) = some (m.bytes h, rest) := by
  obtain ⟨t, hwell⟩ := hm.wellFormed
  obtain ⟨wire, hsender, hrecv⟩ := senderCalls_eq (hwell.element [some y])
  refine ⟨wire, by rw [hsender]; rfl, fun rest => ?_⟩
  have hdelivered := (hwell.delivered [some y]).2 y wire rest
    (by rw [hsender]; exact List.mem_singleton_self _)
  rw [hdelivered, hm.framed.copy_eq]

/-- A leader does not pass on what is for it. -/
theorem no_hop_of_leader {a b : Peer × QueueElement} (hleader : a.1.2 = 0)
    (hhop : Hop d a b) : False := by
  obtain ⟨ω, s, s', hrun, q, hq, hmessage, -⟩ := hhop
  have htreats : (dispatcherRound2 (d.env a.1) ω a.2 s).Treats (d.env a.1) a.2 s :=
    dispatcherRound2_treats
  rw [hrun] at htreats
  obtain ⟨fate, hfate, hforwarded⟩ := htreats
  have hkeep : ¬ HandsOver (d.env a.1) a.2.pMessage := by
    unfold HandsOver Config.isRound2Leader
    show ¬ ((a.1.2 == 0) = false ∧ _)
    rw [hleader]
    simp
  cases fate with
  | forwarded => exact hkeep (hforwarded.mp rfl)
  | putBack =>
    rw [hfate.2, List.drop_length] at hq
    exact absurd hq List.not_mem_nil
  | consumed =>
    obtain ⟨l, hl, hne⟩ := hfate.sent
    rw [hl, List.drop_left] at hq
    exact hne q hq (by rw [hmessage])

section NonLeader

variable (hrelease : d.debugFailfast = false) (hx : x.2 ≠ 0) (he : e.pMessage.Arrived d.host)

include hx in
theorem isRound2Leader_env : (d.env x).conf.isRound2Leader = false := by
  show (x.2 == 0) = false
  exact beq_eq_false_iff_ne.mpr hx

include hrelease hx he

/-- The three handlers for responses name the leader. The one for batches keeps the old list. -/
theorem dispatch_nonLeader (ω : Choice) (s : ConnManager) :
    ∃ history, dispatcherRound2 (d.env x) ω e s
      = .ok { s with
          history
          sendQueue := s.sendQueue ++
            [{ upPeers := match e.pMessage with
                | .round2Request _ => e.upPeers
                | _ => [some (x.1, 0)]
               pMessage := e.pMessage }] } := by
  have hnone := isRound2Leader_env (d := d) hx
  have hfor := he.isForLeader
  unfold dispatcherRound2
  rw [if_neg (by simp [he.version])]
  cases hm : e.pMessage with
  | round2Request m =>
    refine ⟨s.history ++ [.guardFailed], ?_⟩
    dsimp only
    unfold dispatcherRound2Request debugThrow
    rw [hnone, Bool.not_false, if_pos rfl, if_neg (by simp),
      if_neg (by simp [Deployment.env, hrelease]), ← hm]
    rfl
  | round3FetchResponse m =>
    refine ⟨s.history, ?_⟩
    dsimp only
    unfold dispatcherRound3FetchResponse
    rw [hnone, Bool.not_false, if_pos rfl, ← hm]
    rfl
  | round3ConnectivityResponse m =>
    refine ⟨s.history, ?_⟩
    dsimp only
    unfold dispatcherRound3FetchConnectivityResponse
    rw [hnone, Bool.not_false, if_pos rfl, ← hm]
    rfl
  | round3MembershipResponse m =>
    refine ⟨s.history, ?_⟩
    dsimp only
    unfold dispatcherRound3FetchMembershipResponse
    rw [hnone, Bool.not_false, if_pos rfl, ← hm]
    rfl
  | _ =>
    rw [hm] at hfor
    exact absurd hfor (by simp [Message.isForLeader])

omit hrelease he in
/-- What is sent to the leader alone is once in its pool and in no other. -/
theorem arrives_of_enqueued (hcopy : e.pMessage.copy = e.pMessage)
    (henqueued : ∀ ω s, ∃ history, dispatcherRound2 (d.env x) ω e s
      = .ok { s with
          history
          sendQueue := s.sendQueue ++ [{ upPeers := [some (x.1, 0)], pMessage := e.pMessage }] })
    {σ σ' : Cluster} {ω : Choice} {before : Node} (hd : Dispatch d σ σ' x e ω before)
    (hsend : before.sl.sendQueue = []) :
    pool σ x = e ::ₘ pool σ' x
      ∧ pool σ' (x.1, 0) = received x e.pMessage ::ₘ pool σ (x.1, 0)
      ∧ ∀ y ≠ x, y ≠ (x.1, 0) → pool σ' y = pool σ y := by
  have hleader : (x.1, 0) ≠ x := fun heq => hx (congrArg Prod.snd heq).symm
  obtain ⟨history, ho⟩ := henqueued ω before.sl
  have hresult := hd.result
  rw [ho, hsend, List.nil_append] at hresult
  have hsent : ∀ y, sent x [{ upPeers := [some (x.1, 0)], pMessage := e.pMessage }] y
      = if y = (x.1, 0) then {received x e.pMessage} else 0 := by
    intro y
    rw [sent_singleton]
    unfold deliveries
    rw [if_neg (by simp), List.nil_append, hcopy]
    by_cases hy : y = (x.1, 0)
    · rw [if_pos hy, hy]
      simp [received]
    · rw [if_neg hy, List.filter_cons_of_neg (by simpa using Ne.symm hy)]
      rfl
  rw [hresult]
  refine ⟨?_, ?_, fun y hy hne => ?_⟩
  · rw [pool_install_self, hd.taken]
    dsimp only [Outcome.state]
    rw [hsent, if_neg hleader.symm, add_zero]
  · rw [pool_install_of_ne hleader]
    dsimp only [Outcome.state]
    rw [hsent, if_pos rfl, add_comm, Multiset.singleton_add]
  · rw [pool_install_of_ne hy]
    dsimp only [Outcome.state]
    rw [hsent, if_neg hne, add_zero]

/--
**The hand-over** reaches the leader exactly when the message is no client batch, or when the batch
had come from the leader itself.
-/
theorem handedOver_iff : HandedOver d x e
    ↔ (∀ m, e.pMessage ≠ .round2Request m) ∨ e.upPeers = [some (x.1, 0)] := by
  have hrun := dispatch_nonLeader hrelease hx he
  constructor
  · intro h
    obtain ⟨history, hleader⟩ := h.enqueued { draw := fun _ => 0, top := 0 } .init
    obtain ⟨history', hcode⟩ := hrun { draw := fun _ => 0, top := 0 } .init
    have hqueue := congrArg ConnManager.sendQueue (Outcome.ok.inj (hcode.symm.trans hleader))
    have hlast := (List.cons.inj (List.append_cancel_left hqueue)).1
    have hpeers := congrArg QueueElement.upPeers hlast
    cases hm : e.pMessage with
    | round2Request m =>
      rw [hm] at hpeers
      exact Or.inr hpeers
    | _ => exact Or.inl fun m' => by simp
  · intro hcond
    have henqueued : ∀ ω s, ∃ history, dispatcherRound2 (d.env x) ω e s
        = .ok { s with
            history
            sendQueue := s.sendQueue
              ++ [{ upPeers := [some (x.1, 0)], pMessage := e.pMessage }] } := by
      intro ω s
      obtain ⟨history, hcode⟩ := hrun ω s
      refine ⟨history, hcode.trans ?_⟩
      cases hm : e.pMessage with
      | round2Request m =>
        rcases hcond with hno | hpeers
        · exact absurd hm (hno m)
        · dsimp only
          rw [hpeers]
      | _ => rfl
    refine ⟨henqueued, he.sent _, fun hd hsend =>
      arrives_of_enqueued hx he.framed.copy_eq henqueued hd hsend, ?_, ?_⟩
    · intro ω s s' htaken
      exact leaderTakes rfl hrelease he.isForLeader htaken
    · rintro ⟨path, hstart, hhops⟩
      -- the first hop leads to the leader, where there is no second one
      obtain ⟨ω, s, s', hfirst, q, hq, -, hdelivered⟩ := hhops 0
      rw [hstart] at hfirst hdelivered
      obtain ⟨history, ho⟩ := henqueued ω s
      have hfirst := hfirst.symm.trans ho
      rw [Outcome.ok.inj hfirst] at hq
      dsimp only at hq
      rw [List.drop_left, List.mem_singleton] at hq
      rw [hq] at hdelivered
      refine no_hop_of_leader ?_ (hhops 1)
      rcases (mem_deliveries hdelivered).2 with hself | hpeer
      · exact absurd hself.2.1 (by simp)
      · rw [(Option.some.inj (List.mem_singleton.mp hpeer.1))]

end NonLeader

/-- Two SLs that are no leaders send a batch back to each other for ever. -/
theorem batch_bounces (hrelease : d.debugFailfast = false) {x y : Peer} (hx : x.2 ≠ 0)
    (hy : y.2 ≠ 0) {m : MessageRound2Request} (hm : Message.Arrived d.host (.round2Request m)) :
    ∃ path : Nat → Peer × QueueElement, path 0 = (x, received y (.round2Request m))
      ∧ ∀ n, Hop d (path n) (path (n + 1)) := by
  have hhop : ∀ {x y : Peer}, x.2 ≠ 0 →
      Hop d (x, received y (.round2Request m)) (y, received x (.round2Request m)) := by
    intro x y hx
    obtain ⟨history, ho⟩ := dispatch_nonLeader (e := received y (.round2Request m)) hrelease hx hm
      { draw := fun _ => 0, top := 0 } .init
    refine ⟨_, _, _, ho, received y (.round2Request m), ?_, rfl, ?_⟩
    · exact List.mem_singleton_self _
    · unfold deliveries received
      dsimp only
      rw [hm.framed.copy_eq]
      simp
  refine ⟨fun n => if n % 2 = 0 then (x, received y (.round2Request m))
    else (y, received x (.round2Request m)), rfl, fun n => ?_⟩
  dsimp only
  rcases Nat.mod_two_eq_zero_or_one n with heven | hodd
  · rw [if_pos heven, if_neg (by omega)]
    exact hhop hx
  · rw [if_neg (by omega), if_pos (by omega)]
    exact hhop hy

end

/-! ## A BG of three -/

/-- The release build with a second BG of one SL. -/
def threeServers : Deployment where
  conf :=
    { rgBGInfo :=
        [{ failure := 0
           addr := (List.range 3).map fun i =>
            { sinAddr := 0x7F000001, sinPort := UInt16.ofNat (7000 + i) } },
         { failure := 0
           addr := [{ sinAddr := 0x7F000001, sinPort := 7003 }] }]
      bGid := 0
      sLid := 0
      globalFailures := 0 }
  host := .little
  debugFailfast := false

theorem arrived_mockClientRequest (h : Endian) (sLid : Nat) {content : List UInt8}
    (hcontent : content.length = requestBatchSize) :
    Message.Arrived h (.round2Request (mockClientRequest sLid content)) where
  isForLeader := rfl
  version := rfl
  framed := by
    unfold Message.Framed
    rw [Message.length_bytes]
    show _ = sizeofMessageRound2Request + content.length
    rw [hcontent]
    show sizeofMessageHeader + (UInt32.ofNat
      (sizeofMessageRound2Request + requestBatchSize - sizeofMessageHeader)).toNat = _
    decide

/-- A batch of the client of SL 2. -/
def batch : MessageRound2Request := mockClientRequest 2 (List.replicate requestBatchSize 0)

/-- SL 1 gets it from SL 2. -/
theorem batch_not_handedOver :
    ¬ HandedOver threeServers (0, 1) (received (0, 2) (.round2Request batch)) := fun h =>
  h.ends (batch_bounces rfl (by decide) (by decide)
    (arrived_mockClientRequest _ _ List.length_replicate))

/-- The membership response of the other BG. -/
def secondMembership : Message :=
  .round3MembershipResponse (membershipResponse (threeServers.conf.ofSL 1 0) 1)

theorem arrived_secondMembership : secondMembership.Arrived .little where
  isForLeader := rfl
  version := rfl
  framed := by
    unfold Message.Framed
    decide

/-- SL 1 hands it over. -/
theorem threeServers_handedOver :
    HandedOver threeServers (0, 1) (received (1, 0) secondMembership) :=
  (handedOver_iff rfl (by decide) arrived_secondMembership).mpr
    (Or.inl fun m => by simp [received, secondMembership])

end RCanopus
