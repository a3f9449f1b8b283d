import RCanopus.Round3Requests

/-!
# Responses

An SL that is not the leader passes a response on to the leader. The leader takes it: it queues a
fetched result, and of the two later kinds it fills the slot of the answering BG and queues what
follows when all slots are filled.
-/

namespace RCanopus

open Cluster Exchange

variable {d : Deployment} {σ σ' : Cluster} {b A : Nat} {c : UInt16} {y z : Peer} {k : FetchKind}
  {e : QueueElement} {ω : Choice} {before : Node} {s : ConnManager} {x : Exchange}
  {token : FetchKind → Nat → Nat → UInt16 → Token} {m : Message}

/-! ## Counting slots -/

section Count

variable {numBG : Nat} {slot slot' : Nat → Bool}

/-- Filling one slot counts one more. -/
theorem countOthers_fill (hA : A < numBG) (hne : A ≠ b) (hslot : slot A = false)
    (hself : slot' A = true) (hother : ∀ B, B ≠ A → slot' B = slot B) :
    countOthers numBG b slot' = countOthers numBG b slot + 1 := by
  unfold countOthers
  have hmem : A ∈ (List.range numBG).filter (· ≠ b) := by simp [hA, hne]
  have hnodup : ((List.range numBG).filter (· ≠ b)).Nodup := List.nodup_range.filter _
  have hperm := List.perm_cons_erase hmem
  have hrest : (((List.range numBG).filter (· ≠ b)).erase A).countP slot'
      = (((List.range numBG).filter (· ≠ b)).erase A).countP slot := by
    refine List.countP_congr fun B hB => ?_
    rw [hother B fun h => ?_]
    rw [hnodup.mem_erase_iff] at hB
    exact hB.1 h
  rw [hperm.countP_eq, hperm.countP_eq, List.countP_cons, List.countP_cons, hself, hslot, hrest]
  rfl

theorem length_others (hb : b < numBG) :
    ((List.range numBG).filter (· ≠ b)).length = numBG - 1 := by
  have hnodup : (List.range numBG).Nodup := List.nodup_range
  have herase := hnodup.erase_eq_filter b
  rw [show (List.range numBG).filter (· ≠ b) = (List.range numBG).erase b from by
      rw [herase]
      exact List.filter_congr fun B _ => Bool.eq_iff_iff.mpr (by simp),
    List.length_erase_of_mem (List.mem_range.mpr hb), List.length_range]

theorem countOthers_le (hb : b < numBG) : countOthers numBG b slot ≤ numBG - 1 :=
  (List.countP_le_length).trans (Nat.le_of_eq (length_others hb))

/-- All slots of other BGs are filled. -/
theorem countOthers_eq (hb : b < numBG) : countOthers numBG b slot = numBG - 1
    ↔ ∀ B < numBG, B ≠ b → slot B = true := by
  unfold countOthers
  rw [← length_others hb, List.countP_eq_length]
  simp [List.mem_filter]

end Count

/-! ## Passing a response on -/

/-- Responses are as good elsewhere. -/
theorem GoodMessage.elsewhere {key : FetchKind × Nat × UInt16} (h : GoodMessage d σ y m)
    (hkey : m.responseKey = some key) : GoodMessage d σ z m := by
  cases m <;> first | exact h | exact absurd hkey (by simp [Message.responseKey])

section Forward

variable (h : Round3Inv d σ token) (hd : Dispatch d σ σ' y e ω before)
  (hsend : before.sl.sendQueue = []) (hkey : e.pMessage.responseKey = some (k, A, c))

include h hd hkey

/-- The token of a response that is dispatched, and who asked. -/
theorem Round3Inv.asked_of_response : (exchange σ token).token k y.1 A c = .answered y.2
    ∧ y.1 < d.conf.numBG ∧ A < d.conf.numBG ∧ A ≠ y.1 := by
  have htoken := h.answered_of_response hd hkey
  have hidle : (exchange σ token).token k y.1 A c ≠ .idle := by simp [exchange, htoken]
  obtain ⟨hb, hA, hne, -⟩ := (h.inv.asked k y.1 A c).mp hidle
  exact ⟨htoken, hb, hA, hne⟩

include hsend

/-- **A response is passed on to the leader.** -/
theorem Round3Inv.forward (hunstuck : Unstuck y before.sl) :
    Keeps3 d σ y before (forwardToLeader (d.env y) e before.sl) := by
  obtain ⟨htoken, -, -, hne⟩ := h.asked_of_response hd hkey
  have hgood := h.good_of_dispatch hd
  have hleader : 0 < d.conf.numSL y.1 := Nat.lt_of_le_of_lt (Nat.zero_le _) hd.has.2
  have hsends : (before.sl.enqueue { e with upPeers := [localPeer (d.env y).conf 0] }).sendQueue
      = [{ upPeers := [some (y.1, 0)], pMessage := e.pMessage }] := by
    show before.sl.sendQueue ++ _ = _
    rw [hsend]
    rfl
  have hpending := (SlOk.taken hd (h.sl y)).pending k c
  have htoken' : token k y.1 A c = .answered y.2 := htoken
  refine ⟨.returns _ (hunstuck.congr rfl rfl), _,
    h.move_token hd ?_ (h.inv.forward htoken hleader)⟩
  refine {
    step := ?_
    committed := rfl
    queue := rfl
    status := rfl
    pending := fun _ _ _ => rfl
    pending_self := hpending.congr fun b' => ?_
    storage := rfl
    closed := rfl
    events := fun ev hev => Or.inl hev
    old := by simp [htoken']
    new := by simp
    elsewhere := fun z hz hA => by simp [htoken'] }
  · refine ⟨rfl, rfl, rfl, rfl, fun z k' b' c' => ?_, fun z k' A' c' => ?_, fun z e' he' => ?_⟩
    · rw [hsends, countKey_sent_singleton (by simp) (by simp), requestKey_of_responseKey hkey]
      by_cases heq : k' = k ∧ b' = y.1 ∧ z.1 = A ∧ c' = c
      · obtain ⟨rfl, rfl, hz, rfl⟩ := heq
        rw [hz, moveToken_self, htoken']
        simp
      · rw [moveToken_of_ne heq]
        simp
    · rw [hsends, countKey_sent_singleton (by simp) (by simp), hkey]
      by_cases heq : k' = k ∧ z.1 = y.1 ∧ A' = A ∧ c' = c
      · obtain ⟨rfl, hz, rfl, rfl⟩ := heq
        rw [hz, moveToken_self, htoken']
        simp [Prod.ext_iff, hz, List.count_singleton, eq_comm (a := z.2), Nat.add_comm]
      · rw [moveToken_of_ne heq]
        simp only [Option.some.injEq, Prod.mk.injEq]
        by_cases hc : k = k' ∧ A = A' ∧ c = c'
        · obtain ⟨rfl, rfl, rfl⟩ := hc
          have hz : z.1 ≠ y.1 := fun hz => heq ⟨rfl, hz, rfl, rfl⟩
          have hz' : z ≠ (y.1, 0) := fun hz' => hz (by rw [hz'])
          have hz'' : z ≠ y := fun hz' => hz (by rw [hz'])
          simp [Ne.symm hz', hz'']
        · rw [if_neg hc]
          simp [hc]
    · rw [hsends, sent_singleton, Multiset.mem_coe] at he'
      rw [(mem_deliveries he').1]
      exact (hgood.elsewhere hkey).copy
  · rw [setToken_of_ne fun heq => hne heq.2.2.1.symm]

end Forward

/-! ## Taking a response -/

/-- What the leader does when it takes an answer for a cycle and queues some Preprepares. -/
structure TakeStep (c : UInt16) (queued : List MessageRound2Preprepare) (s s' : ConnManager) :
    Prop where
  juggleQueue : s'.juggleQueue = s.juggleQueue
  sendQueue : s'.sendQueue = s.sendQueue
  history : s'.history = s.history
  nextCycle : s'.leaderRound2NextRcanopusCycle = s.leaderRound2NextRcanopusCycle
  envoysRr : s'.leaderEnvoysRr = s.leaderEnvoysRr
  queue : s'.pLeaderRound2PendingPreprepareRaw = s.pLeaderRound2PendingPreprepareRaw ++ queued
  status : ∀ c' ≠ c, s'.mapRound3Status c' = s.mapRound3Status c'
  pending : s'.mapRound3PendingRequests = s.mapRound3PendingRequests
  storage : s'.pStorage = s.pStorage

/-- The exchange after the leader of BG `b` has taken the answer of BG `A`. -/
def afterTake (x : Exchange) (k : FetchKind) (b A : Nat) (c : UInt16) (queued : List Entry) :
    Exchange :=
  { x.setToken k b A c .done with
    queue := Function.update x.queue b (x.queue b ++ queued) }

theorem afterTake_nil : afterTake x k b A c [] = x.setToken k b A c .done := by
  unfold afterTake
  rw [List.append_nil, Function.update_eq_self]
  rfl

theorem afterTake_singleton {e : Entry} :
    afterTake x k b A c [e] = (x.setToken k b A c .done).push b e := rfl

theorem takeStep_setStatus (status : CycleStatus) : TakeStep c [] s (s.setStatus c status) :=
  ⟨rfl, rfl, rfl, rfl, rfl, (List.append_nil _).symm,
    fun _ hc => Function.update_of_ne hc _ _, rfl, rfl⟩

theorem takeStep_push (status : CycleStatus) (p : MessageRound2Preprepare) :
    TakeStep c [p] s (pushPreprepare p (s.setStatus c status)) :=
  ⟨rfl, rfl, rfl, rfl, rfl, rfl, fun _ hc => Function.update_of_ne hc _ _, rfl, rfl⟩

theorem statusAt_setStatus {status : CycleStatus} (h : StatusOk d σ x y c status) :
    StatusAt d σ x y c ((s.setStatus c status).mapRound3Status c) := by
  show StatusAt d σ x y c (Function.update s.mapRound3Status c (some status) c)
  rw [Function.update_self]
  exact h

section Take

variable (h : Round3Inv d σ token) (hd : Dispatch d σ σ' (b, 0) e ω before)
  (hsend : before.sl.sendQueue = []) (hkey : e.pMessage.responseKey = some (k, A, c))

include h hd hsend hkey

theorem Round3Inv.take (queued : List MessageRound2Preprepare)
    (hs : TakeStep c queued before.sl s)
    (hinv : (afterTake (exchange σ token) k b A c (queued.map entryOf)).Inv d.layout)
    (hstatus : StatusAt d σ (afterTake (exchange σ token) k b A c (queued.map entryOf)) (b, 0) c
      (s.mapRound3Status c))
    (hqueued : ∀ p ∈ queued, Proposal d σ b p) :
    Round3Inv d (install (b, 0) before (.ok s) σ) (moveToken token k b A c .done) := by
  obtain ⟨htoken, -, -, hne⟩ := h.asked_of_response hd hkey
  have htoken' : token k b A c = .answered 0 := htoken
  have hissued : Cluster.issued (install (b, 0) before (.ok s) σ) = Cluster.issued σ := by
    refine issued_install_of_eq ?_
    rw [Outcome.state_ok, hs.history, hd.sl_eq]
  have hcommitted : Cluster.committed (install (b, 0) before (.ok s) σ) = Cluster.committed σ :=
    committed_install_of_eq hd.to (by rw [Outcome.state_ok, hs.history])
  have hexchange : exchange (install (b, 0) before (.ok s) σ) (moveToken token k b A c .done)
      = afterTake (exchange σ token) k b A c (queued.map entryOf) := by
    unfold exchange afterTake entries
    rw [hissued, hcommitted]
    simp only [Exchange.mk.injEq]
    refine ⟨rfl, ?_, rfl, rfl⟩
    funext b'
    rw [Function.update_apply]
    split
    · next hb =>
      subst hb
      rw [install_sl_self]
      show s.pLeaderRound2PendingPreprepareRaw.map entryOf = _
      rw [hs.queue, hd.sl_eq, List.map_append]
    · next hb => rw [install_sl_of_ne (by simpa using hb)]
  have hstep : Round3Step d σ (b, 0) e before s token (moveToken token k b A c .done) := by
    refine ⟨hs.juggleQueue, by rw [hs.history], hs.nextCycle, hs.envoysRr,
      fun z k' b' c' => ?_, fun z k' A' c' => ?_, fun z e' he' => ?_⟩
    · rw [hs.sendQueue, hsend, sent_nil, requestKey_of_responseKey hkey]
      by_cases heq : k' = k ∧ b' = b ∧ z.1 = A ∧ c' = c
      · obtain ⟨rfl, rfl, hz, rfl⟩ := heq
        rw [hz, moveToken_self, htoken']
        simp [countKey]
      · rw [moveToken_of_ne heq]
        simp [countKey]
    · rw [hs.sendQueue, hsend, sent_nil, hkey]
      by_cases heq : k' = k ∧ z.1 = b ∧ A' = A ∧ c' = c
      · obtain ⟨rfl, hz, rfl, rfl⟩ := heq
        rw [hz, moveToken_self, htoken']
        simp [countKey, Prod.ext_iff, hz, eq_comm]
      · have hother : ¬ (z = (b, 0) ∧ k = k' ∧ A = A' ∧ c = c') := fun hc =>
          heq ⟨hc.2.1.symm, congrArg Prod.fst hc.1, hc.2.2.1.symm, hc.2.2.2.symm⟩
        rw [moveToken_of_ne heq]
        simp only [Option.some.injEq, Prod.mk.injEq]
        rw [if_neg hother]
        rfl
    · rw [hs.sendQueue, hsend, sent_nil] at he'
      exact absurd he' (Multiset.notMem_zero _)
  have hdone : ∀ k' (z : Peer) A' c', z.1 ≠ b →
      ((afterTake (exchange σ token) k b A c (queued.map entryOf)).token k' z.1 A' c' = .done
        ↔ (exchange σ token).token k' z.1 A' c' = .done) := by
    intro k' z A' c' hz
    show ((exchange σ token).setToken k b A c .done).token k' z.1 A' c' = .done ↔ _
    rw [setToken_of_ne fun heq => hz heq.2.1]
  have hpending : ∀ k' b' (z : Peer) c',
      (afterTake (exchange σ token) k b A c (queued.map entryOf)).token k' b' z.1 c' = .pending z.2
        ↔ (exchange σ token).token k' b' z.1 c' = .pending z.2 := by
    intro k' b' z c'
    show ((exchange σ token).setToken k b A c .done).token k' b' z.1 c' = .pending z.2 ↔ _
    by_cases heq : k' = k ∧ b' = b ∧ z.1 = A ∧ c' = c
    · obtain ⟨rfl, rfl, hz, rfl⟩ := heq
      rw [hz, setToken_self]
      simp [exchange, htoken']
    · rw [setToken_of_ne heq]
  have hsub : ∀ b', Cluster.issued σ b' ⊆ Cluster.issued (install (b, 0) before (.ok s) σ) b' := by
    rw [hissued]
    exact fun _ _ hp => hp
  have hsub' : Cluster.committed σ (b, 0)
      ⊆ Cluster.committed (install (b, 0) before (.ok s) σ) (b, 0) := by
    rw [hcommitted]
    exact fun _ hp => hp
  have hsl := SlOk.taken hd (h.sl (b, 0))
  refine h.installed hd hstep (hexchange ▸ hinv) ?_ fun z hz => ?_
  · rw [hexchange]
    refine hsl.touched (c := c) ?_ hsub hsub'
    refine {
      entries := fun _ _ => Iff.rfl
      token := fun k' b' A' c' hc => setToken_of_ne (x := exchange σ token) fun heq => hc heq.2.2.2
      status := hs.status
      status_self := hstatus.congr hsub hsub' (fun _ _ => Iff.rfl) fun _ _ _ _ => Iff.rfl
      pending := fun k' c' _ => by rw [Outcome.state_ok, hs.pending]
      pending_self := fun k' => ?_
      storage := hs.storage.trans hsl.storage
      closed := ?_
      events := fun ev hev => Or.inl (hs.history ▸ hev)
      proposals := fun p hp => ?_ }
    · rw [Outcome.state_ok, hs.pending]
      exact (hsl.pending k' c).congr fun b' => hpending k' b' (b, 0) c
    · show closedOf s.history = s.pStorage
      rw [hs.history, hs.storage]
      exact hsl.closed
    · rw [Outcome.state_ok, hs.queue] at hp
      rcases List.mem_append.mp hp with hp | hp
      · exact Or.inl hp
      · exact Or.inr ((hqueued p hp).mono hsub)
  · rw [hexchange]
    refine ⟨rfl, fun hz0 k' _ A' c' => hdone k' z A' c' fun hb => hz (Prod.ext hb hz0),
      fun k' b' c' => hpending k' b' z c'⟩

end Take

/-! ## Filling a slot -/

/-- The status of a cycle after a connectivity response was stored. -/
def CycleStatus.fillConnectivity (status : CycleStatus) (r : MessageRound3FetchResponse) :
    CycleStatus :=
  { status with
    rgMsgRound3ConnectivityResponse :=
      Function.update status.rgMsgRound3ConnectivityResponse r.senderBGid.toNat (some r)
    messageReceivedCounter := status.messageReceivedCounter + 1 }

/-- The status of a cycle after a membership response was stored. -/
def CycleStatus.fillMembership (status : CycleStatus) (r : MessageRound3FullMembership) :
    CycleStatus :=
  { status with
    rgMsgRound3MembershipResponse :=
      Function.update status.rgMsgRound3MembershipResponse r.senderBGid.toNat (some r)
    messageReceivedCounter := status.messageReceivedCounter + 1 }

/-- The own answers are in another slot. -/
theorem ownResponse_fillConnectivity {conf : Config} {status : CycleStatus}
    {r : MessageRound3FetchResponse} (hr : r.senderBGid.toNat ≠ conf.bGid) :
    ownResponse conf k (status.fillConnectivity r) = ownResponse conf k status := by
  unfold ownResponse CycleStatus.fillConnectivity
  cases k with
  | connectivity =>
    dsimp only
    rw [Function.update_of_ne hr.symm]
  | _ => rfl

theorem ownResponse_fillMembership {conf : Config} {status : CycleStatus}
    {r : MessageRound3FullMembership} (hr : r.senderBGid.toNat ≠ conf.bGid) :
    ownResponse conf k (status.fillMembership r) = ownResponse conf k status := by
  unfold ownResponse CycleStatus.fillMembership
  cases k with
  | membership =>
    dsimp only
    rw [Function.update_of_ne hr.symm]
  | _ => rfl

/-- A slot that an answer fills. -/
theorem isSome_fill {α : Type} (queued : List Entry) {slot : Nat → Option α} {r : α}
    (hold : x.token k b A c ≠ .done)
    (hslot : ∀ B ≠ b, (slot B).isSome = true ↔ 0 = 0 ∧ x.token k b B c = .done) :
    ∀ B ≠ b, (Function.update slot A (some r) B).isSome = true
      ↔ 0 = 0 ∧ (afterTake x k b A c queued).token k b B c = .done := by
  intro B hB
  show _ ↔ 0 = 0 ∧ (x.setToken k b A c .done).token k b B c = .done
  rw [setToken_done_iff]
  by_cases hBA : B = A
  · subst hBA
    simp
  · rw [Function.update_of_ne hBA, hslot B hB]
    simp [hBA]

section Fill

variable {status : CycleStatus} {queued : List Entry}
  (h : StatusOk d σ x (b, 0) c status) (hA : A < d.conf.numBG) (hne : A ≠ b)
  (hall : d.layout.AllOthers b fun A => .fetched c A ∈ x.committed (b, 0))

include h hA hne hall

theorem StatusOk.fillConnectivity {r : MessageRound3FetchResponse} (hr : r.senderBGid.toNat = A)
    (hold : x.token .connectivity b A c ≠ .done)
    (hconn : .localConnectivity c ∈ x.committed (b, 0))
    (hmem : .localMembership c ∉ x.committed (b, 0)) :
    StatusOk d σ (afterTake x .connectivity b A c queued) (b, 0) c
      (status.fillConnectivity r) := by
  have hslots := isSome_fill queued (r := r) hold h.connectivity
  have hempty : (status.rgMsgRound3ConnectivityResponse A).isSome = false := by
    rw [Bool.eq_false_iff, Ne, h.connectivity A hne]
    exact fun hc => hold hc.2
  obtain ⟨hstate, hawaiting, hcounter, hrequired⟩ := h.connecting hconn hmem
  refine { h with
    ready := fun k hk => ?_
    missing := fun k hk => ?_
    connectivity := ?_
    membership := ?_
    collecting := fun hc => absurd hall hc
    collected := fun _ hc => absurd hconn hc
    connecting := fun _ _ => ⟨hstate, hawaiting, ?_, hrequired⟩
    joining := fun hc => absurd hc hmem }
  · obtain ⟨p, hp, hentry, hanswer⟩ := h.ready k hk
    refine ⟨p, hp, hentry, ?_⟩
    rw [← hanswer]
    exact ownResponse_fillConnectivity (by rw [hr]; exact hne)
  · rw [← h.missing k hk]
    exact ownResponse_fillConnectivity (by rw [hr]; exact hne)
  · show ∀ B ≠ b, (Function.update status.rgMsgRound3ConnectivityResponse r.senderBGid.toNat
      (some r) B).isSome = true ↔ _
    rw [hr]
    exact hslots
  · intro B hB
    show _ ↔ 0 = 0 ∧ (x.setToken .connectivity b A c .done).token .membership b B c = .done
    rw [setToken_of_kind (by simp)]
    exact h.membership B hB
  · show status.messageReceivedCounter + 1 = countOthers _ _ fun B =>
      (Function.update status.rgMsgRound3ConnectivityResponse r.senderBGid.toNat (some r) B).isSome
    rw [hcounter, hr]
    refine (countOthers_fill hA hne hempty (by simp) fun B hB => ?_).symm
    rw [Function.update_of_ne hB]

theorem StatusOk.fillMembership {r : MessageRound3FullMembership} (hr : r.senderBGid.toNat = A)
    (hold : x.token .membership b A c ≠ .done) (hones : r.Ones d.conf.numBG)
    (hconn : .localConnectivity c ∈ x.committed (b, 0))
    (hmem : .localMembership c ∈ x.committed (b, 0)) :
    StatusOk d σ (afterTake x .membership b A c queued) (b, 0) c (status.fillMembership r) := by
  have hslots := isSome_fill queued (r := r) hold h.membership
  have hempty : (status.rgMsgRound3MembershipResponse A).isSome = false := by
    rw [Bool.eq_false_iff, Ne, h.membership A hne]
    exact fun hc => hold hc.2
  obtain ⟨hstate, hawaiting, hcounter, hrequired⟩ := h.joining hmem
  refine { h with
    ready := fun k hk => ?_
    missing := fun k hk => ?_
    connectivity := ?_
    membership := ?_
    ones := fun B m hm => ?_
    collecting := fun hc => absurd hall hc
    collected := fun _ hc => absurd hconn hc
    connecting := fun _ hc => absurd hmem hc
    joining := fun _ => ⟨hstate, hawaiting, ?_, hrequired⟩ }
  · obtain ⟨p, hp, hentry, hanswer⟩ := h.ready k hk
    refine ⟨p, hp, hentry, ?_⟩
    rw [← hanswer]
    exact ownResponse_fillMembership (by rw [hr]; exact hne)
  · rw [← h.missing k hk]
    exact ownResponse_fillMembership (by rw [hr]; exact hne)
  · intro B hB
    show _ ↔ 0 = 0 ∧ (x.setToken .membership b A c .done).token .connectivity b B c = .done
    rw [setToken_of_kind (by simp)]
    exact h.connectivity B hB
  · show ∀ B ≠ b, (Function.update status.rgMsgRound3MembershipResponse r.senderBGid.toNat
      (some r) B).isSome = true ↔ _
    rw [hr]
    exact hslots
  · have hm : Function.update status.rgMsgRound3MembershipResponse r.senderBGid.toNat (some r) B
      = some m := hm
    rw [hr] at hm
    by_cases hB : B = A
    · subst hB
      rw [Function.update_self, Option.some.injEq] at hm
      exact hm ▸ hones
    · rw [Function.update_of_ne hB] at hm
      exact h.ones B m hm
  · show status.messageReceivedCounter + 1 = countOthers _ _ fun B =>
      (Function.update status.rgMsgRound3MembershipResponse r.senderBGid.toNat (some r) B).isSome
    rw [hcounter, hr]
    refine (countOthers_fill hA hne hempty (by simp) fun B hB => ?_).symm
    rw [Function.update_of_ne hB]

end Fill

/-! ## The dispatchers -/

/-- What a leader queues, but for the client Preprepares. -/
theorem proposal_of_news {p : MessageRound2Preprepare} {t : UInt16}
    (hversion : p.header.version = versionLatest) (hparticipants : p.numOfRound3Participants = 0)
    (htype : p.requestType = t) (ht : t ∈ [requestTypeFetchedResult, requestTypeLocalConnectivity,
      requestTypeLocalMembership, requestTypeFullMembership])
    (hhome : t = requestTypeLocalConnectivity → p.bGid = UInt16.ofNat b)
    (hfetched : t = requestTypeFetchedResult →
      ∃ q ∈ issued σ p.bGid.toNat, entryOf q = .client p.cycle ∧ p.Wraps (q.sentBytes d.host))
    (hfull : t = requestTypeFullMembership → p.Matrices d.host d.conf.numBG) (hcovers : p.Covers)
    (hconn : t = requestTypeLocalConnectivity →
      p.header.payloadLen.toNat ≤ 20 + d.conf.numBG) : Proposal d σ b p := by
  have hclient : t ≠ requestTypeFromClient := by
    rintro rfl
    exact absurd ht (by decide)
  refine ⟨hversion, ?_, fun _ => hparticipants, fun h => ?_, fun h => ?_, fun h => ?_, fun h => ?_,
    fun _ => hcovers, fun h => hconn (htype.symm.trans h)⟩
  · rw [htype]
    revert ht
    simp only [List.mem_cons]
    tauto
  · rw [htype] at h
    simp only [List.mem_cons, List.not_mem_nil, or_false] at h
    exact hhome (h.resolve_left hclient)
  · exact absurd (htype.symm.trans h) hclient
  · exact hfetched (htype.symm.trans h)
  · exact hfull (htype.symm.trans h)

section Phase

variable {status : CycleStatus} (h : StatusOk d σ x y c status)

include h

/-- The status waits for connectivity responses in one phase only. -/
theorem StatusOk.of_awaiting
    (hawaiting : status.awaitingMessageType = .round3ConnectivityResponse) :
    .localConnectivity c ∈ x.committed y ∧ .localMembership c ∉ x.committed y := by
  have hmem : .localMembership c ∉ x.committed y := fun hc => by
    have := (h.joining hc).2.1
    rw [hawaiting] at this
    exact absurd this (by simp)
  refine ⟨?_, hmem⟩
  by_contra hconn
  by_cases hall : d.layout.AllOthers y.1 fun A => .fetched c A ∈ x.committed y
  · have := (h.collected hall hconn).2.1
    rw [hawaiting] at this
    exact absurd this (by simp)
  · have := (h.collecting hall).2.1
    rw [hawaiting] at this
    exact absurd this (by simp)

theorem StatusOk.of_state (hstate : status.state = .round3WaitingForReplicatedMembership) :
    .localMembership c ∈ x.committed y := by
  by_contra hmem
  by_cases hconn : .localConnectivity c ∈ x.committed y
  · have := (h.connecting hconn hmem).1
    rw [hstate] at this
    exact absurd this (by simp)
  · by_cases hall : d.layout.AllOthers y.1 fun A => .fetched c A ∈ x.committed y
    · have := (h.collected hall hconn).1
      rw [hstate] at this
      exact absurd this (by simp)
    · have := (h.collecting hall).1
      rw [hstate] at this
      exact absurd this (by simp)

end Phase

/-- A BG that has certified its connectivity has all results. -/
theorem Exchange.Inv.all_fetched {L : Layout} (h : x.Inv L) (hy : y.2 < L.numSL y.1)
    (hN : 2 ≤ L.numBG) (hconn : .localConnectivity c ∈ x.committed y) :
    L.AllOthers y.1 fun A => .fetched c A ∈ x.committed y :=
  ⟨hN, fun A hA hne => h.needs_committed hy hconn (.results c A hA hne)⟩

/-- All slots are filled when all tokens are done. -/
theorem filled_iff {L : Layout} {slot : Nat → Bool} {counter : Nat} (hN : 2 ≤ L.numBG)
    (hb : b < L.numBG) (hcounter : counter = countOthers L.numBG b slot)
    (hslot : ∀ B ≠ b, slot B = true ↔ 0 = 0 ∧ x.token k b B c = .done) :
    counter = L.numBG - 1 ↔ L.AllOthers b fun B => x.token k b B c = .done := by
  rw [hcounter, countOthers_eq hb]
  constructor
  · exact fun h => ⟨hN, fun B hB hne => ((hslot B hne).mp (h B hB hne)).2⟩
  · exact fun h B hB hne => (hslot B hne).mpr ⟨rfl, h.2 B hB hne⟩

section Dispatchers

variable (h : Round3Inv d σ token) (h2 : Round2Ok d σ') (hfits : d.conf.Fits)
  (hd : Dispatch d σ σ' y e ω before) (hsend : before.sl.sendQueue = [])
  (hunstuck : Unstuck y before.sl)

include h h2 hfits hd hsend hunstuck

omit hfits in
/-- **`dispatcher_round3_fetchResponse`** -/
theorem Round3Inv.fetchResponse {r : MessageRound3FetchResponse}
    (hm : e.pMessage = .round3FetchResponse r)
    (hout : dispatcherRound2 (d.env y) ω e before.sl
      = dispatcherRound3FetchResponse (d.env y) ω e r before.sl) :
    Keeps3 d σ y before (dispatcherRound3FetchResponse (d.env y) ω e r before.sl) := by
  have hkey : e.pMessage.responseKey = some (.result, r.senderBGid.toNat, r.cycle) := by
    rw [hm]
    rfl
  obtain ⟨b, i⟩ := y
  have hleader : (d.env (b, i)).conf.isRound2Leader = (i == 0) := rfl
  by_cases hi : i = 0
  · subst hi
    have hgood := h.good_of_dispatch hd
    rw [hm] at hgood
    obtain ⟨-, q, hq, hentry, hcarries⟩ := hgood
    obtain ⟨htoken, hb, hA, hne⟩ := h.asked_of_response hd hkey
    have hwraps := hcarries.wraps (d.env (b, 0)).conf.sLid
    unfold dispatcherRound3FetchResponse at hout ⊢
    rw [hleader, beq_self_eq_true, Bool.not_true, if_neg Bool.false_ne_true] at hout ⊢
    refine Round3Inv.started (h.take hd hsend hkey
      [fetchedResultPreprepare (d.env (b, 0)).conf.sLid r] ?_ ?_ ?_ ?_) hd h2 hout hunstuck.running
    · exact ⟨rfl, rfl, rfl, rfl, rfl, rfl, fun _ _ => rfl, rfl, rfl⟩
    · rw [List.map_singleton, entryOf_fetchedResultPreprepare, afterTake_singleton]
      exact h.inv.receive_result htoken
    · refine ((SlOk.taken hd (h.sl (b, 0))).status r.cycle).congr (fun _ _ hp => hp)
        (fun _ hp => hp) (fun _ _ => Iff.rfl) fun _ k hk B => ?_
      show ((exchange σ token).setToken .result b _ r.cycle .done).token k b B r.cycle = .done ↔ _
      rw [setToken_of_kind hk]
    · intro p hp
      rw [List.mem_singleton] at hp
      subst hp
      refine proposal_of_news (t := requestTypeFetchedResult) rfl rfl rfl (by simp) (fun ht => ?_)
        (fun _ => ⟨q, hq, hentry, hwraps⟩) (fun ht => ?_) hwraps.covers fun ht => ?_
      all_goals exact absurd ht (by decide)
  · unfold dispatcherRound3FetchResponse
    rw [hleader, beq_false_of_ne hi, Bool.not_false, if_pos rfl]
    exact h.forward hd hsend hkey hunstuck

omit h2 hsend hunstuck hfits in
/-- The status of a cycle at a leader that gets an answer of the two later kinds. -/
theorem Round3Inv.status_of_response (hkey : e.pMessage.responseKey = some (k, A, c))
    (hk : k ≠ .result) : ∃ status, before.sl.mapRound3Status c = some status
      ∧ StatusOk d σ (exchange σ token) y c status := by
  obtain ⟨htoken, hb, hA, hne⟩ := h.asked_of_response hd hkey
  obtain ⟨hclient, hopen⟩ := h.inv.home_open (A := A) (c := c) hk (by simp [htoken])
    (by simp [htoken]) hd.has.2
  have hstatus := (SlOk.taken hd (h.sl y)).status c
  revert hstatus
  cases before.sl.mapRound3Status c with
  | some status => exact fun hstatus => ⟨status, rfl, hstatus⟩
  | none =>
    intro hstatus
    rcases hstatus with hstatus | hstatus
    · exact absurd hclient hstatus
    · unfold closer at hstatus
      rw [if_neg (by omega)] at hstatus
      exact absurd (h.inv.mem_all hd.has.2 hstatus) hopen

/-- **`dispatcher_round3_fetchConnectivityResponse`** -/
theorem Round3Inv.fetchConnectivityResponse {r : MessageRound3FetchResponse}
    (hm : e.pMessage = .round3ConnectivityResponse r)
    (hout : dispatcherRound2 (d.env y) ω e before.sl
      = dispatcherRound3FetchConnectivityResponse (d.env y) ω e r before.sl) :
    Keeps3 d σ y before (dispatcherRound3FetchConnectivityResponse (d.env y) ω e r before.sl) := by
  have hkey : e.pMessage.responseKey = some (.connectivity, r.senderBGid.toNat, r.cycle) := by
    rw [hm]
    rfl
  obtain ⟨b, i⟩ := y
  have hleader : (d.env (b, i)).conf.isRound2Leader = (i == 0) := rfl
  by_cases hi : i = 0
  · subst hi
    have hgood := h.good_of_dispatch hd
    rw [hm] at hgood
    obtain ⟨htoken, hb, hA, hne⟩ := h.asked_of_response hd hkey
    obtain ⟨status, hget, hstatus⟩ := h.status_of_response hd hkey (by simp)
    unfold dispatcherRound3FetchConnectivityResponse at hout ⊢
    rw [hleader, beq_self_eq_true, Bool.not_true, if_neg Bool.false_ne_true, hget] at hout ⊢
    dsimp only at hout ⊢
    by_cases hawaiting : status.awaitingMessageType = .round3ConnectivityResponse
    · rw [if_neg fun hc => hc hawaiting] at hout ⊢
      obtain ⟨hconn, hmem⟩ := hstatus.of_awaiting hawaiting
      have hall := h.inv.all_fetched hd.has.2 (by show 2 ≤ d.conf.numBG; omega) hconn
      have hfill : ∀ queued, StatusOk d σ (afterTake (exchange σ token) .connectivity b
          r.senderBGid.toNat r.cycle queued) (b, 0) r.cycle (status.fillConnectivity r) :=
        fun queued => hstatus.fillConnectivity hA hne hall rfl (by simp [htoken]) hconn hmem
      obtain ⟨-, -, hcounter, hrequired⟩ := (hfill []).connecting hconn hmem
      have hlast := filled_iff (L := d.layout) (by show 2 ≤ d.conf.numBG; omega) hb hcounter
        (hfill []).connectivity
      rw [← show (status.fillConnectivity r).messageRequired = d.layout.numBG - 1 from hrequired,
        afterTake_nil] at hlast
      by_cases hfull : status.messageReceivedCounter + 1 = status.messageRequired
      · rw [if_pos hfull] at hout ⊢
        refine (h.take hd hsend hkey [localMembershipPreprepare (d.env (b, 0)).conf r]
          (takeStep_push _ _) ?_ ?_ ?_).started hd h2 hout hunstuck.running
        · rw [List.map_singleton, entryOf_localMembershipPreprepare, afterTake_singleton]
          exact h.inv.receive_last (by simp) htoken hconn (hlast.mp hfull)
        · exact statusAt_setStatus (hfill _)
        · intro p hp
          rw [List.mem_singleton] at hp
          subst hp
          refine proposal_of_news (t := requestTypeLocalMembership) rfl rfl rfl (by simp)
            (fun ht => ?_) (fun ht => ?_) (fun ht => ?_)
            (covers_localMembershipPreprepare hfits rfl hgood.2) fun ht => ?_
          all_goals exact absurd ht (by decide)
      · rw [if_neg hfull] at hout ⊢
        refine (h.take hd hsend hkey [] (takeStep_setStatus _) ?_ ?_ ?_).started hd h2
          hout hunstuck.running
        · rw [List.map_nil, afterTake_nil]
          exact h.inv.receive (by simp) htoken hconn fun hc => hfull (hlast.mpr hc)
        · exact statusAt_setStatus (hfill _)
        · exact fun p hp => absurd hp List.not_mem_nil
    · rw [if_pos hawaiting]
      exact ⟨.returns _ (hunstuck.congr rfl rfl), token, h.unnoticed (unnoticed_juggle hd.to hsend)⟩
  · unfold dispatcherRound3FetchConnectivityResponse
    rw [hleader, beq_false_of_ne hi, Bool.not_false, if_pos rfl]
    exact h.forward hd hsend hkey hunstuck

/-- **`dispatcher_round3_fetchMembershipResponse`** -/
theorem Round3Inv.fetchMembershipResponse {r : MessageRound3FullMembership}
    (hm : e.pMessage = .round3MembershipResponse r)
    (hout : dispatcherRound2 (d.env y) ω e before.sl
      = dispatcherRound3FetchMembershipResponse (d.env y) ω e r before.sl) :
    Keeps3 d σ y before (dispatcherRound3FetchMembershipResponse (d.env y) ω e r before.sl) := by
  have hkey : e.pMessage.responseKey = some (.membership, r.senderBGid.toNat, r.cycle) := by
    rw [hm]
    rfl
  obtain ⟨b, i⟩ := y
  have hleader : (d.env (b, i)).conf.isRound2Leader = (i == 0) := rfl
  by_cases hi : i = 0
  · subst hi
    have hgood := h.good_of_dispatch hd
    rw [hm] at hgood
    obtain ⟨-, hones⟩ := hgood
    obtain ⟨htoken, hb, hA, hne⟩ := h.asked_of_response hd hkey
    obtain ⟨status, hget, hstatus⟩ := h.status_of_response hd hkey (by simp)
    unfold dispatcherRound3FetchMembershipResponse at hout ⊢
    rw [hleader, beq_self_eq_true, Bool.not_true, if_neg Bool.false_ne_true] at hout ⊢
    dsimp only at hout ⊢
    rw [hget] at hout ⊢
    dsimp only at hout ⊢
    by_cases hstate : status.state = .round3WaitingForReplicatedMembership
    · rw [if_neg fun hc => hc hstate] at hout ⊢
      have hmem := hstatus.of_state hstate
      have hconn := h.inv.needs_committed hd.has.2 hmem (.localMembership r.cycle)
      have hall := h.inv.all_fetched hd.has.2 (by show 2 ≤ d.conf.numBG; omega) hconn
      have hslot : (status.rgMsgRound3MembershipResponse r.senderBGid.toNat).isNone = true := by
        rw [Option.isNone_iff_eq_none, ← Option.not_isSome_iff_eq_none,
          hstatus.membership _ hne, htoken]
        simp
      have hawaiting : (status.awaitingMessageType == .round3MembershipResponse) = true := by
        rw [(hstatus.joining hmem).2.1]
        rfl
      rw [hslot, debugThrowElseReturnVoid_true, hawaiting, debugThrow_true] at hout ⊢
      have hfill : ∀ queued, StatusOk d σ (afterTake (exchange σ token) .membership b
          r.senderBGid.toNat r.cycle queued) (b, 0) r.cycle (status.fillMembership r) :=
        fun queued => hstatus.fillMembership hA hne hall rfl (by simp [htoken]) hones hconn hmem
      obtain ⟨-, -, hcounter, hrequired⟩ := (hfill []).joining hmem
      have hlast := filled_iff (L := d.layout) (by show 2 ≤ d.conf.numBG; omega) hb hcounter
        (hfill []).membership
      rw [← show (status.fillMembership r).messageRequired = d.layout.numBG - 1 from hrequired,
        afterTake_nil] at hlast
      by_cases hfull : status.messageReceivedCounter + 1 = status.messageRequired
      · rw [if_pos hfull] at hout ⊢
        refine (h.take hd hsend hkey [fullMembershipPreprepare d.host (d.env (b, 0)).conf r.cycle
          (membershipSlots (d.env (b, 0)).conf (status.fillMembership r))]
          (takeStep_push _ _) ?_ ?_ ?_).started hd h2 hout hunstuck.running
        · rw [List.map_singleton, entryOf_fullMembershipPreprepare, afterTake_singleton]
          exact h.inv.receive_last (by simp) htoken hmem (hlast.mp hfull)
        · exact statusAt_setStatus (hfill _)
        · intro p hp
          rw [List.mem_singleton] at hp
          subst hp
          have hmatrices : (fullMembershipPreprepare d.host (d.env (b, 0)).conf r.cycle
              (membershipSlots (d.env (b, 0)).conf (status.fillMembership r))).Matrices d.host
                d.conf.numBG := by
            refine matrices_fullMembershipPreprepare hfits (fun m hm => ?_)
              ((List.length_filterMap_le _ _).trans_eq List.length_range)
            obtain ⟨B, -, hB⟩ := List.mem_filterMap.mp hm
            exact (hfill []).ones B m hB
          refine proposal_of_news (t := requestTypeFullMembership) rfl rfl rfl (by simp)
            (fun ht => ?_) (fun ht => ?_) (fun _ => hmatrices) hmatrices.covers fun ht => ?_
          all_goals exact absurd ht (by decide)
      · rw [if_neg hfull] at hout ⊢
        refine ⟨.returns _ (hunstuck.congr rfl rfl), _,
          h.take hd hsend hkey [] (takeStep_setStatus _) ?_ ?_ ?_⟩
        · rw [List.map_nil, afterTake_nil]
          exact h.inv.receive (by simp) htoken hmem fun hc => hfull (hlast.mpr hc)
        · exact statusAt_setStatus (hfill _)
        · exact fun p hp => absurd hp List.not_mem_nil
    · rw [if_pos hstate]
      exact ⟨.returns _ (hunstuck.congr rfl rfl), token, h.unnoticed (unnoticed_juggle hd.to hsend)⟩
  · unfold dispatcherRound3FetchMembershipResponse
    rw [hleader, beq_false_of_ne hi, Bool.not_false, if_pos rfl]
    exact h.forward hd hsend hkey hunstuck

end Dispatchers

end RCanopus
