import RCanopus.Hybrid.Round3Responses

/-!
# The slots of a cycle in the hybrid variant

What a response does to the status of its cycle, and the three dispatchers for responses.
-/

namespace RCanopus.Hybrid

open Cluster Gathering

variable {d : Deployment} {σ σ' : Cluster} {A : Nat} {c : UInt16} {y z w : Peer} {k : FetchKind}
  {e : QueueElement} {ω : Choice} {before : Node} {s : ConnManager} {x : Gathering}
  {token : FetchKind → Peer → Nat → UInt16 → Token} {status status' : CycleStatus}

/-! ## Filling a slot -/

/-- The status of a cycle after a result was stored. -/
def CycleStatus.fillResult (status : CycleStatus) (r : MessageRound3FetchResponse) : CycleStatus :=
  { status with
    rgMsgRound3FetchResponse :=
      Function.update status.rgMsgRound3FetchResponse r.senderBGid.toNat (some r) }

/-- One slot is filled, and the own answers are those from before. -/
structure Fills (conf : Config) (k : FetchKind) (A : Nat) (status status' : CycleStatus) :
    Prop where
  self : CycleStatus.filled status' k A = true
  other : ∀ k' B, ¬ (k' = k ∧ B = A) →
    CycleStatus.filled status' k' B = CycleStatus.filled status k' B
  own : ∀ k', ownResponse conf k' status' = ownResponse conf k' status

section Slots

variable {conf : Config}

theorem isSome_update {α : Type} {slot : Nat → Option α} {B : Nat} {r : α} (hB : B ≠ A) :
    (Function.update slot A (some r) B).isSome = (slot B).isSome := by
  rw [Function.update_of_ne hB]

theorem fills_fillResult {r : MessageRound3FetchResponse} (hr : r.senderBGid.toNat ≠ conf.bGid) :
    Fills conf .result r.senderBGid.toNat status (CycleStatus.fillResult status r) where
  self := by
    unfold CycleStatus.filled CycleStatus.fillResult
    dsimp only
    rw [Function.update_self]
    rfl
  other := fun k' B hne => by
    cases k' with
    | result => exact isSome_update fun hB => hne ⟨rfl, hB⟩
    | _ => rfl
  own := fun k' => by
    unfold ownResponse CycleStatus.fillResult
    cases k' with
    | result =>
      dsimp only
      rw [Function.update_of_ne hr.symm]
    | _ => rfl

theorem fills_fillConnectivity {r : MessageRound3FetchResponse}
    (hr : r.senderBGid.toNat ≠ conf.bGid) :
    Fills conf .connectivity r.senderBGid.toNat status (status.fillConnectivity r) where
  self := by
    unfold CycleStatus.filled RCanopus.CycleStatus.fillConnectivity
    dsimp only
    rw [Function.update_self]
    rfl
  other := fun k' B hne => by
    cases k' with
    | connectivity => exact isSome_update fun hB => hne ⟨rfl, hB⟩
    | _ => rfl
  own := fun _ => ownResponse_fillConnectivity hr

theorem fills_fillMembership {r : MessageRound3FullMembership}
    (hr : r.senderBGid.toNat ≠ conf.bGid) :
    Fills conf .membership r.senderBGid.toNat status (status.fillMembership r) where
  self := by
    unfold CycleStatus.filled RCanopus.CycleStatus.fillMembership
    dsimp only
    rw [Function.update_self]
    rfl
  other := fun k' B hne => by
    cases k' with
    | membership => exact isSome_update fun hB => hne ⟨rfl, hB⟩
    | _ => rfl
  own := fun _ => ownResponse_fillMembership hr

end Slots

section Fill

variable {queued : List Entry} (hf : Fills (d.env y).conf k A status status')
  (h : StatusOk d σ x y c status) (hholder : holder d.layout k y c = some w)
  (hold : x.token k w A c ≠ .done) (hy : k = .result ∨ y.2 = 0) (hne : A ≠ y.1)

include hf h hholder hy

/-- The slots after the response was taken. -/
theorem Fills.filled (k' : FetchKind) (B : Nat) (hB : B ≠ y.1) :
    CycleStatus.filled status' k' B = true ↔ (k' = .result ∨ y.2 = 0)
      ∧ held d.layout (afterTake x k w A c queued).token k' y B c = .done := by
  show _ ↔ _ ∧ held d.layout (x.setToken k w A c .done).token k' y B c = .done
  by_cases heq : k' = k ∧ B = A
  · obtain ⟨rfl, rfl⟩ := heq
    refine iff_of_true hf.self ⟨hy, ?_⟩
    rw [held_eq hholder]
    exact setToken_self
  · rw [hf.other k' B heq, held_setToken_of_ne fun hc => heq ⟨hc.1, hc.2.2.1⟩]
    exact h.filled k' B hB

include hold hne in
omit hy in
/-- One more slot is filled. -/
theorem Fills.count (hA : A < d.conf.numBG) :
    countOthers d.conf.numBG y.1 (CycleStatus.filled status' k)
      = countOthers d.conf.numBG y.1 (CycleStatus.filled status k) + 1 := by
  refine countOthers_fill hA hne ?_ hf.self fun B hB => hf.other k B fun hc => hB hc.2
  rw [Bool.eq_false_iff, Ne, h.filled k A hne, held_eq hholder]
  exact fun hc => hold hc.2

/-- The status after the response was taken, but for its phase. -/
theorem Fills.statusOk
    (hcarries : ∀ B r, status'.rgMsgRound3FetchResponse B = some r →
      ∃ q ∈ issued σ B, entryOf q = .client c ∧ r.entirePreprepareMsg = q.sentBytes d.host)
    (hones : ∀ B m, status'.rgMsgRound3MembershipResponse B = some m → m.Ones d.conf.numBG)
    (hcollecting : ¬ Complete d (afterTake x k w A c queued) y .result c →
      status'.In .round3WaitingForReplicatedResults .round3FetchResponse 0 (d.conf.numBG - 1))
    (hcollected : Complete d (afterTake x k w A c queued) y .result c →
      .localConnectivity c ∉ x.committed y →
      status'.In .round3WaitingForLocalConnectivity .round2FullCommit 0 1)
    (hconnecting : .localConnectivity c ∈ x.committed y → .localMembership c ∉ x.committed y →
      status'.In .round3WaitingForReplicatedConnectivity .round3ConnectivityResponse
        (countOthers d.conf.numBG y.1 (CycleStatus.filled status' .connectivity))
        (d.conf.numBG - 1))
    (hjoining : .localMembership c ∈ x.committed y →
      status'.In .round3WaitingForReplicatedMembership .round3MembershipResponse
        (countOthers d.conf.numBG y.1 (CycleStatus.filled status' .membership))
        (d.conf.numBG - 1)) :
    StatusOk d σ (afterTake x k w A c queued) y c status' where
  client := h.client
  still := h.still
  ready := fun k' hk => by
    obtain ⟨p, hp, hentry, hanswer⟩ := h.ready k' hk
    exact ⟨p, hp, hentry, (hf.own k').trans hanswer⟩
  missing := fun k' hk => (hf.own k').trans (h.missing k' hk)
  filled := fun k' B hB => hf.filled h hholder hy k' B hB
  carries := hcarries
  ones := hones
  collecting := hcollecting
  collected := hcollected
  connecting := hconnecting
  joining := hjoining

end Fill

/-! ## Phases -/

/-- The status waits for connectivity responses in one phase only. -/
theorem StatusOk.of_awaiting (h : StatusOk d σ x y c status)
    (hawaiting : status.awaitingMessageType = .round3ConnectivityResponse) :
    .localConnectivity c ∈ x.committed y ∧ .localMembership c ∉ x.committed y := by
  have hmem : .localMembership c ∉ x.committed y := fun hc => by
    have := (h.joining hc).2.1
    rw [hawaiting] at this
    exact absurd this (by simp)
  refine ⟨?_, hmem⟩
  by_contra hconn
  by_cases hall : Complete d x y .result c
  · have := (h.collected hall hconn).2.1
    rw [hawaiting] at this
    exact absurd this (by simp)
  · have := (h.collecting hall).2.1
    rw [hawaiting] at this
    exact absurd this (by simp)

theorem StatusOk.of_state (h : StatusOk d σ x y c status)
    (hstate : status.state = .round3WaitingForReplicatedMembership) :
    .localMembership c ∈ x.committed y := by
  by_contra hmem
  by_cases hconn : .localConnectivity c ∈ x.committed y
  · have := (h.connecting hconn hmem).1
    rw [hstate] at this
    exact absurd this (by simp)
  · by_cases hall : Complete d x y .result c
    · have := (h.collected hall hconn).1
      rw [hstate] at this
      exact absurd this (by simp)
    · have := (h.collecting hall).1
      rw [hstate] at this
      exact absurd this (by simp)

/-- All slots are filled when all tokens are done. -/
theorem complete_iff {slot : Nat → Bool} {counter : Nat} (hN : 2 ≤ d.conf.numBG)
    (hb : y.1 < d.conf.numBG) (hcounter : counter = countOthers d.conf.numBG y.1 slot)
    (hy : k = .result ∨ y.2 = 0) (hslot : ∀ B ≠ y.1, slot B = true
      ↔ (k = .result ∨ y.2 = 0) ∧ held d.layout x.token k y B c = .done) :
    counter = d.conf.numBG - 1 ↔ Complete d x y k c := by
  rw [hcounter, countOthers_eq hb]
  constructor
  · exact fun h => ⟨hN, fun B hB hne => ((hslot B hne).mp (h B hB hne)).2⟩
  · exact fun h B hB hne => (hslot B hne).mpr ⟨hy, h.2 B hB hne⟩

/-- What is complete for `y` is done for the SL that has asked. -/
theorem complete_tokens (hholder : holder d.layout k y c = some w) (hhome : w.1 = y.1) :
    Complete d x y k c ↔ d.layout.AllOthers w.1 fun A => x.token k w A c = .done := by
  rw [hhome]
  exact Layout.AllOthers.congr fun A => by rw [held_eq hholder]

/-! ## What the answers lead to -/

/-- An answer is taken, and the leader queues what follows when it has all of them. -/
theorem Gathering.Inv.take {L : Layout} {full leader : Prop} [Decidable full] [Decidable leader]
    {i : Nat} (h : x.Inv L) (htoken : x.token k w A c = .answered i)
    (hleader : leader ↔ holder L k (w.1, 0) c = some w)
    (htaken : leader → k.trigger c ∈ x.committed (w.1, 0))
    (hfull : full ↔ L.AllOthers w.1 fun B => (x.setToken k w A c .done).token k w B c = .done) :
    (afterTake x k w A c (if full ∧ leader then [k.follow c] else [])).Inv L := by
  have htaken' : holder L k (w.1, 0) c = some w → k.trigger c ∈ x.committed (w.1, 0) :=
    fun hc => htaken (hleader.mpr hc)
  split
  · next hlast =>
    exact h.receive_last htoken htaken' (hleader.mp hlast.2) (hfull.mp hlast.1)
  · next hlast =>
    rw [afterTake_nil]
    exact h.receive htoken htaken' fun hc hall => hlast ⟨hfull.mpr hall, hleader.mpr hc⟩

/-! ### Results -/

/-- The status after a result: with the last one the SL waits for the local connectivity. -/
def CycleStatus.takeResult (conf : Config) (status : CycleStatus) (r : MessageRound3FetchResponse) :
    CycleStatus :=
  if allResults conf (fillResult status r) then
    (fillResult status r).enter .round3WaitingForLocalConnectivity .round2FullCommit 1
  else fillResult status r

/-- What the leader queues with the last result. -/
def resultNews (env : Env) (status : CycleStatus) (r : MessageRound3FetchResponse) :
    List MessageRound2Preprepare :=
  if allResults env.conf (CycleStatus.fillResult status r) ∧ env.conf.isRound2Leader then
    [localConnectivityPreprepare env.conf r.cycle]
  else []

/-- The state of an SL that has taken a result. -/
def afterResult (env : Env) (status : CycleStatus) (r : MessageRound3FetchResponse)
    (s : ConnManager) : ConnManager :=
  { s.setStatus r.cycle (CycleStatus.takeResult env.conf status r) with
    pLeaderRound2PendingPreprepareRaw :=
      s.pLeaderRound2PendingPreprepareRaw ++ resultNews env status r }

theorem dispatcherRound3FetchResponse_eq {env : Env} {r : MessageRound3FetchResponse}
    (hget : s.mapRound3Status r.cycle = some status) (hN : 1 < env.conf.numBG) :
    dispatcherRound3FetchResponse env ω r s = spawnRound2 env ω (afterResult env status r s) := by
  unfold dispatcherRound3FetchResponse afterResult resultNews CycleStatus.takeResult
  dsimp only
  rw [hget]
  dsimp only
  rw [decide_eq_true hN, debugThrow_true]
  change (if allResults env.conf (CycleStatus.fillResult status r) = true then _ else _) = _
  by_cases hfull : allResults env.conf (CycleStatus.fillResult status r) = true
  · rw [if_pos hfull, if_pos hfull]
    by_cases hleader : env.conf.isRound2Leader = true
    · rw [if_pos hleader, if_pos ⟨hfull, hleader⟩]
      rfl
    · rw [if_neg hleader, if_neg fun hc => hleader hc.2, List.append_nil]
      rfl
  · rw [if_neg hfull, if_neg hfull, if_neg fun hc => hfull hc.1, List.append_nil]
    rfl

theorem takeStep_afterResult {env : Env} {r : MessageRound3FetchResponse} :
    TakeStep r.cycle (resultNews env status r) s (afterResult env status r s) :=
  ⟨rfl, rfl, rfl, rfl, rfl, rfl, fun _ hc => Function.update_of_ne hc _ _, rfl, rfl⟩

/-- The own result of a cycle in round 3 is there. -/
theorem StatusOk.own_result (h : StatusOk d σ x y c status) :
    (status.rgMsgRound3FetchResponse y.1).isSome = true := by
  obtain ⟨p, -, -, hanswer⟩ := h.ready .result h.client
  obtain ⟨r, hr, -⟩ := Option.map_eq_some_iff.mp hanswer
  have hr : status.rgMsgRound3FetchResponse y.1 = some r := hr
  rw [hr]
  rfl

section Result

variable {r : MessageRound3FetchResponse} {queued : List Entry} (h : StatusOk d σ x y c status)
  (hN : 2 ≤ d.conf.numBG) (hr : r.senderBGid.toNat = A) (hne : A ≠ y.1)

include hr hne

theorem fills_result :
    Fills (d.env y).conf .result A status (CycleStatus.fillResult status r) := by
  subst hr
  exact fills_fillResult hne

include h hN

/-- All slots are filled when all results have come. -/
theorem StatusOk.allResults_iff (queued : List Entry) :
    allResults (d.env y).conf (CycleStatus.fillResult status r) = true
      ↔ Complete d (afterTake x .result y A c queued) y .result c := by
  have hf : Fills (d.env y).conf .result A status (CycleStatus.fillResult status r) :=
    fills_result hr hne
  have hslot : ∀ B ≠ y.1, CycleStatus.filled (CycleStatus.fillResult status r) .result B = true
      ↔ _ ∧ held d.layout (afterTake x .result y A c queued).token .result y B c = .done :=
    hf.filled h holder_result (Or.inl rfl) .result
  have hown : ((CycleStatus.fillResult status r).rgMsgRound3FetchResponse y.1).isSome = true :=
    (isSome_update (hr ▸ hne.symm)).trans h.own_result
  unfold allResults
  rw [List.all_eq_true]
  constructor
  · exact fun hc => ⟨hN, fun B hB hBne => ((hslot B hBne).mp (hc B (List.mem_range.mpr hB))).2⟩
  · intro hc B hB
    by_cases hBy : B = y.1
    · exact hBy ▸ hown
    · exact (hslot B hBy).mpr ⟨Or.inl rfl, hc.2 B (List.mem_range.mp hB) hBy⟩

theorem StatusOk.takeResult
    (hcarries : ∃ q ∈ issued σ A, entryOf q = .client c
      ∧ r.entirePreprepareMsg = q.sentBytes d.host)
    (hall : ¬ Complete d x y .result c) (hconn : .localConnectivity c ∉ x.committed y)
    (hmem : .localMembership c ∉ x.committed y) :
    StatusOk d σ (afterTake x .result y A c queued) y c
      (CycleStatus.takeResult (d.env y).conf status r) := by
  have hf : Fills (d.env y).conf .result A status (CycleStatus.fillResult status r) :=
    fills_result hr hne
  have hlast := h.allResults_iff hN hr hne queued
  have hcarries' : ∀ B r', (CycleStatus.fillResult status r).rgMsgRound3FetchResponse B = some r' →
      ∃ q ∈ issued σ B, entryOf q = .client c ∧ r'.entirePreprepareMsg = q.sentBytes d.host := by
    intro B r' hr'
    have hr' : Function.update status.rgMsgRound3FetchResponse r.senderBGid.toNat (some r) B
      = some r' := hr'
    rw [hr] at hr'
    by_cases hB : B = A
    · subst hB
      rw [Function.update_self, Option.some.injEq] at hr'
      exact hr' ▸ hcarries
    · rw [Function.update_of_ne hB] at hr'
      exact h.carries B r' hr'
  unfold CycleStatus.takeResult
  split
  · next hfull =>
    have hf' : Fills (d.env y).conf .result A status
        ((CycleStatus.fillResult status r).enter .round3WaitingForLocalConnectivity
          .round2FullCommit 1) := ⟨hf.self, hf.other, hf.own⟩
    exact hf'.statusOk h holder_result (Or.inl rfl) hcarries' h.ones
      (fun hc => absurd (hlast.mp hfull) hc) (fun _ _ => ⟨rfl, rfl, rfl, rfl⟩)
      (fun hc => absurd hc hconn) fun hc => absurd hc hmem
  · next hfull =>
    exact hf.statusOk h holder_result (Or.inl rfl) hcarries' h.ones
      (fun _ => h.collecting hall) (fun hc => absurd (hlast.mpr hc) hfull)
      (fun hc => absurd hc hconn) fun hc => absurd hc hmem

end Result

/-! ### Connectivity and membership -/

section Fill

variable {queued : List Entry} (h : StatusOk d σ x y c status)
  (hholder : holder d.layout k y c = some w) (hold : x.token k w A c ≠ .done) (hy : y.2 = 0)
  (hA : A < d.conf.numBG) (hne : A ≠ y.1)
  (hall : ∀ queued, Complete d (afterTake x k w A c queued) y .result c)

include h hholder hold hy hA hne hall

theorem StatusOk.fillConnectivity {r : MessageRound3FetchResponse} (hk : k = .connectivity)
    (hr : r.senderBGid.toNat = A) (hconn : .localConnectivity c ∈ x.committed y)
    (hmem : .localMembership c ∉ x.committed y) :
    StatusOk d σ (afterTake x k w A c queued) y c (status.fillConnectivity r) := by
  subst hk
  have hf : Fills (d.env y).conf .connectivity A status (status.fillConnectivity r) := by
    subst hr
    exact fills_fillConnectivity hne
  obtain ⟨hstate, hawaiting, hcounter, hrequired⟩ := h.connecting hconn hmem
  refine hf.statusOk h hholder (Or.inr hy) h.carries h.ones (fun hc => absurd (hall queued) hc)
    (fun _ hc => absurd hconn hc) (fun _ _ => ⟨hstate, hawaiting, ?_, hrequired⟩)
    fun hc => absurd hc hmem
  rw [hf.count h hholder hold hne hA, ← hcounter]
  rfl

theorem StatusOk.fillMembership {r : MessageRound3FullMembership} (hk : k = .membership)
    (hr : r.senderBGid.toNat = A) (hones : r.Ones d.conf.numBG)
    (hconn : .localConnectivity c ∈ x.committed y) (hmem : .localMembership c ∈ x.committed y) :
    StatusOk d σ (afterTake x k w A c queued) y c (status.fillMembership r) := by
  subst hk
  have hf : Fills (d.env y).conf .membership A status (status.fillMembership r) := by
    subst hr
    exact fills_fillMembership hne
  obtain ⟨hstate, hawaiting, hcounter, hrequired⟩ := h.joining hmem
  refine hf.statusOk h hholder (Or.inr hy) h.carries (fun B m hm => ?_)
    (fun hc => absurd (hall queued) hc) (fun _ hc => absurd hconn hc)
    (fun _ hc => absurd hmem hc) fun _ => ⟨hstate, hawaiting, ?_, hrequired⟩
  · have hm : Function.update status.rgMsgRound3MembershipResponse r.senderBGid.toNat (some r) B
      = some m := hm
    rw [hr] at hm
    by_cases hB : B = A
    · subst hB
      rw [Function.update_self, Option.some.injEq] at hm
      exact hm ▸ hones
    · rw [Function.update_of_ne hB] at hm
      exact h.ones B m hm
  · rw [hf.count h hholder hold hne hA, ← hcounter]
    rfl

end Fill

/-! ## The dispatchers -/

/-- The status of a cycle after it was set. -/
theorem statusAt_setStatus (h : StatusOk d σ x y c status) :
    StatusAt d σ x y c ((s.setStatus c status).mapRound3Status c) := by
  show StatusAt d σ x y c (Function.update s.mapRound3Status c (some status) c)
  rw [Function.update_self]
  exact h

section Dispatchers

variable (h : Round3Inv d σ token) (h2 : Round2Ok d σ') (hfits : d.conf.Fits)
  (hd : Dispatch d σ σ' y e ω before) (hsend : before.sl.sendQueue = [])
  (hunstuck : Unstuck y before.sl)

include h hd

/-- The status of a cycle at an SL that gets an answer. -/
theorem Round3Inv.status_of_response (hhere : AnsweredHere d token y k A c w) :
    ∃ status, before.sl.mapRound3Status c = some status
      ∧ StatusOk d σ (gathering σ token) y c status := by
  obtain ⟨hholder, hhome, htoken, hb, hA, hne⟩ := hhere
  have hbg : (w.1, y.2) = y := Prod.ext hhome rfl
  obtain ⟨hclient, hopen⟩ := h.inv.home_open (y := w) (j := y.2) (A := A) (c := c) (k := k)
    (by simp [gathering, htoken]) (by simp [gathering, htoken]) (hhome ▸ hd.has.2) (hbg ▸ hholder)
  rw [hbg] at hclient
  rw [hhome] at hopen
  have hstatus := (SlOk.taken hd (h.sl y)).status c
  revert hstatus
  cases before.sl.mapRound3Status c with
  | some status => exact fun hstatus => ⟨status, rfl, hstatus⟩
  | none =>
    intro hstatus
    rcases hstatus with hstatus | hstatus
    · exact absurd hclient hstatus
    · rw [closer_of_two (by omega)] at hstatus
      exact absurd (h.inv.mem_all hd.has.2 hstatus) hopen

include h2 hsend hunstuck

/-- **`dispatcher_round3_fetchResponse`** -/
theorem Round3Inv.fetchResponse {r : MessageRound3FetchResponse}
    (hm : e.pMessage = .round3FetchResponse r)
    (hout : dispatcherRound2 (d.env y) ω e before.sl
      = dispatcherRound3FetchResponse (d.env y) ω r before.sl) :
    Keeps3 d σ y before (dispatcherRound3FetchResponse (d.env y) ω r before.sl) := by
  have hkey : e.pMessage.responseKey = some (.result, r.senderBGid.toNat, r.cycle) := by
    rw [hm]
    rfl
  have hgood := h.good_of_dispatch hd
  rw [hm] at hgood
  obtain ⟨-, q, hq, hentry, hcarries⟩ := hgood
  obtain ⟨w, hhere⟩ := h.answered_here hd hkey
  obtain rfl : y = w := Option.some.inj hhere.holder
  obtain ⟨status, hget, hstatus⟩ := h.status_of_response hd hhere
  have htoken : (gathering σ token).token .result y r.senderBGid.toNat r.cycle = .answered y.2 :=
    hhere.token
  have hN : 2 ≤ d.conf.numBG := by
    have := hhere.numBG
    have := hhere.other
    have := hhere.ne
    omega
  -- while this result was missing, nobody could certify the connectivity
  have hall : ¬ Complete d (gathering σ token) y .result r.cycle := fun hc => by
    have hdone : (gathering σ token).token .result y r.senderBGid.toNat r.cycle = .done :=
      hc.2 _ hhere.other hhere.ne
    rw [htoken] at hdone
    exact Token.noConfusion hdone
  have hconn : .localConnectivity r.cycle ∉ (gathering σ token).committed y := fun hc =>
    hall (h.inv.all_results hd.has.2 hc hd.has.2)
  have hmem : .localMembership r.cycle ∉ (gathering σ token).committed y := fun hc =>
    hconn (h.inv.connectivity_committed hd.has.2 (k := .membership) (by simp) hc)
  have hlast := hstatus.allResults_iff hN rfl hhere.ne
  have hleader : (d.env y).conf.isRound2Leader = true
      ↔ holder d.layout .result (y.1, 0) r.cycle = some y := by
    rw [holder_result, Option.some.injEq, Prod.ext_iff, eq_comm (a := (y.1, 0).2)]
    exact beq_iff_eq.trans (and_iff_right rfl).symm
  have hN' : 1 < (d.env y).conf.numBG := hN
  rw [dispatcherRound3FetchResponse_eq hget hN'] at hout ⊢
  refine Round3Inv.spawned (h.take hd hsend hkey hhere (Or.inl rfl) _ (fun hy => ?_)
    takeStep_afterResult ?_ ?_ fun p hp => ?_) hd h2 hout hunstuck.running
  · unfold resultNews
    rw [if_neg fun hc => hy (beq_iff_eq.mp hc.2)]
  · have hnews : (resultNews (d.env y) status r).map entryOf
        = if allResults (d.env y).conf (CycleStatus.fillResult status r)
          ∧ (d.env y).conf.isRound2Leader then [FetchKind.result.follow r.cycle] else [] := by
      unfold resultNews
      split <;> rfl
    rw [hnews]
    refine h.inv.take htoken hleader (fun hc => ?_) ?_
    · rw [Option.some.inj (hleader.mp hc)]
      exact hstatus.client
    · refine (hlast []).trans ?_
      rw [afterTake_nil]
      exact Layout.AllOthers.congr fun B => by rw [held_result]
  · exact statusAt_setStatus (hstatus.takeResult hN rfl hhere.ne ⟨q, hq, hentry, hcarries.content⟩
      hall hconn hmem)
  · unfold resultNews at hp
    split at hp
    · rw [List.mem_singleton] at hp
      subst hp
      exact proposal_of_news (t := requestTypeLocalConnectivity) rfl rfl rfl (by simp)
        (fun _ => rfl) (fun ht => absurd ht (by decide)) (fun ht => absurd ht (by decide))
        (Nat.le_refl _) fun _ => Nat.le_add_right_of_le (show 18 ≤ 20 by decide)
    · exact absurd hp List.not_mem_nil

omit h2 hsend hunstuck in
/-- What the leader has certified is complete there, also when more answers come. -/
theorem Round3Inv.all_results (hconn : .localConnectivity c ∈ (gathering σ token).committed y)
    (hk : k ≠ .result) (queued : List Entry) :
    Complete d (afterTake (gathering σ token) k w A c queued) y .result c := by
  refine (h.inv.all_results hd.has.2 hconn hd.has.2).imp fun B hB => ?_
  show (gathering σ token |>.setToken k w A c .done).token .result y B c = .done
  rw [setToken_of_ne fun hc => hk hc.1.symm]
  exact hB

include hfits

/-- **`dispatcher_round3_fetchConnectivityResponse`** -/
theorem Round3Inv.fetchConnectivityResponse {r : MessageRound3FetchResponse}
    (hm : e.pMessage = .round3ConnectivityResponse r)
    (hout : dispatcherRound2 (d.env y) ω e before.sl
      = dispatcherRound3FetchConnectivityResponse (d.env y) ω e r before.sl) :
    Keeps3 d σ y before (dispatcherRound3FetchConnectivityResponse (d.env y) ω e r before.sl) := by
  have hkey : e.pMessage.responseKey = some (.connectivity, r.senderBGid.toNat, r.cycle) := by
    rw [hm]
    rfl
  obtain ⟨b, i⟩ := y
  have hleader : (d.env (b, i)).conf.isRound2Leader = (i == 0) := rfl
  by_cases hi : i = 0
  · subst hi
    have hgood := h.good_of_dispatch hd
    rw [hm] at hgood
    obtain ⟨w, hhere⟩ := h.answered_here hd hkey
    obtain ⟨status, hget, hstatus⟩ := h.status_of_response hd hhere
    have htoken : (gathering σ token).token .connectivity w r.senderBGid.toNat r.cycle
        = .answered 0 := hhere.token
    obtain rfl : w.1 = b := hhere.home
    have hN : 2 ≤ d.conf.numBG := by
      have := hhere.numBG
      have := hhere.other
      have := hhere.ne
      omega
    unfold dispatcherRound3FetchConnectivityResponse at hout ⊢
    rw [hleader, beq_self_eq_true, Bool.not_true, if_neg Bool.false_ne_true, hget] at hout ⊢
    dsimp only at hout ⊢
    by_cases hawaiting : status.awaitingMessageType = .round3ConnectivityResponse
    · rw [if_neg fun hc => hc hawaiting] at hout ⊢
      obtain ⟨hconn, hmem⟩ := hstatus.of_awaiting hawaiting
      have hfill : ∀ queued, StatusOk d σ (afterTake (gathering σ token) .connectivity w
          r.senderBGid.toNat r.cycle queued) (w.1, 0) r.cycle (status.fillConnectivity r) :=
        fun queued => hstatus.fillConnectivity hhere.holder (by simp [htoken]) rfl hhere.other
          hhere.ne (h.all_results hd hconn (by simp)) rfl rfl hconn hmem
      obtain ⟨-, -, hcounter, hrequired⟩ := (hfill []).connecting hconn hmem
      have hlast := complete_iff hN hhere.numBG hcounter (Or.inr rfl) ((hfill []).filled _)
      rw [complete_tokens hhere.holder rfl, afterTake_nil,
        ← show (status.fillConnectivity r).messageRequired = d.conf.numBG - 1 from hrequired]
        at hlast
      have hinv := h.inv.take htoken
        (iff_of_true trivial hhere.holder : True ↔ _) (fun _ => hconn) hlast
      by_cases hfull : status.messageReceivedCounter + 1 = status.messageRequired
      · rw [if_pos ⟨hfull, trivial⟩] at hinv
        rw [if_pos hfull] at hout ⊢
        refine (h.take hd hsend hkey hhere (Or.inr rfl)
          [localMembershipPreprepare (d.env (w.1, 0)).conf r] (fun hc => absurd rfl hc)
          (takeStep_push _ _) ?_ ?_ ?_).started hd h2 hout hunstuck.running
        · rw [List.map_singleton, entryOf_localMembershipPreprepare]
          exact hinv
        · exact statusAt_setStatus (hfill _)
        · intro p hp
          rw [List.mem_singleton] at hp
          subst hp
          refine proposal_of_news (t := requestTypeLocalMembership) rfl rfl rfl (by simp)
            (fun ht => ?_) (fun ht => ?_) (fun ht => ?_)
            (covers_localMembershipPreprepare hfits rfl hgood.2) fun ht => ?_
          all_goals exact absurd ht (by decide)
      · rw [if_neg fun hc => hfull hc.1] at hinv
        rw [if_neg hfull] at hout ⊢
        exact (h.take hd hsend hkey hhere (Or.inr rfl) [] (fun _ => rfl) (takeStep_setStatus _)
          hinv (statusAt_setStatus (hfill _)) fun p hp => absurd hp List.not_mem_nil).started hd h2
          hout hunstuck.running
    · rw [if_pos hawaiting]
      exact ⟨.returns _ (hunstuck.congr rfl rfl), token, h.juggle hd hsend⟩
  · unfold dispatcherRound3FetchConnectivityResponse
    rw [hleader, beq_false_of_ne hi, Bool.not_false, if_pos rfl]
    exact h.forward hd hsend hkey (by simp) hunstuck

/-- **`dispatcher_round3_fetchMembershipResponse`** -/
theorem Round3Inv.fetchMembershipResponse {r : MessageRound3FullMembership}
    (hm : e.pMessage = .round3MembershipResponse r)
    (hout : dispatcherRound2 (d.env y) ω e before.sl
      = dispatcherRound3FetchMembershipResponse (d.env y) ω e r before.sl) :
    Keeps3 d σ y before (dispatcherRound3FetchMembershipResponse (d.env y) ω e r before.sl) := by
  have hkey : e.pMessage.responseKey = some (.membership, r.senderBGid.toNat, r.cycle) := by
    rw [hm]
    rfl
  obtain ⟨b, i⟩ := y
  have hleader : (d.env (b, i)).conf.isRound2Leader = (i == 0) := rfl
  by_cases hi : i = 0
  · subst hi
    have hgood := h.good_of_dispatch hd
    rw [hm] at hgood
    obtain ⟨-, hones⟩ := hgood
    obtain ⟨w, hhere⟩ := h.answered_here hd hkey
    obtain ⟨status, hget, hstatus⟩ := h.status_of_response hd hhere
    have htoken : (gathering σ token).token .membership w r.senderBGid.toNat r.cycle
        = .answered 0 := hhere.token
    obtain rfl : w.1 = b := hhere.home
    have hN : 2 ≤ d.conf.numBG := by
      have := hhere.numBG
      have := hhere.other
      have := hhere.ne
      omega
    unfold dispatcherRound3FetchMembershipResponse at hout ⊢
    rw [hleader, beq_self_eq_true, Bool.not_true, if_neg Bool.false_ne_true] at hout ⊢
    dsimp only at hout ⊢
    rw [hget] at hout ⊢
    dsimp only at hout ⊢
    by_cases hstate : status.state = .round3WaitingForReplicatedMembership
    · rw [if_neg fun hc => hc hstate] at hout ⊢
      have hmem := hstatus.of_state hstate
      have hconn := h.inv.connectivity_committed hd.has.2 (k := .membership) (by simp) hmem
      have hslot : (status.rgMsgRound3MembershipResponse r.senderBGid.toNat).isNone = true := by
        have hfilled := hstatus.filled .membership _ hhere.ne
        rw [held_eq hhere.holder, htoken] at hfilled
        rw [Option.isNone_iff_eq_none, ← Option.not_isSome_iff_eq_none]
        exact fun hc => absurd (hfilled.mp hc).2 (by simp)
      have hawaiting : (status.awaitingMessageType == .round3MembershipResponse) = true := by
        rw [(hstatus.joining hmem).2.1]
        rfl
      rw [hslot, debugThrowElseReturnVoid_true, hawaiting, debugThrow_true] at hout ⊢
      have hfill : ∀ queued, StatusOk d σ (afterTake (gathering σ token) .membership w
          r.senderBGid.toNat r.cycle queued) (w.1, 0) r.cycle (status.fillMembership r) :=
        fun queued => hstatus.fillMembership hhere.holder (by simp [htoken]) rfl hhere.other
          hhere.ne (h.all_results hd hconn (by simp)) rfl rfl hones hconn hmem
      obtain ⟨-, -, hcounter, hrequired⟩ := (hfill []).joining hmem
      have hlast := complete_iff hN hhere.numBG hcounter (Or.inr rfl) ((hfill []).filled _)
      rw [complete_tokens hhere.holder rfl, afterTake_nil,
        ← show (status.fillMembership r).messageRequired = d.conf.numBG - 1 from hrequired]
        at hlast
      have hinv := h.inv.take htoken
        (iff_of_true trivial hhere.holder : True ↔ _) (fun _ => hmem) hlast
      by_cases hfull : status.messageReceivedCounter + 1 = status.messageRequired
      · rw [if_pos ⟨hfull, trivial⟩] at hinv
        rw [if_pos hfull] at hout ⊢
        refine (h.take hd hsend hkey hhere (Or.inr rfl)
          [fullMembershipPreprepare d.host (d.env (w.1, 0)).conf r.cycle
            (membershipSlots (d.env (w.1, 0)).conf (status.fillMembership r))]
          (fun hc => absurd rfl hc) (takeStep_push _ _) ?_ ?_ ?_).started hd h2 hout
          hunstuck.running
        · rw [List.map_singleton, entryOf_fullMembershipPreprepare]
          exact hinv
        · exact statusAt_setStatus (hfill _)
        · intro p hp
          rw [List.mem_singleton] at hp
          subst hp
          have hmatrices : (fullMembershipPreprepare d.host (d.env (w.1, 0)).conf r.cycle
              (membershipSlots (d.env (w.1, 0)).conf (status.fillMembership r))).Matrices d.host
                d.conf.numBG := by
            refine matrices_fullMembershipPreprepare hfits (fun m hm => ?_)
              ((List.length_filterMap_le _ _).trans_eq List.length_range)
            obtain ⟨B, -, hB⟩ := List.mem_filterMap.mp hm
            exact (hfill []).ones B m hB
          refine proposal_of_news (t := requestTypeFullMembership) rfl rfl rfl (by simp)
            (fun ht => ?_) (fun ht => ?_) (fun _ => hmatrices) hmatrices.covers fun ht => ?_
          all_goals exact absurd ht (by decide)
      · rw [if_neg fun hc => hfull hc.1] at hinv
        rw [if_neg hfull] at hout ⊢
        exact ⟨.returns _ (hunstuck.congr rfl rfl), _,
          h.take hd hsend hkey hhere (Or.inr rfl) [] (fun _ => rfl) (takeStep_setStatus _) hinv
            (statusAt_setStatus (hfill _)) fun p hp => absurd hp List.not_mem_nil⟩
    · rw [if_pos hstate]
      exact ⟨.returns _ (hunstuck.congr rfl rfl), token, h.juggle hd hsend⟩
  · unfold dispatcherRound3FetchMembershipResponse
    rw [hleader, beq_false_of_ne hi, Bool.not_false, if_pos rfl]
    exact h.forward hd hsend hkey (by simp) hunstuck

end Dispatchers

end RCanopus.Hybrid
