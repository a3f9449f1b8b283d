import RCanopus.Round3Trigger

/-!
# The three triggers

What the status of a cycle is after each of the commits that ask the other BGs.
-/

namespace RCanopus

open Cluster Exchange

variable {d : Deployment} {σ σ' : Cluster} {A b : Nat} {c : UInt16} {y z : Peer} {k : FetchKind}
  {e : QueueElement} {ω : Choice} {before : Node} {s : ConnManager} {x : Exchange}
  {token : FetchKind → Nat → Nat → UInt16 → Token} {p : MessageRound2Preprepare}
  {m : MessageRound2FullCommit} {status : CycleStatus} {request response : Message}

/-! ## Requests -/

theorem toNat_ofNat_sl (hfits : d.conf.Fits) (hy : d.Has y) : (UInt16.ofNat y.2).toNat = y.2 := by
  have := hfits.numSL y.1
  have := hy.2
  rw [UInt16.toNat_ofNat', Nat.mod_eq_of_lt (by omega)]

/-- The request of the envoy. -/
def requestOf (env : Env) (k : FetchKind) (p : MessageRound2Preprepare)
    (m : MessageRound2FullCommit) : Message :=
  match k with
  | .result => .round3FetchRequest (getRound3Request env.host
      (getRound3Response env.host p m (UInt16.ofNat env.conf.sLid) p.cycle))
  | .connectivity => .round3GeneralFetch
      (generalFetchMessage env.conf p.cycle .round3ConnectivityResponse)
  | .membership => .round3GeneralFetch
      (generalFetchMessage env.conf p.cycle .round3MembershipResponse)

section Messages

variable (h : Round3Inv d σ token) (hfits : d.conf.Fits) (hc : Commits d σ σ' y e ω before m p)
  (hentry : entryOf p = k.trigger p.cycle)

include h hfits hc hentry

theorem Commits.messages :
    TriggerMessages d σ y k p.cycle (ownAnswer (d.env y) k p) (requestOf (d.env y) k p m) := by
  have hbg := toNat_ofNat_bg hfits hc.has.1
  have hsl := toNat_ofNat_sl hfits hc.has
  obtain ⟨q, hq, hcopy⟩ := hc.copied
  obtain ⟨hkey, hgood⟩ := (h.issued y.1 q hq).answer hfits hc.has hq hcopy hentry
  have hproposal := h.issued y.1 q hq
  have hhome : k = .result → p.bGid = UInt16.ofNat y.1 ∧ p.header.version = versionLatest := by
    rintro rfl
    rw [hcopy, entryOf_copy] at hentry
    rw [hcopy]
    exact ⟨hproposal.home (by rw [(entryOf_client.mp hentry).1]; simp), hproposal.version⟩
  refine ⟨hkey, ?_, hgood, fun henvoy z => ?_⟩
  · cases k with
    | result =>
      show some (FetchKind.result, p.bGid.toNat, p.cycle) = _
      rw [(hhome rfl).1, hbg]
    | connectivity =>
      show some (_, (UInt16.ofNat y.1).toNat, p.cycle) = _
      rw [hbg]
      rfl
    | membership =>
      show some (_, (UInt16.ofNat y.1).toNat, p.cycle) = _
      rw [hbg]
      rfl
  · cases k with
    | result =>
      refine ⟨(hhome rfl).2, ?_⟩
      show d.layout.envoy p.bGid.toNat p.cycle = some (UInt16.ofNat y.2).toNat
      rw [(hhome rfl).1, hbg, hsl]
      exact henvoy
    | connectivity =>
      refine ⟨rfl, ?_, Or.inl rfl⟩
      show d.layout.envoy (UInt16.ofNat y.1).toNat p.cycle = some (UInt16.ofNat y.2).toNat
      rw [hbg, hsl]
      exact henvoy
    | membership =>
      refine ⟨rfl, ?_, Or.inr rfl⟩
      show d.layout.envoy (UInt16.ofNat y.1).toNat p.cycle = some (UInt16.ofNat y.2).toNat
      rw [hbg, hsl]
      exact henvoy

end Messages

/-! ## The new statuses -/

theorem countOthers_zero {numBG : Nat} {slot : Nat → Bool} (h : ∀ A ≠ b, slot A ≠ true) :
    countOthers numBG b slot = 0 := by
  unfold countOthers
  rw [List.countP_eq_zero]
  intro A hA
  rw [List.mem_filter, decide_eq_true_eq] at hA
  exact h A hA.2

theorem closer_ne_localConnectivity {numBG : Nat} (c' : UInt16) :
    closer numBG c' ≠ .localConnectivity c := by
  unfold closer
  split <;> simp

theorem closer_ne_localMembership {numBG : Nat} (c' : UInt16) :
    closer numBG c' ≠ .localMembership c := by
  unfold closer
  split <;> simp

/-- The certificate of a full commit is not a real one. -/
theorem getRound3Response_certificate (hcert : m.combinedSignature = zeroSignature) (h : Endian)
    (sLid : UInt16) :
    getRound3Response h p m sLid c = getRound3Response h p (fullCommitMessage 0 0 0) sLid c := by
  unfold getRound3Response
  rw [hcert]
  rfl

section Status

variable (hinv : x.Inv d.layout) (hx : x.Next d.layout y (k.trigger c))

theorem mem_afterTriggerOf {e : Entry} : e ∈ (afterTriggerOf d x y k c ω).committed y
    ↔ e ∈ x.committed y ∨ e = k.trigger c := afterCommit_mem

include hinv hx

theorem done_afterTriggerOf {k' : FetchKind} {c' : UInt16} :
    (afterTriggerOf d x y k c ω).token k' b A c' = .done ↔ x.token k' b A c' = .done :=
  hinv.triggerToken_done hx

/-- The leader has taken no answer of the two later kinds before it has triggered them. -/
theorem Exchange.Inv.not_done (hk : k ≠ .result) : ¬ (y.2 = 0 ∧ x.token k y.1 A c = .done) := by
  rintro ⟨hy, hdone⟩
  have htaken := hinv.taken k hk y.1 A c hdone
  rw [← hy] at htaken
  exact hinv.next_notMem hx htaken

end Status

section Certify

variable (h : StatusOk d σ x y p.cycle status) (hinv : x.Inv d.layout)
  (hcert : m.combinedSignature = zeroSignature)

include h hinv

include hcert in
/-- **The status when the connectivity is certified.** -/
theorem StatusOk.certify_connectivity (hx : x.Next d.layout y (.localConnectivity p.cycle))
    (hentry : entryOf p = .localConnectivity p.cycle) :
    StatusAfter d σ (afterTriggerOf d x y .connectivity p.cycle ω) y p
      (connectivityStatus (d.env y) m p status) := by
  intro σ' hissued hcommitted hp
  have hold : StatusOk d σ' x y p.cycle status :=
    h.congr hissued hcommitted (fun _ _ => Iff.rfl) fun _ _ _ _ => Iff.rfl
  have hmem : ∀ e, e ≠ .localConnectivity p.cycle →
      (e ∈ (afterTriggerOf d x y .connectivity p.cycle ω).committed y ↔ e ∈ x.committed y) :=
    fun e he => mem_afterTriggerOf.trans (or_iff_left he)
  have hself : .localConnectivity p.cycle
      ∈ (afterTriggerOf d x y .connectivity p.cycle ω).committed y :=
    mem_afterTriggerOf.mpr (Or.inr rfl)
  have hdone : ∀ k' A, (afterTriggerOf d x y .connectivity p.cycle ω).token k' y.1 A p.cycle = .done
      ↔ x.token k' y.1 A p.cycle = .done := fun k' A =>
    done_afterTriggerOf (k := .connectivity) hinv hx
  have hempty := fun A => hinv.not_done (A := A) (k := .connectivity) hx (by simp)
  have hslots : ∀ A ≠ y.1, ((connectivityStatus (d.env y) m p
      status).rgMsgRound3ConnectivityResponse A).isSome
      = (status.rgMsgRound3ConnectivityResponse A).isSome := fun A hA => by
    show (Function.update status.rgMsgRound3ConnectivityResponse y.1 _ A).isSome = _
    rw [Function.update_of_ne hA]
  have hall : d.layout.AllOthers y.1 fun A =>
      .fetched p.cycle A ∈ (afterTriggerOf d x y .connectivity p.cycle ω).committed y := by
    refine ⟨((hinv.localConnectivity y.1 p.cycle).mp (List.mem_append_left _ hx.mem_log)).1,
      fun A hA hne => (hmem _ (by simp)).mpr ?_⟩
    exact hinv.next_needs hx (.results p.cycle A hA hne)
  refine { hold with
    client := (hmem _ (by simp)).mpr hold.client
    still := (hmem _ (closer_ne_localConnectivity _)).not.mpr hold.still
    ready := fun k hk => ?_
    missing := fun k hk => ?_
    results := fun A hA => (hold.results A hA).trans (hmem _ (by simp)).symm
    connectivity := fun A hA => ?_
    membership := fun A hA => (hold.membership A hA).trans
      (and_congr_right fun _ => (hdone _ A).symm)
    collecting := fun hc => absurd hall hc
    collected := fun _ hc => absurd hself hc
    connecting := fun _ _ => ⟨rfl, rfl, ?_, rfl⟩
    joining := fun hc => ?_ }
  · cases k with
    | connectivity =>
      refine ⟨p, hp, hentry, ?_⟩
      show (Function.update status.rgMsgRound3ConnectivityResponse y.1 _ y.1).map _ = _
      rw [Function.update_self, getRound3Response_certificate hcert]
      rfl
    | result => exact hold.ready .result ((hmem _ (by simp [FetchKind.trigger])).mp hk)
    | membership => exact hold.ready .membership ((hmem _ (by simp [FetchKind.trigger])).mp hk)
  · cases k with
    | connectivity => exact absurd hself hk
    | result => exact hold.missing .result ((hmem _ (by simp [FetchKind.trigger])).not.mp hk)
    | membership =>
      exact hold.missing .membership ((hmem _ (by simp [FetchKind.trigger])).not.mp hk)
  · rw [hslots A hA, hold.connectivity A hA, hdone]
  · refine (countOthers_zero fun A hA => ?_).symm
    rw [hslots A hA, Ne, hold.connectivity A hA]
    exact hempty A
  · have hmember := (hmem _ (by simp)).mp hc
    exact absurd (hinv.needs_committed hx.lt hmember (.localMembership p.cycle))
      (hinv.next_notMem hx)

/-- **The status when the membership is certified.** -/
theorem StatusOk.certify_membership (hx : x.Next d.layout y (.localMembership p.cycle))
    (hentry : entryOf p = .localMembership p.cycle)
    (hones : (membershipResponse (d.env y).conf p.cycle).Ones d.conf.numBG) :
    StatusAfter d σ (afterTriggerOf d x y .membership p.cycle ω) y p
      (membershipStatus (d.env y) p status) := by
  intro σ' hissued hcommitted hp
  have hold : StatusOk d σ' x y p.cycle status :=
    h.congr hissued hcommitted (fun _ _ => Iff.rfl) fun _ _ _ _ => Iff.rfl
  have hmem : ∀ e, e ≠ .localMembership p.cycle →
      (e ∈ (afterTriggerOf d x y .membership p.cycle ω).committed y ↔ e ∈ x.committed y) :=
    fun e he => mem_afterTriggerOf.trans (or_iff_left he)
  have hself : .localMembership p.cycle
      ∈ (afterTriggerOf d x y .membership p.cycle ω).committed y :=
    mem_afterTriggerOf.mpr (Or.inr rfl)
  have hconn := hinv.next_needs hx (.localMembership p.cycle)
  have hconn' : .localConnectivity p.cycle
      ∈ (afterTriggerOf d x y .membership p.cycle ω).committed y :=
    (hmem _ (by simp)).mpr hconn
  have hdone : ∀ k' A, (afterTriggerOf d x y .membership p.cycle ω).token k' y.1 A p.cycle = .done
      ↔ x.token k' y.1 A p.cycle = .done := fun k' A =>
    done_afterTriggerOf (k := .membership) hinv hx
  have hempty := fun A => hinv.not_done (A := A) (k := .membership) hx (by simp)
  have hslots : ∀ A ≠ y.1, (membershipStatus (d.env y) p
      status).rgMsgRound3MembershipResponse A = status.rgMsgRound3MembershipResponse A :=
    fun A hA => Function.update_of_ne hA _ _
  have hall : d.layout.AllOthers y.1 fun A =>
      .fetched p.cycle A ∈ (afterTriggerOf d x y .membership p.cycle ω).committed y := by
    refine ⟨((hinv.followed .connectivity (by simp) y.1 p.cycle).mp
      (List.mem_append_left _ hx.mem_log)).1, fun A hA hne => (hmem _ (by simp)).mpr ?_⟩
    exact hinv.needs_committed hx.lt hconn (.results p.cycle A hA hne)
  refine { hold with
    client := (hmem _ (by simp)).mpr hold.client
    still := (hmem _ (closer_ne_localMembership _)).not.mpr hold.still
    ready := fun k hk => ?_
    missing := fun k hk => ?_
    results := fun A hA => (hold.results A hA).trans (hmem _ (by simp)).symm
    connectivity := fun A hA => (hold.connectivity A hA).trans
      (and_congr_right fun _ => (hdone _ A).symm)
    membership := fun A hA => ?_
    ones := fun A m hm => ?_
    collecting := fun hc => absurd hall hc
    collected := fun _ hc => absurd hconn' hc
    connecting := fun _ hc => absurd hself hc
    joining := fun _ => ⟨rfl, rfl, ?_, rfl⟩ }
  · cases k with
    | membership =>
      refine ⟨p, hp, hentry, ?_⟩
      show (Function.update status.rgMsgRound3MembershipResponse y.1 _ y.1).map _ = _
      rw [Function.update_self]
      rfl
    | result => exact hold.ready .result ((hmem _ (by simp [FetchKind.trigger])).mp hk)
    | connectivity => exact hold.ready .connectivity ((hmem _ (by simp [FetchKind.trigger])).mp hk)
  · cases k with
    | membership => exact absurd hself hk
    | result => exact hold.missing .result ((hmem _ (by simp [FetchKind.trigger])).not.mp hk)
    | connectivity =>
      exact hold.missing .connectivity ((hmem _ (by simp [FetchKind.trigger])).not.mp hk)
  · rw [hslots A hA, hold.membership A hA, hdone]
  · by_cases hA : A = y.1
    · subst hA
      have hm : Function.update status.rgMsgRound3MembershipResponse y.1 _ y.1 = some m := hm
      rw [Function.update_self, Option.some.injEq] at hm
      exact hm ▸ hones
    · rw [hslots A hA] at hm
      exact hold.ones A m hm
  · refine (countOthers_zero fun A hA => ?_).symm
    rw [hslots A hA, Ne, hold.membership A hA]
    exact hempty A

end Certify

/-! ### A new cycle -/

/-- A client cycle is new to the SL. -/
theorem Exchange.Inv.new_of_next {L : Layout} (hinv : x.Inv L) (hx : x.Next L y (.client c)) :
    (∀ A, .fetched c A ∉ x.committed y) ∧ .localConnectivity c ∉ x.committed y
      ∧ .localMembership c ∉ x.committed y ∧ .fullMembership c ∉ x.committed y
      ∧ ∀ k, k ≠ .result → ∀ A, x.token k y.1 A c ≠ .done := by
  have hnew := hinv.next_notMem hx
  have hconn : .localConnectivity c ∉ x.committed y := fun he =>
    hnew (hinv.needs_committed hx.lt he (.localConnectivity c))
  have hmem : .localMembership c ∉ x.committed y := fun he =>
    hconn (hinv.needs_committed hx.lt he (.localMembership c))
  refine ⟨fun A he => hnew (hinv.needs_committed hx.lt he (.fetched c A)), hconn, hmem,
    fun he => hmem (hinv.needs_committed hx.lt he (.fullMembership c)), fun k hk A hdone => hnew ?_⟩
  have htaken := hinv.taken k hk y.1 A c hdone
  exact hinv.client_behind (Nat.lt_of_le_of_lt (Nat.zero_le _) hx.lt) htaken hk hx.lt

/-- **The status when a cycle enters round 3**, and there are other BGs. -/
theorem statusAfter_client (hinv : x.Inv d.layout) (hx : x.Next d.layout y (.client p.cycle))
    (hentry : entryOf p = .client p.cycle) (hcert : m.combinedSignature = zeroSignature)
    (hN : 2 ≤ d.conf.numBG) (hq : ∃ q ∈ issued σ y.1, p = q.copy) :
    StatusAfter d σ (afterTriggerOf d x y .result p.cycle ω) y p
      (fetchingStatus (d.env y) m p (.committed p)) := by
  intro σ' hissued hcommitted hp
  obtain ⟨hfetched, hconn, hmember, hfull, htokens⟩ := hinv.new_of_next hx
  have hmem : ∀ e, e ≠ .client p.cycle →
      (e ∈ (afterTriggerOf d x y .result p.cycle ω).committed y ↔ e ∈ x.committed y) :=
    fun e he => mem_afterTriggerOf.trans (or_iff_left he)
  have hself : .client p.cycle ∈ (afterTriggerOf d x y .result p.cycle ω).committed y :=
    mem_afterTriggerOf.mpr (Or.inr rfl)
  have hdone : ∀ k, k ≠ .result → ∀ A,
      (afterTriggerOf d x y .result p.cycle ω).token k y.1 A p.cycle ≠ .done := fun k hk A => by
    rw [Ne, done_afterTriggerOf (k := .result) hinv hx]
    exact htokens k hk A
  have hslots : ∀ A ≠ y.1, (fetchingStatus (d.env y) m p
      (.committed p)).rgMsgRound3FetchResponse A = none := fun A hA => Function.update_of_ne hA _ _
  have hown : (fetchingStatus (d.env y) m p (.committed p)).rgMsgRound3FetchResponse y.1
      = some (getRound3Response d.host p (fullCommitMessage 0 0 0) (UInt16.ofNat y.2) p.cycle) := by
    rw [← getRound3Response_certificate hcert]
    exact Function.update_self ..
  have hnot : ∀ e, e ≠ .client p.cycle → e ∉ x.committed y →
      e ∉ (afterTriggerOf d x y .result p.cycle ω).committed y := fun e he h => by
    rwa [hmem e he]
  have hall : ¬ d.layout.AllOthers y.1 fun A =>
      .fetched p.cycle A ∈ (afterTriggerOf d x y .result p.cycle ω).committed y := by
    intro hall
    obtain ⟨A, hA⟩ := hall.exists
    exact hnot _ (by simp) (hfetched A) hA
  refine {
    client := hself
    still := ?_
    ready := fun k hk => ?_
    missing := fun k hk => ?_
    results := fun A hA => ?_
    carries := fun A r hr => ?_
    unwrapped := fun A hA r hr => absurd (hr.symm.trans (hslots A hA)) (by simp)
    connectivity := fun A hA => iff_of_false Bool.false_ne_true fun h => hdone _ (by simp) A h.2
    membership := fun A hA => iff_of_false Bool.false_ne_true fun h => hdone _ (by simp) A h.2
    ones := fun A m hm => absurd hm (by simp [fetchingStatus, clientStatus, CycleStatus.enter,
      CycleStatus.committed, CycleStatus.active, CycleStatus.waitingForPreprepare, CycleStatus.new])
    collecting := fun _ => ⟨rfl, rfl, ?_, rfl⟩
    collected := fun hc => absurd hc hall
    connecting := fun hc => absurd hc (hnot _ (by simp) hconn)
    joining := fun hc => absurd hc (hnot _ (by simp) hmember) }
  · unfold closer
    rw [if_neg (by omega)]
    exact hnot _ (by simp) hfull
  · cases k with
    | result =>
      refine ⟨p, hp, hentry, ?_⟩
      show ((fetchingStatus (d.env y) m p (.committed p)).rgMsgRound3FetchResponse y.1).map _ = _
      rw [hown]
      rfl
    | connectivity => exact absurd hk (hnot _ (by simp [FetchKind.trigger]) hconn)
    | membership => exact absurd hk (hnot _ (by simp [FetchKind.trigger]) hmember)
  · cases k with
    | result => exact absurd hself hk
    | connectivity => rfl
    | membership => rfl
  · rw [hslots A hA]
    exact iff_of_false Bool.false_ne_true (hnot _ (by simp) (hfetched A))
  · by_cases hA : A = y.1
    · subst hA
      rw [hown, Option.some.injEq] at hr
      obtain ⟨q, hq, rfl⟩ := hq
      refine ⟨q, hissued _ hq, ?_, ?_⟩
      · rw [← entryOf_copy]
        exact hentry
      · rw [← hr]
        exact q.sentBytes_copy d.host
    · rw [hslots A hA] at hr
      exact absurd hr (by simp)
  · refine (countOthers_zero fun A hA => ?_).symm
    rw [hslots A hA]
    simp

/-! ## The branches -/

/-- A client Preprepare has more bytes in memory than its fields and one participant. -/
theorem size_client (hfits : d.conf.Fits) (hn : 0 < d.conf.numSL b) {q : MessageRound2Preprepare}
    (hq : Numbered (d.clientProposal b c) q) : 28 ≤ q.header.getMessageSize := by
  rw [hq.header, getMessageSize_clientProposal hfits hn]
  have := (hfits.client b hn).1
  simp only [sizeofMessageHeader]
  omega

theorem envoyAt_sentBytes (hfits : d.conf.Fits) (hn : 0 < d.conf.numSL b)
    {q : MessageRound2Preprepare} (hq : Numbered (d.clientProposal b c) q) :
    envoyAt d.host (q.sentBytes d.host) = d.layout.envoy b c := by
  have hsize := size_client hfits hn hq
  rw [← envoyOf_clientProposal hq]
  unfold envoyAt envoyOf MessageRound2Preprepare.sentBytes
  rw [u16At_take (by simp only [preprepareNumOfRound3ParticipantsOffset]; omega),
    u16At_take (by simp only [participantsOffset]; omega), u16At_numOfRound3Participants,
    u16At_participants]

theorem sub_one_lt {c : UInt16} (hne : c ≠ 0) : c - 1 < c := by
  have hpos : c.toNat ≠ 0 := fun h => hne (UInt16.toNat_inj.mp h)
  have hle : (1 : UInt16) ≤ c := by
    rw [UInt16.le_iff_toNat_le]
    show 1 ≤ c.toNat
    omega
  rw [UInt16.lt_iff_toNat_lt, UInt16.toNat_sub_of_le _ _ hle]
  show c.toNat - 1 < c.toNat
  omega

/-- The request for a client cycle passes its assertion. -/
theorem getRound3RequestCheck_client (hfits : d.conf.Fits) (hn : 0 < d.conf.numSL b)
    {q : MessageRound2Preprepare} (hq : Numbered (d.clientProposal b c) q) (hne : c ≠ 0)
    {r : MessageRound3FetchResponse} (hr : r.entirePreprepareMsg = q.sentBytes d.host)
    (hcycle : r.cycle = c) : getRound3RequestCheck (getRound3Request d.host r) = true := by
  have hsize := size_client hfits hn hq
  have hlast : q.lastcycle = c - 1 := by
    rw [← hq]
    rfl
  have hc : q.cycle = c := by
    rw [← hq]
    rfl
  unfold getRound3RequestCheck getRound3Request
  dsimp only
  rw [hr, hcycle]
  unfold MessageRound2Preprepare.sentBytes
  rw [u16At_take (by simp only [preprepareLastcycleOffset]; omega),
    u16At_take (by simp only [preprepareCycleOffset]; omega), u16At_cycle, u16At_lastcycle,
    hlast, hc, decide_eq_true_eq]
  exact ⟨sub_one_lt hne, UInt16.le_refl c⟩

/-- The own result in the status of a cycle names the envoy. -/
theorem Commits.own_result (hc : Commits d σ σ' y e ω before m p) (h : Round3Inv d σ token)
    (hfits : d.conf.Fits) (hstatus : StatusOk d σ (exchange σ token) y c status) :
    ∃ r, status.rgMsgRound3FetchResponse y.1 = some r
      ∧ envoyAt d.host r.entirePreprepareMsg = d.layout.envoy y.1 c := by
  have hn : 0 < d.conf.numSL y.1 := Nat.lt_of_le_of_lt (Nat.zero_le _) hc.has.2
  obtain ⟨p', -, -, hanswer⟩ := hstatus.ready .result hstatus.client
  obtain ⟨r, hr, -⟩ := Option.map_eq_some_iff.mp hanswer
  obtain ⟨q, hq, hentry, hbytes⟩ := hstatus.carries y.1 r hr
  obtain ⟨ht, rfl⟩ := entryOf_client.mp hentry
  refine ⟨r, hr, ?_⟩
  rw [hbytes]
  exact envoyAt_sentBytes hfits hn ((h.issued y.1 q hq).client ht).1

section Branches

variable (h : Round3Inv d σ token) (h2 : Round2Ok d σ') (hfits : d.conf.Fits)
  (hc : Commits d σ σ' y e ω before m p)

include h h2 hfits hc

/-- **The local connectivity is committed.** -/
theorem Round3Inv.commit_localConnectivity (ht : p.requestType = requestTypeLocalConnectivity) :
    Keeps3 d σ y before (fullCommitBranch (d.env y) ω m p (.committed p) (beforeBranch p before.sl)
      (spawnRound2 (d.env y) ω)) := by
  have hentry : entryOf p = .localConnectivity p.cycle := by
    unfold entryOf
    rw [if_neg (by rw [ht]; decide), if_neg (by rw [ht]; decide), if_pos ht]
  have hnext : (exchange σ token).Next d.layout y (.localConnectivity p.cycle) :=
    hentry ▸ hc.next_entry
  obtain ⟨hN, status, hget, hstatus⟩ := hc.exists_status h fun c => by rw [hentry]; simp
  obtain ⟨r, hr, henvoy⟩ := hc.own_result h hfits hstatus
  have hslot : status.rgMsgRound3ConnectivityResponse y.1 = none :=
    Option.map_eq_none_iff.mp (hstatus.missing .connectivity (h.inv.next_notMem hnext))
  have hbranch : fullCommitLocalConnectivity (d.env y) ω m p (beforeBranch p before.sl)
      (spawnRound2 (d.env y) ω) = _ :=
    fullCommitLocalConnectivity_eq (show 1 < d.conf.numBG by omega) hget hr hslot
  refine hc.asks h h2 (k := .connectivity) hentry (hc.messages h hfits hentry) hN
    (hstatus.certify_connectivity h.inv hc.certificate hnext hentry) ?_
  have henvoy' : envoyAt (d.env y).host r.entirePreprepareMsg = d.layout.envoy y.1 p.cycle := henvoy
  rw [fullCommitBranch_localConnectivity ht, hbranch, henvoy',
    getRound3Response_certificate hc.certificate]
  rfl

/-- **The local membership is committed.** -/
theorem Round3Inv.commit_localMembership (ht : p.requestType = requestTypeLocalMembership) :
    Keeps3 d σ y before (fullCommitBranch (d.env y) ω m p (.committed p) (beforeBranch p before.sl)
      (spawnRound2 (d.env y) ω)) := by
  have hentry : entryOf p = .localMembership p.cycle := by
    unfold entryOf
    rw [if_neg (by rw [ht]; decide), if_neg (by rw [ht]; decide), if_neg (by rw [ht]; decide),
      if_pos ht]
  have hnext : (exchange σ token).Next d.layout y (.localMembership p.cycle) :=
    hentry ▸ hc.next_entry
  obtain ⟨hN, status, hget, hstatus⟩ := hc.exists_status h fun c => by rw [hentry]; simp
  obtain ⟨r, hr, henvoy⟩ := hc.own_result h hfits hstatus
  have hslot : status.rgMsgRound3MembershipResponse y.1 = none :=
    Option.map_eq_none_iff.mp (hstatus.missing .membership (h.inv.next_notMem hnext))
  have hbranch : fullCommitLocalMembership (d.env y) ω p (beforeBranch p before.sl)
      (spawnRound2 (d.env y) ω) = _ :=
    fullCommitLocalMembership_eq (show 1 < d.conf.numBG by omega) hget hr hslot
  have hones : (membershipResponse (d.env y).conf p.cycle).Ones d.conf.numBG := by
    rw [membershipResponse_eq_fake]
    exact ones_fakeMembershipResponse hfits y _ (by omega)
  refine hc.asks h h2 (k := .membership) hentry (hc.messages h hfits hentry) hN
    (hstatus.certify_membership h.inv hnext hentry hones) ?_
  have henvoy' : envoyAt (d.env y).host r.entirePreprepareMsg = d.layout.envoy y.1 p.cycle := henvoy
  rw [fullCommitBranch_localMembership ht, hbranch, henvoy']
  rfl

/-- **A client Preprepare is committed.** -/
theorem Round3Inv.commit_fromClient (ht : p.requestType = requestTypeFromClient) :
    Keeps3 d σ y before (fullCommitBranch (d.env y) ω m p (.committed p) (beforeBranch p before.sl)
      (spawnRound2 (d.env y) ω)) := by
  have hentry : entryOf p = .client p.cycle := entryOf_client.mpr ⟨ht, rfl⟩
  have hnext : (exchange σ token).Next d.layout y (.client p.cycle) := hentry ▸ hc.next_entry
  have hn : 0 < d.conf.numSL y.1 := Nat.lt_of_le_of_lt (Nat.zero_le _) hc.has.2
  obtain ⟨q, hq, hcopy⟩ := hc.copied
  obtain ⟨hnum, hzero⟩ := (h.issued y.1 q hq).client (by rw [← ht, hcopy]; rfl)
  have hpq : q.cycle = p.cycle := by
    rw [hcopy]
    rfl
  rw [hpq] at hnum hzero
  have hlast : p.lastcycle + 1 = p.cycle := by
    have hq : p.lastcycle = p.cycle - 1 := by
      rw [hcopy]
      show q.lastcycle = _
      rw [← hnum, hcopy]
      rfl
    rw [hq, UInt16.sub_add_cancel]
  have hget : before.sl.mapRound3Status p.cycle = none := by
    have hstatus := (SlOk.taken hc.toDispatch (h.sl y)).status p.cycle
    revert hstatus
    cases before.sl.mapRound3Status p.cycle with
    | none => exact fun _ => rfl
    | some status => exact fun hstatus => absurd hstatus.client (h.inv.next_notMem hnext)
  have hbytes : (getRound3Response d.host p m (UInt16.ofNat y.2) p.cycle).entirePreprepareMsg
      = q.sentBytes d.host := by
    rw [hcopy]
    exact q.sentBytes_copy d.host
  have hown : RCanopus.ownAnswer (d.env y) .result p = .round3FetchResponse
      (getRound3Response (d.env y).host p m (UInt16.ofNat (d.env y).conf.sLid) p.cycle) := by
    rw [getRound3Response_certificate hc.certificate]
    rfl
  have hmessages := hc.messages h hfits (k := .result) hentry
  by_cases hN : d.conf.numBG = 1
  · have hends : fullCommitFromClient (d.env y) ω m p (.committed p) (beforeBranch p before.sl)
        (spawnRound2 (d.env y) ω) = _ := fullCommitFromClient_ends hlast rfl rfl hget hN
    refine hc.ends h h2 (k := .result) hentry hmessages hN rfl (fun A hA => ?_)
      (by rw [fullCommitBranch_fromClient ht, hends, hown])
    obtain rfl : A = y.1 := by
      have := hc.has.1
      omega
    refine ⟨_, Function.update_self .., q, hq, ?_, hbytes⟩
    rw [← entryOf_copy, ← hcopy]
    exact hentry
  · have hN2 : 2 ≤ d.conf.numBG := by
      have := hc.has.1
      omega
    have hbranch : fullCommitFromClient (d.env y) ω m p (.committed p) (beforeBranch p before.sl)
        (spawnRound2 (d.env y) ω) = _ :=
      fullCommitFromClient_asks hlast rfl rfl hget hN
        (getRound3RequestCheck_client hfits hn hnum hzero hbytes rfl)
    have henvoy : envoyAt (d.env y).host (getRound3Response (d.env y).host p m
        (UInt16.ofNat (d.env y).conf.sLid) p.cycle).entirePreprepareMsg
        = d.layout.envoy y.1 p.cycle := by
      rw [show (getRound3Response (d.env y).host p m (UInt16.ofNat (d.env y).conf.sLid)
        p.cycle).entirePreprepareMsg = _ from hbytes]
      exact envoyAt_sentBytes hfits hn hnum
    refine hc.asks h h2 (k := .result) hentry hmessages hN2
      (statusAfter_client h.inv hnext hentry hc.certificate hN2 hc.copied) ?_
    rw [fullCommitBranch_fromClient ht, hbranch, henvoy, hown]
    rfl

end Branches

end RCanopus
