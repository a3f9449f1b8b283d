import RCanopus.Hybrid.Round3Trigger

/-!
# The commits of a cycle in the hybrid variant

What the status of a cycle is after each of the three triggers, and the branches of
`dispatcher_round2_fullCommit`.
-/

namespace RCanopus.Hybrid

open Cluster Gathering

variable {d : Deployment} {σ σ' : Cluster} {A b : Nat} {c : UInt16} {y z : Peer} {k : FetchKind}
  {e : QueueElement} {ω : Choice} {before : Node} {s : ConnManager} {x : Gathering}
  {token : FetchKind → Peer → Nat → UInt16 → Token} {p : MessageRound2Preprepare}
  {m : MessageRound2FullCommit} {status : CycleStatus}

/-! ## What is known of a commit -/

theorem Commits.messages (h : Round3Inv d σ token) (hfits : d.conf.Fits)
    (hc : Commits d σ σ' y e ω before m p) (hentry : entryOf p = k.trigger p.cycle) :
    TriggerMessages d σ y k p.cycle (ownAnswer (d.env y) k p) (requestOf (d.env y) k p m) := by
  have hhas := hc.dispatch.has
  have hbg := toNat_ofNat_bg hfits hhas.1
  have hsl := toNat_ofNat_sl hfits hhas
  obtain ⟨q, hq, hcopy⟩ := hc.copied
  have hproposal := h.issued y.1 q hq
  obtain ⟨hkey, hgood⟩ := hproposal.answer hfits hhas hq hcopy hentry
  have hhome : k = .result → p.bGid = UInt16.ofNat y.1 ∧ p.header.version = versionLatest := by
    rintro rfl
    rw [hcopy, entryOf_copy] at hentry
    rw [hcopy]
    exact ⟨hproposal.home (by rw [(entryOf_client.mp hentry).1]; simp), hproposal.version⟩
  refine ⟨hkey, ?_, ?_, fun z => .of_main (hgood z), fun z => ?_⟩
  · cases k with
    | result =>
      show some (FetchKind.result, p.bGid.toNat, p.cycle) = _
      rw [(hhome rfl).1, hbg]
    | _ =>
      show some (_, (UInt16.ofNat y.1).toNat, p.cycle) = _
      rw [hbg]
      rfl
  · cases k <;> exact congrArg some hsl
  · cases k with
    | result => exact (hhome rfl).2
    | connectivity => exact ⟨rfl, Or.inl rfl⟩
    | membership => exact ⟨rfl, Or.inr rfl⟩

/-- The status of the cycle of some news that is committed. -/
theorem Commits.exists_status (hc : Commits d σ σ' y e ω before m p) (h : Round3Inv d σ token)
    (hnews : entryOf p = k.follow p.cycle) : 2 ≤ d.conf.numBG
    ∧ ∃ status, before.sl.mapRound3Status p.cycle = some status
      ∧ StatusOk d σ (gathering σ token) y p.cycle status := by
  obtain ⟨hN, hclient, hopen⟩ :=
    h.inv.open_of_next (k := k) (c := p.cycle) (hnews ▸ hc.next_entry)
  have hN : 2 ≤ d.conf.numBG := hN
  refine ⟨hN, ?_⟩
  have hstatus := (SlOk.taken hc.dispatch (h.sl y)).status p.cycle
  revert hstatus
  cases before.sl.mapRound3Status p.cycle with
  | some status => exact fun hstatus => ⟨status, rfl, hstatus⟩
  | none =>
    intro hstatus
    unfold StatusAt closer at hstatus
    rw [if_neg (by omega)] at hstatus
    exact (hstatus.elim (fun hc => hc hclient) hopen).elim

/-- The own result in the status of a cycle names the envoy. -/
theorem Commits.own_result (hc : Commits d σ σ' y e ω before m p) (h : Round3Inv d σ token)
    (hfits : d.conf.Fits) (hstatus : StatusOk d σ (gathering σ token) y c status) :
    ∃ r, status.rgMsgRound3FetchResponse y.1 = some r
      ∧ envoyAt d.host r.entirePreprepareMsg = d.layout.envoy y.1 c := by
  have hn : 0 < d.conf.numSL y.1 := Nat.lt_of_le_of_lt (Nat.zero_le _) hc.dispatch.has.2
  obtain ⟨r, hr⟩ := Option.isSome_iff_exists.mp hstatus.own_result
  obtain ⟨q, hq, hentry, hbytes⟩ := hstatus.carries y.1 r hr
  obtain ⟨ht, rfl⟩ := entryOf_client.mp hentry
  refine ⟨r, hr, ?_⟩
  rw [hbytes]
  exact envoyAt_sentBytes hfits hn ((h.issued y.1 q hq).client ht).1

/-! ## The new statuses -/

theorem mem_afterTriggerOf {e : Entry} : e ∈ (afterTriggerOf d x y k c ω).committed y
    ↔ e ∈ x.committed y ∨ e = k.trigger c := afterCommit_mem

section Certify

variable (h : StatusOk d σ x y p.cycle status) (hinv : x.Inv d.layout)
  (hx : x.Next d.layout y (k.trigger p.cycle))

include hinv hx

theorem held_afterTriggerOf (k' : FetchKind) (A : Nat) (c' : UInt16) :
    held d.layout (afterTriggerOf d x y k p.cycle ω).token k' y A c' = .done
      ↔ held d.layout x.token k' y A c' = .done :=
  held_done_congr (hinv.triggerToken_done hx)

/-- The leader has taken no answer before it has triggered the request. -/
theorem Gathering.Inv.not_taken (hy : y.2 = 0) : held d.layout x.token k y A p.cycle ≠ .done := by
  intro hdone
  obtain ⟨b, i⟩ := y
  obtain rfl : i = 0 := hy
  exact hinv.next_notMem hx (hinv.taken k b A p.cycle hdone)

include h

/-- **What a certificate leaves of a status.** The kind is one of the two later ones. -/
theorem StatusOk.certify (hk : k ≠ .result)
    (hconn : Complete d x y .result p.cycle) {status' : CycleStatus}
    (hentry : entryOf p = k.trigger p.cycle)
    (hown : ownResponse (d.env y).conf k status' = some (ownAnswer (d.env y) k p))
    (hothers : ∀ k' ≠ k, ownResponse (d.env y).conf k' status'
      = ownResponse (d.env y).conf k' status)
    (hfilled : ∀ k', ∀ A ≠ y.1,
      CycleStatus.filled status' k' A = CycleStatus.filled status k' A)
    (hresults : status'.rgMsgRound3FetchResponse = status.rgMsgRound3FetchResponse)
    (hones : ∀ A m, status'.rgMsgRound3MembershipResponse A = some m → m.Ones d.conf.numBG)
    (hconnecting : k = .connectivity → status'.In .round3WaitingForReplicatedConnectivity
      .round3ConnectivityResponse 0 (d.conf.numBG - 1))
    (hjoining : k = .membership → status'.In .round3WaitingForReplicatedMembership
      .round3MembershipResponse 0 (d.conf.numBG - 1)) :
    StatusAfter d σ (afterTriggerOf d x y k p.cycle ω) y p status' := by
  intro σ' hissued hcommitted hp
  have hold : StatusOk d σ' x y p.cycle status :=
    h.congr hissued hcommitted (fun _ _ => Iff.rfl) fun _ _ _ => Iff.rfl
  have hmem : ∀ e, e ≠ k.trigger p.cycle →
      (e ∈ (afterTriggerOf d x y k p.cycle ω).committed y ↔ e ∈ x.committed y) :=
    fun e he => mem_afterTriggerOf.trans (or_iff_left he)
  have hself : k.trigger p.cycle ∈ (afterTriggerOf d x y k p.cycle ω).committed y :=
    mem_afterTriggerOf.mpr (Or.inr rfl)
  have hheld : ∀ k' A, held d.layout (afterTriggerOf d x y k p.cycle ω).token k' y A p.cycle
      = .done ↔ held d.layout x.token k' y A p.cycle = .done := fun k' A =>
    held_afterTriggerOf hinv hx k' A p.cycle
  have hall : Complete d (afterTriggerOf d x y k p.cycle ω) y .result p.cycle :=
    hconn.imp fun A => (hheld .result A).mpr
  -- no slot of the kind is filled yet
  have hempty : countOthers d.conf.numBG y.1 (CycleStatus.filled status' k) = 0 :=
    countOthers_zero fun A hA => by
      rw [hfilled k A hA, Ne, hold.filled k A hA]
      exact fun hc => hinv.not_taken hx (hc.1.resolve_left hk) hc.2
  have hclient : k.trigger p.cycle ≠ .client p.cycle := by
    cases k with
    | result => exact absurd rfl hk
    | _ => simp [FetchKind.trigger]
  have hcloser : closer d.conf.numBG p.cycle ≠ k.trigger p.cycle := by
    have hN : 2 ≤ d.conf.numBG := hconn.1
    exact closer_ne_trigger hN p.cycle
  refine {
    client := (hmem _ hclient.symm).mpr hold.client
    still := (hmem _ hcloser).not.mpr hold.still
    ready := fun k' hk' => ?_
    missing := fun k' hk' => ?_
    filled := fun k' A hA => ?_
    carries := fun A r hr => hold.carries A r (hresults ▸ hr)
    ones := hones
    collecting := fun hc => absurd hall hc
    collected := fun _ hc => ?_
    connecting := fun hl hc => ?_
    joining := fun hc => ?_ }
  · by_cases hkk : k' = k
    · subst hkk
      exact ⟨p, hp, hentry, hown⟩
    · have hne : k'.trigger p.cycle ≠ k.trigger p.cycle :=
        fun he => hkk (FetchKind.trigger_inj he).1
      rw [hothers k' hkk]
      exact hold.ready k' ((hmem _ hne).mp hk')
  · by_cases hkk : k' = k
    · subst hkk
      exact absurd hself hk'
    · have hne : k'.trigger p.cycle ≠ k.trigger p.cycle :=
        fun he => hkk (FetchKind.trigger_inj he).1
      rw [hothers k' hkk]
      exact hold.missing k' ((hmem _ hne).not.mp hk')
  · rw [hfilled k' A hA, hold.filled k' A hA, hheld]
  · cases k with
    | result => exact absurd rfl hk
    | connectivity => exact absurd hself hc
    | membership =>
      exact absurd ((hmem _ (by simp [FetchKind.trigger])).mpr
        (hinv.next_needs hx (.follow .connectivity p.cycle))) hc
  · cases k with
    | result => exact absurd rfl hk
    | connectivity =>
      rw [hempty]
      exact hconnecting rfl
    | membership => exact absurd hself hc
  · cases k with
    | result => exact absurd rfl hk
    | connectivity =>
      have hmember := (hmem _ (by simp [FetchKind.trigger])).mp hc
      exact absurd (hinv.needs_committed hx.lt hmember (.follow .connectivity p.cycle))
        (hinv.next_notMem hx)
    | membership =>
      rw [hempty]
      exact hjoining rfl

end Certify

/-! ### A new cycle -/

/-- Nothing has come for a client cycle that is new to the SL. -/
theorem Gathering.Inv.new_of_next {L : Layout} (hinv : x.Inv L) (hx : x.Next L y (.client c)) :
    (∀ k : FetchKind, k ≠ .result → k.trigger c ∉ x.committed y) ∧ .fullMembership c ∉ x.committed y
      ∧ ∀ k, k = .result ∨ y.2 = 0 → ∀ A, held L x.token k y A c ≠ .done := by
  have hnew := hinv.next_notMem hx
  have htrigger : ∀ k : FetchKind, k ≠ .result → k.trigger c ∉ x.committed y := fun k hk he =>
    hnew (hinv.client_behind hx.lt hk he hx.lt)
  refine ⟨htrigger, fun he => ?_, fun k hk A hdone => ?_⟩
  · exact htrigger .membership (by simp) (hinv.needs_committed hx.lt he (.follow .membership c))
  · by_cases hresult : k = .result
    · subst hresult
      have hidle : x.token .result y A c = .idle := hinv.idle_of_next (k := .result) hx
      have hdone : x.token .result y A c = .done := hdone
      rw [hidle] at hdone
      exact Token.noConfusion hdone
    · obtain ⟨b, i⟩ := y
      obtain rfl : i = 0 := hk.resolve_left hresult
      exact htrigger k hresult (hinv.taken k b A c hdone)

/-- **The status when a cycle enters round 3**, and there are other BGs. -/
theorem statusAfter_client (hinv : x.Inv d.layout) (hx : x.Next d.layout y (.client p.cycle))
    (hentry : entryOf p = .client p.cycle) (hcert : m.combinedSignature = zeroSignature)
    (hN : 2 ≤ d.conf.numBG) (hq : ∃ q ∈ issued σ y.1, p = q.copy) :
    StatusAfter d σ (afterTriggerOf d x y .result p.cycle ω) y p
      (fetchingStatus (d.env y) m p (.committed p)) := by
  intro σ' hissued hcommitted hp
  obtain ⟨htrigger, hfull, htokens⟩ := hinv.new_of_next hx
  have hmem : ∀ e, e ≠ .client p.cycle →
      (e ∈ (afterTriggerOf d x y .result p.cycle ω).committed y ↔ e ∈ x.committed y) :=
    fun e he => mem_afterTriggerOf.trans (or_iff_left he)
  have hself : .client p.cycle ∈ (afterTriggerOf d x y .result p.cycle ω).committed y :=
    mem_afterTriggerOf.mpr (Or.inr rfl)
  have hdone : ∀ k, k = .result ∨ y.2 = 0 → ∀ A,
      held d.layout (afterTriggerOf d x y .result p.cycle ω).token k y A p.cycle ≠ .done :=
    fun k hk A hc => htokens k hk A
      ((held_afterTriggerOf (k := .result) hinv hx k A p.cycle).mp hc)
  have hslots : ∀ A ≠ y.1, (fetchingStatus (d.env y) m p
      (.committed p)).rgMsgRound3FetchResponse A = none := fun A hA => Function.update_of_ne hA _ _
  have hown : (fetchingStatus (d.env y) m p (.committed p)).rgMsgRound3FetchResponse y.1
      = some (getRound3Response d.host p (fullCommitMessage 0 0 0) (UInt16.ofNat y.2) p.cycle) := by
    rw [← getRound3Response_certificate hcert]
    exact Function.update_self ..
  have hnot : ∀ k : FetchKind, k ≠ .result →
      k.trigger p.cycle ∉ (afterTriggerOf d x y .result p.cycle ω).committed y := fun k hk => by
    have hne : k.trigger p.cycle ≠ FetchKind.result.trigger p.cycle :=
      fun he => hk (FetchKind.trigger_inj he).1
    rw [hmem _ hne]
    exact htrigger k hk
  refine {
    client := hself
    still := ?_
    ready := fun k hk => ?_
    missing := fun k hk => ?_
    filled := fun k A hA => ?_
    carries := fun A r hr => ?_
    ones := fun A m hm => absurd hm (by simp [fetchingStatus, clientStatus, CycleStatus.enter,
      CycleStatus.committed, CycleStatus.active, CycleStatus.waitingForPreprepare, CycleStatus.new])
    collecting := fun _ => ⟨rfl, rfl, rfl, rfl⟩
    collected := fun hc => ?_
    connecting := fun hc => absurd hc (hnot .connectivity (by simp))
    joining := fun hc => absurd hc (hnot .membership (by simp)) }
  · unfold closer
    rw [if_neg (by omega), hmem _ (by simp)]
    exact hfull
  · by_cases hresult : k = .result
    · subst hresult
      refine ⟨p, hp, hentry, ?_⟩
      show ((fetchingStatus (d.env y) m p (.committed p)).rgMsgRound3FetchResponse y.1).map _ = _
      rw [hown]
      rfl
    · exact absurd hk (hnot k hresult)
  · cases k with
    | result => exact absurd hself hk
    | connectivity => rfl
    | membership => rfl
  · refine iff_of_false ?_ fun hc => hdone k hc.1 A hc.2
    cases k with
    | result =>
      show ¬ ((fetchingStatus (d.env y) m p
        (.committed p)).rgMsgRound3FetchResponse A).isSome = true
      rw [hslots A hA]
      exact Bool.false_ne_true
    | _ => exact Bool.false_ne_true
  · by_cases hA : A = y.1
    · subst hA
      rw [hown, Option.some.injEq] at hr
      obtain ⟨q, hq, rfl⟩ := hq
      refine ⟨q, hissued _ hq, ?_, ?_⟩
      · rw [← entryOf_copy]
        exact hentry
      · rw [← hr]
        exact q.sentBytes_copy d.host
    · rw [hslots A hA] at hr
      exact absurd hr (by simp)
  · obtain ⟨A, hA⟩ := hc.exists
    exact absurd hA (hdone .result (Or.inl rfl) A)

/-! ## The branches -/

theorem fullCommitBranch_fromClient {env : Env} {common : ConnManager → Outcome}
    (h : p.requestType = requestTypeFromClient) :
    fullCommitBranch env ω m p status s common
      = fullCommitFromClient env ω m p status s common := if_pos h

/-- The branches for the membership are those of `ConnManager.cpp`. -/
theorem fullCommitBranch_main {env : Env} {common : ConnManager → Outcome}
    (hclient : p.requestType ≠ requestTypeFromClient)
    (hconn : p.requestType ≠ requestTypeLocalConnectivity) :
    fullCommitBranch env ω m p status s common
      = RCanopus.fullCommitBranch env ω m p status s common := by
  unfold fullCommitBranch RCanopus.fullCommitBranch
  rw [if_neg hclient, if_neg hclient, if_neg hconn, if_neg hconn]

theorem fullCommitBranch_localConnectivity {env : Env} {common : ConnManager → Outcome}
    (h : p.requestType = requestTypeLocalConnectivity)
    (hget : s.mapRound3Status p.cycle = some status)
    (hstate : status.state = .round3WaitingForLocalConnectivity) {status' : CycleStatus} :
    fullCommitBranch env ω m p status' s common
      = RCanopus.fullCommitLocalConnectivity env ω m p s common := by
  unfold fullCommitBranch
  rw [if_neg (by rw [h]; decide), if_neg (by rw [h]; decide), if_pos h]
  unfold fullCommitLocalConnectivity
  rw [hget]
  dsimp only
  rw [hstate, show (CycleState.round3WaitingForLocalConnectivity
    == .round3WaitingForLocalConnectivity) = true from rfl, debugThrowElseReturnVoid_true]

section Client

variable {env : Env} {common : ConnManager → Outcome} (hcycle : p.lastcycle + 1 = p.cycle)
  (hslot : status.rgMsgRound3FetchResponse env.conf.bGid = none)
  (hstate : status.state = .round2Committed) (hnew : s.mapRound3Status p.cycle = none)

include hcycle hslot hstate hnew

/-- A client Preprepare that skips no cycle enters round 3. -/
theorem fullCommitFromClient_eq :
    fullCommitFromClient env ω m p status s common
      = (envoyRound3SendFetchRequest env ω p.cycle
          (respond .result p.cycle (.round3FetchResponse
            (getRound3Response env.host p m (UInt16.ofNat env.conf.sLid) p.cycle))
            (enterRound3 env m p status s))).andThen common := by
  have hnew' : ∀ st, ({ s with
      pTemporaryStorageOfPreprepare := none
      pRound2CurrentStatus := st } : ConnManager).mapRound3Status p.cycle = none := fun _ => hnew
  have hget : (enterRound3 env m p status s).mapRound3Status p.cycle
      = some (clientStatus env m p status) := Function.update_self ..
  have hresponse : ownResponse env.conf .result (clientStatus env m p status)
      = some (.round3FetchResponse
          (getRound3Response env.host p m (UInt16.ofNat env.conf.sLid) p.cycle)) := by
    simp [ownResponse, clientStatus]
  have hrespond : round3RespondToPendingFetchRequests env p.cycle (enterRound3 env m p status s)
      = .ok (respond .result p.cycle (.round3FetchResponse
          (getRound3Response env.host p m (UInt16.ofNat env.conf.sLid) p.cycle))
          (enterRound3 env m p status s)) := by
    unfold round3RespondToPendingFetchRequests
    rw [hget]
    exact (if_neg fun h => h hstate).trans (respondToPending_eq hresponse)
  unfold fullCommitFromClient
  rw [hcycle, Nat.sub_self]
  unfold skipCycles
  rw [Outcome.andThen_ok]
  dsimp only
  rw [hslot, Option.isNone_none, debugThrowElseReturnVoid_true,
    hnew' (some (clientStatus env m p status)), Option.isNone_none, debugThrow_true]
  exact congrArg (Outcome.andThen · _) hrespond

/-- A client Preprepare is committed, and the SL asks the other BGs. -/
theorem fullCommitFromClient_asks (hN : env.conf.numBG ≠ 1)
    (hcheck : getRound3RequestCheck (getRound3Request env.host
      (getRound3Response env.host p m (UInt16.ofNat env.conf.sLid) p.cycle)) = true) :
    fullCommitFromClient env ω m p status s common
      = common (ask env ω
          (.round3FetchRequest (getRound3Request env.host
            (getRound3Response env.host p m (UInt16.ofNat env.conf.sLid) p.cycle)))
          (afterTrigger .result p.cycle (fetchingStatus env m p status)
            (.round3FetchResponse
              (getRound3Response env.host p m (UInt16.ofNat env.conf.sLid) p.cycle))
            s)) := by
  have hget : (respond .result p.cycle (.round3FetchResponse
      (getRound3Response env.host p m (UInt16.ofNat env.conf.sLid) p.cycle))
      (enterRound3 env m p status s)).mapRound3Status p.cycle
      = some (clientStatus env m p status) := by
    rw [respond_mapRound3Status]
    exact clearRound2_setStatus
  have hown : (clientStatus env m p status).rgMsgRound3FetchResponse env.conf.bGid
      = some (getRound3Response env.host p m (UInt16.ofNat env.conf.sLid) p.cycle) :=
    Function.update_self ..
  have hstate' : (clientStatus env m p status).state = .round2Committed := hstate
  rw [fullCommitFromClient_eq hcycle hslot hstate hnew]
  unfold envoyRound3SendFetchRequest
  rw [hget]
  dsimp only
  rw [if_neg fun h => h hstate', if_neg hN, hown]
  dsimp only
  rw [hcheck, debugThrow_true, respond_setStatus, enterRound3, setStatus_clearRound2]
  rfl

/-- A client Preprepare of a single BG is committed, and its cycle ends. -/
theorem fullCommitFromClient_ends (hN : env.conf.numBG = 1) :
    fullCommitFromClient env ω m p status s common
      = common (commitCycle p.cycle
          ((clientStatus env m p status).enter .round3Committed .invalid 0)
          (afterTrigger .result p.cycle (clientStatus env m p status)
            (.round3FetchResponse
              (getRound3Response env.host p m (UInt16.ofNat env.conf.sLid) p.cycle)) s)) := by
  have hget : (respond .result p.cycle (.round3FetchResponse
      (getRound3Response env.host p m (UInt16.ofNat env.conf.sLid) p.cycle))
      (enterRound3 env m p status s)).mapRound3Status p.cycle
      = some (clientStatus env m p status) := by
    rw [respond_mapRound3Status]
    exact clearRound2_setStatus
  have hstate' : (clientStatus env m p status).state = .round2Committed := hstate
  rw [fullCommitFromClient_eq hcycle hslot hstate hnew]
  -- for a single BG the two programs do the same
  have hsame : ∀ s, s.mapRound3Status p.cycle = some (clientStatus env m p status) →
      envoyRound3SendFetchRequest env ω p.cycle s
        = RCanopus.envoyRound3SendFetchRequest env ω p.cycle s := by
    intro s hs
    unfold envoyRound3SendFetchRequest RCanopus.envoyRound3SendFetchRequest
    rw [hs]
    dsimp only
    rw [if_neg fun h => h hstate', if_pos hN, if_neg fun h => h hstate', if_pos hN]
  rw [hsame _ hget, envoyRound3SendFetchRequest_single hN hget hstate']
  rfl

end Client

/-! ## The commits -/

/-- The slots for the results of a cycle that ends. -/
theorem StatusOk.slots (h : StatusOk d σ x y c status) (hall : Complete d x y .result c) :
    ∀ A < d.conf.numBG, ∃ r, status.rgMsgRound3FetchResponse A = some r
      ∧ ∃ q ∈ issued σ A, entryOf q = .client c ∧ r.entirePreprepareMsg = q.sentBytes d.host := by
  intro A hA
  have hsome : (status.rgMsgRound3FetchResponse A).isSome = true := by
    by_cases hne : A = y.1
    · subst hne
      exact h.own_result
    · exact (h.filled .result A hne).mpr ⟨Or.inl rfl, hall.2 A hA hne⟩
  obtain ⟨r, hr⟩ := Option.isSome_iff_exists.mp hsome
  exact ⟨r, hr, h.carries A r hr⟩

section Commits

variable (h : Round3Inv d σ token) (h2 : Round2Ok d σ') (hfits : d.conf.Fits)
  (hc : Commits d σ σ' y e ω before m p)

include h h2 hfits hc

/-- **The full membership is committed**, and the cycle ends. -/
theorem Round3Inv.commit_fullMembership (ht : p.requestType = requestTypeFullMembership) :
    Keeps3 d σ y before (fullCommitBranch (d.env y) ω m p (.committed p) (beforeBranch p before.sl)
      (spawnRound2 (d.env y) ω)) := by
  have hout := hc.branch
  have hsl := SlOk.taken hc.dispatch (h.sl y)
  have hentry : entryOf p = .fullMembership p.cycle := by
    unfold entryOf
    rw [if_neg (by rw [ht]; decide), if_neg (by rw [ht]; decide), if_neg (by rw [ht]; decide),
      if_neg (by rw [ht]; decide)]
  have hnext : (gathering σ token).Next d.layout y (.fullMembership p.cycle) :=
    hentry ▸ hc.next_entry
  obtain ⟨hN, status, hget, hstatus⟩ := hc.exists_status h (k := .membership) hentry
  have hcloser : closer d.conf.numBG p.cycle = .fullMembership p.cycle := if_neg (by omega)
  have hmatrices : p.Matrices d.host d.conf.numBG := by
    obtain ⟨q, hq, rfl⟩ := hc.copied
    have hq := (h.issued y.1 q hq).full ht
    rwa [hq.framed.copy_eq]
  obtain ⟨hchecks, hend⟩ : (tallyVotes (d.env y).host (d.env y).conf.numBG p).1.checks = true
      ∧ (tallyVotes (d.env y).host (d.env y).conf.numBG p).2 = true :=
    tallyVotes_ones hfits.numBG_lt hmatrices
  have hget' : (beforeBranch p before.sl).mapRound3Status p.cycle = some status := hget
  rw [fullCommitBranch_main (by rw [ht]; decide) (by rw [ht]; decide),
    RCanopus.fullCommitBranch_fullMembership ht,
    fullCommitFullMembership_eq hget' hchecks hend] at hout ⊢
  have hclosed : closedCycle d.conf.numBG (entryOf p) = some p.cycle :=
    closedCycle_eq.mpr (hentry.trans hcloser.symm)
  have hs : CommitStep d σ y before p (commitCycle p.cycle
      (status.enter .round3Committed .invalid 0) (clearRound2 (beforeBranch p before.sl)))
      token token := by
    have hsent : ∀ z, sent y (commitCycle p.cycle (status.enter .round3Committed .invalid 0)
        (clearRound2 (beforeBranch p before.sl))).sendQueue z = 0 := fun z => by
      show sent y before.sl.sendQueue z = 0
      rw [hc.sendQueue, sent_nil]
    refine {
      juggleQueue := rfl
      nextCycle := rfl
      envoysRr := rfl
      queue := rfl
      history := ⟨[.round3Committed p.cycle (status.enter .round3Committed .invalid 0)],
        List.append_assoc .., rfl, rfl, rfl, ?_⟩
      status := fun c hne => Function.update_of_ne hne _ _
      pending := fun _ _ _ => rfl
      storage := ?_
      moved := fun _ _ _ _ _ => rfl
      done := fun _ _ _ _ => Iff.rfl
      elsewhere := fun _ _ _ _ _ => Iff.rfl
      requests := fun z k w c => by rw [hsent]; simp [countKey]
      responses := fun z k A c => by rw [hsent]; simp [countKey]
      good := fun z e he => by
        rw [hsent] at he
        exact absurd he (Multiset.notMem_zero e) }
    · rw [hclosed]
      rfl
    · rw [hclosed]
      rfl
  have hconn := h.inv.connectivity_committed (k := .membership) hnext.lt (by simp)
    (h.inv.next_needs hnext (.follow .membership p.cycle))
  have hidle : (commitCycle p.cycle (status.enter .round3Committed .invalid 0)
      (clearRound2 (beforeBranch p before.sl))).pRound2CurrentStatus = none := rfl
  refine (h.commit hc.dispatch hs hc.round2 ?_ ?_ (fun k => ?_) fun ev hev => ?_).spawned
    hc.dispatch h2 hout (by rw [hidle]; simp)
  · rw [hentry]
    exact h.inv.commit_fullMembership hnext
  · have hnone : (commitCycle p.cycle (status.enter .round3Committed .invalid 0)
        (clearRound2 (beforeBranch p before.sl))).mapRound3Status p.cycle = none :=
      Function.update_self ..
    rw [hnone]
    exact Or.inr (afterCommit_mem.mpr (Or.inr (hcloser.trans hentry.symm)))
  · exact (hsl.pending k p.cycle).congr fun _ => Iff.rfl
  · rcases List.mem_append.mp hev with hev | hev
    · rcases List.mem_append.mp hev with hev | hev
      · exact Or.inl hev
      · rw [List.mem_singleton] at hev
        subst hev
        exact Or.inr trivial
    · rw [List.mem_singleton] at hev
      subst hev
      refine Or.inr ⟨?_, fun A hA => ?_⟩
      · have hmem := List.mem_map_of_mem (f := entryOf) (hs.mem_committed hc.dispatch)
        rwa [hentry, ← hcloser] at hmem
      · obtain ⟨r, hr, q, hq, hcarries⟩ :=
          hstatus.slots (h.inv.all_results hnext.lt hconn hnext.lt) A hA
        refine ⟨r, hr, q, ?_, hcarries⟩
        rw [hs.issued_eq hc.dispatch]
        exact hq

/-- **The local connectivity is committed.** -/
theorem Round3Inv.commit_localConnectivity (ht : p.requestType = requestTypeLocalConnectivity) :
    Keeps3 d σ y before (fullCommitBranch (d.env y) ω m p (.committed p) (beforeBranch p before.sl)
      (spawnRound2 (d.env y) ω)) := by
  have hentry : entryOf p = .localConnectivity p.cycle := by
    unfold entryOf
    rw [if_neg (by rw [ht]; decide), if_neg (by rw [ht]; decide), if_pos ht]
  have hnext : (gathering σ token).Next d.layout y (.localConnectivity p.cycle) :=
    hentry ▸ hc.next_entry
  obtain ⟨hN, status, hget, hstatus⟩ := hc.exists_status h (k := .result) hentry
  obtain ⟨r, hr, henvoy⟩ := hc.own_result h hfits hstatus
  -- the Preprepare has passed the gate here, so all results are there
  have hall : Complete d (gathering σ token) y .result p.cycle :=
    h.inv.gate y p.cycle (hnext.accepted y.2 hnext.lt)
  have hstate : status.state = .round3WaitingForLocalConnectivity :=
    (hstatus.collected hall (h.inv.next_notMem hnext)).1
  have hslot : status.rgMsgRound3ConnectivityResponse y.1 = none :=
    Option.map_eq_none_iff.mp (hstatus.missing .connectivity (h.inv.next_notMem hnext))
  have hget' : (beforeBranch p before.sl).mapRound3Status p.cycle = some status := hget
  have hbranch : RCanopus.fullCommitLocalConnectivity (d.env y) ω m p (beforeBranch p before.sl)
      (spawnRound2 (d.env y) ω) = _ :=
    fullCommitLocalConnectivity_eq (show 1 < d.conf.numBG by omega) hget' hr hslot
  have henvoy' : envoyAt (d.env y).host r.entirePreprepareMsg = d.layout.envoy y.1 p.cycle := henvoy
  have hslots : ∀ A ≠ y.1, (connectivityStatus (d.env y) m p
      status).rgMsgRound3ConnectivityResponse A = status.rgMsgRound3ConnectivityResponse A :=
    fun A hA => Function.update_of_ne hA _ _
  have hafter : StatusAfter d σ (afterTriggerOf d (gathering σ token) y .connectivity p.cycle ω) y p
      (connectivityStatus (d.env y) m p status) := by
    refine hstatus.certify h.inv (k := .connectivity) hnext (by simp) hall hentry ?_
      (fun k' hk' => ?_) (fun k' A hA => ?_) rfl hstatus.ones (fun _ => ⟨rfl, rfl, rfl, rfl⟩)
      fun hk => absurd hk (by simp)
    · show (Function.update status.rgMsgRound3ConnectivityResponse y.1 _ y.1).map _ = _
      rw [Function.update_self, getRound3Response_certificate hc.certificate]
      rfl
    · cases k' with
      | connectivity => exact absurd rfl hk'
      | _ => rfl
    · cases k' with
      | connectivity =>
        show ((connectivityStatus (d.env y) m p
          status).rgMsgRound3ConnectivityResponse A).isSome = _
        rw [hslots A hA]
        rfl
      | _ => rfl
  refine hc.asks h h2 (k := .connectivity) hentry (hc.messages h hfits hentry) hN hafter
    (o := askOthers (d.env y) ω (d.layout.envoy y.1 p.cycle) _ _) ?_
    (askOthers_triggered (by simp) (by omega))
  rw [fullCommitBranch_localConnectivity ht hget' hstate, hbranch, henvoy',
    getRound3Response_certificate hc.certificate]
  rfl

/-- **The local membership is committed.** -/
theorem Round3Inv.commit_localMembership (ht : p.requestType = requestTypeLocalMembership) :
    Keeps3 d σ y before (fullCommitBranch (d.env y) ω m p (.committed p) (beforeBranch p before.sl)
      (spawnRound2 (d.env y) ω)) := by
  have hentry : entryOf p = .localMembership p.cycle := by
    unfold entryOf
    rw [if_neg (by rw [ht]; decide), if_neg (by rw [ht]; decide), if_neg (by rw [ht]; decide),
      if_pos ht]
  have hnext : (gathering σ token).Next d.layout y (.localMembership p.cycle) :=
    hentry ▸ hc.next_entry
  obtain ⟨hN, status, hget, hstatus⟩ := hc.exists_status h (k := .connectivity) hentry
  obtain ⟨r, hr, henvoy⟩ := hc.own_result h hfits hstatus
  have hconn := h.inv.next_needs hnext (.follow .connectivity p.cycle)
  have hall : Complete d (gathering σ token) y .result p.cycle :=
    h.inv.all_results hnext.lt hconn hnext.lt
  have hslot : status.rgMsgRound3MembershipResponse y.1 = none :=
    Option.map_eq_none_iff.mp (hstatus.missing .membership (h.inv.next_notMem hnext))
  have hget' : (beforeBranch p before.sl).mapRound3Status p.cycle = some status := hget
  have hbranch : fullCommitLocalMembership (d.env y) ω p (beforeBranch p before.sl)
      (spawnRound2 (d.env y) ω) = _ :=
    fullCommitLocalMembership_eq (show 1 < d.conf.numBG by omega) hget' hr hslot
  have henvoy' : envoyAt (d.env y).host r.entirePreprepareMsg = d.layout.envoy y.1 p.cycle := henvoy
  have hslots : ∀ A ≠ y.1, (membershipStatus (d.env y) p
      status).rgMsgRound3MembershipResponse A = status.rgMsgRound3MembershipResponse A :=
    fun A hA => Function.update_of_ne hA _ _
  have hself : (membershipStatus (d.env y) p status).rgMsgRound3MembershipResponse y.1
      = some (membershipResponse (d.env y).conf p.cycle) := Function.update_self ..
  have hones : (membershipResponse (d.env y).conf p.cycle).Ones d.conf.numBG := by
    rw [membershipResponse_eq_fake]
    exact ones_fakeMembershipResponse hfits y _ (by omega)
  have hafter : StatusAfter d σ (afterTriggerOf d (gathering σ token) y .membership p.cycle ω) y p
      (membershipStatus (d.env y) p status) := by
    refine hstatus.certify h.inv (k := .membership) hnext (by simp) hall hentry ?_
      (fun k' hk' => ?_) (fun k' A hA => ?_) rfl (fun A m hm => ?_)
      (fun hk => absurd hk (by simp)) fun _ => ⟨rfl, rfl, rfl, rfl⟩
    · show ((membershipStatus (d.env y) p status).rgMsgRound3MembershipResponse y.1).map _ = _
      rw [hself]
      rfl
    · cases k' with
      | membership => exact absurd rfl hk'
      | _ => rfl
    · cases k' with
      | membership =>
        show ((membershipStatus (d.env y) p status).rgMsgRound3MembershipResponse A).isSome = _
        rw [hslots A hA]
        rfl
      | _ => rfl
    · by_cases hA : A = y.1
      · subst hA
        rw [hself, Option.some.injEq] at hm
        exact hm ▸ hones
      · rw [hslots A hA] at hm
        exact hstatus.ones A m hm
  refine hc.asks h h2 (k := .membership) hentry (hc.messages h hfits hentry) hN hafter
    (o := askOthers (d.env y) ω (d.layout.envoy y.1 p.cycle) _ _) ?_
    (askOthers_triggered (by simp) (by omega))
  rw [fullCommitBranch_main (by rw [ht]; decide) (by rw [ht]; decide),
    RCanopus.fullCommitBranch_localMembership ht, hbranch, henvoy']
  rfl

/-- **A client Preprepare is committed.** -/
theorem Round3Inv.commit_fromClient (ht : p.requestType = requestTypeFromClient) :
    Keeps3 d σ y before (fullCommitBranch (d.env y) ω m p (.committed p) (beforeBranch p before.sl)
      (spawnRound2 (d.env y) ω)) := by
  have hhas := hc.dispatch.has
  have hentry : entryOf p = .client p.cycle := entryOf_client.mpr ⟨ht, rfl⟩
  have hnext : (gathering σ token).Next d.layout y (.client p.cycle) := hentry ▸ hc.next_entry
  have hn : 0 < d.conf.numSL y.1 := Nat.lt_of_le_of_lt (Nat.zero_le _) hhas.2
  obtain ⟨q, hq, hcopy⟩ := hc.copied
  obtain ⟨hnum, hzero⟩ := (h.issued y.1 q hq).client (by rw [← ht, hcopy]; rfl)
  have hpq : q.cycle = p.cycle := by
    rw [hcopy]
    rfl
  rw [hpq] at hnum hzero
  have hlast : p.lastcycle + 1 = p.cycle := by
    have hq : p.lastcycle = p.cycle - 1 := by
      rw [hcopy]
      show q.lastcycle = _
      rw [← hnum, hcopy]
      rfl
    rw [hq, UInt16.sub_add_cancel]
  have hget : (beforeBranch p before.sl).mapRound3Status p.cycle = none := by
    have hstatus := (SlOk.taken hc.dispatch (h.sl y)).status p.cycle
    show before.sl.mapRound3Status p.cycle = none
    revert hstatus
    cases before.sl.mapRound3Status p.cycle with
    | none => exact fun _ => rfl
    | some status => exact fun hstatus => absurd hstatus.client (h.inv.next_notMem hnext)
  have hbytes : (getRound3Response d.host p m (UInt16.ofNat y.2) p.cycle).entirePreprepareMsg
      = q.sentBytes d.host := by
    rw [hcopy]
    exact q.sentBytes_copy d.host
  have hown : RCanopus.ownAnswer (d.env y) .result p = .round3FetchResponse
      (getRound3Response (d.env y).host p m (UInt16.ofNat (d.env y).conf.sLid) p.cycle) := by
    rw [getRound3Response_certificate hc.certificate]
    rfl
  have hmessages := hc.messages h hfits (k := .result) hentry
  by_cases hN : d.conf.numBG = 1
  · have hends : fullCommitFromClient (d.env y) ω m p (.committed p) (beforeBranch p before.sl)
        (spawnRound2 (d.env y) ω) = _ := fullCommitFromClient_ends hlast rfl rfl hget hN
    refine hc.ends h h2 (k := .result) hentry hmessages hN rfl (fun A hA => ?_)
      (by rw [fullCommitBranch_fromClient ht, hends, hown])
    obtain rfl : A = y.1 := by
      have := hhas.1
      omega
    refine ⟨_, Function.update_self .., q, hq, ?_, hbytes⟩
    rw [← entryOf_copy, ← hcopy]
    exact hentry
  · have hN2 : 2 ≤ d.conf.numBG := by
      have := hhas.1
      omega
    have hbranch : fullCommitFromClient (d.env y) ω m p (.committed p) (beforeBranch p before.sl)
        (spawnRound2 (d.env y) ω) = _ :=
      fullCommitFromClient_asks hlast rfl rfl hget hN
        (getRound3RequestCheck_client hfits hn hnum hzero hbytes rfl)
    have hask : ∀ s, ask (d.env y) ω (requestOf (d.env y) .result p m) s
        = askThem d y .result p.cycle ω (requestOf (d.env y) .result p m) s := fun s => by
      unfold askThem queries
      rw [if_pos ⟨holder_result, hN⟩]
      rfl
    refine hc.asks h h2 (k := .result) hentry hmessages hN2
      (statusAfter_client h.inv hnext hentry hc.certificate hN2 hc.copied) ?_ .asked
    rw [fullCommitBranch_fromClient ht, hbranch, Outcome.andThen_ok, ← hask, hown]
    rfl

/-- **Every commit** keeps the invariant. -/
theorem Round3Inv.commit_branch :
    Keeps3 d σ y before (fullCommitBranch (d.env y) ω m p (.committed p) (beforeBranch p before.sl)
      (spawnRound2 (d.env y) ω)) := by
  have hknown : p.requestType ∈ [requestTypeFromClient, requestTypeFetchedResult,
      requestTypeLocalConnectivity, requestTypeLocalMembership, requestTypeFullMembership] := by
    obtain ⟨q, hq, rfl⟩ := hc.copied
    exact (h.issued y.1 q hq).known
  simp only [List.mem_cons, List.not_mem_nil, or_false] at hknown
  rcases hknown with ht | ht | ht | ht | ht
  · exact h.commit_fromClient h2 hfits hc ht
  · -- the results are not replicated, so no leader proposes one
    have hentry : entryOf p = .fetched p.cycle p.bGid.toNat := by
      unfold entryOf
      rw [if_neg (by rw [ht]; decide), if_pos ht]
    have hnext : (gathering σ token).Next d.layout y (.fetched p.cycle p.bGid.toNat) :=
      hentry ▸ hc.next_entry
    obtain ⟨k, c, hk⟩ := h.inv.known y.1 _ (List.mem_append_left _ hnext.mem_log) (by simp)
    cases k <;> exact absurd hk (by simp [FetchKind.follow])
  · exact h.commit_localConnectivity h2 hfits hc ht
  · exact h.commit_localMembership h2 hfits hc ht
  · exact h.commit_fullMembership h2 hfits hc ht

end Commits

end RCanopus.Hybrid
