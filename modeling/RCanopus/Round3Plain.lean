import RCanopus.Round3Commit

/-!
# Commits that ask nobody

A fetched result fills a slot, and with the last one the leader queues the local connectivity. The
full membership ends the cycle.
-/

namespace RCanopus

open Cluster Exchange

variable {d : Deployment} {σ σ' : Cluster} {A : Nat} {c : UInt16} {y z : Peer} {k : FetchKind}
  {e : QueueElement} {ω : Choice} {before : Node} {s : ConnManager} {x : Exchange}
  {token : FetchKind → Nat → Nat → UInt16 → Token} {p : MessageRound2Preprepare}
  {m : MessageRound2FullCommit} {status : CycleStatus}

/-! ## Commits -/

/-- A dispatch that commits the copy of an issued Preprepare, the next of the log. -/
structure Commits (d : Deployment) (σ σ' : Cluster) (y : Peer) (e : QueueElement) (ω : Choice)
    (before : Node) (m : MessageRound2FullCommit) (p : MessageRound2Preprepare) : Prop
    extends Dispatch d σ σ' y e ω before where
  round2 : e.pMessage.isRound2 = true
  sendQueue : before.sl.sendQueue = []
  next : (exchange σ fun _ _ _ _ => .idle).Next d.layout y (entryOf p)
  copied : ∃ q ∈ issued σ y.1, p = q.copy
  certificate : m.combinedSignature = zeroSignature
  branch : dispatcherRound2 (d.env y) ω e before.sl
    = fullCommitBranch (d.env y) ω m p (.committed p) (beforeBranch p before.sl)
        (spawnRound2 (d.env y) ω)

theorem Commits.next_entry (h : Commits d σ σ' y e ω before m p) :
    (exchange σ token).Next d.layout y (entryOf p) :=
  ⟨h.next.lt, h.next.next, h.next.first⟩

/-- The status of a cycle that is in round 3. -/
theorem SlOk.exists_status (h : SlOk d σ x y s) (hclient : .client c ∈ x.committed y)
    (hopen : closer d.conf.numBG c ∉ x.committed y) :
    ∃ status, s.mapRound3Status c = some status ∧ StatusOk d σ x y c status := by
  have hstatus := h.status c
  revert hstatus
  cases s.mapRound3Status c with
  | none => exact fun hstatus => (hstatus.elim (fun hc => hc hclient) hopen).elim
  | some status => exact fun hstatus => ⟨status, rfl, hstatus⟩

/-- The status of the cycle of some news that is committed. -/
theorem Commits.exists_status (hc : Commits d σ σ' y e ω before m p) (h : Round3Inv d σ token)
    (hnews : ∀ c, entryOf p ≠ .client c) : 2 ≤ d.conf.numBG
    ∧ ∃ status, before.sl.mapRound3Status p.cycle = some status
      ∧ StatusOk d σ (exchange σ token) y p.cycle status := by
  have hnext : (exchange σ token).Next d.layout y (entryOf p) := hc.next_entry
  have hopen := h.inv.open_of_next hnext hnews
  rw [cycle_entryOf] at hopen
  obtain ⟨hN, hclient, hopen⟩ := hopen
  have hN : 2 ≤ d.conf.numBG := hN
  refine ⟨hN, (SlOk.taken hc.toDispatch (h.sl y)).exists_status hclient ?_⟩
  unfold closer
  rwa [if_neg (by omega)]

/-! ## A commit that sends nothing -/

/-- The entry that ends a cycle is none of the news in between. -/
theorem closer_ne_fetched {numBG : Nat} (c' : UInt16) : closer numBG c' ≠ .fetched c A := by
  unfold closer
  split <;> simp

theorem closer_ne_trigger {numBG : Nat} (hN : 2 ≤ numBG) (c' : UInt16) :
    closer numBG c' ≠ k.trigger c := by
  unfold closer
  rw [if_neg (by omega)]
  exact fun h => k.trigger_ne_fullMembership c c' h.symm

theorem afterCommit_mem {e e' : Entry} {queued : List Entry} :
    e' ∈ (afterCommit x y e queued token).committed y ↔ e' ∈ x.committed y ∨ e' = e := by
  show e' ∈ (x.commit y e).committed y ↔ _
  rw [commit_committed, if_pos rfl, List.mem_append, List.mem_singleton]

/-- The state before a branch, with some fields changed, where nothing is sent. -/
theorem commitStep_plain {queued : List MessageRound2Preprepare} (hsend : s.sendQueue = [])
    (hjuggle : s.juggleQueue = before.sl.juggleQueue)
    (hcycle : s.leaderRound2NextRcanopusCycle = before.sl.leaderRound2NextRcanopusCycle)
    (henvoys : s.leaderEnvoysRr = before.sl.leaderEnvoysRr)
    (hhistory : ∃ events, s.history = before.sl.history ++ .committed p :: events
      ∧ issuedOf events = [] ∧ committedOf events = []
      ∧ closedOf events = (closedCycle d.conf.numBG (entryOf p)).toList)
    (hqueue : s.pLeaderRound2PendingPreprepareRaw
      = before.sl.pLeaderRound2PendingPreprepareRaw ++ queued)
    (hleader : y.2 ≠ 0 → queued = [])
    (hstatus : ∀ c ≠ p.cycle, s.mapRound3Status c = before.sl.mapRound3Status c)
    (hpending : s.mapRound3PendingRequests = before.sl.mapRound3PendingRequests)
    (hstorage : s.pStorage = before.sl.pStorage ++ (closedCycle d.conf.numBG (entryOf p)).toList) :
    CommitStep d σ y before p queued s token token := by
  obtain ⟨events, hhistory, hissued, hcommitted, hclosed⟩ := hhistory
  refine {
    juggleQueue := hjuggle
    nextCycle := hcycle
    envoysRr := henvoys
    issued := ?_
    committed := ?_
    queue := hqueue
    leader := hleader
    status := hstatus
    pending := fun k c _ => by rw [hpending]
    storage := hstorage
    closed := ?_
    moved := fun _ _ _ _ _ => rfl
    done := fun _ _ _ _ => Iff.rfl
    elsewhere := fun _ _ _ _ _ => Iff.rfl
    requests := fun z k b c => by rw [hsend, sent_nil]; simp [countKey]
    responses := fun z k A c => by rw [hsend, sent_nil]; simp [countKey]
    good := fun z e he => by
      rw [hsend, sent_nil] at he
      exact absurd he (Multiset.notMem_zero e) }
  · rw [hhistory, issuedOf_append]
    show _ ++ issuedOf events = _
    rw [hissued, List.append_nil]
  · rw [hhistory, committedOf_append]
    show _ ++ p :: committedOf events = _
    rw [hcommitted]
  · rw [hhistory]
    unfold closedOf
    rw [List.filterMap_append]
    show _ ++ closedOf events = _
    rw [hclosed]

/-! ## Fetched results -/

/-- Storing a result fills one slot. -/
theorem CycleStatus.collect_slots (status : CycleStatus) (A : Nat)
    (r : MessageRound3FetchResponse) :
    (status.collect A r).rgMsgRound3FetchResponse
      = Function.update status.rgMsgRound3FetchResponse A (some r) := by
  unfold CycleStatus.collect
  split <;> rfl

/-- The other slots stay. -/
theorem CycleStatus.collect_others (status : CycleStatus) (A : Nat)
    (r : MessageRound3FetchResponse) : (status.collect A r).rgMsgRound3ConnectivityResponse
        = status.rgMsgRound3ConnectivityResponse
      ∧ (status.collect A r).rgMsgRound3MembershipResponse
        = status.rgMsgRound3MembershipResponse := by
  unfold CycleStatus.collect
  split <;> exact ⟨rfl, rfl⟩

/-- The own answers are in another slot. -/
theorem ownResponse_collect {conf : Config} {r : MessageRound3FetchResponse} (hA : A ≠ conf.bGid) :
    ownResponse conf k (status.collect A r) = ownResponse conf k status := by
  obtain ⟨hconn, hmem⟩ := status.collect_others A r
  unfold ownResponse
  cases k with
  | result =>
    dsimp only
    rw [status.collect_slots, Function.update_of_ne hA.symm]
  | connectivity =>
    dsimp only
    rw [hconn]
  | membership =>
    dsimp only
    rw [hmem]

section Fetched

variable {r : MessageRound3FetchResponse} {queued : List Entry}
  (h : StatusOk d σ x y c status) (hinv : x.Inv d.layout) (hx : x.Next d.layout y (.fetched c A))
  (hA : A < d.conf.numBG) (hne : A ≠ y.1)

include hinv hx hA hne

/-- While a result is missing, the connectivity is not certified. -/
theorem Exchange.Inv.missing_fetched : ¬ d.layout.AllOthers y.1
      (fun B => .fetched c B ∈ x.committed y) ∧ .localConnectivity c ∉ x.committed y :=
  ⟨fun hall => hinv.next_notMem hx (hall.2 A hA hne),
    fun hconn => hinv.next_notMem hx (hinv.needs_committed hx.lt hconn (.results c A hA hne))⟩

include h

/-- The counter after a result was stored. -/
theorem StatusOk.count_fetched (r : MessageRound3FetchResponse) :
    status.messageReceivedCounter + 1 = countOthers d.conf.numBG y.1
      fun B => (Function.update status.rgMsgRound3FetchResponse A (some r) B).isSome := by
  obtain ⟨hall, -⟩ := hinv.missing_fetched hx hA hne
  have hempty : (status.rgMsgRound3FetchResponse A).isSome = false := by
    rw [Bool.eq_false_iff, Ne, h.results A hne]
    exact hinv.next_notMem hx
  rw [(h.collecting hall).2.2.1]
  refine (countOthers_fill hA hne hempty ?_ fun B hB => ?_).symm
  · rw [Function.update_self]
    rfl
  · rw [Function.update_of_ne hB]

omit hinv hx hA hne in
/-- The slots after a result was stored. -/
theorem StatusOk.results_fetched (r : MessageRound3FetchResponse) : ∀ B ≠ y.1,
    (Function.update status.rgMsgRound3FetchResponse A (some r) B).isSome = true
      ↔ .fetched c B ∈ (afterCommit x y (.fetched c A) queued token).committed y := by
  intro B hB
  rw [afterCommit_mem]
  by_cases hBA : B = A
  · subst hBA
    simp
  · rw [Function.update_of_ne hBA, h.results B hB]
    simp [hBA]

/-- The counter says when all results are there. -/
theorem StatusOk.full_fetched (hy : y.1 < d.conf.numBG) (r : MessageRound3FetchResponse) :
    status.messageReceivedCounter + 1 = status.messageRequired
      ↔ d.layout.AllOthers y.1 fun B =>
        .fetched c B ∈ (afterCommit x y (.fetched c A) queued token).committed y := by
  obtain ⟨hall, -⟩ := hinv.missing_fetched hx hA hne
  rw [h.count_fetched hinv hx hA hne r, (h.collecting hall).2.2.2, countOthers_eq hy]
  constructor
  · refine fun hfull => ⟨?_, fun B hB hBne => (h.results_fetched r B hBne).mp (hfull B hB hBne)⟩
    show 2 ≤ d.conf.numBG
    omega
  · exact fun hfull B hB hBne => (h.results_fetched r B hBne).mpr (hfull.2 B hB hBne)

/-- The status after a result was stored. -/
theorem StatusOk.collect (hy : y.1 < d.conf.numBG)
    (hr : ∃ q ∈ issued σ A, entryOf q = .client c ∧ r.entirePreprepareMsg = q.sentBytes d.host)
    (hunwrap : ∃ p ∈ committed σ y, entryOf p = .fetched c A ∧ r = unwrapFetchedResult p) :
    StatusOk d σ (afterCommit x y (.fetched c A) queued x.token) y c (status.collect A r) := by
  obtain ⟨hall, hconn⟩ := hinv.missing_fetched hx hA hne
  obtain ⟨hothers, hothers'⟩ := status.collect_others A r
  have hfull : status.messageReceivedCounter + 1 = status.messageRequired
      ↔ d.layout.AllOthers y.1 fun B =>
        .fetched c B ∈ (afterCommit x y (.fetched c A) queued x.token).committed y :=
    h.full_fetched hinv hx hA hne hy r
  have hmem : ∀ e, e ≠ .fetched c A →
      (e ∈ (afterCommit x y (.fetched c A) queued x.token).committed y ↔ e ∈ x.committed y) :=
    fun e he => by
      rw [afterCommit_mem]
      exact or_iff_left he
  have hnone := (hmem (.localConnectivity c) (by simp)).not.mpr hconn
  have hnone' : .localMembership c
      ∉ (afterCommit x y (.fetched c A) queued x.token).committed y := by
    rw [hmem _ (by simp)]
    exact fun hc => hconn (hinv.needs_committed hx.lt hc (.localMembership c))
  refine {
    client := (hmem _ (by simp)).mpr h.client
    still := (hmem _ (closer_ne_fetched c)).not.mpr h.still
    ready := fun k hk => ?_
    missing := fun k hk => ?_
    results := ?_
    carries := fun B r' hr' => ?_
    unwrapped := fun B hB r' hr' => ?_
    connectivity := ?_
    membership := ?_
    ones := ?_
    collecting := fun hc => ?_
    collected := fun hc _ => ?_
    connecting := fun hc => absurd hc hnone
    joining := fun hc => absurd hc hnone' }
  · obtain ⟨p, hp, hentry, hanswer⟩ := h.ready k ((hmem _ (k.trigger_ne_fetched c c A)).mp hk)
    exact ⟨p, hp, hentry, (ownResponse_collect hne).trans hanswer⟩
  · refine (ownResponse_collect hne).trans (h.missing k ?_)
    exact (hmem _ (k.trigger_ne_fetched c c A)).not.mp hk
  · rw [status.collect_slots]
    exact h.results_fetched r
  · rw [status.collect_slots] at hr'
    by_cases hB : B = A
    · subst hB
      rw [Function.update_self, Option.some.injEq] at hr'
      exact hr' ▸ hr
    · rw [Function.update_of_ne hB] at hr'
      exact h.carries B r' hr'
  · rw [status.collect_slots] at hr'
    by_cases hBA : B = A
    · subst hBA
      rw [Function.update_self, Option.some.injEq] at hr'
      exact hr' ▸ hunwrap
    · rw [Function.update_of_ne hBA] at hr'
      exact h.unwrapped B hB r' hr'
  · rw [hothers]
    exact h.connectivity
  · rw [hothers']
    exact h.membership
  · rw [hothers']
    exact h.ones
  · rw [← hfull] at hc
    obtain ⟨hstate, hawaiting, -, hrequired⟩ := h.collecting hall
    have hcount := h.count_fetched hinv hx hA hne r
    unfold CycleStatus.collect
    rw [if_neg hc]
    exact ⟨hstate, hawaiting, hcount, hrequired⟩
  · rw [← hfull] at hc
    unfold CycleStatus.collect
    rw [if_pos hc]
    exact ⟨rfl, rfl, rfl, rfl⟩

end Fetched

/-! ## The branches -/

theorem afterCommit_nothing {e' : Entry} : afterCommit x y e' [] x.token = x.commit y e' := by
  rw [afterCommit_nil]
  rfl

/-- What the leader queues when the results are there. -/
theorem map_collectedNews {env : Env} : (collectedNews env p status).map entryOf
    = if status.messageReceivedCounter + 1 = status.messageRequired ∧ env.conf.isRound2Leader then
      [.localConnectivity p.cycle] else [] := by
  unfold collectedNews
  split
  · rw [List.map_singleton, entryOf_localConnectivityPreprepare]
  · rfl

/-- An SL commits a fetched result, and the leader queues the connectivity after the last. -/
theorem Exchange.Inv.commit_fetched_news {L : Layout} {leader : Bool} {counter required : Nat}
    (h : x.Inv L) (hx : x.Next L y (.fetched c A)) (hleader : leader = true ↔ y.2 = 0)
    (hfull : counter = required ↔ L.AllOthers y.1 fun B =>
      .fetched c B ∈ (x.commit y (.fetched c A)).committed y) :
    (afterCommit x y (.fetched c A)
      (if counter = required ∧ leader = true then [.localConnectivity c] else [])
      x.token).Inv L := by
  split
  · next hlast =>
    obtain ⟨b, i⟩ := y
    obtain rfl : i = 0 := hleader.mp hlast.2
    exact h.commit_fetched_last hx (hfull.mp hlast.1)
  · next hlast =>
    rw [afterCommit_nothing]
    exact h.commit_fetched hx fun hy hall => hlast ⟨hfull.mpr hall, hleader.mpr hy⟩

/-- The slots for the results of a cycle that ends. -/
theorem StatusOk.slots (h : StatusOk d σ x y c status)
    (hall : ∀ A < d.conf.numBG, A ≠ y.1 → .fetched c A ∈ x.committed y) :
    ∀ A < d.conf.numBG, ∃ r, status.rgMsgRound3FetchResponse A = some r
      ∧ ∃ q ∈ issued σ A, entryOf q = .client c ∧ r.entirePreprepareMsg = q.sentBytes d.host := by
  intro A hA
  have hsome : (status.rgMsgRound3FetchResponse A).isSome = true := by
    by_cases hne : A = y.1
    · subst hne
      obtain ⟨p, -, -, hanswer⟩ := h.ready .result h.client
      obtain ⟨r, hr, -⟩ := Option.map_eq_some_iff.mp hanswer
      have hr : status.rgMsgRound3FetchResponse y.1 = some r := hr
      rw [hr]
      rfl
    · exact (h.results A hne).mpr (hall A hA hne)
  obtain ⟨r, hr⟩ := Option.isSome_iff_exists.mp hsome
  exact ⟨r, hr, h.carries A r hr⟩

/-- Membership messages fit only for fewer BGs than the field for their number can count. -/
theorem Config.Fits.numBG_lt {conf : Config} (h : conf.Fits) : conf.numBG < 2 ^ 16 := by
  have hfit := h.membership
  by_contra hle
  have hsq : 2 ^ 16 * 2 ^ 16 ≤ conf.numBG * conf.numBG :=
    Nat.mul_le_mul (Nat.not_lt.mp hle) (Nat.not_lt.mp hle)
  have hcube : 2 ^ 16 * (2 ^ 16 * 2 ^ 16)
      ≤ conf.numBG * (sizeofMessageRound3FullMembership + conf.numBG * conf.numBG) :=
    Nat.mul_le_mul (Nat.not_lt.mp hle) (hsq.trans (Nat.le_add_left _ _))
  omega

section Branches

variable (h : Round3Inv d σ token) (h2 : Round2Ok d σ')
  (hc : Commits d σ σ' y e ω before m p)

include h h2 hc

/-- **A fetched result is committed.** -/
theorem Round3Inv.commit_fetchedResult (hfits : d.conf.Fits)
    (ht : p.requestType = requestTypeFetchedResult) :
    Keeps3 d σ y before (fullCommitBranch (d.env y) ω m p (.committed p) (beforeBranch p before.sl)
      (spawnRound2 (d.env y) ω)) := by
  have hout := hc.branch
  have hsl := SlOk.taken hc.toDispatch (h.sl y)
  have hentry : entryOf p = .fetched p.cycle p.bGid.toNat := by
    unfold entryOf
    rw [if_neg (by rw [ht]; decide), if_pos ht]
  have hnext : (exchange σ token).Next d.layout y (.fetched p.cycle p.bGid.toNat) :=
    hentry ▸ hc.next_entry
  have hdone := (h.inv.fetched y.1 p.cycle p.bGid.toNat).mp
    (List.mem_append_left _ hnext.mem_log)
  obtain ⟨hy, hA, hne, -⟩ := (h.inv.asked _ _ _ _).mp (by rw [hdone]; simp)
  obtain ⟨hN, status, hget, hstatus⟩ := hc.exists_status h fun c => by rw [hentry]; simp
  have hcarries : ∃ r ∈ Cluster.issued σ p.bGid.toNat, entryOf r = .client p.cycle
      ∧ (unwrapFetchedResult p).entirePreprepareMsg = r.sentBytes d.host := by
    obtain ⟨q, hq, rfl⟩ := hc.copied
    obtain ⟨r, hr, hrentry, hwraps⟩ := (h.issued y.1 q hq).fetched ht
    exact ⟨r, hr, hrentry, hwraps.copy.unwrap⟩
  obtain ⟨hall, -⟩ := h.inv.missing_fetched hnext hA hne
  have hslot : status.rgMsgRound3FetchResponse p.bGid.toNat = none := by
    rw [← Option.not_isSome_iff_eq_none, hstatus.results _ hne]
    exact h.inv.next_notMem hnext
  have hget' : (beforeBranch p before.sl).mapRound3Status p.cycle = some status := hget
  rw [fullCommitBranch_fetchedResult ht, fullCommitFetchedResult_eq hget' hslot
    (hstatus.collecting hall).2.1] at hout ⊢
  have hclosed : closedCycle d.conf.numBG (entryOf p) = none := by
    rw [hentry]
    rfl
  have hs : CommitStep d σ y before p (collectedNews (d.env y) p status)
      (afterNews p.cycle (status.collect p.bGid.toNat (unwrapFetchedResult p))
        (collectedNews (d.env y) p status) (beforeBranch p before.sl)) token token := by
    refine commitStep_plain hc.sendQueue rfl rfl rfl ⟨[], rfl, rfl, rfl, ?_⟩ rfl (fun hy => ?_)
      (fun c hne => Function.update_of_ne hne _ _) rfl ?_
    · rw [hclosed]
      rfl
    · unfold collectedNews
      rw [if_neg fun hl => hy (beq_iff_eq.mp hl.2)]
    · rw [hclosed]
      exact (List.append_nil _).symm
  have hfull : status.messageReceivedCounter + 1 = status.messageRequired
      ↔ d.layout.AllOthers y.1 fun B => .fetched p.cycle B
        ∈ (afterCommit (exchange σ token) y (.fetched p.cycle p.bGid.toNat) [] token).committed y :=
    hstatus.full_fetched h.inv hnext hA hne hy (unwrapFetchedResult p)
  refine (h.commit hc.toDispatch hs hc.round2 ?_ ?_ (fun k => ?_) (fun ev hev => ?_)
    fun q hq => ?_).spawned hc.toDispatch h2 hout rfl
  · rw [hentry, map_collectedNews]
    exact h.inv.commit_fetched_news hnext beq_iff_eq hfull
  · have hissued : ∀ b, Cluster.issued σ b ⊆ Cluster.issued (install y before (.ok _) σ) b :=
      fun b => by
        rw [hs.issued_eq hc.toDispatch]
        exact fun _ hq => hq
    rw [afterNews_status, hentry]
    refine (hstatus.congr hissued (hs.committed_subset hc.toDispatch) (fun _ _ => Iff.rfl)
      fun _ _ _ _ => Iff.rfl).collect h.inv hnext hA hne hy ?_ ⟨p, hs.mem_committed hc.toDispatch,
        hentry, rfl⟩
    obtain ⟨r, hr, hcarries⟩ := hcarries
    exact ⟨r, hissued _ hr, hcarries⟩
  · exact (hsl.pending k p.cycle).congr fun _ => Iff.rfl
  · rcases List.mem_append.mp hev with hev | hev
    · exact Or.inl hev
    · rw [List.mem_singleton] at hev
      subst hev
      exact Or.inr trivial
  · unfold collectedNews at hq
    split at hq
    · rw [List.mem_singleton] at hq
      subst hq
      have hconf : (d.env y).conf.numBG = d.conf.numBG := rfl
      have hpayload := payloadLen_localConnectivityPreprepare hfits hconf
      exact proposal_of_news (t := requestTypeLocalConnectivity) rfl rfl rfl (by simp)
        (fun _ => rfl) (fun ht => absurd ht (by decide)) (fun ht => absurd ht (by decide))
        (covers_of_payloadLen (by rw [hpayload]; omega)) fun _ => (hpayload ..).le
    · exact absurd hq List.not_mem_nil

/-- **The full membership is committed**, and the cycle ends. -/
theorem Round3Inv.commit_fullMembership (hfits : d.conf.Fits)
    (ht : p.requestType = requestTypeFullMembership) :
    Keeps3 d σ y before (fullCommitBranch (d.env y) ω m p (.committed p) (beforeBranch p before.sl)
      (spawnRound2 (d.env y) ω)) := by
  have hout := hc.branch
  have hsl := SlOk.taken hc.toDispatch (h.sl y)
  have hentry : entryOf p = .fullMembership p.cycle := by
    unfold entryOf
    rw [if_neg (by rw [ht]; decide), if_neg (by rw [ht]; decide), if_neg (by rw [ht]; decide),
      if_neg (by rw [ht]; decide)]
  have hnext : (exchange σ token).Next d.layout y (.fullMembership p.cycle) :=
    hentry ▸ hc.next_entry
  obtain ⟨hN, status, hget, hstatus⟩ := hc.exists_status h fun c => by rw [hentry]; simp
  have hcloser : closer d.conf.numBG p.cycle = .fullMembership p.cycle := if_neg (by omega)
  have hmatrices : p.Matrices d.host d.conf.numBG := by
    obtain ⟨q, hq, rfl⟩ := hc.copied
    have hq := (h.issued y.1 q hq).full ht
    rwa [hq.framed.copy_eq]
  obtain ⟨hchecks, hend⟩ : (tallyVotes (d.env y).host (d.env y).conf.numBG p).1.checks = true
      ∧ (tallyVotes (d.env y).host (d.env y).conf.numBG p).2 = true :=
    tallyVotes_ones hfits.numBG_lt hmatrices
  have hget' : (beforeBranch p before.sl).mapRound3Status p.cycle = some status := hget
  rw [fullCommitBranch_fullMembership ht, fullCommitFullMembership_eq hget' hchecks hend] at hout ⊢
  have hclosed : closedCycle d.conf.numBG (entryOf p) = some p.cycle :=
    closedCycle_eq.mpr (hentry.trans hcloser.symm)
  have hs : CommitStep d σ y before p [] (commitCycle p.cycle
      (status.enter .round3Committed .invalid 0) (clearRound2 (beforeBranch p before.sl)))
      token token := by
    refine commitStep_plain hc.sendQueue rfl rfl rfl
      ⟨[.round3Committed p.cycle (status.enter .round3Committed .invalid 0)], ?_, rfl, rfl, ?_⟩
      (List.append_nil _).symm (fun _ => rfl) (fun c hne => Function.update_of_ne hne _ _) rfl ?_
    · exact List.append_assoc ..
    · rw [hclosed]
      rfl
    · rw [hclosed]
      rfl
  have hconn := h.inv.needs_committed hnext.lt (h.inv.next_needs hnext (.fullMembership p.cycle))
    (.localMembership p.cycle)
  refine (h.commit hc.toDispatch hs hc.round2 ?_ ?_ (fun k => ?_) (fun ev hev => ?_)
    fun q hq => ?_).spawned hc.toDispatch h2 hout rfl
  · rw [hentry, List.map_nil]
    exact afterCommit_nothing.symm ▸ h.inv.commit_fullMembership hnext
  · have hnone : (commitCycle p.cycle (status.enter .round3Committed .invalid 0)
        (clearRound2 (beforeBranch p before.sl))).mapRound3Status p.cycle = none :=
      Function.update_self ..
    rw [hnone]
    exact Or.inr (afterCommit_mem.mpr (Or.inr (hcloser.trans hentry.symm)))
  · exact (hsl.pending k p.cycle).congr fun _ => Iff.rfl
  · rcases List.mem_append.mp hev with hev | hev
    · rcases List.mem_append.mp hev with hev | hev
      · exact Or.inl hev
      · rw [List.mem_singleton] at hev
        subst hev
        exact Or.inr trivial
    · rw [List.mem_singleton] at hev
      subst hev
      refine Or.inr ⟨?_, fun A hA => ?_⟩
      · have hmem := List.mem_map_of_mem (f := entryOf) (hs.mem_committed hc.toDispatch)
        rwa [hentry, ← hcloser] at hmem
      · have hslots := hstatus.slots fun A hA hne =>
          h.inv.needs_committed hnext.lt hconn (.results p.cycle A hA hne)
        obtain ⟨r, hr, q, hq, hcarries⟩ := hslots A hA
        refine ⟨r, hr, q, ?_, hcarries⟩
        rw [hs.issued_eq hc.toDispatch]
        exact hq
  · exact absurd hq List.not_mem_nil

end Branches

end RCanopus
