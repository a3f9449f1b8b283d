import RCanopus.Hybrid.Round3Commit

/-!
# Commits that ask the other BGs, in the hybrid variant

A client Preprepare, the local connectivity and the local membership each make an own answer ready.
The SL that commits one of them answers what waits for it. Every SL asks one SL of each other BG for
the results, and the primary envoy asks for the rest.
-/

namespace RCanopus.Hybrid

open Cluster Gathering

variable {d : Deployment} {σ σ' : Cluster} {A : Nat} {c c' : UInt16} {y z w : Peer}
  {k k' : FetchKind} {e : QueueElement} {ω : Choice} {before : Node} {s : ConnManager}
  {x : Gathering} {token : FetchKind → Peer → Nat → UInt16 → Token} {p : MessageRound2Preprepare}
  {m : MessageRound2FullCommit} {status status' : CycleStatus} {request response : Message}
  {requests : Option (List (UInt16 × UInt16))}

/-- A dispatch that commits the copy of an issued Preprepare, the next of the log. -/
structure Commits (d : Deployment) (σ σ' : Cluster) (y : Peer) (e : QueueElement) (ω : Choice)
    (before : Node) (m : MessageRound2FullCommit) (p : MessageRound2Preprepare) : Prop where
  dispatch : Dispatch d σ σ' y e ω before
  round2 : e.pMessage.isRound2 = true
  sendQueue : before.sl.sendQueue = []
  next : (gathering σ fun _ _ _ _ => .idle).Next d.layout y (entryOf p)
  copied : ∃ q ∈ issued σ y.1, p = q.copy
  certificate : m.combinedSignature = zeroSignature
  branch : dispatcherRound2 (d.env y) ω e before.sl
    = fullCommitBranch (d.env y) ω m p (.committed p) (beforeBranch p before.sl)
        (spawnRound2 (d.env y) ω)

theorem Commits.next_entry (h : Commits d σ σ' y e ω before m p) :
    (gathering σ token).Next d.layout y (entryOf p) :=
  ⟨h.next.lt, h.next.next, h.next.first, h.next.accepted⟩

/-! ## What is asked -/

/-- Everybody asks for the results, and the envoy for the rest. -/
def queries (d : Deployment) (y : Peer) (k : FetchKind) (c : UInt16) (ω : Choice)
    (request : Message) : List QueueElement :=
  if holder d.layout k y c = some y ∧ d.conf.numBG ≠ 1 then [asks (d.env y).conf ω request] else []

theorem mem_queries (he : e ∈ queries d y k c ω request) :
    holder d.layout k y c = some y ∧ e.pMessage = request := by
  unfold queries at he
  split at he
  · next hholder =>
    rw [List.mem_singleton.mp he]
    exact ⟨hholder.1, rfl⟩
  · exact absurd he List.not_mem_nil

theorem countKey_queries {f : Message → Option (FetchKind × Nat × UInt16)}
    {key : FetchKind × Nat × UInt16} (hf : ∀ m, f m.copy = f m) (hy : y.1 < d.conf.numBG) :
    countKey f key (sent y (queries d y k c ω request) z)
      = if f request = some key ∧ holder d.layout k y c = some y
        ∧ z.1 < d.conf.numBG ∧ z.1 ≠ y.1 ∧ z.2 = drawn d ω z.1 then 1 else 0 := by
  unfold queries
  split
  · next hholder =>
    rw [countKey_asks hf]
    simp only [hholder.1, true_and]
    rfl
  · next hholder =>
    rw [sent_nil, if_neg]
    · rfl
    · rintro ⟨-, he, hz, hne, -⟩
      exact hholder ⟨he, by omega⟩

/-! ## The tokens -/

section Tokens

variable (hinv : x.Inv d.layout) (hx : x.Next d.layout y (k.trigger c))

include hinv hx

/-- Requests on their way after the trigger. -/
theorem asked_trigger (hy : y.1 < d.conf.numBG) :
    (if x.triggerToken d.layout y k c (drawn d ω) k' w z.1 c' = .asked z.2 then 1 else 0)
      = (if x.token k' w z.1 c' = .asked z.2 then 1 else 0)
        + if (y.2 = w.2 ∧ some (k, y.1, c) = some (k', w.1, c'))
          ∧ holder d.layout k y c = some y ∧ z.1 < d.conf.numBG ∧ z.1 ≠ y.1
          ∧ z.2 = drawn d ω z.1 then 1 else 0 := by
  by_cases heq : k' = k ∧ c' = c
  · obtain ⟨rfl, rfl⟩ := heq
    rcases triggerToken_cases (drawn d ω) w z.1 (L := d.layout) (x := x) (y := y) (k := k')
      (c := c') with
      ⟨rfl, -, hA, hne, hholder, htok⟩ | ⟨hA, hp, htok⟩ | ⟨hn, -, htok⟩
    · have hA : z.1 < d.conf.numBG := hA
      rw [htok, hinv.idle_of_next hx]
      simp [hholder, hA, hne, eq_comm]
    · rw [htok, hp]
      simp [hA]
    · rw [htok, if_neg (c := _ ∧ _), Nat.add_zero]
      rintro ⟨⟨hsl, hkey⟩, hholder, hz, hne, -⟩
      simp only [Option.some.injEq, Prod.mk.injEq, true_and, and_true] at hkey
      exact hn ⟨Prod.ext hkey.symm hsl.symm, hy, hz, hne, hholder⟩
  · rw [triggerToken_of_ne heq, if_neg (c := _ ∧ _), Nat.add_zero]
    rintro ⟨⟨-, hkey⟩, -⟩
    simp only [Option.some.injEq, Prod.mk.injEq] at hkey
    exact heq ⟨hkey.1.symm, hkey.2.2.symm⟩

/-- Answers on their way after the trigger. -/
theorem answered_trigger (hpending : PendingOk x y k c requests) :
    (if held d.layout (x.triggerToken d.layout y k c (drawn d ω)) k' z A c' = .answered z.2
      then 1 else 0)
      = (if held d.layout x.token k' z A c' = .answered z.2 then 1 else 0)
        + if some (k, y.1, c) = some (k', A, c') ∧ z ∈ requesters requests then 1 else 0 := by
  have hnone : ∀ v, x.token k v y.1 c = .pending y.2 → holder d.layout k v c = some v :=
    fun v hv => ((hinv.asked k v y.1 c).mp (by simp [hv])).2.2.2.2.1
  cases hholder : holder d.layout k' z c' with
  | none =>
    -- nobody of the BG asks, so nothing of it waits
    unfold held
    rw [hholder, if_neg (c := _ ∧ _), Nat.add_zero]
    rintro ⟨hkey, hz⟩
    simp only [Option.some.injEq, Prod.mk.injEq] at hkey
    obtain ⟨rfl, rfl, rfl⟩ := hkey
    rw [hnone z ((hpending.mem z).mp hz)] at hholder
    exact absurd hholder (by simp)
  | some v =>
    rw [held_eq hholder, held_eq hholder]
    by_cases heq : k' = k ∧ c' = c
    · obtain ⟨rfl, rfl⟩ := heq
      rcases triggerToken_cases (drawn d ω) v A (L := d.layout) (x := x) (y := y) (k := k')
        (c := c') with
        ⟨rfl, -, -, hne, -, htok⟩ | ⟨hA, hp, htok⟩ | ⟨-, hn, htok⟩
      · rw [htok, hinv.idle_of_next hx]
        simp [hne.symm]
      · -- the SL that asked is the one that is answered
        have hz : (v.2 = z.2) ↔ z ∈ requesters requests := by
          rw [hpending.mem]
          constructor
          · intro hsl
            rw [show z = v from Prod.ext (holder_bg hholder).symm hsl.symm, ← hA]
            exact hA ▸ hp
          · intro hpend
            rw [hnone z hpend, Option.some.injEq] at hholder
            rw [hholder]
        rw [htok, hp]
        simp [hA, hz]
      · rw [htok, if_neg (c := _ ∧ _), Nat.add_zero]
        rintro ⟨hkey, hz⟩
        simp only [Option.some.injEq, Prod.mk.injEq, true_and, and_true] at hkey
        subst hkey
        have hpend := (hpending.mem z).mp hz
        rw [hnone z hpend, Option.some.injEq] at hholder
        exact hn ⟨rfl, hholder ▸ hpend⟩
    · rw [triggerToken_of_ne heq, if_neg (c := _ ∧ _), Nat.add_zero]
      rintro ⟨hkey, -⟩
      simp only [Option.some.injEq, Prod.mk.injEq] at hkey
      exact heq ⟨hkey.1.symm, hkey.2.2.symm⟩

/-- What waits at other SLs still waits. -/
theorem pending_trigger (hz : z ≠ y) :
    x.triggerToken d.layout y k c (drawn d ω) k' w z.1 c' = .pending z.2
      ↔ x.token k' w z.1 c' = .pending z.2 := by
  by_cases heq : k' = k ∧ c' = c
  · obtain ⟨rfl, rfl⟩ := heq
    rcases triggerToken_cases (drawn d ω) w z.1 (L := d.layout) (x := x) (y := y) (k := k')
      (c := c') with
      ⟨rfl, -, -, -, -, htok⟩ | ⟨hA, hp, htok⟩ | ⟨-, -, htok⟩
    · rw [htok, hinv.idle_of_next hx]
      simp
    · rw [htok, hp]
      refine iff_of_false (by simp) fun hsl => hz (Prod.ext hA ?_)
      exact (Token.pending.inj hsl).symm
    · rw [htok]
  · rw [triggerToken_of_ne heq]

omit hinv hx in
/-- Nothing waits at the SL any more. -/
theorem not_pending_trigger :
    x.triggerToken d.layout y k c (drawn d ω) k w y.1 c ≠ .pending y.2 := by
  rcases triggerToken_cases (drawn d ω) w y.1 (L := d.layout) (x := x) (y := y) (k := k) (c := c)
    with ⟨-, -, -, -, -, htok⟩ | ⟨-, -, htok⟩ | ⟨-, hn, htok⟩
  · simp [htok]
  · simp [htok]
  · rw [htok]
    exact fun hp => hn ⟨rfl, hp⟩

end Tokens

/-! ## The step -/

/-- What a trigger changes at the SL. -/
structure TriggerStep (d : Deployment) (y : Peer) (ω : Choice) (before : Node)
    (p : MessageRound2Preprepare) (k : FetchKind) (response request : Message)
    (s : ConnManager) : Prop where
  juggleQueue : s.juggleQueue = before.sl.juggleQueue
  nextCycle : s.leaderRound2NextRcanopusCycle = before.sl.leaderRound2NextRcanopusCycle
  envoysRr : s.leaderEnvoysRr = before.sl.leaderEnvoysRr
  queue : s.pLeaderRound2PendingPreprepareRaw = before.sl.pLeaderRound2PendingPreprepareRaw
  history : ∃ events, s.history = before.sl.history ++ .committed p :: events
    ∧ issuedOf events = [] ∧ committedOf events = [] ∧ acceptedOf events = []
    ∧ closedOf events = (closedCycle d.conf.numBG (entryOf p)).toList
  status : ∀ c ≠ p.cycle, s.mapRound3Status c = before.sl.mapRound3Status c
  pending : ∀ k' c', ¬ (k' = k ∧ c' = p.cycle) →
    s.mapRound3PendingRequests k' c' = before.sl.mapRound3PendingRequests k' c'
  pending_self : requesters (s.mapRound3PendingRequests k p.cycle) = []
  storage : s.pStorage = before.sl.pStorage ++ (closedCycle d.conf.numBG (entryOf p)).toList
  sendQueue : s.sendQueue = answers response (before.sl.mapRound3PendingRequests k p.cycle)
    ++ queries d y k p.cycle ω request

/-- The messages of a trigger. -/
structure TriggerMessages (d : Deployment) (σ : Cluster) (y : Peer) (k : FetchKind) (c : UInt16)
    (response request : Message) : Prop where
  response_key : response.responseKey = some (k, y.1, c)
  request_key : request.requestKey = some (k, y.1, c)
  requester : requester request = some y.2
  good_response : ∀ z, GoodMessage d σ z response
  good_request : ∀ z, GoodMessage d σ z request

/-- The gathering after the trigger of a kind for the cycle of `p`. -/
def afterTriggerOf (d : Deployment) (x : Gathering) (y : Peer) (k : FetchKind) (c : UInt16)
    (ω : Choice) : Gathering :=
  afterCommit x y (k.trigger c) (x.triggerToken d.layout y k c (drawn d ω))

section Step

variable (h : Round3Inv d σ token) (hc : Commits d σ σ' y e ω before m p)
  (hentry : entryOf p = k.trigger p.cycle)
  (hmessages : TriggerMessages d σ y k p.cycle response request)
  (hs : TriggerStep d y ω before p k response request s)

include h hc hentry hmessages hs

theorem TriggerStep.commitStep : CommitStep d σ y before p s token
    ((gathering σ token).triggerToken d.layout y k p.cycle (drawn d ω)) := by
  have hnext : (gathering σ token).Next d.layout y (k.trigger p.cycle) := hentry ▸ hc.next_entry
  have hpending := (SlOk.taken hc.dispatch (h.sl y)).pending k p.cycle
  have hresponse : ∀ i, requestFrom i response = none := fun i =>
    requestFrom_eq_none (requestKey_of_responseKey hmessages.response_key)
  have hrequest := responseKey_of_requestKey hmessages.request_key
  refine {
    juggleQueue := hs.juggleQueue
    nextCycle := hs.nextCycle
    envoysRr := hs.envoysRr
    queue := hs.queue
    history := hs.history
    status := hs.status
    pending := fun k' c' hne => hs.pending k' c' fun heq => hne heq.2
    storage := hs.storage
    moved := fun k' w A c' hne => triggerToken_of_ne fun heq => hne heq.2
    done := fun k' w A c' => h.inv.triggerToken_done hnext k' w A c'
    elsewhere := fun z hz k' w c' => pending_trigger h.inv hnext hz
    requests := fun z k' w c' => ?_
    responses := fun z k' A c' => ?_
    good := fun z e' he' => ?_ }
  · have hfrom : requestFrom w.2 request = some (k', w.1, c')
        ↔ y.2 = w.2 ∧ some (k, y.1, p.cycle) = some (k', w.1, c') := by
      rw [requestFrom_eq, hmessages.requester, hmessages.request_key, Option.some.injEq]
    rw [asked_trigger h.inv hnext hc.dispatch.has.1, hs.sendQueue, sent_append, countKey_add,
      countKey_answers (requestFrom_copy w.2) hpending.nodup,
      countKey_queries (requestFrom_copy w.2) hc.dispatch.has.1, hresponse]
    simp only [hfrom]
    simp
    rfl
  · rw [answered_trigger h.inv hnext hpending, hs.sendQueue, sent_append, countKey_add,
      countKey_answers Message.responseKey_copy hpending.nodup,
      countKey_queries Message.responseKey_copy hc.dispatch.has.1, hrequest,
      hmessages.response_key]
    simp
    rfl
  · rw [hs.sendQueue] at he'
    unfold sent at he'
    obtain ⟨element, helement, hdelivered⟩ := List.mem_flatMap.mp (Multiset.mem_coe.mp he')
    rw [(mem_deliveries hdelivered).1]
    refine GoodMessage.copy ?_
    rcases List.mem_append.mp helement with helement | helement
    · rw [mem_answers helement]
      exact (hmessages.good_response z).copy
    · rw [(mem_queries helement).2]
      exact hmessages.good_request z

/-- **Any trigger** keeps the invariant, when the new status of the cycle is right. -/
theorem Round3Inv.triggered
    (hstatus : StatusAt d (install y before (.ok s) σ)
      (afterTriggerOf d (gathering σ token) y k p.cycle ω) y p.cycle (s.mapRound3Status p.cycle))
    (hevents : ∀ ev ∈ s.history, ev ∈ before.sl.history
      ∨ EventOk d (install y before (.ok s) σ) y ev) :
    Round3Inv d (install y before (.ok s) σ)
      ((gathering σ token).triggerToken d.layout y k p.cycle (drawn d ω)) := by
  have hnext : (gathering σ token).Next d.layout y (k.trigger p.cycle) := hentry ▸ hc.next_entry
  have hsl := SlOk.taken hc.dispatch (h.sl y)
  refine h.commit hc.dispatch (hs.commitStep h hc hentry hmessages) hc.round2 ?_
    (hentry ▸ hstatus) (fun k' => ?_) hevents
  · have hinv : ((gathering σ token).trigger d.layout y k p.cycle (drawn d ω)).Inv d.layout :=
      h.inv.trigger hnext fun A hA => Nat.mod_lt _ hA
    rw [hentry]
    exact hinv
  · by_cases hk : k' = k
    · subst hk
      refine ⟨?_, fun z => ?_⟩
      · rw [hs.pending_self]
        exact List.nodup_nil
      · rw [hs.pending_self]
        exact iff_of_false List.not_mem_nil not_pending_trigger
    · rw [hs.pending k' p.cycle fun heq => hk heq.1]
      refine (hsl.pending k' p.cycle).congr fun w => ?_
      show (gathering σ token).triggerToken d.layout y k p.cycle (drawn d ω) k' w y.1 p.cycle = _
        ↔ _
      rw [triggerToken_of_ne fun heq => hk heq.1]

end Step

/-! ## The state after a trigger -/

theorem answeredEvents_accepted (k : FetchKind) (c : UInt16) (response : Message)
    (requests : Option (List (UInt16 × UInt16))) :
    acceptedOf (answeredEvents k c response requests) = [] := by
  unfold answeredEvents acceptedOf
  simp

/-- The other BGs are asked, by those who do. -/
def askThem (d : Deployment) (y : Peer) (k : FetchKind) (c : UInt16) (ω : Choice)
    (request : Message) (s : ConnManager) : ConnManager :=
  { s with sendQueue := s.sendQueue ++ queries d y k c ω request }

section State

variable (hc : Commits d σ σ' y e ω before m p)

include hc

/-- The state after a trigger that does not end the cycle. -/
theorem Commits.triggerStep (hclosed : closedCycle d.conf.numBG (entryOf p) = none) :
    TriggerStep d y ω before p k response request (askThem d y k p.cycle ω request
      (afterTrigger k p.cycle status response (beforeBranch p before.sl))) := by
  obtain ⟨hjuggle, hcycle, henvoys, hqueue, hstorage, -⟩ :=
    respond_fields k p.cycle response
      (clearRound2 ((beforeBranch p before.sl).setStatus p.cycle status))
  obtain ⟨hissued, hcommitted, hnone⟩ := answeredEvents_none k p.cycle response
    (before.sl.mapRound3PendingRequests k p.cycle)
  refine {
    juggleQueue := hjuggle
    nextCycle := hcycle
    envoysRr := henvoys
    queue := hqueue
    history := ⟨_, respond_history.trans (List.append_assoc ..), hissued, hcommitted,
      answeredEvents_accepted .., ?_⟩
    status := fun c hne => ?_
    pending := fun k' c' hne => respond_pending hne
    pending_self := respond_pending_self
    storage := hstorage.trans ?_
    sendQueue := ?_ }
  · rw [hclosed]
    exact hnone
  · show (afterTrigger _ _ _ _ _).mapRound3Status c = _
    rw [afterTrigger_status, Function.update_of_ne hne]
    rfl
  · rw [hclosed]
    exact (List.append_nil _).symm
  · show (respond _ _ _ _).sendQueue ++ _ = _
    rw [respond_sendQueue]
    show before.sl.sendQueue ++ _ ++ _ = _
    rw [hc.sendQueue]
    rfl

/-- The state after a trigger that ends the cycle of a single BG. -/
theorem Commits.triggerStep_single (status status' : CycleStatus) (hN : d.conf.numBG = 1)
    (hclosed : closedCycle d.conf.numBG (entryOf p) = some p.cycle) :
    TriggerStep d y ω before p k response request
      (commitCycle p.cycle status'
        (afterTrigger k p.cycle status response (beforeBranch p before.sl))) := by
  obtain ⟨hjuggle, hcycle, henvoys, hqueue, hstorage, -⟩ :=
    respond_fields k p.cycle response
      (clearRound2 ((beforeBranch p before.sl).setStatus p.cycle status))
  obtain ⟨hissued, hcommitted, hnone⟩ := answeredEvents_none k p.cycle response
    (before.sl.mapRound3PendingRequests k p.cycle)
  refine {
    juggleQueue := hjuggle
    nextCycle := hcycle
    envoysRr := henvoys
    queue := hqueue
    history := ⟨answeredEvents k p.cycle response (before.sl.mapRound3PendingRequests k p.cycle)
      ++ [.round3Committed p.cycle status'], ?_, ?_, ?_, ?_, ?_⟩
    status := fun c hne => ?_
    pending := fun k' c' hne => respond_pending hne
    pending_self := respond_pending_self
    storage := ?_
    sendQueue := ?_ }
  · show (respond _ _ _ _).history ++ _ = _
    rw [respond_history]
    show before.sl.history ++ [.committed p] ++ _ ++ _ = _
    rw [List.append_assoc, List.append_assoc, List.singleton_append]
    rfl
  · rw [issuedOf_append, hissued]
    rfl
  · rw [committedOf_append, hcommitted]
    rfl
  · rw [acceptedOf_append, answeredEvents_accepted]
    rfl
  · rw [hclosed]
    unfold closedOf at hnone ⊢
    rw [List.filterMap_append, hnone]
    rfl
  · show Function.update (afterTrigger _ _ _ _ _).mapRound3Status p.cycle none c = _
    rw [Function.update_of_ne hne, afterTrigger_status, Function.update_of_ne hne]
    rfl
  · rw [hclosed]
    exact congrArg (· ++ [p.cycle]) hstorage
  · show (respond _ _ _ _).sendQueue = _
    rw [respond_sendQueue]
    unfold queries
    rw [if_neg fun h => h.2 hN, List.append_nil]
    show before.sl.sendQueue ++ _ = _
    rw [hc.sendQueue]
    rfl

end State

/-! ## The end of a trigger -/

/-- The status is right in every state in which `p` was committed too. -/
def StatusAfter (d : Deployment) (σ : Cluster) (x' : Gathering) (y : Peer)
    (p : MessageRound2Preprepare) (status : CycleStatus) : Prop :=
  ∀ σ', (∀ b, issued σ b ⊆ issued σ' b) → committed σ y ⊆ committed σ' y → p ∈ committed σ' y →
    StatusOk d σ' x' y p.cycle status

/-- A trigger ends in a state, or the Preprepare of the cycle names nobody who could ask. -/
inductive Triggered (d : Deployment) (y : Peer) (s : ConnManager) : Outcome → Prop where
  | asked : Triggered d y s (.ok s)
  | noEnvoy (c : UInt16) (h : d.layout.envoy y.1 c = none) :
    Triggered d y s (.thrown .noEnvoySelected s)

/-- For the two later kinds it is the primary envoy who asks. -/
theorem askOthers_triggered (hk : k ≠ .result) (hN : d.conf.numBG ≠ 1) :
    Triggered d y (askThem d y k c ω request s)
      (askOthers (d.env y) ω (d.layout.envoy y.1 c) request s) := by
  have hholder : holder d.layout k y c = some y ↔ d.layout.envoy y.1 c = some y.2 := by
    unfold holder
    rw [if_neg hk, Option.map_eq_some_iff]
    constructor
    · rintro ⟨i, hi, hy⟩
      rw [hi, ← hy]
    · exact fun hi => ⟨y.2, hi, rfl⟩
  have hnobody : ¬ d.layout.envoy y.1 c = some y.2 → askThem d y k c ω request s = s := by
    intro henvoy
    unfold askThem queries
    rw [if_neg fun h => henvoy (hholder.mp h.1), List.append_nil]
  cases henvoy : d.layout.envoy y.1 c with
  | none =>
    rw [hnobody (by simp [henvoy])]
    exact .noEnvoy c henvoy
  | some j =>
    unfold askOthers
    dsimp only
    by_cases hj : j = y.2
    · rw [if_pos (show j = (d.env y).conf.sLid from hj)]
      have hself : d.layout.envoy y.1 c = some y.2 := henvoy.trans (congrArg some hj)
      have hask : askThem d y k c ω request s = ask (d.env y) ω request s := by
        unfold askThem queries
        rw [if_pos ⟨hholder.mpr hself, hN⟩]
        rfl
      rw [hask]
      exact .asked
    · rw [if_neg (show ¬ j = (d.env y).conf.sLid from hj),
        hnobody fun hself => hj (Option.some.inj (henvoy.symm.trans hself))]
      exact .asked

section End

variable (h : Round3Inv d σ token) (h2 : Round2Ok d σ') (hc : Commits d σ σ' y e ω before m p)
  (hentry : entryOf p = k.trigger p.cycle)
  (hmessages : TriggerMessages d σ y k p.cycle (ownAnswer (d.env y) k p) request)

include h hc hentry hmessages

/-- What happened in a trigger. -/
theorem eventOk_of_trigger (hs : TriggerStep d y ω before p k (ownAnswer (d.env y) k p) request s)
    {ev : Event} (hev : ev ∈ before.sl.history ++ [.committed p] ++ answeredEvents k p.cycle
      (ownAnswer (d.env y) k p) (before.sl.mapRound3PendingRequests k p.cycle)) :
    ev ∈ before.sl.history ∨ EventOk d (install y before (.ok s) σ) y ev := by
  have hcommit := hs.commitStep h hc hentry hmessages
  rcases List.mem_append.mp hev with hev | hev
  · rcases List.mem_append.mp hev with hev | hev
    · exact Or.inl hev
    · rw [List.mem_singleton] at hev
      subst hev
      exact Or.inr trivial
  · obtain ⟨r, -, rfl⟩ := List.mem_map.mp hev
    exact Or.inr ⟨p, hcommit.mem_committed hc.dispatch, hentry, rfl⟩

include h2 in
/-- **A trigger** that does not end the cycle. -/
theorem Commits.asks {o : Outcome} (hN : 2 ≤ d.conf.numBG)
    (hstatus : StatusAfter d σ (afterTriggerOf d (gathering σ token) y k p.cycle ω) y p status)
    (hout : fullCommitBranch (d.env y) ω m p (.committed p) (beforeBranch p before.sl)
        (spawnRound2 (d.env y) ω) = o.andThen (spawnRound2 (d.env y) ω))
    (ho : Triggered d y (askThem d y k p.cycle ω request (afterTrigger k p.cycle status
      (ownAnswer (d.env y) k p) (beforeBranch p before.sl))) o) :
    Keeps3 d σ y before (fullCommitBranch (d.env y) ω m p (.committed p)
      (beforeBranch p before.sl) (spawnRound2 (d.env y) ω)) := by
  have hbranch := hc.branch
  rw [hout] at hbranch ⊢
  have hclosed : closedCycle d.conf.numBG (entryOf p) = none := by
    rw [hentry, Option.eq_none_iff_forall_ne_some]
    exact fun c' hc' => closer_ne_trigger hN c' (closedCycle_eq.mp hc').symm
  have hs : TriggerStep d y ω before p k (ownAnswer (d.env y) k p) request (askThem d y k p.cycle
      ω request (afterTrigger k p.cycle status (ownAnswer (d.env y) k p)
        (beforeBranch p before.sl))) := hc.triggerStep hclosed
  have hhistory : (askThem d y k p.cycle ω request (afterTrigger k p.cycle status
      (ownAnswer (d.env y) k p) (beforeBranch p before.sl))).history
      = before.sl.history ++ [.committed p] ++ answeredEvents k p.cycle
        (ownAnswer (d.env y) k p) (before.sl.mapRound3PendingRequests k p.cycle) :=
    afterTrigger_history
  have hget : (askThem d y k p.cycle ω request (afterTrigger k p.cycle status
      (ownAnswer (d.env y) k p) (beforeBranch p before.sl))).mapRound3Status p.cycle
      = some status := by
    show (afterTrigger _ _ _ _ _).mapRound3Status _ = _
    rw [afterTrigger_status, Function.update_self]
  have hidle : (askThem d y k p.cycle ω request (afterTrigger k p.cycle status
      (ownAnswer (d.env y) k p) (beforeBranch p before.sl))).pRound2CurrentStatus = none :=
    afterTrigger_current
  revert ho hs hhistory hget hidle
  generalize askThem d y k p.cycle ω request (afterTrigger k p.cycle status
    (ownAnswer (d.env y) k p) (beforeBranch p before.sl)) = s'
  intro ho hs hhistory hget hidle
  have hcommit := hs.commitStep h hc hentry hmessages
  have hinv : Round3Inv d (install y before (.ok s') σ)
      ((gathering σ token).triggerToken d.layout y k p.cycle (drawn d ω)) := by
    refine h.triggered hc hentry hmessages hs ?_ fun ev hev => ?_
    · rw [hget]
      refine hstatus _ (fun b => ?_) (hcommit.committed_subset hc.dispatch)
        (hcommit.mem_committed hc.dispatch)
      rw [hcommit.issued_eq hc.dispatch]
      exact fun _ hq => hq
    · rw [hhistory] at hev
      exact eventOk_of_trigger h hc hentry hmessages hs hev
  cases ho with
  | asked =>
    rw [Outcome.andThen_ok] at hbranch ⊢
    exact hinv.spawned hc.dispatch h2 hbranch (by rw [hidle]; simp)
  | noEnvoy c henvoy => exact ⟨.noEnvoy s' c henvoy, _, hinv.thrown⟩

include h2 in
/-- **A trigger** that ends the cycle of a single BG. -/
theorem Commits.ends (hN : d.conf.numBG = 1) (hk : k = .result)
    (hslots : ∀ A < d.conf.numBG, ∃ r, status'.rgMsgRound3FetchResponse A = some r
      ∧ ∃ q ∈ issued σ A, entryOf q = .client p.cycle ∧ r.entirePreprepareMsg = q.sentBytes d.host)
    (hout : fullCommitBranch (d.env y) ω m p (.committed p) (beforeBranch p before.sl)
        (spawnRound2 (d.env y) ω)
      = spawnRound2 (d.env y) ω (commitCycle p.cycle status'
          (afterTrigger k p.cycle status (ownAnswer (d.env y) k p) (beforeBranch p before.sl)))) :
    Keeps3 d σ y before (fullCommitBranch (d.env y) ω m p (.committed p)
      (beforeBranch p before.sl) (spawnRound2 (d.env y) ω)) := by
  have hbranch := hc.branch
  rw [hout] at hbranch ⊢
  have hcloser : entryOf p = closer d.conf.numBG p.cycle := by
    unfold closer
    rw [hentry, if_pos hN, hk]
    rfl
  have hs : TriggerStep d y ω before p k (ownAnswer (d.env y) k p) request _ :=
    hc.triggerStep_single status status' hN (closedCycle_eq.mpr hcloser)
  have hcommit := hs.commitStep h hc hentry hmessages
  have hidle : (commitCycle p.cycle status' (afterTrigger k p.cycle status
      (ownAnswer (d.env y) k p) (beforeBranch p before.sl))).pRound2CurrentStatus = none :=
    afterTrigger_current
  refine (h.triggered hc hentry hmessages hs ?_ fun ev hev => ?_).spawned hc.dispatch h2 hbranch
    (by rw [hidle]; simp)
  · have hnone : (commitCycle p.cycle status' (afterTrigger k p.cycle status
        (ownAnswer (d.env y) k p) (beforeBranch p before.sl))).mapRound3Status p.cycle = none :=
      Function.update_self ..
    rw [hnone]
    exact Or.inr (afterCommit_mem.mpr (Or.inr (hcloser.symm.trans hentry)))
  · rcases List.mem_append.mp hev with hev | hev
    · rw [afterTrigger_history] at hev
      exact eventOk_of_trigger h hc hentry hmessages hs hev
    · rw [List.mem_singleton] at hev
      subst hev
      refine Or.inr ⟨?_, fun A hA => ?_⟩
      · rw [← hcloser]
        exact List.mem_map_of_mem (hcommit.mem_committed hc.dispatch)
      · obtain ⟨r, hr, q, hq, hcarries⟩ := hslots A hA
        refine ⟨r, hr, q, ?_, hcarries⟩
        rw [hcommit.issued_eq hc.dispatch]
        exact hq

end End

end RCanopus.Hybrid
