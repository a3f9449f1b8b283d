import RCanopus.Round3Plain

/-!
# Commits that ask the other BGs

A client Preprepare, the local connectivity and the local membership each make an own answer ready.
The SL that commits one of them answers what waits for it, and the primary envoy asks one SL of each
other BG.
-/

namespace RCanopus

open Cluster Exchange

variable {d : Deployment} {σ σ' : Cluster} {A b : Nat} {c : UInt16} {y z : Peer} {k : FetchKind}
  {e : QueueElement} {ω : Choice} {before : Node} {s : ConnManager} {x : Exchange}
  {token : FetchKind → Nat → Nat → UInt16 → Token} {p : MessageRound2Preprepare}
  {m : MessageRound2FullCommit} {status status' : CycleStatus} {request response : Message}
  {requests : Option (List (UInt16 × UInt16))}

/-! ## What is sent -/

/-- The element that answers the pending requests. -/
def answers (response : Message) (requests : Option (List (UInt16 × UInt16))) :
    List QueueElement :=
  match requests with
  | none => []
  | some requests =>
    [{ upPeers := (requests.map requestPeer).reverse, pMessage := response.copy }]

/-- The element that asks the other BGs. -/
def asks (conf : Config) (ω : Choice) (request : Message) : QueueElement where
  upPeers := getOneSLFromEveryRemoteBG conf ω
  pMessage := request

theorem count_requestPeer {l : List (UInt16 × UInt16)} (hnodup : (requesters (some l)).Nodup) :
    ((l.map requestPeer).reverse).count (some z) = if z ∈ requesters (some l) then 1 else 0 := by
  have hmap : l.map requestPeer = (requesters (some l)).map some := by
    unfold requesters
    rw [Option.getD_some, List.map_map]
    rfl
  rw [List.count_reverse, hmap, (hnodup.map (Option.some_injective _)).count]
  simp

theorem count_others : (getOneSLFromEveryRemoteBG (d.env y).conf ω).count (some z)
    = if z.1 < d.conf.numBG ∧ z.1 ≠ y.1 ∧ z.2 = ω.draw z.1 % d.conf.numSL z.1 then 1 else 0 := by
  have hnodup : (((List.range d.conf.numBG).filter (· ≠ y.1)).map
      fun bg => (some (bg, ω.draw bg % d.conf.numSL bg) : Option Peer)).Nodup := by
    refine (List.nodup_range.filter _).map fun b b' hb => ?_
    simp only [Option.some.injEq, Prod.mk.injEq] at hb
    exact hb.1
  have hmem : (some z : Option Peer) ∈ ((List.range d.conf.numBG).filter (· ≠ y.1)).map
      (fun bg => some (bg, ω.draw bg % d.conf.numSL bg))
      ↔ z.1 < d.conf.numBG ∧ z.1 ≠ y.1 ∧ z.2 = ω.draw z.1 % d.conf.numSL z.1 := by
    rw [List.mem_map]
    constructor
    · rintro ⟨bg, hbg, heq⟩
      rw [Option.some.injEq] at heq
      subst heq
      rw [List.mem_filter, List.mem_range, decide_eq_true_eq] at hbg
      exact ⟨hbg.1, hbg.2, rfl⟩
    · rintro ⟨hlt, hne, hsl⟩
      refine ⟨z.1, ?_, congrArg some (Prod.ext rfl hsl.symm)⟩
      rw [List.mem_filter, List.mem_range, decide_eq_true_eq]
      exact ⟨hlt, hne⟩
  unfold getOneSLFromEveryRemoteBG
  rw [List.count_reverse]
  refine (hnodup.count).trans ?_
  simp only [hmem]

theorem mem_answers (he : e ∈ answers response requests) : e.pMessage = response.copy := by
  cases requests with
  | none => exact absurd he List.not_mem_nil
  | some l =>
    rw [List.mem_singleton.mp he]

section Sends

variable {f : Message → Option (FetchKind × Nat × UInt16)} {key : FetchKind × Nat × UInt16}
  (hf : ∀ m, f m.copy = f m)

include hf

theorem countKey_answers (hnodup : (requesters requests).Nodup) :
    countKey f key (sent y (answers response requests) z)
      = if f response = some key ∧ z ∈ requesters requests then 1 else 0 := by
  cases requests with
  | none => simp [answers, sent, countKey, requesters]
  | some l =>
    unfold answers
    rw [countKey_sent_singleton hf (by simp [requestPeer]), hf, count_requestPeer hnodup]
    by_cases hkey : f response = some key <;> simp [hkey]

theorem countKey_asks : countKey f key (sent y [asks (d.env y).conf ω request] z)
    = if f request = some key
      ∧ z.1 < d.conf.numBG ∧ z.1 ≠ y.1 ∧ z.2 = ω.draw z.1 % d.conf.numSL z.1 then 1 else 0 := by
  have hnone : none ∉ (asks (d.env y).conf ω request).upPeers := by
    simp [asks, getOneSLFromEveryRemoteBG]
  rw [countKey_sent_singleton hf hnone]
  show (if f request = some key then
    (getOneSLFromEveryRemoteBG (d.env y).conf ω).count (some z) else 0) = _
  rw [count_others]
  by_cases hkey : f request = some key <;> simp [hkey]

end Sends

/-! ## The tokens -/

/-- What an SL draws for each other BG. -/
def drawn (d : Deployment) (ω : Choice) (A : Nat) : Nat := ω.draw A % d.conf.numSL A

/-- What the envoy asks, which others do not. -/
def asked (d : Deployment) (y : Peer) (c : UInt16) (ω : Choice) (request : Message) :
    List QueueElement :=
  if d.layout.envoy y.1 c = some y.2 ∧ d.conf.numBG ≠ 1 then [asks (d.env y).conf ω request] else []

theorem mem_asked (he : e ∈ asked d y c ω request) :
    d.layout.envoy y.1 c = some y.2 ∧ e.pMessage = request := by
  unfold asked at he
  split at he
  · next henvoy =>
    rw [List.mem_singleton.mp he]
    exact ⟨henvoy.1, rfl⟩
  · exact absurd he List.not_mem_nil

theorem countKey_asked {f : Message → Option (FetchKind × Nat × UInt16)}
    {key : FetchKind × Nat × UInt16} (hf : ∀ m, f m.copy = f m) (hy : y.1 < d.conf.numBG) :
    countKey f key (sent y (asked d y c ω request) z)
      = if f request = some key ∧ d.layout.envoy y.1 c = some y.2
        ∧ z.1 < d.conf.numBG ∧ z.1 ≠ y.1 ∧ z.2 = drawn d ω z.1 then 1 else 0 := by
  unfold asked
  split
  · next henvoy =>
    rw [countKey_asks hf]
    simp only [henvoy.1, true_and]
    rfl
  · next henvoy =>
    rw [sent_nil, if_neg]
    · rfl
    · rintro ⟨-, he, hz, hne, -⟩
      exact henvoy ⟨he, by omega⟩

section Tokens

variable (hinv : x.Inv d.layout) (hx : x.Next d.layout y (k.trigger c))

include hinv hx

/-- Requests on their way after the trigger. -/
theorem asked_trigger {k' : FetchKind} {c' : UInt16} (hy : y.1 < d.conf.numBG) :
    (if x.triggerToken d.layout y k c (drawn d ω) k' b z.1 c' = .asked z.2 then 1 else 0)
      = (if x.token k' b z.1 c' = .asked z.2 then 1 else 0)
        + if some (k, y.1, c) = some (k', b, c') ∧ d.layout.envoy y.1 c = some y.2
          ∧ z.1 < d.conf.numBG ∧ z.1 ≠ y.1 ∧ z.2 = drawn d ω z.1 then 1 else 0 := by
  by_cases heq : k' = k ∧ c' = c
  · obtain ⟨rfl, rfl⟩ := heq
    rcases triggerToken_cases (drawn d ω) (L := d.layout) (x := x) (y := y) (k := k')
      (c := c') (b := b) (A := z.1) with
      ⟨-, hA, hne, rfl, henvoy, htok⟩ | ⟨hA, hp, htok⟩ | ⟨hn, -, htok⟩
    · have hA : z.1 < d.conf.numBG := hA
      rw [htok, hinv.idle_of_next hx rfl henvoy]
      simp [henvoy, hA, hne, eq_comm]
    · rw [htok, hp]
      simp [hA]
    · rw [htok, if_neg (c := _ ∧ _), Nat.add_zero]
      rintro ⟨hkey, henvoy, hz, hne, -⟩
      simp only [Option.some.injEq, Prod.mk.injEq, true_and, and_true] at hkey
      subst hkey
      exact hn ⟨hy, hz, hne, rfl, henvoy⟩
  · rw [triggerToken_of_ne heq, if_neg (c := _ ∧ _), Nat.add_zero]
    rintro ⟨hkey, -⟩
    simp only [Option.some.injEq, Prod.mk.injEq] at hkey
    exact heq ⟨hkey.1.symm, hkey.2.2.symm⟩

/-- Answers on their way after the trigger. -/
theorem answered_trigger {k' : FetchKind} {c' : UInt16} (hpending : PendingOk d x y k c requests) :
    (if x.triggerToken d.layout y k c (drawn d ω) k' z.1 A c' = .answered z.2 then 1 else 0)
      = (if x.token k' z.1 A c' = .answered z.2 then 1 else 0)
        + if some (k, y.1, c) = some (k', A, c') ∧ z ∈ requesters requests then 1 else 0 := by
  by_cases heq : k' = k ∧ c' = c
  · obtain ⟨rfl, rfl⟩ := heq
    simp only [hpending.mem]
    rcases triggerToken_cases (drawn d ω) (L := d.layout) (x := x) (y := y) (k := k')
      (c := c') (b := z.1) (A := A) with
      ⟨-, -, hne, hz, henvoy, htok⟩ | ⟨hA, hp, htok⟩ | ⟨-, hn, htok⟩
    · rw [htok, hinv.idle_of_next hx hz henvoy]
      have hne : y.1 ≠ A := fun h => hne (h.symm.trans hz.symm)
      simp [hne]
    · obtain ⟨-, -, -, i, -, henvoy, -⟩ := (hinv.asked k' z.1 A c').mp (by simp [hp])
      subst hA
      rw [htok, hp, henvoy]
      simp
    · rw [htok, if_neg (c := _ ∧ _), Nat.add_zero]
      rintro ⟨hkey, hp, -⟩
      simp only [Option.some.injEq, Prod.mk.injEq, true_and, and_true] at hkey
      subst hkey
      exact hn ⟨rfl, hp⟩
  · rw [triggerToken_of_ne heq, if_neg (c := _ ∧ _), Nat.add_zero]
    rintro ⟨hkey, -⟩
    simp only [Option.some.injEq, Prod.mk.injEq] at hkey
    exact heq ⟨hkey.1.symm, hkey.2.2.symm⟩

/-- What waits at other SLs still waits. -/
theorem pending_trigger {k' : FetchKind} {c' : UInt16} (hz : z ≠ y) :
    x.triggerToken d.layout y k c (drawn d ω) k' b z.1 c' = .pending z.2
      ↔ x.token k' b z.1 c' = .pending z.2 := by
  by_cases heq : k' = k ∧ c' = c
  · obtain ⟨rfl, rfl⟩ := heq
    rcases triggerToken_cases (drawn d ω) (L := d.layout) (x := x) (y := y) (k := k')
      (c := c') (b := b) (A := z.1) with
      ⟨-, -, -, hb, henvoy, htok⟩ | ⟨hA, hp, htok⟩ | ⟨-, -, htok⟩
    · rw [htok, hinv.idle_of_next hx hb henvoy]
      simp
    · rw [htok, hp]
      refine iff_of_false (by simp) fun hsl => hz (Prod.ext hA ?_)
      exact (Token.pending.inj hsl).symm
    · rw [htok]
  · rw [triggerToken_of_ne heq]

omit hinv hx in
/-- Nothing waits at the SL any more. -/
theorem not_pending_trigger :
    x.triggerToken d.layout y k c (drawn d ω) k b y.1 c ≠ .pending y.2 := by
  rcases triggerToken_cases (drawn d ω) (L := d.layout) (x := x) (y := y) (k := k) (c := c)
    (b := b) (A := y.1) with ⟨-, -, -, -, -, htok⟩ | ⟨-, -, htok⟩ | ⟨-, hn, htok⟩
  · simp [htok]
  · simp [htok]
  · rw [htok]
    exact fun hp => hn ⟨rfl, hp⟩

end Tokens

/-! ## The step -/

/-- What a trigger changes at the SL. -/
structure TriggerStep (d : Deployment) (σ : Cluster) (y : Peer) (ω : Choice) (before : Node)
    (p : MessageRound2Preprepare) (k : FetchKind) (response request : Message)
    (s : ConnManager) : Prop where
  juggleQueue : s.juggleQueue = before.sl.juggleQueue
  nextCycle : s.leaderRound2NextRcanopusCycle = before.sl.leaderRound2NextRcanopusCycle
  envoysRr : s.leaderEnvoysRr = before.sl.leaderEnvoysRr
  queue : s.pLeaderRound2PendingPreprepareRaw = before.sl.pLeaderRound2PendingPreprepareRaw
  history : ∃ events, s.history = before.sl.history ++ .committed p :: events
    ∧ issuedOf events = [] ∧ committedOf events = []
    ∧ closedOf events = (closedCycle d.conf.numBG (entryOf p)).toList
  status : ∀ c ≠ p.cycle, s.mapRound3Status c = before.sl.mapRound3Status c
  pending : ∀ k' c', ¬ (k' = k ∧ c' = p.cycle) →
    s.mapRound3PendingRequests k' c' = before.sl.mapRound3PendingRequests k' c'
  pending_self : requesters (s.mapRound3PendingRequests k p.cycle) = []
  storage : s.pStorage = before.sl.pStorage ++ (closedCycle d.conf.numBG (entryOf p)).toList
  sendQueue : s.sendQueue = answers response (before.sl.mapRound3PendingRequests k p.cycle)
    ++ asked d y p.cycle ω request

/-- The messages of a trigger. -/
structure TriggerMessages (d : Deployment) (σ : Cluster) (y : Peer) (k : FetchKind) (c : UInt16)
    (response request : Message) : Prop where
  response_key : response.responseKey = some (k, y.1, c)
  request_key : request.requestKey = some (k, y.1, c)
  good_response : ∀ z, GoodMessage d σ z response
  good_request : d.layout.envoy y.1 c = some y.2 → ∀ z, GoodMessage d σ z request

/-- The exchange after the trigger of a kind for the cycle of `p`. -/
def afterTriggerOf (d : Deployment) (x : Exchange) (y : Peer) (k : FetchKind) (c : UInt16)
    (ω : Choice) : Exchange :=
  afterCommit x y (k.trigger c) [] (x.triggerToken d.layout y k c (drawn d ω))

section Step

variable (h : Round3Inv d σ token) (hc : Commits d σ σ' y e ω before m p)
  (hentry : entryOf p = k.trigger p.cycle)
  (hmessages : TriggerMessages d σ y k p.cycle response request)
  (hs : TriggerStep d σ y ω before p k response request s)

include h hc hentry hmessages hs

theorem TriggerStep.commitStep : CommitStep d σ y before p [] s token
    ((exchange σ token).triggerToken d.layout y k p.cycle (drawn d ω)) := by
  have hnext : (exchange σ token).Next d.layout y (k.trigger p.cycle) := hentry ▸ hc.next_entry
  have hpending := (SlOk.taken hc.toDispatch (h.sl y)).pending k p.cycle
  obtain ⟨events, hhistory, hissued, hcommitted, hclosed⟩ := hs.history
  have hresponse := requestKey_of_responseKey hmessages.response_key
  have hrequest := responseKey_of_requestKey hmessages.request_key
  refine {
    juggleQueue := hs.juggleQueue
    nextCycle := hs.nextCycle
    envoysRr := hs.envoysRr
    issued := ?_
    committed := ?_
    queue := hs.queue.trans (List.append_nil _).symm
    leader := fun _ => rfl
    status := hs.status
    pending := fun k' c' hne => hs.pending k' c' fun heq => hne heq.2
    storage := hs.storage
    closed := ?_
    moved := fun k' b A c' hne => triggerToken_of_ne fun heq => hne heq.2
    done := fun k' b A c' => h.inv.triggerToken_done hnext
    elsewhere := fun z hz k' b c' => pending_trigger h.inv hnext hz
    requests := fun z k' b c' => ?_
    responses := fun z k' A c' => ?_
    good := fun z e' he' => ?_ }
  · rw [hhistory, issuedOf_append]
    show _ ++ issuedOf events = _
    rw [hissued, List.append_nil]
  · rw [hhistory, committedOf_append]
    show _ ++ p :: committedOf events = _
    rw [hcommitted]
  · rw [hhistory]
    unfold closedOf
    rw [List.filterMap_append]
    show _ ++ closedOf events = _
    rw [hclosed]
  · rw [asked_trigger h.inv hnext hc.has.1, hs.sendQueue, sent_append, countKey_add,
      countKey_answers Message.requestKey_copy hpending.nodup,
      countKey_asked Message.requestKey_copy hc.has.1, hresponse, hmessages.request_key]
    simp
    rfl
  · rw [answered_trigger h.inv hnext hpending, hs.sendQueue, sent_append, countKey_add,
      countKey_answers Message.responseKey_copy hpending.nodup,
      countKey_asked Message.responseKey_copy hc.has.1, hrequest, hmessages.response_key]
    simp
    rfl
  · rw [hs.sendQueue] at he'
    unfold sent at he'
    obtain ⟨element, helement, hdelivered⟩ := List.mem_flatMap.mp (Multiset.mem_coe.mp he')
    rw [(mem_deliveries hdelivered).1]
    refine GoodMessage.copy ?_
    rcases List.mem_append.mp helement with helement | helement
    · rw [mem_answers helement]
      exact (hmessages.good_response z).copy
    · obtain ⟨henvoy, hm⟩ := mem_asked helement
      rw [hm]
      exact hmessages.good_request henvoy z

/-- **Any trigger** keeps the invariant, when the new status of the cycle is right. -/
theorem Round3Inv.triggered
    (hstatus : StatusAt d (install y before (.ok s) σ)
      (afterTriggerOf d (exchange σ token) y k p.cycle ω) y p.cycle (s.mapRound3Status p.cycle))
    (hevents : ∀ ev ∈ s.history, ev ∈ before.sl.history
      ∨ EventOk d (install y before (.ok s) σ) y ev) :
    Round3Inv d (install y before (.ok s) σ)
      ((exchange σ token).triggerToken d.layout y k p.cycle (drawn d ω)) := by
  have hnext : (exchange σ token).Next d.layout y (k.trigger p.cycle) := hentry ▸ hc.next_entry
  have hsl := SlOk.taken hc.toDispatch (h.sl y)
  refine h.commit hc.toDispatch (hs.commitStep h hc hentry hmessages) hc.round2 ?_
    (hentry ▸ hstatus) (fun k' => ?_) hevents fun q hq => absurd hq List.not_mem_nil
  · have hinv : ((exchange σ token).trigger d.layout y k p.cycle (drawn d ω)).Inv d.layout :=
      h.inv.trigger hnext fun A hA => Nat.mod_lt _ hA
    rw [hentry, List.map_nil, afterCommit_nil]
    exact hinv
  · by_cases hk : k' = k
    · subst hk
      refine ⟨?_, fun z => ?_⟩
      · rw [hs.pending_self]
        exact List.nodup_nil
      · rw [hs.pending_self]
        exact iff_of_false List.not_mem_nil fun hp => not_pending_trigger hp.1
    · rw [hs.pending k' p.cycle fun heq => hk heq.1]
      refine (hsl.pending k' p.cycle).congr fun b' => ?_
      show (exchange σ token).triggerToken d.layout y k p.cycle (drawn d ω) k' b' y.1 p.cycle = _
        ↔ _
      rw [triggerToken_of_ne fun heq => hk heq.1]

end Step

/-! ## The state after a trigger -/

/-- What answering the pending requests adds to the history. -/
def answeredEvents (k : FetchKind) (c : UInt16) (response : Message)
    (requests : Option (List (UInt16 × UInt16))) : List Event :=
  (requests.getD []).map fun r => .answered k c r response.copy

theorem respond_sendQueue : (respond k c response s).sendQueue
    = s.sendQueue ++ answers response (s.mapRound3PendingRequests k c) := by
  unfold respond answers
  cases s.mapRound3PendingRequests k c with
  | none => exact (List.append_nil _).symm
  | some l => rfl

theorem respond_history : (respond k c response s).history
    = s.history ++ answeredEvents k c response (s.mapRound3PendingRequests k c) := by
  unfold respond answeredEvents
  cases s.mapRound3PendingRequests k c with
  | none => exact (List.append_nil _).symm
  | some l => rfl

theorem respond_pending {k' : FetchKind} {c' : UInt16} (hne : ¬ (k' = k ∧ c' = c)) :
    (respond k c response s).mapRound3PendingRequests k' c' = s.mapRound3PendingRequests k' c' := by
  unfold respond
  cases s.mapRound3PendingRequests k c with
  | none => rfl
  | some l =>
    show Function.update s.mapRound3PendingRequests k _ k' c' = _
    by_cases hk : k' = k
    · subst hk
      rw [Function.update_self, Function.update_of_ne fun hc => hne ⟨rfl, hc⟩]
      rfl
    · rw [Function.update_of_ne hk]

theorem respond_pending_self :
    requesters ((respond k c response s).mapRound3PendingRequests k c) = [] := by
  unfold respond
  cases hget : s.mapRound3PendingRequests k c with
  | none =>
    dsimp only
    rw [hget]
    rfl
  | some l =>
    show requesters (Function.update s.mapRound3PendingRequests k _ k c) = _
    rw [Function.update_self, Function.update_self]
    rfl

/-- What answering the pending requests leaves alone. -/
theorem respond_fields (k : FetchKind) (c : UInt16) (response : Message) (s : ConnManager) :
    (respond k c response s).juggleQueue = s.juggleQueue
    ∧ (respond k c response s).leaderRound2NextRcanopusCycle = s.leaderRound2NextRcanopusCycle
    ∧ (respond k c response s).leaderEnvoysRr = s.leaderEnvoysRr
    ∧ (respond k c response s).pLeaderRound2PendingPreprepareRaw
      = s.pLeaderRound2PendingPreprepareRaw
    ∧ (respond k c response s).pStorage = s.pStorage
    ∧ (respond k c response s).pRound2CurrentStatus = s.pRound2CurrentStatus := by
  unfold respond
  split <;> exact ⟨rfl, rfl, rfl, rfl, rfl, rfl⟩

theorem afterTrigger_history : (afterTrigger k c status response s).history
    = s.history ++ answeredEvents k c response (s.mapRound3PendingRequests k c) := respond_history

theorem afterTrigger_current : (afterTrigger k c status response s).pRound2CurrentStatus = none :=
  (respond_fields k c response _).2.2.2.2.2

theorem answeredEvents_none (k : FetchKind) (c : UInt16) (response : Message)
    (requests : Option (List (UInt16 × UInt16))) :
    issuedOf (answeredEvents k c response requests) = []
      ∧ committedOf (answeredEvents k c response requests) = []
      ∧ closedOf (answeredEvents k c response requests) = [] := by
  unfold answeredEvents issuedOf committedOf closedOf
  simp

/-- Only the primary envoy asks. -/
theorem ask_or (hN : d.conf.numBG ≠ 1) :
    (if d.layout.envoy y.1 c = some y.2 then ask (d.env y) ω request s else s)
      = { s with sendQueue := s.sendQueue ++ asked d y c ω request } := by
  unfold asked
  by_cases henvoy : d.layout.envoy y.1 c = some y.2
  · rw [if_pos henvoy, if_pos ⟨henvoy, hN⟩]
    rfl
  · rw [if_neg henvoy, if_neg fun h => henvoy h.1, List.append_nil]

section State

variable (hc : Commits d σ σ' y e ω before m p)

include hc

/-- The state after a trigger that does not end the cycle. -/
theorem Commits.triggerStep (hclosed : closedCycle d.conf.numBG (entryOf p) = none)
    (hN : d.conf.numBG ≠ 1) : TriggerStep d σ y ω before p k response request
      (if d.layout.envoy y.1 p.cycle = some y.2 then
        ask (d.env y) ω request
          (afterTrigger k p.cycle status response (beforeBranch p before.sl))
      else afterTrigger k p.cycle status response (beforeBranch p before.sl)) := by
  obtain ⟨hjuggle, hcycle, henvoys, hqueue, hstorage, -⟩ :=
    respond_fields k p.cycle response
      (clearRound2 ((beforeBranch p before.sl).setStatus p.cycle status))
  obtain ⟨hissued, hcommitted, hnone⟩ := answeredEvents_none k p.cycle response
    (before.sl.mapRound3PendingRequests k p.cycle)
  rw [ask_or hN]
  refine {
    juggleQueue := hjuggle
    nextCycle := hcycle
    envoysRr := henvoys
    queue := hqueue
    history := ⟨_, respond_history.trans (List.append_assoc ..), hissued, hcommitted, ?_⟩
    status := fun c hne => ?_
    pending := fun k' c' hne => respond_pending hne
    pending_self := respond_pending_self
    storage := hstorage.trans ?_
    sendQueue := ?_ }
  · rw [hclosed]
    exact hnone
  · show (afterTrigger _ _ _ _ _).mapRound3Status c = _
    rw [afterTrigger_status, Function.update_of_ne hne]
    rfl
  · rw [hclosed]
    exact (List.append_nil _).symm
  · show (respond _ _ _ _).sendQueue ++ _ = _
    rw [respond_sendQueue]
    show before.sl.sendQueue ++ _ ++ _ = _
    rw [hc.sendQueue]
    rfl

/-- The state after a trigger that ends the cycle of a single BG. -/
theorem Commits.triggerStep_single (status status' : CycleStatus) (hN : d.conf.numBG = 1)
    (hclosed : closedCycle d.conf.numBG (entryOf p) = some p.cycle) :
    TriggerStep d σ y ω before p k response request
      (commitCycle p.cycle status'
        (afterTrigger k p.cycle status response (beforeBranch p before.sl))) := by
  obtain ⟨hjuggle, hcycle, henvoys, hqueue, hstorage, -⟩ :=
    respond_fields k p.cycle response
      (clearRound2 ((beforeBranch p before.sl).setStatus p.cycle status))
  obtain ⟨hissued, hcommitted, hnone⟩ := answeredEvents_none k p.cycle response
    (before.sl.mapRound3PendingRequests k p.cycle)
  refine {
    juggleQueue := hjuggle
    nextCycle := hcycle
    envoysRr := henvoys
    queue := hqueue
    history := ⟨answeredEvents k p.cycle response (before.sl.mapRound3PendingRequests k p.cycle)
      ++ [.round3Committed p.cycle status'], ?_, ?_, ?_, ?_⟩
    status := fun c hne => ?_
    pending := fun k' c' hne => respond_pending hne
    pending_self := respond_pending_self
    storage := ?_
    sendQueue := ?_ }
  · show (respond _ _ _ _).history ++ _ = _
    rw [respond_history]
    show before.sl.history ++ [.committed p] ++ _ ++ _ = _
    rw [List.append_assoc, List.append_assoc, List.singleton_append]
    rfl
  · rw [issuedOf_append, hissued]
    rfl
  · rw [committedOf_append, hcommitted]
    rfl
  · rw [hclosed]
    unfold closedOf at hnone ⊢
    rw [List.filterMap_append, hnone]
    rfl
  · show Function.update (afterTrigger _ _ _ _ _).mapRound3Status p.cycle none c = _
    rw [Function.update_of_ne hne, afterTrigger_status, Function.update_of_ne hne]
    rfl
  · rw [hclosed]
    exact congrArg (· ++ [p.cycle]) hstorage
  · show (respond _ _ _ _).sendQueue = _
    rw [respond_sendQueue]
    unfold asked
    rw [if_neg fun h => h.2 hN, List.append_nil]
    show before.sl.sendQueue ++ _ = _
    rw [hc.sendQueue]
    rfl

end State

/-! ## The end of a trigger -/

/-- The status is right in every state in which `p` was committed too. -/
def StatusAfter (d : Deployment) (σ : Cluster) (x' : Exchange) (y : Peer)
    (p : MessageRound2Preprepare) (status : CycleStatus) : Prop :=
  ∀ σ', (∀ b, issued σ b ⊆ issued σ' b) → committed σ y ⊆ committed σ' y → p ∈ committed σ' y →
    StatusOk d σ' x' y p.cycle status

section End

variable (h : Round3Inv d σ token) (h2 : Round2Ok d σ') (hc : Commits d σ σ' y e ω before m p)
  (hentry : entryOf p = k.trigger p.cycle)
  (hmessages : TriggerMessages d σ y k p.cycle (ownAnswer (d.env y) k p) request)

include h hc hentry hmessages

/-- What happened in a trigger. -/
theorem EventOk.of_trigger {s : ConnManager} (hs : TriggerStep d σ y ω before p k
      (ownAnswer (d.env y) k p) request s) {ev : Event}
    (hev : ev ∈ before.sl.history ++ [.committed p] ++ answeredEvents k p.cycle
      (ownAnswer (d.env y) k p) (before.sl.mapRound3PendingRequests k p.cycle)) :
    ev ∈ before.sl.history ∨ EventOk d (install y before (.ok s) σ) y ev := by
  have hcommit := hs.commitStep h hc hentry hmessages
  rcases List.mem_append.mp hev with hev | hev
  · rcases List.mem_append.mp hev with hev | hev
    · exact Or.inl hev
    · rw [List.mem_singleton] at hev
      subst hev
      exact Or.inr trivial
  · obtain ⟨r, -, rfl⟩ := List.mem_map.mp hev
    exact Or.inr ⟨p, hcommit.mem_committed hc.toDispatch, hentry, rfl⟩

include h2 in
/-- **A trigger** that does not end the cycle: the primary envoy asks the other BGs. -/
theorem Commits.asks (hN : 2 ≤ d.conf.numBG)
    (hstatus : StatusAfter d σ (afterTriggerOf d (exchange σ token) y k p.cycle ω) y p status)
    (hout : fullCommitBranch (d.env y) ω m p (.committed p) (beforeBranch p before.sl)
        (spawnRound2 (d.env y) ω)
      = (askOthers (d.env y) ω (d.layout.envoy y.1 p.cycle) request
          (afterTrigger k p.cycle status (ownAnswer (d.env y) k p)
            (beforeBranch p before.sl))).andThen (spawnRound2 (d.env y) ω)) :
    Keeps3 d σ y before (fullCommitBranch (d.env y) ω m p (.committed p)
      (beforeBranch p before.sl) (spawnRound2 (d.env y) ω)) := by
  have hbranch := hc.branch
  rw [hout] at hbranch ⊢
  have hclosed : closedCycle d.conf.numBG (entryOf p) = none := by
    rw [hentry, Option.eq_none_iff_forall_ne_some]
    exact fun c' hc' => closer_ne_trigger hN c' (closedCycle_eq.mp hc').symm
  have hs : TriggerStep d σ y ω before p k (ownAnswer (d.env y) k p) request
      (if d.layout.envoy y.1 p.cycle = some y.2 then ask (d.env y) ω request
        (afterTrigger k p.cycle status (ownAnswer (d.env y) k p) (beforeBranch p before.sl))
      else afterTrigger k p.cycle status (ownAnswer (d.env y) k p) (beforeBranch p before.sl)) :=
    hc.triggerStep hclosed (by omega)
  generalize hfinal : (if d.layout.envoy y.1 p.cycle = some y.2 then ask (d.env y) ω request
        (afterTrigger k p.cycle status (ownAnswer (d.env y) k p) (beforeBranch p before.sl))
      else afterTrigger k p.cycle status (ownAnswer (d.env y) k p) (beforeBranch p before.sl)) = s'
    at hs
  have hcommit := hs.commitStep h hc hentry hmessages
  have hinv : Round3Inv d (install y before (.ok s') σ)
      ((exchange σ token).triggerToken d.layout y k p.cycle (drawn d ω)) := by
    refine h.triggered hc hentry hmessages hs ?_ fun ev hev => ?_
    · have hget : s'.mapRound3Status p.cycle = some status := by
        rw [← hfinal, ask_or (by omega)]
        show (afterTrigger _ _ _ _ _).mapRound3Status _ = _
        rw [afterTrigger_status, Function.update_self]
      rw [hget]
      refine hstatus _ (fun b => ?_) (hcommit.committed_subset hc.toDispatch)
        (hcommit.mem_committed hc.toDispatch)
      rw [hcommit.issued_eq hc.toDispatch]
      exact fun _ hq => hq
    · refine EventOk.of_trigger h hc hentry hmessages hs ?_
      rw [← hfinal, ask_or (by omega)] at hev
      have hev : ev ∈ (afterTrigger _ _ _ _ _).history := hev
      rw [afterTrigger_history] at hev
      exact hev
  have hidle : s'.pRound2CurrentStatus = none := by
    rw [← hfinal, ask_or (by omega)]
    exact afterTrigger_current
  cases henvoy : d.layout.envoy y.1 p.cycle with
  | none =>
    rw [henvoy, if_neg (by simp)] at hfinal
    rw [hfinal]
    exact ⟨.noEnvoy s' p.cycle henvoy, _, hinv.thrown⟩
  | some j =>
    rw [henvoy] at hbranch hfinal
    simp only [Option.some.injEq] at hfinal
    unfold askOthers at hbranch ⊢
    dsimp only at hbranch ⊢
    rw [Outcome.andThen_ok] at hbranch ⊢
    rw [show (d.env y).conf.sLid = y.2 from rfl, hfinal] at hbranch ⊢
    exact hinv.spawned hc.toDispatch h2 hbranch hidle

include h2 in
/-- **A trigger** that ends the cycle of a single BG. -/
theorem Commits.ends {status' : CycleStatus} (hN : d.conf.numBG = 1) (hk : k = .result)
    (hslots : ∀ A < d.conf.numBG, ∃ r, status'.rgMsgRound3FetchResponse A = some r
      ∧ ∃ q ∈ issued σ A, entryOf q = .client p.cycle ∧ r.entirePreprepareMsg = q.sentBytes d.host)
    (hout : fullCommitBranch (d.env y) ω m p (.committed p) (beforeBranch p before.sl)
        (spawnRound2 (d.env y) ω)
      = spawnRound2 (d.env y) ω (commitCycle p.cycle status'
          (afterTrigger k p.cycle status (ownAnswer (d.env y) k p) (beforeBranch p before.sl)))) :
    Keeps3 d σ y before (fullCommitBranch (d.env y) ω m p (.committed p)
      (beforeBranch p before.sl) (spawnRound2 (d.env y) ω)) := by
  have hbranch := hc.branch
  rw [hout] at hbranch ⊢
  have hcloser : entryOf p = closer d.conf.numBG p.cycle := by
    unfold closer
    rw [hentry, if_pos hN, hk]
    rfl
  have hs : TriggerStep d σ y ω before p k (ownAnswer (d.env y) k p) request _ :=
    hc.triggerStep_single status status' hN (closedCycle_eq.mpr hcloser)
  have hcommit := hs.commitStep h hc hentry hmessages
  refine (h.triggered hc hentry hmessages hs ?_ fun ev hev => ?_).spawned hc.toDispatch h2 hbranch
    afterTrigger_current
  · have hnone : (commitCycle p.cycle status' (afterTrigger k p.cycle status
        (ownAnswer (d.env y) k p) (beforeBranch p before.sl))).mapRound3Status p.cycle = none :=
      Function.update_self ..
    rw [hnone]
    exact Or.inr (afterCommit_mem.mpr (Or.inr (hcloser.symm.trans hentry)))
  · rcases List.mem_append.mp hev with hev | hev
    · rw [afterTrigger_history] at hev
      exact EventOk.of_trigger h hc hentry hmessages hs hev
    · rw [List.mem_singleton] at hev
      subst hev
      refine Or.inr ⟨?_, fun A hA => ?_⟩
      · rw [← hcloser]
        exact List.mem_map_of_mem (hcommit.mem_committed hc.toDispatch)
      · obtain ⟨r, hr, q, hq, hcarries⟩ := hslots A hA
        refine ⟨r, hr, q, ?_, hcarries⟩
        rw [hcommit.issued_eq hc.toDispatch]
        exact hq

end End

end RCanopus
