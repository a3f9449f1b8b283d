import RCanopus.Baseline.CycleInv
import RCanopus.Round3Trigger

/-!
# Fetching the results

The requests of the SLs and their answers keep the invariant of their cycle.
-/

namespace RCanopus.Baseline

open Baseline.Cluster

variable {d : Deployment} {σ σ' : Cluster} {x y z : Peer} {e : QueueElement} {ω : Choice}
  {before : Node} {c : UInt16} {k : Key} {s : ConnManager} {g g' : Progress}

/-! ## Dispatches -/

theorem Cluster.Dispatch.view_eq (hd : Dispatch d σ σ' x e ω before) :
    before.sl.cycleView c
      = { viewAt σ c x with juggled := (before.sl.cycleView c).juggled } :=
  congrArg (ConnManager.cycleView c) hd.sl_eq

theorem Cluster.Dispatch.status_eq (hd : Dispatch d σ σ' x e ω before) :
    before.sl.mapRound3Status c = (viewAt σ c x).status :=
  congrArg CycleView.status (hd.view_eq (c := c))

theorem Cluster.Dispatch.pending_eq (hd : Dispatch d σ σ' x e ω before) :
    before.sl.mapRound3PendingFetchRequests c = (viewAt σ c x).pending :=
  congrArg CycleView.pending (hd.view_eq (c := c))

theorem Cluster.Dispatch.mem_pool (hd : Dispatch d σ σ' x e ω before) : e ∈ pool σ x := by
  rw [hd.taken]
  exact Multiset.mem_cons_self _ _

/-- Nothing waits to be sent when a handler is called. -/
theorem sends_nil (hsend : before.sl.sendQueue = []) : (before.sl.cycleView c).sends = [] := by
  show before.sl.sendQueue.filter _ = []
  rw [hsend]
  rfl

/-- What the leaders have planned after a dispatch. -/
theorem Cluster.Dispatch.planned (hd : Dispatch d σ σ' x e ω before)
    (hplan : x.2 = 0 → (Plans (dispatcherRound2 (d.env x) ω e before.sl).state c
      ↔ Plans before.sl c)) (b : Nat) : Plans (σ' (b, 0)).sl c ↔ Plans (σ (b, 0)).sl c := by
  rw [hd.result]
  by_cases hx : (b, 0) = x
  · subst hx
    rw [install_sl_self]
    refine (hplan rfl).trans ?_
    rw [hd.sl_eq]
    exact Iff.rfl
  · rw [install_sl_of_ne hx]

/-- A dispatch that leaves the cycle alone, but that may put its element back. -/
theorem CycleOk.quiet (h : CycleOk d σ c g) (hd : Dispatch d σ σ' x e ω before)
    (hsend : before.sl.sendQueue = [])
    (hview : (dispatcherRound2 (d.env x) ω e before.sl).state.cycleView c
        = before.sl.cycleView c
      ∨ (dispatcherRound2 (d.env x) ω e before.sl).state.cycleView c
        = (before.sl.cycleView c).juggle e)
    (hplan : x.2 = 0 → (Plans (dispatcherRound2 (d.env x) ω e before.sl).state c
      ↔ Plans before.sl c)) : CycleOk d σ' c g := by
  have hbefore := hd.view_eq (c := c)
  have hnone := sends_nil (c := c) hsend
  rcases hview with hview | hview
  · have ht := hd.turn (c := c) true rfl (by rw [hview]; exact (List.append_nil _).symm)
    rw [hview] at ht
    refine h.turn_quiet ht ?_ ?_ ?_ ?_ ?_ hnone fun b _ => hd.planned hplan b
    all_goals rw [hbefore]
  · have ht := hd.turn (c := c) false rfl (by rw [hview]; rfl)
    rw [hview] at ht
    refine h.turn_quiet ht ?_ ?_ ?_ ?_ ?_ hnone fun b _ => hd.planned hplan b
    all_goals
      unfold CycleView.juggle
      rw [hbefore]

/-! ## Counting what is sent -/

theorem keyCount_sent_singleton (el : QueueElement) : keyCount c k (sent x [el] y)
    = if el.pMessage.key = some (c, k) then
        (if y = x ∧ none ∈ el.upPeers then 1 else 0) + el.upPeers.count (some y)
      else 0 := by
  rw [sent_singleton]
  unfold deliveries
  rw [← Multiset.coe_add, keyCount_add]
  have hfilter : keyCount c k ↑((el.upPeers.filter (· = some y)).map fun _ =>
      ({ upPeers := [some x], pMessage := el.pMessage.copy } : QueueElement))
      = if el.pMessage.key = some (c, k) then el.upPeers.count (some y) else 0 := by
    unfold keyCount
    rw [Multiset.coe_countP, List.countP_map]
    split
    · next hk =>
      rw [List.countP_eq_length.mpr fun _ _ => by simp [hk], ← List.countP_eq_length_filter,
        List.count_eq_countP]
      exact List.countP_congr fun p _ => by simp
    · next hk =>
      rw [List.countP_eq_zero]
      simp [hk]
  rw [hfilter]
  by_cases hself : y = x ∧ none ∈ el.upPeers
  · rw [if_pos ⟨hself.1, List.contains_iff_mem.mpr hself.2⟩, if_pos hself,
      Multiset.coe_singleton, keyCount_singleton]
    simp only [Message.key_copy]
    split <;> simp
  · rw [if_neg fun hc => hself ⟨hc.1, List.contains_iff_mem.mp hc.2⟩, if_neg hself]
    show 0 + _ = _
    split <;> simp

/-- Answers to different SLs. -/
theorem keyCount_sent_answers {requests : List (UInt16 × UInt16)}
    {m : MessageRound3FetchResponse} (hnodup : (requesters (some requests)).Nodup) :
    keyCount c k (sent x [{ upPeers := (requests.map requestPeer).reverse
                            pMessage := .common (.round3FetchResponse m) }] y)
      = if k = .response m.senderBGid.toNat ∧ m.cycle = c ∧ y ∈ requesters (some requests) then 1
        else 0 := by
  have hself : ¬(y = x ∧ none ∈ (requests.map requestPeer).reverse) := by
    simp [requestPeer]
  rw [keyCount_sent_singleton]
  dsimp only
  rw [if_neg hself, Nat.zero_add, count_requestPeer hnodup]
  by_cases hkey : (Message.common (.round3FetchResponse m)).key = some (c, k)
  · have hk : k = .response m.senderBGid.toNat ∧ m.cycle = c := by
      have := Prod.mk.inj (Option.some.inj hkey)
      exact ⟨this.2.symm, this.1⟩
    rw [if_pos hkey]
    exact if_congr ⟨fun hy => ⟨hk.1, hk.2, hy⟩, fun h => h.2.2⟩ rfl rfl
  · rw [if_neg hkey, if_neg]
    rintro ⟨hk, hc, -⟩
    exact hkey (by rw [hk, ← hc]; rfl)

/-! ## Requests -/

/-- A request moves on. -/
theorem same_setToken {numBG A j : Nat} {t : FetchToken} (hold : g.token z A = .asked j)
    (hd : t ≠ .done) (hp : ∀ i, t = .pending i → y ≠ (A, i)) :
    g.Same numBG (g.setToken z A t) y := by
  refine ⟨rfl, rfl, fun B _ _ => ?_, fun z' => ?_, rfl⟩
  · rw [Progress.setToken_token]
    split
    · next heq => simp [heq.1, heq.2, hold, hd]
    · exact Iff.rfl
  · rw [Progress.setToken_token]
    split
    · next heq =>
      rw [heq.1, heq.2, hold]
      refine iff_of_false (fun ht => hp y.2 ht ?_) (by simp)
      rw [← heq.2]
    · exact Iff.rfl

/-- What an SL notes without a mark. -/
theorem SlCycle.notes {v : CycleView} {evs : List Event} (h : SlCycle d c g y v)
    (hmarks : Baseline.marks evs = []) : SlCycle d c g y (v.notes evs) :=
  { h with
    marks := by
      show Baseline.marks (v.events ++ evs) = _
      rw [marks_append, hmarks, List.append_nil]
      exact h.marks }

theorem SlCycle.send {v : CycleView} (h : SlCycle d c g y v) (el : QueueElement) :
    SlCycle d c g y (v.send el) :=
  ⟨h.committed, h.stored, h.status, h.own, h.slots, h.nodup, h.pending, h.marks⟩

theorem Cluster.Dispatch.slCycle (hd : Dispatch d σ σ' x e ω before) (h : CycleOk d σ c g) :
    SlCycle d c g x (before.sl.cycleView c) := by
  rw [hd.view_eq]
  have hsl := h.sl x
  exact ⟨hsl.committed, hsl.stored, hsl.status, hsl.own, hsl.slots, hsl.nodup, hsl.pending,
    hsl.marks⟩

section Request

variable {m : MessageRound3FetchRequest}

/-- The state after one request was answered. -/
theorem cycleView_answerRequests {source : ReplySource} {r : MessageRound3FetchResponse}
    {requests : List (UInt16 × UInt16)} (hr : r.cycle = c) :
    (answerRequests source c r requests s).cycleView c
      = ((s.cycleView c).send
          { upPeers := (requests.map requestPeer).reverse
            pMessage := .common (.round3FetchResponse r) }).notes
          (requests.map fun q => .answered source c q r) := by
  unfold answerRequests
  dsimp only
  have hcycle : (Message.common (.round3FetchResponse r)).round3Cycle = some c :=
    congrArg some hr
  rw [cycleView_notes fun ev hev => ?_, cycleView_enqueue hcycle]
  obtain ⟨q, -, rfl⟩ := List.mem_map.mp hev
  rfl

theorem cycleView_answerRequests_of_ne {source : ReplySource} {r : MessageRound3FetchResponse}
    {requests : List (UInt16 × UInt16)} {c' : UInt16} (hr : r.cycle = c') (hne : c' ≠ c) :
    (answerRequests source c' r requests s).cycleView c = s.cycleView c := by
  have hcycle : (Message.common (.round3FetchResponse r)).round3Cycle ≠ some c := by
    show some r.cycle ≠ some c
    rw [hr]
    simpa using hne
  unfold answerRequests
  dsimp only
  rw [cycleView_notes_of_ne fun ev hev => ?_, cycleView_enqueue_of_ne hcycle]
  obtain ⟨q, -, rfl⟩ := List.mem_map.mp hev
  simpa [Event.cycle] using hne

theorem marks_answered {source : ReplySource} {r : MessageRound3FetchResponse}
    {requests : List (UInt16 × UInt16)} :
    marks (requests.map fun q => .answered source c q r) = [] := by
  unfold marks
  rw [List.filterMap_map]
  exact List.filterMap_eq_nil_iff.mpr fun _ _ => rfl

variable (h : CycleOk d σ c g) (hd : Dispatch d σ σ' x e ω before)
  (hsend : before.sl.sendQueue = []) (hm : e.pMessage = .common (.round3FetchRequest m))
  (hc : m.cycle = c)

include h hd hm hc

theorem CycleOk.asked : g.token (m.senderBGid.toNat, m.senderSLid.toNat) x.1 = .asked x.2 :=
  h.holds (k := .request (m.senderBGid.toNat, m.senderSLid.toNat)) hd.mem_pool
    (by rw [hm, ← hc]; rfl)

include hsend

/-- A request is answered. -/
theorem CycleOk.fetchRequest_answer {source : ReplySource} {r : MessageRound3FetchResponse}
    (hs : dispatcherRound2 (d.env x) ω e before.sl
      = .ok (answerRequests source c r [(m.senderBGid, m.senderSLid)] before.sl))
    (hr : r.cycle = c) (hcopy : r.copy = r) (hsender : r.senderBGid.toNat = x.1)
    (hown : EventOk d σ c x (.answered source c (m.senderBGid, m.senderSLid) r)) :
    CycleOk d σ' c (g.setToken (m.senderBGid.toNat, m.senderSLid.toNat) x.1 .answered) := by
  have hasked := h.asked hd hm hc
  generalize hz : (m.senderBGid.toNat, m.senderSLid.toNat) = z at hasked ⊢
  have hidle : g.token z x.1 ≠ .idle := by simp [hasked]
  have hlt := h.ok.lt_of_token hidle
  have hview : (answerRequests source c r [(m.senderBGid, m.senderSLid)]
      before.sl).cycleView c = _ := cycleView_answerRequests hr
  generalize hel : ({ upPeers := ([(m.senderBGid, m.senderSLid)].map requestPeer).reverse
                      pMessage := .common (.round3FetchResponse r) } : QueueElement) = el at hview
  have ht := hd.turn (c := c) true (congrArg Outcome.state hs)
    (by rw [Outcome.state_ok, hview]; exact (List.append_nil _).symm)
  rw [Outcome.state_ok, hview] at ht
  have hbefore := hd.view_eq (c := c)
  have hevs : (((before.sl.cycleView c).send el).notes
      ([(m.senderBGid, m.senderSLid)].map fun q => .answered source c q r)).events
      = (viewAt σ c x).events ++ [.answered source c (m.senderBGid, m.senderSLid) r] := by
    rw [hbefore]
    rfl
  have hps : (((before.sl.cycleView c).send el).notes
      ([(m.senderBGid, m.senderSLid)].map fun q => .answered source c q r)).committed
      = (viewAt σ c x).committed ++ [] := by
    rw [hbefore, List.append_nil]
    rfl
  have hsends : (((before.sl.cycleView c).send el).notes
      ([(m.senderBGid, m.senderSLid)].map fun q => .answered source c q r)).sends = [el] := by
    show (before.sl.cycleView c).sends ++ [el] = _
    rw [sends_nil hsend, List.nil_append]
  have hsame : ∀ y, g.Same d.conf.numBG (g.setToken z x.1 .answered) y := fun y =>
    same_setToken hasked (by simp) (by simp)
  have hnow : Answered σ' c x.1 r := by
    refine ⟨x.2, source, (m.senderBGid, m.senderSLid), ?_⟩
    rw [ht.self]
    show _ ∈ CycleView.events _
    rw [hevs]
    exact List.mem_append_right _ (List.mem_singleton_self _)
  refine h.turn ht hevs hps (h.ok.setToken hidle (by simp [hasked]) (by simp) (by simp) (by simp))
    (((hd.slCycle h).send _).notes marks_answered |>.same (hsame x)) (fun y _ => hsame y)
    (fun y k hk => ?_) (fun y k hk => ?_) (fun _ => rfl) (fun el' hel' _ => ?_)
    (fun status hstatus A hA r' hr' => ?_)
    (fun ev hev => ?_) fun b _ => ?_
  · have htoken := g.setToken_token (y := z) (A := x.1) .answered
    cases k with
    | request z' =>
      have hk : g.token z' y.1 = .asked y.2 := hk
      by_cases hzz : z' = z ∧ y.1 = x.1
      · rw [hzz.1, hzz.2, hasked] at hk
        refine Or.inr ⟨rfl, Prod.ext hzz.2 (FetchToken.asked.inj hk).symm, ?_⟩
        rw [hm, ← hc, hzz.1, ← hz]
        rfl
      · refine Or.inl ((htoken z' y.1).trans ?_)
        rw [if_neg hzz]
        exact hk
    | response A =>
      have hk : g.token y A = .answered := hk
      refine Or.inl ((htoken y A).trans ?_)
      split
      · rfl
      · exact hk
    | _ => exact Or.inl hk
  · have hone : (requesters (some [(m.senderBGid, m.senderSLid)])).Nodup :=
      List.nodup_singleton _
    rw [hsends, ← hel, keyCount_sent_answers hone] at hk ⊢
    split at hk
    · next hnew =>
      obtain ⟨rfl, -, hy⟩ := hnew
      have hy : y = z := by
        rw [← hz]
        simpa [requesters] using hy
      subst hy
      rw [hsender]
      refine ⟨by split <;> omega, ?_, ?_⟩
      · show ¬ g.token y x.1 = .answered
        rw [hasked]
        simp
      · show (g.setToken y x.1 .answered).token y x.1 = .answered
        rw [Progress.setToken_token, if_pos ⟨rfl, rfl⟩]
    · exact absurd hk (Nat.lt_irrefl 0)
  · rw [hsends, List.mem_singleton] at hel'
    rw [hel', ← hel]
    show Answered σ' c r.copy.senderBGid.toNat r.copy
    rw [hcopy, hsender]
    exact hnow
  · refine ht.answered hevs (h.slots x status ?_ A hA r' hr')
    rw [← hd.status_eq]
    exact hstatus
  · rw [List.mem_singleton.mp hev]
    exact ht.eventOk hevs hps hown
  · refine (hd.planned (fun _ => ?_) b).trans (h.planned b ‹_›)
    rw [hs]
    exact Iff.rfl

/-- A request waits for the result of its cycle. -/
theorem CycleOk.fetchRequest_wait
    (hs : dispatcherRound2 (d.env x) ω e before.sl = .ok (afterRequest m before.sl))
    (hidle : g.stage x = .idle) :
    CycleOk d σ' c (g.setToken (m.senderBGid.toNat, m.senderSLid.toNat) x.1 (.pending x.2)) := by
  have hasked := h.asked hd hm hc
  generalize hz : (m.senderBGid.toNat, m.senderSLid.toNat) = z at hasked ⊢
  have hold : g.token z x.1 ≠ .idle := by simp [hasked]
  have hpending := hd.pending_eq (c := c)
  have hview : (afterRequest m before.sl).cycleView c = { before.sl.cycleView c with
      pending := some (((viewAt σ c x).pending).getD [] ++ [(m.senderBGid, m.senderSLid)]) } := by
    unfold afterRequest
    rw [hc, hpending]
    exact cycleView_setPending
  have ht := hd.turn (c := c) true (congrArg Outcome.state hs)
    (by rw [Outcome.state_ok, hview]; exact (List.append_nil _).symm)
  rw [Outcome.state_ok, hview] at ht
  have hbefore := hd.view_eq (c := c)
  have hsl := hd.slCycle h
  have htoken := g.setToken_token (y := z) (A := x.1) (.pending x.2)
  have hrequesters : requesters
      (some (((viewAt σ c x).pending).getD [] ++ [(m.senderBGid, m.senderSLid)]))
      = requesters (viewAt σ c x).pending ++ [z] := by
    unfold requesters
    rw [Option.getD_some, List.map_append, List.map_singleton, hz]
  have hnew : z ∉ requesters (viewAt σ c x).pending := fun hmem => by
    have := ((h.sl x).pending z).mp hmem
    rw [hasked] at this
    simp at this
  have hevs : (before.sl.cycleView c).events = (viewAt σ c x).events ++ [] := by
    rw [hbefore]
    exact (List.append_nil _).symm
  have hps : (before.sl.cycleView c).committed = (viewAt σ c x).committed ++ [] := by
    rw [hbefore]
    exact (List.append_nil _).symm
  refine h.turn ht hevs hps
    (h.ok.setToken hold (by simp [hasked]) (by simp) (by simp) fun j hj => ?_) ?_
    (fun y hy => same_setToken hasked (by simp) fun i hi => ?_) (fun y k hk => ?_)
    (fun y k hk => ?_) (fun _ => rfl) (fun el hel _ => ?_) (fun status hstatus A hA r' hr' => ?_)
    (fun ev hev => absurd hev List.not_mem_nil) fun b _ => ?_
  · rw [← FetchToken.pending.inj hj]
    exact hidle
  · refine ⟨hsl.committed, hsl.stored, hsl.status, hsl.own, fun status hstatus A hA hne => ?_,
      ?_, fun z' => ?_, hsl.marks⟩
    · rw [htoken]
      refine (hsl.slots status hstatus A hA hne).trans ?_
      rw [if_neg fun heq => hne heq.2]
    · show (requesters (some _)).Nodup
      rw [hrequesters]
      refine List.Nodup.append (h.sl x).nodup (List.nodup_singleton z) fun w hw hw' => ?_
      rw [List.mem_singleton.mp hw'] at hw
      exact hnew hw
    · show z' ∈ requesters (some _) ↔ _
      rw [hrequesters, List.mem_append, List.mem_singleton, htoken, (h.sl x).pending]
      by_cases hzz : z' = z
      · simp [hzz]
      · simp [hzz]
  · rw [← FetchToken.pending.inj hi]
    exact hy
  · cases k with
    | request z' =>
      have hk : g.token z' y.1 = .asked y.2 := hk
      by_cases hzz : z' = z ∧ y.1 = x.1
      · rw [hzz.1, hzz.2, hasked] at hk
        refine Or.inr ⟨rfl, Prod.ext hzz.2 (FetchToken.asked.inj hk).symm, ?_⟩
        rw [hm, ← hc, hzz.1, ← hz]
        rfl
      · refine Or.inl ((htoken z' y.1).trans ?_)
        rw [if_neg hzz]
        exact hk
    | response A =>
      have hk : g.token y A = .answered := hk
      refine Or.inl ((htoken y A).trans ?_)
      split
      · next heq =>
        rw [heq.1, heq.2, hasked] at hk
        simp at hk
      · exact hk
    | _ => exact Or.inl hk
  · have hk : 0 < keyCount c k (sent x (before.sl.cycleView c).sends y) := hk
    rw [sends_nil hsend, sent_nil] at hk
    exact absurd hk (Nat.lt_irrefl 0)
  · have hel : el ∈ (before.sl.cycleView c).sends := hel
    rw [sends_nil hsend] at hel
    exact absurd hel List.not_mem_nil
  · refine ht.answered hevs (h.slots x status ?_ A hA r' hr')
    rw [← hd.status_eq]
    exact hstatus
  · refine (hd.planned (fun _ => ?_) b).trans (h.planned b ‹_›)
    rw [hs]
    exact Iff.rfl

end Request

/-! ### The template -/

/-- The template for late answers was made with a client Preprepare. -/
def FakeOk (env : Env) (s : ConnManager) : Prop :=
  ∀ f, s.fakeRound3ResponseForBaseline = some f →
    ∃ memory p, f = fakeRound3Response env.conf memory p
      ∧ p.header.getMessageSize = sizeofMessageHeader + clientPayloadSize env.conf

/-- The template carries what was in the memory. -/
theorem carries_fakeRound3Response {conf : Config} {memory : Nat → UInt8}
    {p : MessageRound2Preprepare} (hsize : p.header.getMessageSize + 50 < 2 ^ 32) :
    (fakeRound3Response conf memory p).Carries
      ((List.range' 0 p.header.getMessageSize).map memory) where
  content := rfl
  payload := by
    show (UInt32.ofNat _).toNat = _
    rw [UInt32.toNat_ofNat', Nat.mod_eq_of_lt, List.length_map, List.length_range']
    all_goals
      simp only [sizeofMessageRound3FetchResponse, sizeofMessageHeader]
      omega
  short := by
    rw [List.length_map, List.length_range']
    exact hsize

theorem MessageRound3FetchResponse.copy_copy (r : MessageRound3FetchResponse) :
    r.copy.copy = r.copy := by
  unfold RCanopus.MessageRound3FetchResponse.copy
  dsimp only
  rw [List.take_take, Nat.min_self]

/-- Ids of BGs fit in 16 bits. -/
theorem toNat_bGid (hfits : d.conf.Fits) {b : Nat} (hb : b < d.conf.numBG) :
    (UInt16.ofNat b).toNat = b := by
  have := hfits.numBG
  rw [UInt16.toNat_ofNat', Nat.mod_eq_of_lt (by omega)]

/-- Every cycle has the invariant, for some progress. -/
def CyclesOk (d : Deployment) (σ : Cluster) : Prop := ∀ c, ∃ g, CycleOk d σ c g

/-- The own result in the status of a cycle. -/
theorem CyclesOk.own (h : CyclesOk d σ) (hd : Dispatch d σ σ' x e ω before) (hfits : d.conf.Fits)
    {status : CycleStatus} (hstatus : before.sl.mapRound3Status c = some status) :
    ∃ r, status.rgMsgRound3FetchResponse x.1 = some r ∧ r.cycle = c ∧ r.senderBGid.toNat = x.1
      ∧ OwnAnswer d σ c x r := by
  obtain ⟨g, hg⟩ := h c
  obtain ⟨p, hp, hentry, hbGid, fc, hslot⟩ := (hg.sl x).own status (hd.status_eq.symm.trans hstatus)
  refine ⟨_, hslot, (entryOf_client.mp hentry).2, ?_, p, hp, hentry, fc, rfl⟩
  show p.bGid.toNat = x.1
  rw [hbGid, toNat_bGid hfits hd.has.1]

/-- **A request** keeps the invariant of every cycle. -/
theorem CyclesOk.fetchRequest {m : MessageRound3FetchRequest} (h : CyclesOk d σ)
    (hfits : d.conf.Fits) (hd : Dispatch d σ σ' x e ω before) (hsend : before.sl.sendQueue = [])
    (hfake : FakeOk (d.env x) before.sl) (hm : e.pMessage = .common (.round3FetchRequest m))
    (hs : dispatcherRound2 (d.env x) ω e before.sl
      = dispatcherRound3FetchRequest (d.env x) m before.sl) : CyclesNext d σ σ' x := by
  intro c g hg
  -- what happens to another cycle
  have hother : ∀ {s}, dispatcherRound2 (d.env x) ω e before.sl = s →
      s.state.common = before.sl.common → s.state.cycleView c = before.sl.cycleView c →
      ∃ g', CycleOk d σ' c g' ∧ g.Next d.conf.numBG x g' := fun {s} hs hcommon hview => by
    refine ⟨g, hg.quiet hd hsend (Or.inl (by rw [hs, hview])) fun _ => ?_, .stay⟩
    unfold Plans
    rw [hs, hcommon]
  cases hv : before.sl.mapRound3Status m.cycle with
  | some status =>
    obtain ⟨r, hslot, hcycle, hsender, hown⟩ := h.own hd hfits hv
    rw [fetchRequest_answered hv hslot] at hs
    by_cases hc : m.cycle = c
    · subst hc
      exact ⟨_, hg.fetchRequest_answer hd hsend hm rfl hs hcycle
        (MessageRound3FetchResponse.copy_copy _) hsender
        ⟨fun _ => ⟨r, hown, rfl⟩, fun hne => absurd hne (by simp)⟩,
        .setToken _ _ _⟩
    · exact hother hs rfl (cycleView_answerRequests_of_ne hcycle hc)
  | none =>
    by_cases hin : m.cycle ∈ before.sl.pStorage
    · cases hf : before.sl.fakeRound3ResponseForBaseline with
      | none =>
        have hthrown : dispatcherRound3FetchRequest (d.env x) m before.sl
            = .thrown .nullPointer before.sl := by
          unfold dispatcherRound3FetchRequest
          dsimp only
          rw [hv]
          dsimp only
          rw [if_pos hin, hf]
        exact hother (hs.trans hthrown) rfl rfl
      | some f =>
        obtain ⟨memory, p, rfl, hsize⟩ := hfake f hf
        rw [fetchRequest_late hv hin hf] at hs
        by_cases hc : m.cycle = c
        · subst hc
          refine ⟨_, hg.fetchRequest_answer hd hsend hm rfl hs rfl ?_ ?_
            ⟨fun hne => absurd rfl hne, fun _ => ?_⟩, .setToken _ _ _⟩
          · have := MessageRound3FetchResponse.copy_copy
              (fakeRound3Response (d.env x).conf memory p)
            exact congrArg (fun r : MessageRound3FetchResponse => { r with cycle := m.cycle }) this
          · show (UInt16.ofNat x.1).toNat = x.1
            exact toNat_bGid hfits hd.has.1
          · have hclient := (hfits.client x.1 (Nat.lt_of_le_of_lt (Nat.zero_le _) hd.has.2)).2
            have hsame : clientPayloadSize (d.env x).conf
                = clientPayloadSize (d.conf.ofSL x.1 0) := rfl
            have hcarries : (fakeRound3Response (d.env x).conf memory p).Carries _ :=
              carries_fakeRound3Response (by
                rw [hsize, hsame]
                simp only [sizeofMessageHeader]
                omega)
            refine ⟨rfl, rfl, ?_⟩
            show (fakeRound3Response (d.env x).conf memory p).copy.entirePreprepareMsg.length = _
            rw [hcarries.copy, hcarries.content, List.length_map, List.length_range', hsize]
        · exact hother hs rfl (cycleView_answerRequests_of_ne rfl hc)
    · rw [fetchRequest_waits hv hin] at hs
      by_cases hc : m.cycle = c
      · subst hc
        refine ⟨_, hg.fetchRequest_wait hd hsend hm rfl hs ?_, .setToken _ _ _⟩
        have hsl := hd.slCycle hg
        have hexpected := hsl.status
        have hstored := hsl.stored
        have hnone : (before.sl.cycleView m.cycle).status = none := hv
        have hnot : (before.sl.cycleView m.cycle).stored = false := decide_eq_false hin
        rw [hnone] at hexpected
        rw [hnot] at hstored
        refine (Progress.expected_eq_none _ _ _ |>.mp hexpected.symm).resolve_right fun hdone => ?_
        rw [hdone, decide_eq_true rfl] at hstored
        exact absurd hstored (by simp)
      · exact hother hs rfl (cycleView_setPending_of_ne hc)

end RCanopus.Baseline
