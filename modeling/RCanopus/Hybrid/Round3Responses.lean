import RCanopus.Hybrid.Round3Requests

/-!
# Responses in the hybrid variant

An SL keeps the result that it gets, and a response of the two later kinds goes to the leader. Each
response fills the slot of the answering BG. When all slots are filled at the leader, it queues what
follows.
-/

namespace RCanopus.Hybrid

open Cluster Gathering

variable {d : Deployment} {σ σ' : Cluster} {A : Nat} {c : UInt16} {y z w : Peer} {k : FetchKind}
  {e : QueueElement} {ω : Choice} {before : Node} {s : ConnManager} {x : Gathering}
  {token : FetchKind → Peer → Nat → UInt16 → Token} {m : Message}

/-! ## Passing a response on -/

/-- Responses are as good elsewhere. -/
theorem GoodMessage.elsewhere {key : FetchKind × Nat × UInt16} (h : GoodMessage d σ y m)
    (hkey : m.responseKey = some key) : GoodMessage d σ z m := by
  cases m <;> first | exact h | exact absurd hkey (by simp [Message.responseKey])

/-- The token of a response that is dispatched, and whose it is. -/
structure AnsweredHere (d : Deployment) (token : FetchKind → Peer → Nat → UInt16 → Token)
    (y : Peer) (k : FetchKind) (A : Nat) (c : UInt16) (w : Peer) : Prop where
  holder : holder d.layout k y c = some w
  home : w.1 = y.1
  token : token k w A c = .answered y.2
  numBG : y.1 < d.conf.numBG
  other : A < d.conf.numBG
  ne : A ≠ y.1

section Forward

variable (h : Round3Inv d σ token) (hd : Dispatch d σ σ' y e ω before)
  (hsend : before.sl.sendQueue = []) (hkey : e.pMessage.responseKey = some (k, A, c))

include h hd hkey

theorem Round3Inv.answered_here : ∃ w, AnsweredHere d token y k A c w := by
  have hheld := h.answered_of_response hd hkey
  obtain ⟨w, hholder, hhome, heq⟩ := exists_holder
    (show held d.layout token k y A c ≠ .idle by rw [hheld]; simp)
  have htoken := heq.symm.trans hheld
  have hidle : (gathering σ token).token k w A c ≠ .idle := by simp [gathering, htoken]
  obtain ⟨hb, -, hA, hne, -⟩ := (h.inv.asked k w A c).mp hidle
  exact ⟨w, hholder, hhome, htoken, hhome ▸ hb, hA, hhome ▸ hne⟩

include hsend

/-- **A response of the two later kinds is passed on to the leader.** -/
theorem Round3Inv.forward (hk : k ≠ .result) (hunstuck : Unstuck y before.sl) :
    Keeps3 d σ y before (forwardToLeader (d.env y) e before.sl) := by
  obtain ⟨w, hholder, hhome, htoken, -, -, hne⟩ := h.answered_here hd hkey
  have hgood := h.good_of_dispatch hd
  have hleader : 0 < d.conf.numSL y.1 := Nat.lt_of_le_of_lt (Nat.zero_le _) hd.has.2
  have hsends : (before.sl.enqueue { e with upPeers := [localPeer (d.env y).conf 0] }).sendQueue
      = [{ upPeers := [some (y.1, 0)], pMessage := e.pMessage }] := by
    show before.sl.sendQueue ++ _ = _
    rw [hsend]
    rfl
  have hpending := (SlOk.taken hd (h.sl y)).pending k c
  refine ⟨.returns _ (hunstuck.congr rfl rfl), _,
    h.move_token hd ?_ (h.inv.forward hk htoken (hhome ▸ hleader))⟩
  refine {
    step := ?_
    committed := rfl
    accepted := rfl
    queue := rfl
    status := rfl
    pending := fun _ _ _ => rfl
    pending_self := hpending.congr fun w' => ?_
    storage := rfl
    closed := rfl
    events := fun ev hev => Or.inl hev
    old := by simp [htoken]
    new := by simp
    elsewhere := fun z hz hA => by simp [htoken] }
  · refine ⟨rfl, rfl, rfl, rfl, fun z k' w' c' => ?_, fun z k' A' c' => ?_, fun z e' he' => ?_⟩
    · rw [hsends, countKey_sent_singleton (by simp) (by simp),
        requestFrom_eq_none (requestKey_of_responseKey hkey)]
      by_cases heq : k' = k ∧ w' = w ∧ z.1 = A ∧ c' = c
      · obtain ⟨rfl, rfl, hz, rfl⟩ := heq
        rw [hz, moveToken_self, htoken]
        simp
      · rw [moveToken_of_ne heq]
        simp
    · rw [hsends, countKey_sent_singleton (by simp) (by simp), hkey]
      by_cases heq : k' = k ∧ holder d.layout k' z c' = some w ∧ A' = A ∧ c' = c
      · obtain ⟨rfl, hz, rfl, rfl⟩ := heq
        have hbg : y.1 = z.1 := hhome.symm.trans (holder_bg hz)
        rw [held_moveToken_self hz, held_eq hz, htoken]
        simp [Prod.ext_iff, hbg, List.count_singleton, eq_comm (a := z.2), Nat.add_comm]
      · rw [held_moveToken_of_ne heq]
        simp only [Option.some.injEq, Prod.mk.injEq]
        by_cases hc : k = k' ∧ A = A' ∧ c = c'
        · obtain ⟨rfl, rfl, rfl⟩ := hc
          have hz : z.1 ≠ y.1 := fun hz =>
            heq ⟨rfl, (holder_congr hk hz).trans hholder, rfl, rfl⟩
          have hz' : z ≠ (y.1, 0) := fun hz' => hz (by rw [hz'])
          have hz'' : z ≠ y := fun hz' => hz (by rw [hz'])
          simp [Ne.symm hz', hz'']
        · rw [if_neg hc]
          simp [hc]
    · rw [hsends, sent_singleton, Multiset.mem_coe] at he'
      rw [(mem_deliveries he').1]
      exact (hgood.elsewhere hkey).copy
  · rw [setToken_of_ne fun heq => hne heq.2.2.1.symm]

end Forward

/-! ## Taking a response -/

/-- The gathering after the answer of BG `A` to SL `w` was taken. -/
def afterTake (x : Gathering) (k : FetchKind) (w : Peer) (A : Nat) (c : UInt16)
    (queued : List Entry) : Gathering :=
  { x.setToken k w A c .done with
    queue := Function.update x.queue w.1 (x.queue w.1 ++ queued) }

theorem afterTake_nil : afterTake x k w A c [] = x.setToken k w A c .done := by
  unfold afterTake
  rw [List.append_nil, Function.update_eq_self]
  rfl

section Take

variable (h : Round3Inv d σ token) (hd : Dispatch d σ σ' y e ω before)
  (hsend : before.sl.sendQueue = []) (hkey : e.pMessage.responseKey = some (k, A, c))
  (hhere : AnsweredHere d token y k A c w) (hy : k = .result ∨ y.2 = 0)

include h hd hsend hkey hhere hy

theorem Round3Inv.take (queued : List MessageRound2Preprepare) (hleader : y.2 ≠ 0 → queued = [])
    (hs : TakeStep c queued before.sl s)
    (hinv : (afterTake (gathering σ token) k w A c (queued.map entryOf)).Inv d.layout)
    (hstatus : StatusAt d σ (afterTake (gathering σ token) k w A c (queued.map entryOf)) y c
      (s.mapRound3Status c))
    (hqueued : ∀ p ∈ queued, Proposal d σ y.1 p) :
    Round3Inv d (install y before (.ok s) σ) (moveToken token k w A c .done) := by
  obtain ⟨hholder, hhome, htoken, -, -, hne⟩ := hhere
  have hissued : Cluster.issued (install y before (.ok s) σ) = Cluster.issued σ := by
    refine issued_install_of_eq ?_
    rw [Outcome.state_ok, hs.history, hd.sl_eq]
  have hcommitted : Cluster.committed (install y before (.ok s) σ) = Cluster.committed σ :=
    committed_install_of_eq hd (by rw [Outcome.state_ok, hs.history])
  have haccepted : Cluster.accepted (install y before (.ok s) σ) = Cluster.accepted σ :=
    accepted_dispatch hd (by rw [Outcome.state_ok, hs.history])
  have hgathering : gathering (install y before (.ok s) σ) (moveToken token k w A c .done)
      = afterTake (gathering σ token) k w A c (queued.map entryOf) := by
    unfold gathering afterTake entries
    rw [hissued, hcommitted, haccepted]
    simp only [Gathering.mk.injEq]
    refine ⟨rfl, ?_, rfl, rfl, rfl⟩
    funext b'
    rw [Function.update_apply, hhome]
    by_cases hb : (b', 0) = y
    · subst hb
      rw [install_sl_self, if_pos rfl]
      show s.pLeaderRound2PendingPreprepareRaw.map entryOf = _
      rw [hs.queue, hd.sl_eq, List.map_append]
    · rw [install_sl_of_ne hb]
      split
      · next hb' =>
        subst hb'
        rw [hleader fun hy => hb (Prod.ext rfl hy.symm), List.map_nil, List.append_nil]
      · rfl
  have hstep : Round3Step d σ y e before s token (moveToken token k w A c .done) := by
    refine ⟨hs.juggleQueue, by rw [hs.history], hs.nextCycle, hs.envoysRr,
      fun z k' w' c' => ?_, fun z k' A' c' => ?_, fun z e' he' => ?_⟩
    · rw [hs.sendQueue, hsend, sent_nil, requestFrom_eq_none (requestKey_of_responseKey hkey)]
      by_cases heq : k' = k ∧ w' = w ∧ z.1 = A ∧ c' = c
      · obtain ⟨rfl, rfl, hz, rfl⟩ := heq
        rw [hz, moveToken_self, htoken]
        simp [countKey]
      · rw [moveToken_of_ne heq]
        simp [countKey]
    · rw [hs.sendQueue, hsend, sent_nil, hkey]
      by_cases heq : k' = k ∧ holder d.layout k' z c' = some w ∧ A' = A ∧ c' = c
      · obtain ⟨rfl, hz, rfl, rfl⟩ := heq
        have hbg : z.1 = y.1 := (holder_bg hz).symm.trans hhome
        rw [held_moveToken_self hz, held_eq hz, htoken]
        simp [countKey, Prod.ext_iff, hbg, eq_comm]
      · have hother : ¬ (z = y ∧ k = k' ∧ A = A' ∧ c = c') := by
          rintro ⟨rfl, rfl, rfl, rfl⟩
          exact heq ⟨rfl, hholder, rfl, rfl⟩
        rw [held_moveToken_of_ne heq]
        simp only [Option.some.injEq, Prod.mk.injEq]
        rw [if_neg hother]
        rfl
    · rw [hs.sendQueue, hsend, sent_nil] at he'
      exact absurd he' (Multiset.notMem_zero _)
  have hdone : ∀ k' (z : Peer) A' c', z ≠ y → k' = .result ∨ z.2 = 0 →
      (held d.layout (afterTake (gathering σ token) k w A c (queued.map entryOf)).token k' z A' c'
          = .done
        ↔ held d.layout (gathering σ token).token k' z A' c' = .done) := by
    intro k' z A' c' hz hz'
    show held d.layout ((gathering σ token).setToken k w A c .done).token k' z A' c' = .done ↔ _
    rw [held_setToken_of_ne]
    rintro ⟨rfl, hzholder, -, -⟩
    by_cases hk : k' = .result
    · -- everybody takes its own results
      subst hk
      exact hz ((Option.some.inj hzholder).trans (Option.some.inj hholder).symm)
    · -- only the leader takes the rest
      have hbg : z.1 = y.1 := (holder_bg hzholder).symm.trans hhome
      exact hz (Prod.ext hbg ((hz'.resolve_left hk).trans (hy.resolve_left hk).symm))
  have hpending : ∀ k' w' (z : Peer) c',
      (afterTake (gathering σ token) k w A c (queued.map entryOf)).token k' w' z.1 c' = .pending z.2
        ↔ (gathering σ token).token k' w' z.1 c' = .pending z.2 := by
    intro k' w' z c'
    show ((gathering σ token).setToken k w A c .done).token k' w' z.1 c' = .pending z.2 ↔ _
    by_cases heq : k' = k ∧ w' = w ∧ z.1 = A ∧ c' = c
    · obtain ⟨rfl, rfl, hz, rfl⟩ := heq
      rw [hz, setToken_self]
      simp [gathering, htoken]
    · rw [setToken_of_ne heq]
  have hsub : ∀ b', Cluster.issued σ b' ⊆ Cluster.issued (install y before (.ok s) σ) b' := by
    rw [hissued]
    exact fun _ _ hp => hp
  have hsub' : Cluster.committed σ y ⊆ Cluster.committed (install y before (.ok s) σ) y := by
    rw [hcommitted]
    exact fun _ hp => hp
  have hsl := SlOk.taken hd (h.sl y)
  refine h.installed hd hstep (hgathering ▸ hinv) ?_ fun z hz => ?_
  · rw [hgathering]
    refine hsl.touched (c := c) ?_ hsub hsub'
    refine {
      entries := fun _ _ => Iff.rfl
      token := fun k' w' A' c' hc => setToken_of_ne (x := gathering σ token) fun heq =>
        hc heq.2.2.2
      status := hs.status
      status_self := hstatus.congr hsub hsub' (fun _ _ => Iff.rfl) fun _ _ _ => Iff.rfl
      pending := fun k' c' _ => by rw [Outcome.state_ok, hs.pending]
      pending_self := fun k' => ?_
      storage := hs.storage.trans hsl.storage
      closed := ?_
      events := fun ev hev => Or.inl (hs.history ▸ hev)
      proposals := fun p hp => ?_ }
    · rw [Outcome.state_ok, hs.pending]
      exact (hsl.pending k' c).congr fun w' => hpending k' w' y c
    · show closedOf s.history = s.pStorage
      rw [hs.history, hs.storage]
      exact hsl.closed
    · rw [Outcome.state_ok, hs.queue] at hp
      rcases List.mem_append.mp hp with hp | hp
      · exact Or.inl hp
      · exact Or.inr ((hqueued p hp).mono hsub)
  · rw [hgathering]
    exact ⟨rfl, fun k' hz' A' c' => hdone k' z A' c' hz hz', fun k' w' c' => hpending k' w' z c'⟩

end Take

end RCanopus.Hybrid
