import RCanopus.Exchange

/-!
# The moves of the exchange

The transitions of the abstract model, and that each of them keeps the invariant: the leader issues
an entry, an SL commits one, a request arrives, an answer is passed on to the leader and taken
there.
-/

namespace RCanopus

namespace Exchange

variable {L : Layout} {x : Exchange} {b A i j : Nat} {c : UInt16} {k : FetchKind} {y : Peer}
  {e e' : Entry} {q : List Entry}

/-! ## Issuing -/

/-- The leader issues an entry, and `q` is left in its queue. -/
def issue (x : Exchange) (b : Nat) (e : Entry) (q : List Entry) : Exchange :=
  { x with
    log := Function.update x.log b (x.log b ++ [e])
    queue := Function.update x.queue b q }

theorem issue_log (b' : Nat) :
    (x.issue b e q).log b' = if b' = b then x.log b ++ [e] else x.log b' := by
  simp [issue, Function.update_apply]

theorem issue_queue (b' : Nat) :
    (x.issue b e q).queue b' = if b' = b then q else x.queue b' := by
  simp [issue, Function.update_apply]

/-- The log of no BG loses an entry. -/
theorem issue_subset (b' : Nat) (he : e' ∈ x.log b') : e' ∈ (x.issue b e q).log b' := by
  rw [issue_log]
  split
  · next h =>
    subst h
    exact List.mem_append_left _ he
  · exact he

theorem Inv.issue (h : x.Inv L) (hnodup : (x.log b ++ [e] ++ q).Nodup)
    (hneeds : ∀ e', Needs L.numBG b e e' → e' ∈ x.log b) (hq : ∀ e' ∈ q, e' ∈ x.queue b)
    (hmem : ∀ e', (∀ c, e' ≠ .client c) →
      (e' ∈ x.log b ++ [e] ++ q ↔ e' ∈ x.log b ++ x.queue b)) :
    (x.issue b e q).Inv L := by
  have hall : ∀ b' e', (∀ c, e' ≠ .client c) →
      (e' ∈ (x.issue b e q).log b' ++ (x.issue b e q).queue b'
        ↔ e' ∈ x.log b' ++ x.queue b') := by
    intro b' e' he'
    rw [issue_log, issue_queue]
    split
    · next hb =>
      subst hb
      exact hmem e' he'
    · rfl
  refine { h with
    nodup := ?_
    grounded := ?_
    queued := ?_
    committed_log := ?_
    fetched := fun b' c A => (hall b' _ (by simp)).trans (h.fetched b' c A)
    localConnectivity := fun b' c => (hall b' _ (by simp)).trans (h.localConnectivity b' c)
    followed := fun k hk b' c =>
      (hall b' _ (k.follow_ne_client c)).trans (h.followed k hk b' c) }
  · intro b'
    rw [issue_log, issue_queue]
    split
    · exact hnodup
    · exact h.nodup b'
  · intro b'
    rw [issue_log]
    split
    · next hb =>
      subst hb
      exact (h.grounded b').concat hneeds
    · exact h.grounded b'
  · intro b' e' he'
    rw [issue_queue] at he'
    have hold : e' ∈ x.queue b' := by
      split at he'
      · next hb =>
        subst hb
        exact hq e' he'
      · exact he'
    obtain ⟨hclient, hn⟩ := h.queued b' e' hold
    exact ⟨hclient, fun e'' he'' => issue_subset b' (hn e'' he'')⟩
  · intro b' i hi
    rw [issue_log]
    split
    · next hb =>
      subst hb
      exact (h.committed_log b' i hi).trans (List.prefix_append _ _)
    · exact h.committed_log b' i hi

/-- An entry of the queue is issued. -/
theorem Inv.issue_queued (h : x.Inv L) (hq : (e :: q).Perm (x.queue b)) :
    (x.issue b e q).Inv L := by
  have hperm : (x.log b ++ [e] ++ q).Perm (x.log b ++ x.queue b) := by
    rw [List.append_assoc]
    exact hq.append_left _
  refine h.issue (hperm.nodup_iff.mpr (h.nodup b)) ?_ ?_ fun e' _ => hperm.mem_iff
  · exact (h.queued b e (hq.subset List.mem_cons_self)).2
  · exact fun e' he' => hq.subset (List.mem_cons_of_mem _ he')

/-- A client Preprepare of a new cycle is issued. -/
theorem Inv.issue_client (h : x.Inv L) (hc : .client c ∉ x.log b) :
    (x.issue b (.client c) (x.queue b)).Inv L := by
  have hperm : (x.log b ++ [Entry.client c] ++ x.queue b).Perm
      (Entry.client c :: (x.log b ++ x.queue b)) := by
    rw [List.append_assoc]
    exact List.perm_middle
  refine h.issue (hperm.nodup_iff.mpr (List.nodup_cons.mpr ⟨?_, h.nodup b⟩))
    ?_ (fun e' he' => he') ?_
  · intro he
    rcases List.mem_append.mp he with he | he
    · exact hc he
    · exact (h.queued b _ he).1 c rfl
  · exact fun e' hn => absurd rfl (hn.ne_client c)
  · intro e' he'
    rw [hperm.mem_iff, List.mem_cons]
    exact or_iff_right (he' c)

/-! ## Committing -/

/-- An SL commits an entry. -/
def commit (x : Exchange) (y : Peer) (e : Entry) : Exchange :=
  { x with committed := Function.update x.committed y (x.committed y ++ [e]) }

theorem commit_committed (z : Peer) :
    (x.commit y e).committed z = if z = y then x.committed y ++ [e] else x.committed z := by
  simp [commit, Function.update_apply]

theorem commit_subset (z : Peer) (he : e' ∈ x.committed z) :
    e' ∈ (x.commit y e).committed z := by
  rw [commit_committed]
  split
  · next h =>
    subst h
    exact List.mem_append_left _ he
  · exact he

theorem mem_commit_of_ne (z : Peer) (hne : e' ≠ e) :
    e' ∈ (x.commit y e).committed z ↔ e' ∈ x.committed z := by
  rw [commit_committed]
  split
  · next h =>
    subst h
    simp [hne]
  · rfl

section

variable (h : x.Inv L) (hx : x.Next L y e)

include h hx

theorem Inv.commit_committed_log :
    ∀ b, ∀ i < L.numSL b, (x.commit y e).committed (b, i) <+: x.log b := by
  intro b i hi
  rw [commit_committed]
  split
  · next hy =>
    subst hy
    exact hx.committed_log
  · exact h.committed_log b i hi

theorem Inv.commit_close : ∀ b, ∀ i < L.numSL b, ∀ j < L.numSL b,
    ((x.commit y e).committed (b, i)).length ≤ ((x.commit y e).committed (b, j)).length + 1 := by
  intro b i hi j hj
  have hclose := h.close b i hi j hj
  rw [commit_committed, commit_committed]
  split
  · next hy =>
    subst hy
    have hfirst : _ ≤ (x.committed (b, j)).length := hx.first j hj
    split
    · omega
    · simp only [List.length_append, List.length_singleton]
      omega
  · split
    · simp only [List.length_append, List.length_singleton]
      next hy =>
        rw [hy] at hclose
        omega
    · exact hclose

end

/-- The leader queues an entry. -/
def push (x : Exchange) (b : Nat) (e : Entry) : Exchange :=
  { x with queue := Function.update x.queue b (x.queue b ++ [e]) }

theorem push_queue (b' : Nat) :
    (x.push b e).queue b' = if b' = b then x.queue b ++ [e] else x.queue b' := by
  simp [push, Function.update_apply]

theorem mem_push (b' : Nat) : e' ∈ (x.push b e).log b' ++ (x.push b e).queue b'
    ↔ e' ∈ x.log b' ++ x.queue b' ∨ b' = b ∧ e' = e := by
  rw [push_queue]
  show e' ∈ x.log b' ++ _ ↔ _
  split
  · next h =>
    subst h
    simp [or_assoc]
  · next h => simp [h]

/-! ## Moving one token -/

/-- The tokens with one of them somewhere else. -/
def moveToken (token : FetchKind → Nat → Nat → UInt16 → Token) (k : FetchKind) (b A : Nat)
    (c : UInt16) (t : Token) (k' : FetchKind) (b' A' : Nat) (c' : UInt16) : Token :=
  if k' = k ∧ b' = b ∧ A' = A ∧ c' = c then t else token k' b' A' c'

def setToken (x : Exchange) (k : FetchKind) (b A : Nat) (c : UInt16) (t : Token) : Exchange :=
  { x with token := moveToken x.token k b A c t }

variable {k' : FetchKind} {b' A' : Nat} {c' : UInt16} {t : Token}

@[simp] theorem setToken_self : (x.setToken k b A c t).token k b A c = t := by
  simp [setToken, moveToken]

theorem setToken_of_ne (hne : ¬ (k' = k ∧ b' = b ∧ A' = A ∧ c' = c)) :
    (x.setToken k b A c t).token k' b' A' c' = x.token k' b' A' c' := if_neg hne

theorem setToken_of_kind (hne : k' ≠ k) :
    (x.setToken k b A c t).token k' b' A' c' = x.token k' b' A' c' :=
  setToken_of_ne fun h => hne h.1

/-- A token that was sent moves on. -/
theorem Tokens.set (h : Tokens L x.committed x.token) (hidle : x.token k b A c ≠ .idle)
    (ht : t ≠ .idle) (hasked : ∀ j, t ≠ .asked j)
    (hpending : ∀ j, t = .pending j → j < L.numSL A ∧ k.trigger c ∉ x.committed (A, j))
    (hserved : (∃ i, t = .answered i) ∨ t = .done →
      ∃ j < L.numSL A, k.trigger c ∈ x.committed (A, j))
    (hanswered : ∀ i, t = .answered i → i < L.numSL b) :
    Tokens L x.committed (x.setToken k b A c t).token := by
  refine ⟨fun k' b' A' c' => ?_, fun k' b' A' c' j hj => ?_, fun k' b' A' c' hs => ?_,
    fun k' b' A' c' i hi => ?_, fun k' b' A' c' j hj => ?_⟩
  all_goals by_cases heq : k' = k ∧ b' = b ∧ A' = A ∧ c' = c
  · obtain ⟨rfl, rfl, rfl, rfl⟩ := heq
    rw [setToken_self, ← h.asked]
    exact ⟨fun _ => hidle, fun _ => ht⟩
  · rw [setToken_of_ne heq]
    exact h.asked k' b' A' c'
  · obtain ⟨rfl, rfl, rfl, rfl⟩ := heq
    rw [setToken_self] at hj
    exact hpending j hj
  · rw [setToken_of_ne heq] at hj
    exact h.pending k' b' A' c' j hj
  · obtain ⟨rfl, rfl, rfl, rfl⟩ := heq
    rw [setToken_self] at hs
    exact hserved hs
  · rw [setToken_of_ne heq] at hs
    exact h.served k' b' A' c' hs
  · obtain ⟨rfl, rfl, rfl, rfl⟩ := heq
    rw [setToken_self] at hi
    exact hanswered i hi
  · rw [setToken_of_ne heq] at hi
    exact h.answered_lt k' b' A' c' i hi
  · obtain ⟨rfl, rfl, rfl, rfl⟩ := heq
    rw [setToken_self] at hj
    exact absurd hj (hasked j)
  · rw [setToken_of_ne heq] at hj
    exact h.asked_lt k' b' A' c' j hj

/-- A token that is not done and does not become done changes no queue. -/
theorem setToken_done (hold : x.token k b A c ≠ .done) (hnew : t ≠ .done) :
    (x.setToken k b A c t).token k' b' A' c' = .done ↔ x.token k' b' A' c' = .done := by
  by_cases heq : k' = k ∧ b' = b ∧ A' = A ∧ c' = c
  · obtain ⟨rfl, rfl, rfl, rfl⟩ := heq
    rw [setToken_self]
    exact ⟨fun h => absurd h hnew, fun h => absurd h hold⟩
  · rw [setToken_of_ne heq]

theorem Inv.setToken (h : x.Inv L) (htokens : Tokens L x.committed (x.setToken k b A c t).token)
    (hold : x.token k b A c ≠ .done) (hnew : t ≠ .done) : (x.setToken k b A c t).Inv L :=
  { h with
    toTokens := htokens
    fetched := fun b' c' A' => (h.fetched b' c' A').trans (setToken_done hold hnew).symm
    followed := fun k' hk' b' c' => (h.followed k' hk' b' c').trans
      (Layout.AllOthers.congr fun _ => (setToken_done hold hnew).symm)
    taken := fun k' hk' b' A' c' hdone => h.taken k' hk' b' A' c'
      ((setToken_done hold hnew).mp hdone) }

/-- A request waits at an SL whose answer is not ready. -/
theorem Inv.hold (h : x.Inv L) (htoken : x.token k b A c = .asked j) (hj : j < L.numSL A)
    (hready : k.trigger c ∉ x.committed (A, j)) : (x.setToken k b A c (.pending j)).Inv L := by
  refine h.setToken (h.toTokens.set (by simp [htoken]) (by simp) (by simp) ?_ (by simp) (by simp))
    (by simp [htoken]) (by simp)
  rintro j' hj'
  cases hj'
  exact ⟨hj, hready⟩

/-- A request is answered by an SL whose answer is ready. -/
theorem Inv.answer (h : x.Inv L) (htoken : x.token k b A c = .asked j) (hj : j < L.numSL A)
    (hready : k.trigger c ∈ x.committed (A, j)) (hi : i < L.numSL b) :
    (x.setToken k b A c (.answered i)).Inv L := by
  refine h.setToken (h.toTokens.set (by simp [htoken]) (by simp) (by simp) (by simp) ?_ ?_)
    (by simp [htoken]) (by simp)
  · exact fun _ => ⟨j, hj, hready⟩
  · rintro i' hi'
    cases hi'
    exact hi

/-- An answer is passed on to another SL of the BG. -/
theorem Inv.forward (h : x.Inv L) (htoken : x.token k b A c = .answered j) (hi : i < L.numSL b) :
    (x.setToken k b A c (.answered i)).Inv L := by
  refine h.setToken (h.toTokens.set (by simp [htoken]) (by simp) (by simp) (by simp) ?_ ?_)
    (by simp [htoken]) (by simp)
  · exact fun _ => h.served k b A c (Or.inl ⟨j, htoken⟩)
  · rintro i' hi'
    cases hi'
    exact hi

/-! ## Taking an answer -/

theorem push_nodup (hnodup : ∀ b, (x.log b ++ x.queue b).Nodup)
    (he : e ∉ x.log b ++ x.queue b) (b' : Nat) :
    ((x.push b e).log b' ++ (x.push b e).queue b').Nodup := by
  rw [push_queue]
  split
  · next hb =>
    subst hb
    rw [← List.append_assoc]
    have hsingle : [e].Nodup := List.nodup_cons.mpr ⟨List.not_mem_nil, List.nodup_nil⟩
    refine List.nodup_append.mpr ⟨hnodup b', hsingle, ?_⟩
    rintro e₁ he₁ e₂ he₂ rfl
    rw [List.mem_singleton] at he₂
    exact he (he₂ ▸ he₁)
  · exact hnodup b'

theorem push_queued (hqueued : ∀ b, ∀ e ∈ x.queue b,
      (∀ c, e ≠ .client c) ∧ ∀ e', Needs L.numBG b e e' → e' ∈ x.log b)
    (hclient : ∀ c, e ≠ .client c) (hneeds : ∀ e', Needs L.numBG b e e' → e' ∈ x.log b) :
    ∀ b', ∀ e' ∈ (x.push b e).queue b',
      (∀ c, e' ≠ .client c) ∧ ∀ e'', Needs L.numBG b' e' e'' → e'' ∈ x.log b' := by
  intro b' e' he'
  rw [push_queue] at he'
  split at he'
  · next hb =>
    subst hb
    rcases List.mem_append.mp he' with he' | he'
    · exact hqueued b' e' he'
    · rw [List.mem_singleton] at he'
      subst he'
      exact ⟨hclient, hneeds⟩
  · exact hqueued b' e' he'

/-- The tokens of one cycle are done now or were done before. -/
theorem setToken_done_iff : (x.setToken k b A c .done).token k b A' c = .done
    ↔ A' = A ∨ x.token k b A' c = .done := by
  by_cases hA : A' = A
  · subst hA
    simp
  · rw [setToken_of_ne fun hc => hA hc.2.2.1]
    simp [hA]

theorem Inv.tokens_done (h : x.Inv L) (htoken : x.token k b A c = .answered i) :
    Tokens L x.committed (x.setToken k b A c .done).token := by
  refine h.toTokens.set (by simp [htoken]) (by simp) (by simp) (by simp) ?_ (by simp)
  exact fun _ => h.served k b A c (Or.inl ⟨i, htoken⟩)

/-- The BG of a token that was sent has committed what made it send the request. -/
theorem Inv.trigger_of_token (h : x.Inv L) (hidle : x.token k b A c ≠ .idle) :
    k.trigger c ∈ x.log b := by
  obtain ⟨-, -, -, i, hi, -, hmem⟩ := (h.asked k b A c).mp hidle
  exact h.mem_log hi hmem

/-- The leader takes a result and queues it. -/
theorem Inv.receive_result (h : x.Inv L) (htoken : x.token .result b A c = .answered i) :
    ((x.setToken .result b A c .done).push b (.fetched c A)).Inv L := by
  have hnew : .fetched c A ∉ x.log b ++ x.queue b := by
    rw [h.fetched, htoken]
    simp
  have hneeds : ∀ e', Needs L.numBG b (.fetched c A) e' → e' ∈ x.log b := by
    intro e' hn
    cases hn
    have hidle : x.token .result b A c ≠ .idle := by simp [htoken]
    exact h.trigger_of_token hidle
  refine { h with
    toTokens := h.tokens_done htoken
    nodup := push_nodup (x := x.setToken .result b A c .done) h.nodup hnew
    queued := push_queued (x := x.setToken .result b A c .done) h.queued (by simp) hneeds
    fetched := ?_
    localConnectivity := ?_
    followed := ?_
    taken := ?_ }
  · intro b' c' A'
    rw [mem_push]
    show _ ↔ (x.setToken .result b A c .done).token .result b' A' c' = .done
    by_cases heq : b' = b ∧ A' = A ∧ c' = c
    · obtain ⟨rfl, rfl, rfl⟩ := heq
      simp
    · rw [setToken_of_ne fun hc => heq hc.2, ← h.fetched]
      refine or_iff_left fun hc => heq ⟨hc.1, ?_⟩
      have := hc.2
      simp only [Entry.fetched.injEq] at this
      exact ⟨this.2, this.1⟩
  · intro b' c'
    rw [mem_push, or_iff_left (by simp)]
    exact h.localConnectivity b' c'
  · intro k hk b' c'
    rw [mem_push, or_iff_left fun hc => k.follow_ne_fetched c' c A hc.2]
    refine (h.followed k hk b' c').trans (Layout.AllOthers.congr fun A' => ?_)
    show _ ↔ (x.setToken .result b A c .done).token k b' A' c' = .done
    rw [setToken_of_kind hk]
  · intro k hk b' A' c' hdone
    have hdone : (x.setToken .result b A c .done).token k b' A' c' = .done := hdone
    rw [setToken_of_kind hk] at hdone
    exact h.taken k hk b' A' c' hdone

/-- What triggered a token of the two later kinds is committed by the leader when it is done. -/
theorem Inv.taken_done (h : x.Inv L) (htaken : k.trigger c ∈ x.committed (b, 0))
    (hk' : k' ≠ .result) (hdone : (x.setToken k b A c .done).token k' b' A' c' = .done) :
    k'.trigger c' ∈ x.committed (b', 0) := by
  by_cases heq : k' = k ∧ b' = b ∧ A' = A ∧ c' = c
  · obtain ⟨rfl, rfl, rfl, rfl⟩ := heq
    exact htaken
  · rw [setToken_of_ne heq] at hdone
    exact h.taken k' hk' b' A' c' hdone

/-- The leader takes an answer of the two later kinds, and others are missing. -/
theorem Inv.receive (h : x.Inv L) (hk : k ≠ .result) (htoken : x.token k b A c = .answered i)
    (htaken : k.trigger c ∈ x.committed (b, 0))
    (hmore : ¬ L.AllOthers b fun A' => (x.setToken k b A c .done).token k b A' c = .done) :
    (x.setToken k b A c .done).Inv L := by
  refine { h with
    toTokens := h.tokens_done htoken
    fetched := ?_
    followed := ?_
    taken := fun k' hk' b' A' c' hdone => h.taken_done htaken hk' hdone }
  · intro b' c' A'
    rw [setToken_of_kind (Ne.symm hk)]
    exact h.fetched b' c' A'
  · intro k' hk' b' c'
    refine (h.followed k' hk' b' c').trans ?_
    by_cases heq : k' = k ∧ b' = b ∧ c' = c
    · obtain ⟨rfl, rfl, rfl⟩ := heq
      refine iff_of_false (fun hall => hmore (hall.imp fun A' hA' => ?_)) hmore
      rw [setToken_done_iff]
      exact Or.inr hA'
    · refine Layout.AllOthers.congr fun A' => ?_
      rw [setToken_of_ne fun hc => heq ⟨hc.1, hc.2.1, hc.2.2.2⟩]

/-- The leader takes the last answer of the two later kinds and queues what follows. -/
theorem Inv.receive_last (h : x.Inv L) (hk : k ≠ .result)
    (htoken : x.token k b A c = .answered i) (htaken : k.trigger c ∈ x.committed (b, 0))
    (hlast : L.AllOthers b fun A' => (x.setToken k b A c .done).token k b A' c = .done) :
    ((x.setToken k b A c .done).push b (k.follow c)).Inv L := by
  have hidle : x.token k b A c ≠ .idle := by simp [htoken]
  have hnew : k.follow c ∉ x.log b ++ x.queue b := by
    rw [h.followed k hk]
    intro hall
    obtain ⟨-, hA, hne, -⟩ := (h.asked k b A c).mp hidle
    simp [hall.2 A hA hne] at htoken
  refine { h with
    toTokens := h.tokens_done htoken
    nodup := push_nodup (x := x.setToken k b A c .done) h.nodup hnew
    queued := push_queued (x := x.setToken k b A c .done) h.queued (k.follow_ne_client c) ?_
    fetched := ?_
    localConnectivity := ?_
    followed := ?_
    taken := fun k' hk' b' A' c' hdone => h.taken_done htaken hk' hdone }
  · intro e' hn
    rw [hn.of_follow hk]
    exact h.trigger_of_token hidle
  · intro b' c' A'
    rw [mem_push, or_iff_left fun hc => k.follow_ne_fetched c c' A' hc.2.symm]
    show _ ↔ (x.setToken k b A c .done).token .result b' A' c' = .done
    rw [setToken_of_kind (Ne.symm hk)]
    exact h.fetched b' c' A'
  · intro b' c'
    rw [mem_push, or_iff_left]
    · exact h.localConnectivity b' c'
    · rintro ⟨-, hc⟩
      have : FetchKind.result.follow c' = k.follow c := hc
      exact hk (FetchKind.follow_inj this).1.symm
  · intro k' hk' b' c'
    rw [mem_push]
    show k'.follow c' ∈ x.log b' ++ x.queue b' ∨ _
      ↔ L.AllOthers b' fun A' => (x.setToken k b A c .done).token k' b' A' c' = .done
    by_cases heq : k' = k ∧ b' = b ∧ c' = c
    · obtain ⟨rfl, rfl, rfl⟩ := heq
      exact iff_of_true (Or.inr ⟨rfl, rfl⟩) hlast
    · rw [or_iff_left, h.followed k' hk']
      · refine Layout.AllOthers.congr fun A' => ?_
        rw [setToken_of_ne fun hc => heq ⟨hc.1, hc.2.1, hc.2.2.2⟩]
      · rintro ⟨hb, hc⟩
        obtain ⟨hk'', hc'⟩ := FetchKind.follow_inj hc
        exact heq ⟨hk'', hb, hc'⟩

/-! ## Committing news -/

/-- An entry that triggers nothing moves no token. -/
theorem Tokens.commit (h : Tokens L x.committed x.token)
    (he : ∀ (k : FetchKind) c, k.trigger c ≠ e) :
    Tokens L (x.commit y e).committed x.token := by
  have hmem : ∀ (k : FetchKind) c z, k.trigger c ∈ (x.commit y e).committed z
      ↔ k.trigger c ∈ x.committed z := fun k c z => mem_commit_of_ne z (he k c)
  refine ⟨?_, ?_, ?_, h.answered_lt, h.asked_lt⟩
  · intro k b A c
    simp only [hmem]
    exact h.asked k b A c
  · intro k b A c j hj
    rw [hmem]
    exact h.pending k b A c j hj
  · intro k b A c hs
    simp only [hmem]
    exact h.served k b A c hs

/-- An SL commits the last entry of a cycle. -/
theorem Inv.commit_fullMembership (h : x.Inv L) (hx : x.Next L y (.fullMembership c)) :
    (x.commit y (.fullMembership c)).Inv L := by
  refine { h with
    toTokens := h.toTokens.commit fun k c' => k.trigger_ne_fullMembership c' c
    committed_log := h.commit_committed_log hx
    close := h.commit_close hx
    localConnectivity := ?_
    taken := fun k' hk' b' A' c' hdone => commit_subset _ (h.taken k' hk' b' A' c' hdone) }
  intro b' c'
  refine (h.localConnectivity b' c').trans (Layout.AllOthers.congr fun A => ?_)
  exact (mem_commit_of_ne _ (by simp)).symm

/-- The SL of a commit is not the leader that decides about a cycle. -/
theorem mem_commit_leader (hne : ¬ (y = (b, 0) ∧ c' = c)) :
    .fetched c' A' ∈ (x.commit y (.fetched c A)).committed (b, 0)
      ↔ .fetched c' A' ∈ x.committed (b, 0) := by
  by_cases hy : (b, 0) = y
  · refine mem_commit_of_ne _ fun heq => hne ⟨hy.symm, ?_⟩
    exact (Entry.fetched.inj heq).1
  · rw [commit_committed, if_neg hy]

/-- An SL commits a fetched result, and others are missing or it is not the leader. -/
theorem Inv.commit_fetched (h : x.Inv L) (hx : x.Next L y (.fetched c A))
    (hmore : y.2 = 0 → ¬ L.AllOthers y.1 fun A' =>
      .fetched c A' ∈ (x.commit y (.fetched c A)).committed y) :
    (x.commit y (.fetched c A)).Inv L := by
  refine { h with
    toTokens := h.toTokens.commit fun k c' => k.trigger_ne_fetched c' c A
    committed_log := h.commit_committed_log hx
    close := h.commit_close hx
    localConnectivity := ?_
    taken := fun k' hk' b' A' c' hdone => commit_subset _ (h.taken k' hk' b' A' c' hdone) }
  intro b' c'
  refine (h.localConnectivity b' c').trans ?_
  by_cases heq : y = (b', 0) ∧ c' = c
  · obtain ⟨rfl, rfl⟩ := heq
    refine iff_of_false (fun hall => hmore rfl (hall.imp fun A' hA' => ?_)) (hmore rfl)
    exact commit_subset _ hA'
  · exact Layout.AllOthers.congr fun A' => (mem_commit_leader heq).symm

/-- The leader commits the last fetched result of a cycle. -/
theorem Inv.commit_fetched_last (h : x.Inv L) (hx : x.Next L (b, 0) (.fetched c A))
    (hlast : L.AllOthers b fun A' =>
      .fetched c A' ∈ (x.commit (b, 0) (.fetched c A)).committed (b, 0)) :
    ((x.commit (b, 0) (.fetched c A)).push b (.localConnectivity c)).Inv L := by
  have hnew : .localConnectivity c ∉ x.log b ++ x.queue b := by
    rw [h.localConnectivity]
    intro hall
    have hdone := (h.fetched b c A).mp (List.mem_append_left _ hx.mem_log)
    obtain ⟨-, hA, hne, -⟩ := (h.asked .result b A c).mp (by simp [hdone])
    exact h.next_notMem hx (hall.2 A hA hne)
  have hpush : ∀ b' e', (∀ c, e' ≠ .localConnectivity c) →
      (e' ∈ ((x.commit (b, 0) (.fetched c A)).push b (.localConnectivity c)).log b'
          ++ ((x.commit (b, 0) (.fetched c A)).push b (.localConnectivity c)).queue b'
        ↔ e' ∈ x.log b' ++ x.queue b') := by
    intro b' e' he'
    rw [mem_push, or_iff_left fun hc => he' c hc.2]
    rfl
  refine { h with
    toTokens := h.toTokens.commit fun k c' => k.trigger_ne_fetched c' c A
    committed_log := h.commit_committed_log hx
    close := h.commit_close hx
    nodup := push_nodup (x := x.commit (b, 0) (.fetched c A)) h.nodup hnew
    queued := push_queued (x := x.commit (b, 0) (.fetched c A)) h.queued (by simp) ?_
    fetched := fun b' c' A' => (hpush b' _ (by simp)).trans (h.fetched b' c' A')
    localConnectivity := ?_
    followed := ?_
    taken := fun k' hk' b' A' c' hdone => commit_subset _ (h.taken k' hk' b' A' c' hdone) }
  · intro e' hn
    have hlog : ∀ e'', e'' ∈ (x.commit (b, 0) (.fetched c A)).committed (b, 0) → e'' ∈ x.log b :=
      fun e'' he'' => (h.commit_committed_log hx b 0 hx.lt).subset he''
    cases hn with
    | localConnectivity => exact hlog _ (commit_subset _ (h.next_needs hx (.fetched c A)))
    | results c A' hA' hne => exact hlog _ (hlast.2 A' hA' hne)
  · intro b' c'
    rw [mem_push]
    show .localConnectivity c' ∈ x.log b' ++ x.queue b' ∨ _ ↔ L.AllOthers b' fun A' =>
      .fetched c' A' ∈ (x.commit (b, 0) (.fetched c A)).committed (b', 0)
    by_cases heq : (b, 0) = (b', 0) ∧ c' = c
    · obtain ⟨hb, rfl⟩ := heq
      obtain rfl : b = b' := congrArg Prod.fst hb
      exact iff_of_true (Or.inr ⟨rfl, rfl⟩) hlast
    · rw [or_iff_left, h.localConnectivity]
      · exact Layout.AllOthers.congr fun A' => (mem_commit_leader heq).symm
      · rintro ⟨rfl, hc⟩
        exact heq ⟨rfl, Entry.localConnectivity.inj hc⟩
  · intro k hk b' c'
    refine (hpush b' _ fun c'' hc => ?_).trans (h.followed k hk b' c')
    have : k.follow c' = FetchKind.result.follow c'' := hc
    exact hk (FetchKind.follow_inj this).1

/-! ## Committing what triggers a request -/

/--
The tokens after SL `y` has committed the trigger of a kind for a cycle: it answers what waits for
it, and if it is the envoy it asks SL `draw A` of each other BG `A`.
-/
def triggerToken (L : Layout) (x : Exchange) (y : Peer) (k : FetchKind) (c : UInt16)
    (draw : Nat → Nat) (k' : FetchKind) (b A : Nat) (c' : UInt16) : Token :=
  if k' = k ∧ c' = c then
    if b < L.numBG ∧ A < L.numBG ∧ A ≠ b ∧ b = y.1 ∧ L.envoy b c = some y.2 then .asked (draw A)
    else if A = y.1 ∧ x.token k b A c = .pending y.2 then .answered ((L.envoy b c).getD 0)
    else x.token k b A c
  else x.token k' b A c'

def trigger (L : Layout) (x : Exchange) (y : Peer) (k : FetchKind) (c : UInt16)
    (draw : Nat → Nat) : Exchange :=
  { x.commit y (k.trigger c) with token := x.triggerToken L y k c draw }

section Trigger

variable {draw : Nat → Nat} (h : x.Inv L) (hx : x.Next L y (k.trigger c))

theorem triggerToken_of_ne (hne : ¬ (k' = k ∧ c' = c)) :
    x.triggerToken L y k c draw k' b A c' = x.token k' b A c' := if_neg hne

/-- The cases of a token of the kind and the cycle. -/
theorem triggerToken_cases (draw : Nat → Nat) : (b < L.numBG ∧ A < L.numBG ∧ A ≠ b ∧ b = y.1
      ∧ L.envoy b c = some y.2 ∧ x.triggerToken L y k c draw k b A c = .asked (draw A))
    ∨ (A = y.1 ∧ x.token k b A c = .pending y.2
      ∧ x.triggerToken L y k c draw k b A c = .answered ((L.envoy b c).getD 0))
    ∨ (¬ (b < L.numBG ∧ A < L.numBG ∧ A ≠ b ∧ b = y.1 ∧ L.envoy b c = some y.2)
      ∧ ¬ (A = y.1 ∧ x.token k b A c = .pending y.2)
      ∧ x.triggerToken L y k c draw k b A c = x.token k b A c) := by
  unfold triggerToken
  rw [if_pos ⟨rfl, rfl⟩]
  split
  · next hc => exact Or.inl ⟨hc.1, hc.2.1, hc.2.2.1, hc.2.2.2.1, hc.2.2.2.2, rfl⟩
  · next hc =>
    split
    · next hp => exact Or.inr (Or.inl ⟨hp.1, hp.2, rfl⟩)
    · next hp => exact Or.inr (Or.inr ⟨hc, hp, rfl⟩)

include h hx

/-- The envoy has not asked before. -/
theorem Inv.idle_of_next (hb : b = y.1) (henvoy : L.envoy b c = some y.2) :
    x.token k b A c = .idle := by
  subst hb
  by_contra hidle
  obtain ⟨-, -, -, i, -, hi, hmem⟩ := (h.asked k y.1 A c).mp hidle
  obtain rfl : y.2 = i := Option.some.inj (henvoy.symm.trans hi)
  exact h.next_notMem hx hmem

theorem Inv.triggerToken_done :
    x.triggerToken L y k c draw k' b A c' = .done ↔ x.token k' b A c' = .done := by
  by_cases heq : k' = k ∧ c' = c
  · obtain ⟨rfl, rfl⟩ := heq
    rcases triggerToken_cases draw (L := L) (x := x) (y := y) (k := k') (c := c')
      (b := b) (A := A) with ⟨-, -, -, hb, henvoy, htok⟩ | ⟨-, hp, htok⟩ | ⟨-, -, htok⟩
    · rw [htok, h.idle_of_next hx hb henvoy]
      simp
    · rw [htok, hp]
      simp
    · rw [htok]
  · rw [triggerToken_of_ne heq]

theorem Inv.tokens_trigger (hdraw : ∀ A, 0 < L.numSL A → draw A < L.numSL A) :
    Tokens L (x.commit y (k.trigger c)).committed (x.triggerToken L y k c draw) := by
  have hother : ∀ {k' : FetchKind} {c'} z, ¬ (k' = k ∧ c' = c) →
      (k'.trigger c' ∈ (x.commit y (k.trigger c)).committed z
        ↔ k'.trigger c' ∈ x.committed z) :=
    fun z hne => mem_commit_of_ne z fun heq => hne (FetchKind.trigger_inj heq)
  have hself : k.trigger c ∈ (x.commit y (k.trigger c)).committed y := by
    rw [commit_committed, if_pos rfl]
    simp
  refine ⟨fun k' b A c' => ?_, fun k' b A c' j hj => ?_, fun k' b A c' hs => ?_,
    fun k' b A c' i hi => ?_, fun k' b A c' j hj hn => ?_⟩
  all_goals by_cases heq : k' = k ∧ c' = c
  · obtain ⟨rfl, rfl⟩ := heq
    rcases triggerToken_cases draw (L := L) (x := x) (y := y) (k := k') (c := c')
      (b := b) (A := A) with ⟨hb, hA, hne, rfl, henvoy, htok⟩ | ⟨hA, hp, htok⟩ | ⟨hn, -, htok⟩
    · rw [htok]
      exact iff_of_true (by simp) ⟨hb, hA, hne, y.2, hx.lt, henvoy, hself⟩
    · rw [htok]
      obtain ⟨hb, hA', hne, i, hi, henvoy, hmem⟩ := (h.asked k' b A c').mp (by simp [hp])
      exact iff_of_true (by simp) ⟨hb, hA', hne, i, hi, henvoy, commit_subset _ hmem⟩
    · rw [htok, h.asked]
      refine and_congr_right fun hb => and_congr_right fun hA => and_congr_right fun hne => ?_
      refine exists_congr fun i => and_congr_right fun hi => and_congr_right fun henvoy => ?_
      rw [commit_committed, if_neg]
      rintro rfl
      exact hn ⟨hb, hA, hne, rfl, henvoy⟩
  · rw [triggerToken_of_ne heq, h.asked]
    simp only [hother _ heq]
  · obtain ⟨rfl, rfl⟩ := heq
    rcases triggerToken_cases draw (L := L) (x := x) (y := y) (k := k') (c := c')
      (b := b) (A := A) with ⟨-, -, -, -, -, htok⟩ | ⟨-, -, htok⟩ | ⟨-, hn, htok⟩
    · simp [htok] at hj
    · simp [htok] at hj
    · rw [htok] at hj
      obtain ⟨hlt, hmem⟩ := h.pending _ _ _ _ _ hj
      refine ⟨hlt, ?_⟩
      rw [commit_committed, if_neg]
      · exact hmem
      · rintro rfl
        exact hn ⟨rfl, hj⟩
  · rw [triggerToken_of_ne heq] at hj
    rw [hother _ heq]
    exact h.pending _ _ _ _ _ hj
  · obtain ⟨rfl, rfl⟩ := heq
    rcases triggerToken_cases draw (L := L) (x := x) (y := y) (k := k') (c := c')
      (b := b) (A := A) with ⟨-, -, -, -, -, htok⟩ | ⟨hA, hp, htok⟩ | ⟨-, -, htok⟩
    · simp [htok] at hs
    · subst hA
      exact ⟨y.2, hx.lt, hself⟩
    · rw [htok] at hs
      obtain ⟨j, hj, hmem⟩ := h.served _ _ _ _ hs
      exact ⟨j, hj, commit_subset _ hmem⟩
  · rw [triggerToken_of_ne heq] at hs
    simp only [hother _ heq]
    exact h.served _ _ _ _ hs
  · obtain ⟨rfl, rfl⟩ := heq
    rcases triggerToken_cases draw (L := L) (x := x) (y := y) (k := k') (c := c')
      (b := b) (A := A) with ⟨-, -, -, -, -, htok⟩ | ⟨-, hp, htok⟩ | ⟨-, -, htok⟩
    · simp [htok] at hi
    · obtain ⟨-, -, -, i', hi', henvoy, -⟩ := (h.asked k' b A c').mp (by simp [hp])
      rw [htok, henvoy] at hi
      obtain rfl : i' = i := by simpa using hi
      exact hi'
    · rw [htok] at hi
      exact h.answered_lt _ _ _ _ _ hi
  · rw [triggerToken_of_ne heq] at hi
    exact h.answered_lt _ _ _ _ _ hi
  · obtain ⟨rfl, rfl⟩ := heq
    rcases triggerToken_cases draw (L := L) (x := x) (y := y) (k := k') (c := c')
      (b := b) (A := A) with ⟨-, -, -, -, -, htok⟩ | ⟨-, -, htok⟩ | ⟨-, -, htok⟩
    · rw [htok] at hj
      obtain rfl : draw A = j := by simpa using hj
      exact hdraw A hn
    · simp [htok] at hj
    · rw [htok] at hj
      exact h.asked_lt _ _ _ _ _ hj hn
  · rw [triggerToken_of_ne heq] at hj
    exact h.asked_lt _ _ _ _ _ hj hn

/-- An SL commits an entry that triggers requests and answers. -/
theorem Inv.trigger (hdraw : ∀ A, 0 < L.numSL A → draw A < L.numSL A) :
    (x.trigger L y k c draw).Inv L := by
  refine { h with
    toTokens := h.tokens_trigger hx hdraw
    committed_log := h.commit_committed_log hx
    close := h.commit_close hx
    fetched := fun b c' A => (h.fetched b c' A).trans (h.triggerToken_done hx).symm
    localConnectivity := ?_
    followed := fun k' hk' b c' => (h.followed k' hk' b c').trans
      (Layout.AllOthers.congr fun A => (h.triggerToken_done hx).symm)
    taken := fun k' hk' b A c' hdone => commit_subset _
      (h.taken k' hk' b A c' ((h.triggerToken_done hx).mp hdone)) }
  intro b c'
  refine (h.localConnectivity b c').trans (Layout.AllOthers.congr fun A => ?_)
  exact (mem_commit_of_ne _ (k.trigger_ne_fetched c c' A).symm).symm

end Trigger

end Exchange

end RCanopus
